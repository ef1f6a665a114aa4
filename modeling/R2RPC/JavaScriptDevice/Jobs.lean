import R2RPC.Library.JavaScript
import R2RPC.Library.Machine
import R2RPC.Library.NumberArithmetic

/-!
# The jobs of the JavaScript device

{lit}`handleJob`, {lit}`executeWithTimeout` and {lit}`sendResult`: any number of jobs at a
time, each with its timer, its handler and the continuation that sends its result.

Main results:

- Definition {lit}`machine`: the jobs under every order of timers, settlements and
  continuations.
- Theorem {lit}`State.answer_spec`: a continuation sends one result that names its job.
- Theorem {lit}`one_result_per_job`: what is sent on an open socket.

Current gaps:

- Getters, proxies and objects that convert themselves are values that cannot be serialised
  or texts; what a handler throws is an error or a primitive value.
-/

namespace R2RPC
namespace JavaScriptDevice
namespace Jobs

open Utf16 Binary JavaScript Interleaving

/-! ## Jobs and results -/

/-- {lit}`RpcJob`, as {lit}`isRpcJob` has checked it. -/
structure RpcJob where
  requestId : JsString
  project : JsString
  action : JsString
  payload : Value
  timeoutSeconds : JsNumber
  deadlineAt : Option JsNumber

/-- A property of what a handler has returned: a value, or something on which
`JSON.stringify` throws. -/
inductive HostValue where
  | value (value : Value)
  | unserialisable

/-- `value ?? other`. -/
def HostValue.orElse : HostValue → HostValue → HostValue
  | .value .undefined, other => other
  | .value .null, other => other
  | kept, _ => kept

/-- `value === false`. -/
def HostValue.isFalse : HostValue → Bool
  | .value (.boolean isOk) => !isOk
  | _ => false

/-- {lit}`DeviceActionResult`; an absent property is undefined. -/
structure DeviceActionResult where
  payload : HostValue
  status : HostValue
  isOk : HostValue
  httpCode : HostValue
  error : HostValue
  appAudit : HostValue

/-- How the promise of a handler settles: with a result, with nothing that has properties,
or with an error whose text is known. -/
inductive Settlement where
  | fulfilled (result : Option DeviceActionResult)
  | rejected (message : JsString)

/-- What calling a handler does at once. -/
inductive Call where
  | returns
  | throws (message : JsString)

/-- A result that the device makes itself. -/
def failure (status : String) (httpCode : Nat) (error : JsString) : DeviceActionResult where
  payload := .value .undefined
  status := .value (.string (lit status))
  isOk := .value (.boolean false)
  httpCode := .value (.number (ofInteger binary64 httpCode))
  error := .value (.string error)
  appAudit := .value .undefined

/-- The message of a result frame. -/
structure ResultMessage where
  requestId : JsString
  clientId : JsString
  status : HostValue
  isOk : HostValue
  httpCode : HostValue
  payload : HostValue
  error : HostValue
  appAudit : HostValue

/-- A field of a message, if it can be serialised. -/
def HostValue.field (key : String) : HostValue → Option (JsString × Value)
  | .value content => some (lit key, content)
  | .unserialisable => none

/-- A field that is left out when it is undefined. -/
def HostValue.optionalField (key : String) : HostValue → Option Fields
  | .value .undefined => some []
  | other => (other.field key).map fun field => [field]

/-- The object that `JSON.stringify` gets; nothing if it would throw. -/
def ResultMessage.toValue (message : ResultMessage) : Option Value := do
  let status ← message.status.field "status"
  let isOk ← message.isOk.field "is_ok"
  let httpCode ← message.httpCode.field "httpCode"
  let payload ← message.payload.optionalField "payload"
  let error ← message.error.optionalField "error"
  let appAudit ← message.appAudit.optionalField "appAudit"
  return .object true <| [(lit "type", .string (lit "result")),
    (lit "requestId", .string message.requestId), (lit "clientId", .string message.clientId),
    status, isOk, httpCode] ++ payload ++ error ++ appAudit

/-- The object literal of `sendResult`. -/
def resultMessage (clientId : JsString) (job : RpcJob) (result : DeviceActionResult) :
    ResultMessage where
  requestId := job.requestId
  clientId := clientId
  status := result.status.orElse
    (.value (.string (if result.isOk.isFalse then lit "error" else lit "ok")))
  isOk := result.isOk.orElse (.value (.boolean true))
  httpCode := result.httpCode.orElse
    (.value (.number (ofInteger binary64 (if result.isOk.isFalse then 500 else 200))))
  payload := result.payload
  error := result.error
  appAudit := result.appAudit

/-! ## One job -/

/-- `resolveTimeoutMilliseconds`. -/
def resolveTimeoutMilliseconds (job : RpcJob) (now : JsNumber) : JsNumber :=
  let configuredTimeout :=
    (ofInteger binary64 1).max (job.timeoutSeconds.mul (ofInteger binary64 1000))
  match job.deadlineAt with
  | none => configuredTimeout
  | some deadlineAt => (ofInteger binary64 1).max (configuredTimeout.min (deadlineAt.sub now))

/-- `job.deadlineAt !== undefined && job.deadlineAt <= Date.now()`. -/
def RpcJob.isLate (job : RpcJob) (now : JsNumber) : Bool :=
  match job.deadlineAt with
  | none => false
  | some deadlineAt => deadlineAt.le now

/-- A job that the device has received: its timer, its handler's promise, the promise of
`executeWithTimeout`, and whether the continuation of `handleJob` has run. -/
structure Running where
  job : RpcJob
  timeoutMilliseconds : JsNumber
  timer : Bool
  handlerPending : Bool
  decision : Option Settlement
  answered : Bool

/-- A promise keeps its first settlement. -/
def Running.decide (running : Running) (settlement : Settlement) : Running :=
  { running with decision := running.decision.or (some settlement) }

/-- The timer's callback. -/
def Running.timeOut (running : Running) : Running :=
  { running with timer := false }.decide <| .fulfilled <| some <| failure "timeout" 408
    (lit "Action 执行超过 " ++ running.timeoutMilliseconds.text ++ lit " ms")

/-- The reaction to the handler's promise. -/
def Running.settle (running : Running) (settlement : Settlement) : Running :=
  { running with timer := false, handlerPending := false }.decide settlement

/-- `executeWithTimeout`, up to its first wait. -/
def executeWithTimeout (job : RpcJob) (now : JsNumber) : Call → Running
  | .returns => ⟨job, resolveTimeoutMilliseconds job now, true, true, none, false⟩
  | .throws message =>
      ⟨job, resolveTimeoutMilliseconds job now, true, false, some (.rejected message), false⟩

/-- A job that needs no handler. -/
def answeredAtOnce (job : RpcJob) (now : JsNumber) : Running :=
  ⟨job, resolveTimeoutMilliseconds job now, false, false, none, true⟩

/-! ## The device -/

/-- The texts of the engine's own errors. -/
structure EngineErrors where
  readProperty : JsString
  stringify : JsString

/-- The jobs received on a socket, and the results sent on it. -/
structure State where
  socketOpen : Bool
  jobs : List Running
  sent : List ResultMessage

/-- A device on a socket that has just been opened. -/
def connected : State := ⟨true, [], []⟩

section Device

variable (engine : EngineErrors) (clientId : JsString)

/-- `send`, which throws what `JSON.stringify` throws. -/
def State.send (state : State) (message : ResultMessage) : Except JsString State :=
  if state.socketOpen then
    if message.toValue.isSome then .ok { state with sent := state.sent ++ [message] }
    else .error engine.stringify
  else .ok state

/-- `sendResult`. -/
def State.sendResult (state : State) (job : RpcJob) :
    Option DeviceActionResult → Except JsString State
  | none => .error engine.readProperty
  | some result => state.send engine (resultMessage clientId job result)

/-- `sendResult` of a result that the device makes; what it throws nobody catches. -/
def State.sendFailure (state : State) (job : RpcJob) (result : DeviceActionResult) : State :=
  match state.sendResult engine clientId job (some result) with
  | .ok state => state
  | .error _ => state

/-- The continuation of `handleJob`. -/
def State.answer (state : State) (job : RpcJob) : Settlement → State
  | .rejected message => state.sendFailure engine clientId job (failure "error" 500 message)
  | .fulfilled result =>
      match state.sendResult engine clientId job result with
      | .ok state => state
      | .error message => state.sendFailure engine clientId job (failure "error" 500 message)

/-- `handleJob`, up to its first wait. -/
def State.handleJob (state : State) (job : RpcJob) (now later : JsNumber)
    (handler : Option Call) : State :=
  if job.isLate now then
    { state.sendFailure engine clientId job (failure "timeout" 408 (lit "job deadline 已过期")) with
      jobs := state.jobs ++ [answeredAtOnce job later] }
  else
    match handler with
    | none =>
        { state.sendFailure engine clientId job
            (failure "error" 404 (lit "未注册 Action: " ++ job.action)) with
          jobs := state.jobs ++ [answeredAtOnce job later] }
    | some call => { state with jobs := state.jobs ++ [executeWithTimeout job later call] }

/-- What happens next: a job arrives while a handler is registered for it or none is, a timer
fires, the promise of a handler settles, a continuation runs, the socket closes. -/
inductive Action where
  | job (job : RpcJob) (now later : JsNumber) (handler : Option Call)
  | timer (index : Nat)
  | settles (index : Nat) (settlement : Settlement)
  | continues (index : Nat)
  | closes

/-- One turn of the event loop. -/
def State.next (state : State) : Action → Option State
  | .job job now later handler =>
      if state.socketOpen then some (state.handleJob engine clientId job now later handler)
      else none
  | .timer index =>
      state.jobs[index]?.bind fun running =>
        if running.timer then some { state with jobs := state.jobs.set index running.timeOut }
        else none
  | .settles index settlement =>
      state.jobs[index]?.bind fun running =>
        if running.handlerPending then
          some { state with jobs := state.jobs.set index (running.settle settlement) }
        else none
  | .continues index =>
      state.jobs[index]?.bind fun running =>
        if running.answered then none
        else
          running.decision.map fun settlement =>
            { state.answer engine clientId running.job settlement with
              jobs := state.jobs.set index { running with answered := true } }
  | .closes => some { state with socketOpen := false }

/-- The device on one socket. -/
def machine : Machine State Action where
  initial := fun state => state = connected
  step := State.next engine clientId

/-! ## Messages -/

/-- What a sent message says, once it is serialised. -/
def ResultMessage.Carries (message : ResultMessage) : Prop :=
  ∃ value, message.toValue = some value ∧ value.stringify.isSome = true ∧
    value.get (lit "type") = .string (lit "result") ∧
    value.get (lit "requestId") = .string message.requestId ∧
    value.get (lit "clientId") = .string message.clientId

theorem ResultMessage.carries {message : ResultMessage} (h : message.toValue.isSome = true) :
    message.Carries := by
  rcases Option.isSome_iff_exists.mp h with ⟨value, hvalue⟩
  refine ⟨value, hvalue, ?_⟩
  simp only [ResultMessage.toValue, Option.bind_eq_bind, Option.bind_eq_some_iff,
    Option.pure_def, Option.some.injEq] at hvalue
  rcases hvalue with ⟨status, -, isOk, -, httpCode, -, payload, -, error, -, appAudit, -, rfl⟩
  exact ⟨rfl, rfl, rfl, rfl⟩

/-- What the device makes itself can be serialised. -/
theorem toValue_failure (job : RpcJob) (status : String) (httpCode : Nat) (error : JsString) :
    (resultMessage clientId job (failure status httpCode error)).toValue.isSome = true := rfl

/-- One more message, about one job. -/
structure SendsOne (job : RpcJob) (state state' : State) : Prop where
  sends : ∃ message : ResultMessage, state' = { state with sent := state.sent ++ [message] } ∧
    message.requestId = job.requestId ∧ message.clientId = clientId ∧
    message.toValue.isSome = true

variable {engine clientId} {state state' : State} {job : RpcJob}

theorem State.send_open {message : ResultMessage} (hopen : state.socketOpen = true)
    (hmessage : message.toValue.isSome = true) :
    state.send engine message = .ok { state with sent := state.sent ++ [message] } := by
  rw [State.send, if_pos hopen, if_pos hmessage]

variable (engine) in
theorem State.sendFailure_spec (hopen : state.socketOpen = true) (status : String)
    (httpCode : Nat) (error : JsString) :
    SendsOne clientId job state
      (state.sendFailure engine clientId job (failure status httpCode error)) := by
  refine ⟨resultMessage clientId job (failure status httpCode error), ?_, rfl, rfl,
    toValue_failure clientId job status httpCode error⟩
  rw [State.sendFailure, State.sendResult,
    State.send_open hopen (toValue_failure clientId job status httpCode error)]

variable (engine job) in
/-- The continuation of a job sends one result, whatever the handler has returned. -/
theorem State.answer_spec (hopen : state.socketOpen = true) (settlement : Settlement) :
    SendsOne clientId job state (state.answer engine clientId job settlement) := by
  cases settlement with
  | rejected message => exact State.sendFailure_spec engine hopen _ _ _
  | fulfilled result =>
      cases result with
      | none => exact State.sendFailure_spec engine hopen _ _ _
      | some result =>
          cases hvalue : (resultMessage clientId job result).toValue.isSome with
          | true =>
              refine ⟨resultMessage clientId job result, ?_, rfl, rfl, hvalue⟩
              rw [State.answer, State.sendResult, State.send_open hopen hvalue]
          | false =>
              have herror : state.sendResult engine clientId job (some result) =
                  .error engine.stringify := by
                rw [State.sendResult, State.send, if_pos hopen, if_neg (by simp [hvalue])]
              rw [State.answer, herror]
              exact State.sendFailure_spec engine hopen _ _ _

/-- On a closed socket nothing is sent. -/
theorem State.answer_closed (hclosed : state.socketOpen = false) (settlement : Settlement) :
    state.answer engine clientId job settlement = state := by
  have hsend : ∀ message, state.send engine message = .ok state := fun message =>
    if_neg (by simp [hclosed])
  cases settlement with
  | rejected message => simp [State.answer, State.sendFailure, State.sendResult, hsend]
  | fulfilled result =>
      cases result <;> simp [State.answer, State.sendFailure, State.sendResult, hsend]

/-! ## The invariant -/

/-- Jobs with an id, that have been answered. -/
def State.answered (state : State) (requestId : JsString) : Nat :=
  state.jobs.countP fun running => running.job.requestId = requestId && running.answered

/-- Results with an id. -/
def State.results (state : State) (requestId : JsString) : Nat :=
  state.sent.countP fun message => message.requestId = requestId

/-- A result for each answered job, and a way on for each other job. -/
structure State.Tidy (clientId : JsString) (state : State) : Prop where
  counted : state.socketOpen = true → ∀ requestId, state.results requestId = state.answered requestId
  messages : ∀ message ∈ state.sent, message.clientId = clientId ∧ message.toValue.isSome = true
  waiting : ∀ running ∈ state.jobs, running.answered = false →
    running.timer = true ∨ running.decision.isSome = true

theorem connected_tidy : State.Tidy clientId connected where
  counted := fun _ _ => rfl
  messages := by simp [connected]
  waiting := by simp [connected]

/-- One more job, answered at once by one message. -/
theorem State.Tidy.append_answered (h : state.Tidy clientId) {running : Running}
    (hopen : state.socketOpen = true) (hanswered : running.answered = true)
    (hsends : SendsOne clientId running.job state state') :
    State.Tidy clientId { state' with jobs := state.jobs ++ [running] } := by
  rcases hsends.sends with ⟨message, rfl, hrequest, hclient, hvalue⟩
  exact {
    counted := by
      intro _ requestId
      simp only [State.results, State.answered, List.countP_append, List.countP_singleton,
        hrequest, hanswered, Bool.and_true]
      exact congrArg (· + _) (h.counted hopen requestId)
    messages := by
      intro other hmem
      rcases List.mem_append.mp hmem with hold | hnew
      · exact h.messages other hold
      · rw [List.mem_singleton.mp hnew]
        exact ⟨hclient, hvalue⟩
    waiting := by
      intro other hmem hother
      rcases List.mem_append.mp hmem with hold | hnew
      · exact h.waiting other hold hother
      · rw [List.mem_singleton.mp hnew, hanswered] at hother
        cases hother }

/-- One more job, to be answered later. -/
theorem State.Tidy.append_running (h : state.Tidy clientId) {running : Running}
    (hanswered : running.answered = false) (htimer : running.timer = true) :
    State.Tidy clientId { state with jobs := state.jobs ++ [running] } where
  counted := by
    intro hopen requestId
    have hcount := h.counted hopen requestId
    simp only [State.results, State.answered] at hcount ⊢
    simp [hcount, hanswered]
  messages := h.messages
  waiting := by
    intro other hmem hother
    rcases List.mem_append.mp hmem with hold | hnew
    · exact h.waiting other hold hother
    · rw [List.mem_singleton.mp hnew]
      exact .inl htimer

/-- A job that goes on without being answered. -/
theorem State.Tidy.set (h : state.Tidy clientId) {index : Nat} {running running' : Running}
    (hget : state.jobs[index]? = some running) (hjob : running'.job = running.job)
    (hanswered : running'.answered = running.answered)
    (hdecision : running'.decision.isSome = true) :
    State.Tidy clientId { state with jobs := state.jobs.set index running' } where
  counted := by
    intro hopen requestId
    have hcount := countP_set_add (p := fun running : Running =>
      decide (running.job.requestId = requestId) && running.answered) (y := running') hget
    have hold := h.counted hopen requestId
    simp only [State.results, State.answered, hjob, hanswered] at hcount hold ⊢
    omega
  messages := h.messages
  waiting := by
    intro other hmem hother
    rcases List.mem_or_eq_of_mem_set hmem with hold | rfl
    · exact h.waiting other hold hother
    · exact .inr hdecision

/-- A job that is answered by its continuation. -/
theorem State.Tidy.answer (h : state.Tidy clientId) {index : Nat} {running : Running}
    (hget : state.jobs[index]? = some running) (hwaiting : running.answered = false)
    (settlement : Settlement) :
    State.Tidy clientId { state.answer engine clientId running.job settlement with
      jobs := state.jobs.set index { running with answered := true } } := by
  have hset : ∀ other ∈ state.jobs.set index { running with answered := true },
      other.answered = false → other.timer = true ∨ other.decision.isSome = true := by
    intro other hmem hother
    rcases List.mem_or_eq_of_mem_set hmem with hold | rfl
    · exact h.waiting other hold hother
    · cases hother
  cases hopen : state.socketOpen with
  | false =>
      rw [State.answer_closed hopen]
      exact ⟨fun htrue => by simp [hopen] at htrue, h.messages, hset⟩
  | true =>
      rcases (State.answer_spec engine running.job hopen settlement).sends with
        ⟨message, heq, hrequest, hclient, hvalue⟩
      rw [heq]
      refine ⟨fun _ requestId => ?_, fun other hmem => ?_, hset⟩
      · have hcount := countP_set_add (p := fun running : Running =>
          decide (running.job.requestId = requestId) && running.answered)
          (y := { running with answered := true }) hget
        have hold := h.counted hopen requestId
        simp only [State.results, State.answered, hwaiting, Bool.and_false, Bool.and_true,
          Bool.false_eq_true, if_false, Nat.add_zero, List.countP_append, List.countP_singleton,
          hrequest] at hcount hold ⊢
        omega
      · rcases List.mem_append.mp hmem with hold | hnew
        · exact h.messages other hold
        · rw [List.mem_singleton.mp hnew]
          exact ⟨hclient, hvalue⟩

/-! ## Steps -/

theorem decide_isSome (running : Running) (settlement : Settlement) :
    (running.decide settlement).decision.isSome = true := by
  cases h : running.decision <;> simp [Running.decide, h]

/-- Messages are only added, and a closed socket stays closed. -/
structure Grows (state state' : State) : Prop where
  sent : state.sent <+: state'.sent
  closed : state'.socketOpen = true → state.socketOpen = true

theorem Grows.refl (state : State) : Grows state state := ⟨List.prefix_rfl, id⟩

theorem Grows.trans {first middle last : State} (h : Grows first middle) (h' : Grows middle last) :
    Grows first last :=
  ⟨h.sent.trans h'.sent, fun hopen => h.closed (h'.closed hopen)⟩

theorem SendsOne.grows (h : SendsOne clientId job state state') : Grows state state' := by
  rcases h.sends with ⟨message, rfl, -⟩
  exact ⟨List.prefix_append _ _, id⟩

/-- A job that arrives. -/
theorem State.Tidy.handleJob (h : state.Tidy clientId) (hopen : state.socketOpen = true)
    (now later : JsNumber) (handler : Option Call) :
    State.Tidy clientId (state.handleJob engine clientId job now later handler) ∧
      Grows state (state.handleJob engine clientId job now later handler) := by
  unfold State.handleJob
  split
  · have hsends : SendsOne clientId job state _ :=
      State.sendFailure_spec engine hopen "timeout" 408 (lit "job deadline 已过期")
    have hanswered : (answeredAtOnce job later).answered = true := rfl
    exact ⟨h.append_answered hopen hanswered hsends, hsends.grows.sent, hsends.grows.closed⟩
  · cases handler with
    | none =>
        have hsends : SendsOne clientId job state _ :=
          State.sendFailure_spec engine hopen "error" 404
            (lit "未注册 Action: " ++ job.action)
        have hanswered : (answeredAtOnce job later).answered = true := rfl
        exact ⟨h.append_answered hopen hanswered hsends, hsends.grows.sent, hsends.grows.closed⟩
    | some call =>
        refine ⟨h.append_running ?_ ?_, List.prefix_rfl, id⟩
        · cases call <;> rfl
        · cases call <;> rfl

/-- One turn of the event loop keeps the invariant. -/
theorem next_tidy {action : Action} (h : state.Tidy clientId)
    (hnext : state.next engine clientId action = some state') :
    state'.Tidy clientId ∧ Grows state state' := by
  cases action with
  | job job now later handler =>
      rw [State.next] at hnext
      split at hnext
      · rename_i hopen
        obtain rfl := Option.some.inj hnext
        exact h.handleJob hopen now later handler
      · cases hnext
  | timer index =>
      simp only [State.next, Option.bind_eq_some_iff] at hnext
      rcases hnext with ⟨running, hget, hnext⟩
      split at hnext
      · obtain rfl := Option.some.inj hnext
        exact ⟨h.set hget rfl rfl (decide_isSome _ _), List.prefix_rfl, id⟩
      · cases hnext
  | settles index settlement =>
      simp only [State.next, Option.bind_eq_some_iff] at hnext
      rcases hnext with ⟨running, hget, hnext⟩
      split at hnext
      · obtain rfl := Option.some.inj hnext
        exact ⟨h.set hget rfl rfl (decide_isSome _ _), List.prefix_rfl, id⟩
      · cases hnext
  | continues index =>
      simp only [State.next, Option.bind_eq_some_iff] at hnext
      rcases hnext with ⟨running, hget, hnext⟩
      split at hnext
      · cases hnext
      · rename_i hwaiting
        rw [Option.map_eq_some_iff] at hnext
        rcases hnext with ⟨settlement, -, rfl⟩
        refine ⟨h.answer hget (Bool.eq_false_iff.mpr hwaiting) settlement, ?_⟩
        cases hopen : state.socketOpen with
        | true =>
            have hgrows : Grows state (state.answer engine clientId running.job settlement) :=
              (State.answer_spec engine running.job hopen settlement).grows
            exact ⟨hgrows.sent, hgrows.closed⟩
        | false =>
            rw [State.answer_closed hopen]
            exact ⟨List.prefix_rfl, id⟩
  | closes =>
      obtain rfl := Option.some.inj hnext
      refine ⟨⟨?_, h.messages, h.waiting⟩, List.prefix_rfl, ?_⟩
      · intro hopen
        cases hopen
      · intro hopen
        cases hopen

/-- A run keeps the invariant. -/
theorem run_tidy {actions : List Action} (h : state.Tidy clientId)
    (hrun : (machine engine clientId).run state actions = some state') :
    state'.Tidy clientId ∧ Grows state state' := by
  induction actions generalizing state with
  | nil =>
      obtain rfl := Option.some.inj hrun
      exact ⟨h, Grows.refl state⟩
  | cons action actions ih =>
      rcases Machine.run_cons_eq_some.mp hrun with ⟨middle, hstep, hrest⟩
      rcases next_tidy h hstep with ⟨hmiddle, hgrows⟩
      rcases ih hmiddle hrest with ⟨hlast, hlater⟩
      exact ⟨hlast, hgrows.trans hlater⟩

/-! ## One result per job -/

/-- No two jobs have the same id. -/
def State.Distinct (state : State) : Prop :=
  (state.jobs.map fun running => running.job.requestId).Nodup

/-- No timer is pending and no continuation is ready. -/
def State.Quiet (state : State) : Prop :=
  ∀ running ∈ state.jobs, running.timer = false ∧
    (running.decision.isSome = true → running.answered = true)

theorem count_requestId (jobs : List Running) (requestId : JsString) :
    (jobs.map fun running => running.job.requestId).count requestId =
      jobs.countP fun running => decide (running.job.requestId = requestId) := by
  rw [List.count, List.countP_map]
  refine List.countP_congr fun running _ => ?_
  simp

/-- Of distinct jobs, one has the id of a given one. -/
theorem State.answered_eq (hdistinct : state.Distinct) {running : Running}
    (hmem : running ∈ state.jobs) :
    state.answered running.job.requestId = if running.answered then 1 else 0 := by
  have hone : ∀ other ∈ state.jobs, other.job.requestId = running.job.requestId →
      other = running := fun other hother hsame =>
    List.inj_on_of_nodup_map hdistinct hother hmem hsame
  have hcount : state.jobs.countP (fun other => decide
      (other.job.requestId = running.job.requestId)) = 1 := by
    have hid := List.count_eq_one_of_mem hdistinct
      (List.mem_map_of_mem (f := fun running => running.job.requestId) hmem)
    rwa [count_requestId] at hid
  cases hanswered : running.answered with
  | true =>
      rw [State.answered, if_pos rfl, ← hcount]
      refine List.countP_congr fun other hother => ?_
      constructor
      · intro hboth
        exact (Bool.and_eq_true_iff.mp hboth).1
      · intro hsame
        rw [hone other hother (of_decide_eq_true hsame)]
        simp [hanswered]
  | false =>
      rw [State.answered, if_neg (by simp), List.countP_eq_zero]
      intro other hother hboth
      rcases Bool.and_eq_true_iff.mp hboth with ⟨hsame, htrue⟩
      rw [hone other hother (of_decide_eq_true hsame), hanswered] at htrue
      cases htrue

/-- Messages with an id are unique among distinct jobs. -/
theorem State.results_le (h : state.Tidy clientId) (hopen : state.socketOpen = true)
    (hdistinct : state.Distinct) (requestId : JsString) : state.results requestId ≤ 1 := by
  rw [h.counted hopen]
  calc
    state.answered requestId ≤ state.jobs.countP fun running =>
        decide (running.job.requestId = requestId) := by
      refine List.countP_mono_left fun running _ hboth => ?_
      exact (Bool.and_eq_true_iff.mp hboth).1
    _ = (state.jobs.map fun running => running.job.requestId).count requestId :=
      (count_requestId _ _).symm
    _ ≤ 1 := List.nodup_iff_count_le_one.mp hdistinct requestId

/-- On an open socket, and for jobs with distinct ids in any order of timers, settlements and
continuations: an answered job has one result, another has none and can still be answered,
every result names a job and this device, and nothing follows the result of a job. -/
theorem one_result_per_job {actions : List Action}
    (hrun : (machine engine clientId).run connected actions = some state)
    (hdistinct : state.Distinct) (hopen : state.socketOpen = true) :
    (∀ running ∈ state.jobs,
      state.results running.job.requestId = if running.answered then 1 else 0) ∧
      (∀ running ∈ state.jobs, running.answered = false →
        running.timer = true ∨ running.decision.isSome = true) ∧
      (state.Quiet → ∀ running ∈ state.jobs, state.results running.job.requestId = 1) ∧
      (∀ message ∈ state.sent, message.Carries ∧ message.clientId = clientId ∧
        ∃ running ∈ state.jobs, running.job.requestId = message.requestId) ∧
      ∀ (later : List Action) (last : State),
        (machine engine clientId).run state later = some last → last.socketOpen = true →
          last.Distinct → ∀ running ∈ state.jobs, running.answered = true →
            last.sent.filter (fun message => message.requestId = running.job.requestId) =
              state.sent.filter fun message => message.requestId = running.job.requestId := by
  rcases run_tidy connected_tidy hrun with ⟨htidy, -⟩
  have hresults : ∀ running ∈ state.jobs,
      state.results running.job.requestId = if running.answered then 1 else 0 := by
    intro running hmem
    rw [htidy.counted hopen, state.answered_eq hdistinct hmem]
  refine ⟨hresults, htidy.waiting, ?_, ?_, ?_⟩
  · intro hquiet running hmem
    have hanswered : running.answered = true := by
      by_contra hwaiting
      rcases htidy.waiting running hmem (Bool.eq_false_iff.mpr hwaiting) with htimer | hdecision
      · rw [(hquiet running hmem).1] at htimer
        cases htimer
      · exact hwaiting ((hquiet running hmem).2 hdecision)
    rw [hresults running hmem, if_pos hanswered]
  · intro message hmem
    rcases htidy.messages message hmem with ⟨hclient, hvalue⟩
    refine ⟨ResultMessage.carries hvalue, hclient, ?_⟩
    have hpositive : 0 < state.answered message.requestId := by
      rw [← htidy.counted hopen]
      exact List.countP_pos_iff.mpr ⟨message, hmem, by simp⟩
    rcases List.countP_pos_iff.mp hpositive with ⟨running, hrunning, hboth⟩
    exact ⟨running, hrunning, of_decide_eq_true (Bool.and_eq_true_iff.mp hboth).1⟩
  · intro later last hlater hlastOpen hlastDistinct running hmem hanswered
    rcases run_tidy htidy hlater with ⟨hlast, hgrows⟩
    have hle := State.results_le hlast hlastOpen hlastDistinct running.job.requestId
    have hone := hresults running hmem
    rw [if_pos hanswered] at hone
    have hfront := hgrows.sent.filter fun message : ResultMessage =>
      decide (message.requestId = running.job.requestId)
    refine (hfront.eq_of_length_le ?_).symm
    rw [← List.countP_eq_length_filter, ← List.countP_eq_length_filter]
    exact hle.trans hone.ge

end Device

/-- A job without a deadline. -/
def sampleJob : RpcJob :=
  ⟨lit "request-1", lit "project", lit "action", .null, ofInteger binary64 20, none⟩

/-- A result whose payload `JSON.stringify` refuses. -/
def unserialisableResult : DeviceActionResult where
  payload := .unserialisable
  status := .value .undefined
  isOk := .value .undefined
  httpCode := .value .undefined
  error := .value .undefined
  appAudit := .value .undefined

/-- The handler resolves to it before the timeout. -/
def sampleRun : List Action :=
  [.job sampleJob (ofInteger binary64 0) (ofInteger binary64 0) (some .returns),
    .settles 0 (.fulfilled (some unserialisableResult)), .continues 0]

/-- The device at the end. -/
def sampleState : State where
  socketOpen := true
  jobs := [⟨sampleJob, resolveTimeoutMilliseconds sampleJob (ofInteger binary64 0), false, false,
    some (.fulfilled (some unserialisableResult)), true⟩]
  sent := [resultMessage (lit "device-1") sampleJob
    (failure "error" 500 (lit "cannot be serialised"))]

theorem one_result_per_job_sample : sampleState.results (lit "request-1") = 1 := by
  have hlate (now : JsNumber) : sampleJob.isLate now = false := rfl
  have hresult : (resultMessage (lit "device-1") sampleJob unserialisableResult).toValue = none :=
    rfl
  have hrun : (machine ⟨lit "undefined", lit "cannot be serialised"⟩ (lit "device-1")).run
      connected sampleRun = some sampleState := by
    simp [machine, Machine.run, State.next, State.handleJob, executeWithTimeout, State.answer,
      State.sendResult, State.send, State.sendFailure, Running.settle, Running.decide, connected,
      sampleRun, sampleState, hlate, hresult, toValue_failure]
  have hdistinct : sampleState.Distinct := List.nodup_singleton (lit "request-1")
  exact (one_result_per_job hrun hdistinct rfl).1 _ List.mem_cons_self

end Jobs
end JavaScriptDevice
end R2RPC
