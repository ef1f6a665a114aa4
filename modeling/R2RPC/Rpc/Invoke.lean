import R2RPC.AppAudit.Schema
import R2RPC.Library.Machine
import R2RPC.Rpc.CallLog

/-!
# Concurrent invocations

{lit}`invoke` with everything it awaits: the project, the device and its slot, the marker, the
dispatch and the waiter of its result. Any number of calls run at once; each await succeeds,
rejects or takes its time, while timers fire and results arrive.

Main results:

- Definition {lit}`machine`: the calls of one instance in every interleaving.
- Theorem {lit}`State.advance_of_await`: everything the end of an await can lead to.
- Definition {lit}`State.view`: the part of the state that belongs to a request.

Current gaps:

- What rejects is an {lit}`Error`, as the logger reads its message.
- A timer is named by the request whose waiter it belongs to.
-/

namespace R2RPC
namespace Rpc
namespace Invoke

open Utf16 Binary JavaScript Interleaving

/-! ## Calls -/

/-- The promise of `registerWaiter`. -/
inductive ResultPromise where
  | absent
  | pending
  | resolved (result : Value)
  | rejected (reason : JsString)

/-- How a function ends that is awaited: with an answer, or with the message of an error. -/
abbrev Completion := Except JsString InvokeResponse

/-- The await at which a call stands. -/
inductive Stage where
  | resolvingProject
  | checkingOnline (clientId : JsString)
  | readingLimit (clientId : JsString)
  | acquiring (clientId : JsString) (maximumInFlight : Nat)
  | picking (projectId : Nat)
  | marking (clientId : JsString)
  | dispatching (clientId : JsString)
  | awaitingResult (clientId : JsString)
  | releasing (completion : Completion)
  | settled (completion : Completion)

/-- One call of `invoke`, the device that its selection has returned, and the promise of its
result. -/
structure Call where
  input : InvokeParams
  requestId : JsString
  startedAt : Int
  device : Option JsString
  promise : ResultPromise
  stage : Stage

/-- The arguments of a call of `enqueueRequestLog`. -/
structure LogCall where
  input : InvokeParams
  response : InvokeResponse
  startedAt : Int
  responsePayload : Value
  appAudit : Option Value

/-- The calls of an instance, the waiters of its registry, the timers that have not fired, and
which calls of `enqueueRequestLog` and `releaseSlot` were made. -/
structure State where
  calls : List Call
  waiters : List (JsString × JsString)
  timers : List JsString
  logs : List LogCall
  releases : List (JsString × JsString)

/-- An instance before the first call. -/
def idle : State := ⟨[], [], [], [], []⟩

/-- How an await ends: with an error, or with a value of its own type. -/
inductive Awaited where
  | rejects (message : JsString)
  | project (project : Option (Nat × Bool))
  | flag (value : Bool)
  | limit (maximumInFlight : Nat)
  | noDevice
  | saturated
  | picked (clientId : JsString)
  | done

/-- A promise is settled, unless it was before. -/
def Call.settle (promise : ResultPromise) (call : Call) : Call :=
  match call.promise with
  | .pending => { call with promise := promise }
  | _ => call

namespace State

variable (state : State)

/-- The call of a request. -/
def call? (requestId : JsString) : Option Call :=
  state.calls.find? fun call => call.requestId == requestId

/-- Something changes about the call of a request. -/
def modify (requestId : JsString) (change : Call → Call) : State :=
  { state with
    calls := state.calls.map fun call => if call.requestId = requestId then change call else call }

/-! ## The registry -/

/-- `registerWaiter`. -/
def registerWaiter (requestId expectedClientId : JsString) : State :=
  { state with
    waiters := state.waiters.filter (·.1 != requestId) ++ [(requestId, expectedClientId)]
    timers := state.timers ++ [requestId] }

/-- The waiter of a request is taken off the map, and its timer is cleared. -/
def dropWaiter (requestId : JsString) : State :=
  { state with
    waiters := state.waiters.filter (·.1 != requestId)
    timers := state.timers.filter (· != requestId) }

/-- `cancelWaiter`. -/
def cancelWaiter (requestId reason : JsString) : State :=
  match state.waiters.find? (·.1 == requestId) with
  | none => state
  | some _ => (state.dropWaiter requestId).modify requestId (.settle (.rejected reason))

/-- `resolveLocalWaiter`. -/
def resolveLocalWaiter (requestId : JsString) (result : Value) (fromClientId : JsString) : State :=
  match state.waiters.find? (·.1 == requestId) with
  | none => state
  | some (_, clientId) =>
      if clientId ≠ [] ∧ fromClientId ≠ clientId then state
      else (state.dropWaiter requestId).modify requestId (.settle (.resolved result))

/-- The timer of `registerWaiter` fires. -/
def fire (requestId : JsString) : State :=
  (state.dropWaiter requestId).modify requestId (.settle (.rejected (lit "timeout")))

/-! ## Answers -/

variable (call : Call) (now : Int)

/-- `enqueueRequestLog` is called, and not awaited. -/
def enqueueRequestLog (response : InvokeResponse) (responsePayload : Value)
    (appAudit : Option Value) : State :=
  { state with
    logs := state.logs ++ [⟨call.input, response, call.startedAt, responsePayload, appAudit⟩] }

/-- `fail`, with the answer it returns. -/
def fail (clientId : Option JsString) (status : String) (httpCode : Nat) (error : JsString) :
    State × InvokeResponse :=
  let response := Rpc.fail call.requestId call.startedAt now clientId (lit status) httpCode error
  (state.enqueueRequestLog call response .null none, response)

/-- `validAppAudit`. -/
def validAppAudit (datetime : JsString → Bool) (reportedAppAudit : Value) :
    Except JsString (Option Value) :=
  match reportedAppAudit with
  | .undefined => .ok none
  | reportedAppAudit =>
      match AppAudit.validateDeviceAppAudit datetime reportedAppAudit with
      | .ok data => .ok (some data)
      | .error _ => .ok none

/-- `success`, which may throw before it calls `enqueueRequestLog`: where the result has no
properties, and where `validAppAudit` runs out of stack on a deep value. -/
def success (validate : Value → Except JsString (Option Value)) (clientId : JsString)
    (result : Value) : Except JsString (State × InvokeResponse) :=
  match result with
  | .undefined | .null => .error (lit "Cannot read properties")
  | result =>
      let response := Rpc.success call.requestId call.startedAt now clientId result
      match validate (result.get (lit "appAudit")) with
      | .error message => .error message
      | .ok appAudit =>
          .ok (state.enqueueRequestLog call response (result.get (lit "payload")) appAudit, response)

/-- A call goes on to another await. -/
def moveTo (stage : Stage) : State :=
  state.modify call.requestId fun call => { call with stage := stage }

/-- `invoke` fails without a device. -/
def answer (clientId : Option JsString) (status : String) (httpCode : Nat) (error : JsString) :
    State :=
  let answered := state.fail call now clientId status httpCode error
  answered.1.moveTo call (.settled (.ok answered.2))

/-- The `finally` of `invoke`: `releaseSlot` is called, whatever the outcome. -/
def finish (clientId : JsString) (completion : Completion) : State :=
  { state with releases := state.releases ++ [(call.requestId, clientId)] }.moveTo call
    (.releasing completion)

/-- `selectDevice` has returned a device: its waiter is registered, and the marker awaited. -/
def selected (clientId : JsString) : State :=
  (state.registerWaiter call.requestId clientId).modify call.requestId fun call =>
    { call with device := some clientId, promise := .pending, stage := .marking clientId }

/-- `dispatchJob` has failed: the waiter is cancelled, and its answer returned. -/
def dispatchFailed (clientId reason : JsString) (status : String) (error : JsString) : State :=
  let answered := (state.cancelWaiter call.requestId reason).fail call now (some clientId) status
    503 error
  answered.1.finish call clientId (.ok answered.2)

/-- The text of a timeout. -/
def timeoutError : JsString :=
  lit "超时(" ++ (call.input.timeoutSeconds.getD (ofDecimal binary64 false 20 0)).text ++ lit "s)"

/-- `catch` around the result: the call has timed out, or so it says. -/
def timedOut (clientId : JsString) : State :=
  let answered := state.fail call now (some clientId) "timeout" 504 (timeoutError call)
  answered.1.finish call clientId (.ok answered.2)

/-! ## Steps -/

/-- `selectDevice`, up to its first await. -/
def selectDevice (projectId : Nat) : Stage :=
  match call.input.clientId with
  | none => .picking projectId
  | some clientId => if clientId = [] then .picking projectId else .checkingOnline clientId

/-- An error while a device is selected. -/
def selectionFailed : State :=
  state.answer call now call.input.clientId "error" 503 infrastructureError

/-- An await of a call ends. -/
def await : Stage → Awaited → Option State
  | .resolvingProject, .rejects _ =>
      some (state.answer call now none "error" 503 infrastructureError)
  | .resolvingProject, .project none =>
      some (state.answer call now none "no_project" 404 (lit "功能组不存在"))
  | .resolvingProject, .project (some (_, false)) =>
      some (state.answer call now none "disabled" 403 (lit "功能组已停用"))
  | .resolvingProject, .project (some (projectId, true)) =>
      some (state.moveTo call (selectDevice call projectId))
  | .checkingOnline _, .rejects _ => some (state.selectionFailed call now)
  | .checkingOnline clientId, .flag false =>
      some (state.answer call now (some clientId) "offline" 503 (lit "指定设备不在线"))
  | .checkingOnline clientId, .flag true => some (state.moveTo call (.readingLimit clientId))
  | .readingLimit _, .rejects _ => some (state.selectionFailed call now)
  | .readingLimit clientId, .limit maximumInFlight =>
      some (state.moveTo call (.acquiring clientId maximumInFlight))
  | .acquiring _ _, .rejects _ => some (state.selectionFailed call now)
  | .acquiring clientId _, .flag false =>
      some (state.answer call now (some clientId) "rejected" 429 (lit "设备在途任务已满"))
  | .acquiring clientId _, .flag true => some (state.selected call clientId)
  | .picking _, .rejects _ => some (state.selectionFailed call now)
  | .picking _, .noDevice =>
      some (state.answer call now none "no_device" 503 (lit "功能组内无在线设备"))
  | .picking _, .saturated =>
      some (state.answer call now none "rejected" 429 (lit "功能组内设备在途任务均已满"))
  | .picking _, .picked clientId => some (state.selected call clientId)
  | .marking clientId, .rejects _ =>
      some (state.dispatchFailed call now clientId (lit "dispatch_error") "error"
        infrastructureError)
  | .marking clientId, .done => some (state.moveTo call (.dispatching clientId))
  | .dispatching clientId, .rejects _ =>
      some (state.dispatchFailed call now clientId (lit "dispatch_error") "error"
        infrastructureError)
  | .dispatching clientId, .flag false =>
      some (state.dispatchFailed call now clientId (lit "unavailable") "unavailable"
        (lit "设备连接已断开"))
  | .dispatching clientId, .flag true => some (state.moveTo call (.awaitingResult clientId))
  | .releasing completion, .rejects _ | .releasing completion, .done =>
      some (state.moveTo call (.settled completion))
  | _, _ => none

/-- A call goes on after the promise of its result is settled. -/
def resume (validate : Value → Except JsString (Option Value)) : Option State :=
  match call.stage, call.promise with
  | .awaitingResult clientId, .resolved result =>
      match state.success call now validate clientId result with
      | .ok answered => some (answered.1.finish call clientId (.ok answered.2))
      | .error _ => some (state.timedOut call now clientId)
  | .awaitingResult clientId, .rejected _ => some (state.timedOut call now clientId)
  | _, _ => none

end State

/-- What happens next. -/
inductive Action where
  | invoke (input : InvokeParams) (requestId : JsString) (startedAt : Int)
  | await (requestId : JsString) (awaited : Awaited) (now : Int)
  | resume (requestId : JsString) (now : Int)
  | timer (requestId : JsString)
  | result (requestId : JsString) (result : Value) (fromClientId : JsString)

/-- One step, if it is enabled; a request id is new. -/
def State.next (validate : Value → Except JsString (Option Value)) (state : State) :
    Action → Option State
  | .invoke input requestId startedAt =>
      match state.call? requestId with
      | some _ => none
      | none =>
          some { state with
            calls := state.calls ++
              [⟨input, requestId, startedAt, none, .absent, .resolvingProject⟩] }
  | .await requestId awaited now =>
      (state.call? requestId).bind fun call => state.await call now call.stage awaited
  | .resume requestId now =>
      (state.call? requestId).bind fun call => state.resume call now validate
  | .timer requestId => if requestId ∈ state.timers then some (state.fire requestId) else none
  | .result requestId result fromClientId =>
      some (state.resolveLocalWaiter requestId result fromClientId)

/-- The calls of one instance; `validate` is `validAppAudit`, or what the stack makes of it. -/
def machine (validate : Value → Except JsString (Option Value)) : Machine State Action where
  initial := fun state => state = idle
  step := State.next validate

/-! ## What an await leads to -/

/-- No device has been selected yet. -/
def Stage.early : Stage → Bool
  | .resolvingProject | .checkingOnline _ | .readingLimit _ | .acquiring _ _ | .picking _ => true
  | _ => false

/-- The device whose result is wanted. -/
def Stage.waiting : Stage → Option JsString
  | .marking clientId | .dispatching clientId | .awaitingResult clientId => some clientId
  | _ => none

/-- An upper bound on the steps that remain, the timer aside. -/
def Stage.weight : Stage → Nat
  | .resolvingProject => 9
  | .checkingOnline _ => 8
  | .readingLimit _ => 7
  | .acquiring _ _ | .picking _ => 6
  | .marking _ => 4
  | .dispatching _ => 3
  | .awaitingResult _ => 2
  | .releasing _ => 1
  | .settled _ => 0

namespace State

/-- What the end of an await can lead to. -/
inductive Advance (state : State) (call : Call) (now : Int) : Stage → State → Prop
  | answered {stage : Stage} (hearly : stage.early = true) (clientId : Option JsString)
      (status : String) (httpCode : Nat) (error : JsString) :
      Advance state call now stage (state.answer call now clientId status httpCode error)
  | selecting {stage next : Stage} (hearly : stage.early = true) (hnext : next.early = true)
      (hweight : next.weight < stage.weight) : Advance state call now stage (state.moveTo call next)
  | selected {stage : Stage} (hearly : stage.early = true) (clientId : JsString) :
      Advance state call now stage (state.selected call clientId)
  | failed {stage : Stage} {clientId : JsString} (hwaiting : stage.waiting = some clientId)
      (reason : JsString) (status : String) (error : JsString) :
      Advance state call now stage (state.dispatchFailed call now clientId reason status error)
  | dispatching {stage next : Stage} (hwaiting : next.waiting = stage.waiting)
      (hsome : stage.waiting.isSome = true) (hweight : next.weight < stage.weight) :
      Advance state call now stage (state.moveTo call next)
  | released (completion : Completion) :
      Advance state call now (.releasing completion) (state.moveTo call (.settled completion))

variable {state state' : State} {call : Call} {now : Int}

theorem selectDevice_early (call : Call) (projectId : Nat) :
    (selectDevice call projectId).early = true ∧
      (selectDevice call projectId).weight < Stage.weight .resolvingProject := by
  unfold selectDevice
  split
  · exact ⟨rfl, by simp [Stage.weight]⟩
  · split
    · exact ⟨rfl, by simp [Stage.weight]⟩
    · exact ⟨rfl, by simp [Stage.weight]⟩

theorem advance_of_await {stage : Stage} {awaited : Awaited}
    (h : state.await call now stage awaited = some state') :
    state.Advance call now stage state' := by
  unfold State.await at h
  split at h
  case h_4 =>
    obtain rfl := Option.some.inj h
    rcases selectDevice_early call _ with ⟨hearly, hweight⟩
    exact .selecting rfl hearly hweight
  all_goals first
    | obtain rfl := Option.some.inj h
      first
        | exact .answered rfl _ _ _ _
        | exact .selecting rfl rfl (by simp [Stage.weight])
        | exact .selected rfl _
        | exact .failed rfl _ _ _
        | exact .dispatching rfl rfl (by simp [Stage.weight])
        | exact .released _
    | cases h

/-! ## What the registry holds for a request -/

/-- What there is for a request. -/
structure View where
  waiters : List (JsString × JsString)
  timers : List JsString
  logs : List LogCall
  releases : List (JsString × JsString)

/-- Nothing. -/
def View.empty : View := ⟨[], [], [], []⟩

/-- What stays when nothing waits any more. -/
def View.dropped (view : View) : View := ⟨[], [], view.logs, view.releases⟩

/-- The part of the state that belongs to a request. -/
def view (state : State) (requestId : JsString) : View where
  waiters := state.waiters.filter (·.1 == requestId)
  timers := state.timers.filter (· == requestId)
  logs := state.logs.filter (·.response.requestId == requestId)
  releases := state.releases.filter (·.1 == requestId)

variable {requestId other : JsString}

theorem filter_ne_filter {α : Type} (key : α → JsString) (l : List α) (hne : other ≠ requestId) :
    (l.filter (key · != requestId)).filter (key · == other) = l.filter (key · == other) := by
  rw [List.filter_filter]
  refine List.filter_congr fun a _ => ?_
  by_cases hkey : key a = other
  · simp [hkey, hne]
  · simp [hkey]

theorem filter_ne_self {α : Type} (key : α → JsString) (l : List α) :
    (l.filter (key · != requestId)).filter (key · == requestId) = [] := by
  rw [List.filter_filter]
  exact List.filter_eq_nil_iff.mpr fun a _ => by simp

@[simp]
theorem view_modify (change : Call → Call) :
    (state.modify requestId change).view other = state.view other := rfl

theorem view_dropWaiter_self :
    (state.dropWaiter requestId).view requestId = (state.view requestId).dropped := by
  simp only [dropWaiter, view, View.dropped, View.mk.injEq, and_true]
  exact ⟨filter_ne_self Prod.fst state.waiters, filter_ne_self id state.timers⟩

theorem view_dropWaiter_ne (hne : other ≠ requestId) :
    (state.dropWaiter requestId).view other = state.view other := by
  simp only [dropWaiter, view, View.mk.injEq, and_true]
  exact ⟨filter_ne_filter Prod.fst state.waiters hne, filter_ne_filter id state.timers hne⟩

theorem view_registerWaiter_self (clientId : JsString) :
    (state.registerWaiter requestId clientId).view requestId =
      { state.view requestId with
        waiters := [(requestId, clientId)]
        timers := (state.view requestId).timers ++ [requestId] } := by
  simp only [registerWaiter, view, List.filter_append, View.mk.injEq, and_true]
  constructor
  · rw [filter_ne_self Prod.fst state.waiters]
    simp
  · simp

theorem view_registerWaiter_ne (hne : other ≠ requestId) (clientId : JsString) :
    (state.registerWaiter requestId clientId).view other = state.view other := by
  have hfalse : (requestId == other) = false := by simpa using Ne.symm hne
  simp only [registerWaiter, view, List.filter_append, View.mk.injEq, and_true]
  constructor
  · rw [filter_ne_filter Prod.fst state.waiters hne]
    simp [hfalse]
  · simp [hfalse]

/-- The first log of a request for which there is nothing else. -/
theorem view_enqueue_self {response : InvokeResponse} (hsame : response.requestId = requestId)
    (hview : state.view requestId = .empty) (payload : Value) (appAudit : Option Value) :
    (state.enqueueRequestLog call response payload appAudit).view requestId =
      ⟨[], [], [⟨call.input, response, call.startedAt, payload, appAudit⟩], []⟩ := by
  rw [view, View.empty, View.mk.injEq] at hview
  simp [enqueueRequestLog, view, hview, hsame]

theorem view_enqueue_ne {response : InvokeResponse} (hne : other ≠ response.requestId)
    (payload : Value) (appAudit : Option Value) :
    (state.enqueueRequestLog call response payload appAudit).view other = state.view other := by
  have hfalse : (response.requestId == other) = false := by simpa using Ne.symm hne
  simp [enqueueRequestLog, view, List.filter_append, hfalse]

theorem view_finish_self (clientId : JsString) (completion : Completion) :
    (state.finish call clientId completion).view call.requestId =
      { state.view call.requestId with
        releases := (state.view call.requestId).releases ++ [(call.requestId, clientId)] } := by
  simp [finish, moveTo, modify, view, List.filter_append]

theorem view_finish_ne (hne : other ≠ call.requestId) (clientId : JsString)
    (completion : Completion) :
    (state.finish call clientId completion).view other = state.view other := by
  have hfalse : (call.requestId == other) = false := by simpa using Ne.symm hne
  simp [finish, moveTo, modify, view, List.filter_append, hfalse]

/-! ## Which call a step changes -/

theorem call?_eq_some (h : state.call? requestId = some call) : call.requestId = requestId := by
  simpa using List.find?_some h

theorem call?_modify (state : State) (requestId other : JsString) (change : Call → Call)
    (hid : ∀ call, (change call).requestId = call.requestId) :
    (state.modify requestId change).call? other =
      if other = requestId then (state.call? requestId).map change else state.call? other := by
  have hkey : ((fun call : Call => call.requestId == other) ∘
      fun call => if call.requestId = requestId then change call else call) =
        fun call => call.requestId == other := by
    funext call
    simp only [Function.comp]
    split
    · rw [hid]
    · rfl
  simp only [call?, modify, List.find?_map, hkey]
  split
  · rename_i hsame
    subst hsame
    cases hfind : state.calls.find? fun call => call.requestId == other with
    | none => rfl
    | some found =>
        have hfound : found.requestId = other := by simpa using List.find?_some hfind
        simp [hfound]
  · rename_i hne
    cases hfind : state.calls.find? fun call => call.requestId == other with
    | none => rfl
    | some found =>
        have hfound : found.requestId = other := by simpa using List.find?_some hfind
        simp [hfound, hne]

end State

end Invoke
end Rpc
end R2RPC
