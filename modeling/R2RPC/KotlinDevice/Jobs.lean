import R2RPC.Library.Machine
import R2RPC.Library.NumberText

/-!
# The jobs of the Kotlin device

{lit}`handleJob`, {lit}`executeJob` and {lit}`buildResult`: the coroutine of each job, the
coroutine of its handler, and the timeout between them.

Main results:

- Definition {lit}`recover`: which clause of {lit}`executeJob` catches what.
- Definition {lit}`machine`: the coroutines under every scheduling.
- Theorem {lit}`result_sent_iff`: when a job that has ended has got its result.
- Theorem {lit}`cancellation_unanswered`: a handler that throws a cancellation.

Current gaps:

- The device is not closed, and the socket accepts what is sent while it is open.
-/

namespace R2RPC
namespace KotlinDevice
namespace Jobs

open Utf16 Binary Interleaving

/-! ## Jobs and results -/

/-- {lit}`JsonElement`. -/
inductive JsonElement where
  | null
  | literal (isString : Bool) (content : JsString)
  | array (elements : List JsonElement)
  | object (fields : List (JsString × JsonElement))

/-- A string as a {lit}`JsonPrimitive`. -/
def JsonElement.string (text : JsString) : JsonElement := .literal true text

/-- An integer in decimals. -/
def integerText (n : Int) : JsString :=
  if n < 0 then 45 :: decimal n.natAbs else decimal n.natAbs

/-- {lit}`RpcJob`; the two numbers are an `Int` and a `Long`. -/
structure RpcJob where
  type : JsString
  requestId : JsString
  project : JsString
  action : JsString
  payload : JsonElement
  timeoutSeconds : Int
  deadlineAt : Option Int

/-- {lit}`DeviceActionResult`, over the type of audits. -/
structure DeviceActionResult (AppAudit : Type) where
  payload : Option JsonElement
  status : Option JsString
  isOk : Bool
  httpCode : Option Int
  error : Option JsString
  appAudit : Option AppAudit

/-- What tells the catch clauses of `executeJob` apart. -/
inductive ThrowableKind where
  | timeoutCancellation
  | cancellation
  | other
deriving DecidableEq, Repr

/-- A `Throwable`. -/
structure Throwable where
  kind : ThrowableKind
  message : Option JsString
  simpleName : JsString
deriving DecidableEq, Repr

section

variable {AppAudit : Type}

/-- A result that the device makes itself. -/
def failure (status : String) (httpCode : Int) (error : JsString) :
    DeviceActionResult AppAudit where
  payload := none
  status := some (lit status)
  isOk := false
  httpCode := some httpCode
  error := some error
  appAudit := none

/-- The result of a job whose deadline has passed. -/
def deadlinePassed : DeviceActionResult AppAudit := failure "timeout" 408 (lit "job deadline 已过期")

/-- The result of a job without a handler. -/
def notRegistered (job : RpcJob) : DeviceActionResult AppAudit :=
  failure "error" 404 (lit "未注册 Action: " ++ job.action)

/-- The result of a job whose handler takes too long. -/
def timedOut (timeoutMilliseconds : Int) : DeviceActionResult AppAudit :=
  failure "timeout" 408 (lit "Action 执行超过 " ++ integerText timeoutMilliseconds ++ lit " ms")

/-- The result of a job whose handler throws. -/
def failed (throwable : Throwable) : DeviceActionResult AppAudit :=
  failure "error" 500 (throwable.message.getD throwable.simpleName)

/-! ## Timeouts -/

/-- A `Long`, which wraps. -/
def toLong (n : Int) : Int := n.bmod (2 ^ 64)

/-- `resolveTimeoutMilliseconds`. -/
def resolveTimeoutMilliseconds (timeoutSeconds : Int) (deadlineAt : Option Int) (now : Int) : Int :=
  let configuredTimeoutMilliseconds := toLong (max timeoutSeconds 1 * 1000)
  match deadlineAt with
  | none => configuredTimeoutMilliseconds
  | some deadlineAt => min configuredTimeoutMilliseconds (max (toLong (deadlineAt - now)) 1)

/-- `job.deadlineAt != null && job.deadlineAt <= System.currentTimeMillis()`. -/
def RpcJob.isLate (job : RpcJob) (now : Int) : Bool :=
  match job.deadlineAt with
  | none => false
  | some deadlineAt => decide (deadlineAt ≤ now)

/-! ## One job -/

/-- How the coroutine of a handler completes. -/
inductive Completion (AppAudit : Type) where
  | returns (result : DeviceActionResult AppAudit)
  | throws (throwable : Throwable)

/-- The catch clauses of `executeJob`; nothing if the exception is thrown on. -/
def recover (timeoutMilliseconds : Int) (throwable : Throwable) :
    Option (DeviceActionResult AppAudit) :=
  match throwable.kind with
  | .timeoutCancellation => some (timedOut timeoutMilliseconds)
  | .cancellation => none
  | .other => some (failed throwable)

/-- How `executeJob` comes to its end. -/
inductive Ending (AppAudit : Type) where
  | late
  | notRegistered
  | timedOut
  | completed (completion : Completion AppAudit)

/-- What `executeJob` returns; nothing if it throws. -/
def Ending.result (job : RpcJob) (timeoutMilliseconds : Int) :
    Ending AppAudit → Option (DeviceActionResult AppAudit)
  | .late => some deadlinePassed
  | .notRegistered => some (Jobs.notRegistered job)
  | .timedOut => some (Jobs.timedOut timeoutMilliseconds)
  | .completed (.returns result) => some result
  | .completed (.throws throwable) => recover timeoutMilliseconds throwable

/-- Where the coroutine of a job stands: before its first instruction, in {lit}`withTimeout`, or
at its end. -/
inductive Stage (AppAudit : Type) where
  | launched
  | waiting (timerFired : Bool) (completion : Option (Completion AppAudit))
  | ended (ending : Ending AppAudit)

/-- A job whose coroutine has been launched. -/
structure Running (AppAudit : Type) where
  job : RpcJob
  timeoutMilliseconds : Int
  stage : Stage AppAudit

/-- A result frame. -/
structure Frame where
  requestId : JsString
  fields : List (JsString × JsonElement)

variable (encodeToJsonElement : AppAudit → Option JsonElement) (clientId : JsString)

/-- The audit of a result, if it has none or one that can be encoded. -/
def appAuditFields : Option AppAudit → Option (List (JsString × JsonElement))
  | none => some []
  | some appAudit => (encodeToJsonElement appAudit).map fun element => [(lit "appAudit", element)]

/-- `buildResult`; nothing if the audit cannot be encoded. -/
def buildResult (job : RpcJob) (result : DeviceActionResult AppAudit) : Option Frame :=
  (appAuditFields encodeToJsonElement result.appAudit).map fun appAudit =>
    { requestId := job.requestId
      fields :=
        [(lit "type", .string (lit "result")), (lit "requestId", .string job.requestId),
          (lit "clientId", .string clientId),
          (lit "status", .string
            (result.status.getD (if result.isOk then lit "ok" else lit "error"))),
          (lit "is_ok", .literal false (if result.isOk then lit "true" else lit "false")),
          (lit "httpCode", .literal false
            (integerText (result.httpCode.getD (if result.isOk then 200 else 500))))] ++
        (result.payload.map fun payload => (lit "payload", payload)).toList ++
        (result.error.map fun error => (lit "error", JsonElement.string error)).toList ++
        appAudit }

/-- The frame that a job sends at its end, if it sends one. -/
def Running.frame (running : Running AppAudit) : Option Frame :=
  match running.stage with
  | .ended ending =>
      (ending.result running.job running.timeoutMilliseconds).bind
        (buildResult encodeToJsonElement clientId running.job)
  | _ => none

/-! ## The device -/

/-- The coroutines of the jobs on one socket, and the frames sent on it. -/
structure State (AppAudit : Type) where
  socketOpen : Bool
  jobs : List (Running AppAudit)
  sent : List Frame

/-- A socket without jobs. -/
def connected : State AppAudit := ⟨true, [], []⟩

/-- What happens next: a message with a new job, the first instructions of its coroutine with
the readings of the clock and whether there is a handler, the timeout, the completion of the
handler, the rest of the coroutine, the end of the connection. -/
inductive Action (AppAudit : Type) where
  | job (job : RpcJob)
  | starts (index : Nat) (now later : Int) (registered : Bool)
  | timeout (index : Nat)
  | completes (index : Nat) (completion : Completion AppAudit)
  | resumes (index : Nat)
  | closes

/-- A job comes to its end, and its frame is sent. -/
def State.finish (state : State AppAudit) (index : Nat) (running : Running AppAudit)
    (ending : Ending AppAudit) : State AppAudit :=
  let running := { running with stage := .ended ending }
  { state with
    jobs := state.jobs.set index running
    sent := state.sent ++
      if state.socketOpen then (running.frame encodeToJsonElement clientId).toList else [] }

/-- A job moves on. -/
def State.move (state : State AppAudit) (index : Nat) (running : Running AppAudit)
    (stage : Stage AppAudit) : State AppAudit :=
  { state with jobs := state.jobs.set index { running with stage := stage } }

/-- `executeJob` up to `withTimeout`. -/
def State.start (state : State AppAudit) (index : Nat) (running : Running AppAudit)
    (now later : Int) (registered : Bool) : State AppAudit :=
  if running.job.isLate now then state.finish encodeToJsonElement clientId index running .late
  else if registered then
    state.move index
      { running with
        timeoutMilliseconds :=
          resolveTimeoutMilliseconds running.job.timeoutSeconds running.job.deadlineAt later }
      (.waiting false none)
  else state.finish encodeToJsonElement clientId index running .notRegistered

/-- One step; every job has a request id of its own. -/
def State.next (state : State AppAudit) : Action AppAudit → Option (State AppAudit)
  | .job job =>
      if state.socketOpen ∧ ∀ running ∈ state.jobs, running.job.requestId ≠ job.requestId then
        some { state with jobs := state.jobs ++ [⟨job, 0, .launched⟩] }
      else none
  | .starts index now later registered =>
      state.jobs[index]?.bind fun running =>
        match running.stage with
        | .launched =>
            some (state.start encodeToJsonElement clientId index running now later registered)
        | _ => none
  | .timeout index =>
      state.jobs[index]?.bind fun running =>
        match running.stage with
        | .waiting false completion => some (state.move index running (.waiting true completion))
        | _ => none
  | .completes index completion =>
      state.jobs[index]?.bind fun running =>
        match running.stage with
        | .waiting timerFired none =>
            some (state.move index running (.waiting timerFired (some completion)))
        | .ended _ => some state  -- nobody waits for the handler any more
        | _ => none
  | .resumes index =>
      state.jobs[index]?.bind fun running =>
        match running.stage with
        | .waiting true _ =>
            some (state.finish encodeToJsonElement clientId index running .timedOut)
        | .waiting false (some completion) =>
            some (state.finish encodeToJsonElement clientId index running (.completed completion))
        | _ => none
  | .closes => some { state with socketOpen := false }

/-- The device on one socket. -/
def machine : Machine (State AppAudit) (Action AppAudit) where
  initial := fun state => state = connected
  step := State.next encodeToJsonElement clientId

/-! ## Frames -/

/-- The frames with a request id. -/
def State.framesOf (state : State AppAudit) (requestId : JsString) : List Frame :=
  state.sent.filter fun frame => frame.requestId = requestId

variable {encodeToJsonElement clientId} {state state' : State AppAudit}
  {running running' : Running AppAudit} {frame : Frame}

/-- A frame names its job and the device. -/
theorem buildResult_names {job : RpcJob} {result : DeviceActionResult AppAudit}
    (h : buildResult encodeToJsonElement clientId job result = some frame) :
    frame.requestId = job.requestId ∧
      (lit "requestId", JsonElement.string job.requestId) ∈ frame.fields ∧
      (lit "clientId", JsonElement.string clientId) ∈ frame.fields := by
  rw [buildResult, Option.map_eq_some_iff] at h
  rcases h with ⟨appAudit, -, rfl⟩
  exact ⟨rfl, by simp, by simp⟩

theorem frame_requestId (h : running.frame encodeToJsonElement clientId = some frame) :
    frame.requestId = running.job.requestId := by
  unfold Running.frame at h
  split at h
  · rcases Option.bind_eq_some_iff.mp h with ⟨result, -, hframe⟩
    exact (buildResult_names hframe).1
  · cases h

/-- A job that has not ended has sent nothing. -/
def Stage.isEnded : Stage AppAudit → Bool
  | .ended _ => true
  | _ => false

theorem frame_of_not_ended (h : running.stage.isEnded = false) :
    running.frame encodeToJsonElement clientId = none := by
  unfold Running.frame
  split
  · rename_i hstage
    rw [hstage] at h
    cases h
  · rfl

/-! ## The invariant -/

variable (encodeToJsonElement clientId) in
/-- Request ids are distinct, and what was sent on the open socket are the frames of the
jobs. -/
structure State.Tidy (state : State AppAudit) : Prop where
  distinct : (state.jobs.map fun running => running.job.requestId).Nodup
  frames : state.socketOpen = true → ∀ running ∈ state.jobs,
    state.framesOf running.job.requestId = (running.frame encodeToJsonElement clientId).toList
  owners : ∀ frame ∈ state.sent, ∃ running ∈ state.jobs,
    running.job.requestId = frame.requestId

theorem connected_tidy :
    State.Tidy encodeToJsonElement clientId (connected : State AppAudit) where
  distinct := List.nodup_nil
  frames := by simp [connected]
  owners := by simp [connected]

/-- A job that goes on without ending. -/
theorem State.Tidy.move (h : state.Tidy encodeToJsonElement clientId) {index : Nat}
    {stage : Stage AppAudit} (hget : state.jobs[index]? = some running)
    (hbefore : running.stage.isEnded = false) (hafter : stage.isEnded = false)
    (hjob : running'.job = running.job) :
    State.Tidy encodeToJsonElement clientId (state.move index running' stage) := by
  have hkey : { running' with stage := stage }.job.requestId = running.job.requestId :=
    congrArg RpcJob.requestId hjob
  have hids : ((state.move index running' stage).jobs.map fun running =>
      running.job.requestId) = state.jobs.map fun running => running.job.requestId :=
    map_set_same hget hkey
  refine ⟨by rw [hids]; exact h.distinct, fun hopen other hmem => ?_, fun frame hframe => ?_⟩
  · rcases mem_set_of_nodup h.distinct hget hmem with rfl | ⟨hold, -⟩
    · have hnone := h.frames hopen running (List.mem_of_getElem? hget)
      rw [frame_of_not_ended hbefore] at hnone
      rw [frame_of_not_ended hafter, hkey]
      exact hnone
    · exact h.frames hopen other hold
  · have hmem : frame.requestId ∈ state.jobs.map fun running => running.job.requestId :=
      List.mem_map.mpr (h.owners frame hframe)
    rw [← hids] at hmem
    exact List.mem_map.mp hmem

/-- A job that ends. -/
theorem State.Tidy.finish (h : state.Tidy encodeToJsonElement clientId) {index : Nat}
    (hget : state.jobs[index]? = some running) (hbefore : running.stage.isEnded = false)
    (ending : Ending AppAudit) :
    State.Tidy encodeToJsonElement clientId
      (state.finish encodeToJsonElement clientId index running ending) := by
  set ended : Running AppAudit := { running with stage := .ended ending } with hended
  have hjob : ended.job = running.job := rfl
  have hids : ((state.finish encodeToJsonElement clientId index running ending).jobs.map
      fun running => running.job.requestId) = state.jobs.map fun running => running.job.requestId :=
    map_set_same hget rfl
  refine ⟨by rw [hids]; exact h.distinct, fun hopen other hmem => ?_, fun frame hframe => ?_⟩
  · have hopen' : state.socketOpen = true := hopen
    have hsent : (state.finish encodeToJsonElement clientId index running ending).sent =
        state.sent ++ (ended.frame encodeToJsonElement clientId).toList := by
      simp [State.finish, hopen', hended]
    have hframe : ∀ frame ∈ (ended.frame encodeToJsonElement clientId).toList,
        frame.requestId = ended.job.requestId := fun frame hmem =>
      frame_requestId (Option.mem_toList.mp hmem)
    rw [State.framesOf, hsent, List.filter_append]
    rcases mem_set_of_nodup h.distinct hget hmem with rfl | ⟨hold, hother⟩
    · have hnone := h.frames hopen' running (List.mem_of_getElem? hget)
      rw [frame_of_not_ended hbefore, Option.toList_none, State.framesOf] at hnone
      rw [hjob, hnone, List.nil_append, List.filter_eq_self.mpr]
      intro frame hmem
      simpa using hframe frame hmem
    · have hold' := h.frames hopen' other hold
      rw [State.framesOf] at hold'
      rw [hold', List.filter_eq_nil_iff.mpr, List.append_nil]
      intro frame hmem
      rw [hframe frame hmem, hjob]
      simpa using hother.symm
  · have howner : ∃ owner ∈ state.jobs, owner.job.requestId = frame.requestId := by
      rcases List.mem_append.mp hframe with hold | hnew
      · exact h.owners frame hold
      · refine ⟨running, List.mem_of_getElem? hget, ?_⟩
        split at hnew
        · exact (frame_requestId (Option.mem_toList.mp hnew)).symm
        · cases hnew
    have hmem : frame.requestId ∈ state.jobs.map fun running => running.job.requestId :=
      List.mem_map.mpr howner
    rw [← hids] at hmem
    exact List.mem_map.mp hmem

/-- A job that arrives. -/
theorem State.Tidy.append (h : state.Tidy encodeToJsonElement clientId) {job : RpcJob}
    (hfresh : ∀ running ∈ state.jobs, running.job.requestId ≠ job.requestId) :
    State.Tidy encodeToJsonElement clientId
      { state with jobs := state.jobs ++ [⟨job, 0, .launched⟩] } where
  distinct := by
    rw [List.map_append, List.nodup_append]
    refine ⟨h.distinct, List.nodup_singleton _, ?_⟩
    intro id hid other hother
    rcases List.mem_map.mp hid with ⟨running, hmem, rfl⟩
    rw [List.mem_singleton.mp hother]
    exact hfresh running hmem
  frames := by
    intro hopen other hmem
    rcases List.mem_append.mp hmem with hold | hnew
    · exact h.frames hopen other hold
    · rw [List.mem_singleton.mp hnew]
      refine List.filter_eq_nil_iff.mpr fun frame hframe => ?_
      rcases h.owners frame hframe with ⟨owner, howner, hid⟩
      simpa [← hid] using hfresh owner howner
  owners := by
    intro frame hframe
    rcases h.owners frame hframe with ⟨owner, howner, hid⟩
    exact ⟨owner, List.mem_append_left _ howner, hid⟩

/-! ## Steps -/

/-- What has happened so far stays: frames are only added, jobs keep their places and their
ends, a closed socket stays closed. -/
structure Grows (state state' : State AppAudit) : Prop where
  sent : state.sent <+: state'.sent
  jobs : ∀ running ∈ state.jobs, ∃ running' ∈ state'.jobs, running'.job = running.job ∧
    (running.stage.isEnded = true → running' = running)
  closed : state'.socketOpen = true → state.socketOpen = true

theorem Grows.refl (state : State AppAudit) : Grows state state where
  sent := List.prefix_rfl
  jobs := fun running hmem => ⟨running, hmem, rfl, fun _ => rfl⟩
  closed := id

theorem Grows.trans {first middle last : State AppAudit} (h : Grows first middle)
    (h' : Grows middle last) : Grows first last where
  sent := h.sent.trans h'.sent
  jobs := by
    intro running hmem
    rcases h.jobs running hmem with ⟨running', hmem', hjob, hkept⟩
    rcases h'.jobs running' hmem' with ⟨running'', hmem'', hjob', hkept'⟩
    refine ⟨running'', hmem'', hjob'.trans hjob, fun hended => ?_⟩
    obtain rfl := hkept hended
    exact hkept' hended
  closed := fun hopen => h.closed (h'.closed hopen)

variable (running') in
/-- A step that replaces a job that has not ended. -/
theorem grows_of_set {index : Nat} (hget : state.jobs[index]? = some running)
    (hbefore : running.stage.isEnded = false) (hjob : running'.job = running.job)
    (hsent : state.sent <+: state'.sent) (hjobs : state'.jobs = state.jobs.set index running')
    (hopen : state'.socketOpen = state.socketOpen) : Grows state state' where
  sent := hsent
  jobs := by
    intro other hmem
    rcases List.mem_iff_getElem?.mp hmem with ⟨place, hplace⟩
    rw [hjobs]
    by_cases hsame : index = place
    · subst hsame
      obtain rfl : running = other := Option.some.inj (hget.symm.trans hplace)
      refine ⟨running', ?_, hjob, fun hended => ?_⟩
      · exact List.mem_set (List.getElem?_eq_some_iff.mp hget).1 _
      · rw [hbefore] at hended
        cases hended
    · refine ⟨other, ?_, rfl, fun _ => rfl⟩
      refine List.mem_of_getElem? (i := place) ?_
      rw [List.getElem?_set_ne hsame, hplace]
  closed := by
    intro h
    rwa [hopen] at h

theorem State.grows_move {index : Nat} {stage : Stage AppAudit}
    (hget : state.jobs[index]? = some running) (hbefore : running.stage.isEnded = false)
    (hjob : running'.job = running.job) : Grows state (state.move index running' stage) :=
  grows_of_set { running' with stage := stage } hget hbefore hjob List.prefix_rfl rfl rfl

theorem State.grows_finish {index : Nat} {ending : Ending AppAudit}
    (hget : state.jobs[index]? = some running) (hbefore : running.stage.isEnded = false) :
    Grows state (state.finish encodeToJsonElement clientId index running ending) :=
  grows_of_set { running with stage := .ended ending } hget hbefore rfl
    (List.prefix_append _ _) rfl rfl

/-- One step keeps the invariant. -/
theorem next_tidy {action : Action AppAudit} (h : state.Tidy encodeToJsonElement clientId)
    (hnext : state.next encodeToJsonElement clientId action = some state') :
    state'.Tidy encodeToJsonElement clientId ∧ Grows state state' := by
  cases action with
  | job job =>
      rw [State.next] at hnext
      split at hnext
      · rename_i hfresh
        obtain rfl := Option.some.inj hnext
        refine ⟨h.append hfresh.2, List.prefix_rfl, fun running hmem => ?_, id⟩
        exact ⟨running, List.mem_append_left _ hmem, rfl, fun _ => rfl⟩
      · cases hnext
  | starts index now later registered =>
      simp only [State.next, Option.bind_eq_some_iff] at hnext
      rcases hnext with ⟨running, hget, hnext⟩
      split at hnext
      · rename_i hstage
        obtain rfl := Option.some.inj hnext
        have hbefore : running.stage.isEnded = false := by rw [hstage]; rfl
        unfold State.start
        split
        · exact ⟨h.finish hget hbefore _, State.grows_finish hget hbefore⟩
        · split
          · exact ⟨h.move hget hbefore rfl rfl, State.grows_move hget hbefore rfl⟩
          · exact ⟨h.finish hget hbefore _, State.grows_finish hget hbefore⟩
      · cases hnext
  | timeout index =>
      simp only [State.next, Option.bind_eq_some_iff] at hnext
      rcases hnext with ⟨running, hget, hnext⟩
      split at hnext
      · rename_i hstage
        obtain rfl := Option.some.inj hnext
        have hbefore : running.stage.isEnded = false := by rw [hstage]; rfl
        exact ⟨h.move hget hbefore rfl rfl, State.grows_move hget hbefore rfl⟩
      · cases hnext
  | completes index completion =>
      simp only [State.next, Option.bind_eq_some_iff] at hnext
      rcases hnext with ⟨running, hget, hnext⟩
      split at hnext
      · rename_i hstage
        obtain rfl := Option.some.inj hnext
        have hbefore : running.stage.isEnded = false := by rw [hstage]; rfl
        exact ⟨h.move hget hbefore rfl rfl, State.grows_move hget hbefore rfl⟩
      · obtain rfl := Option.some.inj hnext
        exact ⟨h, Grows.refl state⟩
      · cases hnext
  | resumes index =>
      simp only [State.next, Option.bind_eq_some_iff] at hnext
      rcases hnext with ⟨running, hget, hnext⟩
      split at hnext
      · rename_i hstage
        obtain rfl := Option.some.inj hnext
        have hbefore : running.stage.isEnded = false := by rw [hstage]; rfl
        exact ⟨h.finish hget hbefore _, State.grows_finish hget hbefore⟩
      · rename_i hstage
        obtain rfl := Option.some.inj hnext
        have hbefore : running.stage.isEnded = false := by rw [hstage]; rfl
        exact ⟨h.finish hget hbefore _, State.grows_finish hget hbefore⟩
      · cases hnext
  | closes =>
      obtain rfl := Option.some.inj hnext
      refine ⟨⟨h.distinct, ?_, h.owners⟩, List.prefix_rfl, (Grows.refl state).jobs, ?_⟩
      · intro hopen
        cases hopen
      · intro hopen
        cases hopen

/-- A run keeps the invariant. -/
theorem run_tidy {actions : List (Action AppAudit)}
    (h : state.Tidy encodeToJsonElement clientId)
    (hrun : (machine encodeToJsonElement clientId).run state actions = some state') :
    state'.Tidy encodeToJsonElement clientId ∧ Grows state state' := by
  induction actions generalizing state with
  | nil =>
      obtain rfl := Option.some.inj hrun
      exact ⟨h, Grows.refl state⟩
  | cons action actions ih =>
      rcases Machine.run_cons_eq_some.mp hrun with ⟨middle, hstep, hrest⟩
      rcases next_tidy h hstep with ⟨hmiddle, hgrows⟩
      rcases ih hmiddle hrest with ⟨hlast, hlater⟩
      exact ⟨hlast, hgrows.trans hlater⟩

/-! ## One result per job -/

/-- The result that a job should get: the handler's own, or the one that says why there is
none. -/
def Ending.expected (job : RpcJob) (timeoutMilliseconds : Int) :
    Ending AppAudit → DeviceActionResult AppAudit
  | .late => deadlinePassed
  | .notRegistered => Jobs.notRegistered job
  | .timedOut => Jobs.timedOut timeoutMilliseconds
  | .completed (.returns result) => result
  | .completed (.throws throwable) => failed throwable

variable (encodeToJsonElement) in
/-- A handler that completes in time throws no cancellation, and returns an audit that can be
encoded. -/
def Ending.Mapped : Ending AppAudit → Prop
  | .completed (.returns result) => (appAuditFields encodeToJsonElement result.appAudit).isSome
  | .completed (.throws throwable) => throwable.kind = .other
  | _ => True

variable (encodeToJsonElement clientId) in
/-- The one frame of a job carries a result. -/
def State.Answers (state : State AppAudit) (job : RpcJob) (result : DeviceActionResult AppAudit) :
    Prop :=
  ∃ frame, buildResult encodeToJsonElement clientId job result = some frame ∧
    state.framesOf job.requestId = [frame]

variable (encodeToJsonElement clientId) in
theorem buildResult_isSome (job : RpcJob) (result : DeviceActionResult AppAudit) :
    (buildResult encodeToJsonElement clientId job result).isSome =
      (appAuditFields encodeToJsonElement result.appAudit).isSome := by
  rw [buildResult, Option.isSome_map]

/-- Results with different statuses make different frames. -/
theorem buildResult_ne {job : RpcJob} {result result' : DeviceActionResult AppAudit}
    {status status' : JsString} (hstatus : result.status = some status)
    (hstatus' : result'.status = some status') (hne : status ≠ status')
    (h : buildResult encodeToJsonElement clientId job result = some frame) :
    buildResult encodeToJsonElement clientId job result' ≠ some frame := by
  intro h'
  rw [buildResult, Option.map_eq_some_iff] at h h'
  rcases h with ⟨appAudit, -, rfl⟩
  rcases h' with ⟨appAudit', -, heq⟩
  simp only [hstatus, hstatus', Option.getD_some, Frame.mk.injEq, List.append_assoc,
    List.cons_append, List.cons.injEq, Prod.mk.injEq, JsonElement.string,
    JsonElement.literal.injEq] at heq
  exact hne heq.2.2.2.2.1.2.2.symm

/-- What a job has sent is what it should get, exactly if its ending is mapped. -/
theorem answers_iff {job : RpcJob} {timeoutMilliseconds : Int} {ending : Ending AppAudit}
    (hframes : state.framesOf job.requestId = ((ending.result job timeoutMilliseconds).bind
      (buildResult encodeToJsonElement clientId job)).toList) :
    state.Answers encodeToJsonElement clientId job (ending.expected job timeoutMilliseconds) ↔
      ending.Mapped encodeToJsonElement := by
  rw [State.Answers, hframes]
  cases ending with
  | late => exact ⟨fun _ => trivial, fun _ => ⟨_, rfl, rfl⟩⟩
  | notRegistered => exact ⟨fun _ => trivial, fun _ => ⟨_, rfl, rfl⟩⟩
  | timedOut => exact ⟨fun _ => trivial, fun _ => ⟨_, rfl, rfl⟩⟩
  | completed completion =>
      cases completion with
      | returns result =>
          rw [Ending.Mapped, ← buildResult_isSome encodeToJsonElement clientId job result]
          constructor
          · rintro ⟨frame, hframe, -⟩
            exact Option.isSome_of_eq_some hframe
          · intro hsome
            rcases Option.isSome_iff_exists.mp hsome with ⟨frame, hframe⟩
            exact ⟨frame, hframe, by simp [Ending.result, hframe]⟩
      | throws throwable =>
          rw [Ending.Mapped, Ending.result, recover]
          cases hkind : throwable.kind with
          | other => exact ⟨fun _ => rfl, fun _ => ⟨_, rfl, rfl⟩⟩
          | cancellation => simp
          | timeoutCancellation =>
              simp only [reduceCtorEq, iff_false, Option.bind_some]
              rintro ⟨frame, hframe, hsent⟩
              have hother : buildResult encodeToJsonElement clientId job
                  (timedOut timeoutMilliseconds) ≠ some frame :=
                buildResult_ne rfl rfl (by decide) hframe
              rcases Option.isSome_iff_exists.mp (show (buildResult encodeToJsonElement clientId job
                (timedOut timeoutMilliseconds)).isSome = true from rfl) with ⟨sent, hsome⟩
              rw [hsome, Option.toList_some, List.cons.injEq] at hsent
              exact hother (hsent.1 ▸ hsome)

/-- A step of one job. -/
def Action.concerns (index : Nat) : Action AppAudit → Prop
  | .starts place _ _ _ => place = index
  | .timeout place => place = index
  | .resumes place => place = index
  | _ => False

variable (encodeToJsonElement clientId) in
/-- A job that has not ended can go on, whatever its handler does. -/
theorem State.goes_on {index : Nat} (hget : state.jobs[index]? = some running)
    (hended : running.stage.isEnded = false) :
    ∃ action, action.concerns index ∧
      (state.next encodeToJsonElement clientId action).isSome = true := by
  cases hstage : running.stage with
  | launched =>
      refine ⟨.starts index 0 0 true, rfl, ?_⟩
      rw [State.next, hget, Option.bind_some, hstage]
      rfl
  | waiting timerFired completion =>
      cases timerFired with
      | true =>
          refine ⟨.resumes index, rfl, ?_⟩
          rw [State.next, hget, Option.bind_some, hstage]
          rfl
      | false =>
          refine ⟨.timeout index, rfl, ?_⟩
          rw [State.next, hget, Option.bind_some, hstage]
          rfl
  | ended ending =>
      rw [hstage] at hended
      cases hended

end

/-! ## Two runs -/

/-- A job of a device whose audits are always encoded. -/
def sampleJob : RpcJob :=
  ⟨lit "job", lit "request-1", lit "project", lit "action", .null, 20, none⟩

/-- The job with a handler that throws at once. -/
def throwingRun (kind : ThrowableKind) : List (Action Unit) :=
  [.job sampleJob, .starts 0 0 0 true,
    .completes 0 (.throws ⟨kind, some (lit "stopped"), lit "Exception"⟩), .resumes 0]

/-- The job at the end. -/
def throwingJob (kind : ThrowableKind) : Running Unit :=
  ⟨sampleJob, 20000, .ended (.completed (.throws ⟨kind, some (lit "stopped"), lit "Exception"⟩))⟩

/-- The device at the end. -/
def throwingState (kind : ThrowableKind) : State Unit where
  socketOpen := true
  jobs := [throwingJob kind]
  sent := ((throwingJob kind).frame (fun _ => some .null) (lit "device-1")).toList

theorem throwing_run (kind : ThrowableKind) :
    (machine (fun _ : Unit => some .null) (lit "device-1")).run connected (throwingRun kind) =
      some (throwingState kind) := rfl

end Jobs
end KotlinDevice
end R2RPC
