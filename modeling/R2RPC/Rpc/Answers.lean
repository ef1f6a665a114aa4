import R2RPC.Rpc.Invoke

/-!
# Every invocation answers once

Whatever its awaits do and whatever arrives meanwhile, a call of {lit}`invoke` ends with one
answer, one log, one release of its slot, and nothing left in the registry.

Main results:

- Structure {lit}`State.Answered`: what a call leaves behind.
- Definition {lit}`State.Sound`: what there is for every call at each of its stages.
- Theorem {lit}`State.Sound.next`: one step.
- Theorem {lit}`State.remaining_next`: a call has a bounded number of steps before it.
- Theorem {lit}`answered_once`: each call is answered and logged once, and cleans up.
-/

namespace R2RPC
namespace Rpc
namespace Invoke

open Utf16 Binary JavaScript Interleaving

/-! ## What a call leaves behind -/

namespace State

/-- A call has been answered and logged once, the slot of its device was released once, and
nothing waits for it. -/
structure Answered (state : State) (call : Call) (response : InvokeResponse) : Prop where
  identity : response.requestId = call.requestId
  logged : ∃ entry, state.logs.filter (·.response.requestId == call.requestId) = [entry] ∧
    (requestLogJob entry.input entry.response).requestId = response.requestId ∧
    (requestLogJob entry.input entry.response).status = response.status ∧
    (requestLogJob entry.input entry.response).httpCode = response.httpCode ∧
    (requestLogJob entry.input entry.response).clientId = response.clientId
  released : state.releases.filter (·.1 == call.requestId) =
    call.device.toList.map fun clientId => (call.requestId, clientId)
  waiters : ∀ waiter ∈ state.waiters, waiter.1 ≠ call.requestId
  timers : call.requestId ∉ state.timers

end State

/-- An await of a call, its timer, or what follows them. -/
def Action.own (requestId : JsString) : Action → Bool
  | .await other _ _ | .resume other _ | .timer other => other == requestId
  | .invoke _ _ _ | .result _ _ _ => false

/-! ## The invariant -/

/-- While a result is wanted, the waiter and its timer are there until the promise is settled. -/
def Call.Waiting (call : Call) (view : State.View) : Prop :=
  match call.promise with
  | .absent => False
  | .pending => (∃ clientId, view.waiters = [(call.requestId, clientId)]) ∧
      view.timers = [call.requestId]
  | .resolved _ | .rejected _ => view.waiters = [] ∧ view.timers = []

/-- What there is for a call, by its stage. -/
structure Call.Sound (call : Call) (view : State.View) : Prop where
  early : call.stage.early = true → call.device = none ∧ view = .empty
  waiting : ∀ clientId, call.stage.waiting = some clientId →
    call.device = some clientId ∧ view.logs = [] ∧ view.releases = [] ∧ call.Waiting view
  answered : ∀ completion, call.stage = .releasing completion ∨ call.stage = .settled completion →
    ∃ response entry, completion = .ok response ∧ response.requestId = call.requestId ∧
      entry.response = response ∧
        view = ⟨[], [], [entry], call.device.toList.map fun clientId => (call.requestId, clientId)⟩

namespace Call

variable {call : Call} {view : State.View}

theorem sound_of_early (hearly : call.stage.early = true) (hdevice : call.device = none)
    (hview : view = .empty) : call.Sound view where
  early := fun _ => ⟨hdevice, hview⟩
  waiting := by
    intro clientId hwaiting
    cases hstage : call.stage <;> simp [hstage, Stage.early, Stage.waiting] at hearly hwaiting
  answered := by
    rintro completion (hstage | hstage) <;> simp [hstage, Stage.early] at hearly

theorem sound_of_waiting {clientId : JsString} (hstage : call.stage.waiting = some clientId)
    (hdevice : call.device = some clientId) (hlogs : view.logs = []) (hreleases : view.releases = [])
    (hwaiting : call.Waiting view) : call.Sound view where
  early := by
    intro hearly
    cases hcase : call.stage <;> simp [hcase, Stage.early, Stage.waiting] at hearly hstage
  waiting := by
    intro other hother
    rw [hstage] at hother
    exact ⟨hdevice.trans hother, hlogs, hreleases, hwaiting⟩
  answered := by
    rintro completion (hcase | hcase) <;> simp [hcase, Stage.waiting] at hstage

theorem sound_of_answered {completion : Completion} {response : InvokeResponse} (entry : LogCall)
    (hstage : call.stage = .releasing completion ∨ call.stage = .settled completion)
    (hcompletion : completion = .ok response) (hid : response.requestId = call.requestId)
    (hentry : entry.response = response)
    (hview : view =
      ⟨[], [], [entry], call.device.toList.map fun clientId => (call.requestId, clientId)⟩) :
    call.Sound view where
  early := by
    intro hearly
    rcases hstage with hstage | hstage <;> simp [hstage, Stage.early] at hearly
  waiting := by
    intro clientId hwaiting
    rcases hstage with hstage | hstage <;> simp [hstage, Stage.waiting] at hwaiting
  answered := by
    intro other hother
    have hsame : other = completion := by
      rcases hstage with hstage | hstage <;> rcases hother with hother | hother <;>
        simp_all
    exact ⟨response, entry, hsame.trans hcompletion, hid, hentry, hview⟩

/-- A promise that is settled has no waiter any more. -/
theorem Waiting.settle {promise : ResultPromise} (h : call.Waiting view)
    (hsettled : (∃ result, promise = .resolved result) ∨ ∃ reason, promise = .rejected reason) :
    (call.settle promise).Waiting view.dropped := by
  rw [Waiting] at h
  unfold Call.settle
  cases hpromise : call.promise with
  | absent => simp [hpromise] at h
  | pending => rcases hsettled with ⟨result, rfl⟩ | ⟨reason, rfl⟩ <;> exact ⟨rfl, rfl⟩
  | resolved result => simp [Waiting, hpromise, State.View.dropped]
  | rejected reason => simp [Waiting, hpromise, State.View.dropped]

@[simp]
theorem settle_requestId (promise : ResultPromise) (call : Call) :
    (call.settle promise).requestId = call.requestId := by
  unfold settle
  split <;> rfl

theorem settle_stage (promise : ResultPromise) (call : Call) :
    (call.settle promise).stage = call.stage ∧ (call.settle promise).device = call.device := by
  unfold settle
  split <;> exact ⟨rfl, rfl⟩

end Call

namespace State

variable {state state' : State} {call : Call} {now : Int} {requestId other : JsString}

/-- What there is for a request. -/
def SoundAt (state : State) (requestId : JsString) : Prop :=
  match state.call? requestId with
  | none => state.view requestId = .empty
  | some call => call.Sound (state.view requestId)

/-- The invariant of an instance. -/
def Sound (state : State) : Prop := ∀ requestId, state.SoundAt requestId

theorem sound_idle : idle.Sound := fun _ => rfl

/-- Nothing changes about a request. -/
def Same (state state' : State) (requestId : JsString) : Prop :=
  state'.call? requestId = state.call? requestId ∧ state'.view requestId = state.view requestId

/-- A step that changes one call. -/
theorem Sound.change (h : state.Sound)
    (hother : ∀ other, other ≠ requestId → state.Same state' other)
    (hself : state'.SoundAt requestId) : state'.Sound := by
  intro other
  by_cases hsame : other = requestId
  · exact hsame ▸ hself
  · rcases hother other hsame with ⟨hcall, hview⟩
    rw [SoundAt, hcall, hview]
    exact h other

theorem Same.trans {state'' : State} (h : state.Same state' requestId)
    (h' : state'.Same state'' requestId) : state.Same state'' requestId :=
  ⟨h'.1.trans h.1, h'.2.trans h.2⟩

theorem same_modify {change : Call → Call}
    (hid : ∀ call, (change call).requestId = call.requestId) (hne : other ≠ requestId) :
    state.Same (state.modify requestId change) other := by
  refine ⟨?_, rfl⟩
  rw [call?_modify _ _ _ change hid, if_neg hne]

theorem same_moveTo (hne : other ≠ call.requestId) (stage : Stage) :
    state.Same (state.moveTo call stage) other := same_modify (fun _ => rfl) hne

theorem same_finish (hne : other ≠ call.requestId) (clientId : JsString) (completion : Completion) :
    state.Same (state.finish call clientId completion) other := by
  let released : State :=
    { state with releases := state.releases ++ [(call.requestId, clientId)] }
  have hmoved : released.Same (released.moveTo call (.releasing completion)) other :=
    same_moveTo hne _
  exact ⟨hmoved.1, view_finish_ne hne clientId completion⟩

theorem same_dropWaiter {change : Call → Call}
    (hid : ∀ call, (change call).requestId = call.requestId) (hne : other ≠ requestId) :
    state.Same ((state.dropWaiter requestId).modify requestId change) other := by
  have hdrop : state.Same (state.dropWaiter requestId) other := ⟨rfl, view_dropWaiter_ne hne⟩
  exact hdrop.trans (same_modify hid hne)

theorem same_cancelWaiter (hne : other ≠ requestId) (reason : JsString) :
    state.Same (state.cancelWaiter requestId reason) other := by
  rw [cancelWaiter]
  split
  · exact ⟨rfl, rfl⟩
  · exact same_dropWaiter (Call.settle_requestId _) hne

/-- `fail` logs its own answer. -/
theorem same_fail (hne : other ≠ call.requestId) (clientId : Option JsString) (status : String)
    (httpCode : Nat) (error : JsString) :
    state.Same (state.fail call now clientId status httpCode error).1 other :=
  ⟨rfl, view_enqueue_ne hne _ _⟩

/-! ### The call of a request after a step -/

theorem call?_moveTo {found : Call} (hget : state.call? call.requestId = some found)
    (stage : Stage) :
    (state.moveTo call stage).call? call.requestId = some { found with stage := stage } := by
  have hmodify := call?_modify state call.requestId call.requestId
    (fun call => { call with stage := stage }) fun _ => rfl
  rw [if_pos rfl, hget, Option.map_some] at hmodify
  exact hmodify

theorem head?_waiters : (state.view requestId).waiters.head? =
    state.waiters.find? (·.1 == requestId) := List.head?_filter

theorem view_dropped {view : View} (hwaiters : view.waiters = []) (htimers : view.timers = []) :
    view.dropped = view := by
  rw [View.dropped, ← hwaiters, ← htimers]

theorem settle_eq (promise : ResultPromise) (call : Call) :
    ∃ settled, call.settle promise = { call with promise := settled } := by
  unfold Call.settle
  split
  · exact ⟨promise, rfl⟩
  · exact ⟨call.promise, rfl⟩

theorem call?_settle (hget : state.call? requestId = some call) (promise : ResultPromise) :
    ((state.dropWaiter requestId).modify requestId (.settle promise)).call? requestId =
      some (call.settle promise) := by
  have hcall : (state.dropWaiter requestId).call? requestId = some call := hget
  rw [call?_modify _ _ _ _ (Call.settle_requestId _), if_pos rfl, hcall, Option.map_some]

theorem call?_cancelWaiter (hget : state.call? requestId = some call) (reason : JsString) :
    ∃ promise, (state.cancelWaiter requestId reason).call? requestId =
      some { call with promise := promise } := by
  rw [cancelWaiter]
  split
  · exact ⟨call.promise, hget⟩
  · rcases settle_eq (.rejected reason) call with ⟨promise, hsettled⟩
    exact ⟨promise, hsettled ▸ call?_settle hget _⟩

theorem call?_selected (hget : state.call? call.requestId = some call) (clientId : JsString) :
    (state.selected call clientId).call? call.requestId = some { call with
      device := some clientId, promise := .pending, stage := .marking clientId } := by
  have hcall : (state.registerWaiter call.requestId clientId).call? call.requestId = some call :=
    hget
  rw [selected, call?_modify _ _ _ _ (by exact fun _ => rfl), if_pos rfl, hcall, Option.map_some]

theorem call?_finish {found : Call} (hget : state.call? call.requestId = some found)
    (clientId : JsString) (completion : Completion) :
    (state.finish call clientId completion).call? call.requestId =
      some { found with stage := .releasing completion } := by
  let released : State :=
    { state with releases := state.releases ++ [(call.requestId, clientId)] }
  have hcall : released.call? call.requestId = some found := hget
  exact call?_moveTo hcall (.releasing completion)

theorem call?_answer (hget : state.call? call.requestId = some call) (clientId : Option JsString)
    (status : String) (httpCode : Nat) (error : JsString) :
    ∃ completion, (state.answer call now clientId status httpCode error).call? call.requestId =
      some { call with stage := .settled completion } := by
  let answered := state.fail call now clientId status httpCode error
  have hcall : answered.1.call? call.requestId = some call := hget
  exact ⟨.ok answered.2, call?_moveTo hcall _⟩

theorem call?_dispatchFailed (hget : state.call? call.requestId = some call)
    (clientId reason : JsString) (status : String) (error : JsString) :
    ∃ promise completion, (state.dispatchFailed call now clientId reason status error).call?
      call.requestId = some { call with promise := promise, stage := .releasing completion } := by
  let answered := (state.cancelWaiter call.requestId reason).fail call now (some clientId) status
    503 error
  rcases call?_cancelWaiter hget reason with ⟨promise, hcall⟩
  have hanswered : answered.1.call? call.requestId = some { call with promise := promise } := hcall
  exact ⟨promise, .ok answered.2, call?_finish hanswered clientId _⟩

theorem call?_timedOut (hget : state.call? call.requestId = some call) (clientId : JsString) :
    ∃ completion, (state.timedOut call now clientId).call? call.requestId =
      some { call with stage := .releasing completion } := by
  let answered := state.fail call now (some clientId) "timeout" 504 (timeoutError call)
  have hcall : answered.1.call? call.requestId = some call := hget
  exact ⟨.ok answered.2, call?_finish hcall clientId _⟩

/-- After the waiter was cancelled, nothing waits. -/
theorem view_cancelWaiter (hwaiting : call.Waiting (state.view requestId)) (reason : JsString) :
    (state.cancelWaiter requestId reason).view requestId = (state.view requestId).dropped := by
  rw [cancelWaiter, ← head?_waiters]
  rw [Call.Waiting] at hwaiting
  cases hpromise : call.promise with
  | absent => simp [hpromise] at hwaiting
  | pending =>
      rw [hpromise] at hwaiting
      rcases hwaiting with ⟨⟨clientId, hwaiters⟩, -⟩
      rw [hwaiters]
      exact view_dropWaiter_self
  | resolved result =>
      rw [hpromise] at hwaiting
      rcases hwaiting with ⟨hwaiters, htimers⟩
      rw [view_dropped hwaiters htimers, hwaiters]
      rfl
  | rejected message =>
      rw [hpromise] at hwaiting
      rcases hwaiting with ⟨hwaiters, htimers⟩
      rw [view_dropped hwaiters htimers, hwaiters]
      rfl

theorem soundAt_of_call? (hget : state.call? requestId = some call)
    (hsound : call.Sound (state.view requestId)) : state.SoundAt requestId := by
  rw [SoundAt, hget]
  exact hsound

theorem Sound.at (h : state.Sound) (hget : state.call? requestId = some call) :
    call.Sound (state.view requestId) := by
  have hat := h requestId
  rw [SoundAt, hget] at hat
  exact hat

/-! ### Steps of a call -/

theorem soundAt_answer (hget : state.call? call.requestId = some call) (hdevice : call.device = none)
    (hview : state.view call.requestId = .empty) (clientId : Option JsString) (status : String)
    (httpCode : Nat) (error : JsString) :
    (state.answer call now clientId status httpCode error).SoundAt call.requestId := by
  let answered := state.fail call now clientId status httpCode error
  have hcall : answered.1.call? call.requestId = some call := hget
  refine soundAt_of_call? (call?_moveTo hcall (.settled (.ok answered.2))) ?_
  refine Call.sound_of_answered ⟨call.input, answered.2, call.startedAt, .null, none⟩ (.inr rfl) rfl
    rfl rfl ?_
  have hlogged : answered.1.view call.requestId =
      ⟨[], [], [⟨call.input, answered.2, call.startedAt, .null, none⟩], []⟩ :=
    view_enqueue_self rfl hview .null none
  refine hlogged.trans ?_
  simp [hdevice]

theorem soundAt_selecting {next : Stage} (hget : state.call? call.requestId = some call)
    (hdevice : call.device = none) (hview : state.view call.requestId = .empty)
    (hnext : next.early = true) : (state.moveTo call next).SoundAt call.requestId :=
  soundAt_of_call? (call?_moveTo hget next) (Call.sound_of_early hnext hdevice hview)

theorem soundAt_selected (hget : state.call? call.requestId = some call)
    (hview : state.view call.requestId = .empty) (clientId : JsString) :
    (state.selected call clientId).SoundAt call.requestId := by
  refine soundAt_of_call? (call?_selected hget clientId) ?_
  have hregistered : (state.selected call clientId).view call.requestId =
      ⟨[(call.requestId, clientId)], [call.requestId], [], []⟩ := by
    rw [selected, view_modify, view_registerWaiter_self, hview]
    rfl
  rw [hregistered]
  exact Call.sound_of_waiting rfl rfl rfl rfl ⟨⟨clientId, rfl⟩, rfl⟩

/-- The answer that follows a dispatch, while nothing waits any more. -/
theorem soundAt_finish {clientId : JsString} {response : InvokeResponse} {entry : LogCall}
    (hget : state.call? call.requestId = some call) (hdevice : call.device = some clientId)
    (hid : response.requestId = call.requestId) (hentry : entry.response = response)
    (hview : state.view call.requestId = ⟨[], [], [entry], []⟩) :
    (state.finish call clientId (.ok response)).SoundAt call.requestId := by
  refine soundAt_of_call? (call?_finish hget clientId (.ok response)) ?_
  refine Call.sound_of_answered entry (.inl rfl) rfl hid hentry ?_
  rw [view_finish_self, hview]
  simp [hdevice]

theorem soundAt_dispatchFailed {clientId : JsString} (hget : state.call? call.requestId = some call)
    (hdevice : call.device = some clientId) (hlogs : (state.view call.requestId).logs = [])
    (hreleases : (state.view call.requestId).releases = [])
    (hwaiting : call.Waiting (state.view call.requestId)) (reason : JsString) (status : String)
    (error : JsString) :
    (state.dispatchFailed call now clientId reason status error).SoundAt call.requestId := by
  let cancelled := state.cancelWaiter call.requestId reason
  let answered := cancelled.fail call now (some clientId) status 503 error
  rcases call?_cancelWaiter hget reason with ⟨promise, hcall⟩
  have hempty : cancelled.view call.requestId = .empty := by
    rw [view_cancelWaiter hwaiting, View.dropped, hlogs, hreleases]
    rfl
  have hanswered : answered.1.call? ({ call with promise := promise } : Call).requestId =
      some { call with promise := promise } := hcall
  have hlogged : answered.1.view ({ call with promise := promise } : Call).requestId =
      ⟨[], [], [⟨call.input, answered.2, call.startedAt, .null, none⟩], []⟩ :=
    view_enqueue_self rfl hempty .null none
  have hfinished := soundAt_finish hanswered hdevice rfl rfl hlogged
  exact hfinished

theorem soundAt_dispatching {clientId : JsString} {next : Stage}
    (hget : state.call? call.requestId = some call) (hdevice : call.device = some clientId)
    (hlogs : (state.view call.requestId).logs = [])
    (hreleases : (state.view call.requestId).releases = [])
    (hwaiting : call.Waiting (state.view call.requestId)) (hnext : next.waiting = some clientId) :
    (state.moveTo call next).SoundAt call.requestId :=
  soundAt_of_call? (call?_moveTo hget next)
    (Call.sound_of_waiting hnext hdevice hlogs hreleases hwaiting)

theorem soundAt_timedOut {clientId : JsString} (hget : state.call? call.requestId = some call)
    (hdevice : call.device = some clientId) (hview : state.view call.requestId = .empty) :
    (state.timedOut call now clientId).SoundAt call.requestId := by
  let answered := state.fail call now (some clientId) "timeout" 504 (timeoutError call)
  have hcall : answered.1.call? call.requestId = some call := hget
  have hlogged : answered.1.view call.requestId =
      ⟨[], [], [⟨call.input, answered.2, call.startedAt, .null, none⟩], []⟩ :=
    view_enqueue_self rfl hview .null none
  exact soundAt_finish hcall hdevice rfl rfl hlogged

theorem success_eq_ok {validate : Value → Except JsString (Option Value)} {clientId : JsString}
    {result : Value} {answered : State × InvokeResponse}
    (h : state.success call now validate clientId result = .ok answered) :
    ∃ appAudit, answered.2.requestId = call.requestId ∧
      answered.1 = state.enqueueRequestLog call answered.2 (result.get (lit "payload")) appAudit := by
  unfold success at h
  split at h
  · cases h
  · cases h
  · split at h
    · cases h
    · rename_i appAudit _
      obtain rfl := Except.ok.inj h
      exact ⟨appAudit, rfl, rfl⟩

/-- A call whose promise is settled has nothing left in the registry. -/
theorem view_of_settled {clientId : JsString} (hsound : call.Sound (state.view requestId))
    (hstage : call.stage = .awaitingResult clientId)
    (hsettled : (∃ result, call.promise = .resolved result) ∨
      ∃ reason, call.promise = .rejected reason) :
    call.device = some clientId ∧ state.view requestId = .empty := by
  rcases hsound.waiting clientId (by rw [hstage]; rfl) with ⟨hdevice, hlogs, hreleases, hwaiting⟩
  have hgone : (state.view requestId).waiters = [] ∧ (state.view requestId).timers = [] := by
    rw [Call.Waiting] at hwaiting
    rcases hsettled with ⟨result, hpromise⟩ | ⟨reason, hpromise⟩
    · rwa [hpromise] at hwaiting
    · rwa [hpromise] at hwaiting
  refine ⟨hdevice, ?_⟩
  rw [← view_dropped hgone.1 hgone.2, View.dropped, hlogs, hreleases]
  rfl

/-! ### Calls that a step leaves alone -/

theorem same_advance {stage : Stage} (hadvance : state.Advance call now stage state')
    (hne : other ≠ call.requestId) : state.Same state' other := by
  cases hadvance with
  | answered _ clientId status httpCode error =>
      exact (same_fail hne _ _ _ _).trans (same_moveTo hne _)
  | selecting _ _ _ => exact same_moveTo hne _
  | selected _ clientId =>
      have hregistered : state.Same (state.registerWaiter call.requestId clientId) other :=
        ⟨rfl, view_registerWaiter_ne hne clientId⟩
      exact hregistered.trans (same_modify (fun _ => rfl) hne)
  | failed _ reason status error =>
      have hcancelled : state.Same (state.cancelWaiter call.requestId reason) other :=
        same_cancelWaiter hne reason
      exact (hcancelled.trans (same_fail hne _ _ _ _)).trans (same_finish hne _ _)
  | dispatching _ _ _ => exact same_moveTo hne _
  | released completion => exact same_moveTo hne _

theorem same_resume {validate : Value → Except JsString (Option Value)}
    (hresume : state.resume call now validate = some state') (hne : other ≠ call.requestId) :
    state.Same state' other := by
  have htimedOut : ∀ clientId, state.Same (state.timedOut call now clientId) other :=
    fun _ => (same_fail hne _ _ _ _).trans (same_finish hne _ _)
  unfold State.resume at hresume
  split at hresume
  · split at hresume
    · rename_i answered hsuccess
      obtain rfl := Option.some.inj hresume
      rcases success_eq_ok hsuccess with ⟨appAudit, hid, heq⟩
      have hlogged : state.Same answered.1 other := by
        rw [heq]
        exact ⟨rfl, view_enqueue_ne (by rwa [hid]) _ _⟩
      exact hlogged.trans (same_finish hne _ _)
    · obtain rfl := Option.some.inj hresume
      exact htimedOut _
  · obtain rfl := Option.some.inj hresume
    exact htimedOut _
  · cases hresume

/-! ### The invariant of a call -/

/-- What a call does with the settled promise of its result. -/
theorem Sound.resume {validate : Value → Except JsString (Option Value)} (h : state.Sound)
    (hget : state.call? call.requestId = some call)
    (hresume : state.resume call now validate = some state') : state'.Sound := by
  have hsound := h.at hget
  refine h.change (fun other hne => same_resume hresume hne) ?_
  unfold State.resume at hresume
  split at hresume
  · rename_i clientId result hstage hpromise
    have hempty := view_of_settled hsound hstage (.inl ⟨result, hpromise⟩)
    split at hresume
    · rename_i answered hsuccess
      obtain rfl := Option.some.inj hresume
      rcases success_eq_ok hsuccess with ⟨appAudit, hid, heq⟩
      have hcall : answered.1.call? call.requestId = some call := by
        rw [heq]
        exact hget
      have hlogged : (state.enqueueRequestLog call answered.2 (result.get (lit "payload"))
          appAudit).view call.requestId = ⟨[], [], [⟨call.input, answered.2, call.startedAt,
            result.get (lit "payload"), appAudit⟩], []⟩ := view_enqueue_self hid hempty.2 _ _
      rw [← heq] at hlogged
      exact soundAt_finish hcall hempty.1 hid rfl hlogged
    · obtain rfl := Option.some.inj hresume
      exact soundAt_timedOut hget hempty.1 hempty.2
  · rename_i clientId reason hstage hpromise
    have hempty := view_of_settled hsound hstage (.inr ⟨reason, hpromise⟩)
    obtain rfl := Option.some.inj hresume
    exact soundAt_timedOut hget hempty.1 hempty.2
  · cases hresume

/-- What a call does at the end of an await. -/
theorem Sound.advance (h : state.Sound) (hget : state.call? call.requestId = some call)
    (hadvance : state.Advance call now call.stage state') : state'.Sound := by
  have hsound := h.at hget
  refine h.change (fun other hne => same_advance hadvance hne) ?_
  generalize hstage : call.stage = stage at hadvance
  cases hadvance with
  | answered hearly clientId status httpCode error =>
      rcases hsound.early (hstage ▸ hearly) with ⟨hdevice, hview⟩
      exact soundAt_answer hget hdevice hview _ _ _ _
  | selecting hearly hnext _ =>
      rcases hsound.early (hstage ▸ hearly) with ⟨hdevice, hview⟩
      exact soundAt_selecting hget hdevice hview hnext
  | selected hearly clientId =>
      rcases hsound.early (hstage ▸ hearly) with ⟨-, hview⟩
      exact soundAt_selected hget hview clientId
  | failed hwaiting reason status error =>
      rcases hsound.waiting _ (hstage ▸ hwaiting) with ⟨hdevice, hlogs, hreleases, hwaits⟩
      exact soundAt_dispatchFailed hget hdevice hlogs hreleases hwaits reason status error
  | dispatching hwaiting hsome _ =>
      rcases Option.isSome_iff_exists.mp hsome with ⟨clientId, hclient⟩
      rcases hsound.waiting clientId (hstage ▸ hclient) with ⟨hdevice, hlogs, hreleases, hwaits⟩
      exact soundAt_dispatching hget hdevice hlogs hreleases hwaits (hwaiting.trans hclient)
  | released completion =>
      rcases hsound.answered completion (.inl hstage) with
        ⟨response, entry, hcompletion, hid, hentry, hview⟩
      exact soundAt_of_call? (call?_moveTo hget _)
        (Call.sound_of_answered entry (.inr rfl) hcompletion hid hentry hview)

/-! ### Timers and results -/

/-- Something in the registry means that a promise is pending. -/
theorem Sound.pending (h : state.Sound)
    (hheld : (state.view requestId).waiters ≠ [] ∨ (state.view requestId).timers ≠ []) :
    ∃ call clientId, state.call? requestId = some call ∧ call.stage.waiting = some clientId ∧
      call.promise = .pending := by
  have hat := h requestId
  rw [SoundAt] at hat
  cases hget : state.call? requestId with
  | none =>
      rw [hget] at hat
      rw [hat] at hheld
      simp [View.empty] at hheld
  | some call =>
      rw [hget] at hat
      have hcases : call.stage.early = true ∨ (∃ clientId, call.stage.waiting = some clientId) ∨
          ∃ completion, call.stage = .releasing completion ∨ call.stage = .settled completion := by
        cases call.stage <;> simp [Stage.early, Stage.waiting]
      rcases hcases with hearly | ⟨clientId, hstage⟩ | ⟨completion, hstage⟩
      · rw [(hat.early hearly).2] at hheld
        simp [View.empty] at hheld
      · refine ⟨call, clientId, rfl, hstage, ?_⟩
        have hwaiting := (hat.waiting clientId hstage).2.2.2
        rw [Call.Waiting] at hwaiting
        cases hpromise : call.promise with
        | pending => rfl
        | absent => simp [hpromise] at hwaiting
        | resolved result => simp_all
        | rejected reason => simp_all
      · rcases hat.answered completion hstage with ⟨response, entry, -, -, -, hview⟩
        rw [hview] at hheld
        simp at hheld

/-- A promise is settled, by its timer or by a result. -/
theorem Sound.settle {promise : ResultPromise} (h : state.Sound)
    (hheld : (state.view requestId).waiters ≠ [] ∨ (state.view requestId).timers ≠ [])
    (hsettled : (∃ result, promise = .resolved result) ∨ ∃ reason, promise = .rejected reason) :
    ((state.dropWaiter requestId).modify requestId (.settle promise)).Sound := by
  rcases h.pending hheld with ⟨call, clientId, hget, hstage, -⟩
  rcases (h.at hget).waiting clientId hstage with ⟨hdevice, hlogs, hreleases, hwaiting⟩
  refine h.change (fun other hne => same_dropWaiter (Call.settle_requestId _) hne) ?_
  rcases Call.settle_stage promise call with ⟨hsame, hsameDevice⟩
  refine soundAt_of_call? (call?_settle hget promise) ?_
  rw [view_modify, view_dropWaiter_self]
  exact Call.sound_of_waiting (hsame ▸ hstage) (hsameDevice.trans hdevice) hlogs hreleases
    (hwaiting.settle hsettled)

theorem timers_ne_nil (hmem : requestId ∈ state.timers) : (state.view requestId).timers ≠ [] := by
  intro hnil
  exact absurd rfl (List.filter_eq_nil_iff.mp hnil requestId hmem ∘ beq_iff_eq.mpr)

theorem waiters_ne_nil {waiter : JsString × JsString}
    (hfind : state.waiters.find? (·.1 == requestId) = some waiter) :
    (state.view requestId).waiters ≠ [] := by
  intro hnil
  rw [← head?_waiters, hnil] at hfind
  cases hfind

/-- A result is ignored, or it settles the promise of a waiter. -/
theorem resolveLocalWaiter_cases (state : State) (requestId : JsString) (result : Value)
    (fromClientId : JsString) :
    state.resolveLocalWaiter requestId result fromClientId = state ∨
      (state.view requestId).waiters ≠ [] ∧
        state.resolveLocalWaiter requestId result fromClientId =
          (state.dropWaiter requestId).modify requestId (.settle (.resolved result)) := by
  rw [resolveLocalWaiter]
  split
  · exact .inl rfl
  · rename_i hfind
    split
    · exact .inl rfl
    · exact .inr ⟨waiters_ne_nil hfind, rfl⟩

/-! ### New calls -/

theorem call?_concat (call : Call) :
    State.call? { state with calls := state.calls ++ [call] } requestId =
      (state.call? requestId).or (if call.requestId = requestId then some call else none) := by
  rw [call?, call?, List.find?_append, List.find?_singleton]
  simp

theorem Sound.invoke (h : state.Sound) (hnone : state.call? requestId = none)
    (input : InvokeParams) (startedAt : Int) :
    State.Sound { state with
      calls := state.calls ++ [⟨input, requestId, startedAt, none, .absent, .resolvingProject⟩] } := by
  have hat := h requestId
  rw [SoundAt, hnone] at hat
  let call : Call := ⟨input, requestId, startedAt, none, .absent, .resolvingProject⟩
  refine Sound.change h (fun (other : JsString) (hne : other ≠ requestId) => ⟨?_, rfl⟩) ?_
  · rw [call?_concat, if_neg (Ne.symm hne), Option.or_none]
  · have hnew : State.call? { state with calls := state.calls ++ [call] } requestId = some call := by
      rw [call?_concat, hnone, if_pos rfl, Option.none_or]
    exact soundAt_of_call? hnew (Call.sound_of_early rfl rfl hat)

/-- A step keeps the invariant. -/
theorem Sound.next {validate : Value → Except JsString (Option Value)} {action : Action}
    (h : state.Sound) (hstep : state.next validate action = some state') : state'.Sound := by
  cases action with
  | invoke input requestId startedAt =>
      rw [State.next] at hstep
      split at hstep
      · cases hstep
      · rename_i hnone
        obtain rfl := Option.some.inj hstep
        exact h.invoke hnone input startedAt
  | await requestId awaited now =>
      rcases Option.bind_eq_some_iff.mp hstep with ⟨call, hget, hawait⟩
      obtain rfl := call?_eq_some hget
      exact h.advance hget (advance_of_await hawait)
  | resume requestId now =>
      rcases Option.bind_eq_some_iff.mp hstep with ⟨call, hget, hresume⟩
      obtain rfl := call?_eq_some hget
      exact h.resume hget hresume
  | timer requestId =>
      rw [State.next] at hstep
      split at hstep
      · rename_i hmem
        obtain rfl := Option.some.inj hstep
        exact h.settle (.inr (timers_ne_nil hmem)) (.inr ⟨_, rfl⟩)
      · cases hstep
  | result requestId result fromClientId =>
      obtain rfl := Option.some.inj hstep
      rcases resolveLocalWaiter_cases state requestId result fromClientId with heq | ⟨hheld, heq⟩
      · rw [heq]
        exact h
      · rw [heq]
        exact h.settle (.inl hheld) (.inl ⟨result, rfl⟩)

end State

/-! ## Progress -/

/-- Whether the promise is not settled yet. -/
def ResultPromise.isPending : ResultPromise → Bool
  | .pending => true
  | _ => false

/-- An upper bound on the steps of its own that a call has before it. -/
def Call.remaining (call : Call) : Nat :=
  call.stage.weight + (call.stage.waiting.isSome && call.promise.isPending).toNat

namespace State

variable {state state' : State} {call : Call} {now : Int} {requestId other : JsString}
  {validate : Value → Except JsString (Option Value)}

/-- The same for a request, whose call may not have begun. -/
def remaining (state : State) (requestId : JsString) : Nat :=
  match state.call? requestId with
  | none => 9
  | some call => call.remaining

theorem remaining_of_call? (hget : state.call? requestId = some call) :
    state.remaining requestId = call.remaining := by
  rw [remaining, hget]

theorem Same.remaining (h : state.Same state' requestId) :
    state'.remaining requestId = state.remaining requestId := by
  rw [State.remaining, State.remaining, h.1]

theorem weight_early {stage : Stage} (hearly : stage.early = true) : 6 ≤ stage.weight := by
  cases stage <;> simp [Stage.early, Stage.weight] at hearly ⊢

theorem weight_waiting {stage : Stage} {clientId : JsString}
    (hwaiting : stage.waiting = some clientId) : 2 ≤ stage.weight := by
  cases stage <;> simp [Stage.waiting, Stage.weight] at hwaiting ⊢

theorem waiting_early {stage : Stage} (hearly : stage.early = true) : stage.waiting = none := by
  cases stage <;> simp [Stage.early, Stage.waiting] at hearly ⊢

/-- The end of an await is a step forward. -/
theorem remaining_advance (hget : state.call? call.requestId = some call)
    (hadvance : state.Advance call now call.stage state') :
    state'.remaining call.requestId < state.remaining call.requestId := by
  rw [remaining_of_call? hget]
  have hlow : call.stage.weight ≤ call.remaining := Nat.le_add_right _ _
  generalize hstage : call.stage = stage at hadvance hlow
  cases hadvance with
  | answered hearly clientId status httpCode error =>
      rcases call?_answer hget clientId status httpCode error with ⟨completion, hanswered⟩
      rw [remaining_of_call? hanswered]
      have hweight := weight_early hearly
      show 0 + 0 < _
      omega
  | selecting hearly hnext hless =>
      rw [remaining_of_call? (call?_moveTo hget _), Call.remaining]
      simp only [waiting_early hnext, Option.isSome_none, Bool.false_and, Bool.toNat_false]
      omega
  | selected hearly clientId =>
      rw [remaining_of_call? (call?_selected hget clientId)]
      have hweight := weight_early hearly
      show 4 + 1 < _
      omega
  | failed hwaiting reason status error =>
      rcases call?_dispatchFailed hget _ reason status error with ⟨promise, completion, hfailed⟩
      rw [remaining_of_call? hfailed]
      have hweight := weight_waiting hwaiting
      show 1 + 0 < _
      omega
  | dispatching hwaiting hsome hless =>
      rw [remaining_of_call? (call?_moveTo hget _), Call.remaining, Call.remaining, hstage]
      simp only [hwaiting]
      omega
  | released completion =>
      rw [remaining_of_call? (call?_moveTo hget _)]
      show 0 + 0 < _
      exact Nat.lt_of_lt_of_le Nat.zero_lt_one hlow

/-- So is what follows a settled promise. -/
theorem remaining_resume (hget : state.call? call.requestId = some call)
    (hresume : state.resume call now validate = some state') :
    state'.remaining call.requestId < state.remaining call.requestId := by
  rw [remaining_of_call? hget]
  have hlow : call.stage.weight ≤ call.remaining := Nat.le_add_right _ _
  have htimedOut : ∀ clientId, call.stage = .awaitingResult clientId →
      (state.timedOut call now clientId).remaining call.requestId < call.remaining := by
    intro clientId hstage
    rcases call?_timedOut hget clientId with ⟨completion, hfinished⟩
    rw [hstage] at hlow
    rw [remaining_of_call? hfinished]
    exact Nat.lt_of_lt_of_le (show 1 + 0 < 2 by decide) hlow
  unfold State.resume at hresume
  split at hresume
  · rename_i clientId result hstage hpromise
    split at hresume
    · rename_i answered hsuccess
      obtain rfl := Option.some.inj hresume
      rcases success_eq_ok hsuccess with ⟨appAudit, -, heq⟩
      have hcall : answered.1.call? call.requestId = some call := by
        rw [heq]
        exact hget
      rw [remaining_of_call? (call?_finish hcall clientId _)]
      rw [hstage] at hlow
      exact Nat.lt_of_lt_of_le (show 1 + 0 < 2 by decide) hlow
    · obtain rfl := Option.some.inj hresume
      exact htimedOut clientId hstage
  · rename_i clientId reason hstage hpromise
    obtain rfl := Option.some.inj hresume
    exact htimedOut clientId hstage
  · cases hresume

/-- And the end of a wait. -/
theorem remaining_settle {promise : ResultPromise} (h : state.Sound)
    (hheld : (state.view requestId).waiters ≠ [] ∨ (state.view requestId).timers ≠ [])
    (hsettled : promise.isPending = false) :
    ((state.dropWaiter requestId).modify requestId (.settle promise)).remaining requestId <
      state.remaining requestId := by
  rcases h.pending hheld with ⟨call, clientId, hget, hstage, hpromise⟩
  rw [remaining_of_call? (call?_settle hget promise), remaining_of_call? hget]
  have hpending : call.promise.isPending = true := by rw [hpromise]; rfl
  have hsettle : call.settle promise = { call with promise := promise } := by
    rw [Call.settle, hpromise]
  rw [hsettle, Call.remaining, Call.remaining, hstage, hsettled, hpending]
  exact Nat.lt_succ_self _

/-- A step of a call brings it forward; no other step takes it back. -/
theorem remaining_next {action : Action} (h : state.Sound)
    (hstep : state.next validate action = some state') (requestId : JsString) :
    state'.remaining requestId + (if action.own requestId then 1 else 0) ≤
      state.remaining requestId := by
  have hforward : ∀ callId : JsString,
      (state'.remaining callId < state.remaining callId) →
        (∀ other, other ≠ callId → state.Same state' other) →
          state'.remaining requestId + (if callId == requestId then 1 else 0) ≤
            state.remaining requestId := by
    intro callId hless hsame
    by_cases heq : callId = requestId
    · subst heq
      rw [if_pos (beq_self_eq_true _)]
      exact hless
    · rw [if_neg (by simpa using heq), (hsame requestId (Ne.symm heq)).remaining]
      exact Nat.le_refl _
  cases action with
  | invoke input newId startedAt =>
      rw [State.next] at hstep
      split at hstep
      · cases hstep
      · rename_i hnone
        obtain rfl := Option.some.inj hstep
        rw [Action.own, remaining, call?_concat]
        by_cases hsame : newId = requestId
        · subst hsame
          rw [hnone, if_pos rfl, State.remaining, hnone]
          exact Nat.le_refl _
        · rw [if_neg hsame, Option.or_none]
          exact Nat.le_refl _
  | await callId awaited now =>
      rcases Option.bind_eq_some_iff.mp hstep with ⟨call, hget, hawait⟩
      obtain rfl := call?_eq_some hget
      have hadvance := advance_of_await hawait
      exact hforward _ (remaining_advance hget hadvance) fun other hne => same_advance hadvance hne
  | resume callId now =>
      rcases Option.bind_eq_some_iff.mp hstep with ⟨call, hget, hresume⟩
      obtain rfl := call?_eq_some hget
      exact hforward _ (remaining_resume hget hresume) fun other hne => same_resume hresume hne
  | timer callId =>
      rw [State.next] at hstep
      split at hstep
      · rename_i hmem
        obtain rfl := Option.some.inj hstep
        exact hforward callId (remaining_settle h (.inr (timers_ne_nil hmem)) rfl)
          fun other hne => same_dropWaiter (Call.settle_requestId _) hne
      · cases hstep
  | result callId result fromClientId =>
      obtain rfl := Option.some.inj hstep
      rcases resolveLocalWaiter_cases state callId result fromClientId with heq | ⟨hheld, heq⟩
      · rw [heq]
        exact Nat.le_refl _
      · rw [heq] at hforward ⊢
        have hless := hforward callId (remaining_settle h (.inl hheld) rfl)
          fun other hne => same_dropWaiter (Call.settle_requestId _) hne
        exact Nat.le_of_add_right_le hless

/-- A call that is not settled can go on: its await may end, or its timer may fire. -/
theorem Sound.enabled (h : state.Sound) (hget : state.call? requestId = some call)
    (hgoing : ∀ completion, call.stage ≠ .settled completion) :
    ∃ action : Action, action.own requestId = true ∧
      (state.next validate action).isSome = true := by
  have hawait : ∀ awaited : Awaited, (state.await call 0 call.stage awaited).isSome = true →
      ∃ action : Action, action.own requestId = true ∧
        (state.next validate action).isSome = true := by
    intro awaited hsome
    refine ⟨.await requestId awaited 0, beq_self_eq_true _, ?_⟩
    rw [State.next, hget]
    exact hsome
  cases hstage : call.stage with
  | awaitingResult clientId =>
      have hwaiting := ((h.at hget).waiting clientId (by rw [hstage]; rfl)).2.2.2
      cases hpromise : call.promise with
      | absent => simp [Call.Waiting, hpromise] at hwaiting
      | pending =>
          -- the timer has not fired yet
          rw [Call.Waiting, hpromise] at hwaiting
          refine ⟨.timer requestId, beq_self_eq_true _, ?_⟩
          have hmem : requestId ∈ (state.view requestId).timers := by
            rw [hwaiting.2, call?_eq_some hget]
            exact List.mem_singleton_self _
          rw [State.next, if_pos (List.mem_of_mem_filter hmem)]
          rfl
      | resolved result =>
          refine ⟨.resume requestId 0, beq_self_eq_true _, ?_⟩
          rw [State.next, hget, Option.bind_some, State.resume, hstage, hpromise]
          dsimp only
          split <;> rfl
      | rejected reason =>
          refine ⟨.resume requestId 0, beq_self_eq_true _, ?_⟩
          rw [State.next, hget, Option.bind_some, State.resume, hstage, hpromise]
          rfl
  | settled completion => exact absurd hstage (hgoing completion)
  | _ => exact hawait (.rejects []) (by rw [hstage]; rfl)

/-- A settled call has nothing before it, and stays as it is. -/
theorem settled_next {action : Action} {completion : Completion} (h : state.Sound)
    (hget : state.call? requestId = some call) (hsettled : call.stage = .settled completion)
    (hstep : state.next validate action = some state') :
    state'.call? requestId = some call := by
  have hzero : state.remaining requestId = 0 := by
    rw [remaining_of_call? hget, Call.remaining, hsettled]
    rfl
  have hown : action.own requestId = false := by
    have hless := remaining_next h hstep requestId
    by_contra htrue
    rw [Bool.not_eq_false] at htrue
    rw [htrue, if_pos rfl] at hless
    omega
  cases action with
  | invoke input newId startedAt =>
      rw [State.next] at hstep
      split at hstep
      · cases hstep
      · obtain rfl := Option.some.inj hstep
        rw [call?_concat, hget, Option.some_or]
  | await callId awaited now =>
      rcases Option.bind_eq_some_iff.mp hstep with ⟨other, hother, hawait⟩
      obtain rfl := call?_eq_some hother
      have hne : requestId ≠ other.requestId := Ne.symm (ne_of_beq_false hown)
      exact (same_advance (advance_of_await hawait) hne).1.trans hget
  | resume callId now =>
      rcases Option.bind_eq_some_iff.mp hstep with ⟨other, hother, hresume⟩
      obtain rfl := call?_eq_some hother
      have hne : requestId ≠ other.requestId := Ne.symm (ne_of_beq_false hown)
      exact (same_resume hresume hne).1.trans hget
  | timer callId =>
      have hne : requestId ≠ callId := Ne.symm (ne_of_beq_false hown)
      rw [State.next] at hstep
      split at hstep
      · obtain rfl := Option.some.inj hstep
        exact (same_dropWaiter (Call.settle_requestId _) hne).1.trans hget
      · cases hstep
  | result callId result fromClientId =>
      obtain rfl := Option.some.inj hstep
      rcases resolveLocalWaiter_cases state callId result fromClientId with heq | ⟨hheld, heq⟩
      · rw [heq]
        exact hget
      · rw [heq]
        by_cases hsame : requestId = callId
        · subst hsame
          have hless : ((state.dropWaiter requestId).modify requestId
              (.settle (.resolved result))).remaining requestId < state.remaining requestId :=
            remaining_settle h (.inl hheld) rfl
          omega
        · exact (same_dropWaiter (Call.settle_requestId _) hsame).1.trans hget

/-- What a settled call has left behind. -/
theorem Sound.answered {completion : Completion} (h : state.Sound)
    (hget : state.call? requestId = some call) (hsettled : call.stage = .settled completion) :
    ∃ response, completion = .ok response ∧ state.Answered call response := by
  obtain rfl := call?_eq_some hget
  rcases (h.at hget).answered completion (.inr hsettled) with
    ⟨response, entry, hcompletion, hid, hentry, hview⟩
  rw [view, View.mk.injEq] at hview
  rcases hview with ⟨hwaiters, htimers, hlogs, hreleases⟩
  refine ⟨response, hcompletion, hid, ⟨entry, hlogs, ?_⟩, hreleases, ?_, ?_⟩
  · rw [hentry]
    exact ⟨rfl, rfl, rfl, rfl⟩
  · intro waiter hmem hkey
    exact List.filter_eq_nil_iff.mp hwaiters waiter hmem (by simpa using hkey)
  · intro hmem
    exact List.filter_eq_nil_iff.mp htimers call.requestId hmem (by simp)

end State

/-! ## Runs -/

variable {validate : Value → Except JsString (Option Value)} {actions : List Action}
  {state state' : State}

theorem sound_of_run (hrun : (machine validate).run idle actions = some state) :
    state.Sound :=
  Machine.run_invariant (fun h hstep => h.next hstep) State.sound_idle hrun

/-- The steps of a call in a run are paid for. -/
theorem own_steps_le (hsound : state.Sound)
    (hrun : (machine validate).run state actions = some state') (requestId : JsString) :
    actions.countP (Action.own requestId) + state'.remaining requestId ≤
      state.remaining requestId := by
  induction actions generalizing state with
  | nil =>
      rw [Machine.run_nil, Option.some.injEq] at hrun
      rw [hrun, List.countP_nil, Nat.zero_add]
  | cons action actions ih =>
      rcases Machine.run_cons_eq_some.mp hrun with ⟨next, hstep, hrest⟩
      have hstep' := State.remaining_next hsound hstep requestId
      have hrest' := ih (hsound.next hstep) hrest
      rw [List.countP_cons]
      omega

theorem settled_of_run {requestId : JsString} {call : Call} {completion : Completion}
    (hsound : state.Sound) (hget : state.call? requestId = some call)
    (hsettled : call.stage = .settled completion)
    (hrun : (machine validate).run state actions = some state') :
    state'.call? requestId = some call := by
  have hboth : state'.Sound ∧ state'.call? requestId = some call := by
    refine Machine.run_invariant (I := fun state => state.Sound ∧
      state.call? requestId = some call) ?_ ⟨hsound, hget⟩ hrun
    rintro before action after ⟨hbefore, hcall⟩ hstep
    exact ⟨hbefore.next hstep, State.settled_next hbefore hcall hsettled hstep⟩
  exact hboth.2

/-- In every run, a call that has settled has one answer for good, has logged it once, has given
back its slot if it had one, and has left nothing in the registry; a call that has not settled can
go on; and no call makes more than nine steps. -/
theorem answered_once (hrun : (machine validate).run idle actions = some state)
    (requestId : JsString) (call : Call) (hget : state.call? requestId = some call) :
    (∀ completion, call.stage = .settled completion →
      (∃ response, completion = .ok response ∧ state.Answered call response) ∧
        ∀ later last, (machine validate).run state later = some last →
          last.call? requestId = some call) ∧
      ((∀ completion, call.stage ≠ .settled completion) → ∃ action : Action,
        action.own requestId = true ∧ (state.next validate action).isSome = true) ∧
      actions.countP (Action.own requestId) ≤ 9 := by
  have hsound := sound_of_run hrun
  refine ⟨fun completion hsettled => ⟨hsound.answered hget hsettled, ?_⟩, hsound.enabled hget, ?_⟩
  · exact fun later last hlater => settled_of_run hsound hget hsettled hlater
  · have hpaid := own_steps_le State.sound_idle hrun requestId
    have hstart : idle.remaining requestId = 9 := rfl
    omega

/-- A call whose result arrives before its dispatch is done, and whose slot is not given back. -/
def sampleRun : List Action :=
  [.invoke sampleCall (lit "r") 0, .await (lit "r") (.project (some (3, true))) 1,
    .await (lit "r") (.picked (lit "device-a")) 2, .await (lit "r") .done 3,
    .result (lit "r") (errorFrame (lit "no")) (lit "device-a"), .await (lit "r") (.flag true) 4,
    .resume (lit "r") 5, .await (lit "r") (.rejects (lit "ECONNRESET")) 6]

/-- The answer to it. -/
def sampleResponse : InvokeResponse :=
  Rpc.success (lit "r") 0 5 (lit "device-a") (errorFrame (lit "no"))

/-- The call at its end. -/
def sampleSettled : Call :=
  ⟨sampleCall, lit "r", 0, some (lit "device-a"), .resolved (errorFrame (lit "no")),
    .settled (.ok sampleResponse)⟩

/-- The instance at its end. -/
def sampleState : State :=
  ⟨[sampleSettled], [], [],
    [⟨sampleCall, sampleResponse, 0, (errorFrame (lit "no")).get (lit "payload"), none⟩],
    [(lit "r", lit "device-a")]⟩

theorem answered_once_sample :
    ∃ response, sampleSettled.stage = .settled (.ok response) ∧
      sampleState.Answered sampleSettled response := by
  have hrun : (machine (State.validAppAudit fun _ => false)).run idle sampleRun =
      some sampleState := rfl
  rcases (answered_once hrun (lit "r") sampleSettled rfl).1 _ rfl with
    ⟨⟨response, hcompletion, hanswered⟩, -⟩
  exact ⟨response, congrArg _ hcompletion, hanswered⟩

end Invoke
end Rpc
end R2RPC
