import R2RPC.Ws.RelayIntegrity

/-!
# Delivery of the expected device's result

A frame of the expected device is lost exactly when another call holds the
deduplication key {lit}`rpc:completed:<id>` at the moment its own
{lit}`SET ... NX` runs: the key is claimed before the sender is checked.  While
the waiter is pending and {lit}`rpc:waiter:<id>` is alive, the progress of the
one honest frame is tracked from its first {lit}`GET` to the delivery of the
routed message.

Main results:

- Structure {lit}`ResultWindow`: one honest frame, followed from its start until
  all its effects are delivered.
- Theorem {lit}`honest_result_resolves_iff`: the waiter is resolved with that
  result exactly when the key is free at the frame's claim.
- Theorem {lit}`impostor_suppresses_result`: a forged frame of another client
  does suppress an honest result.

Current gaps:

- None for one honest frame per request.
-/

namespace R2RPC
namespace Relay

open Interleaving

variable {Payload : Type} {s t u : State Payload} {f : CallId} {r : String}
  {v : Invocation} {c : HandleResultCall Payload} {a : Action Payload}
  {as : List (Action Payload)}

/-! ## Calls persist -/

/-- Only its own commands move a call or put its message on the bus. -/
theorem call_frame (hf : a ≠ .handleResult f) (hstep : Relay.step s a = some t) :
    ((s.calls f).isSome → t.calls f = s.calls f) ∧ (t.bus f = s.bus f ∨ t.bus f = none) := by
  have taken : ∀ g, Function.update s.bus g none f = s.bus f ∨
      Function.update s.bus g none f = none := by
    intro g
    by_cases hfg : f = g
    · exact Or.inr (by simp [hfg])
    · exact Or.inl (by simp [hfg])
  cases RelayStep.of_step hstep with
  | @mark r v fault stage hv => cases fault <;> exact ⟨fun _ => rfl, Or.inl rfl⟩
  | @receive g k d message hfree hd =>
      refine ⟨fun hcall => ?_, Or.inl rfl⟩
      have hfg : f ≠ g := by
        rintro rfl
        rw [hfree] at hcall
        contradiction
      simp [State.setCall, hfg]
  | @advance g c completed stage hc hopen =>
      have hfg : f ≠ g := fun h => hf (by rw [h])
      exact ⟨fun _ => by simp [State.setCall, hfg], Or.inl rfl⟩
  | @resolve g c r w hc hopen haccepts =>
      have hfg : f ≠ g := fun h => hf (by rw [h])
      exact ⟨fun _ => by simp [State.setCall, State.settle, hfg], Or.inl rfl⟩
  | @publish g c channel hc hopen =>
      have hfg : f ≠ g := fun h => hf (by rw [h])
      exact ⟨fun _ => by simp [State.setCall, State.publish, hfg],
        Or.inl (by simp [State.setCall, State.publish, hfg])⟩
  | @deliver g m r w hm haccepts => exact ⟨fun _ => rfl, taken g⟩
  | @bounce g m deletes hm => exact ⟨fun _ => rfl, taken g⟩
  | _ => exact ⟨fun _ => rfl, Or.inl rfl⟩

theorem calls_frame (hcall : (s.calls f).isSome) (hf : a ≠ .handleResult f)
    (hstep : Relay.step s a = some t) : t.calls f = s.calls f :=
  (call_frame hf hstep).1 hcall

/-- A call keeps its socket, sender and message for ever. -/
theorem call_persists_step (hc : s.calls f = some c) (hstep : Relay.step s a = some t) :
    ∃ stage, t.calls f = some { c with stage } := by
  by_cases hf : a = .handleResult f
  · subst hf
    cases RelayStep.of_step hstep with
    | advance completed stage hc' hopen =>
        rw [← Option.some.inj (hc'.symm.trans hc)]
        exact ⟨stage, Function.update_self ..⟩
    | resolve hc' hopen haccepts =>
        rw [← Option.some.inj (hc'.symm.trans hc)]
        exact ⟨_, Function.update_self ..⟩
    | publish channel hc' hopen =>
        rw [← Option.some.inj (hc'.symm.trans hc)]
        exact ⟨_, Function.update_self ..⟩
  · exact ⟨c.stage, (calls_frame (by rw [hc]; rfl) hf hstep).trans hc⟩

theorem call_persists (hc : s.calls f = some c)
    (hrun : (machine Payload).run s as = some t) : ∃ stage, t.calls f = some { c with stage } :=
  Machine.run_invariant (I := fun u => ∃ stage, u.calls f = some { c with stage })
    (fun ⟨_, hu⟩ hstep => by
      rcases call_persists_step hu hstep with ⟨stage, ht⟩
      exact ⟨stage, ht⟩) ⟨c.stage, hc⟩ hrun

/-- A message on the bus was published by a call that has finished. -/
theorem bus_routed (h : (machine Payload).Reachable s) :
    ∀ g m, s.bus g = some m → ∃ d, s.calls g = some d ∧ d.stage = .acked .routed := by
  refine h.invariant (I := fun s => ∀ g m, s.bus g = some m →
    ∃ d, s.calls g = some d ∧ d.stage = .acked .routed) ?_ ?_
  · intro s hs g m hm
    rw [hs] at hm
    contradiction
  · intro s a t hI hstep g m hm
    change Relay.step s a = some t at hstep
    -- a call that still takes commands has nothing on the bus
    have hidle : ∀ d, s.calls g = some d → (∀ outcome, d.stage ≠ .acked outcome) →
        s.bus g = some m → False := by
      intro d hd hopen hb
      rcases hI g m hb with ⟨d', hd', hrouted⟩
      rw [← Option.some.inj (hd.symm.trans hd')] at hrouted
      exact hopen _ hrouted
    by_cases hg : a = .handleResult g
    · subst hg
      cases RelayStep.of_step hstep with
      | advance completed stage hd hopen => exact (hidle _ hd hopen hm).elim
      | resolve hd hopen haccepts => exact (hidle _ hd hopen hm).elim
      | publish channel hd hopen => exact ⟨_, Function.update_self .., rfl⟩
    · rcases call_frame hg hstep with ⟨hcalls, hsame | hnone⟩
      · rcases hI g m (hsame ▸ hm) with ⟨d, hd, hrouted⟩
        exact ⟨d, (hcalls (by rw [hd]; rfl)).trans hd, hrouted⟩
      · rw [hnone] at hm
        contradiction

/-! ## The window of one honest frame -/

/-- `f` is the only call, finished or not, that carries a frame for `r` from the
expected device. -/
def OnlyHonest (f : CallId) (r : String) (v : Invocation) (s : State Payload) : Prop :=
  ∀ g d, s.calls g = some d → d.key = r → d.fromClientId = v.expectedClientId → g = f

/-- The honest frame was the only one all along if it is at the end. -/
theorem OnlyHonest.of_run (honly : OnlyHonest f r v t)
    (hrun : (machine Payload).run s as = some t) : OnlyHonest f r v s := by
  intro g d hd hkey hfrom
  rcases call_persists hd hrun with ⟨stage, hd'⟩
  exact honly g _ hd' hkey hfrom

/-- What is excluded while the frame is followed: its waiter is not timed out or
cancelled, and `rpc:waiter:<id>` does not expire. -/
def KeepsWaiting (r : String) (a : Action Payload) : Prop :=
  a ≠ .timeout r ∧ a ≠ .cancelDispatch r ∧ a ≠ .expireWaiterKey r

/-- One frame of the expected device, followed from the start of its
`handleResult` until every effect of it has been delivered, while the waiter is
pending and `rpc:waiter:<id>` is alive. -/
structure ResultWindow (s : State Payload) (as : List (Action Payload)) (t : State Payload)
    (f : CallId) (r : String) (v : Invocation) (c : HandleResultCall Payload) : Prop where
  reachable : (machine Payload).Reachable s
  invocation : s.invocations r = some v
  pending : (s.waiters v.instanceId r).isSome
  alive : (s.waiterKey r).isSome
  call : s.calls f = some c
  starts : c.stage = .readWaiter
  request : c.message.requestKey = .text r
  honest : c.fromClientId = v.expectedClientId
  run : (machine Payload).run s as = some t
  waiting : ∀ a ∈ as, KeepsWaiting r a
  only : OnlyHonest f r v t
  answered : ∃ d outcome, t.calls f = some d ∧ d.stage = .acked outcome
  delivered : t.bus f = none

/-- At the claim of `rpc:completed:<id>` by `f`, no other call holds the key. -/
def Unclaimed (f : CallId) (s : State Payload) (a : Action Payload) : Prop :=
  a = .handleResult f → ∀ c i, s.calls f = some c → c.stage = .claimCompleted i →
    s.completedKey c.key = false

/-! ## Progress of the honest frame -/

/-- The waiter is in its map and its key names its instance. -/
structure Pending (s : State Payload) (r : String) (v : Invocation) : Prop where
  waiter : ∃ w, s.waiters v.instanceId r = some w ∧ w.clientId = v.expectedClientId
  waiterKey : s.waiterKey r = some v.instanceId
  invocation : ∃ stage, s.invocations r = some { v with stage }

/-- The stages of a `handleResult` call that has not failed to claim the key. -/
def OnTheWay (c : HandleResultCall Payload) (v : Invocation) : Prop :=
  c.stage = .readWaiter ∨ c.stage = .claimCompleted v.instanceId ∨
    (c.stage = .resolveLocal ∧ c.instanceId = v.instanceId) ∨ c.stage = .publish v.instanceId

/-- The message that carries the honest result to the waiting instance. -/
def routedMessage (c : HandleResultCall Payload) (r : String) (v : Invocation) :
    BusMessage Payload :=
  ⟨v.instanceId, .text r, c.message, v.expectedClientId⟩

/-- The honest result is on its way, in flight on the bus, or accepted. -/
inductive Progress (f : CallId) (r : String) (v : Invocation) (c : HandleResultCall Payload)
    (s : State Payload) : Prop where
  | handling (stage : HandleResultStage) (hpending : Pending s r v)
      (hcall : s.calls f = some { c with stage }) (hway : OnTheWay { c with stage } v)
      (hbus : s.bus f = none)
  | routed (hpending : Pending s r v)
      (hcall : s.calls f = some { c with stage := .acked .routed })
      (hbus : s.bus f = some (routedMessage c r v))
  | resolved (outcome : Outcome)
      (hcall : s.calls f = some { c with stage := .acked outcome })
      (hsettled : s.settled r = [.resolved c.message])

/-- The honest result was turned away as late, and the waiter still waits. -/
structure Suppressed (f : CallId) (r : String) (v : Invocation)
    (c : HandleResultCall Payload) (s : State Payload) : Prop where
  pending : Pending s r v
  call : s.calls f = some { c with stage := .acked .late }
  bus : s.bus f = none

theorem Pending.unsettled (hinv : Invariant s) (h : Pending s r v) : s.settled r = [] := by
  rcases h.waiter with ⟨w, hw, -⟩
  exact hinv.waiter_unsettled _ _ _ hw

/-- Steps of everything else: the honest call, its bus message and the pending
waiter are the same before and after. -/
theorem step_frame (hinv : Invariant s) (hpending : Pending s r v)
    (honly : OnlyHonest f r v s) (hwait : KeepsWaiting r a) (hcall : (s.calls f).isSome)
    (hf : a ≠ .handleResult f) (hd : a ≠ .deliver f) (hstep : Relay.step s a = some t) :
    Pending t r v ∧ t.calls f = s.calls f ∧ t.bus f = s.bus f := by
  rcases hpending.invocation with ⟨stage, hv⟩
  have hsame : Invariant.SameWaiter s t r := by
    rcases hinv.step_waiter hv hstep with hsame | ⟨hmay, -⟩
    · exact hsame
    · rcases hmay with h | h | ⟨g, d, hg, hreq, hfrom, hact⟩
      · exact (hwait.1 h).elim
      · exact (hwait.2.1 h).elim
      · have hgf : g = f := honly g d hg (by simp [HandleResultCall.key, hreq]) hfrom
        subst hgf
        rcases hact with h | h
        · exact (hf h).elim
        · exact (hd h).elim
  have hwaiter : ∃ w, t.waiters v.instanceId r = some w ∧ w.clientId = v.expectedClientId := by
    rw [hsame.waiters]
    exact hpending.waiter
  have hcalls : t.calls f = s.calls f := calls_frame hcall hf hstep
  suffices hrest : t.waiterKey r = some v.instanceId ∧
      (∃ stage, t.invocations r = some { v with stage }) ∧ t.bus f = s.bus f from
    ⟨⟨hwaiter, hrest.1, hrest.2.1⟩, hcalls, hrest.2.2⟩
  have moved : ∀ {r' : String} {v' : Invocation} (stage' : DispatchStage),
      s.invocations r' = some v' →
      ∃ stage, Function.update s.invocations r' (some { v' with stage := stage' }) r =
        some { v with stage } := by
    intro r' v' stage' hv'
    by_cases hr : r = r'
    · subst hr
      rw [← Option.some.inj (hv.symm.trans hv')]
      exact ⟨stage', Function.update_self ..⟩
    · exact ⟨stage, by simpa [hr] using hv⟩
  cases RelayStep.of_step hstep with
  | @register i r' selection clientId hfresh hsel =>
      have hne : r ≠ r' := by
        rintro rfl
        rw [hfresh] at hv
        contradiction
      exact ⟨hpending.waiterKey, ⟨stage, by
        simpa [State.setWaiter, State.setInvocation, hne] using hv⟩, rfl⟩
  | @mark r' v' fault stage' hv' =>
      have hset : (State.setWaiterKey r' v'.instanceId s).waiterKey r = some v.instanceId := by
        by_cases hr : r = r'
        · subst hr
          rw [← Option.some.inj (hv.symm.trans hv')]
          simp [State.setWaiterKey]
        · simpa [State.setWaiterKey, hr] using hpending.waiterKey
      cases fault with
      | none => exact ⟨hset, moved stage' hv', rfl⟩
      | rejected => exact ⟨hpending.waiterKey, moved stage' hv', rfl⟩
      | lost => exact ⟨hset, moved stage' hv', rfl⟩
  | dispatch hv' => exact ⟨hpending.waiterKey, moved _ hv', rfl⟩
  | cancelAbsent hv' => exact ⟨hpending.waiterKey, moved _ hv', rfl⟩
  | cancel reason hv' hw => exact ⟨hpending.waiterKey, moved _ hv', rfl⟩
  | @publish g d channel hd' hopen =>
      have hfg : f ≠ g := fun h => hf (by rw [h])
      exact ⟨hpending.waiterKey, ⟨stage, hv⟩, by simp [State.setCall, State.publish, hfg]⟩
  | @deliver g m r' w hm haccepts =>
      have hfg : f ≠ g := fun h => hd (by rw [h])
      exact ⟨hpending.waiterKey, ⟨stage, hv⟩, by simp [State.settle, hfg]⟩
  | @bounce g m deletes hm =>
      have hfg : f ≠ g := fun h => hd (by rw [h])
      exact ⟨hpending.waiterKey, ⟨stage, hv⟩, by simp [hfg]⟩
  | expireWaiterKey r' =>
      have hne : r ≠ r' := fun h => hwait.2.2 (by rw [h])
      exact ⟨by simpa [hne] using hpending.waiterKey, ⟨stage, hv⟩, rfl⟩
  | _ => exact ⟨hpending.waiterKey, ⟨stage, hv⟩, rfl⟩

/-- The expected sender is accepted while its waiter is pending. -/
theorem Pending.accepts (hpending : Pending s r v) (result : ResultMessage Payload) :
    s.resolveLocalWaiter v.instanceId (.text r) result v.expectedClientId =
      some (s.settle v.instanceId r (.resolved result)) := by
  rcases hpending.waiter with ⟨w, hw, hname⟩
  simp [State.resolveLocalWaiter, hw, hname]

/-! ## Steps of the honest frame -/

/-- The frame of `c` answers `r` and comes from the device that `r` waits for. -/
structure HonestCall (c : HandleResultCall Payload) (r : String) (v : Invocation) : Prop where
  request : c.message.requestKey = .text r
  sender : c.fromClientId = v.expectedClientId

/-- The two Redis keys of an honest call are those of its request. -/
theorem HonestCall.key (h : HonestCall c r v) (stage : HandleResultStage) :
    { c with stage }.key = r := by
  simp [HandleResultCall.key, h.request]

/-- Moving a call keeps a pending waiter pending. -/
theorem Pending.setCall (h : Pending s r v) (c' : HandleResultCall Payload) :
    Pending (s.setCall f c') r v :=
  ⟨h.waiter, h.waiterKey, h.invocation⟩

/-- The settlement recorded by an accepted honest result. -/
theorem Pending.settle_settled (hinv : Invariant s) (h : Pending s r v)
    (result : ResultMessage Payload) :
    (s.settle v.instanceId r (.resolved result)).settled r = [.resolved result] := by
  simp [State.settle, h.unsettled hinv]

/-- The claim of the key is the only command at which the honest frame can be
turned away. -/
theorem Progress.handleResult (hinv : Invariant s) (hc : HonestCall c r v)
    (hprogress : Progress f r v c s) (hstep : Relay.step s (.handleResult f) = some t) :
    Progress f r v c t ∨
      (Suppressed f r v c t ∧ ∃ i, s.calls f = some { c with stage := .claimCompleted i } ∧
        s.completedKey r = true) := by
  simp only [Relay.step, State.handleResult] at hstep
  cases hprogress with
  | handling stage hpending hcall hway hbus =>
      simp only [hcall, hc.key] at hstep
      rcases hway with hstage | hstage | ⟨hstage, hlocal⟩ | hstage <;>
        simp only at hstage <;> subst hstage
      -- GET of the waiter key
      · simp only [hpending.waiterKey, Option.some.injEq] at hstep
        rw [← hstep]
        exact Or.inl (.handling _ (hpending.setCall _) (Function.update_self ..)
          (Or.inr (Or.inl rfl)) hbus)
      -- SET NX of the completed key
      · simp only at hstep
        split at hstep
        · rename_i hclaimed
          rw [← Option.some.inj hstep]
          exact Or.inr ⟨⟨hpending.setCall _, Function.update_self .., hbus⟩, _, hcall, hclaimed⟩
        · have hset : Pending (s.setCompleted r) r v :=
            ⟨hpending.waiter, hpending.waiterKey, hpending.invocation⟩
          rw [← Option.some.inj hstep]
          by_cases hi : v.instanceId = c.instanceId
          · refine Or.inl (.handling .resolveLocal (hset.setCall _) ?_
              (Or.inr (Or.inr (Or.inl ⟨rfl, hi.symm⟩))) hbus)
            simp [State.setCall, hi]
          · refine Or.inl (.handling (.publish v.instanceId) (hset.setCall _) ?_
              (Or.inr (Or.inr (Or.inr rfl))) hbus)
            simp [State.setCall, hi]
      -- the waiter is local
      · have haccept := hpending.accepts c.message
        simp only at hlocal
        rw [← hlocal, ← hc.request, ← hc.sender] at haccept
        simp only [haccept, Option.some.injEq] at hstep
        rw [← hstep]
        refine Or.inl (.resolved .ok (Function.update_self ..) ?_)
        rw [hlocal]
        exact hpending.settle_settled hinv _
      -- the waiter is on another instance
      · simp only [Option.some.injEq] at hstep
        rw [← hstep]
        refine Or.inl (.routed ⟨hpending.waiter, hpending.waiterKey, hpending.invocation⟩
          (Function.update_self ..) ?_)
        simp [State.setCall, State.publish, routedMessage, hc.request, hc.sender]
  | routed hpending hcall hbus => simp [hcall] at hstep
  | resolved outcome hcall hsettled => simp [hcall] at hstep

/-- Delivering the routed message resolves the waiter. -/
theorem Progress.deliver (hinv : Invariant s) (hprogress : Progress f r v c s)
    (hstep : Relay.step s (.deliver f) = some t) : Progress f r v c t := by
  simp only [Relay.step] at hstep
  cases hprogress with
  | handling stage hpending hcall hway hbus => simp [State.deliver, hbus] at hstep
  | routed hpending hcall hbus =>
      have htaken : Pending { s with bus := Function.update s.bus f none } r v :=
        ⟨hpending.waiter, hpending.waiterKey, hpending.invocation⟩
      have haccept := htaken.accepts c.message
      simp only [State.deliver, hbus, routedMessage, haccept, Option.some.injEq] at hstep
      rw [← hstep]
      exact .resolved .routed hcall (hpending.settle_settled hinv _)
  | resolved outcome hcall hsettled =>
      have hcalls : t.calls f = s.calls f :=
        calls_frame (a := .deliver f) (by rw [hcall]; rfl) (by simp) hstep
      exact .resolved outcome (hcalls.trans hcall)
        (hinv.settled_stable_step (a := .deliver f) hsettled hstep)

/-- While nobody else holds the key at the claim, the honest result advances. -/
theorem Progress.step (hinv : Invariant s) (hc : HonestCall c r v)
    (hprogress : Progress f r v c s) (honly : OnlyHonest f r v s) (hwait : KeepsWaiting r a)
    (hclaim : Unclaimed f s a) (hstep : Relay.step s a = some t) : Progress f r v c t := by
  by_cases hf : a = .handleResult f
  · subst hf
    rcases hprogress.handleResult hinv hc hstep with hnext | ⟨-, i, hcall, hheld⟩
    · exact hnext
    · have hfree := hclaim rfl _ i hcall rfl
      rw [hc.key, hheld] at hfree
      contradiction
  · by_cases hd : a = .deliver f
    · subst hd
      exact hprogress.deliver hinv hstep
    · cases hprogress with
      | handling stage hpending hcall hway hbus =>
          rcases step_frame hinv hpending honly hwait (by rw [hcall]; rfl) hf hd hstep with
            ⟨hpending', hcalls, hbus'⟩
          exact .handling stage hpending' (hcalls.trans hcall) hway (hbus'.trans hbus)
      | routed hpending hcall hbus =>
          rcases step_frame hinv hpending honly hwait (by rw [hcall]; rfl) hf hd hstep with
            ⟨hpending', hcalls, hbus'⟩
          exact .routed hpending' (hcalls.trans hcall) (hbus'.trans hbus)
      | resolved outcome hcall hsettled =>
          have hcalls := calls_frame (by rw [hcall]; rfl) hf hstep
          exact .resolved outcome (hcalls.trans hcall) (hinv.settled_stable_step hsettled hstep)

/-- A claim that finds the key held turns the honest result away. -/
theorem Progress.suppressed (hc : HonestCall c r v)
    (hprogress : Progress f r v c s) (hclaim : ¬Unclaimed f s a)
    (hstep : Relay.step s a = some t) : Suppressed f r v c t := by
  simp only [Unclaimed, Classical.not_imp, not_forall] at hclaim
  rcases hclaim with ⟨rfl, d, i, hd, hstage, hheld⟩
  cases hprogress with
  | handling stage hpending hcall hway hbus =>
      rw [hcall] at hd
      have hdc := Option.some.inj hd
      subst hdc
      rw [hc.key, Bool.not_eq_false] at hheld
      simp only at hstage
      subst hstage
      simp only [Relay.step, State.handleResult, hcall, hc.key, hheld, if_true,
        Option.some.injEq] at hstep
      rw [← hstep]
      exact ⟨hpending.setCall _, Function.update_self .., hbus⟩
  | routed hpending hcall hbus =>
      rw [hcall] at hd
      rw [← Option.some.inj hd] at hstage
      contradiction
  | resolved outcome hcall hsettled =>
      rw [hcall] at hd
      rw [← Option.some.inj hd] at hstage
      contradiction

/-- A result that was turned away stays away while the waiter waits on. -/
theorem Suppressed.step (hinv : Invariant s) (h : Suppressed f r v c s)
    (honly : OnlyHonest f r v s) (hwait : KeepsWaiting r a)
    (hstep : Relay.step s a = some t) : Suppressed f r v c t := by
  have hf : a ≠ .handleResult f := by
    rintro rfl
    simp [Relay.step, State.handleResult, h.call] at hstep
  have hd : a ≠ .deliver f := by
    rintro rfl
    simp [Relay.step, State.deliver, h.bus] at hstep
  rcases step_frame hinv h.pending honly hwait (by rw [h.call]; rfl) hf hd hstep with
    ⟨hpending, hcalls, hbus⟩
  exact ⟨hpending, hcalls.trans h.call, hbus.trans h.bus⟩

/-! ## Runs of the honest frame -/

theorem Suppressed.run (hinv : Invariant s) (h : Suppressed f r v c s)
    (hrun : (machine Payload).run s as = some t) (honly : OnlyHonest f r v t)
    (hwait : ∀ a ∈ as, KeepsWaiting r a) : Suppressed f r v c t := by
  induction as generalizing s with
  | nil =>
      simp only [Machine.run_nil, Option.some.injEq] at hrun
      exact hrun ▸ h
  | cons a as ih =>
      have hhere := honly.of_run hrun
      rcases Machine.run_cons_eq_some.mp hrun with ⟨u, hstep, hrest⟩
      exact ih (hinv.step hstep) (h.step hinv hhere (hwait a (by simp)) hstep) hrest
        fun b hb => hwait b (by simp [hb])

/-- From any point of its way, the honest result resolves the waiter exactly
when the rest of the run finds the key free at the claim. -/
theorem Progress.resolves_iff (hinv : Invariant s) (hc : HonestCall c r v)
    (hprogress : Progress f r v c s) (hrun : (machine Payload).run s as = some t)
    (honly : OnlyHonest f r v t) (hwait : ∀ a ∈ as, KeepsWaiting r a)
    (hanswered : ∃ d outcome, t.calls f = some d ∧ d.stage = .acked outcome)
    (hdelivered : t.bus f = none) :
    .resolved c.message ∈ t.settled r ↔ (machine Payload).Meets (Unclaimed f) s as := by
  induction as generalizing s with
  | nil =>
      simp only [Machine.run_nil, Option.some.injEq] at hrun
      subst hrun
      refine ⟨fun _ => trivial, fun _ => ?_⟩
      cases hprogress with
      | handling stage hpending hcall hway hbus =>
          rcases hanswered with ⟨d, outcome, hd, hacked⟩
          rw [hcall] at hd
          rw [← Option.some.inj hd] at hacked
          simp only at hacked
          subst hacked
          simp [OnTheWay] at hway
      | routed hpending hcall hbus => simp [hbus] at hdelivered
      | resolved outcome hcall hsettled => simp [hsettled]
  | cons a as ih =>
      have hhere := honly.of_run hrun
      rcases Machine.run_cons_eq_some.mp hrun with ⟨u, hstep, hrest⟩
      have hrestwait : ∀ b ∈ as, KeepsWaiting r b := fun b hb => hwait b (by simp [hb])
      by_cases hclaim : Unclaimed f s a
      · have hnext := hprogress.step hinv hc hhere (hwait a (by simp)) hclaim hstep
        rw [ih (hinv.step hstep) hnext hrest hrestwait, Machine.meets_cons_of_step hstep]
        exact ⟨fun hmeets => ⟨hclaim, hmeets⟩, fun hmeets => hmeets.2⟩
      · have hlate := hprogress.suppressed hc hclaim hstep
        have hend := hlate.run (hinv.step hstep) hrest honly hrestwait
        have htinv : Invariant t :=
          Machine.run_invariant (fun hI hs => hI.step hs) (hinv.step hstep) hrest
        rw [hend.pending.unsettled htinv]
        constructor
        · intro hmem
          contradiction
        · intro hmeets
          exact (hclaim hmeets.head).elim

/-- The honest frame of a window starts on its way. -/
theorem ResultWindow.progress (h : ResultWindow s as t f r v c) : Progress f r v c s := by
  have hinv := Invariant.of_reachable h.reachable
  have hpending : Pending s r v := by
    refine ⟨?_, ?_, v.stage, h.invocation⟩
    · rcases Option.isSome_iff_exists.mp h.pending with ⟨w, hw⟩
      rcases hinv.waiter_registered _ _ _ hw with ⟨v', hv', -, hname⟩
      have hvv : v = v' := Option.some.inj (h.invocation.symm.trans hv')
      exact ⟨w, hw, hvv ▸ hname.symm⟩
    · rcases Option.isSome_iff_exists.mp h.alive with ⟨i, hi⟩
      rcases hinv.waiterKey_owner _ _ hi with ⟨v', hv', hinst⟩
      have hvv : v = v' := Option.some.inj (h.invocation.symm.trans hv')
      rw [hi, hvv, hinst]
  have hbus : s.bus f = none := by
    cases hb : s.bus f with
    | none => rfl
    | some m =>
        rcases bus_routed h.reachable f m hb with ⟨d, hd, hrouted⟩
        rw [h.call] at hd
        rw [← Option.some.inj hd, h.starts] at hrouted
        contradiction
  exact .handling c.stage hpending h.call (Or.inl h.starts) hbus

/-- Exactly when the honest result gets through.  Along every run that follows
the one frame of the expected device from its start until all its effects are
delivered, while its waiter is pending and the waiter key alive, the waiter is
resolved with that frame if and only if no other call holds the deduplication
key when the frame claims it. -/
theorem honest_result_resolves_iff (h : ResultWindow s as t f r v c) :
    .resolved c.message ∈ t.settled r ↔ (machine Payload).Meets (Unclaimed f) s as := by
  exact h.progress.resolves_iff (Invariant.of_reachable h.reachable)
    ⟨h.request, h.honest⟩ h.run h.only h.waiting h.answered h.delivered

/-! ### An unchallenged result -/

/-- The frame of the device that {lit}`"request"` waits for. -/
def honestFrame : ResultMessage Nat := ⟨some (.text "request"), some "device-a", 7⟩

/-- The invocation that waits for {lit}`"device-a"` on instance 0. -/
def waitingInvocation : Invocation := ⟨0, "device-a", .awaiting⟩

/-- The call of {lit}`honestFrame`, received on socket 0. -/
def honestCall : HandleResultCall Nat := ⟨0, 0, "device-a", honestFrame, .readWaiter⟩

/-- An invocation is dispatched, and its device answers. -/
def answeredTrace : List (Action Nat) :=
  [.connect 0 0 "device-a", .registerWaiter 0 "request" (.requested "device-a"),
    .markWaiting "request" .none, .dispatchJob "request" .dispatched, .receive 0 0 honestFrame]

/-- The cluster when the honest frame has been received. -/
def answeredState : State Nat :=
  ((machine Nat).run (State.empty Nat) answeredTrace).getD (State.empty Nat)

/-- The three commands of the honest call. -/
def honestWindow : List (Action Nat) := [.handleResult 0, .handleResult 0, .handleResult 0]

/-- The cluster after {lit}`honestWindow`. -/
def resolvedState : State Nat :=
  ((machine Nat).run answeredState honestWindow).getD (State.empty Nat)

/-- The only call on record is that of the honest frame. -/
theorem resolvedState_only : OnlyHonest 0 "request" waitingInvocation resolvedState := by
  intro g d hd _ _
  cases g with
  | zero => rfl
  | succ n =>
      have hnone : resolvedState.calls (n + 1) = none := rfl
      rw [hnone] at hd
      contradiction

/-- Every action of the window keeps the waiter pending. -/
theorem honestWindow_waiting : ∀ a ∈ honestWindow, KeepsWaiting "request" a := by
  simp [honestWindow, KeepsWaiting]

/-- An honest result that nobody challenges is delivered. -/
theorem honest_result_resolves_iff_unchallenged :
    .resolved honestFrame ∈ resolvedState.settled "request" ∧
      (machine Nat).Meets (Unclaimed 0) answeredState honestWindow := by
  have hwindow : ResultWindow answeredState honestWindow resolvedState 0 "request"
      waitingInvocation honestCall :=
    { reachable := ⟨State.empty Nat, answeredTrace, rfl, rfl⟩
      invocation := by decide
      pending := by decide
      alive := by decide
      call := by decide
      starts := rfl
      request := rfl
      honest := rfl
      run := rfl
      waiting := honestWindow_waiting
      only := resolvedState_only
      answered := ⟨{ honestCall with stage := .acked .ok }, .ok, by decide, rfl⟩
      delivered := by decide }
  have hresolved : .resolved honestFrame ∈ resolvedState.settled "request" := by decide
  exact ⟨hresolved, (honest_result_resolves_iff hwindow).mp hresolved⟩

/-! ### A suppressed result -/

/-- A frame of another device that names the same request. -/
def forgedFrame : ResultMessage Nat := ⟨some (.text "request"), some "device-a", 0⟩

/-- A second device has claimed {lit}`rpc:completed:request` with its forged
frame when the honest frame arrives. -/
def impostorTrace : List (Action Nat) :=
  [.connect 0 0 "device-a", .connect 1 0 "device-b",
    .registerWaiter 0 "request" (.requested "device-a"),
    .markWaiting "request" .none, .dispatchJob "request" .dispatched,
    .receive 1 1 forgedFrame, .handleResult 1, .handleResult 1, .receive 0 0 honestFrame]

/-- The cluster when the honest frame has been received. -/
def impostorState : State Nat :=
  ((machine Nat).run (State.empty Nat) impostorTrace).getD (State.empty Nat)

/-- The honest call is acknowledged as late; only then is the forged result
found to be a mismatch and the key released. -/
def impostorWindow : List (Action Nat) :=
  [.handleResult 0, .handleResult 0, .handleResult 1, .handleResult 1]

/-- The cluster after {lit}`impostorWindow`. -/
def suppressedState : State Nat :=
  ((machine Nat).run impostorState impostorWindow).getD (State.empty Nat)

/-- Two frames name the request, but only one comes from its device. -/
theorem suppressedState_only : OnlyHonest 0 "request" waitingInvocation suppressedState := by
  intro g d hd _ hfrom
  match g with
  | 0 => rfl
  | 1 =>
      have hforged : suppressedState.calls 1 =
          some ⟨1, 0, "device-b", forgedFrame, .acked .mismatch⟩ := by decide
      rw [hforged] at hd
      rw [← Option.some.inj hd] at hfrom
      exact absurd hfrom (by decide)
  | n + 2 =>
      have hnone : suppressedState.calls (n + 2) = none := rfl
      rw [hnone] at hd
      contradiction

theorem impostorWindow_waiting : ∀ a ∈ impostorWindow, KeepsWaiting "request" a := by
  simp [impostorWindow, KeepsWaiting]

/-- A forged frame of another authenticated device turns the honest result away:
all effects are delivered, and the waiter still waits. -/
theorem impostor_suppresses_result :
    ResultWindow impostorState impostorWindow suppressedState 0 "request" waitingInvocation
        honestCall ∧
      .resolved honestCall.message ∉ suppressedState.settled "request" :=
  ⟨{ reachable := ⟨State.empty Nat, impostorTrace, rfl, rfl⟩
     invocation := by decide
     pending := by decide
     alive := by decide
     call := by decide
     starts := rfl
     request := rfl
     honest := rfl
     run := rfl
     waiting := impostorWindow_waiting
     only := suppressedState_only
     answered := ⟨{ honestCall with stage := .acked .late }, .late, by decide, rfl⟩
     delivered := by decide }, by decide⟩

end Relay
end R2RPC
