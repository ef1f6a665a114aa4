import R2RPC.Gateway.Slots

/-!
# Slots within one session

Within one session of a device nothing deletes {lit}`device:inflight:<id>`, so the
counter returns to zero exactly through the releases of {lit}`RpcService.invoke`.
A slot is kept for ever when the script has acquired it but its reply is lost, or
when the {lit}`DECR` of a release is rejected; a counter stays negative when the
floor that follows a negative {lit}`DECR` does not reach the server.

Main results:

- Structure {lit}`SlotInvariant`: the counter is bounded by the holders, and a
  negative counter is about to be floored.
- Theorem {lit}`Invocation.Balanced.advance`: one release for each acquired slot.
- Theorem {lit}`slot_not_leaked`: no leak along every run without these faults.
- Theorem {lit}`lost_acquire_leaks`: a lost reply leaks a slot.

Current gaps:

- None within one session.
-/

namespace R2RPC
namespace Gateway

open Interleaving

variable {s t : State} {a : Action} {as : List Action} {clientId : ClientId}

/-! ## The condition -/

/-- No successful acquisition loses its reply, no release is rejected before it
runs, and no negative counter is left without its floor. -/
structure Invocation.KeepsSlot (clientId : ClientId) (store : Store) (fault : Fault)
    (invocation : Invocation) : Prop where
  acquired : ∀ maximumInFlight remaining,
    invocation.stage = .acquire clientId maximumInFlight remaining →
      store.slotFree clientId maximumInFlight = true → fault ≠ .lost
  released : invocation.stage = .dispatching clientId → fault ≠ .rejected
  negative : invocation.stage = .dispatching clientId → store.inFlightCount clientId ≤ 0 →
    fault ≠ .lost
  floored : invocation.stage = .floor clientId → fault ≠ .rejected

/-- The condition on one step. -/
def SlotKept (clientId : ClientId) (s : State) (a : Action) : Prop :=
  ∀ id fault order invocation, a = .dispatch id fault order →
    s.invocations[id]? = some invocation → invocation.KeepsSlot clientId s.store fault

/-- The step is taken within the session: nothing deletes the counter. -/
def WithinSession (clientId : ClientId) (s : State) (a : Action) : Prop :=
  ¬ResetsInFlight clientId s a

/-! ## The counter -/

/-- The counter never exceeds the holders, and is negative only while a release
still has to write its floor. -/
structure SlotInvariant (clientId : ClientId) (s : State) : Prop where
  bounded : s.store.inFlightCount clientId ≤ s.holders clientId
  floored : s.store.inFlightCount clientId < 0 → 0 < s.floors clientId

theorem SlotInvariant.absent (h : s.store.inFlight clientId = none) :
    SlotInvariant clientId s := by
  have hzero : s.store.inFlightCount clientId = 0 := by simp [Store.inFlightCount, h]
  exact ⟨by omega, by omega⟩

/-- One step within the session that keeps the slots. -/
theorem SlotInvariant.step (h : SlotInvariant clientId s) (hsession : WithinSession clientId s a)
    (hkept : SlotKept clientId s a) (hstep : Gateway.step s a = some t) :
    SlotInvariant clientId t := by
  have hbounded := h.bounded
  have hfloored := h.floored
  by_cases hdispatch : ∃ id fault order, a = .dispatch id fault order
  · rcases hdispatch with ⟨id, fault, order, rfl⟩
    rcases State.dispatch_eq_some hstep with ⟨invocation, hget, -, -, -⟩
    have hkeeps := hkept id fault order invocation rfl hget
    cases dispatch_slotEffect clientId hget hstep with
    | idle hcount hholders hfloors =>
        exact ⟨by omega, fun hneg => by have := hfloored; omega⟩
    | acquired limit rest hstage hfree hrun hcount hholders hfloors =>
        have hthrows : fault.throws = false := by
          cases fault with
          | none => rfl
          | rejected => contradiction
          | lost => exact (hkeeps.acquired limit rest hstage hfree rfl).elim
        simp only [hthrows, Bool.false_eq_true, if_false] at hholders
        exact ⟨by omega, fun hneg => by have := hfloored; omega⟩
    | released hstage hcount hholders hfloors =>
        have hrun : fault.executes = true := by
          cases fault with
          | none => rfl
          | rejected => exact (hkeeps.released hstage rfl).elim
          | lost => rfl
        simp only [hrun, if_true] at hcount
        refine ⟨by omega, fun hneg => ?_⟩
        have hthrows : fault.throws = false := by
          cases fault with
          | none => rfl
          | rejected => contradiction
          | lost => exact (hkeeps.negative hstage (by omega) rfl).elim
        have hlow : s.store.inFlightCount clientId - 1 < 0 := by omega
        simp only [hthrows, hlow, and_self, if_true] at hfloors
        omega
    | floored hstage hcount hholders hfloors =>
        have hrun : fault.executes = true := by
          cases fault with
          | none => rfl
          | rejected => exact (hkeeps.floored hstage rfl).elim
          | lost => rfl
        simp only [hrun, if_true] at hcount
        exact ⟨by omega, by omega⟩
  · have hother : ∀ id fault order, a ≠ .dispatch id fault order :=
      fun id fault order ha => hdispatch ⟨id, fault, order, ha⟩
    rcases step_holders clientId hother hstep with ⟨hholders, hfloors⟩
    rcases step_inFlight clientId hother hstep with hsame | ⟨hreset, -⟩
    · have hcount : t.store.inFlightCount clientId = s.store.inFlightCount clientId := by
        simp [Store.inFlightCount, hsame]
      exact ⟨by omega, fun hneg => by have := hfloored; omega⟩
    · exact (hsession hreset).elim

/-! ## Acquisitions and releases -/

/-- Slots taken and given back, by stage: an invocation that has ended has
released the slot of the device exactly once if it had acquired it. -/
def Invocation.Balanced (clientId : ClientId) (invocation : Invocation) : Prop :=
  match invocation.stage with
  | .dispatching c => invocation.acquired = some c ∧ invocation.released = 0
  | .floor c => invocation.acquired = some c ∧ invocation.released = 1
  | .ended =>
      (invocation.acquired = some clientId → invocation.released = 1) ∧
        (invocation.acquired = none → invocation.released = 0)
  | _ => invocation.acquired = none ∧ invocation.released = 0

/-- Before it ends, an invocation that is selecting a device has no slot. -/
theorem Invocation.balanced_of_selecting {invocation : Invocation}
    (hselecting : invocation.stage.selecting = true) (hacquired : invocation.acquired = none)
    (hreleased : invocation.released = 0) : invocation.Balanced clientId := by
  unfold Balanced
  split
  · rename_i c hstage
    simp [hstage, InvocationStage.selecting] at hselecting
  · rename_i c hstage
    simp [hstage, InvocationStage.selecting] at hselecting
  · exact ⟨by simp [hacquired], fun _ => hreleased⟩
  · exact ⟨hacquired, hreleased⟩

theorem Invocation.balanced_start (projectId : ProjectId) (requested : Option ClientId) :
    (Invocation.start projectId requested).Balanced clientId := by
  unfold Invocation.start
  cases requested.filter (· ≠ "") <;> exact ⟨rfl, rfl⟩

section Advance

variable {invocation : Invocation} {store : Store} {fault : Fault} {order : List ClientId}

/-- The script takes a slot and the invocation holds it, unless the answer is lost. -/
theorem Invocation.Balanced.acquire {c : ClientId} {limit : Nat} {rest : List ClientId}
    (h : invocation.Balanced clientId) (hstage : invocation.stage = .acquire c limit rest)
    (hkeeps : invocation.KeepsSlot clientId store fault ∨
      (invocation.advance store fault order).stage ≠ .ended) :
    (invocation.advance store fault order).Balanced clientId := by
  have hbefore : invocation.acquired = none ∧ invocation.released = 0 := by
    simpa [Balanced, hstage] using h
  by_cases hfree : store.slotFree c limit = true
  · cases fault with
    | none => simp [Balanced, Invocation.advance, next, acquiredAfter, releasedAfter, hstage,
        hfree, hbefore, Fault.throws, Fault.executes]
    | rejected => simp [Balanced, Invocation.advance, hbefore, Fault.throws, Fault.executes]
    | lost =>
        have hne : c ≠ clientId := by
          rintro rfl
          rcases hkeeps with hkeeps | hgoes
          · exact hkeeps.acquired limit rest hstage hfree rfl
          · simp [Invocation.advance, Fault.throws] at hgoes
        simp [Balanced, Invocation.advance, acquiredAfter, releasedAfter, hstage, hfree, hbefore,
          Fault.throws, Fault.executes, hne]
  · refine balanced_of_selecting ?_ ?_ ?_
    · simp only [Invocation.advance, next, hstage, hfree]
      split
      · rfl
      · exact nextDevice_selecting rest
    · simp [Invocation.advance, acquiredAfter, hstage, hfree, hbefore]
    · simp [Invocation.advance, releasedAfter, hstage, hbefore]

/-- The `DECR` releases the slot, unless it is rejected. -/
theorem Invocation.Balanced.release {c : ClientId} (h : invocation.Balanced clientId)
    (hstage : invocation.stage = .dispatching c)
    (hkeeps : invocation.KeepsSlot clientId store fault ∨
      (invocation.advance store fault order).stage ≠ .ended) :
    (invocation.advance store fault order).Balanced clientId := by
  have hbefore : invocation.acquired = some c ∧ invocation.released = 0 := by
    simpa [Balanced, hstage] using h
  cases fault with
  | none =>
      by_cases hlow : store.inFlightCount c - 1 < 0 <;>
        simp [Balanced, Invocation.advance, next, acquiredAfter, releasedAfter, hstage, hlow,
          hbefore, Fault.throws, Fault.executes]
  | rejected =>
      have hne : c ≠ clientId := by
        rintro rfl
        rcases hkeeps with hkeeps | hgoes
        · exact hkeeps.released hstage rfl
        · simp [Invocation.advance, Fault.throws] at hgoes
      simp [Balanced, Invocation.advance, hbefore, Fault.throws, Fault.executes, hne]
  | lost => simp [Balanced, Invocation.advance, acquiredAfter, releasedAfter, hstage, hbefore,
      Fault.throws, Fault.executes]

/-- An invocation that is selecting goes on selecting. -/
theorem Invocation.balanced_advance_selecting
    (hbefore : invocation.acquired = none ∧ invocation.released = 0)
    (hacquire : ∀ c limit rest, invocation.stage ≠ .acquire c limit rest)
    (hdispatching : ∀ c, invocation.stage ≠ .dispatching c) :
    (invocation.advance store fault order).Balanced clientId := by
  have hacquired : invocation.acquiredAfter store = none := by
    unfold acquiredAfter
    split
    next c limit rest hstage => exact absurd hstage (hacquire c limit rest)
    next => exact hbefore.1
  have hreleased : invocation.releasedAfter = 0 := by
    unfold releasedAfter
    split
    next c hstage => exact absurd hstage (hdispatching c)
    next => exact hbefore.2
  refine balanced_of_selecting ?_ ?_ ?_
  · simp only [Invocation.advance]
    split
    · rfl
    · exact next_selecting store order hacquire hdispatching
  · simp [Invocation.advance, hacquired, hbefore]
  · simp [Invocation.advance, hreleased, hbefore]

/-- One command keeps the balance, provided that it keeps the slot or the
invocation goes on. -/
theorem Invocation.Balanced.advance
    (h : invocation.Balanced clientId) (hactive : invocation.stage ≠ .ended)
    (hkeeps : invocation.KeepsSlot clientId store fault ∨
      (invocation.advance store fault order).stage ≠ .ended) :
    (invocation.advance store fault order).Balanced clientId := by
  cases hstage : invocation.stage with
  | acquire c limit rest => exact h.acquire hstage hkeeps
  | dispatching c => exact h.release hstage hkeeps
  | floor c =>
      have hbefore : invocation.acquired = some c ∧ invocation.released = 1 := by
        simpa [Balanced, hstage] using h
      simp [Balanced, Invocation.advance, next, acquiredAfter, releasedAfter, hstage, hbefore]
  | ended => exact absurd hstage hactive
  | checkRequested | listMembers | checkCandidate | dropCandidate | advanceCursor | readLimit =>
      refine balanced_advance_selecting ?_ (by simp [hstage]) (by simp [hstage])
      simpa [Balanced, hstage] using h

end Advance

/-- In every reachable state, an invocation that has not ended is balanced. -/
theorem balanced_of_reachable (h : machine.Reachable s) :
    ∀ invocation ∈ s.invocations, invocation.stage ≠ .ended → invocation.Balanced clientId := by
  refine h.invariant (I := fun s => ∀ invocation ∈ s.invocations,
    invocation.stage ≠ .ended → invocation.Balanced clientId) ?_ ?_
  · rintro s ⟨deviceTokens, devices, rfl⟩ invocation hmem
    simp [State.start] at hmem
  · intro s a t hI hstep invocation hmem hactive
    by_cases hdispatch : ∃ id fault order, a = .dispatch id fault order
    · rcases hdispatch with ⟨id, fault, order, rfl⟩
      rcases State.dispatch_eq_some hstep with ⟨old, hget, hold, -, rfl⟩
      rcases List.mem_or_eq_of_mem_set hmem with hmem | rfl
      · exact hI invocation hmem hactive
      · have hbalanced := hI old (List.mem_of_getElem? hget) hold
        exact hbalanced.advance hold (Or.inr hactive)
    · have hother : ∀ id fault order, a ≠ .dispatch id fault order :=
        fun id fault order ha => hdispatch ⟨id, fault, order, ha⟩
      rcases step_invocations hother hstep with
        hsame | ⟨projectId, requested, hadd⟩
      · exact hI invocation (hsame ▸ hmem) hactive
      · rw [hadd, List.mem_append, List.mem_singleton] at hmem
        rcases hmem with hmem | rfl
        · exact hI invocation hmem hactive
        · exact Invocation.balanced_start projectId requested

/-- Every invocation is balanced, apart from those that had ended before. -/
def BalancedSince (clientId : ClientId) (s t : State) : Prop :=
  ∀ (id : Nat) (invocation : Invocation), t.invocations[id]? = some invocation →
    invocation.Balanced clientId ∨
      ∃ old : Invocation, s.invocations[id]? = some old ∧ old.stage = .ended

theorem BalancedSince.step {u : State} (h : BalancedSince clientId s u)
    (hkept : SlotKept clientId u a) (hstep : Gateway.step u a = some t) :
    BalancedSince clientId s t := by
  intro id invocation hget
  by_cases hdispatch : ∃ id fault order, a = .dispatch id fault order
  · rcases hdispatch with ⟨moved, fault, order, rfl⟩
    rcases State.dispatch_eq_some hstep with ⟨old, hold, hactive, -, rfl⟩
    rw [List.getElem?_set] at hget
    split at hget
    · rename_i hsame
      subst hsame
      split at hget
      · rcases h moved old hold with hbalanced | hended
        · rw [← Option.some.inj hget]
          exact Or.inl (hbalanced.advance hactive
            (Or.inl (hkept moved fault order old rfl hold)))
        · exact Or.inr hended
      · contradiction
    · exact h id invocation hget
  · have hother : ∀ id fault order, a ≠ .dispatch id fault order :=
      fun id fault order ha => hdispatch ⟨id, fault, order, ha⟩
    rcases step_invocations hother hstep with
      hsame | ⟨projectId, requested, hadd⟩
    · exact h id invocation (hsame ▸ hget)
    · rw [hadd, List.getElem?_append] at hget
      split at hget
      · exact h id invocation hget
      · rw [List.getElem?_singleton] at hget
        split at hget
        · rw [← Option.some.inj hget]
          exact Or.inl (Invocation.balanced_start projectId requested)
        · contradiction

/-! ## No leak -/

/-- No slot leaks within a session.  From the reset of the counter on, along every
run without another reset in which no successful acquisition loses its reply, no
release is rejected and every negative counter gets its floor: when no invocation
holds a slot of the device, its counter is absent or zero, and an invocation that
has ended since has released the slot it acquired exactly once. -/
theorem slot_not_leaked (hreach : machine.Reachable s)
    (hfresh : s.store.inFlight clientId = none)
    (hsession : machine.Meets (WithinSession clientId) s as)
    (hkept : machine.Meets (SlotKept clientId) s as) (hrun : machine.run s as = some t) :
    ((∀ invocation ∈ t.invocations, invocation.stage ≠ .dispatching clientId ∧
        invocation.stage ≠ .floor clientId) →
      t.store.inFlight clientId = none ∨ t.store.inFlight clientId = some 0) ∧
    ∀ (id : Nat) (invocation : Invocation), t.invocations[id]? = some invocation →
      invocation.stage = .ended →
      (∀ old : Invocation, s.invocations[id]? = some old → old.stage ≠ .ended) →
        (invocation.acquired = some clientId → invocation.released = 1) ∧
          (invocation.acquired = none → invocation.released = 0) := by
  have hcounter : SlotInvariant clientId t :=
    (hsession.and hkept).invariant (fun hI hC hstep => hI.step hC.1 hC.2 hstep)
      (SlotInvariant.absent hfresh) hrun
  have hstart : BalancedSince clientId s s := by
    intro id invocation hget
    by_cases hended : invocation.stage = .ended
    · exact Or.inr ⟨invocation, hget, hended⟩
    · exact Or.inl (balanced_of_reachable hreach invocation (List.mem_of_getElem? hget) hended)
  have hbalanced : BalancedSince clientId s t :=
    hkept.invariant (fun hI hC hstep => hI.step hC hstep) hstart hrun
  refine ⟨fun hquiet => ?_, fun id invocation hget hended hnew => ?_⟩
  · have hholders : t.holders clientId = 0 := by
      rw [State.holders, List.countP_eq_zero]
      intro invocation hmem
      simpa using (hquiet invocation hmem).1
    have hfloors : t.floors clientId = 0 := by
      rw [State.floors, List.countP_eq_zero]
      intro invocation hmem
      simpa using (hquiet invocation hmem).2
    have hle := hcounter.bounded
    have hge := hcounter.floored
    have hzero : t.store.inFlightCount clientId = 0 := by omega
    cases hflight : t.store.inFlight clientId with
    | none => exact Or.inl rfl
    | some count =>
        simp only [Store.inFlightCount, hflight, Option.getD_some] at hzero
        exact Or.inr (by rw [hzero])
  · rcases hbalanced id invocation hget with hbal | ⟨old, hold, hwas⟩
    · simpa [Invocation.Balanced, hended] using hbal
    · exact (hnew old hold hwas).elim

/-! ### One invocation -/

/-- The connected device `"device-a"` with capacity 1. -/
def connectedState : State :=
  (machine.run sampleState (connectTrace 0 0 (sampleRequest 0 1))).getD sampleState

/-- Presence, limit, slot and release of an invocation that names its device. -/
def invocationTrace : List Action :=
  acquireTrace 0 ++ [.dispatch 0 .none []]

/-- The cluster after {lit}`invocationTrace`. -/
def releasedState : State := (machine.run connectedState invocationTrace).getD sampleState

theorem connectedState_reachable : machine.Reachable connectedState :=
  ⟨sampleState, connectTrace 0 0 (sampleRequest 0 1), ⟨sampleTokens, noDevices, rfl⟩, rfl⟩

/-- A released slot leaves the counter at zero. -/
theorem slot_not_leaked_released :
    (releasedState.store.inFlight "device-a" = none ∨
        releasedState.store.inFlight "device-a" = some 0) ∧
      releasedState.invocations =
        [⟨1, some "device-a", .ended, some "device-a", 1⟩] := by
  have hinvs : releasedState.invocations =
      [⟨1, some "device-a", .ended, some "device-a", 1⟩] := by decide
  have hsession : machine.Meets (WithinSession "device-a") connectedState invocationTrace := by
    refine Machine.meets_of_forall_mem fun a ha u hreset => ?_
    rcases hreset with ⟨id, fault, socket, -, -, -, ⟨rfl, -⟩ | ⟨rfl, -⟩⟩ <;>
      simp [invocationTrace, acquireTrace] at ha
  have hkept : machine.Meets (SlotKept "device-a") connectedState invocationTrace := by
    refine Machine.meets_of_forall_mem fun a ha u => ?_
    rintro id fault order invocation rfl -
    have hfault : fault = .none := by
      simp only [invocationTrace, acquireTrace, List.cons_append, List.mem_cons, List.mem_append,
        List.mem_replicate, Action.dispatch.injEq, reduceCtorEq, List.not_mem_nil, or_false,
        false_or] at ha
      rcases ha with ⟨-, -, h, -⟩ | ⟨-, h, -⟩ <;> exact h
    subst hfault
    exact ⟨nofun, nofun, nofun, nofun⟩
  have hmain := slot_not_leaked connectedState_reachable (by decide)
    hsession hkept (t := releasedState) rfl
  refine ⟨hmain.1 ?_, hinvs⟩
  rw [hinvs]
  decide

/-! ### A lost reply -/

/-- The acquire script runs, but its reply is lost: the invocation answers 503. -/
def lostAcquireTrace : List Action :=
  [.invoke 1 (some "device-a"), .dispatch 0 .none [], .dispatch 0 .none [],
    .dispatch 0 .lost []]

/-- The cluster after {lit}`lostAcquireTrace`. -/
def leakedState : State := (machine.run connectedState lostAcquireTrace).getD sampleState

/-- The only slot of the device is taken for good, although no invocation is
outstanding. -/
theorem lost_acquire_leaks :
    machine.run connectedState lostAcquireTrace = some leakedState ∧
      leakedState.invocations = [⟨1, some "device-a", .ended, some "device-a", 0⟩] ∧
      leakedState.store.inFlight "device-a" = some 1 ∧
      leakedState.store.slotFree "device-a" 1 = false := by
  refine ⟨rfl, by decide, by decide, by decide⟩

end Gateway
end R2RPC
