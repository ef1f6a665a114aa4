/-!
# Calls that throw

Calls of {lit}`EStateM` as methods of an object: what a call did before it throws is done.

Main results:

- Theorems {lit}`bind_eq_ok` and {lit}`bind_eq_error`: the outcomes of two calls in a row.
- Theorem {lit}`Atomic.bind`: what is kept by a call that throws, from its parts.

Current gaps:

- No handlers: a call that throws ends its caller.
-/

namespace Throwing

variable {ε σ τ α β : Type} {before after : σ}

/-! ## Outcomes -/

theorem bind_eq_ok {call : EStateM ε σ α} {rest : α → EStateM ε σ β} {answer : β} :
    (call >>= rest) before = .ok answer after ↔
      ∃ first middle, call before = .ok first middle ∧ rest first middle = .ok answer after := by
  change EStateM.bind call rest before = _ ↔ _
  unfold EStateM.bind
  cases call before <;> simp [and_assoc]

theorem bind_eq_error {call : EStateM ε σ α} {rest : α → EStateM ε σ β} {thrown : ε} :
    (call >>= rest) before = .error thrown after ↔
      call before = .error thrown after ∨
      ∃ first middle, call before = .ok first middle ∧ rest first middle = .error thrown after := by
  change EStateM.bind call rest before = _ ↔ _
  unfold EStateM.bind
  cases call before <;> simp [and_assoc]

theorem get_eq_ok {answer : σ} :
    (get : EStateM ε σ σ) before = .ok answer after ↔ before = answer ∧ before = after :=
  ⟨fun h => EStateM.Result.ok.inj h, fun h => h.1 ▸ h.2 ▸ rfl⟩

theorem modify_eq_ok {f : σ → σ} {answer : Unit} :
    (modify f : EStateM ε σ Unit) before = .ok answer after ↔ f before = after :=
  ⟨fun h => (EStateM.Result.ok.inj h).2, fun h => h ▸ rfl⟩

theorem pure_eq_ok {answer answer' : α} :
    (pure answer : EStateM ε σ α) before = .ok answer' after ↔ answer = answer' ∧ before = after :=
  ⟨fun h => EStateM.Result.ok.inj h, fun h => h.1 ▸ h.2 ▸ rfl⟩

theorem throw_ne_ok {thrown : ε} {answer : α} :
    (throw thrown : EStateM ε σ α) before ≠ .ok answer after := by
  intro h
  contradiction

/-- A check that lets a call go on, or throws. -/
theorem guard_eq_ok {condition : Bool} {thrown : ε} {answer : Unit} :
    (if condition then pure () else throw thrown : EStateM ε σ Unit) before = .ok answer after ↔
      condition = true ∧ before = after := by
  cases condition with
  | true => exact ⟨fun h => ⟨rfl, (EStateM.Result.ok.inj h).2⟩, fun h => h.2 ▸ rfl⟩
  | false => exact ⟨fun h => by contradiction, fun h => absurd h.1 (by decide)⟩

/-! ## What is kept -/

/-- Whatever comes out, this part of the state is as it was. -/
def Keeps (view : σ → τ) (call : EStateM ε σ α) : Prop :=
  ∀ before after, (∀ answer, call before = .ok answer after → view after = view before) ∧
    ∀ thrown, call before = .error thrown after → view after = view before

/-- A call that throws leaves this part of the state as it was. -/
def Atomic (view : σ → τ) (call : EStateM ε σ α) : Prop :=
  ∀ before thrown after, call before = .error thrown after → view after = view before

variable {view : σ → τ}

theorem Keeps.bind {call : EStateM ε σ α} {rest : α → EStateM ε σ β} (hcall : Keeps view call)
    (hrest : ∀ answer, Keeps view (rest answer)) : Keeps view (call >>= rest) := by
  intro before after
  refine ⟨fun answer h => ?_, fun thrown h => ?_⟩
  · rcases bind_eq_ok.mp h with ⟨first, middle, hfirst, h⟩
    rw [(hrest first middle after).1 answer h, (hcall before middle).1 first hfirst]
  · rcases bind_eq_error.mp h with h | ⟨first, middle, hfirst, h⟩
    · exact (hcall before after).2 thrown h
    · rw [(hrest first middle after).2 thrown h, (hcall before middle).1 first hfirst]

theorem Atomic.bind {call : EStateM ε σ α} {rest : α → EStateM ε σ β} (hcall : Keeps view call)
    (hrest : ∀ answer, Atomic view (rest answer)) : Atomic view (call >>= rest) := by
  intro before thrown after h
  rcases bind_eq_error.mp h with h | ⟨answer, middle, hfirst, h⟩
  · exact (hcall before after).2 thrown h
  · rw [hrest answer middle thrown after h, (hcall before middle).1 answer hfirst]

theorem keeps_pure (answer : α) : Keeps view (pure answer : EStateM ε σ α) :=
  fun _ _ => ⟨fun _ h => congrArg view (EStateM.Result.ok.inj h).2.symm, fun _ h => by contradiction⟩

theorem keeps_throw (thrown : ε) : Keeps view (throw thrown : EStateM ε σ α) :=
  fun _ _ => ⟨fun _ h => by contradiction,
    fun _ h => congrArg view (EStateM.Result.error.inj h).2.symm⟩

theorem keeps_get : Keeps view (get : EStateM ε σ σ) :=
  fun _ _ => ⟨fun _ h => congrArg view (EStateM.Result.ok.inj h).2.symm, fun _ h => by contradiction⟩

theorem keeps_guard (condition : Bool) (thrown : ε) :
    Keeps view (if condition then pure () else throw thrown : EStateM ε σ Unit) := by
  cases condition with
  | true => exact keeps_pure ()
  | false => exact keeps_throw thrown

theorem keeps_modify {f : σ → σ} (h : ∀ state, view (f state) = view state) :
    Keeps view (modify f : EStateM ε σ Unit) :=
  fun before _ => ⟨fun _ hok => (EStateM.Result.ok.inj hok).2 ▸ h before, fun _ h => by contradiction⟩

theorem Keeps.atomic {call : EStateM ε σ α} (h : Keeps view call) : Atomic view call :=
  fun before thrown after => (h before after).2 thrown

/-- A call that always returns. -/
theorem atomic_modify (f : σ → σ) : Atomic view (modify f : EStateM ε σ Unit) :=
  fun _ _ _ h => by contradiction

end Throwing
