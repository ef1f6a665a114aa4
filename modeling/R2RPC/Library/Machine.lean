import Mathlib.Logic.Function.Basic
import Mathlib.Data.List.Basic
import Mathlib.Data.List.Count

/-!
# Executable interleaving machines

A concurrent program is described by a state type, a type of actions and a
partial step function: an action that is not enabled in a state has no
successor.  An interleaving is then a plain list of actions, so a run can be
evaluated, and a statement about every interleaving is a statement about every
list.

Main results:

- Theorem {lit}`Machine.run_append`: runs compose.
- Theorem {lit}`Machine.Meets.invariant`: an assertion that every step meeting
  a side condition preserves holds after every run meeting it.
- Theorem {lit}`Machine.Reachable.invariant`: the same over reachable states.
- Theorem {lit}`Machine.meets_iff`: a side condition is met by a run exactly
  when it holds at every split of the run.
- Theorem {lit}`Machine.Meets.transfer`: under an invariant, a run that meets
  one side condition meets every condition it implies.
- Theorem {lit}`Machine.meets_iff_always`: the exact condition for an assertion to
  hold all along a run.

Current gaps:

- Finite runs only; fairness and liveness are not developed here.
-/

namespace Interleaving

/-- Replacing one process of a list. -/
theorem countP_set_add {α : Type} {p : α → Bool} {l : List α} {i : Nat} {x y : α}
    (h : l[i]? = some x) :
    (l.set i y).countP p + (if p x then 1 else 0) = l.countP p + if p y then 1 else 0 := by
  rcases List.getElem?_eq_some_iff.mp h with ⟨hi, rfl⟩
  have hpos : p l[i] = true → 0 < l.countP p :=
    fun hp => List.countP_pos_iff.mpr ⟨l[i], List.getElem_mem hi, hp⟩
  rw [List.countP_set hi]
  by_cases hp : p l[i] = true
  · have := hpos hp
    simp only [hp, if_true]
    omega
  · simp [hp]

/-- A process of a list with one more is an old one, or the new one. -/
theorem getElem?_concat_cases {α : Type} {l : List α} {i : Nat} {x y : α}
    (h : (l ++ [y])[i]? = some x) : l[i]? = some x ∨ i = l.length ∧ x = y := by
  rw [List.getElem?_append] at h
  split at h
  · exact .inl h
  · rcases List.getElem?_eq_some_iff.mp h with ⟨hlt, heq⟩
    rw [List.length_singleton] at hlt
    refine .inr ⟨by omega, ?_⟩
    rw [← heq, List.getElem_singleton]

/-- Replacing one process leaves the others. -/
theorem mem_set_or_eq {α : Type} {l : List α} {i : Nat} {x y z : α} (h : l[i]? = some x)
    (hmem : z ∈ l) : z ∈ l.set i y ∨ z = x := by
  rcases List.mem_iff_getElem?.mp hmem with ⟨j, hj⟩
  by_cases hsame : i = j
  · subst hsame
    exact .inr (Option.some.inj (hj.symm.trans h))
  · rw [← List.getElem?_set_ne hsame] at hj
    exact .inl (List.mem_of_getElem? hj)

/-- Where at most one process satisfies a predicate, it has one index. -/
theorem index_unique_of_countP {α : Type} {p : α → Bool} {l : List α} {i j : Nat} {x y : α}
    (hone : l.countP p ≤ 1) (hi : l[i]? = some x) (hj : l[j]? = some y) (hx : p x = true)
    (hy : p y = true) : i = j := by
  induction l generalizing i j with
  | nil => cases hi
  | cons z l ih =>
      have htail : ∀ {k w}, l[k]? = some w → p w = true → 0 < l.countP p :=
        fun hk hw => List.countP_pos_iff.mpr ⟨_, List.mem_of_getElem? hk, hw⟩
      rw [List.countP_cons] at hone
      cases i with
      | zero =>
          cases j with
          | zero => rfl
          | succ j =>
              have hpos := htail hj hy
              obtain rfl := Option.some.inj hi
              rw [if_pos hx] at hone
              omega
      | succ i =>
          cases j with
          | zero =>
              have hpos := htail hi hx
              obtain rfl := Option.some.inj hj
              rw [if_pos hy] at hone
              omega
          | succ j => exact congrArg _ (ih (by omega) hi hj)

/-- Replacing a process by one with the same key. -/
theorem map_set_same {α β : Type} {f : α → β} {l : List α} {i : Nat} {x y : α}
    (h : l[i]? = some x) (hkey : f y = f x) : (l.set i y).map f = l.map f := by
  rcases List.getElem?_eq_some_iff.mp h with ⟨hi, rfl⟩
  have hlt : i < (l.map f).length := by rwa [List.length_map]
  have hself : f l[i] = (l.map f)[i] := List.getElem_map .. |>.symm
  rw [List.map_set, hkey, hself, List.set_getElem_self hlt]

/-- Where keys are distinct, the processes that are not replaced have other keys. -/
theorem mem_set_of_nodup {α β : Type} {f : α → β} {l : List α} {i : Nat} {x y z : α}
    (hnodup : (l.map f).Nodup) (h : l[i]? = some x) (hmem : z ∈ l.set i y) :
    z = y ∨ z ∈ l ∧ f z ≠ f x := by
  have hi : i < l.length := (List.getElem?_eq_some_iff.mp h).1
  rcases List.mem_iff_getElem?.mp hmem with ⟨j, hj⟩
  by_cases hsame : i = j
  · subst hsame
    rw [List.getElem?_set_self hi, Option.some.injEq] at hj
    exact .inl hj.symm
  · rw [List.getElem?_set_ne hsame] at hj
    refine .inr ⟨List.mem_of_getElem? hj, fun hkey => hsame ?_⟩
    have hlt : i < (l.map f).length := by rwa [List.length_map]
    refine (List.getElem?_inj hlt hnodup).mp ?_
    rw [List.getElem?_map, List.getElem?_map, h, hj, Option.map_some, Option.map_some, hkey]

/-- A machine given by its initial states and a partial step function. -/
structure Machine (State Action : Type*) where
  initial : State → Prop
  step : State → Action → Option State

namespace Machine

variable {State Action : Type*} (M : Machine State Action)

/-- Execute a list of actions, failing at the first one that is not enabled. -/
def run : State → List Action → Option State
  | s, [] => some s
  | s, a :: as => (M.step s a).bind fun t => run t as

/-- A state is reachable when some run from an initial state ends in it. -/
def Reachable (s : State) : Prop :=
  ∃ s₀ as, M.initial s₀ ∧ M.run s₀ as = some s

/-- Every action of a run meets a condition on the state it is taken in. -/
def Meets (C : State → Action → Prop) : State → List Action → Prop
  | _, [] => True
  | s, a :: as => C s a ∧ ∀ t, M.step s a = some t → Meets C t as

variable {M} {s t u : State} {a : Action} {as bs : List Action}
  {C D : State → Action → Prop} {I : State → Prop}

/-! ## Runs -/

@[simp]
theorem run_nil : M.run s [] = some s := rfl

theorem run_cons_eq_some :
    M.run s (a :: as) = some u ↔ ∃ t, M.step s a = some t ∧ M.run t as = some u := by
  simp only [run, Option.bind_eq_some_iff]

theorem run_append :
    M.run s (as ++ bs) = some u ↔ ∃ t, M.run s as = some t ∧ M.run t bs = some u := by
  induction as generalizing s with
  | nil => simp
  | cons a as ih =>
      constructor
      · intro h
        rw [List.cons_append, run_cons_eq_some] at h
        rcases h with ⟨v, hv, hrest⟩
        rcases ih.mp hrest with ⟨t, ht, hu⟩
        exact ⟨t, run_cons_eq_some.mpr ⟨v, hv, ht⟩, hu⟩
      · rintro ⟨t, ht, hu⟩
        rcases run_cons_eq_some.mp ht with ⟨v, hv, hrest⟩
        rw [List.cons_append, run_cons_eq_some]
        exact ⟨v, hv, ih.mpr ⟨t, hrest, hu⟩⟩

theorem Reachable.initial (h : M.initial s) : M.Reachable s :=
  ⟨s, [], h, rfl⟩

/-- Running on from a reachable state stays among the reachable states. -/
theorem Reachable.run (h : M.Reachable s) (hrun : M.run s as = some t) : M.Reachable t := by
  rcases h with ⟨s₀, pre, hinit, hpre⟩
  exact ⟨s₀, pre ++ as, hinit, run_append.mpr ⟨s, hpre, hrun⟩⟩

/-! ## Side conditions along a run -/

@[simp]
theorem meets_nil : M.Meets C s [] := trivial

theorem meets_cons :
    M.Meets C s (a :: as) ↔ C s a ∧ ∀ t, M.step s a = some t → M.Meets C t as := Iff.rfl

theorem meets_cons_of_step (hstep : M.step s a = some t) :
    M.Meets C s (a :: as) ↔ C s a ∧ M.Meets C t as := by
  rw [meets_cons]
  refine and_congr_right fun _ => ⟨fun h => h t hstep, fun h u hu => ?_⟩
  exact Option.some.inj (hstep.symm.trans hu) ▸ h

theorem Meets.head (h : M.Meets C s (a :: as)) : C s a := h.1

theorem Meets.tail (h : M.Meets C s (a :: as)) (hstep : M.step s a = some t) :
    M.Meets C t as :=
  h.2 t hstep

/-- A decidable side condition can be checked by executing the run. -/
instance decidableMeets [∀ s a, Decidable (C s a)] : ∀ s as, Decidable (M.Meets C s as)
  | _, [] => isTrue trivial
  | s, a :: as =>
      match h : M.step s a with
      | none => decidable_of_iff (C s a) ⟨fun hC => ⟨hC, by simp [h]⟩, fun hC => hC.1⟩
      | some t =>
          have := decidableMeets t as
          decidable_of_iff (C s a ∧ M.Meets C t as) (meets_cons_of_step h).symm

/-- Two side conditions met together. -/
theorem Meets.and (hC : M.Meets C s as) (hD : M.Meets D s as) :
    M.Meets (fun s a => C s a ∧ D s a) s as := by
  induction as generalizing s with
  | nil => trivial
  | cons a as ih => exact ⟨⟨hC.head, hD.head⟩, fun t ht => ih (hC.tail ht) (hD.tail ht)⟩

/-- A side condition may be weakened. -/
theorem Meets.mono (hC : M.Meets C s as) (himp : ∀ s a, C s a → D s a) : M.Meets D s as := by
  induction as generalizing s with
  | nil => trivial
  | cons a as ih => exact ⟨himp s a hC.head, fun t ht => ih (hC.tail ht)⟩

theorem meets_append :
    M.Meets C s (as ++ bs) ↔
      M.Meets C s as ∧ ∀ t, M.run s as = some t → M.Meets C t bs := by
  induction as generalizing s with
  | nil => simp
  | cons a as ih =>
      rw [List.cons_append, meets_cons, meets_cons]
      constructor
      · rintro ⟨hC, hrest⟩
        refine ⟨⟨hC, fun t ht => (ih.mp (hrest t ht)).1⟩, fun u hu => ?_⟩
        rcases run_cons_eq_some.mp hu with ⟨t, ht, hrun⟩
        exact (ih.mp (hrest t ht)).2 u hrun
      · rintro ⟨⟨hC, has⟩, hbs⟩
        refine ⟨hC, fun t ht => ih.mpr ⟨has t ht, fun u hu => ?_⟩⟩
        exact hbs u (run_cons_eq_some.mpr ⟨t, ht, hu⟩)

/-- A run meets a side condition exactly when the condition holds at each of
its splits into a prefix, one action and a rest. -/
theorem meets_iff :
    M.Meets C s as ↔
      ∀ pre b post t, as = pre ++ b :: post → M.run s pre = some t → C t b := by
  induction as generalizing s with
  | nil => simp
  | cons a as ih =>
      constructor
      · rintro h pre b post t heq hrun
        cases pre with
        | nil =>
            simp only [List.nil_append, List.cons.injEq] at heq
            simp only [run_nil, Option.some.injEq] at hrun
            subst hrun
            rw [← heq.1]
            exact h.head
        | cons c pre =>
            simp only [List.cons_append, List.cons.injEq] at heq
            rcases run_cons_eq_some.mp hrun with ⟨v, hv, hrest⟩
            rw [← heq.1] at hv
            exact ih.mp (h.tail hv) pre b post t heq.2 hrest
      · intro h
        refine ⟨h [] a as s rfl rfl, fun t ht => ih.mpr ?_⟩
        intro pre b post v heq hrun
        exact h (a :: pre) b post v (by simp [heq]) (run_cons_eq_some.mpr ⟨t, ht, hrun⟩)

/-- A condition is met as soon as every action satisfies it in every state. -/
theorem meets_of_forall_mem (h : ∀ a ∈ as, ∀ u, C u a) : M.Meets C s as :=
  meets_iff.mpr fun pre b post t heq _ => h b (by simp [heq]) t

/-- An assertion preserved by every step that meets the condition survives
every run that meets it. -/
theorem Meets.invariant (hmeets : M.Meets C s as)
    (hstep : ∀ {s a t}, I s → C s a → M.step s a = some t → I t)
    (hI : I s) (hrun : M.run s as = some t) : I t := by
  induction as generalizing s with
  | nil =>
      simp only [run_nil, Option.some.injEq] at hrun
      exact hrun ▸ hI
  | cons a as ih =>
      rcases run_cons_eq_some.mp hrun with ⟨v, hv, hrest⟩
      exact ih (hmeets.tail hv) (hstep hI hmeets.head hv) hrest

/-- An assertion preserved by every step survives every run. -/
theorem run_invariant (hstep : ∀ {s a t}, I s → M.step s a = some t → I t)
    (hI : I s) (hrun : M.run s as = some t) : I t := by
  have htrue : M.Meets (fun _ _ => True) s as := meets_iff.mpr (by simp)
  exact htrue.invariant (fun h _ => hstep h) hI hrun

/-- An assertion that holds initially and is preserved by every step holds in
every reachable state. -/
theorem Reachable.invariant (h : M.Reachable s) (hinit : ∀ {s}, M.initial s → I s)
    (hstep : ∀ {s a t}, I s → M.step s a = some t → I t) : I s := by
  rcases h with ⟨s₀, as, hs₀, hrun⟩
  exact run_invariant hstep (hinit hs₀) hrun

/-- Under an invariant that the condition itself maintains, one side condition
may be traded for another. -/
theorem Meets.transfer (hmeets : M.Meets C s as)
    (hstep : ∀ {s a t}, I s → C s a → M.step s a = some t → I t)
    (himp : ∀ {s a}, I s → C s a → D s a) (hI : I s) : M.Meets D s as := by
  induction as generalizing s with
  | nil => trivial
  | cons a as ih =>
      refine ⟨himp hI hmeets.head, fun t ht => ?_⟩
      exact ih (hmeets.tail ht) (hstep hI hmeets.head ht)

/-- Where every step keeps an assertion exactly when it meets a condition, a run
meets the condition exactly when the assertion holds in each of its states. -/
theorem meets_iff_always {G : State → Prop}
    (hI : ∀ {s a t}, I s → M.step s a = some t → I t)
    (hG : ∀ {s a t}, I s → G s → M.step s a = some t → (G t ↔ C s a))
    (his : I s) (hgs : G s) (hrun : M.run s as = some u) :
    M.Meets C s as ↔ ∀ pre post t, as = pre ++ post → M.run s pre = some t → G t := by
  induction as generalizing s with
  | nil =>
      refine ⟨fun _ pre post t heq hpre => ?_, fun _ => trivial⟩
      rw [(List.append_eq_nil_iff.mp heq.symm).1, run_nil, Option.some.injEq] at hpre
      exact hpre ▸ hgs
  | cons a as ih =>
      rcases run_cons_eq_some.mp hrun with ⟨v, hv, hrest⟩
      rw [meets_cons_of_step hv]
      constructor
      · rintro ⟨hC, hmeets⟩ pre post t heq hpre
        cases pre with
        | nil =>
            rw [run_nil, Option.some.injEq] at hpre
            exact hpre ▸ hgs
        | cons b pre =>
            simp only [List.cons_append, List.cons.injEq] at heq
            rcases run_cons_eq_some.mp hpre with ⟨w, hw, hpre⟩
            rw [← heq.1, hv, Option.some.injEq] at hw
            subst hw
            exact (ih (hI his hv) ((hG his hgs hv).mpr hC) hrest).mp hmeets pre post t heq.2 hpre
      · intro halways
        have hgv : G v := halways [a] as v rfl (by simp [run_cons_eq_some, hv])
        refine ⟨(hG his hgs hv).mp hgv, (ih (hI his hv) hgv hrest).mpr ?_⟩
        intro pre post t heq hpre
        exact halways (a :: pre) post t (by simp [heq]) (run_cons_eq_some.mpr ⟨v, hv, hpre⟩)

end Machine

end Interleaving
