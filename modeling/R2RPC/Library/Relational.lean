import Mathlib.Data.List.Basic

/-!
# Statements over tables

A table is a list of rows.  {lit}`SELECT ... WHERE` is {lit}`List.filter`,
{lit}`INSERT` appends and {lit}`DELETE` filters; this module adds the conditional
{lit}`UPDATE` and says what a reader can still tell apart after one.

Main results:

- Definition {lit}`updateWhere`: {lit}`UPDATE ... SET ... WHERE`.
- Theorem {lit}`exists_updateWhere`: a property that the update keeps row by row
  holds of some row after it exactly when it did before.
- Theorem {lit}`exists_insert`: an insertion is invisible to a property that the
  new row lacks.
- Theorem {lit}`head_updateWhere`: a query that cannot see the changed columns
  returns the same first row.
-/

namespace Relational

variable {ρ σ : Type*}

/-- `UPDATE ... SET set WHERE condition`. -/
def updateWhere (condition : ρ → Bool) (set : ρ → ρ) (rows : List ρ) : List ρ :=
  rows.map fun row => if condition row then set row else row

variable {condition query : ρ → Bool} {set : ρ → ρ} {rows : List ρ}

theorem mem_updateWhere {row : ρ} :
    row ∈ updateWhere condition set rows ↔
      (∃ old ∈ rows, condition old = true ∧ set old = row) ∨
        (row ∈ rows ∧ condition row = false) := by
  simp only [updateWhere, List.mem_map]
  constructor
  · rintro ⟨old, hold, rfl⟩
    by_cases hc : condition old = true
    · rw [if_pos hc]
      exact Or.inl ⟨old, hold, hc, rfl⟩
    · rw [if_neg hc]
      exact Or.inr ⟨hold, Bool.not_eq_true _ ▸ hc⟩
  · rintro (⟨old, hold, hc, rfl⟩ | ⟨hrow, hc⟩)
    · exact ⟨old, hold, if_pos hc⟩
    · exact ⟨row, hrow, if_neg (by rw [hc]; exact Bool.false_ne_true)⟩

/-- What the update keeps on the rows it touches, all rows keep. -/
theorem forall_updateWhere {P : ρ → Prop} (hrows : ∀ row ∈ rows, P row)
    (hset : ∀ row, condition row = true → P row → P (set row)) :
    ∀ row ∈ updateWhere condition set rows, P row := by
  intro row hrow
  rcases mem_updateWhere.mp hrow with ⟨old, hold, hc, rfl⟩ | ⟨hold, -⟩
  · exact hset old hc (hrows old hold)
  · exact hrows row hold

/-- A column that the update does not set. -/
theorem map_updateWhere {view : ρ → σ}
    (hview : ∀ row, condition row = true → view (set row) = view row) :
    (updateWhere condition set rows).map view = rows.map view := by
  rw [updateWhere, List.map_map]
  refine List.map_congr_left fun row _ => ?_
  by_cases hc : condition row = true
  · simp only [Function.comp, if_pos hc, hview row hc]
  · simp only [Function.comp, if_neg hc]

/-- A property that the update keeps on every row it touches. -/
theorem exists_updateWhere {P : ρ → Prop}
    (hkeep : ∀ row ∈ rows, condition row = true → (P (set row) ↔ P row)) :
    (∃ row ∈ updateWhere condition set rows, P row) ↔ ∃ row ∈ rows, P row := by
  constructor
  · rintro ⟨row, hrow, hP⟩
    rcases mem_updateWhere.mp hrow with ⟨old, hold, hc, rfl⟩ | ⟨hold, -⟩
    · exact ⟨old, hold, (hkeep old hold hc).mp hP⟩
    · exact ⟨row, hold, hP⟩
  · rintro ⟨row, hrow, hP⟩
    by_cases hc : condition row = true
    · exact ⟨set row, mem_updateWhere.mpr (Or.inl ⟨row, hrow, hc, rfl⟩),
        (hkeep row hrow hc).mpr hP⟩
    · exact ⟨row, mem_updateWhere.mpr (Or.inr ⟨hrow, Bool.not_eq_true _ ▸ hc⟩), hP⟩

/-- A property that the inserted row lacks. -/
theorem exists_insert {P : ρ → Prop} {created : ρ} (hcreated : ¬ P created) :
    (∃ row ∈ rows ++ [created], P row) ↔ ∃ row ∈ rows, P row := by
  constructor
  · rintro ⟨row, hrow, hP⟩
    rcases List.mem_append.mp hrow with hold | hnew
    · exact ⟨row, hold, hP⟩
    · rw [List.mem_singleton.mp hnew] at hP
      contradiction
  · rintro ⟨row, hrow, hP⟩
    exact ⟨row, List.mem_append_left _ hrow, hP⟩

/-- A query whose condition and result the update does not touch. -/
theorem head_updateWhere {view : ρ → σ}
    (hquery : ∀ row, condition row = true → query (set row) = query row)
    (hview : ∀ row, condition row = true → query row = true → view (set row) = view row) :
    (((updateWhere condition set rows).filter query).head?).map view =
      ((rows.filter query).head?).map view := by
  induction rows with
  | nil => rfl
  | cons row rows ih =>
      simp only [updateWhere, List.map_cons] at ih ⊢
      by_cases hc : condition row = true
      · rw [if_pos hc]
        by_cases hq : query row = true
        · rw [List.filter_cons_of_pos (by rw [hquery row hc, hq]), List.filter_cons_of_pos hq]
          simp [hview row hc hq]
        · rw [List.filter_cons_of_neg (by rw [hquery row hc]; exact hq),
            List.filter_cons_of_neg hq]
          exact ih
      · rw [if_neg hc]
        by_cases hq : query row = true
        · simp [List.filter_cons_of_pos hq]
        · rw [List.filter_cons_of_neg hq, List.filter_cons_of_neg hq]
          exact ih

end Relational
