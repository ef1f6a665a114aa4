import Mathlib.Algebra.BigOperators.Group.Finset.Basic
import Mathlib.Algebra.BigOperators.Group.List.Basic
import Mathlib.Data.Finmap

/-!
# Tables of aggregates

A table with a primary key is a {lit}`Finmap`.  Its values form a commutative
monoid, so that a row can summarise many events: one event is added by an upsert,
and {lit}`SELECT ... GROUP BY` computes whole rows at once.  This module relates
the two, sums a table over the keys of a predicate, and says when one table is
the projection of another along a map of keys.

Main results:

- Theorem {lit}`insertSelect_groupBy`: inserting the groups of a query is the same
  as adding its rows one by one.
- Theorem {lit}`total_foldl_upsert`: what a sequence of upserts adds to a total.
- Theorems {lit}`IsProjection.upsert`, {lit}`IsProjection.upsert_outside` and
  {lit}`IsProjection.deleteWhere`: what keeps a projection.
-/

namespace Aggregates

/-- Rows with values in `ν` under a primary key in `κ`. -/
abbrev Table (κ ν : Type*) := Finmap fun _ : κ => ν

variable {κ κ' ν ρ : Type*} [DecidableEq κ] [DecidableEq κ']

/-! ## Statements -/

/-- `DELETE ... WHERE condition`, for a condition on the key. -/
def deleteWhere (condition : κ → Bool) (t : Table κ ν) : Table κ ν :=
  Finmap.keysLookupEquiv.symm
    ⟨(t.keys.filter fun k => condition k = false, fun k =>
      if condition k then none else t.lookup k), fun k => by
        cases h : condition k <;> simp [h, Finmap.lookup_isSome, Finmap.mem_keys]⟩

/-- `INSERT ... SELECT`: `none` when a key is taken already. -/
def insertSelect (t selected : Table κ ν) : Option (Table κ ν) :=
  if t.Disjoint selected then some (t ∪ selected) else none

/-- `SELECT key, aggregate(...) ... GROUP BY key`. -/
def groupBy (key : ρ → κ) (aggregate : List ρ → ν) (rows : List ρ) : Table κ ν :=
  (((rows.map key).dedup).map fun k =>
    (⟨k, aggregate (rows.filter (key · = k))⟩ : Sigma fun _ : κ => ν)).toFinmap

variable {t : Table κ ν} {k k' : κ} {v : ν} {condition : κ → Bool}

@[simp]
theorem lookup_deleteWhere :
    (deleteWhere condition t).lookup k = if condition k then none else t.lookup k := by
  simp [deleteWhere]

theorem mem_iff_lookup : k ∈ t ↔ ∃ row, t.lookup k = some row := Finmap.mem_iff

@[simp]
theorem mem_deleteWhere : k ∈ deleteWhere condition t ↔ k ∈ t ∧ condition k = false := by
  rw [← Finmap.lookup_isSome, lookup_deleteWhere, ← Finmap.lookup_isSome]
  cases condition k <;> simp

theorem keys_deleteWhere :
    (deleteWhere condition t).keys = t.keys.filter fun k => condition k = false := by
  ext k
  simp [Finmap.mem_keys]

theorem keys_insert : (t.insert k v).keys = insert k t.keys := by
  ext k'
  simp [Finmap.mem_keys]

theorem insertSelect_of_disjoint {selected : Table κ ν} (h : t.Disjoint selected) :
    insertSelect t selected = some (t ∪ selected) := by
  rw [insertSelect, if_pos h]

private theorem dlookup_map_mk {f : κ → ν} {keys : List κ} :
    (keys.map fun k => (⟨k, f k⟩ : Sigma fun _ : κ => ν)).dlookup k =
      if k ∈ keys then some (f k) else none := by
  induction keys with
  | nil => rfl
  | cons k₀ keys ih =>
      by_cases heq : k = k₀
      · subst heq
        simp
      · rw [List.map_cons, List.dlookup_cons_ne _ _ heq, ih]
        simp [heq]

theorem lookup_groupBy {key : ρ → κ} {aggregate : List ρ → ν} {rows : List ρ} :
    (groupBy key aggregate rows).lookup k =
      if k ∈ rows.map key then some (aggregate (rows.filter (key · = k))) else none := by
  rw [groupBy, Finmap.dlookup_list_toFinmap, dlookup_map_mk]
  simp only [List.mem_dedup]

/-- Every group has a row. -/
theorem exists_of_lookup_groupBy {key : ρ → κ} {aggregate : List ρ → ν} {rows : List ρ}
    (h : (groupBy key aggregate rows).lookup k = some v) : ∃ row ∈ rows, key row = k := by
  rw [lookup_groupBy] at h
  split at h
  next hmem => exact List.mem_map.mp hmem
  next => contradiction

/-! ## One event at a time -/

variable [AddCommMonoid ν]

/-- The value of a row; a row that is missing counts nothing. -/
def valueAt (t : Table κ ν) (k : κ) : ν := (t.lookup k).getD 0

/-- `INSERT ... ON CONFLICT DO UPDATE SET value = value + v`. -/
def upsert (k : κ) (v : ν) (t : Table κ ν) : Table κ ν :=
  match t.lookup k with
  | none => t.insert k v
  | some old => t.insert k (old + v)

theorem upsert_eq_insert : upsert k v t = t.insert k (valueAt t k + v) := by
  unfold upsert valueAt
  cases t.lookup k with
  | none => simp
  | some old => rfl

theorem lookup_upsert :
    (upsert k v t).lookup k' = if k' = k then some (valueAt t k + v) else t.lookup k' := by
  rw [upsert_eq_insert]
  split
  next heq => rw [heq, Finmap.lookup_insert]
  next hne => rw [Finmap.lookup_insert_of_ne _ hne]

theorem mem_upsert : k' ∈ upsert k v t ↔ k' = k ∨ k' ∈ t := by
  rw [upsert_eq_insert, Finmap.mem_insert]

theorem valueAt_upsert :
    valueAt (upsert k v t) k' = if k' = k then valueAt t k + v else valueAt t k' := by
  unfold valueAt
  rw [lookup_upsert]
  split
  · rfl
  · rfl

theorem valueAt_of_notMem (h : k ∉ t) : valueAt t k = 0 := by
  rw [valueAt, Finmap.lookup_eq_none.mpr h]
  rfl

/-- A row after a sequence of upserts: its value before, and what was added under
its key. -/
theorem lookup_foldl_upsert {key : ρ → κ} {weight : ρ → ν} {rows : List ρ} :
    (rows.foldl (fun t row => upsert (key row) (weight row) t) t).lookup k =
      if k ∈ rows.map key then
        some (valueAt t k + ((rows.filter (key · = k)).map weight).sum)
      else t.lookup k := by
  induction rows generalizing t with
  | nil => simp
  | cons row rows ih =>
      rw [List.foldl_cons, ih, valueAt_upsert, lookup_upsert]
      by_cases heq : k = key row
      · subst heq
        by_cases hrest : key row ∈ rows.map key
        · simp [hrest, add_assoc]
        · have hnone : rows.filter (key · = key row) = [] := by
            refine List.filter_eq_nil_iff.mpr fun other hother => ?_
            have hne : key other ≠ key row := fun h => hrest (h ▸ List.mem_map_of_mem hother)
            simpa using hne
          simp [hrest, hnone]
      · have hne : ¬ key row = k := fun h => heq h.symm
        simp [heq, hne]

theorem mem_foldl_upsert {key : ρ → κ} {weight : ρ → ν} {rows : List ρ} :
    k ∈ rows.foldl (fun t row => upsert (key row) (weight row) t) t ↔
      k ∈ t ∨ ∃ row ∈ rows, key row = k := by
  rw [← Finmap.lookup_isSome, lookup_foldl_upsert, ← Finmap.lookup_isSome, ← List.mem_map]
  by_cases hk : k ∈ rows.map key
  · rw [if_pos hk]
    simp [hk]
  · rw [if_neg hk]
    simp [hk]

/-- Inserting groups whose aggregate is a sum adds their rows one by one. -/
theorem union_groupBy_eq_foldl {key : ρ → κ} {weight : ρ → ν} {aggregate : List ρ → ν}
    {rows : List ρ} (hsum : ∀ group, group ≠ [] → aggregate group = (group.map weight).sum)
    (hdisjoint : ∀ row ∈ rows, key row ∉ t) :
    t ∪ groupBy key aggregate rows =
      rows.foldl (fun t row => upsert (key row) (weight row) t) t := by
  refine Finmap.ext_lookup fun k => ?_
  rw [lookup_foldl_upsert]
  by_cases hk : k ∈ rows.map key
  · rcases List.mem_map.mp hk with ⟨row, hrow, heq⟩
    have hnot : k ∉ t := heq ▸ hdisjoint row hrow
    have hgroup : rows.filter (key · = k) ≠ [] :=
      List.ne_nil_of_mem (List.mem_filter.mpr ⟨hrow, by simpa using heq⟩)
    rw [Finmap.lookup_union_right hnot, lookup_groupBy, if_pos hk, if_pos hk,
      valueAt_of_notMem hnot, zero_add, hsum _ hgroup]
  · have hnot : k ∉ groupBy key aggregate rows := by
      rw [← Finmap.lookup_eq_none, lookup_groupBy, if_neg hk]
    rw [Finmap.lookup_union_left_of_not_in hnot, if_neg hk]

/-- Groups under keys that are free are inserted. -/
theorem insertSelect_groupBy {key : ρ → κ} {weight : ρ → ν} {aggregate : List ρ → ν}
    {rows : List ρ} (hsum : ∀ group, group ≠ [] → aggregate group = (group.map weight).sum)
    (hfree : ∀ row ∈ rows, key row ∉ t) :
    insertSelect t (groupBy key aggregate rows) =
      some (rows.foldl (fun t row => upsert (key row) (weight row) t) t) := by
  have hdisjoint : t.Disjoint (groupBy key aggregate rows) := by
    intro k hk hgroup
    rcases Finmap.mem_iff.mp hgroup with ⟨v, hv⟩
    rcases exists_of_lookup_groupBy hv with ⟨row, hrow, rfl⟩
    exact hfree row hrow hk
  rw [insertSelect_of_disjoint hdisjoint, union_groupBy_eq_foldl hsum hfree]

/-- The order of the rows of a query does not matter. -/
theorem groupBy_perm {key : ρ → κ} {weight : ρ → ν} {aggregate : List ρ → ν} {rows rows' : List ρ}
    (hsum : ∀ group, aggregate group = (group.map weight).sum) (hperm : rows.Perm rows') :
    groupBy key aggregate rows = groupBy key aggregate rows' := by
  refine Finmap.ext_lookup fun k => ?_
  have hgroup : aggregate (rows.filter (key · = k)) = aggregate (rows'.filter (key · = k)) := by
    rw [hsum, hsum]
    exact ((hperm.filter _).map weight).sum_eq
  rw [lookup_groupBy, lookup_groupBy, hgroup]
  simp only [(hperm.map key).mem_iff]

/-- The groups of a query over one more row. -/
theorem lookup_groupBy_cons {key : ρ → κ} {weight : ρ → ν} {aggregate : List ρ → ν}
    {row : ρ} {rows : List ρ} (hsum : ∀ group, aggregate group = (group.map weight).sum) :
    (groupBy key aggregate (row :: rows)).lookup k =
      if k = key row then some (valueAt (groupBy key aggregate rows) k + weight row)
      else (groupBy key aggregate rows).lookup k := by
  rw [valueAt, lookup_groupBy, lookup_groupBy, List.map_cons]
  by_cases heq : k = key row
  · subst heq
    rw [if_pos List.mem_cons_self, if_pos rfl, List.filter_cons_of_pos (by simp), hsum,
      List.map_cons, List.sum_cons, Option.some.injEq, add_comm]
    congr 1
    split
    next => rw [hsum]; rfl
    next hnot =>
      rw [List.filter_eq_nil_iff.mpr fun other hother => ?_]
      · rfl
      · have hne : key other ≠ key row := fun h => hnot (h ▸ List.mem_map_of_mem hother)
        simpa using hne
  · rw [if_neg heq, List.filter_cons_of_neg (by simpa using fun h => heq h.symm)]
    simp only [List.mem_cons, heq, false_or]

/-- A property of values that adding `v` keeps holds of all rows after an upsert. -/
theorem forall_lookup_upsert {P : ν → Prop} (hrows : ∀ k' w, t.lookup k' = some w → P w)
    (hv : P v) (hadd : ∀ w, P w → P (w + v)) :
    ∀ k' w, (upsert k v t).lookup k' = some w → P w := by
  intro k' w hw
  rw [lookup_upsert] at hw
  split at hw
  · rw [← Option.some.inj hw, valueAt]
    cases hold : t.lookup k with
    | none => simpa using hv
    | some old => exact hadd old (hrows k old hold)
  · exact hrows k' w hw

omit [AddCommMonoid ν] in
theorem forall_lookup_deleteWhere {P : ν → Prop} (hrows : ∀ k' w, t.lookup k' = some w → P w) :
    ∀ k' w, (deleteWhere condition t).lookup k' = some w → P w := by
  intro k' w hw
  rw [lookup_deleteWhere] at hw
  split at hw
  · contradiction
  · exact hrows k' w hw

/-! ## Totals -/

/-- The sum of the rows whose key satisfies a predicate. -/
def total (P : κ → Prop) [DecidablePred P] (t : Table κ ν) : ν :=
  ∑ k ∈ t.keys with P k, valueAt t k

variable {P : κ → Prop} [DecidablePred P]

@[simp]
theorem total_empty : total P (∅ : Table κ ν) = 0 := by simp [total]

theorem total_congr {Q : κ → Prop} [DecidablePred Q] (h : ∀ k ∈ t, P k ↔ Q k) :
    total P t = total Q t := by
  unfold total
  rw [Finset.filter_congr fun k hk => h k (Finmap.mem_keys.mp hk)]

/-- Without a row there is no total. -/
theorem total_eq_zero (h : ∀ k ∈ t, ¬ P k) : total P t = 0 := by
  unfold total
  rw [Finset.filter_eq_empty_iff.mpr fun k hk => h k (Finmap.mem_keys.mp hk), Finset.sum_empty]

/-- The totals of two kinds of rows. -/
theorem total_or {Q : κ → Prop} [DecidablePred Q] (h : ∀ k, P k → ¬ Q k) :
    total (fun k => P k ∨ Q k) t = total P t + total Q t := by
  unfold total
  rw [Finset.filter_or, Finset.sum_union (Finset.disjoint_filter.mpr fun k _ => h k)]

/-- One row apart from the others. -/
theorem total_eq_add (k : κ) :
    total P t = (if P k then valueAt t k else 0) + ∑ k' ∈ t.keys.erase k with P k', valueAt t k' := by
  unfold total
  by_cases hk : k ∈ t.keys
  · conv_lhs => rw [← Finset.insert_erase hk, Finset.filter_insert]
    split
    next hP => rw [Finset.sum_insert (by simp)]
    next => rw [zero_add]
  · rw [Finset.erase_eq_of_notMem hk]
    have hzero : valueAt t k = 0 := valueAt_of_notMem fun h => hk (Finmap.mem_keys.mpr h)
    simp [hzero]

theorem total_upsert :
    total P (upsert k v t) = total P t + if P k then v else 0 := by
  have hrest : ∑ k' ∈ (upsert k v t).keys.erase k with P k', valueAt (upsert k v t) k' =
      ∑ k' ∈ t.keys.erase k with P k', valueAt t k' := by
    rw [upsert_eq_insert, keys_insert, Finset.erase_insert_eq_erase, ← upsert_eq_insert]
    refine Finset.sum_congr rfl fun k' hk' => ?_
    have hne : k' ≠ k := (Finset.mem_erase.mp (Finset.mem_filter.mp hk').1).1
    rw [valueAt_upsert, if_neg hne]
  rw [total_eq_add k, hrest, total_eq_add k (t := t), valueAt_upsert, if_pos rfl]
  split
  · rw [add_assoc, add_assoc, add_comm v]
  · rw [add_zero]

theorem total_foldl_upsert {key : ρ → κ} {weight : ρ → ν} {rows : List ρ} :
    total P (rows.foldl (fun t row => upsert (key row) (weight row) t) t) =
      total P t + ((rows.filter fun row => P (key row)).map weight).sum := by
  induction rows generalizing t with
  | nil => simp
  | cons row rows ih =>
      rw [List.foldl_cons, ih, total_upsert]
      by_cases hP : P (key row)
      · simp [hP, add_assoc]
      · simp [hP]

theorem total_deleteWhere :
    total P (deleteWhere condition t) = total (fun k => condition k = false ∧ P k) t := by
  unfold total
  rw [keys_deleteWhere, Finset.filter_filter]
  refine Finset.sum_congr rfl fun k hk => ?_
  rw [valueAt, lookup_deleteWhere, (Finset.mem_filter.mp hk).2.1]
  rfl

theorem total_deleteWhere_of_kept (hkept : ∀ k, P k → condition k = false) :
    total P (deleteWhere condition t) = total P t := by
  rw [total_deleteWhere]
  exact Finset.sum_congr
    (Finset.filter_congr fun k _ => ⟨And.right, fun hP => ⟨hkept k hP, hP⟩⟩) fun _ _ => rfl

theorem total_deleteWhere_of_deleted (hdeleted : ∀ k, P k → condition k = true) :
    total P (deleteWhere condition t) = 0 := by
  rw [total_deleteWhere, total, Finset.filter_false_of_mem, Finset.sum_empty]
  rintro k - ⟨hkept, hP⟩
  rw [hdeleted k hP] at hkept
  contradiction

/-! ## Projections -/

/-- On the keys that satisfy `Q`, the rows of `t'` are the totals of `t` along a
map of keys, and there is a row exactly where there is something to add up. -/
def IsProjection (f : κ → κ') (Q : κ' → Prop) (t : Table κ ν) (t' : Table κ' ν) : Prop :=
  ∀ k', Q k' → (k' ∈ t' ↔ ∃ k ∈ t, f k = k') ∧ valueAt t' k' = total (f · = k') t

variable {f : κ → κ'} {Q : κ' → Prop} {t' : Table κ' ν} {condition' : κ' → Bool}

theorem IsProjection.empty : IsProjection f Q (∅ : Table κ ν) (∅ : Table κ' ν) := by
  intro k' _
  refine ⟨⟨fun h => absurd h Finmap.notMem_empty, ?_⟩, by simp [valueAt]⟩
  rintro ⟨k, hk, -⟩
  exact absurd hk Finmap.notMem_empty

/-- One event recorded in both tables. -/
theorem IsProjection.upsert (h : IsProjection f Q t t') :
    IsProjection f Q (upsert k v t) (upsert (f k) v t') := by
  intro k' hQ
  rcases h k' hQ with ⟨hmem, hvalue⟩
  constructor
  · rw [mem_upsert, hmem]
    constructor
    · rintro (rfl | ⟨k₀, hk₀, rfl⟩)
      · exact ⟨k, mem_upsert.mpr (Or.inl rfl), rfl⟩
      · exact ⟨k₀, mem_upsert.mpr (Or.inr hk₀), rfl⟩
    · rintro ⟨k₀, hk₀, rfl⟩
      rcases mem_upsert.mp hk₀ with rfl | hold
      · exact Or.inl rfl
      · exact Or.inr ⟨k₀, hold, rfl⟩
  · rw [valueAt_upsert, total_upsert]
    by_cases heq : k' = f k
    · subst heq
      rw [if_pos rfl, if_pos rfl, hvalue]
    · rw [if_neg heq, if_neg fun h => heq h.symm, add_zero, hvalue]

/-- An event whose projection is not looked at. -/
theorem IsProjection.upsert_outside (h : IsProjection f Q t t') (hnot : ¬ Q (f k)) :
    IsProjection f Q (Aggregates.upsert k v t) t' := by
  intro k' hQ
  rcases h k' hQ with ⟨hmem, hvalue⟩
  have hne : ¬ f k = k' := fun heq => hnot (heq ▸ hQ)
  constructor
  · rw [hmem]
    constructor
    · rintro ⟨k₀, hk₀, heq⟩
      exact ⟨k₀, mem_upsert.mpr (Or.inr hk₀), heq⟩
    · rintro ⟨k₀, hk₀, heq⟩
      rcases mem_upsert.mp hk₀ with rfl | hold
      · exact absurd heq hne
      · exact ⟨k₀, hold, heq⟩
  · rw [hvalue, total_upsert, if_neg hne, add_zero]

/-- A deletion that looks at the projected key only. -/
theorem IsProjection.deleteWhere (h : IsProjection f Q t t')
    (hcondition : ∀ k, condition k = condition' (f k)) :
    IsProjection f Q (deleteWhere condition t) (deleteWhere condition' t') := by
  intro k' hQ
  rcases h k' hQ with ⟨hmem, hvalue⟩
  constructor
  · rw [mem_deleteWhere, hmem]
    constructor
    · rintro ⟨⟨k₀, hk₀, rfl⟩, hkept⟩
      exact ⟨k₀, mem_deleteWhere.mpr ⟨hk₀, (hcondition k₀).trans hkept⟩, rfl⟩
    · rintro ⟨k₀, hk₀, rfl⟩
      rcases mem_deleteWhere.mp hk₀ with ⟨hold, hkept⟩
      exact ⟨⟨k₀, hold, rfl⟩, (hcondition k₀).symm.trans hkept⟩
  · rw [total_deleteWhere, valueAt, lookup_deleteWhere]
    cases hdeleted : condition' k' with
    | true =>
        rw [if_pos rfl, total, Finset.sum_eq_zero]
        · rfl
        · intro k₀ hk₀
          rcases (Finset.mem_filter.mp hk₀).2 with ⟨hkept, rfl⟩
          rw [hcondition, hdeleted] at hkept
          contradiction
    | false =>
        rw [if_neg Bool.false_ne_true]
        change valueAt t' k' = _
        rw [hvalue, total, total]
        refine Finset.sum_congr (Finset.filter_congr fun k₀ _ => ?_) fun _ _ => rfl
        constructor
        · rintro rfl
          exact ⟨(hcondition k₀).trans hdeleted, rfl⟩
        · exact And.right

end Aggregates
