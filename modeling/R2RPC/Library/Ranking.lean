import Mathlib.Data.Finset.Max
import Mathlib.Data.List.Nodup

/-!
# Ranking within partitions

Entries that are ranked within their scope by a key, as window functions number the rows of
a partition, and the ones of every scope that come first.

Main results:

- Theorem {lit}`length_newest`: of every scope as many entries are kept as asked for, or all.
- Theorem {lit}`newest_greater`: a kept entry is greater than one that is not.
- Theorems {lit}`newest_filter` and {lit}`newest_newest`: conditions that hold of everything
  greater commute with keeping the first ones.

Current gaps:

- Entries of one scope that have the same key share a rank.
-/

namespace Ranking

/-- The greatest elements of a finite set, counted. -/
theorem card_greatest {ω : Type*} [LinearOrder ω] (keep : Nat) (keys : Finset ω) :
    (keys.filter fun key => (keys.filter (key < ·)).card < keep).card = min keep keys.card := by
  induction keys using Finset.induction_on_min with
  | empty => simp
  | insert least keys hleast ih =>
      have hnew : least ∉ keys := fun hmem => lt_irrefl _ (hleast least hmem)
      have hranks : ∀ key ∈ keys,
          ((insert least keys).filter (key < ·)).card = (keys.filter (key < ·)).card := by
        intro key hkey
        rw [Finset.filter_insert, if_neg (not_lt_of_gt (hleast key hkey))]
      have hlast : ((insert least keys).filter (least < ·)).card = keys.card := by
        rw [Finset.filter_insert, if_neg (lt_irrefl _), Finset.filter_true_of_mem hleast]
      have hold : (keys.filter fun key => ((insert least keys).filter (key < ·)).card < keep) =
          keys.filter fun key => (keys.filter (key < ·)).card < keep :=
        Finset.filter_congr fun key hkey => by rw [hranks key hkey]
      rw [Finset.filter_insert, hold, hlast, Finset.card_insert_of_notMem hnew]
      split_ifs with hkeep
      · rw [Finset.card_insert_of_notMem (by simp [hnew]), ih]
        omega
      · rw [ih]
        omega

section

variable {α κ ω : Type*} [DecidableEq κ] [LinearOrder ω] (scope : α → κ) (key : α → ω)

/-- How many entries of the scope are greater. -/
def rank (entries : List α) (entry : α) : Nat :=
  (entries.filter fun other => decide (scope other = scope entry ∧ key entry < key other)).length

/-- The greatest entries of every scope. -/
def newest (keep : Nat) (entries : List α) : List α :=
  entries.filter fun entry => decide (rank scope key entries entry < keep)

variable {scope key} {entries : List α} {keep : Nat}

/-- A condition that holds of all greater entries does not change a rank. -/
theorem rank_filter {condition : α → Bool} {entry : α} (hentry : condition entry = true)
    (hupper : ∀ other ∈ entries, scope other = scope entry → key entry < key other →
      condition entry = true → condition other = true) :
    rank scope key (entries.filter condition) entry = rank scope key entries entry := by
  rw [rank, rank, List.filter_filter]
  refine congrArg List.length (List.filter_congr fun other hother => ?_)
  rw [Bool.and_eq_left_iff_imp, decide_eq_true_eq]
  exact fun h => hupper other hother h.1 h.2 hentry

theorem newest_filter (keep : Nat) {condition : α → Bool}
    (hupper : ∀ entry ∈ entries, ∀ other ∈ entries, scope other = scope entry →
      key entry < key other → condition entry = true → condition other = true) :
    newest scope key keep (entries.filter condition) =
      (newest scope key keep entries).filter condition := by
  rw [newest, newest, List.filter_filter, List.filter_filter]
  refine List.filter_congr fun entry hentry => ?_
  cases hcondition : condition entry with
  | false => simp
  | true =>
      rw [rank_filter hcondition fun other hother hscope hkey _ =>
        hupper entry hentry other hother hscope hkey hcondition, Bool.and_comm]

/-- A greater entry has a smaller rank. -/
theorem rank_lt {entry other : α} (hother : other ∈ entries) (hscope : scope other = scope entry)
    (hkey : key entry < key other) : rank scope key entries other < rank scope key entries entry := by
  have hgreater : entries.filter (fun third =>
      decide (scope third = scope other ∧ key other < key third)) =
      (entries.filter fun third => decide (scope third = scope entry ∧ key entry < key third)).filter
        fun third => decide (key other < key third) := by
    rw [List.filter_filter]
    refine List.filter_congr fun third _ => ?_
    rw [← Bool.decide_and, decide_eq_decide, hscope]
    constructor
    · exact fun h => ⟨h.2, h.1, hkey.trans h.2⟩
    · exact fun h => ⟨h.2.1, h.1⟩
  rw [rank, rank, hgreater, List.length_filter_lt_length_iff_exists]
  refine ⟨other, List.mem_filter.mpr ⟨hother, by simp [hscope, hkey]⟩, by simp⟩

theorem mem_newest {entry : α} :
    entry ∈ newest scope key keep entries ↔
      entry ∈ entries ∧ rank scope key entries entry < keep := by
  rw [newest, List.mem_filter, decide_eq_true_eq]

/-- What is kept is greater than what is not. -/
theorem newest_greater (hdistinct : (entries.map key).Nodup) {entry other : α}
    (hentry : entry ∈ newest scope key keep entries) (hother : other ∈ entries)
    (hdropped : other ∉ newest scope key keep entries) (hscope : scope other = scope entry) :
    key other < key entry := by
  rcases mem_newest.mp hentry with ⟨hmem, hrank⟩
  rcases lt_trichotomy (key other) (key entry) with hless | hequal | hgreater
  · exact hless
  · have hsame : other = entry := List.inj_on_of_nodup_map hdistinct hother hmem hequal
    exact absurd (hsame ▸ hentry) hdropped
  · have hbefore := rank_lt hother hscope hgreater
    exact absurd (mem_newest.mpr ⟨hother, hbefore.trans hrank⟩) hdropped

theorem length_eq_card {some : List α} (hdistinct : (some.map key).Nodup) :
    some.length = (some.map key).toFinset.card := by
  rw [List.toFinset_card_of_nodup hdistinct, List.length_map]

/-- The rank of an entry among the keys of its scope. -/
theorem rank_eq_card (hdistinct : (entries.map key).Nodup) (entry : α) :
    rank scope key entries entry =
      ((((entries.filter fun other => decide (scope other = scope entry)).map key).toFinset).filter
        (key entry < ·)).card := by
  rw [rank, length_eq_card (hdistinct.sublist (List.filter_sublist.map key))]
  refine congrArg Finset.card (Finset.ext fun found => ?_)
  simp only [List.mem_toFinset, List.mem_map, List.mem_filter, Finset.mem_filter,
    decide_eq_true_eq]
  constructor
  · rintro ⟨other, ⟨hother, hscope, hkey⟩, rfl⟩
    exact ⟨⟨other, ⟨hother, hscope⟩, rfl⟩, hkey⟩
  · rintro ⟨⟨other, ⟨hother, hscope⟩, rfl⟩, hkey⟩
    exact ⟨other, ⟨hother, hscope, hkey⟩, rfl⟩

/-- Of every scope as many entries are kept as asked for, or all of them. -/
theorem length_newest (hdistinct : (entries.map key).Nodup) (keep : Nat) (place : κ) :
    ((newest scope key keep entries).filter fun entry => decide (scope entry = place)).length =
      min keep (entries.filter fun entry => decide (scope entry = place)).length := by
  have hplace : ((entries.filter fun entry => decide (scope entry = place)).map key).Nodup :=
    hdistinct.sublist (List.filter_sublist.map key)
  have hkept : (((newest scope key keep entries).filter
      fun entry => decide (scope entry = place)).map key).Nodup :=
    hdistinct.sublist ((List.filter_sublist.trans List.filter_sublist).map key)
  rw [length_eq_card hplace, length_eq_card hkept, ← card_greatest]
  refine congrArg Finset.card (Finset.ext fun found => ?_)
  simp only [List.mem_toFinset, List.mem_map, List.mem_filter, Finset.mem_filter, mem_newest,
    decide_eq_true_eq]
  constructor
  · rintro ⟨entry, ⟨⟨hentry, hrank⟩, rfl⟩, rfl⟩
    rw [rank_eq_card hdistinct] at hrank
    exact ⟨⟨entry, ⟨hentry, rfl⟩, rfl⟩, hrank⟩
  · rintro ⟨⟨entry, ⟨hentry, rfl⟩, rfl⟩, hrank⟩
    rw [← rank_eq_card hdistinct] at hrank
    exact ⟨entry, ⟨⟨hentry, hrank⟩, rfl⟩, rfl⟩

/-- Keeping twice keeps the smaller number. -/
theorem newest_newest (few many : Nat) (entries : List α) :
    newest scope key few (newest scope key many entries) =
      newest scope key (min few many) entries := by
  have hupper : ∀ entry ∈ entries, ∀ other ∈ entries, scope other = scope entry →
      key entry < key other → decide (rank scope key entries entry < many) = true →
        decide (rank scope key entries other < many) = true := by
    intro entry _ other hother hscope hkey hentry
    rw [decide_eq_true_eq] at hentry ⊢
    exact (rank_lt hother hscope hkey).trans hentry
  have hcommute := newest_filter few hupper
  rw [← newest] at hcommute
  rw [hcommute, newest, newest, List.filter_filter]
  refine List.filter_congr fun entry _ => ?_
  rw [← Bool.decide_and, decide_eq_decide, lt_min_iff]
  exact And.comm

end

end Ranking
