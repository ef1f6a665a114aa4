import Mathlib.Data.List.Nodup
import Mathlib.Data.List.Sort
import Mathlib.Order.Lattice

/-!
# Pages of a sorted result

A query sorts rows by a key and answers a page of them; rows with equal keys come in any
order, which may be another one for every page.

Main results:

- Definition {lit}`Arrangement`: an order that the query may sort into.
- Theorem {lit}`pages_perm_iff`: pages partition the rows, however ties are resolved, exactly
  when no tie reaches over the end of a page.

Current gaps:

- The rows do not change between the queries.
-/

namespace Paging

variable {α ω : Type*} [LinearOrder ω] (key : α → ω)

/-- An order that rows may be sorted into. -/
structure Arrangement (rows arranged : List α) : Prop where
  perm : arranged.Perm rows
  sorted : arranged.Pairwise fun row later => key row ≤ key later

/-- `LIMIT size OFFSET index * size`. -/
def page (size index : Nat) (arranged : List α) : List α := (arranged.drop (index * size)).take size

/-- The rows with a smaller key. -/
def smaller (rows : List α) (row : α) : Nat := rows.countP fun other => decide (key other < key row)

/-- The rows with the same key. -/
def tied (rows : List α) (row : α) : Nat := rows.countP fun other => decide (key other = key row)

/-- The rows of every key are on one page. -/
def Separated (size : Nat) (rows : List α) : Prop :=
  ∀ row ∈ rows, smaller key rows row / size = (smaller key rows row + tied key rows row - 1) / size

instance (size : Nat) (rows : List α) : Decidable (Separated key size rows) :=
  inferInstanceAs (Decidable (∀ row ∈ rows, _))

variable {key} {rows arranged : List α} {size : Nat}

theorem smaller_add_tied (key : α → ω) (rows : List α) (row : α) :
    smaller key rows row + tied key rows row =
      rows.countP fun other => decide (key other ≤ key row) := by
  induction rows with
  | nil => rfl
  | cons other rows ih =>
      simp only [smaller, tied, List.countP_cons, decide_eq_true_eq] at ih ⊢
      rcases lt_trichotomy (key other) (key row) with hless | hequal | hgreater
      · simp only [hless, hless.ne, hless.le, if_true, if_false]
        omega
      · simp only [hequal, lt_irrefl, le_refl, if_true, if_false]
        omega
      · simp only [not_lt_of_gt hgreater, hgreater.ne', not_le_of_gt hgreater, if_false]
        omega

theorem tied_pos {row : α} (hrow : row ∈ rows) : 1 ≤ tied key rows row :=
  List.countP_pos_iff.mpr ⟨row, hrow, by simp⟩

theorem smaller_lt_length {row : α} (hrow : row ∈ rows) : smaller key rows row < rows.length := by
  have hle := List.countP_le_length (p := fun other => decide (key other ≤ key row)) (l := rows)
  rw [← smaller_add_tied key] at hle
  have hpos : 1 ≤ tied key rows row := tied_pos hrow
  omega

/-- Where the key tells rows apart there is no tie. -/
theorem separated_of_injective (hdistinct : rows.Nodup)
    (hinjective : ∀ row ∈ rows, ∀ other ∈ rows, key other = key row → other = row) (size : Nat) :
    Separated key size rows := by
  classical
  intro row hrow
  have htied : tied key rows row = rows.count row := by
    rw [tied, List.count]
    refine List.countP_congr fun other hother => ?_
    rw [decide_eq_true_eq, beq_iff_eq]
    exact ⟨hinjective row hrow other hother, fun h => by rw [h]⟩
  rw [htied, List.count_eq_one_of_mem hdistinct hrow, Nat.add_sub_cancel]

namespace Arrangement

theorem smaller_eq (h : Arrangement key rows arranged) (row : α) :
    smaller key arranged row = smaller key rows row :=
  h.perm.countP_eq _

theorem tied_eq (h : Arrangement key rows arranged) (row : α) :
    tied key arranged row = tied key rows row :=
  h.perm.countP_eq _

theorem key_mono (h : Arrangement key rows arranged) {first last : Nat} {row later : α}
    (hle : first ≤ last) (hrow : arranged[first]? = some row)
    (hlater : arranged[last]? = some later) : key row ≤ key later := by
  rcases List.getElem?_eq_some_iff.mp hrow with ⟨hfirst, rfl⟩
  rcases List.getElem?_eq_some_iff.mp hlater with ⟨hlast, rfl⟩
  rcases Nat.lt_or_eq_of_le hle with hlt | rfl
  · exact List.pairwise_iff_getElem.mp h.sorted first last hfirst hlast hlt
  · exact le_refl _

/-- Where a row stands: behind the rows with smaller keys, among those with its own. -/
theorem position (h : Arrangement key rows arranged) {index : Nat} {row : α}
    (hrow : arranged[index]? = some row) :
    smaller key rows row ≤ index ∧ index < smaller key rows row + tied key rows row := by
  have hlt : index < arranged.length := (List.getElem?_eq_some_iff.mp hrow).1
  have hbehind : (arranged.drop index).countP (fun other => decide (key other < key row)) = 0 := by
    refine List.countP_eq_zero.mpr fun other hother => ?_
    rcases List.getElem?_of_mem hother with ⟨offset, hoffset⟩
    rw [List.getElem?_drop] at hoffset
    have hle := h.key_mono (Nat.le_add_right index offset) hrow hoffset
    simpa using hle
  have hfront : (arranged.take (index + 1)).countP (fun other => decide (key other ≤ key row)) =
      index + 1 := by
    have hall : ∀ other ∈ arranged.take (index + 1), decide (key other ≤ key row) = true := by
      intro other hother
      rcases List.getElem?_of_mem hother with ⟨place, hplace⟩
      rw [List.getElem?_take] at hplace
      split_ifs at hplace with hbefore
      have hle := h.key_mono (Nat.le_of_lt_succ hbefore) hplace hrow
      simpa using hle
    rw [List.countP_eq_length.mpr hall, List.length_take]
    omega
  have hsmaller : smaller key arranged row =
      (arranged.take index).countP (fun other => decide (key other < key row)) + 0 := by
    rw [smaller, ← hbehind, ← List.countP_append, List.take_append_drop]
  have hupTo := smaller_add_tied key arranged row
  rw [← h.smaller_eq, ← h.tied_eq]
  constructor
  · have hle := List.countP_le_length (p := fun other => decide (key other < key row))
      (l := arranged.take index)
    rw [List.length_take] at hle
    omega
  · have hsub := (List.take_sublist (index + 1) arranged).countP_le
      (p := fun other => decide (key other ≤ key row))
    omega

/-- Among the places of a key stands no other key. -/
theorem key_eq (h : Arrangement key rows arranged) {index : Nat} {row found : α}
    (hfound : arranged[index]? = some found) (hfirst : smaller key rows row ≤ index)
    (hlast : index < smaller key rows row + tied key rows row) : key found = key row := by
  rcases h.position hfound with ⟨hle, hlt⟩
  have hrow := smaller_add_tied key rows row
  have hfound := smaller_add_tied key rows found
  rcases lt_trichotomy (key found) (key row) with hless | hequal | hgreater
  · exfalso
    have hmono : rows.countP (fun other => decide (key other ≤ key found)) ≤
        smaller key rows row :=
      List.countP_mono_left fun other _ hother =>
        decide_eq_true (lt_of_le_of_lt (of_decide_eq_true hother) hless)
    omega
  · exact hequal
  · exfalso
    have hmono : rows.countP (fun other => decide (key other ≤ key row)) ≤
        smaller key rows found :=
      List.countP_mono_left fun other _ hother =>
        decide_eq_true (lt_of_le_of_lt (of_decide_eq_true hother) hgreater)
    omega

/-- Two neighbours with the same key may be swapped. -/
theorem swap (h : Arrangement key rows arranged) {front behind : List α} {row next : α}
    (hsplit : arranged = front ++ row :: next :: behind) (hkey : key row = key next) :
    Arrangement key rows (front ++ next :: row :: behind) where
  perm := by
    refine List.Perm.trans ?_ h.perm
    rw [hsplit]
    exact List.Perm.append_left front (List.Perm.swap row next behind)
  sorted := by
    have hkeys : (front ++ next :: row :: behind).map key = arranged.map key := by
      simp [hsplit, hkey]
    rw [← List.pairwise_map (f := key) (R := (· ≤ ·)), hkeys, List.pairwise_map]
    exact h.sorted

end Arrangement

/-! ## Pages -/

/-- Rows that stand on the page of their place are the rows of that page. -/
theorem page_eq_filter {place : α → Nat}
    (hplace : ∀ (position : Nat) (row : α),
      arranged[position]? = some row → place row = position / size)
    (hsize : 0 < size) (index : Nat) :
    page size index arranged = arranged.filter fun row => decide (place row = index) := by
  have hfront :
      (arranged.take (index * size)).filter (fun row => decide (place row = index)) = [] := by
    refine List.filter_eq_nil_iff.mpr fun row hrow => ?_
    rcases List.getElem?_of_mem hrow with ⟨position, hposition⟩
    rw [List.getElem?_take] at hposition
    split_ifs at hposition with hbefore
    have hless := Nat.div_lt_of_lt_mul ((Nat.mul_comm index size) ▸ hbefore)
    rw [hplace position row hposition, decide_eq_true_eq]
    omega
  have hpage : (page size index arranged).filter (fun row => decide (place row = index)) =
      page size index arranged := by
    refine List.filter_eq_self.mpr fun row hrow => ?_
    rcases List.getElem?_of_mem hrow with ⟨offset, hoffset⟩
    rw [page, List.getElem?_take] at hoffset
    split_ifs at hoffset with hbefore
    rw [List.getElem?_drop] at hoffset
    rw [hplace _ row hoffset, decide_eq_true_eq, Nat.mul_comm, Nat.mul_add_div hsize,
      Nat.div_eq_of_lt hbefore, Nat.add_zero]
  have hbehind : ((arranged.drop (index * size)).drop size).filter
      (fun row => decide (place row = index)) = [] := by
    refine List.filter_eq_nil_iff.mpr fun row hrow => ?_
    rcases List.getElem?_of_mem hrow with ⟨offset, hoffset⟩
    rw [List.getElem?_drop, List.getElem?_drop] at hoffset
    have hmore : (index + 1) * size ≤ index * size + (size + offset) := by
      rw [Nat.add_mul, Nat.one_mul]
      omega
    have hgreater := (Nat.le_div_iff_mul_le hsize).mpr hmore
    rw [hplace _ row hoffset, decide_eq_true_eq]
    omega
  calc
    page size index arranged
      = (page size index arranged).filter (fun row => decide (place row = index)) := hpage.symm
    _ = ((arranged.take (index * size)) ++ (page size index arranged ++
          (arranged.drop (index * size)).drop size)).filter
            (fun row => decide (place row = index)) := by
      rw [List.filter_append, List.filter_append, hfront, hbehind, List.nil_append, List.append_nil]
    _ = arranged.filter fun row => decide (place row = index) := by
      rw [page, List.take_append_drop, List.take_append_drop]

/-- The rows of all places below a bound. -/
theorem flatMap_filter_perm (place : α → Nat) (rows : List α) (count : Nat) :
    ((List.range count).flatMap fun index => rows.filter fun row => decide (place row = index)).Perm
      (rows.filter fun row => decide (place row < count)) := by
  induction count with
  | zero => simp
  | succ count ih =>
      rw [List.range_succ, List.flatMap_append, List.flatMap_singleton]
      have hsplit := (List.filter_append_perm (fun row => decide (place row < count))
        (rows.filter fun row => decide (place row < count + 1)))
      rw [List.filter_filter, List.filter_filter] at hsplit
      have hbelow : rows.filter (fun row => decide (place row < count) &&
          decide (place row < count + 1)) = rows.filter fun row => decide (place row < count) := by
        refine List.filter_congr fun row _ => ?_
        rw [Bool.and_eq_left_iff_imp, decide_eq_true_eq, decide_eq_true_eq]
        omega
      have hequal : rows.filter (fun row => !decide (place row < count) &&
          decide (place row < count + 1)) = rows.filter fun row => decide (place row = count) := by
        refine List.filter_congr fun row _ => ?_
        rw [← decide_not, ← Bool.decide_and, decide_eq_decide]
        omega
      rw [hbelow, hequal] at hsplit
      exact (ih.append_right _).trans hsplit

theorem flatMap_perm {written again : Nat → List α} (h : ∀ index, (written index).Perm (again index))
    (indices : List Nat) : (indices.flatMap written).Perm (indices.flatMap again) := by
  induction indices with
  | nil => exact .refl _
  | cons index indices ih =>
      rw [List.flatMap_cons, List.flatMap_cons]
      exact (h index).append ih

/-- Where no tie reaches over the end of a page, every row has its page. -/
theorem pages_perm_of_separated (hsize : 0 < size) (hseparated : Separated key size rows)
    {count : Nat} (hcount : rows.length ≤ count * size) {arrange : Nat → List α}
    (harrange : ∀ index, Arrangement key rows (arrange index)) :
    ((List.range count).flatMap fun index => page size index (arrange index)).Perm rows := by
  have hpages : ∀ index, (page size index (arrange index)).Perm
      (rows.filter fun row => decide (smaller key rows row / size = index)) := by
    intro index
    have hplace : ∀ (position : Nat) (row : α), (arrange index)[position]? = some row →
        smaller key rows row / size = position / size := by
      intro position row hrow
      rcases (harrange index).position hrow with ⟨hfirst, hlast⟩
      have hmem : row ∈ rows := (harrange index).perm.subset (List.mem_of_getElem? hrow)
      have hsame := hseparated row hmem
      have hle : smaller key rows row / size ≤ position / size := Nat.div_le_div_right hfirst
      have hge : position / size ≤ (smaller key rows row + tied key rows row - 1) / size :=
        Nat.div_le_div_right (by omega)
      omega
    rw [page_eq_filter hplace hsize index]
    exact (harrange index).perm.filter _
  have hall : rows.filter (fun row => decide (smaller key rows row / size < count)) = rows := by
    refine List.filter_eq_self.mpr fun row hrow => ?_
    rw [decide_eq_true_eq]
    refine Nat.div_lt_of_lt_mul (lt_of_lt_of_le (smaller_lt_length hrow) ?_)
    rwa [Nat.mul_comm]
  have hfiltered := flatMap_filter_perm (fun row => smaller key rows row / size) rows count
  rw [hall] at hfiltered
  exact (flatMap_perm hpages _).trans hfiltered

theorem exists_arrangement (key : α → ω) (rows : List α) :
    ∃ arranged, Arrangement key rows arranged := by
  have htrans : ∀ first second third : α, decide (key first ≤ key second) = true →
      decide (key second ≤ key third) = true → decide (key first ≤ key third) = true :=
    fun _ _ _ hfirst hsecond =>
      decide_eq_true (le_trans (of_decide_eq_true hfirst) (of_decide_eq_true hsecond))
  have htotal : ∀ first second : α,
      (decide (key first ≤ key second) || decide (key second ≤ key first)) = true := by
    intro first second
    rw [Bool.or_eq_true, decide_eq_true_eq, decide_eq_true_eq]
    exact le_total (key first) (key second)
  exact ⟨_, List.mergeSort_perm _ _,
    (List.pairwise_mergeSort htrans htotal rows).imp fun hle => of_decide_eq_true hle⟩

/-- Where a tie reaches over the end of a page, a row may be on both pages. -/
theorem not_pages_perm_of_tie (hdistinct : rows.Nodup) (hsize : 0 < size)
    (htie : ¬ Separated key size rows) {count : Nat} (hcount : rows.length ≤ count * size) :
    ∃ arrange : Nat → List α, (∀ index, Arrangement key rows (arrange index)) ∧
      ¬ ((List.range count).flatMap fun index => page size index (arrange index)).Perm rows := by
  simp only [Separated, not_forall] at htie
  rcases htie with ⟨row, hrow, hpages⟩
  rcases exists_arrangement key rows with ⟨arranged, harranged⟩
  have htied : 1 ≤ tied key rows row := tied_pos hrow
  obtain ⟨last, hlast⟩ : ∃ last, (smaller key rows row + tied key rows row - 1) / size = last :=
    ⟨_, rfl⟩
  have hless : smaller key rows row / size < last := by
    have hle : smaller key rows row / size ≤ last := by
      rw [← hlast]
      exact Nat.div_le_div_right (by omega)
    omega
  -- the first place on the last page of the tie, and the one in front of it
  have hfirst : smaller key rows row < last * size := (Nat.div_lt_iff_lt_mul hsize).mp hless
  have hend : last * size ≤ smaller key rows row + tied key rows row - 1 := by
    rw [← hlast]
    exact Nat.div_mul_le_self _ _
  have hlength : smaller key rows row + tied key rows row ≤ arranged.length := by
    rw [smaller_add_tied, harranged.perm.length_eq]
    exact List.countP_le_length
  obtain ⟨border, hborder⟩ : ∃ border, last * size = border + 1 := ⟨last * size - 1, by omega⟩
  have hfront : border < arranged.length := by omega
  have hbehind : border + 1 < arranged.length := by omega
  have hsplit : arranged = arranged.take border ++ arranged[border] :: arranged[border + 1] ::
      arranged.drop (border + 2) := by
    rw [List.getElem_cons_drop, List.getElem_cons_drop, List.take_append_drop]
  have hhere : key arranged[border] = key row :=
    harranged.key_eq (List.getElem?_eq_getElem hfront) (by omega) (by omega)
  have hnext : key arranged[border + 1] = key row :=
    harranged.key_eq (List.getElem?_eq_getElem hbehind) (by omega) (by omega)
  have hswapped := harranged.swap hsplit (hhere.trans hnext.symm)
  obtain ⟨swapped, hdefinition⟩ : ∃ swapped, swapped = arranged.take border ++
      arranged[border + 1] :: arranged[border] :: arranged.drop (border + 2) := ⟨_, rfl⟩
  rw [← hdefinition] at hswapped
  refine ⟨fun index => if index = last then swapped else arranged, fun index => ?_, fun hperm => ?_⟩
  · dsimp only
    split
    · exact hswapped
    · exact harranged
  · have hnodup := hperm.nodup_iff.mpr hdistinct
    rw [List.nodup_flatMap, List.pairwise_iff_getElem] at hnodup
    have hcounted : last < count := by
      have hrows := harranged.perm.length_eq
      exact Nat.lt_of_mul_lt_mul_right
        (lt_of_lt_of_le (show last * size < rows.length by omega) hcount)
    have hpositive : 0 < last := lt_of_le_of_lt (Nat.zero_le _) hless
    have hdisjoint := hnodup.2 (last - 1) last (by simp; omega) (by simp [hcounted]) (by omega)
    simp only [List.getElem_range, Function.onFun, if_neg (show last - 1 ≠ last by omega),
      if_true] at hdisjoint
    -- the row in front of the border ends one page and begins the other
    refine hdisjoint (a := arranged[border]) ?_ ?_
    · have hplace : (last - 1) * size + (size - 1) = border := by
        rw [Nat.sub_mul, Nat.one_mul]
        have hle : size ≤ last * size := Nat.le_mul_of_pos_left size hpositive
        omega
      refine List.mem_of_getElem? (i := size - 1) ?_
      rw [page, List.getElem?_take_of_lt (by omega), List.getElem?_drop, hplace,
        List.getElem?_eq_getElem hfront]
    · refine List.mem_of_getElem? (i := 0) ?_
      have htake : (arranged.take border).length = border := by
        rw [List.length_take]
        omega
      rw [page, List.getElem?_take_of_lt hsize, List.getElem?_drop, Nat.add_zero, hborder,
        hdefinition, List.getElem?_append_right (by omega), htake, Nat.add_sub_cancel_left]
      rfl

/-- Pages partition the rows, whatever the queries make of ties, exactly when no tie reaches
over the end of a page. -/
theorem pages_perm_iff (hdistinct : rows.Nodup) (hsize : 0 < size) {count : Nat}
    (hcount : rows.length ≤ count * size) :
    (∀ arrange : Nat → List α, (∀ index, Arrangement key rows (arrange index)) →
      ((List.range count).flatMap fun index => page size index (arrange index)).Perm rows) ↔
      Separated key size rows := by
  constructor
  · intro hpages
    by_contra htie
    rcases not_pages_perm_of_tie hdistinct hsize htie hcount with ⟨arrange, harrange, hnot⟩
    exact hnot (hpages arrange harrange)
  · exact fun hseparated arrange harrange =>
      pages_perm_of_separated hsize hseparated hcount harrange

end Paging
