import R2RPC.Library.Paging
import R2RPC.Lists.Conditions

/-!
# Pages of a list

{lit}`paginate` with the bounds of its page: a count of the matching rows and a query that
sorts them and takes a page.  Rows that the sort does not tell apart may come in another order
in every query.

Main results:

- Definition {lit}`Listing.Answers`: what a list may answer for a page.
- Theorem {lit}`Listing.pagesPartition_iff`: the pages have every row once exactly when no tie
  reaches over the end of a page.
- Theorem {lit}`Listing.pagesPartition_of_injective`: so they do when the sort tells rows apart.

Current gaps:

- What a list reads besides its rows, such as project names, is not part of a page.
-/

namespace R2RPC
namespace Lists

open Metrics Paging

/-! ## Bounds -/

structure PaginationInput where
  page : Option Int
  pageSize : Option Int

structure PageBounds where
  page : Nat
  pageSize : Nat
  offset : Nat
deriving DecidableEq, Repr

/-- `pageBounds`. -/
def pageBounds (query : PaginationInput) : PageBounds :=
  let page := min 1000000 (max 1 (query.page.getD 1))
  let pageSize := min 100 (max 1 (query.pageSize.getD 10))
  ⟨page.toNat, pageSize.toNat, ((page - 1) * pageSize).toNat⟩

/-- Bounds that the input keeps are not moved. -/
theorem pageBounds_eq {index size : Nat} (hindex : index < 1000000) (hsize : 1 ≤ size)
    (hlimit : size ≤ 100) :
    pageBounds ⟨some (index + 1), some size⟩ = ⟨index + 1, size, index * size⟩ := by
  have hpage : min 1000000 (max 1 ((some ((index : Int) + 1)).getD 1)) = (index : Int) + 1 := by
    rw [Option.getD_some]
    omega
  have hpageSize : min 100 (max 1 ((some (size : Int)).getD 10)) = (size : Int) := by
    rw [Option.getD_some]
    omega
  simp only [pageBounds, hpage, hpageSize, Int.add_sub_cancel]
  rfl

structure PaginatedResult (ρ : Type) where
  rows : List ρ
  page : Nat
  pageSize : Nat
  total : Nat
deriving DecidableEq, Repr

section

variable {ρ ω : Type}

/-- `paginate`, where the rows are sorted into {lit}`sorted`; both statements fail for a filter
that PostgreSQL does not take, and the count beyond the range of `int`. -/
def paginate (table : List ρ) (whereClause : Option (ρ → Bool)) (query : PaginationInput)
    (sorted : List ρ) : Option (PaginatedResult ρ) := do
  let holds ← whereClause
  let total ← int4 (table.countP holds)
  let bounds := pageBounds query
  return ⟨(sorted.drop bounds.offset).take bounds.pageSize, bounds.page, bounds.pageSize, total⟩

/-! ## Lists -/

/-- A list: what it selects, and what it sorts by. -/
structure Listing (ρ ω : Type) where
  whereClause : Option (ρ → Bool)
  orderBy : ρ → ω

namespace Listing

variable (list : Listing ρ ω) (table : List ρ)

/-- The rows that a list selects; none where its statements fail. -/
def matching : List ρ :=
  match list.whereClause with
  | none => []
  | some holds => table.filter holds

/-- The pages {lit}`1..⌈total / pageSize⌉`. -/
def pageCount (pageSize : Nat) : Nat :=
  ((list.matching table).length + pageSize - 1) / pageSize

section

variable {list table} {size : Nat}

theorem length_le_pageCount (hsize : 1 ≤ size) :
    (list.matching table).length ≤ list.pageCount table size * size := by
  have hdivided := Nat.div_add_mod ((list.matching table).length + size - 1) size
  have hrest := Nat.mod_lt ((list.matching table).length + size - 1) hsize
  rw [pageCount, Nat.mul_comm]
  omega

theorem pageCount_le (hsize : 1 ≤ size)
    (htotal : (list.matching table).length ≤ 1000000 * size) :
    list.pageCount table size ≤ 1000000 := by
  refine Nat.le_of_lt_succ ((Nat.div_lt_iff_lt_mul hsize).mpr ?_)
  omega

theorem matching_eq {holds : ρ → Bool} (h : list.whereClause = some holds) :
    list.matching table = table.filter holds := by
  rw [matching, h]

end

variable [LinearOrder ω]

/-- A page that the list may answer. -/
def Answers (query : PaginationInput) (result : PaginatedResult ρ) : Prop :=
  ∃ sorted, Arrangement list.orderBy (list.matching table) sorted ∧
    paginate table list.whereClause query sorted = some result

/-- Every page is answered, whatever is answered counts the matching rows, and the pages have
every matching row once. -/
structure PagesPartition (pageSize : Nat) : Prop where
  answered : ∀ index < list.pageCount table pageSize, ∃ result,
    list.Answers table ⟨some (index + 1), some pageSize⟩ result
  total : ∀ query result, list.Answers table query result →
    result.total = (list.matching table).length
  rows : ∀ results : Nat → PaginatedResult ρ,
    (∀ index < list.pageCount table pageSize,
      list.Answers table ⟨some (index + 1), some pageSize⟩ (results index)) →
    ((List.range (list.pageCount table pageSize)).flatMap fun index => (results index).rows).Perm
      (list.matching table)

variable {list table} {size : Nat}

/-- Without a statement that PostgreSQL takes there is no answer. -/
theorem answers_some {query : PaginationInput} {result : PaginatedResult ρ}
    (h : list.Answers table query result) : ∃ holds, list.whereClause = some holds := by
  rcases h with ⟨sorted, _, hresult⟩
  rw [paginate] at hresult
  cases hwhere : list.whereClause with
  | none => rw [hwhere] at hresult; cases hresult
  | some holds => exact ⟨holds, rfl⟩

theorem total_eq {query : PaginationInput} {result : PaginatedResult ρ}
    (h : list.Answers table query result) : result.total = (list.matching table).length := by
  rcases answers_some h with ⟨holds, hwhere⟩
  rcases h with ⟨sorted, _, hresult⟩
  rw [matching_eq hwhere, ← List.countP_eq_length_filter]
  simp only [paginate, hwhere, int4, Option.bind_eq_bind, Option.bind_some] at hresult
  split_ifs at hresult with hrange
  · rw [← Option.some.inj hresult]
  · cases hresult

/-- A page within the bounds, of a total that an {lit}`int` holds. -/
theorem answers_iff {holds : ρ → Bool} (hwhere : list.whereClause = some holds) (hsize : 1 ≤ size)
    (hlimit : size ≤ 100) (htotal : (list.matching table).length ≤ 1000000 * size) {index : Nat}
    (hindex : index < 1000000) {result : PaginatedResult ρ} :
    list.Answers table ⟨some (index + 1), some size⟩ result ↔
      ∃ sorted, Arrangement list.orderBy (list.matching table) sorted ∧
        result = ⟨page size index sorted, index + 1, size, (list.matching table).length⟩ := by
  have hrange : table.countP holds ≤ 2147483647 := by
    rw [List.countP_eq_length_filter, ← matching_eq hwhere]
    omega
  simp only [Answers, paginate, hwhere, int4, if_pos hrange, Option.bind_eq_bind, Option.bind_some,
    pageBounds_eq hindex hsize hlimit, matching_eq hwhere, ← List.countP_eq_length_filter, page]
  refine exists_congr fun sorted => and_congr_right fun _ => ?_
  exact Option.some_inj.trans eq_comm

/-- The pages have every row once, in whatever order ties come, exactly when no tie reaches over
the end of a page. -/
theorem pagesPartition_iff (hdistinct : table.Nodup) (hsize : 1 ≤ size) (hlimit : size ≤ 100)
    (htotal : (list.matching table).length ≤ 1000000 * size) :
    list.PagesPartition table size ↔ Separated list.orderBy size (list.matching table) := by
  cases hwhere : list.whereClause with
  | none =>
      have hempty : list.matching table = [] := by rw [matching, hwhere]
      have hpages : list.pageCount table size = 0 := by
        rw [pageCount, hempty, List.length_nil]
        exact Nat.div_eq_of_lt (by omega)
      rw [hempty]
      refine ⟨fun _ row hrow => absurd hrow List.not_mem_nil, fun _ => ⟨?_, fun _ _ => total_eq, ?_⟩⟩
      · rw [hpages]
        exact fun index hindex => absurd hindex (Nat.not_lt_zero index)
      · rw [hpages, hempty]
        exact fun _ _ => List.Perm.refl []
  | some holds =>
      have hrows : (list.matching table).Nodup := by
        rw [matching_eq hwhere]
        exact hdistinct.filter _
      have hpages := pageCount_le hsize htotal
      rw [← pages_perm_iff hrows hsize (length_le_pageCount hsize)]
      constructor
      · intro h arrange harrange
        exact h.rows
          (fun index => ⟨page size index (arrange index), index + 1, size,
            (list.matching table).length⟩)
          fun index hindex => (answers_iff hwhere hsize hlimit htotal (by omega)).mpr
            ⟨arrange index, harrange index, rfl⟩
      · intro h
        rcases exists_arrangement list.orderBy (list.matching table) with ⟨anyhow, hanyhow⟩
        refine ⟨fun index hindex => ⟨_, (answers_iff hwhere hsize hlimit htotal (by omega)).mpr
          ⟨anyhow, hanyhow, rfl⟩⟩, fun _ _ => total_eq, fun results hresults => ?_⟩
        have hsorted : ∀ index, ∃ sorted, Arrangement list.orderBy (list.matching table) sorted ∧
            (index < list.pageCount table size →
              (results index).rows = page size index sorted) := by
          intro index
          by_cases hindex : index < list.pageCount table size
          · rcases (answers_iff hwhere hsize hlimit htotal (by omega)).mp (hresults index hindex)
              with ⟨sorted, harrangement, hresult⟩
            exact ⟨sorted, harrangement, fun _ => by rw [hresult]⟩
          · exact ⟨anyhow, hanyhow, fun h => absurd h hindex⟩
        choose arrange harrange hpage using hsorted
        rw [List.flatMap_congr fun index hindex => hpage index (List.mem_range.mp hindex)]
        exact h arrange harrange

/-- Where the sort tells rows apart there is no tie. -/
theorem pagesPartition_of_injective (hdistinct : table.Nodup)
    (hinjective : ∀ row ∈ table, ∀ other ∈ table, list.orderBy other = list.orderBy row →
      other = row)
    (hsize : 1 ≤ size) (hlimit : size ≤ 100)
    (htotal : (list.matching table).length ≤ 1000000 * size) : list.PagesPartition table size := by
  rw [pagesPartition_iff hdistinct hsize hlimit htotal]
  cases hwhere : list.whereClause with
  | none =>
      rw [matching, hwhere]
      exact fun row hrow => absurd hrow List.not_mem_nil
  | some holds =>
      rw [matching_eq hwhere]
      exact separated_of_injective (hdistinct.filter _)
        (fun row hrow other hother =>
          hinjective row (List.mem_of_mem_filter hrow) other (List.mem_of_mem_filter hother)) size

end Listing

end

end Lists
end R2RPC
