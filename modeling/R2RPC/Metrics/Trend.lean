import Mathlib.Data.Finset.Sort
import R2RPC.Library.Quotients
import R2RPC.Library.Schema
import R2RPC.Metrics.Windows

/-!
# The trend of the last days

{lit}`trend` asks for the daily sums of {lit}`rpc_daily_metrics` from a cutoff date on and
looks up every date that it counts back from today in a map of the answer, whose keys are the
texts of dates.

Main results:

- Theorem {lit}`utcDateDaysAgo_eq`: the text of a day counted back from today.
- Theorem {lit}`dateText_inj`: a text is of one day.
- Theorem {lit}`trend_complete`: a point for every day, with the sums of its rows.

Current gaps:

- A {lit}`stat_date` is a finite date.
-/

namespace R2RPC
namespace Metrics

open Aggregates Binary Utf16
open Calendar hiding millisecondsPerDay

/-! ## Rates -/

/-- `averageLatency`. -/
def averageLatency (totalLatencyMilliseconds totalRequests : Nat) : Number binary64 :=
  if totalRequests = 0 then ofInteger binary64 0
  else ((ofInteger binary64 totalLatencyMilliseconds).div (ofInteger binary64 totalRequests)).round

/-- `successRate`. -/
def successRate (successRequests totalRequests : Nat) : Number binary64 :=
  if totalRequests = 0 then ofInteger binary64 0
  else
    ((((ofInteger binary64 successRequests).mul (ofInteger binary64 10000)).div
      (ofInteger binary64 totalRequests)).round).div (ofInteger binary64 100)

/-- A rate is a percentage. -/
theorem successRate_within {successRequests totalRequests : Nat}
    (hle : successRequests ≤ totalRequests) (hint : totalRequests ≤ 2147483647) :
    (successRate successRequests totalRequests).Within 100 := by
  have hsmall : ∀ n ≤ 21474836470000, n ≤ 2 ^ binary64.precision := by
    intro n hn
    have hprecision : 2 ^ binary64.precision = 9007199254740992 := by decide
    omega
  have hwhole : ∀ n ≤ 2147483647, (ofInteger binary64 (n : Nat)).IsWhole n := fun n hn =>
    Number.isWhole_ofInteger (hsmall n (by omega)) binary64_roomy
  rw [successRate]
  split
  · rcases hwhole 0 (by decide) with ⟨m, hm, hunits⟩
    exact ⟨m, hm, by omega⟩
  next hne =>
    have hproduct := (hwhole successRequests (by omega)).mul (hwhole 10000 (by decide))
      (hsmall _ (by omega)) binary64_roomy
    have hquotient := hproduct.div (n := 10000) (hwhole totalRequests hint)
      (Nat.pos_of_ne_zero hne) (by omega) (hsmall _ (by decide)) binary64_roomy
    rcases hquotient.round (hsmall _ (by decide)) binary64_roomy with ⟨hundredths, hle, hround⟩
    exact hround.div (hwhole 100 (by decide)) (by decide) (by omega) (hsmall _ (by decide))
      binary64_roomy

/-! ## Points -/

/-- `DailyTrendAggregate`, without its date. -/
structure DailyTrendAggregate where
  totalRequests : Nat
  successRequests : Nat
  failedRequests : Nat
  timeoutRequests : Nat
  totalLatencyMilliseconds : Nat
  maximumLatencyMilliseconds : Nat

/-- `DailyTrendPoint`. -/
structure DailyTrendPoint where
  statDate : JsString
  totalRequests : Nat
  successRequests : Nat
  failedRequests : Nat
  timeoutRequests : Nat
  avgLatencyMs : Number binary64
  maxLatencyMs : Nat
  successRate : Number binary64

/-- `toTrendPoint`. -/
def toTrendPoint (statDate : JsString) : Option DailyTrendAggregate → DailyTrendPoint
  | none => ⟨statDate, 0, 0, 0, 0, ofInteger binary64 0, 0, ofInteger binary64 0⟩
  | some aggregate =>
      { statDate
        totalRequests := aggregate.totalRequests
        successRequests := aggregate.successRequests
        failedRequests := aggregate.failedRequests
        timeoutRequests := aggregate.timeoutRequests
        avgLatencyMs := averageLatency aggregate.totalLatencyMilliseconds aggregate.totalRequests
        maxLatencyMs := aggregate.maximumLatencyMilliseconds
        successRate := Metrics.successRate aggregate.successRequests aggregate.totalRequests }

/-! ## The query -/

/-- `sum(...)::bigint`. -/
def bigint (n : Nat) : Option Nat := if n ≤ 9223372036854775807 then some n else none

/-- The columns of a group, cast to their types. -/
def castRow (sums : Counters) : Option DailyTrendAggregate := do
  let totalRequests ← int4 sums.totalRequests
  let successRequests ← int4 sums.successRequests
  let failedRequests ← int4 sums.failedRequests
  let timeoutRequests ← int4 sums.timeoutRequests
  let totalLatencyMilliseconds ← bigint sums.totalLatencyMs
  let maximumLatencyMilliseconds ← int4 sums.maxLatencyMs
  return { totalRequests, successRequests, failedRequests, timeoutRequests,
           totalLatencyMilliseconds, maximumLatencyMilliseconds }

/-- The rows of a project, or of all of them: an empty name is no filter. -/
def ofProject (project : Option String) (key : RpcKey) : Bool :=
  project.all fun name => name = "" || key.projectName == name

/-- The sums of the rows of a day. -/
def daySums (project : Option String) (t : Table RpcKey Counters) (day : Day) : Counters :=
  total (fun key => ofProject project key = true ∧ key.statDate = day) t

/-- The groups of the query. -/
def groups (project : Option String) (t : Table RpcKey Counters) (cutoffDate : Day) :
    List (Day × Counters) :=
  let dates := (t.keys.filter fun key => ofProject project key ∧ cutoffDate ≤ key.statDate).image
    (·.statDate)
  (dates.sort (· ≤ ·)).map fun day => (day, daySums project t day)

/-- `utcDateDaysAgo`; an invalid `Date` throws. -/
def utcDateDaysAgo (now : Timestamp) (daysAgo : Nat) : Option JsString :=
  let date := gregorian.dateOf (dayOf now)
  (dateUTC date.year date.month (date.day - daysAgo)).map isoDate

/-- `trend`, with the clock at the cutoff and at every turn of the loop; the groups come in any
order, a date as its text. -/
def trend (arrange : List (Day × Counters) → List (Day × Counters)) (t : Table RpcKey Counters)
    (cutoffNow : Timestamp) (loopNow : Nat → Timestamp) (days : Nat) (project : Option String) :
    Option (List DailyTrendPoint) := do
  let cutoffDate ← (utcDateDaysAgo cutoffNow (days - 1)).bind pgDate
  if project.any (·.contains '\x00') then none
  else
    let aggregateRows ← (arrange (groups project t cutoffDate)).mapM fun group =>
      (castRow group.2).map fun aggregate => (dateText (gregorian.dateOf group.1), aggregate)
    let aggregatesByDate := fun statDate => aggregateRows.reverse.lookup statDate
    (List.range days).reverse.mapM fun daysAgo => do
      let statDate ← utcDateDaysAgo (loopNow daysAgo) daysAgo
      return toTrendPoint statDate (aggregatesByDate statDate)

/-! ## Dates -/

theorem year_iff (day : Day) :
    (1 ≤ (gregorian.dateOf day).year ↔ -719162 ≤ day) ∧
      ((gregorian.dateOf day).year < 10000 ↔ day < 2932897) := by
  rw [YearRule.dateOf_year, ← gregorian.firstDay_le_iff, ← not_le, ← gregorian.firstDay_le_iff]
  simp [gregorian]

theorem isoDate_day {day : Day} (hfirst : -719162 ≤ day) (hlast : day < 2932897) :
    isoDate (day * millisecondsPerDay) = dateText (gregorian.dateOf day) := by
  have hday : dayOf (day * millisecondsPerDay) = day := Int.mul_ediv_cancel _ (by decide)
  have hyear := (year_iff day).1.mpr hfirst
  rw [isoDate_eq, hday]
  · rw [hday]
    omega
  · rw [hday]
    exact (year_iff day).2.mpr hlast

theorem pgDate_dateText_day {day : Day} (hfirst : -719162 ≤ day) (hlast : day < 2932897) :
    pgDate (dateText (gregorian.dateOf day)) = some day := by
  have hyear := (year_iff day).1.mpr hfirst
  rw [pgDate_dateText (by omega) ((year_iff day).2.mpr hlast) (gregorian.isDate_dateOf day),
    if_pos hyear, gregorian.makeDay_dateOf]

/-- The text of a day counted back from today. -/
theorem utcDateDaysAgo_eq {now : Timestamp} {daysAgo : Nat}
    (hfirst : -719162 ≤ dayOf now - daysAgo) (hlast : dayOf now < 2932897) :
    utcDateDaysAgo now daysAgo = some (dateText (gregorian.dateOf (dayOf now - daysAgo))) := by
  have hcutoff := rebuildCutoff_eq now (daysAgo + 1)
  have hdays : ((daysAgo + 1 : Nat) : Int) - 1 = daysAgo := by omega
  simp only [rebuildCutoff, cutoffDate, hdays] at hcutoff
  obtain ⟨day, hday⟩ : ∃ day : Int, dayOf now - daysAgo = day := ⟨_, rfl⟩
  have hbefore : day < 2932897 := by omega
  have hutcDay : utcDay now - daysAgo = day := hday
  rw [hday] at hfirst ⊢
  rw [hutcDay] at hcutoff
  have hclip : timeClip (day * millisecondsPerDay) = some (day * millisecondsPerDay) := by
    rw [timeClip, if_pos]
    simp only [millisecondsPerDay]
    omega
  simp only [utcDateDaysAgo, hcutoff, hclip, Option.map_some]
  rw [isoDate_day hfirst hbefore]

/-- A text is of one day, from the year 1 to the year 9999. -/
theorem dateText_inj {day other : Day} (hfirst : -719162 ≤ day) (hlast : day < 2932897)
    (hother : -719162 ≤ other)
    (h : dateText (gregorian.dateOf other) = dateText (gregorian.dateOf day)) : other = day := by
  rcases (gregorian.isDate_dateOf day).lt with ⟨hmonth, hday⟩
  rcases (gregorian.isDate_dateOf other).lt with ⟨hmonth', hday'⟩
  have hlength := dateText_length ((year_iff day).2.mpr hlast) hmonth hday
  have hshort : other < 2932897 := by
    rw [← (year_iff other).2]
    by_contra hlong
    have hpad := lt_pad_length (show 0 < 4 by decide)
      (show 10 ^ 4 ≤ (gregorian.dateOf other).year.toNat by omega)
    have hmonthLength : (pad 2 (gregorian.dateOf other).month).length = 2 :=
      pad_length (by decide) hmonth'
    have hdayLength : (pad 2 (gregorian.dateOf other).day).length = 2 :=
      pad_length (by decide) hday'
    rw [← h, dateText, List.length_append, List.length_cons, List.length_append, List.length_cons,
      hmonthLength, hdayLength] at hlength
    omega
  have hread := pgDate_dateText_day hother hshort
  rw [h, pgDate_dateText_day hfirst hlast] at hread
  exact (Option.some.inj hread).symm

/-! ## Sums -/

theorem window_succ (first day : Int) (days : Nat) :
    first ≤ day ∧ day < first + (days + 1 : Nat) ↔
      first ≤ day ∧ day < first + days ∨ day = first + days := by
  omega

theorem window_end (today day : Int) (days : Nat) :
    day ≤ today ↔ day < today - days + 1 + days := by
  omega

section

variable (project : Option String) (t : Table RpcKey Counters)

/-- The days of a window have the sums of the window. -/
theorem sum_daySums (first : Day) (days : Nat) :
    ((List.range days).map fun index => daySums project t (first + (index : Nat))).sum =
      total (fun key => ofProject project key = true ∧ first ≤ key.statDate ∧
        key.statDate < first + days) t := by
  induction days with
  | zero =>
      refine (total_eq_zero fun key _ ⟨_, hfirst, hlast⟩ => ?_).symm
      exact absurd (lt_of_le_of_lt hfirst hlast) (by simp)
  | succ days ih =>
      rw [List.range_succ, List.map_append, List.sum_append, ih, List.map_singleton,
        List.sum_singleton, daySums, ← total_or]
      · refine total_congr fun key _ => ?_
        rw [← and_or_left]
        exact and_congr_right fun _ => (window_succ first key.statDate days).symm
      · rintro key ⟨_, _, hlast⟩ ⟨_, hday⟩
        exact absurd hday hlast.ne

/-- The columns of a group fit their types. -/
def Fits (sums : Counters) : Prop :=
  sums.totalRequests ≤ 2147483647 ∧ sums.successRequests ≤ 2147483647 ∧
    sums.failedRequests ≤ 2147483647 ∧ sums.timeoutRequests ≤ 2147483647 ∧
    sums.totalLatencyMs ≤ 9223372036854775807 ∧ sums.maxLatencyMs ≤ 2147483647

instance (sums : Counters) : Decidable (Fits sums) := inferInstanceAs (Decidable (_ ∧ _))

/-- The group of a day, as it arrives. -/
def aggregateOf (sums : Counters) : DailyTrendAggregate :=
  ⟨sums.totalRequests, sums.successRequests, sums.failedRequests, sums.timeoutRequests,
    sums.totalLatencyMs, sums.maxLatencyMs⟩

theorem castRow_eq {sums : Counters} (h : Fits sums) : castRow sums = some (aggregateOf sums) := by
  rcases h with ⟨htotal, hsuccess, hfailed, htimeout, hlatency, hmaximum⟩
  simp [castRow, int4, bigint, htotal, hsuccess, hfailed, htimeout, hlatency, hmaximum, aggregateOf]

/-- A day with rows. -/
def HasRows (day : Day) : Prop := ∃ key ∈ t, ofProject project key = true ∧ key.statDate = day

theorem mem_groups {cutoffDate : Day} {group : Day × Counters} :
    group ∈ groups project t cutoffDate ↔
      HasRows project t group.1 ∧ cutoffDate ≤ group.1 ∧ group.2 = daySums project t group.1 := by
  rcases group with ⟨day, sums⟩
  simp only [groups, List.mem_map, Finset.mem_sort, Finset.mem_image, Finset.mem_filter,
    Finmap.mem_keys, Prod.mk.injEq, HasRows]
  constructor
  · rintro ⟨_, ⟨key, ⟨hkey, hproject, hcutoff⟩, rfl⟩, rfl, rfl⟩
    exact ⟨⟨key, hkey, hproject, rfl⟩, hcutoff, rfl⟩
  · rintro ⟨⟨key, hkey, hproject, rfl⟩, hcutoff, rfl⟩
    exact ⟨_, ⟨key, ⟨hkey, hproject, hcutoff⟩, rfl⟩, rfl, rfl⟩

end

/-! ## The trend -/

section

variable {project : Option String} {t : Table RpcKey Counters} {day cutoffDate : Day}

theorem daySums_eq_zero (h : ¬ HasRows project t day) : daySums project t day = 0 :=
  total_eq_zero fun key hkey hrow => h ⟨key, hkey, hrow⟩

instance (project : Option String) (t : Table RpcKey Counters) (day : Day) :
    Decidable (HasRows project t day) :=
  decidable_of_iff (∃ key ∈ t.keys, ofProject project key = true ∧ key.statDate = day)
    (by simp only [HasRows, Finmap.mem_keys])

/-- What the trend shows of a day. -/
def pointOf (project : Option String) (t : Table RpcKey Counters) (day : Day) : DailyTrendPoint :=
  toTrendPoint (dateText (gregorian.dateOf day))
    (if HasRows project t day then some (aggregateOf (daySums project t day)) else none)

/-- A point has the sums of its day, whether there are rows or not. -/
theorem pointOf_counts (project : Option String) (t : Table RpcKey Counters) (day : Day) :
    (pointOf project t day).totalRequests = (daySums project t day).totalRequests ∧
      (pointOf project t day).successRequests = (daySums project t day).successRequests ∧
      (pointOf project t day).failedRequests = (daySums project t day).failedRequests ∧
      (pointOf project t day).timeoutRequests = (daySums project t day).timeoutRequests := by
  unfold pointOf
  split
  next => exact ⟨rfl, rfl, rfl, rfl⟩
  next hnone =>
    rw [daySums_eq_zero hnone]
    exact ⟨rfl, rfl, rfl, rfl⟩

/-- The rate of a point is a percentage. -/
theorem pointOf_successRate (hfits : Fits (daySums project t day))
    (hle : (pointOf project t day).successRequests ≤ (pointOf project t day).totalRequests) :
    (pointOf project t day).successRate.Within 100 := by
  have htotal := (pointOf_counts project t day).1
  have hint : (pointOf project t day).totalRequests ≤ 2147483647 := by
    rw [htotal]
    exact hfits.1
  have hrate : (pointOf project t day).successRate =
      successRate (pointOf project t day).successRequests (pointOf project t day).totalRequests := by
    unfold pointOf
    split
    next => simp only [toTrendPoint]
    next => simp only [toTrendPoint, successRate, if_true]
  rw [hrate]
  exact successRate_within hle hint

/-- The map of the answer has the group of a day under its text, and nothing under the text of a
day without rows. -/
theorem lookup_groups {arranged : List (Day × Counters)}
    (harranged : arranged.Perm (groups project t cutoffDate)) (hcutoff : -719162 ≤ cutoffDate)
    (hfirst : cutoffDate ≤ day) (hlast : day < 2932897) :
    (arranged.map fun group =>
        (dateText (gregorian.dateOf group.1), aggregateOf group.2)).reverse.lookup
      (dateText (gregorian.dateOf day)) =
      if HasRows project t day then some (aggregateOf (daySums project t day)) else none := by
  have hday : -719162 ≤ day := le_trans hcutoff hfirst
  have hgroup : ∀ group ∈ arranged, dateText (gregorian.dateOf group.1) =
      dateText (gregorian.dateOf day) → HasRows project t day ∧ group.2 = daySums project t day := by
    intro group hmem htext
    rcases (mem_groups project t).mp (harranged.subset hmem) with ⟨hrows, hbehind, hsums⟩
    obtain rfl := dateText_inj hday hlast (le_trans hcutoff hbehind) htext
    exact ⟨hrows, hsums⟩
  split
  next hrows =>
    have hmem : (day, daySums project t day) ∈ arranged :=
      harranged.symm.subset ((mem_groups project t).mpr ⟨hrows, hfirst, rfl⟩)
    obtain ⟨found, hfound⟩ : ∃ found, (arranged.map fun group =>
        (dateText (gregorian.dateOf group.1), aggregateOf group.2)).reverse.lookup
          (dateText (gregorian.dateOf day)) = some found := by
      rw [← Option.isSome_iff_exists, List.lookup_isSome_iff]
      exact ⟨_, List.mem_reverse.mpr (List.mem_map_of_mem hmem), beq_self_eq_true _⟩
    rw [hfound]
    rcases List.lookup_eq_some_iff.mp hfound with ⟨front, behind, hsplit, -⟩
    have hentry : (dateText (gregorian.dateOf day), found) ∈ arranged.map fun group =>
        (dateText (gregorian.dateOf group.1), aggregateOf group.2) := by
      rw [← List.mem_reverse, hsplit]
      exact List.mem_append_right front List.mem_cons_self
    rcases List.mem_map.mp hentry with ⟨group, hgroups, heq⟩
    rcases Prod.mk.inj heq with ⟨htext, rfl⟩
    rw [(hgroup group hgroups htext).2]
  next hrows =>
    rw [List.lookup_eq_none_iff]
    intro entry hentry
    rcases List.mem_map.mp (List.mem_reverse.mp hentry) with ⟨group, hgroups, rfl⟩
    rw [bne_iff_ne]
    exact fun htext => hrows (hgroup group hgroups htext.symm).1

theorem count_back (today : Int) {days index : Nat} (h : index < days) :
    today - (0 + days - 1 - index : Nat) = today - days + 1 + index := by
  omega

theorem mapM_map {α β : Type} {f : α → Option β} {g : α → β} {rows : List α}
    (h : ∀ row ∈ rows, f row = some (g row)) : rows.mapM f = some (rows.map g) :=
  Schema.mapM_eq_some.mpr (List.forall₂_map_right_iff.mpr (List.forall₂_same.mpr h))

/-- The loop counts back from the first day of the window to today. -/
theorem reverse_range_map {α : Type} (f : Day → α) (today : Day) (days : Nat) :
    ((List.range days).reverse.map fun daysAgo => f (today - (daysAgo : Nat))) =
      (List.range days).map fun index => f (today - days + 1 + (index : Nat)) := by
  rw [List.range_eq_range', List.reverse_range', List.map_map, ← List.range_eq_range']
  refine List.map_congr_left fun index hindex => congrArg f ?_
  exact count_back today (List.mem_range.mp hindex)

/-- The points of a run of the clock on one day. -/
theorem trend_eq {arrange : List (Day × Counters) → List (Day × Counters)}
    (harrange : ∀ rows, (arrange rows).Perm rows) (hproject : ¬ project.any (·.contains '\x00'))
    {days : Nat} (hdays : 1 ≤ days) {cutoffNow : Timestamp} {loopNow : Nat → Timestamp} {today : Day}
    (hloop : ∀ daysAgo < days, dayOf (loopNow daysAgo) = today) (hcutoff : dayOf cutoffNow ≤ today)
    (hfirst : -719162 ≤ dayOf cutoffNow - (days - 1)) (hlast : today < 2932897)
    (hsums : ∀ day, Fits (daySums project t day)) :
    trend arrange t cutoffNow loopNow days project =
      some ((List.range days).map fun index =>
        pointOf project t (today - days + 1 + (index : Nat))) := by
  obtain ⟨cutoff, hday⟩ : ∃ cutoff : Int, dayOf cutoffNow - (days - 1 : Nat) = cutoff := ⟨_, rfl⟩
  have hyesterday : ((days - 1 : Nat) : Int) = days - 1 := by omega
  have hreach : -719162 ≤ cutoff := by omega
  have hbefore : dayOf cutoffNow < 2932897 := lt_of_le_of_lt hcutoff hlast
  have hcutoffLast : cutoff < 2932897 := by omega
  have hcutoffDate : (utcDateDaysAgo cutoffNow (days - 1)).bind pgDate = some cutoff := by
    rw [utcDateDaysAgo_eq (by omega) hbefore, Option.bind_some, hday,
      pgDate_dateText_day hreach hcutoffLast]
  have hrows : (arrange (groups project t cutoff)).mapM (fun group =>
        (castRow group.2).map fun aggregate => (dateText (gregorian.dateOf group.1), aggregate)) =
      some ((arrange (groups project t cutoff)).map fun group =>
        (dateText (gregorian.dateOf group.1), aggregateOf group.2)) := by
    refine mapM_map fun group hgroup => ?_
    rcases (mem_groups project t).mp ((harrange _).subset hgroup) with ⟨-, -, hgroupSums⟩
    rw [castRow_eq (by rw [hgroupSums]; exact hsums group.1), Option.map_some]
  rw [trend, hcutoffDate]
  simp only [Option.bind_eq_bind, Option.bind_some, if_neg hproject, hrows]
  rw [← reverse_range_map (pointOf project t) today days]
  refine mapM_map fun daysAgo hmem => ?_
  have hless : daysAgo < days := List.mem_range.mp (List.mem_reverse.mp hmem)
  obtain ⟨now, hnow⟩ : ∃ now : Int, dayOf (loopNow daysAgo) = now := ⟨_, rfl⟩
  have htoday : today = now := (hloop daysAgo hless).symm.trans hnow
  rw [htoday] at hcutoff hlast ⊢
  have hnowLast : now < 2932897 := hlast
  have hwindow : cutoff ≤ now - daysAgo := by omega
  have hdayLast : now - daysAgo < 2932897 := by omega
  rw [utcDateDaysAgo_eq (by omega) (by rw [hnow]; exact hnowLast), Option.bind_some, hnow,
    lookup_groups (harrange _) hreach hwindow hdayLast]
  rfl

theorem pointOf_statDate (project : Option String) (t : Table RpcKey Counters) (day : Day) :
    (pointOf project t day).statDate = dateText (gregorian.dateOf day) := by
  unfold pointOf
  split <;> rfl

/-- A column of all points is that column of the window. -/
theorem sum_points (column : Counters →+ Nat) {shown : DailyTrendPoint → Nat}
    (hshown : ∀ day, shown (pointOf project t day) = column (daySums project t day)) (today : Day)
    (days : Nat) :
    (((List.range days).map fun index =>
        pointOf project t (today - days + 1 + (index : Nat))).map shown).sum =
      column (total (fun key => ofProject project key = true ∧ today - days + 1 ≤ key.statDate ∧
        key.statDate ≤ today) t) := by
  have hwindow : total (fun key => ofProject project key = true ∧
        today - days + 1 ≤ key.statDate ∧ key.statDate ≤ today) t =
      total (fun key => ofProject project key = true ∧ today - days + 1 ≤ key.statDate ∧
        key.statDate < today - days + 1 + days) t := by
    refine total_congr fun key _ => and_congr_right fun _ => and_congr_right fun _ => ?_
    exact window_end today key.statDate days
  rw [hwindow, ← sum_daySums, map_list_sum, List.map_map, List.map_map]
  exact congrArg List.sum (List.map_congr_left fun index _ => hshown _)

/-- A trend has a point for every day of the window, in order, with the sums of the rows of that
day; the points add up to the window, and every rate is a percentage. -/
theorem trend_complete {arrange : List (Day × Counters) → List (Day × Counters)}
    (harrange : ∀ rows, (arrange rows).Perm rows) (hproject : ¬ project.any (·.contains '\x00'))
    {days : Nat} (hdays : 1 ≤ days) {cutoffNow : Timestamp} {loopNow : Nat → Timestamp} {today : Day}
    (hloop : ∀ daysAgo < days, dayOf (loopNow daysAgo) = today) (hcutoff : dayOf cutoffNow ≤ today)
    (hfirst : -719162 ≤ dayOf cutoffNow - (days - 1)) (hlast : today < 2932897)
    (hsums : ∀ day, Fits (daySums project t day)) :
    ∃ points, trend arrange t cutoffNow loopNow days project = some points ∧
      points.map (·.statDate) = ((List.range days).map fun index =>
        dateText (gregorian.dateOf (today - days + 1 + (index : Nat)))) ∧
      (∀ index < days, ∃ point sums, points[index]? = some point ∧
        sums = daySums project t (today - days + 1 + (index : Nat)) ∧
        point.totalRequests = sums.totalRequests ∧
        point.successRequests = sums.successRequests ∧
        point.failedRequests = sums.failedRequests ∧
        point.timeoutRequests = sums.timeoutRequests) ∧
      (∃ sums, sums = total (fun key => ofProject project key = true ∧
          today - days + 1 ≤ key.statDate ∧ key.statDate ≤ today) t ∧
        (points.map (·.totalRequests)).sum = sums.totalRequests ∧
        (points.map (·.successRequests)).sum = sums.successRequests ∧
        (points.map (·.failedRequests)).sum = sums.failedRequests ∧
        (points.map (·.timeoutRequests)).sum = sums.timeoutRequests) ∧
      ∀ point ∈ points, point.successRequests ≤ point.totalRequests →
        (ofInteger binary64 0).le point.successRate = true ∧
          point.successRate.le (ofInteger binary64 100) = true := by
  refine ⟨_, trend_eq harrange hproject hdays hloop hcutoff hfirst hlast hsums, ?_,
    fun index hindex => ?_, ⟨_, rfl, ?_, ?_, ?_, ?_⟩, fun point hpoint hle => ?_⟩
  · rw [List.map_map]
    exact List.map_congr_left fun index _ => pointOf_statDate project t _
  · have hget := List.getElem?_range hindex
    rw [List.getElem?_map, hget]
    exact ⟨_, _, rfl, rfl, pointOf_counts project t _⟩
  · exact sum_points Counters.totalRequestsHom (fun day => (pointOf_counts project t day).1) today days
  · exact sum_points Counters.successRequestsHom (fun day => (pointOf_counts project t day).2.1) today
      days
  · exact sum_points Counters.failedRequestsHom (fun day => (pointOf_counts project t day).2.2.1) today
      days
  · exact sum_points Counters.timeoutRequestsHom
      (fun day => (pointOf_counts project t day).2.2.2) today
      days
  · rcases List.mem_map.mp hpoint with ⟨index, -, rfl⟩
    have hrate := pointOf_successRate (hsums _) hle
    have hwhole : ∀ n ≤ 100, (ofInteger binary64 (n : Nat)).IsWhole n := fun n hn =>
      Number.isWhole_ofInteger (hn.trans (by decide)) binary64_roomy
    exact ⟨hrate.nonneg (hwhole 0 (by decide)), hrate.le (hwhole 100 (by decide))⟩

end

/-- Two successes of the leap day. -/
def leapTable : Table RpcKey Counters :=
  upsert ⟨21243, "billing", "quote", "device-a"⟩ ⟨2, 2, 0, 0, 30, 20⟩ ∅

theorem fits_leapTable (day : Day) : Fits (daySums none leapTable day) := by
  rw [daySums, leapTable, total_upsert, total_empty, zero_add]
  split
  · decide
  · decide

theorem trend_complete_sample :
    ∃ points, trend id leapTable 1835568000000 (fun _ => 1835568000000) 3 none = some points ∧
      points.map (·.statDate) = [lit "2028-02-29", lit "2028-03-01", lit "2028-03-02"] := by
  have hday : dayOf ((1835568000000 : Timestamp) : Int) = 21245 := by decide
  rcases @trend_complete none leapTable id (fun _ => .refl _) (by decide) 3 (by decide)
    1835568000000 (fun _ => 1835568000000) 21245 (fun _ _ => hday) hday.le (by decide) (by decide)
    fits_leapTable with ⟨points, htrend, hdates, -⟩
  refine ⟨points, htrend, hdates.trans ?_⟩
  decide +kernel

/-- Asked for more days than there are dates, the statement fails. -/
theorem longTrend_fails : ¬ ∀ arrange t cutoffNow loopNow days project today,
    (∀ rows, (arrange rows).Perm rows) → 1 ≤ days →
    (∀ daysAgo < days, dayOf ((loopNow daysAgo : Timestamp) : Int) = today) →
    dayOf ((cutoffNow : Timestamp) : Int) ≤ today → (∀ day, Fits (daySums project t day)) →
    (trend arrange t cutoffNow loopNow days project).isSome = true := by
  intro h
  have hfits : ∀ day, Fits (daySums none ∅ day) := by
    intro day
    rw [daySums, total_empty]
    decide
  have hsome := h id ∅ 1835568000000 (fun _ => 1835568000000) 800000 none 21245 (fun _ => .refl _)
    (by decide) (fun _ _ => by decide) (by decide) hfits
  have hcutoff : (utcDateDaysAgo 1835568000000 (800000 - 1)).bind pgDate = none := by decide +kernel
  rw [trend, hcutoff] at hsome
  cases hsome

end Metrics
end R2RPC
