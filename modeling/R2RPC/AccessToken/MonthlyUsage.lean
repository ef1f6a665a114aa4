import R2RPC.Basic
import R2RPC.Library.DateText

/-!
# Monthly usage of an access token

The columns of a live row of {lit}`access_tokens` that count its calls, the statements that
write them with the month of the database clock, and the count that {lit}`list` shows with
the month of its own clock.  The month is reset by whichever statement comes next.

Main results:

- Theorem {lit}`monthlyUsageCount_shown`: after any calls the count of the month is shown, as
  far as the columns can hold it.
- Theorem {lit}`tenThousand_uncounted`: a call that no column holds.

Current gaps:

- The token stays alive, and both clocks are one.
-/

namespace R2RPC
namespace AccessToken

open Utf16 Binary Calendar

/-! ## The columns -/

/-- The counters of a row. -/
structure UsageRow where
  usageCount : Nat
  monthlyUsageCount : Nat
  usagePeriod : Option JsString
deriving DecidableEq, Repr

/-- The greatest `integer`. -/
def maximumInteger : Nat := 2147483647

/-- Assignment to `integer`. -/
def integerColumn (count : Nat) : Option Nat := if count ≤ maximumInteger then some count else none

/-- Assignment to `varchar(7)`, of a text without blanks. -/
def usagePeriodColumn (text : JsString) : Option JsString :=
  if text.length ≤ 7 then some text else none

/-- `to_char(now() AT TIME ZONE 'UTC', 'YYYY-MM')`. -/
def CURRENT_USAGE_PERIOD (now : Timestamp) : JsString :=
  pad 4 (gregorian.dateOf (dayOf now)).year.toNat ++ 45 :: pad 2 (gregorian.dateOf (dayOf now)).month

/-- `toISOString().slice(0, 7)`. -/
def currentUsagePeriodKey (now : Timestamp) : JsString := (toISOString now).take 7

namespace UsageRow

variable (row : UsageRow)

/-- What `list` shows. -/
def currentMonthlyUsage (now : Timestamp) : Nat :=
  if row.usagePeriod = some (currentUsagePeriodKey now) then row.monthlyUsageCount else 0

/-- The `UPDATE` of `recordMonthlyUsage`, unless it fails. -/
def recordMonthlyUsage (now : Timestamp) : Option UsageRow := do
  let monthlyUsageCount ← integerColumn
    (if row.usagePeriod = some (CURRENT_USAGE_PERIOD now) then row.monthlyUsageCount + 1 else 1)
  let usagePeriod ← usagePeriodColumn (CURRENT_USAGE_PERIOD now)
  return { row with monthlyUsageCount, usagePeriod := some usagePeriod }

/-- The `UPDATE` of `resetUsage`, unless it fails. -/
def resetUsage (now : Timestamp) : Option UsageRow := do
  let usagePeriod ← usagePeriodColumn (CURRENT_USAGE_PERIOD now)
  return { usageCount := 0, monthlyUsageCount := 0, usagePeriod := some usagePeriod }

end UsageRow

/-! ## Calls -/

/-- A call with the clock that it finds. -/
inductive UsageCall where
  | recordMonthlyUsage (now : Timestamp)
  | resetUsage (now : Timestamp)
deriving DecidableEq, Repr

namespace UsageCall

def now : UsageCall → Timestamp
  | recordMonthlyUsage now => now
  | resetUsage now => now

def isRecord : UsageCall → Bool
  | recordMonthlyUsage _ => true
  | resetUsage _ => false

end UsageCall

/-- The row after a call; a statement that fails leaves it. -/
def UsageRow.call (row : UsageRow) : UsageCall → UsageRow
  | .recordMonthlyUsage now => (row.recordMonthlyUsage now).getD row
  | .resetUsage now => (UsageRow.resetUsage now).getD row

def UsageRow.run (row : UsageRow) (calls : List UsageCall) : UsageRow := calls.foldl UsageRow.call row

/-- Two moments of one month in UTC. -/
def SameMonth (time other : Timestamp) : Prop :=
  (gregorian.dateOf (dayOf time)).year = (gregorian.dateOf (dayOf other)).year ∧
    (gregorian.dateOf (dayOf time)).month = (gregorian.dateOf (dayOf other)).month

instance (time other : Timestamp) : Decidable (SameMonth time other) :=
  inferInstanceAs (Decidable (_ ∧ _))

/-- The calls behind the last reset, from the last one on. -/
def sinceReset (calls : List UsageCall) : List UsageCall := calls.reverse.takeWhile (·.isRecord)

/-- The calls of `recordMonthlyUsage` in the month of a moment, behind the last reset. -/
def recordedIn (time : Timestamp) (calls : List UsageCall) : Nat :=
  (sinceReset calls).countP fun call => decide (SameMonth call.now time)

/-- 10000-01-01. -/
def tenThousand : Timestamp := 253402300800000

/-! ## Months as texts -/

section

variable {now time : Timestamp}

theorem year_lt_iff (now : Timestamp) :
    (gregorian.dateOf (dayOf now)).year < 10000 ↔ now < tenThousand := by
  have hfirst : (0 : Int) ≤ now := Int.natCast_nonneg now
  have hyear := fourDigit_year_iff now
  have hpositive : 0 ≤ (gregorian.dateOf (dayOf now)).year := by
    rw [YearRule.dateOf_year, ← gregorian.firstDay_le_iff]
    simp only [gregorian, dayOf, millisecondsPerDay]
    omega
  have hmilliseconds : ((now : Int) < 253402300800000) ↔ now < tenThousand :=
    Int.ofNat_lt (m := 253402300800000)
  rw [← hmilliseconds]
  constructor
  · exact fun h => (hyear.mp ⟨hpositive, h⟩).2
  · exact fun h => (hyear.mpr ⟨by omega, h⟩).2

theorem year_nonneg (now : Timestamp) : 0 ≤ (gregorian.dateOf (dayOf now)).year := by
  rw [YearRule.dateOf_year, ← gregorian.firstDay_le_iff]
  simp only [gregorian, dayOf, millisecondsPerDay]
  omega

/-- A year of four digits fits its column. -/
theorem usagePeriodColumn_eq (now : Timestamp) :
    usagePeriodColumn (CURRENT_USAGE_PERIOD now) =
      if now < tenThousand then some (CURRENT_USAGE_PERIOD now) else none := by
  have hmonth := (gregorian.isDate_dateOf (dayOf now)).lt.1
  have hpositive := year_nonneg now
  have hmonthLength : (pad 2 (gregorian.dateOf (dayOf now)).month).length = 2 :=
    pad_length (by omega) hmonth
  have hlength : (CURRENT_USAGE_PERIOD now).length ≤ 7 ↔ now < tenThousand := by
    rw [← year_lt_iff, CURRENT_USAGE_PERIOD, List.length_append, List.length_cons, hmonthLength]
    constructor
    · intro h
      by_contra hlong
      have hyearLength : 4 < (pad 4 (gregorian.dateOf (dayOf now)).year.toNat).length :=
        lt_pad_length (by omega) (by omega)
      omega
    · intro h
      rw [pad_length (by omega) (by omega)]
  simp only [usagePeriodColumn, hlength]

/-- Both clocks write the same month. -/
theorem currentUsagePeriodKey_eq (h : now < tenThousand) :
    currentUsagePeriodKey now = CURRENT_USAGE_PERIOD now := by
  have hmonth := (gregorian.isDate_dateOf (dayOf now)).lt.1
  have hpositive := year_nonneg now
  have hyear := (year_lt_iff now).mpr h
  obtain ⟨rest, hrest⟩ : ∃ rest, toISOString now = CURRENT_USAGE_PERIOD now ++ rest := by
    rw [toISOString]
    simp only [hpositive, hyear, and_self, if_true, CURRENT_USAGE_PERIOD, behindYear,
      List.append_assoc, List.cons_append]
    exact ⟨_, rfl⟩
  have hlength : (CURRENT_USAGE_PERIOD now).length = 7 := by
    rw [CURRENT_USAGE_PERIOD, List.length_append, List.length_cons, pad_length (by omega) (by omega),
      pad_length (by omega) (by omega)]
  rw [currentUsagePeriodKey, hrest, List.take_left' hlength]

/-- From the year 10000 on a key begins with a sign. -/
theorem currentUsagePeriodKey_ne (h : ¬ now < tenThousand) (other : Timestamp) :
    CURRENT_USAGE_PERIOD other ≠ currentUsagePeriodKey now := by
  rw [← year_lt_iff] at h
  have hpositive := year_nonneg now
  have hsign : (currentUsagePeriodKey now).head? = some 43 := by
    rw [currentUsagePeriodKey, toISOString]
    simp [h, show ¬ (gregorian.dateOf (dayOf now)).year < 0 by omega]
  have hdigit : ∀ unit ∈ (CURRENT_USAGE_PERIOD other).head?, isDigit unit = true := by
    intro unit hunit
    cases hpad : pad 4 (gregorian.dateOf (dayOf other)).year.toNat with
    | nil =>
        have hnil := congrArg List.length hpad
        simp [pad, decimal_ne_nil] at hnil
    | cons first rest =>
        rw [CURRENT_USAGE_PERIOD, hpad] at hunit
        obtain rfl := Option.some.inj hunit
        exact isDigit_of_mem_pad (hpad ▸ List.mem_cons_self)
  intro heq
  rw [heq, hsign] at hdigit
  exact absurd (hdigit 43 rfl) (by decide)

theorem period_eq_iff (hnow : now < tenThousand) (htime : time < tenThousand) :
    CURRENT_USAGE_PERIOD now = CURRENT_USAGE_PERIOD time ↔ SameMonth now time := by
  have hpositive := year_nonneg now
  have hpositive' := year_nonneg time
  rw [← year_lt_iff] at hnow htime
  constructor
  · intro heq
    have hlength : (pad 4 (gregorian.dateOf (dayOf now)).year.toNat).length =
        (pad 4 (gregorian.dateOf (dayOf time)).year.toNat).length := by
      rw [pad_length (by omega) (by omega), pad_length (by omega) (by omega)]
    rcases List.append_inj heq hlength with ⟨hyear, hmonth⟩
    have hyear := congrArg digitsValue hyear
    have hmonth := congrArg digitsValue (List.cons.inj hmonth).2
    rw [digitsValue_pad, digitsValue_pad] at hyear hmonth
    exact ⟨by omega, hmonth⟩
  · rintro ⟨hyear, hmonth⟩
    rw [CURRENT_USAGE_PERIOD, CURRENT_USAGE_PERIOD, hyear, hmonth]

end

/-! ## What is shown -/

section

variable {row : UsageRow} {now time : Timestamp} {calls : List UsageCall}

theorem recordedIn_record (calls : List UsageCall) (now time : Timestamp) :
    recordedIn time (calls ++ [.recordMonthlyUsage now]) =
      recordedIn time calls + if SameMonth now time then 1 else 0 := by
  by_cases hmonth : SameMonth now time <;>
    simp [recordedIn, sinceReset, UsageCall.isRecord, UsageCall.now, hmonth]

theorem recordedIn_reset (calls : List UsageCall) (now time : Timestamp) :
    recordedIn time (calls ++ [.resetUsage now]) = 0 := by
  simp [recordedIn, sinceReset, UsageCall.isRecord]

/-- A month that lies behind a moment has no calls before it. -/
theorem recordedIn_later (hcalls : ∀ call ∈ calls, call.now ≤ now) (htime : now ≤ time)
    (hmonth : ¬ SameMonth now time) : recordedIn time calls = 0 := by
  refine List.countP_eq_zero.mpr fun call hcall => ?_
  have hmem : call ∈ calls := by
    have hprefix : call ∈ calls.reverse := (List.takeWhile_sublist _).subset hcall
    exact List.mem_reverse.mp hprefix
  have hfirst : dayOf call.now ≤ dayOf now :=
    Int.ediv_le_ediv (by decide) (Int.ofNat_le.mpr (hcalls call hmem))
  have hlast : dayOf now ≤ dayOf time := Int.ediv_le_ediv (by decide) (Int.ofNat_le.mpr htime)
  rw [decide_eq_true_eq]
  exact fun hsame => hmonth (gregorian.month_between hfirst hlast hsame.1 hsame.2)

theorem recordedIn_sameMonth (hmonth : SameMonth now time) (calls : List UsageCall) :
    recordedIn now calls = recordedIn time calls := by
  refine List.countP_congr fun call _ => ?_
  rw [decide_eq_true_eq, decide_eq_true_eq, SameMonth, SameMonth, hmonth.1, hmonth.2]

theorem currentMonthlyUsage_eq (h : now < tenThousand) : row.currentMonthlyUsage now =
    if row.usagePeriod = some (CURRENT_USAGE_PERIOD now) then row.monthlyUsageCount else 0 := by
  rw [UsageRow.currentMonthlyUsage, currentUsagePeriodKey_eq h]

/-- A call counts on from what is shown when it comes. -/
theorem recordMonthlyUsage_eq (h : now < tenThousand) : row.recordMonthlyUsage now =
    if row.currentMonthlyUsage now < maximumInteger then
      some ⟨row.usageCount, row.currentMonthlyUsage now + 1, some (CURRENT_USAGE_PERIOD now)⟩
    else none := by
  have hcount : (if row.usagePeriod = some (CURRENT_USAGE_PERIOD now) then row.monthlyUsageCount + 1
      else 1) = row.currentMonthlyUsage now + 1 := by
    rw [currentMonthlyUsage_eq h]
    split <;> rfl
  rw [UsageRow.recordMonthlyUsage, usagePeriodColumn_eq, if_pos h, hcount, integerColumn]
  split_ifs with hfits hless hless
  · rfl
  · omega
  · omega
  · rfl

theorem resetUsage_eq (h : now < tenThousand) :
    UsageRow.resetUsage now = some ⟨0, 0, some (CURRENT_USAGE_PERIOD now)⟩ := by
  rw [UsageRow.resetUsage, usagePeriodColumn_eq, if_pos h]
  rfl

/-- From the year 10000 on no statement passes. -/
theorem call_late (call : UsageCall) (h : ¬ call.now < tenThousand) : row.call call = row := by
  cases call with
  | recordMonthlyUsage now =>
      have hperiod := usagePeriodColumn_eq now
      rw [if_neg (show ¬ now < tenThousand from h)] at hperiod
      simp only [UsageRow.call, UsageRow.recordMonthlyUsage, hperiod]
      cases integerColumn _ <;> rfl
  | resetUsage now =>
      have hperiod := usagePeriodColumn_eq now
      rw [if_neg (show ¬ now < tenThousand from h)] at hperiod
      simp [UsageRow.call, UsageRow.resetUsage, hperiod]

/-- What a row has counted of some calls: the month of any moment that is not before them, and
nothing else. -/
structure Counted (calls : List UsageCall) (row : UsageRow) : Prop where
  shown : ∀ time < tenThousand, (∀ call ∈ calls, call.now ≤ time) →
    row.currentMonthlyUsage time = min (recordedIn time calls) maximumInteger
  period : ∀ text ∈ row.usagePeriod, ∃ now, text = CURRENT_USAGE_PERIOD now

theorem counted_nil (h : row.usagePeriod = none) : Counted [] row where
  shown time _ _ := by simp [UsageRow.currentMonthlyUsage, h, recordedIn, sinceReset]
  period text htext := by simp [h] at htext

/-- A row that is written shows nothing but the month it is written in. -/
theorem shown_written {count usageCount : Nat} (hnow : now < tenThousand)
    (htime : time < tenThousand) :
    UsageRow.currentMonthlyUsage ⟨usageCount, count, some (CURRENT_USAGE_PERIOD now)⟩ time =
      if SameMonth now time then count else 0 := by
  rw [currentMonthlyUsage_eq htime]
  simp only [Option.some.injEq, period_eq_iff hnow htime]

theorem Counted.record (h : Counted calls row) (hcalls : ∀ call ∈ calls, call.now ≤ now) :
    Counted (calls ++ [.recordMonthlyUsage now]) (row.call (.recordMonthlyUsage now)) := by
  by_cases hnow : now < tenThousand
  · have hbefore := h.shown now hnow hcalls
    rw [UsageRow.call, recordMonthlyUsage_eq hnow]
    by_cases hless : row.currentMonthlyUsage now < maximumInteger
    · rw [if_pos hless, Option.getD_some]
      refine ⟨fun time htime hlast => ?_, fun text htext => ⟨now, (Option.some.inj htext).symm⟩⟩
      have hnowTime : now ≤ time := hlast (.recordMonthlyUsage now) (by simp)
      rw [shown_written hnow htime, recordedIn_record]
      by_cases hmonth : SameMonth now time
      · rw [if_pos hmonth, if_pos hmonth, ← recordedIn_sameMonth hmonth]
        omega
      · rw [if_neg hmonth, if_neg hmonth, recordedIn_later hcalls hnowTime hmonth]
        rfl
    · rw [if_neg hless, Option.getD_none]
      refine ⟨fun time htime hlast => ?_, h.period⟩
      have hshown := h.shown time htime fun call hcall =>
        hlast call (List.mem_append_left _ hcall)
      have hnowTime : now ≤ time := hlast (.recordMonthlyUsage now) (by simp)
      rw [hshown, recordedIn_record]
      by_cases hmonth : SameMonth now time
      · rw [if_pos hmonth, ← recordedIn_sameMonth hmonth]
        omega
      · rw [if_neg hmonth, Nat.add_zero]
  · rw [call_late (.recordMonthlyUsage now) hnow]
    refine ⟨fun time htime hlast => ?_, h.period⟩
    have hnowTime : now ≤ time := hlast (.recordMonthlyUsage now) (by simp)
    exact absurd (lt_of_le_of_lt hnowTime htime) hnow

theorem Counted.reset (h : Counted calls row) :
    Counted (calls ++ [.resetUsage now]) (row.call (.resetUsage now)) := by
  by_cases hnow : now < tenThousand
  · rw [UsageRow.call, resetUsage_eq hnow, Option.getD_some]
    refine ⟨fun time htime hlast => ?_, fun text htext => ⟨now, (Option.some.inj htext).symm⟩⟩
    rw [shown_written hnow htime, recordedIn_reset]
    simp
  · rw [call_late (.resetUsage now) hnow]
    refine ⟨fun time htime hlast => ?_, h.period⟩
    have hnowTime : now ≤ time := hlast (.resetUsage now) (by simp)
    exact absurd (lt_of_le_of_lt hnowTime htime) hnow

/-- Calls one after the other are counted. -/
theorem counted_run (hfresh : row.usagePeriod = none)
    (hordered : calls.Pairwise fun call later => call.now ≤ later.now) :
    Counted calls (row.run calls) := by
  induction calls using List.reverseRecOn with
  | nil => exact counted_nil hfresh
  | append_singleton calls call ih =>
      rw [List.pairwise_append] at hordered
      have hbefore : ∀ earlier ∈ calls, earlier.now ≤ call.now := fun earlier hearlier =>
        hordered.2.2 earlier hearlier call (by simp)
      have hlast : row.run (calls ++ [call]) = (row.run calls).call call := List.foldl_concat ..
      rw [hlast]
      cases call with
      | recordMonthlyUsage now => exact (ih hordered.1).record hbefore
      | resetUsage now => exact (ih hordered.1).reset

end

/-- Whatever has been called, the calls of the month behind the last reset are shown, up to the
greatest integer and the last year of four digits; a reset leaves both counters 0. -/
theorem monthlyUsageCount_shown {row : UsageRow} (hfresh : row.usagePeriod = none)
    {calls : List UsageCall} (hordered : calls.Pairwise fun call later => call.now ≤ later.now) :
    (∀ time, (∀ call ∈ calls, call.now ≤ time) →
      (row.run calls).currentMonthlyUsage time =
        if time < tenThousand then min (recordedIn time calls) maximumInteger else 0) ∧
    ∀ now < tenThousand, UsageRow.resetUsage now = some ⟨0, 0, some (CURRENT_USAGE_PERIOD now)⟩ := by
  have hcounted := counted_run hfresh hordered
  refine ⟨fun time hlast => ?_, fun now hnow => resetUsage_eq hnow⟩
  split_ifs with htime
  · exact hcounted.shown time htime hlast
  · rw [UsageRow.currentMonthlyUsage, if_neg]
    intro heq
    rcases hcounted.period _ heq with ⟨now, hnow⟩
    exact currentUsagePeriodKey_ne htime now hnow.symm

/-- Two calls in January, one in March, one after a reset in March, seen in March and in May. -/
def sampleCalls : List UsageCall :=
  [.recordMonthlyUsage 1767225600000, .recordMonthlyUsage 1769903999999,
    .recordMonthlyUsage 1772323200000, .resetUsage 1772323200001, .recordMonthlyUsage 1772323200002]

theorem monthlyUsageCount_shown_sample :
    ((UsageRow.mk 0 0 none).run sampleCalls).currentMonthlyUsage 1774000000000 = 1 ∧
      ((UsageRow.mk 0 0 none).run sampleCalls).currentMonthlyUsage 1778000000000 = 0 := by
  have hshown := (monthlyUsageCount_shown (show (UsageRow.mk 0 0 none).usagePeriod = none from rfl)
    (show sampleCalls.Pairwise _ by decide)).1
  rw [hshown 1774000000000 (by decide), hshown 1778000000000 (by decide)]
  decide

/-- The first call of the year 10000 is not counted: its month has eight characters. -/
theorem tenThousand_uncounted :
    ((UsageRow.mk 0 0 none).run [.recordMonthlyUsage tenThousand]).currentMonthlyUsage tenThousand =
        0 ∧
      recordedIn tenThousand [.recordMonthlyUsage tenThousand] = 1 := by
  decide +kernel

end AccessToken
end R2RPC
