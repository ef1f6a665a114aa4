import Mathlib.Data.Int.ConditionallyCompleteOrder
import Mathlib.Order.Monotone.Basic
import Mathlib.Order.SuccPred.IntervalSucc
import Mathlib.Tactic.IntervalCases
import R2RPC.Library.NumberText

/-!
# Calendars and timestamps

Days since 1970 and their dates, for any rule that says where a year begins and whether it
is a leap year, with the Gregorian and the Julian rule; and the timestamps of ISO 8601 that
are written with milliseconds in UTC.

Main results:

- Structure {lit}`YearRule`: a calendar, up to the lengths of its months.
- Theorem {lit}`YearRule.isDate_dateOf`: every day has a date of its calendar.
- Theorem {lit}`YearRule.firstDay_le_iff`: a day and the year it belongs to.
- Theorem {lit}`readDigits_pad`: a padded number is read back.

Current gaps:

- Leap seconds do not exist, as in POSIX time.
-/

namespace Calendar

open Utf16 Binary

/-! ## Years -/

/-- Where the years of a calendar begin, in days since 1970-01-01. -/
structure YearRule where
  firstDay : Int → Int
  leap : Int → Bool
  next : ∀ year, firstDay (year + 1) = firstDay year + 365 + if leap year then 1 else 0
  yearOf : Int → Int
  yearOf_spec : ∀ day, firstDay (yearOf day) ≤ day ∧ day < firstDay (yearOf day + 1)

/-- `DayFromYear` and `YearFromTime` of ECMAScript: the proleptic Gregorian calendar. -/
def gregorian : YearRule where
  firstDay year := 365 * (year - 1970) + (year - 1969) / 4 - (year - 1901) / 100 + (year - 1601) / 400
  leap year := decide (year % 4 = 0 ∧ (year % 100 ≠ 0 ∨ year % 400 = 0))
  next year := by
    simp only [decide_eq_true_eq]
    split <;> omega
  yearOf day :=
    let estimate := 1970 + 400 * day / 146097
    let first year :=
      365 * (year - 1970) + (year - 1969) / 4 - (year - 1901) / 100 + (year - 1601) / 400
    if day < first estimate then estimate - 1
    else if first (estimate + 1) ≤ day then estimate + 1
    else estimate
  yearOf_spec day := by
    dsimp only
    split_ifs
    · rw [sub_add_cancel]
      omega
    · omega
    · omega

/-- The Julian calendar. -/
def julian : YearRule where
  firstDay year := 365 * (year - 1) + (year - 1) / 4 - 719164
  leap year := decide (year % 4 = 0)
  next year := by
    simp only [decide_eq_true_eq]
    split <;> omega
  yearOf day := (4 * (day + 719164) + 3) / 1461 + 1
  yearOf_spec day := by omega

namespace YearRule

variable (rule : YearRule)

theorem firstDay_mono : Monotone rule.firstDay := by
  refine monotone_int_of_le_succ fun year => ?_
  have hnext := rule.next year
  split at hnext <;> omega

/-- A day lies behind the beginning of a year exactly when its own year does. -/
theorem firstDay_le_iff (year day : Int) : rule.firstDay year ≤ day ↔ year ≤ rule.yearOf day := by
  rcases rule.yearOf_spec day with ⟨hfirst, hlast⟩
  constructor
  · intro h
    by_contra hlater
    have hle : rule.firstDay (rule.yearOf day + 1) ≤ rule.firstDay year :=
      rule.firstDay_mono (by omega)
    omega
  · intro h
    exact le_trans (rule.firstDay_mono h) hfirst

/-! ## Months -/

/-- Days of the twelve months. -/
def monthLengths (leap : Bool) : List Nat :=
  [31, if leap then 29 else 28, 31, 30, 31, 30, 31, 31, 30, 31, 30, 31]

theorem monthLengths_le {leap : Bool} : ∀ length ∈ monthLengths leap, length ≤ 31 := by
  cases leap <;> decide

end YearRule

/-- The month, counted from the given one, and the day of the month. -/
def monthDay : List Nat → Nat → Nat → Nat × Nat
  | [], month, day => (month, day + 1)
  | length :: lengths, month, day =>
      if day < length then (month, day + 1) else monthDay lengths (month + 1) (day - length)

/-- A day of the listed months has a place in one of them. -/
theorem monthDay_spec {lengths : List Nat} {day : Nat} (h : day < lengths.sum) (month : Nat) :
    ∃ index length, lengths[index]? = some length ∧
      (monthDay lengths month day).1 = month + index ∧
      1 ≤ (monthDay lengths month day).2 ∧ (monthDay lengths month day).2 ≤ length := by
  induction lengths generalizing day month with
  | nil => simp at h
  | cons length lengths ih =>
      rw [monthDay]
      split
      · exact ⟨0, length, rfl, rfl, by simp, by omega⟩
      · rw [List.sum_cons] at h
        have hrest : day - length < lengths.sum := by omega
        rcases ih hrest (month + 1) with ⟨index, len, hlen, hmonth, hday⟩
        exact ⟨index + 1, len, hlen, by omega, hday⟩

/-- A date. -/
structure Date where
  year : Int
  month : Nat
  day : Nat
deriving DecidableEq, Repr

namespace YearRule

variable (rule : YearRule)

/-- The date exists in the calendar. -/
def IsDate (date : Date) : Prop :=
  1 ≤ date.month ∧ 1 ≤ date.day ∧
    date.day ≤ (monthLengths (rule.leap date.year))[date.month - 1]?.getD 0

instance (date : Date) : Decidable (rule.IsDate date) := inferInstanceAs (Decidable (_ ∧ _))

/-- Date of a day since 1970-01-01. -/
def dateOf (day : Int) : Date :=
  let year := rule.yearOf day
  let (month, dayOfMonth) :=
    monthDay (monthLengths (rule.leap year)) 1 (day - rule.firstDay year).toNat
  ⟨year, month, dayOfMonth⟩

/-- Every day has a date of its calendar. -/
theorem isDate_dateOf (day : Int) : rule.IsDate (rule.dateOf day) := by
  rcases rule.yearOf_spec day with ⟨hfirst, hlast⟩
  rw [rule.next] at hlast
  have hday : (day - rule.firstDay (rule.yearOf day)).toNat <
      (monthLengths (rule.leap (rule.yearOf day))).sum := by
    cases hleap : rule.leap (rule.yearOf day) <;>
      simp only [hleap, monthLengths, List.sum_cons, List.sum_nil, if_true, Bool.false_eq_true,
        if_false] at hlast ⊢ <;> omega
  rcases monthDay_spec hday 1 with ⟨index, length, hlength, hmonth, hone, hle⟩
  have hindex : (rule.dateOf day).month - 1 = index := by
    simp only [dateOf]
    omega
  refine ⟨?_, hone, ?_⟩
  · simp only [dateOf]
    omega
  · rw [hindex]
    simpa only [dateOf, hlength, Option.getD_some] using hle

theorem dateOf_year (day : Int) : (rule.dateOf day).year = rule.yearOf day := rfl

/-- Months and days have two digits. -/
theorem IsDate.lt {date : Date} (h : rule.IsDate date) : date.month < 100 ∧ date.day < 100 := by
  rcases h with ⟨hmonth, hday, hle⟩
  have hindex : date.month - 1 < 12 := by
    by_contra hover
    rw [List.getElem?_eq_none (by simpa [monthLengths] using hover), Option.getD_none] at hle
    omega
  have hlength : (monthLengths (rule.leap date.year))[date.month - 1]?.getD 0 ≤ 31 := by
    rw [List.getElem?_eq_getElem (by simpa [monthLengths] using hindex), Option.getD_some]
    exact monthLengths_le _ (List.getElem_mem _)
  omega

/-- Calendars differ in the end of February only. -/
theorem day_le_monthLength {leap : Bool} {month day : Nat} (hmonth : 1 ≤ month) (hday : 1 ≤ day)
    (h : day ≤ (monthLengths leap)[month - 1]?.getD 0) (leap' : Bool) :
    day ≤ (monthLengths leap')[month - 1]?.getD 0 ↔
      (month = 2 → day = 29 → leap' = true) := by
  have hlast : month ≤ 12 := by
    by_contra hover
    rw [List.getElem?_eq_none (by simp [monthLengths]; omega), Option.getD_none] at h
    omega
  interval_cases month <;> cases leap <;> cases leap' <;>
    simp [monthLengths] at h ⊢ <;> omega

theorem isDate_iff {rule other : YearRule} {date : Date} (h : rule.IsDate date) (year : Int) :
    other.IsDate ⟨year, date.month, date.day⟩ ↔
      (date.month = 2 → date.day = 29 → other.leap year = true) := by
  rcases h with ⟨hmonth, hday, hle⟩
  rw [IsDate, ← day_le_monthLength hmonth hday hle]
  simp [hmonth, hday]

end YearRule

/-! ## Times of day -/

/-- Milliseconds of a day. -/
def millisecondsPerDay : Int := 86400000

/-- `Day`. -/
def dayOf (time : Int) : Int := time / millisecondsPerDay

/-- `TimeWithinDay`. -/
def timeWithinDay (time : Int) : Nat := (time % millisecondsPerDay).toNat

theorem timeWithinDay_lt (time : Int) : timeWithinDay time < 86400000 := by
  unfold timeWithinDay millisecondsPerDay
  omega

/-! ## Padded numbers -/

/-- A number with leading zeros up to a width. -/
def pad (width n : Nat) : JsString :=
  List.replicate (width - (decimal n).length) 48 ++ decimal n

theorem isDigit_of_mem_pad {width n : Nat} {unit : UInt16} (h : unit ∈ pad width n) :
    isDigit unit = true := by
  rcases List.mem_append.mp h with hzero | hdigit
  · rw [List.eq_of_mem_replicate hzero]
    decide
  · exact isDigit_of_mem_decimal hdigit

theorem digitsValue_pad (width n : Nat) : digitsValue (pad width n) = n := by
  rw [pad, digitsValue_append, digitsValue_zeros, digitsValue_decimal]
  simp

theorem pad_length {width n : Nat} (hwidth : 0 < width) (h : n < 10 ^ width) :
    (pad width n).length = width := by
  have hle := decimal_length_le hwidth h
  rw [pad, List.length_append, List.length_replicate]
  omega

/-- As many digits as asked for, from the front of a text. -/
def readDigits (width : Nat) (text : JsString) : Option (Nat × JsString) :=
  if (text.take width).length = width ∧ (text.take width).all isDigit = true then
    some (digitsValue (text.take width), text.drop width)
  else none

/-- A padded number is read back. -/
theorem readDigits_pad {width n : Nat} (hwidth : 0 < width) (h : n < 10 ^ width)
    (rest : JsString) : readDigits width (pad width n ++ rest) = some (n, rest) := by
  have hlength := pad_length hwidth h
  have htake : (pad width n ++ rest).take width = pad width n := List.take_left' hlength
  have hdrop : (pad width n ++ rest).drop width = rest := List.drop_left' hlength
  have hall : (pad width n).all isDigit = true :=
    List.all_eq_true.mpr fun _ hunit => isDigit_of_mem_pad hunit
  rw [readDigits, htake, hdrop, if_pos ⟨hlength, hall⟩, digitsValue_pad]

/-- Nothing is read where no digit stands. -/
theorem readDigits_cons {unit : UInt16} (h : isDigit unit = false) (width : Nat)
    (rest : JsString) : readDigits (width + 1) (unit :: rest) = none := by
  simp [readDigits, h]

theorem lt_pad_length {width n : Nat} (hwidth : 0 < width) (h : 10 ^ width ≤ n) :
    width < (pad width n).length := by
  have hlong : ¬(decimal n).length ≤ width := by
    rw [decimal, List.length_map, Nat.length_toDigits_le_iff (by omega) hwidth]
    omega
  rw [pad, List.length_append]
  omega

/-- Behind the width of a number that does not fit it stands another digit. -/
theorem readDigits_long {width n : Nat} (hwidth : 0 < width) (h : 10 ^ width ≤ n) (rest : JsString)
    (found : Nat) (behind : JsString) :
    readDigits width (pad width n ++ rest) ≠ some (found, 45 :: behind) := by
  intro hread
  unfold readDigits at hread
  split_ifs at hread
  have hlength := lt_pad_length hwidth h
  have hdrop : (pad width n ++ rest).drop width = 45 :: behind :=
    (Prod.mk.inj (Option.some.inj hread)).2
  have hhead := congrArg (·[0]?) hdrop
  rw [List.getElem?_drop, List.getElem?_append_left (by omega), List.getElem?_cons_zero] at hhead
  exact absurd (isDigit_of_mem_pad (List.mem_of_getElem? hhead)) (by decide)

/-! ## Timestamps -/

/-- `YYYY-MM-DDTHH:mm:ss.sssZ` behind the year. -/
def behindYear (month day time : Nat) : JsString :=
  45 :: (pad 2 month ++ 45 :: (pad 2 day ++ 84 :: (pad 2 (time / 3600000) ++ 58 ::
    (pad 2 (time / 60000 % 60) ++ 58 :: (pad 2 (time / 1000 % 60) ++ 46 ::
      (pad 3 (time % 1000) ++ [90]))))))

/-- `toISOString`: years outside four digits are written with a sign and six digits. -/
def toISOString (time : Int) : JsString :=
  let date := gregorian.dateOf (dayOf time)
  let year :=
    if 0 ≤ date.year ∧ date.year < 10000 then pad 4 date.year.toNat
    else (if date.year < 0 then 45 else 43) :: pad 6 date.year.natAbs
  year ++ behindYear date.month date.day (timeWithinDay time)

/-- The years of four digits, in milliseconds. -/
theorem fourDigit_year_iff (time : Int) :
    (0 ≤ (gregorian.dateOf (dayOf time)).year ∧ (gregorian.dateOf (dayOf time)).year < 10000) ↔
      -62167219200000 ≤ time ∧ time < 253402300800000 := by
  rw [YearRule.dateOf_year, ← not_le, ← gregorian.firstDay_le_iff, ← gregorian.firstDay_le_iff]
  simp only [gregorian, dayOf, millisecondsPerDay]
  omega

/-! ## Reading timestamps -/

/-- The given unit, in front of a text. -/
def expect (unit : UInt16) : JsString → Option JsString
  | [] => none
  | first :: rest => if first = unit then some rest else none

/-- `Z` or `±hh:mm`, and nothing behind it. -/
def readOffset : JsString → Bool
  | [] => false
  | [90] => true
  | sign :: text =>
      (sign == 43 || sign == 45) &&
        (((readDigits 2 text).bind fun (hour, text) =>
          (expect 58 text).bind fun text =>
          (readDigits 2 text).map fun (minute, text) =>
            decide (hour < 24 ∧ minute < 60 ∧ text = [])).getD false)

/-- Optional seconds with an optional fraction, then the offset. -/
def readSeconds (text : JsString) : Bool :=
  match expect 58 text with
  | none => readOffset text
  | some text =>
      match readDigits 2 text with
      | none => false
      | some (second, text) =>
          decide (second < 60) &&
            match expect 46 text with
            | none => readOffset text
            | some text =>
                text.takeWhile isDigit != [] && readOffset (text.dropWhile isDigit)

/-- An ISO 8601 date and time of the Gregorian calendar, with an offset. -/
def isoDatetime (text : JsString) : Bool :=
  ((readDigits 4 text).bind fun (year, text) =>
    (expect 45 text).bind fun text =>
    (readDigits 2 text).bind fun (month, text) =>
    (expect 45 text).bind fun text =>
    (readDigits 2 text).bind fun (day, text) =>
    (expect 84 text).bind fun text =>
    (readDigits 2 text).bind fun (hour, text) =>
    (expect 58 text).bind fun text =>
    (readDigits 2 text).map fun (minute, text) =>
      decide (gregorian.IsDate ⟨year, month, day⟩ ∧ hour < 24 ∧ minute < 60) &&
        readSeconds text).getD false

theorem expect_cons (unit : UInt16) (rest : JsString) : expect unit (unit :: rest) = some rest :=
  if_pos rfl

theorem readSeconds_pad {second millisecond : Nat} (hsecond : second < 60)
    (hmillisecond : millisecond < 1000) :
    readSeconds (58 :: (pad 2 second ++ 46 :: (pad 3 millisecond ++ [90]))) = true := by
  have hdigits : ∀ unit ∈ pad 3 millisecond, isDigit unit = true := fun _ => isDigit_of_mem_pad
  have hlength : (pad 3 millisecond).length = 3 := pad_length (by omega) hmillisecond
  have hne : pad 3 millisecond ≠ [] := by
    intro hnil
    rw [hnil] at hlength
    contradiction
  have hspan : (pad 3 millisecond ++ [90]).takeWhile isDigit = pad 3 millisecond ∧
      (pad 3 millisecond ++ [90]).dropWhile isDigit = [90] :=
    takeWhile_digits hdigits (by simp [isDigit])
  simp only [readSeconds, expect_cons]
  rw [readDigits_pad (by omega) (by omega)]
  simp only [expect_cons]
  rw [hspan.1, hspan.2]
  simp [hsecond, hne, readOffset]

/-- What a check of timestamps has to get right: the years of four digits are those of the
Gregorian calendar, and no other text of a year passes. -/
structure ChecksTimestamps (datetime : JsString → Bool) : Prop where
  calendar : ∀ (date : Date) (time : Nat), 0 ≤ date.year → date.year < 10000 →
    date.month < 100 → date.day < 100 → time < 86400000 →
    (datetime (pad 4 date.year.toNat ++ behindYear date.month date.day time) = true ↔
      gregorian.IsDate date)
  fourDigits : ∀ text, datetime text = true →
    ∃ year rest, readDigits 4 text = some (year, 45 :: rest)

theorem checksTimestamps_isoDatetime : ChecksTimestamps isoDatetime where
  calendar := by
    intro date time hfirst hlast hmonth hday htime
    have hyear : date.year.toNat < 10 ^ 4 := by omega
    have hdate : (⟨date.year.toNat, date.month, date.day⟩ : Date) = date := by
      rw [Int.toNat_of_nonneg hfirst]
    simp only [isoDatetime, behindYear]
    rw [readDigits_pad (by omega) hyear]
    simp only [Option.bind_some, expect_cons]
    rw [readDigits_pad (by omega) (by omega)]
    simp only [Option.bind_some, expect_cons]
    rw [readDigits_pad (by omega) (by omega)]
    simp only [Option.bind_some, expect_cons]
    rw [readDigits_pad (by omega) (by omega)]
    simp only [Option.bind_some, expect_cons]
    rw [readDigits_pad (by omega) (by omega)]
    simp only [Option.map_some, Option.getD_some, hdate]
    rw [readSeconds_pad (by omega) (by omega)]
    have hhour : time / 3600000 < 24 := by omega
    have hminute : time / 60000 % 60 < 60 := by omega
    simp [hhour, hminute]
  fourDigits := by
    intro text h
    unfold isoDatetime at h
    cases hyear : readDigits 4 text with
    | none => simp [hyear] at h
    | some read =>
        rcases read with ⟨year, rest⟩
        cases rest with
        | nil => simp [hyear, expect] at h
        | cons unit rest =>
            by_cases hunit : unit = 45
            · exact ⟨year, rest, by rw [hunit]⟩
            · simp [hyear, expect, hunit] at h

/-- A checked timestamp has a year of four digits. -/
theorem ChecksTimestamps.toISOString_iff {datetime : JsString → Bool}
    (h : ChecksTimestamps datetime) (time : Int) :
    datetime (toISOString time) = true ↔ -62167219200000 ≤ time ∧ time < 253402300800000 := by
  have hdate := gregorian.isDate_dateOf (dayOf time)
  rcases hdate.lt with ⟨hmonth, hday⟩
  rw [← fourDigit_year_iff]
  constructor
  · intro hchecked
    by_contra hyear
    rcases h.fourDigits _ hchecked with ⟨year, rest, hread⟩
    simp only [toISOString, if_neg hyear, List.cons_append] at hread
    rw [readDigits_cons (by split <;> decide)] at hread
    contradiction
  · rintro ⟨hfirst, hlast⟩
    simp only [toISOString, hfirst, hlast, and_self, if_true]
    exact (h.calendar _ _ hfirst hlast hmonth hday (timeWithinDay_lt time)).mpr hdate

end Calendar
