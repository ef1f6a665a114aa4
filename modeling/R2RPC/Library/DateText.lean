import R2RPC.Library.Calendar

/-!
# Dates in texts

Days of a month that may lie outside it, as programs count back from today, and the first
ten characters of a timestamp, which a store reads as a date.

Main results:

- Theorems {lit}`YearRule.makeDay_dateOf` and {lit}`YearRule.dateOf_makeDay`: days and dates
  are the same.
- Theorem {lit}`YearRule.month_between`: the days of a month stand together.
- Theorem {lit}`pgDate_isoDate`: the day that a store reads from the date of a timestamp.

Current gaps:

- A store reads other texts as dates, too.
-/

namespace Calendar

open Utf16 Binary

/-! ## Days of a month -/

/-- The months in front of the found one hold the days that the day of the month leaves. -/
theorem monthDay_sum {lengths : List Nat} {day : Nat} (h : day < lengths.sum) (month : Nat) :
    month ≤ (monthDay lengths month day).1 ∧
      (lengths.take ((monthDay lengths month day).1 - month)).sum + (monthDay lengths month day).2 =
        day + 1 := by
  induction lengths generalizing day month with
  | nil => simp at h
  | cons length lengths ih =>
      rw [monthDay]
      split
      · simp
      · rw [List.sum_cons] at h
        have hrest : day - length < lengths.sum := by omega
        rcases ih hrest (month + 1) with ⟨hmonth, hsum⟩
        have hindex : (monthDay lengths (month + 1) (day - length)).1 - month =
            (monthDay lengths (month + 1) (day - length)).1 - (month + 1) + 1 := by omega
        rw [hindex, List.take_succ_cons, List.sum_cons]
        omega

/-- Counting on from the months in front leads into the month. -/
theorem monthDay_take {lengths : List Nat} {index length day : Nat}
    (hlength : lengths[index]? = some length) (hday : day < length) (month : Nat) :
    monthDay lengths month ((lengths.take index).sum + day) = (month + index, day + 1) := by
  induction lengths generalizing index month with
  | nil => contradiction
  | cons first lengths ih =>
      cases index with
      | zero =>
          obtain rfl : first = length := Option.some.inj hlength
          simp [monthDay, hday]
      | succ index =>
          have hnext : lengths[index]? = some length := hlength
          have hrest := ih hnext (month + 1)
          rw [List.take_succ_cons, List.sum_cons, monthDay, if_neg (by omega)]
          have hday' : first + (lengths.take index).sum + day - first =
              (lengths.take index).sum + day := by omega
          rw [hday', hrest]
          simp only [Prod.mk.injEq, and_true]
          omega

theorem sum_take_lt {lengths : List Nat} {index length day : Nat}
    (hlength : lengths[index]? = some length) (hday : day < length) :
    (lengths.take index).sum + day < lengths.sum := by
  have hsplit := congrArg List.sum (List.take_append_drop index lengths)
  rw [List.sum_append, List.drop_eq_getElem_cons (List.getElem?_eq_some_iff.mp hlength).1,
    List.sum_cons, (List.getElem?_eq_some_iff.mp hlength).2] at hsplit
  omega

namespace YearRule

variable (rule : YearRule)

/-- `MakeDay`: the day of a month, which may lie outside the month. -/
def makeDay (year : Int) (month : Nat) (day : Int) : Int :=
  rule.firstDay year + ((monthLengths (rule.leap year)).take (month - 1)).sum + day - 1

theorem makeDay_sub (year : Int) (month : Nat) (day offset : Int) :
    rule.makeDay year month (day - offset) = rule.makeDay year month day - offset := by
  simp only [makeDay]
  omega

/-- A day lies in its year. -/
theorem dayOfYear_lt (day : Int) : (day - rule.firstDay (rule.yearOf day)).toNat <
    (monthLengths (rule.leap (rule.yearOf day))).sum := by
  rcases rule.yearOf_spec day with ⟨hfirst, hlast⟩
  rw [rule.next] at hlast
  cases hleap : rule.leap (rule.yearOf day) <;>
    simp only [hleap, monthLengths, List.sum_cons, List.sum_nil, if_true, Bool.false_eq_true,
      if_false] at hlast ⊢ <;> omega

/-- Counting in the month of a day is counting from the day. -/
theorem makeDay_dateOf (day : Int) :
    rule.makeDay (rule.dateOf day).year (rule.dateOf day).month (rule.dateOf day).day = day := by
  rcases rule.yearOf_spec day with ⟨hfirst, -⟩
  rcases monthDay_sum (rule.dayOfYear_lt day) 1 with ⟨-, hsum⟩
  simp only [makeDay, dateOf]
  omega

theorem yearOf_eq {year day : Int} (hfirst : rule.firstDay year ≤ day)
    (hlast : day < rule.firstDay (year + 1)) : rule.yearOf day = year := by
  have hle := (rule.firstDay_le_iff year day).mp hfirst
  have hlt : ¬ year + 1 ≤ rule.yearOf day := by
    rw [← rule.firstDay_le_iff]
    omega
  omega

/-- The date of a day that a date is made into. -/
theorem dateOf_makeDay {date : Date} (h : rule.IsDate date) :
    rule.dateOf (rule.makeDay date.year date.month date.day) = date := by
  rcases date with ⟨year, month, day⟩
  rcases h with ⟨hmonth, hday, hle⟩
  simp only at hmonth hday hle
  obtain ⟨length, hlength, hday'⟩ : ∃ length,
      (monthLengths (rule.leap year))[month - 1]? = some length ∧ day - 1 < length := by
    cases hlength : (monthLengths (rule.leap year))[month - 1]? with
    | none =>
        rw [hlength, Option.getD_none] at hle
        omega
    | some length =>
        rw [hlength, Option.getD_some] at hle
        exact ⟨length, rfl, by omega⟩
  have hsum := sum_take_lt hlength hday'
  have hmake : rule.makeDay year month day = rule.firstDay year +
      (((monthLengths (rule.leap year)).take (month - 1)).sum + (day - 1) : Nat) := by
    simp only [makeDay]
    omega
  have hyear : rule.yearOf (rule.makeDay year month day) = year := by
    refine rule.yearOf_eq (by omega) ?_
    rw [rule.next]
    cases hleap : rule.leap year <;>
      simp only [hleap, monthLengths, List.sum_cons, List.sum_nil, if_true, Bool.false_eq_true,
        if_false] at hsum hmake ⊢ <;> omega
  have hdays : (rule.makeDay year month day - rule.firstDay year).toNat =
      ((monthLengths (rule.leap year)).take (month - 1)).sum + (day - 1) := by omega
  simp only [dateOf, hyear, hdays, monthDay_take hlength hday']
  rw [Date.mk.injEq]
  exact ⟨rfl, by omega, by omega⟩

/-- The days between two days of a month are days of the month. -/
theorem month_between {first day last : Int} (hfirst : first ≤ day) (hlast : day ≤ last)
    (hyear : (rule.dateOf first).year = (rule.dateOf last).year)
    (hmonth : (rule.dateOf first).month = (rule.dateOf last).month) :
    (rule.dateOf day).year = (rule.dateOf last).year ∧
      (rule.dateOf day).month = (rule.dateOf last).month := by
  rcases rule.isDate_dateOf first with ⟨hpos, hone, -⟩
  rcases rule.isDate_dateOf last with ⟨-, -, hle⟩
  have hmakeFirst := rule.makeDay_dateOf first
  have hmakeLast := rule.makeDay_dateOf last
  rw [hyear, hmonth] at hmakeFirst
  rw [hmonth] at hpos
  obtain ⟨offset, hoffset⟩ := Int.eq_ofNat_of_zero_le (sub_nonneg.mpr hfirst)
  have hdate : rule.IsDate ⟨(rule.dateOf last).year, (rule.dateOf last).month,
      (rule.dateOf first).day + offset⟩ := by
    refine ⟨hpos, by simp only; omega, ?_⟩
    refine le_trans ?_ hle
    simp only [makeDay] at hmakeFirst hmakeLast
    simp only
    omega
  have hday : rule.makeDay (rule.dateOf last).year (rule.dateOf last).month
      ((rule.dateOf first).day + offset : Nat) = day := by
    simp only [makeDay] at hmakeFirst ⊢
    omega
  have hfound := rule.dateOf_makeDay hdate
  simp only [hday] at hfound
  rw [hfound]
  exact ⟨rfl, rfl⟩

end YearRule

/-! ## Dates of a program -/

/-- `TimeClip`. -/
def timeClip (time : Int) : Option Int := if time.natAbs ≤ 8640000000000000 then some time else none

/-- `MakeFullYear`: years below 100 are those of the twentieth century. -/
def fullYear (year : Int) : Int := if 0 ≤ year ∧ year < 100 then 1900 + year else year

/-- `Date.UTC`, with the months counted from 1. -/
def dateUTC (year : Int) (month : Nat) (day : Int) : Option Int :=
  timeClip (gregorian.makeDay (fullYear year) month day * millisecondsPerDay)

/-- `toISOString().slice(0, 10)`. -/
def isoDate (time : Int) : JsString := (toISOString time).take 10

/-- `YYYY-MM-DD`. -/
def dateText (date : Date) : JsString :=
  pad 4 date.year.toNat ++ 45 :: (pad 2 date.month ++ 45 :: pad 2 date.day)

theorem dateText_length {date : Date} (hyear : date.year < 10000) (hmonth : date.month < 100)
    (hday : date.day < 100) : (dateText date).length = 10 := by
  simp only [dateText, List.length_append, List.length_cons]
  rw [pad_length (by omega) (by omega), pad_length (by omega) (by omega),
    pad_length (by omega) (by omega)]

theorem isoDate_eq {time : Int} (hfirst : 0 ≤ (gregorian.dateOf (dayOf time)).year)
    (hlast : (gregorian.dateOf (dayOf time)).year < 10000) :
    isoDate time = dateText (gregorian.dateOf (dayOf time)) := by
  rcases (gregorian.isDate_dateOf (dayOf time)).lt with ⟨hmonth, hday⟩
  obtain ⟨rest, hrest⟩ : ∃ rest, toISOString time =
      dateText (gregorian.dateOf (dayOf time)) ++ rest := by
    rw [toISOString]
    simp only [hfirst, hlast, and_self, if_true, dateText, behindYear, List.append_assoc,
      List.cons_append]
    exact ⟨_, rfl⟩
  rw [isoDate, hrest, List.take_left' (dateText_length hlast hmonth hday)]

/-! ## Dates of a store -/

/-- A text of ten characters as a `date`; there is no year 0. -/
def pgDate (text : JsString) : Option Int :=
  (readDigits 4 text).bind fun (year, text) =>
    (expect 45 text).bind fun text =>
    (readDigits 2 text).bind fun (month, text) =>
    (expect 45 text).bind fun text =>
    (readDigits 2 text).bind fun (day, text) =>
      if text = [] ∧ 1 ≤ year ∧ gregorian.IsDate ⟨year, month, day⟩ then
        some (gregorian.makeDay year month day)
      else none

theorem pgDate_dateText {date : Date} (hfirst : 0 ≤ date.year) (hlast : date.year < 10000)
    (hdate : gregorian.IsDate date) :
    pgDate (dateText date) =
      if 1 ≤ date.year then some (gregorian.makeDay date.year date.month date.day) else none := by
  rcases hdate.lt with ⟨hmonth, hday⟩
  have hyear : (date.year.toNat : Int) = date.year := Int.toNat_of_nonneg hfirst
  have hpositive : 1 ≤ date.year.toNat ↔ 1 ≤ date.year := by omega
  simp only [pgDate, dateText]
  rw [readDigits_pad (by omega) (by omega)]
  simp only [Option.bind_some, expect_cons]
  rw [readDigits_pad (by omega) (by omega)]
  simp only [Option.bind_some, expect_cons]
  rw [← List.append_nil (pad 2 date.day), readDigits_pad (by omega) (by omega)]
  simp only [Option.bind_some, hyear, hpositive, hdate, true_and, and_true]

/-- A store reads the day of a timestamp from its date, from the year 1 to the year 9999. -/
theorem pgDate_isoDate (time : Int) :
    pgDate (isoDate time) =
      if -719162 ≤ dayOf time ∧ dayOf time < 2932897 then some (dayOf time) else none := by
  have hfirst : -719162 ≤ dayOf time ↔ 1 ≤ (gregorian.dateOf (dayOf time)).year := by
    rw [YearRule.dateOf_year, ← gregorian.firstDay_le_iff]
    simp [gregorian]
  have hlast : dayOf time < 2932897 ↔ (gregorian.dateOf (dayOf time)).year < 10000 := by
    rw [YearRule.dateOf_year, ← not_le, ← not_le, ← gregorian.firstDay_le_iff]
    simp [gregorian]
  simp only [hfirst, hlast]
  by_cases hyear : 0 ≤ (gregorian.dateOf (dayOf time)).year ∧
      (gregorian.dateOf (dayOf time)).year < 10000
  · rw [isoDate_eq hyear.1 hyear.2,
      pgDate_dateText hyear.1 hyear.2 (gregorian.isDate_dateOf (dayOf time)), gregorian.makeDay_dateOf]
    simp [hyear.2]
  · have hsign : ∃ rest sign, isoDate time = sign :: rest ∧ isDigit sign = false := by
      rw [isoDate, toISOString]
      simp only [if_neg hyear, List.cons_append, List.take_succ_cons]
      exact ⟨_, _, rfl, by split <;> decide⟩
    rcases hsign with ⟨rest, sign, htext, hsign⟩
    rw [htext, pgDate, readDigits_cons hsign, Option.bind_none, if_neg (by omega)]

end Calendar
