import R2RPC.Library.Binary64

/-!
# Numbers as text

The text of a number, as `Number::toString` lays it out, and the number grammar of JSON.

Main results:

- Definition {lit}`Number.text`: the shortest decimal in one of the four layouts.
- Theorem {lit}`text_length_le`: no number has a long text.
- Theorem {lit}`readNumber_literal`: the reader takes a whole literal and stops behind it.
- Theorem {lit}`readNumber_text`: a finite number is read back from its text.

Current gaps:

- None for base ten.
-/

namespace Binary

open Utf16

/-! ## Digits -/

/-- The decimal digits of a natural number. -/
def decimal (n : Nat) : JsString := (Nat.toDigits 10 n).map fun c => c.toNat.toUInt16

/-- A digit. -/
def isDigit (unit : UInt16) : Bool := 48 ≤ unit && unit ≤ 57

/-- The number that a run of digits stands for. -/
def digitsValue (digits : JsString) : Nat :=
  digits.foldl (fun value unit => 10 * value + (unit.toNat - 48)) 0

theorem digitsValue_foldl (digits : JsString) (value : Nat) :
    digits.foldl (fun value unit => 10 * value + (unit.toNat - 48)) value =
      value * 10 ^ digits.length + digitsValue digits := by
  induction digits generalizing value with
  | nil => simp [digitsValue]
  | cons unit digits ih =>
      simp only [digitsValue, List.foldl_cons, List.length_cons] at ih ⊢
      rw [ih, ih (10 * 0 + (unit.toNat - 48))]
      ring

theorem digitsValue_append (digits rest : JsString) :
    digitsValue (digits ++ rest) = digitsValue digits * 10 ^ rest.length + digitsValue rest := by
  rw [digitsValue, List.foldl_append, digitsValue_foldl]
  rfl

theorem digitsValue_zeros (k : Nat) : digitsValue (List.replicate k 48) = 0 := by
  induction k with
  | zero => rfl
  | succ k ih =>
      rw [List.replicate_succ, digitsValue, List.foldl_cons, digitsValue_foldl, ih]
      simp

theorem toUInt16_digit {c : Char} (h : c.isDigit = true) :
    isDigit c.toNat.toUInt16 = true ∧ c.toNat.toUInt16.toNat = c.toNat := by
  simp only [Char.isDigit, Bool.and_eq_true, decide_eq_true_eq] at h
  have hlow : 48 ≤ c.toNat := h.1
  have hhigh : c.toNat ≤ 57 := h.2
  have hvalue : c.toNat.toUInt16.toNat = c.toNat := by
    simp only [Nat.toUInt16, UInt16.toNat_ofNat']
    omega
  refine ⟨?_, hvalue⟩
  simp only [isDigit, Bool.and_eq_true, decide_eq_true_eq, UInt16.le_iff_toNat_le, hvalue]
  exact ⟨hlow, hhigh⟩

theorem isDigit_of_mem_decimal {n : Nat} {unit : UInt16} (h : unit ∈ decimal n) :
    isDigit unit = true := by
  rcases List.mem_map.mp h with ⟨c, hc, rfl⟩
  exact (toUInt16_digit (Nat.isDigit_of_mem_toDigits (by omega) (by omega) hc)).1

theorem decimal_ne_nil (n : Nat) : decimal n ≠ [] := by simp [decimal]

theorem digitsValue_decimal (n : Nat) : digitsValue (decimal n) = n := by
  have hdigits : ∀ c ∈ Nat.toDigits 10 n, c.toNat.toUInt16.toNat = c.toNat := fun c hc =>
    (toUInt16_digit (Nat.isDigit_of_mem_toDigits (by omega) (by omega) hc)).2
  calc
    digitsValue (decimal n) = Nat.ofDigitChars 10 (Nat.toDigits 10 n) 0 := by
      rw [digitsValue, decimal, List.foldl_map, Nat.ofDigitChars_eq_foldl]
      exact List.foldl_ext _ _ _ fun value c hc => by rw [hdigits c hc]; rfl
    _ = n := Nat.ofDigitChars_ten_toDigits

/-- A positive number does not begin with a zero. -/
theorem decimal_head {n : Nat} (hn : 0 < n) : (decimal n).head? ≠ some 48 := by
  induction n using Nat.strong_induction_on with
  | _ n ih =>
      by_cases hsmall : n < 10
      · rw [decimal, Nat.toDigits_of_lt_base hsmall]
        intro hhead
        simp only [List.map_cons, List.map_nil, List.head?_cons, Option.some.injEq] at hhead
        have hnat := congrArg UInt16.toNat hhead
        rw [Nat.toNat_digitChar_of_lt_ten hsmall] at hnat
        simp only [Nat.toUInt16, UInt16.toNat_ofNat', UInt16.reduceToNat] at hnat
        omega
      · have hsplit : decimal n = decimal (n / 10) ++
            [(Nat.digitChar (n % 10)).toNat.toUInt16] := by
          rw [decimal, Nat.toDigits_of_base_le (by omega) (by omega), List.map_append]
          rfl
        rw [hsplit, List.head?_append_of_ne_nil _ (decimal_ne_nil _)]
        exact ih (n / 10) (by omega) (by omega)

/-! ## Literals -/

/-- The part of a literal behind the point. -/
def fractionText (digits : JsString) : JsString := if digits = [] then [] else 46 :: digits

/-- The exponent of a literal, with its sign. -/
def exponentText : Option Int → JsString
  | none => []
  | some exponent =>
      101 :: (if exponent < 0 then 45 else 43) :: decimal exponent.natAbs

/-- A decimal literal. -/
def literal (negative : Bool) (whole digits : JsString) (exponent : Option Int) : JsString :=
  (if negative then [45] else []) ++ whole ++ fractionText digits ++ exponentText exponent

/-- `Number::toString` of `digits * 10 ^ exponent`. -/
def layout (negative : Bool) (digits : JsString) (exponent : Int) : JsString :=
  let n := digits.length + exponent
  if digits.length ≤ n ∧ n ≤ 21 then
    literal negative (digits ++ List.replicate exponent.toNat 48) [] none
  else if 0 < n ∧ n ≤ 21 then
    literal negative (digits.take n.toNat) (digits.drop n.toNat) none
  else if -6 < n ∧ n ≤ 0 then
    literal negative [48] (List.replicate (-n).toNat 48 ++ digits) none
  else literal negative (digits.take 1) (digits.drop 1) (some (n - 1))

variable {F : Format}

/-- `Number::toString`. -/
def Number.text : Number F → JsString
  | .nan => lit "NaN"
  | .infinity negative => if negative then lit "-Infinity" else lit "Infinity"
  | .finite negative m =>
      if m.units = 0 then [48]
      else layout negative (decimal (shortest F m.units).1) (shortest F m.units).2

/-! ## No NUL -/

theorem isDigit_ne_zero {unit : UInt16} (h : isDigit unit = true) : unit ≠ 0 := by
  rintro rfl
  exact absurd h (by decide)

theorem nulFree_decimal (n : Nat) : nulFree (decimal n) = true :=
  nulFree_iff.mpr fun _ hunit => isDigit_ne_zero (isDigit_of_mem_decimal hunit)

theorem nulFree_zeros (k : Nat) : nulFree (List.replicate k 48) = true :=
  nulFree_iff.mpr fun unit hunit => by
    rw [List.eq_of_mem_replicate hunit]
    decide

theorem nulFree_literal {negative : Bool} {whole digits : JsString} {exponent : Option Int}
    (hwhole : nulFree whole = true) (hdigits : nulFree digits = true) :
    nulFree (literal negative whole digits exponent) = true := by
  have hsign : nulFree (if negative then [45] else []) = true := by cases negative <;> decide
  have hfraction : nulFree (fractionText digits) = true := by
    unfold fractionText
    split
    · rfl
    · rw [nulFree_cons, hdigits]
      decide
  have hexponent : nulFree (exponentText exponent) = true := by
    cases exponent with
    | none => rfl
    | some exponent =>
        rw [exponentText, nulFree_cons, nulFree_cons, nulFree_decimal]
        split <;> decide
  rw [literal, nulFree_append, nulFree_append, nulFree_append, hsign, hwhole, hfraction, hexponent]
  rfl

/-- The text of a number has no NUL. -/
theorem nulFree_text (n : Number F) : nulFree n.text = true := by
  cases n with
  | nan =>
      rw [Number.text]
      decide
  | infinity negative =>
      rw [Number.text]
      cases negative <;> decide
  | finite negative m =>
      have hdigits := nulFree_decimal (shortest F m.units).1
      rw [Number.text]
      split
      · decide
      · rw [layout]
        split_ifs
        · apply nulFree_literal _ nulFree_nil
          rw [nulFree_append, hdigits, nulFree_zeros]
          rfl
        · exact nulFree_literal (nulFree_take _ hdigits) (nulFree_drop _ hdigits)
        · apply nulFree_literal (by decide)
          rw [nulFree_append, hdigits, nulFree_zeros]
          rfl
        · exact nulFree_literal (nulFree_take _ hdigits) (nulFree_drop _ hdigits)

/-! ## Length -/

theorem decimal_length_le {n k : Nat} (hk : 0 < k) (h : n < 10 ^ k) : (decimal n).length ≤ k := by
  rw [decimal, List.length_map]
  exact (Nat.length_toDigits_le_iff (by omega) hk).mpr h

/-- No layout is much longer than the digits and the exponent. -/
theorem layout_length_le (negative : Bool) (digits : JsString) (exponent : Int) :
    (layout negative digits exponent).length ≤
      digits.length + (decimal (digits.length + exponent - 1).natAbs).length + 26 := by
  have hsign : (if negative then [45] else [] : JsString).length ≤ 1 := by
    cases negative <;> simp
  have hfraction : ∀ text : JsString, (fractionText text).length ≤ text.length + 1 := by
    intro text
    rw [fractionText]
    split <;> simp
  rw [layout]
  split_ifs with hwhole hpoint hsmall
  · simp only [literal, exponentText, fractionText, List.length_append, List.length_replicate,
      List.length_nil, if_true]
    omega
  · have h := hfraction (digits.drop (digits.length + exponent).toNat)
    simp only [literal, exponentText, List.length_append, List.length_take, List.length_drop,
      List.length_nil] at h ⊢
    omega
  · have h := hfraction (List.replicate (-(digits.length + exponent)).toNat 48 ++ digits)
    simp only [literal, exponentText, List.length_append, List.length_replicate,
      List.length_nil, List.length_cons] at h ⊢
    omega
  · have h := hfraction (digits.drop 1)
    simp only [literal, exponentText, List.length_append, List.length_take, List.length_drop,
      List.length_cons] at h ⊢
    omega

/-- The text of a number of ECMAScript is short. -/
theorem text_length_le (n : Number binary64) : n.text.length ≤ 64 := by
  cases n with
  | nan =>
      rw [Number.text]
      decide
  | infinity negative =>
      rw [Number.text]
      cases negative <;> decide
  | finite negative m =>
      have hdigits : (decimal (shortest binary64 m.units).1).length ≤ 18 := by
        apply decimal_length_le (by omega)
        have hle := shortest_le m.representable
        have hprecision : binary64.precision = 53 := rfl
        rw [hprecision] at hle
        omega
      have hexponent := shortest_exponent m.representable
      have hscale : binary64.scale = 1074 := rfl
      have hlimit : binary64.limit = 2098 := rfl
      rw [hscale, hlimit] at hexponent
      rw [Number.text]
      split
      · decide
      · have hlayout := layout_length_le negative (decimal (shortest binary64 m.units).1)
          (shortest binary64 m.units).2
        have hshort : (decimal ((decimal (shortest binary64 m.units).1).length +
            (shortest binary64 m.units).2 - 1).natAbs).length ≤ 4 := by
          apply decimal_length_le (by omega)
          omega
        omega

/-! ## Reading -/

/-- The point of a literal and the digits behind it. -/
def readFraction : JsString → Option (JsString × JsString)
  | [] => some ([], [])
  | unit :: rest =>
      if unit = 46 then
        if rest.takeWhile isDigit = [] then none
        else some (rest.takeWhile isDigit, rest.dropWhile isDigit)
      else some ([], unit :: rest)

/-- The digits of an exponent. -/
def readExponentDigits (negative : Bool) (text : JsString) : Option (Int × JsString) :=
  if text.takeWhile isDigit = [] then none
  else
    let value := digitsValue (text.takeWhile isDigit)
    some (if negative then -value else value, text.dropWhile isDigit)

/-- The exponent of a literal. -/
def readExponent : JsString → Option (Int × JsString)
  | [] => some (0, [])
  | unit :: rest =>
      if unit = 101 ∨ unit = 69 then
        match rest with
        | [] => none
        | sign :: digits =>
            if sign = 45 then readExponentDigits true digits
            else if sign = 43 then readExponentDigits false digits
            else readExponentDigits false (sign :: digits)
      else some (0, unit :: rest)

/-- Digits before the point: a zero stands alone. -/
def isWhole (digits : JsString) : Bool :=
  digits != [] && (digits == [48] || digits.head? != some 48)

variable (F)

/-- A number without its sign. -/
def readUnsigned (negative : Bool) (text : JsString) : Option (Number F × JsString) := do
  guard (isWhole (text.takeWhile isDigit))
  let (digits, behindFraction) ← readFraction (text.dropWhile isDigit)
  let (exponent, rest) ← readExponent behindFraction
  return (ofDecimal F negative (digitsValue (text.takeWhile isDigit ++ digits))
    (exponent - digits.length), rest)

/-- A number of the JSON grammar at the head of a text. -/
def readNumber : JsString → Option (Number F × JsString)
  | [] => none
  | unit :: rest => if unit = 45 then readUnsigned F true rest
      else readUnsigned F false (unit :: rest)

variable {F}

/-- Nothing at the head of a text continues a number. -/
def Stops (text : JsString) : Prop :=
  ∀ unit ∈ text.head?, isDigit unit = false ∧ unit ≠ 46 ∧ unit ≠ 101 ∧ unit ≠ 69

theorem takeWhile_digits {digits rest : JsString} (hdigits : ∀ unit ∈ digits, isDigit unit = true)
    (hrest : ∀ unit ∈ rest.head?, isDigit unit = false) :
    (digits ++ rest).takeWhile isDigit = digits ∧ (digits ++ rest).dropWhile isDigit = rest := by
  rw [List.takeWhile_append_of_pos hdigits, List.dropWhile_append_of_pos hdigits]
  cases rest with
  | nil => simp
  | cons unit rest =>
      have hunit := hrest unit (by simp)
      simp [hunit]

theorem readFraction_text {digits rest : JsString} (hdigits : ∀ unit ∈ digits, isDigit unit = true)
    (hrest : ∀ unit ∈ rest.head?, isDigit unit = false ∧ unit ≠ 46) :
    readFraction (fractionText digits ++ rest) = some (digits, rest) := by
  unfold fractionText
  split_ifs with hempty
  · subst hempty
    cases rest with
    | nil => rfl
    | cons unit rest =>
        have hunit := (hrest unit (by simp)).2
        simp [readFraction, hunit]
  · have hspan := takeWhile_digits hdigits fun unit hunit => (hrest unit hunit).1
    simp [readFraction, hspan.1, hspan.2, hempty]

theorem readExponent_text {exponent : Option Int} {rest : JsString} (hrest : Stops rest) :
    readExponent (exponentText exponent ++ rest) = some (exponent.getD 0, rest) := by
  cases exponent with
  | none =>
      cases rest with
      | nil => rfl
      | cons unit rest =>
          have hunit := hrest unit (by simp)
          simp [exponentText, readExponent, hunit.2.2.1, hunit.2.2.2]
  | some exponent =>
      have hdigits : ∀ unit ∈ decimal exponent.natAbs, isDigit unit = true :=
        fun unit => isDigit_of_mem_decimal
      have hspan := takeWhile_digits hdigits fun unit hunit => (hrest unit hunit).1
      by_cases hneg : exponent < 0
      · simp [exponentText, readExponent, readExponentDigits, hneg, hspan.1, hspan.2,
          decimal_ne_nil, digitsValue_decimal, abs_of_neg hneg]
      · simp [exponentText, readExponent, readExponentDigits, hneg, hspan.1, hspan.2,
          decimal_ne_nil, digitsValue_decimal, not_lt.mp hneg]

/-- What follows the digits before the point is no digit. -/
theorem behindWhole_stops (digits : JsString) (exponent : Option Int) {rest : JsString}
    (hrest : Stops rest) :
    ∀ unit ∈ (fractionText digits ++ exponentText exponent ++ rest).head?,
      isDigit unit = false := by
  intro unit hunit
  unfold fractionText at hunit
  split_ifs at hunit with hempty
  · cases exponent with
    | none => exact (hrest unit (by simpa [exponentText] using hunit)).1
    | some exponent =>
        simp only [exponentText, List.nil_append, List.cons_append, List.head?_cons,
          Option.mem_some_iff] at hunit
        subst hunit
        decide
  · simp only [List.cons_append, List.head?_cons, Option.mem_some_iff] at hunit
    subst hunit
    decide

theorem exponent_stops {exponent : Option Int} {rest : JsString} (hrest : Stops rest) :
    ∀ unit ∈ (exponentText exponent ++ rest).head?, isDigit unit = false ∧ unit ≠ 46 := by
  intro unit hunit
  cases exponent with
  | none =>
      have hstop := hrest unit (by simpa [exponentText] using hunit)
      exact ⟨hstop.1, hstop.2.1⟩
  | some exponent =>
      simp only [exponentText, List.cons_append, List.head?_cons, Option.mem_some_iff] at hunit
      subst hunit
      decide

/-- The reader takes a whole literal and stops behind it. -/
theorem readNumber_literal {negative : Bool} {whole digits rest : JsString}
    {exponent : Option Int} (hwhole : ∀ unit ∈ whole, isDigit unit = true)
    (hcanonical : isWhole whole = true) (hdigits : ∀ unit ∈ digits, isDigit unit = true)
    (hrest : Stops rest) :
    readNumber F (literal negative whole digits exponent ++ rest) =
      some (ofDecimal F negative (digitsValue (whole ++ digits))
        (exponent.getD 0 - digits.length), rest) := by
  have hspan := takeWhile_digits hwhole (behindWhole_stops digits exponent hrest)
  have hunsigned : readUnsigned F negative
      (whole ++ (fractionText digits ++ exponentText exponent ++ rest)) =
      some (ofDecimal F negative (digitsValue (whole ++ digits))
        (exponent.getD 0 - digits.length), rest) := by
    unfold readUnsigned
    rw [hspan.1, hspan.2, List.append_assoc, readFraction_text hdigits (exponent_stops hrest)]
    simp [hcanonical, readExponent_text hrest]
  have hassoc : literal negative whole digits exponent ++ rest =
      (if negative then [45] else []) ++
        (whole ++ (fractionText digits ++ exponentText exponent ++ rest)) := by
    simp [literal, List.append_assoc]
  rw [hassoc]
  cases negative with
  | true => simpa [readNumber] using hunsigned
  | false =>
      cases whole with
      | nil => simp [isWhole] at hcanonical
      | cons unit whole =>
          have hdigit := hwhole unit (by simp)
          have hunit : unit ≠ 45 := by
            rintro rfl
            exact absurd hdigit (by decide)
          simpa [readNumber, hunit] using hunsigned

/-- A positive number without its leading digits lost is a whole part. -/
theorem isWhole_of_head {digits : JsString} (hne : digits ≠ [])
    (hhead : digits.head? ≠ some 48) (rest : JsString) : isWhole (digits ++ rest) = true := by
  have hnil : digits ++ rest ≠ [] := by simp [hne]
  simp only [isWhole, Bool.and_eq_true, bne_iff_ne, Bool.or_eq_true, beq_iff_eq]
  exact ⟨hnil, Or.inr (by rwa [List.head?_append_of_ne_nil _ hne])⟩

/-- A laid out decimal is read back as the number it is rounded to. -/
theorem readNumber_layout {negative : Bool} {n : Nat} {exponent : Int} {rest : JsString}
    (hn : 0 < n) (hrest : Stops rest) :
    readNumber F (layout negative (decimal n) exponent ++ rest) =
      some (ofDecimal F negative n exponent, rest) := by
  have hdigits : ∀ unit ∈ decimal n, isDigit unit = true := fun unit => isDigit_of_mem_decimal
  have hzero : ∀ k, ∀ unit ∈ List.replicate k (48 : UInt16), isDigit unit = true := by
    intro k unit hunit
    rw [(List.mem_replicate.mp hunit).2]
    decide
  have hlength : 0 < (decimal n).length := List.length_pos_of_ne_nil (decimal_ne_nil n)
  have htake : ∀ k, 0 < k → isWhole ((decimal n).take k) = true := by
    intro k hk
    have hne : (decimal n).take k ≠ [] := by
      rw [ne_eq, List.take_eq_nil_iff]
      rintro (h | h)
      · omega
      · exact decimal_ne_nil n h
    have hhead : ((decimal n).take k).head? ≠ some 48 := by
      rw [List.head?_take, if_neg (by omega)]
      exact decimal_head hn
    simpa using isWhole_of_head hne hhead []
  unfold layout
  dsimp only
  split_ifs with hwhole hpoint hsmall
  · rw [readNumber_literal
      (fun unit hunit => (List.mem_append.mp hunit).elim (hdigits unit) (hzero _ unit))
      (isWhole_of_head (decimal_ne_nil n) (decimal_head hn) _) (by simp) hrest]
    rcases Int.eq_ofNat_of_zero_le (show 0 ≤ exponent by omega) with ⟨k, rfl⟩
    simp only [List.append_nil, digitsValue_append, digitsValue_decimal, digitsValue_zeros,
      List.length_replicate, Int.toNat_natCast, Nat.add_zero, Option.getD_none,
      List.length_nil, Nat.cast_zero, sub_zero]
    exact congrArg some (Prod.ext (ofDecimal_scale negative n k) rfl)
  · rw [readNumber_literal (fun unit hunit => hdigits unit (List.mem_of_mem_take hunit))
      (htake _ (by omega)) (fun unit hunit => hdigits unit (List.mem_of_mem_drop hunit)) hrest]
    have hexponent : ((none : Option Int).getD 0) -
        (((decimal n).drop ((decimal n).length + exponent).toNat).length : Int) = exponent := by
      rw [List.length_drop, Option.getD_none]
      omega
    rw [hexponent, List.take_append_drop, digitsValue_decimal]
  · rw [readNumber_literal (by simp [isDigit]) (by decide)
      (fun unit hunit => (List.mem_append.mp hunit).elim (hzero _ unit) (hdigits unit)) hrest]
    have hvalue : digitsValue ([48] ++ (List.replicate (-((decimal n).length + exponent)).toNat 48 ++
        decimal n)) = n := by
      rw [digitsValue_append, digitsValue_append, digitsValue_zeros, digitsValue_decimal]
      simp [digitsValue]
    have hexponent : ((none : Option Int).getD 0) -
        ((List.replicate (-((decimal n).length + exponent)).toNat (48 : UInt16) ++
          decimal n).length : Int) = exponent := by
      rw [List.length_append, List.length_replicate, Option.getD_none]
      omega
    rw [hexponent, hvalue]
  · rw [readNumber_literal (fun unit hunit => hdigits unit (List.mem_of_mem_take hunit))
      (htake _ (by omega)) (fun unit hunit => hdigits unit (List.mem_of_mem_drop hunit)) hrest]
    have hexponent : (some ((decimal n).length + exponent - 1)).getD 0 -
        (((decimal n).drop 1).length : Int) = exponent := by
      rw [List.length_drop, Option.getD_some]
      omega
    rw [hexponent, List.take_append_drop, digitsValue_decimal]

/-- What JSON makes of a number that it can write: the sign of zero is lost. -/
def Number.settled : Number F → Number F
  | .finite negative m => .finite (negative && m.units != 0) m
  | n => n

theorem Number.toInt_settled (n : Number F) : n.settled.toInt = n.toInt := by
  cases n with
  | finite negative m =>
      by_cases hzero : m.units = 0
      · cases negative <;> simp [settled, toInt, hzero]
      · have hsign : (negative && m.units != 0) = negative := by simp [hzero]
        rw [settled, hsign]
  | _ => rfl

/-- A finite number is read back from its text. -/
theorem readNumber_text {negative : Bool} {m : Magnitude F} {rest : JsString}
    (hrest : Stops rest) :
    readNumber F (Number.text (.finite negative m) ++ rest) =
      some (Number.settled (.finite negative m), rest) := by
  by_cases hzero : m.units = 0
  · have hread : readNumber F (literal false [48] [] none ++ rest) =
        some (ofDecimal F false (digitsValue [48]) 0, rest) :=
      readNumber_literal (by simp [isDigit]) (by decide) (by simp) hrest
    have hunits : decimalUnits F 0 0 = m.units := by rw [decimalUnits_zero, hzero]
    have hvalue : ofDecimal F false 0 0 = .finite false m := ofDecimal_eq_finite hunits
    simpa [Number.text, hzero, Number.settled, literal, fractionText, exponentText, digitsValue,
      hvalue] using hread
  · have hread : readNumber F
        (layout negative (decimal (shortest F m.units).1) (shortest F m.units).2 ++ rest) =
        some (ofDecimal F negative (shortest F m.units).1 (shortest F m.units).2, rest) :=
      readNumber_layout (shortest_pos hzero) hrest
    have hsign : (negative && m.units != 0) = negative := by simp [hzero]
    simpa [Number.text, hzero, Number.settled, hsign, ofDecimal_shortest] using hread

end Binary
