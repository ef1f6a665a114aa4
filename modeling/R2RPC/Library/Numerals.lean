import R2RPC.Library.IntegerText

/-!
# Numerals

How {lit}`Number` of ECMAScript and an {lit}`integer` column of a relational store read a text.
Both go beyond JSON: they take blanks around a numeral, a plus sign, leading zeros and the bases
two, eight and sixteen; the store takes underscores between digits besides.

Main results:

- Definition {lit}`toNumber`: {lit}`Number` of a string.
- Definition {lit}`int4in`: the input function of {lit}`integer`.
- Theorem {lit}`toNumber_readInteger`: plain digits are read as they are.
- Theorem {lit}`int4in_text`: of the texts of numbers, those of 32-bit integers are taken.

Current gaps:

- Suffixes and separators of literals of the language itself, which {lit}`Number` refuses.
-/

namespace Numerals

open Utf16 Binary

/-! ## Digits and signs -/

/-- The value of a digit; letters stand for ten and more. -/
def digitOf (base : Nat) (unit : UInt16) : Option Nat :=
  let value :=
    if isDigit unit then unit.toNat - 48
    else if 97 ≤ unit && unit ≤ 122 then unit.toNat - 87
    else if 65 ≤ unit && unit ≤ 90 then unit.toNat - 55
    else base
  if value < base then some value else none

/-- The letter of a base. -/
def baseOf (mark : UInt16) : Option Nat :=
  if mark = 120 ∨ mark = 88 then some 16
  else if mark = 111 ∨ mark = 79 then some 8
  else if mark = 98 ∨ mark = 66 then some 2
  else none

/-- A zero and the letter of a base, and what follows them. -/
def prefixed : JsString → Option (Nat × JsString)
  | zero :: mark :: rest => if zero = 48 then (baseOf mark).map (·, rest) else none
  | _ => none

/-- A sign, and what follows it. -/
def signed (text : JsString) : Bool × JsString :=
  if text.head? = some 45 then (true, text.tail)
  else if text.head? = some 43 then (false, text.tail)
  else (false, text)

/-- Digits of a base. -/
def readDigits (base value : Nat) : JsString → Option Nat
  | [] => some value
  | unit :: rest => (digitOf base unit).bind fun digit => readDigits base (value * base + digit) rest

/-- Digits of a base, each of which may follow one underscore. -/
def readSeparated (base value : Nat) : JsString → Option Nat
  | [] => some value
  | [unit] => (digitOf base unit).map (value * base + ·)
  | unit :: next :: rest =>
      match digitOf base unit with
      | some digit => readSeparated base (value * base + digit) (next :: rest)
      | none =>
          if unit = 95 then
            (digitOf base next).bind fun digit => readSeparated base (value * base + digit) rest
          else none

/-! ## Numbers of ECMAScript -/

/-- `StrDecimalLiteral`, behind its sign. -/
def readDecimal (F : Format) (negative : Bool) (text : JsString) : Number F :=
  if text = lit "Infinity" then .infinity negative
  else
    let whole := text.takeWhile isDigit
    let behindWhole := text.dropWhile isDigit
    let point := behindWhole.head? = some 46
    let digits := if point then behindWhole.tail.takeWhile isDigit else []
    let behindDigits := if point then behindWhole.tail.dropWhile isDigit else behindWhole
    match readExponent behindDigits with
    | some (exponent, []) =>
        if whole ++ digits = [] then .nan
        else ofDecimal F negative (digitsValue (whole ++ digits)) (exponent - digits.length)
    | _ => .nan

/-- `Number(text)`. -/
def toNumber (F : Format) (text : JsString) : Number F :=
  let body := trim text
  if body = [] then ofDecimal F false 0 0
  else
    match prefixed body with
    | some (base, digits) =>
        match readDigits base 0 digits with
        | some value => if digits = [] then .nan else ofDecimal F false value 0
        | none => .nan
    | none => readDecimal F (signed body).1 (signed body).2

/-! ## Integers of a store -/

/-- `isspace`. -/
def isBlank (unit : UInt16) : Bool := (9 ≤ unit && unit ≤ 13) || unit == 32

/-- A text without the blanks around it. -/
def trimBlanks (text : JsString) : JsString :=
  ((text.dropWhile isBlank).reverse.dropWhile isBlank).reverse

/-- A numeral without its sign. -/
def readMagnitude (text : JsString) : Option Nat :=
  match prefixed text with
  | some (base, digits) => if digits = [] then none else readSeparated base 0 digits
  | none => if text = [] ∨ text.head? = some 95 then none else readSeparated 10 0 text

/-- `int4in`. -/
def int4in (text : JsString) : Option Int :=
  let body := signed (trimBlanks text)
  (readMagnitude body.2).bind fun magnitude =>
    if body.1 then
      if magnitude ≤ 2147483648 then some (-(magnitude : Int)) else none
    else if magnitude ≤ 2147483647 then some (magnitude : Int) else none

example : int4in (lit " -0x_1F\n") = some (-31) := by decide
example : toNumber binary64 (lit " 1.5e1 ") = ofDecimal binary64 false 15 0 := by decide +kernel

/-! ## Digits that are read -/

theorem digitOf_digit {unit : UInt16} (h : isDigit unit = true) :
    digitOf 10 unit = some (unit.toNat - 48) := by
  have hrange := h
  simp only [isDigit, Bool.and_eq_true, decide_eq_true_eq, UInt16.le_iff_toNat_le] at hrange
  have hhigh : unit.toNat ≤ 57 := hrange.2
  simp only [digitOf, h, if_true]
  rw [if_pos (by omega)]

/-- Digits are read one after the other. -/
theorem readSeparated_digits {digits : JsString} (h : ∀ unit ∈ digits, isDigit unit = true)
    (value : Nat) :
    readSeparated 10 value digits = some (value * 10 ^ digits.length + digitsValue digits) := by
  induction digits generalizing value with
  | nil => simp [readSeparated, digitsValue]
  | cons unit rest ih =>
      have hunit := digitOf_digit (h unit List.mem_cons_self)
      have hrest : ∀ other ∈ rest, isDigit other = true :=
        fun other hother => h other (List.mem_cons_of_mem unit hother)
      have hread : readSeparated 10 value (unit :: rest) =
          readSeparated 10 (value * 10 + (unit.toNat - 48)) rest := by
        cases rest with
        | nil => simp [readSeparated, hunit]
        | cons next rest => rw [readSeparated, hunit]
      have hvalue : digitsValue (unit :: rest) =
          (unit.toNat - 48) * 10 ^ rest.length + digitsValue rest := by
        rw [digitsValue, List.foldl_cons, digitsValue_foldl]
        simp
      rw [hread, ih hrest, hvalue, List.length_cons]
      congr 1
      ring

/-- A unit that is no digit ends the reading. -/
theorem readSeparated_eq_none {base : Nat} {text : JsString} {unit : UInt16} (hmem : unit ∈ text)
    (hunit : digitOf base unit = none) (hunder : unit ≠ 95) (value : Nat) :
    readSeparated base value text = none := by
  induction value, text using readSeparated.induct base with
  | case1 => cases hmem
  | case2 value first =>
      rw [List.mem_singleton] at hmem
      rw [readSeparated, ← hmem, hunit, Option.map_none]
  | case3 value first next rest digit hdigit ih =>
      rw [readSeparated, hdigit]
      rcases List.mem_cons.mp hmem with rfl | hmem
      · rw [hunit] at hdigit
        cases hdigit
      · exact ih hmem
  | case4 value next rest hfirst ih =>
      rw [readSeparated, hfirst]
      dsimp only
      rw [if_pos rfl]
      rcases List.mem_cons.mp hmem with rfl | hmem
      · exact absurd rfl hunder
      rcases List.mem_cons.mp hmem with rfl | hmem
      · rw [hunit, Option.bind_none]
      · cases hnext : digitOf base next with
        | none => rfl
        | some digit => exact ih digit hmem
  | case5 value first next rest hfirst hother =>
      rw [readSeparated, hfirst]
      exact if_neg hother

/-! ## Literals that are read -/

/-- The units that a decimal literal is made of. -/
def InLiteral (unit : UInt16) : Prop :=
  isDigit unit = true ∨ unit ∈ ([43, 45, 46, 101] : JsString)

theorem inLiteral_literal {negative : Bool} {whole digits : JsString} {exponent : Option Int}
    (hwhole : ∀ unit ∈ whole, isDigit unit = true) (hdigits : ∀ unit ∈ digits, isDigit unit = true) :
    ∀ unit ∈ literal negative whole digits exponent, InLiteral unit := by
  intro unit hunit
  simp only [literal, List.mem_append] at hunit
  rcases hunit with ((hsign | hunit) | hunit) | hunit
  · cases negative with
    | false => cases hsign
    | true => exact Or.inr (by simp_all)
  · exact Or.inl (hwhole unit hunit)
  · rw [fractionText] at hunit
    split at hunit
    · cases hunit
    · rcases List.mem_cons.mp hunit with rfl | hunit
      · exact Or.inr (by simp)
      · exact Or.inl (hdigits unit hunit)
  · cases exponent with
    | none => cases hunit
    | some exponent =>
        rw [exponentText] at hunit
        rcases List.mem_cons.mp hunit with rfl | hunit
        · exact Or.inr (by simp)
        rcases List.mem_cons.mp hunit with rfl | hunit
        · by_cases hneg : exponent < 0 <;> exact Or.inr (by simp [hneg])
        · exact Or.inl (isDigit_of_mem_decimal hunit)

/-- Such a unit is no blank and marks no base. -/
theorem InLiteral.plain {unit : UInt16} (h : InLiteral unit) :
    isSpace unit = false ∧ isBlank unit = false ∧ baseOf unit = none := by
  rcases h with hdigit | hmem
  · have hvalue : ∀ n < 58, 48 ≤ n → isSpace (UInt16.ofNat n) = false ∧
        isBlank (UInt16.ofNat n) = false ∧ baseOf (UInt16.ofNat n) = none := by decide
    simp only [isDigit, Bool.and_eq_true, decide_eq_true_eq, UInt16.le_iff_toNat_le] at hdigit
    have hhigh : unit.toNat ≤ 57 := hdigit.2
    have hunit := hvalue unit.toNat (by omega) hdigit.1
    rwa [UInt16.ofNat_toNat] at hunit
  · have hvalue : ∀ unit ∈ ([43, 45, 46, 101] : JsString), isSpace unit = false ∧
        isBlank unit = false ∧ baseOf unit = none := by decide
    exact hvalue unit hmem

/-- A text without units of a kind is not cut at its ends. -/
theorem trimmed_eq {text : JsString} {p : UInt16 → Bool} (h : ∀ unit ∈ text, p unit = false) :
    ((text.dropWhile p).reverse.dropWhile p).reverse = text := by
  have hkept : ∀ part : JsString, (∀ unit ∈ part, p unit = false) → part.dropWhile p = part := by
    intro part hpart
    cases part with
    | nil => rfl
    | cons unit part => rw [List.dropWhile_cons, hpart unit List.mem_cons_self]; rfl
  rw [hkept text h, hkept text.reverse fun unit hunit => h unit (List.mem_reverse.mp hunit),
    List.reverse_reverse]

theorem prefixed_eq_none {text : JsString} (h : ∀ unit ∈ text, baseOf unit = none) :
    prefixed text = none := by
  match text, h with
  | [], _ => rfl
  | [_], _ => rfl
  | zero :: mark :: rest, h => simp [prefixed, h mark (by simp)]

/-- The sign of a literal. -/
theorem signed_literal {negative : Bool} {whole digits : JsString} {exponent : Option Int}
    (hne : whole ≠ []) (hwhole : ∀ unit ∈ whole, isDigit unit = true) :
    signed (literal negative whole digits exponent) =
      (negative, whole ++ fractionText digits ++ exponentText exponent) := by
  cases negative with
  | true => simp [signed, literal]
  | false =>
      have hhead : ∀ unit, ¬ isDigit unit = true →
          (literal false whole digits exponent).head? ≠ some unit := by
        intro unit hunit hfirst
        simp only [literal, Bool.false_eq_true, if_false, List.nil_append, List.append_assoc] at hfirst
        rw [List.head?_append_of_ne_nil _ hne] at hfirst
        exact hunit (hwhole unit (List.mem_of_mem_head? hfirst))
      rw [signed, if_neg (hhead 45 (by decide)), if_neg (hhead 43 (by decide))]
      simp [literal]

/-! ## Numbers that are read -/

theorem prefixed_literal {negative : Bool} {whole digits : JsString} {exponent : Option Int}
    (hwhole : ∀ unit ∈ whole, isDigit unit = true) (hdigits : ∀ unit ∈ digits, isDigit unit = true) :
    prefixed (literal negative whole digits exponent) = none :=
  prefixed_eq_none fun unit hunit => (inLiteral_literal hwhole hdigits unit hunit).plain.2.2

/-- Plain digits are read as they are. -/
theorem toNumber_readInteger {F : Format} {text : JsString} {n : Nat}
    (h : readInteger text = some n) : toNumber F text = ofDecimal F false n 0 := by
  rw [readInteger] at h
  split at h
  next hplain =>
    obtain ⟨hne, hdigits, -⟩ := hplain
    have hliteral : literal false text [] none = text := by
      simp [literal, fractionText, exponentText]
    have hspaces : ∀ unit ∈ text, isSpace unit = false :=
      fun unit hunit => (InLiteral.plain (.inl (hdigits unit hunit))).1
    have hprefixed : prefixed text = none :=
      prefixed_eq_none fun unit hunit => (InLiteral.plain (.inl (hdigits unit hunit))).2.2
    have hsigned : signed text = (false, text) := by
      have hsign : signed (literal false text [] none) = _ := signed_literal hne hdigits
      rw [hliteral] at hsign
      simpa [fractionText, exponentText] using hsign
    have hinfinity : text ≠ lit "Infinity" := by
      rintro rfl
      exact absurd (hdigits 73 (by decide)) (by decide)
    have hnothing : ∀ unit ∈ ([] : JsString).head?, isDigit unit = false := by simp
    have hsplit := takeWhile_digits hdigits hnothing
    rw [List.append_nil] at hsplit
    rw [toNumber, trim, trimmed_eq hspaces, if_neg hne, hprefixed]
    dsimp only
    rw [hsigned, readDecimal, if_neg hinfinity, hsplit.1, hsplit.2]
    simp only [List.head?_nil, reduceCtorEq, if_false, readExponent, List.append_nil, if_neg hne,
      List.length_nil, Nat.cast_zero, sub_zero, ← Option.some.inj h]
  next => cases h

/-! ## Integers that are read -/

/-- What follows the sign of a literal; a point and an exponent are refused. -/
theorem readMagnitude_literal {whole digits : JsString} {exponent : Option Int} (hne : whole ≠ [])
    (hwhole : ∀ unit ∈ whole, isDigit unit = true) (hdigits : ∀ unit ∈ digits, isDigit unit = true) :
    readMagnitude (whole ++ fractionText digits ++ exponentText exponent) =
      if digits = [] ∧ exponent = none then some (digitsValue whole) else none := by
  have hprefixed : prefixed (whole ++ fractionText digits ++ exponentText exponent) = none := by
    have hliteral : prefixed (literal false whole digits exponent) = none :=
      prefixed_literal hwhole hdigits
    simpa [literal] using hliteral
  have hunder : (whole ++ fractionText digits ++ exponentText exponent).head? ≠ some 95 := by
    intro hhead
    rw [List.append_assoc, List.head?_append_of_ne_nil _ hne] at hhead
    exact absurd (hwhole 95 (List.mem_of_mem_head? hhead)) (by decide)
  rw [readMagnitude, hprefixed]
  dsimp only
  rw [if_neg (not_or.mpr ⟨by simp [hne], hunder⟩)]
  split
  next hplain =>
    rw [hplain.1, hplain.2, fractionText, if_pos rfl, exponentText, List.append_nil,
      List.append_nil, readSeparated_digits hwhole]
    simp
  next hplain =>
    by_cases hempty : digits = []
    · cases exponent with
      | none => exact absurd ⟨hempty, rfl⟩ hplain
      | some exponent =>
          have hmem : 101 ∈ whole ++ fractionText digits ++ exponentText (some exponent) := by
            simp [exponentText]
          exact readSeparated_eq_none hmem (by decide) (by decide) 0
    · have hmem : 46 ∈ whole ++ fractionText digits ++ exponentText exponent := by
        simp [fractionText, hempty]
      exact readSeparated_eq_none hmem (by decide) (by decide) 0

/-- The largest magnitude of an integer with this sign. -/
def int4Bound (negative : Bool) : Nat := if negative then 2147483648 else 2147483647

/-- A literal is taken when it is an integer in range. -/
theorem int4in_literal {negative : Bool} {whole digits : JsString} {exponent : Option Int}
    (hne : whole ≠ []) (hwhole : ∀ unit ∈ whole, isDigit unit = true)
    (hdigits : ∀ unit ∈ digits, isDigit unit = true) :
    (int4in (literal negative whole digits exponent)).isSome = true ↔
      digits = [] ∧ exponent = none ∧ digitsValue whole ≤ int4Bound negative := by
  have hblanks : ∀ unit ∈ literal negative whole digits exponent, isBlank unit = false :=
    fun unit hunit => (inLiteral_literal hwhole hdigits unit hunit).plain.2.1
  rw [int4in, trimBlanks, trimmed_eq hblanks, signed_literal hne hwhole]
  dsimp only
  rw [readMagnitude_literal hne hwhole hdigits]
  by_cases hplain : digits = [] ∧ exponent = none
  · rw [if_pos hplain, Option.bind_some, int4Bound]
    cases negative <;> simp [hplain, apply_ite Option.isSome]
  · rw [if_neg hplain, Option.bind_none]
    rw [← and_assoc]
    simp [hplain]

/-- A laid out decimal is taken when it is an integer in range. -/
theorem int4in_layout {negative : Bool} {n : Nat} (hn : 0 < n) (exponent : Int) :
    (int4in (layout negative (decimal n) exponent)).isSome = true ↔
      ∃ k : Nat, exponent = k ∧ n * 10 ^ k ≤ int4Bound negative := by
  have hdigits : ∀ unit ∈ decimal n, isDigit unit = true := fun unit => isDigit_of_mem_decimal
  have hzeros : ∀ k, ∀ unit ∈ List.replicate k (48 : UInt16), isDigit unit = true := by
    intro k unit hunit
    rw [List.eq_of_mem_replicate hunit]
    decide
  have hlength : 0 < (decimal n).length := List.length_pos_of_ne_nil (decimal_ne_nil n)
  have hbound : int4Bound negative < 10 ^ 21 := by cases negative <;> decide
  -- an integer in range is written without an exponent
  have hshort : ∀ k : Nat, exponent = k → n * 10 ^ k ≤ int4Bound negative →
      (decimal n).length + exponent ≤ 21 := by
    intro k hk hle
    have hwhole := whole_length_le hn (hle.trans_lt hbound)
    omega
  have htake : ∀ {k : Nat}, k ≠ 0 → (decimal n).take k ≠ [] := by
    intro k hk
    rw [ne_eq, List.take_eq_nil_iff, not_or]
    exact ⟨hk, decimal_ne_nil n⟩
  unfold layout
  dsimp only
  split_ifs with hwhole hpoint hsmall
  · obtain ⟨k, rfl⟩ := Int.eq_ofNat_of_zero_le (show 0 ≤ exponent by omega)
    rw [int4in_literal (by simp [decimal_ne_nil])
      (fun unit hunit => (List.mem_append.mp hunit).elim (hdigits unit) (hzeros _ unit)) (by simp),
      digitsValue_append, digitsValue_decimal, digitsValue_zeros, List.length_replicate,
      Int.toNat_natCast, Nat.add_zero]
    simp
  · rw [int4in_literal (htake (by omega))
      (fun unit hunit => hdigits unit (List.mem_of_mem_take hunit))
      (fun unit hunit => hdigits unit (List.mem_of_mem_drop hunit)), List.drop_eq_nil_iff]
    constructor
    · rintro ⟨hdrop, -⟩
      omega
    · rintro ⟨k, rfl, -⟩
      omega
  · rw [int4in_literal (by simp) (by simp [isDigit])
      (fun unit hunit => (List.mem_append.mp hunit).elim (hzeros _ unit) (hdigits unit))]
    constructor
    · rintro ⟨hnil, -⟩
      exact absurd (List.append_eq_nil_iff.mp hnil).2 (decimal_ne_nil n)
    · rintro ⟨k, rfl, -⟩
      omega
  · rw [int4in_literal (htake (by omega))
      (fun unit hunit => hdigits unit (List.mem_of_mem_take hunit))
      (fun unit hunit => hdigits unit (List.mem_of_mem_drop hunit))]
    constructor
    · rintro ⟨-, hexponent, -⟩
      cases hexponent
    · rintro ⟨k, hk, hle⟩
      have hfew := hshort k hk hle
      omega

/-- A number that a short whole decimal is rounded to is that integer. -/
theorem toInt_of_ofDecimal {negative : Bool} {m : Magnitude binary64} {value : Nat}
    (hpos : 0 < value) (hround : ofDecimal binary64 negative value 0 = .finite negative m)
    (hle : value ≤ int4Bound negative) :
    ∃ k, (Number.finite negative m).toInt = some k ∧ -2147483648 ≤ k ∧ k ≤ 2147483647 := by
  have hinteger : ofInteger binary64 (if negative then -(value : Int) else value) =
      .finite negative m := by
    rw [← hround, ofInteger]
    cases negative with
    | true => simp [hpos]
    | false =>
        have hsign : decide ((value : Int) < 0) = false := decide_eq_false (by omega)
        simp [hsign]
  have hprecision : (2 : Nat) ^ binary64.precision = 9007199254740992 := by decide
  rw [int4Bound] at hle
  refine ⟨if negative then -(value : Int) else value, ?_, ?_⟩
  · rw [← hinteger]
    refine Number.toInt_ofInteger ?_ binary64_roomy
    rw [hprecision]
    split at hle <;> split <;> omega
  · split at hle <;> split <;> omega

/-- The shortest decimal of a 32-bit integer is whole, and within the bound of its sign. -/
theorem shortest_of_toInt {negative : Bool} {m : Magnitude binary64} {i : Int}
    (hi : (Number.finite negative m).toInt = some i) (hlow : -2147483648 ≤ i)
    (hhigh : i ≤ 2147483647) :
    ∃ k : Nat, (shortest binary64 m.units).2 = k ∧
      (shortest binary64 m.units).1 * 10 ^ k ≤ int4Bound negative := by
  have hsigned := Number.toInt_finite.mp hi
  have hunits : m.units = i.natAbs * 2 ^ binary64.scale := by
    have htwo : (2 : Int).natAbs = 2 := by decide
    rw [← Number.natAbs_signed negative m, hsigned, Int.natAbs_mul, Int.natAbs_pow, htwo]
  have hprecision : i.natAbs < 2 ^ binary64.precision := by
    have hvalue : (2 : Nat) ^ binary64.precision = 9007199254740992 := by decide
    omega
  rcases shortest_integer hprecision binary64_roomy (by decide) with ⟨digits, k, hdigits, hk⟩
  rw [hunits, hdigits]
  refine ⟨k, rfl, ?_⟩
  rw [hk, int4Bound]
  cases negative with
  | true =>
      rw [if_pos rfl]
      omega
  | false =>
      -- a number without a sign is not negative
      have hnonneg : 0 ≤ i * 2 ^ binary64.scale := by
        rw [← hsigned]
        exact Int.natCast_nonneg m.units
      have hpositive : 0 ≤ i := nonneg_of_mul_nonneg_left hnonneg (by positivity)
      simp only [Bool.false_eq_true, if_false]
      omega

/-- Of the texts of numbers, those of 32-bit integers are taken. -/
theorem int4in_text (x : Number binary64) :
    (int4in x.text).isSome = true ↔
      ∃ k, x.toInt = some k ∧ -2147483648 ≤ k ∧ k ≤ 2147483647 := by
  cases x with
  | nan =>
      rw [Number.text]
      exact iff_of_false (by decide) (by simp [Number.toInt])
  | infinity negative =>
      rw [Number.text]
      exact iff_of_false (by cases negative <;> decide) (by simp [Number.toInt])
  | finite negative m =>
      by_cases hzero : m.units = 0
      · rw [Number.text, if_pos hzero]
        refine iff_of_true (by decide) ⟨0, Number.toInt_finite.mpr ?_, by omega, by omega⟩
        simp [Number.signed, hzero]
      have hpos := shortest_pos hzero
      rw [Number.text, if_neg hzero, int4in_layout hpos]
      constructor
      · rintro ⟨k, hk, hle⟩
        -- the decimal is whole, and the number is what it is rounded to
        have hround := ofDecimal_shortest negative m
        rw [hk, ← ofDecimal_scale] at hround
        exact toInt_of_ofDecimal (Nat.mul_pos hpos (Nat.pow_pos (by omega))) hround hle
      · rintro ⟨i, hi, hlow, hhigh⟩
        exact shortest_of_toInt hi hlow hhigh

end Numerals
