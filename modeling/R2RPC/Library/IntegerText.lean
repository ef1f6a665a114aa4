import R2RPC.Library.NumberArithmetic
import R2RPC.Library.NumberText

/-!
# The text of an integer

The integers that fit the mantissa of a format are written without a point and without an
exponent, so that a reader of plain decimals gets them back.

Main results:

- Theorem {lit}`shortest_integer`: the digits and the zeros of such an integer.
- Theorem {lit}`text_integer`: its text.
- Definition {lit}`readInteger`: a reader of plain decimals.

Current gaps:

- Integers beyond the mantissa.
-/

namespace Binary

open Utf16

variable {F : Format}

/-! ## The shortest decimal of an integer -/

theorem integer_magnitude {n : Nat} (hn : n ≤ 2 ^ F.precision) (hroomy : F.Roomy) :
    IsMagnitude F (n * 2 ^ F.scale) := by
  refine ⟨dvd_of_mantissa hn, ?_⟩
  calc
    n * 2 ^ F.scale ≤ 2 ^ F.precision * 2 ^ F.scale := Nat.mul_le_mul_right _ hn
    _ = 2 ^ (F.precision + F.scale) := (pow_add 2 _ _).symm
    _ < 2 ^ F.limit := Nat.pow_lt_pow_right (by omega) hroomy

theorem decimalUnits_integer {n : Nat} (hn : n ≤ 2 ^ F.precision) (hroomy : F.Roomy) :
    decimalUnits F n 0 = n * 2 ^ F.scale := by
  have hexact := nearest_mul (integer_magnitude hn hroomy) Nat.one_pos
  rwa [Nat.mul_one, ← decimalUnits_whole] at hexact

/-- An integer is its own decimal without an exponent. -/
theorem digitsAt_integer {n : Nat} (hn : n ≤ 2 ^ F.precision) (hroomy : F.Roomy) :
    digitsAt F (n * 2 ^ F.scale) 0 = some n := by
  have hscaled : scaled F (n * 2 ^ F.scale) 0 = (n * 2 ^ F.scale, 2 ^ F.scale * 10 ^ 0) := rfl
  have hquotient : n * 2 ^ F.scale / (2 ^ F.scale * 10 ^ 0) = n := by
    rw [pow_zero, Nat.mul_one]
    exact Nat.mul_div_cancel n (Nat.two_pow_pos _)
  have hremainder : n * 2 ^ F.scale % (2 ^ F.scale * 10 ^ 0) = 0 := by
    rw [pow_zero, Nat.mul_one]
    exact Nat.mul_mod_left _ _
  have hlower : preferLower (n * 2 ^ F.scale) (2 ^ F.scale * 10 ^ 0) = true := by
    rw [preferLower, hremainder]
    simp
  simp only [digitsAt, hscaled, hquotient, hlower, decimalUnits_integer hn hroomy]
  simp

/-- The search ends at the latest without an exponent. -/
theorem shortestFrom_nonneg {n : Nat} (hn : n ≤ 2 ^ F.precision) (hroomy : F.Roomy)
    (hscale : 0 < F.scale) (j : Nat) :
    0 ≤ (shortestFrom F (n * 2 ^ F.scale) (j + F.scale)).2 := by
  induction j with
  | zero =>
      obtain ⟨s, hs⟩ : ∃ s, F.scale = s + 1 := ⟨F.scale - 1, by omega⟩
      have hexponent : (s : Int) + 1 - F.scale = 0 := by omega
      have hsteps : 0 + F.scale = s + 1 := by omega
      rw [hsteps, shortestFrom, hexponent, digitsAt_integer hn hroomy]
  | succ j ih =>
      have hsteps : j + 1 + F.scale = j + F.scale + 1 := by omega
      rw [hsteps, shortestFrom]
      split
      · push_cast
        omega
      · exact ih

/-- The digits and the zeros of an integer. -/
theorem shortest_integer {n : Nat} (hn : n < 2 ^ F.precision) (hroomy : F.Roomy)
    (hscale : 0 < F.scale) :
    ∃ digits k : Nat, shortest F (n * 2 ^ F.scale) = (digits, (k : Int)) ∧ digits * 10 ^ k = n := by
  have hnonneg : 0 ≤ (shortest F (n * 2 ^ F.scale)).2 :=
    shortestFrom_nonneg hn.le hroomy hscale _
  obtain ⟨k, hk⟩ := Int.eq_ofNat_of_zero_le hnonneg
  refine ⟨(shortest F (n * 2 ^ F.scale)).1, k, by rw [← hk], ?_⟩
  set digits := (shortest F (n * 2 ^ F.scale)).1 with hdigits
  have hunits : decimalUnits F digits k = n * 2 ^ F.scale := by
    rw [hdigits, ← hk]
    exact decimalUnits_shortestFrom (integer_magnitude hn.le hroomy) _
  have hnearest : nearest F (digits * 10 ^ k * 2 ^ F.scale) 1 = n * 2 ^ F.scale := hunits
  have hsmall : digits * 10 ^ k < 2 ^ F.precision := by
    by_contra hlarge
    have hlower : 2 ^ (F.precision + F.scale) ≤ nearest F (digits * 10 ^ k * 2 ^ F.scale) 1 := by
      refine nearest_lower ?_
      rw [Nat.div_one, pow_add]
      exact Nat.mul_le_mul_right _ (not_lt.mp hlarge)
    rw [hnearest, pow_add] at hlower
    exact absurd (Nat.le_of_mul_le_mul_right hlower (by positivity)) (not_le.mpr hn)
  rw [← decimalUnits_whole, decimalUnits_integer hsmall.le hroomy] at hnearest
  exact Nat.eq_of_mul_eq_mul_right (Nat.two_pow_pos _) hnearest

/-! ## Plain decimals -/

/-- A positive integer in plain decimals, as a strict reader of integers takes it. -/
def readInteger (text : JsString) : Option Nat :=
  if text ≠ [] ∧ (∀ unit ∈ text, isDigit unit = true) ∧ text.head? ≠ some 48 then
    some (digitsValue text)
  else none

/-- Digits and zeros are few when they fit. -/
theorem whole_length_le {digits k : Nat} (hpos : 0 < digits) (hfits : digits * 10 ^ k < 10 ^ 21) :
    (decimal digits).length + k ≤ 21 := by
  have hk : k < 21 := by
    by_contra hlarge
    have hle : 10 ^ 21 ≤ digits * 10 ^ k :=
      calc
        10 ^ 21 ≤ 10 ^ k := Nat.pow_le_pow_right (by omega) (not_lt.mp hlarge)
        _ ≤ digits * 10 ^ k := Nat.le_mul_of_pos_left _ hpos
    omega
  have hlength : (decimal digits).length ≤ 21 - k := by
    refine decimal_length_le (by omega) ?_
    have hsplit : (10 : Nat) ^ 21 = 10 ^ (21 - k) * 10 ^ k := by
      rw [← pow_add, Nat.sub_add_cancel hk.le]
    rw [hsplit] at hfits
    exact Nat.lt_of_mul_lt_mul_right hfits
  omega

/-- Digits and zeros that fit are written as they are. -/
theorem layout_whole {digits k : Nat} (hpos : 0 < digits) (hfits : digits * 10 ^ k < 10 ^ 21) :
    layout false (decimal digits) k = decimal digits ++ List.replicate k 48 := by
  have hlength := whole_length_le hpos hfits
  simp only [layout]
  rw [if_pos (by constructor <;> omega)]
  simp [literal, fractionText, exponentText]

/-- A positive integer below the mantissa's bound is written in plain decimals. -/
theorem text_integer {x : Number F} {n : Nat} (hx : x.toInt = some (n : Int)) (hpos : 0 < n)
    (hn : n < 2 ^ F.precision) (hroomy : F.Roomy) (hscale : 0 < F.scale)
    (hfits : 2 ^ F.precision ≤ 10 ^ 21) : readInteger x.text = some n := by
  rcases Number.finite_of_toInt hx with ⟨negative, m, rfl, hm⟩
  have hscaled : (n : Int) * 2 ^ F.scale = ((n * 2 ^ F.scale : Nat) : Int) := by push_cast; rfl
  have hunitsPos : 0 < n * 2 ^ F.scale := by positivity
  have hfields : negative = false ∧ m.units = n * 2 ^ F.scale := by
    rw [hscaled] at hm
    unfold Number.signed at hm
    split at hm
    · omega
    · rename_i hsign
      exact ⟨Bool.eq_false_iff.mpr hsign, by exact_mod_cast hm⟩
  rcases hfields with ⟨rfl, hunits⟩
  rcases shortest_integer hn hroomy hscale with ⟨digits, k, hshortest, hvalue⟩
  have hdigits : 0 < digits := by
    rcases Nat.eq_zero_or_pos digits with rfl | h
    · omega
    · exact h
  have htext : (Number.finite false m).text = decimal digits ++ List.replicate k 48 := by
    rw [Number.text, if_neg (by omega), hunits, hshortest]
    exact layout_whole hdigits (by rw [hvalue]; omega)
  rw [htext, readInteger, if_pos]
  · rw [digitsValue_append, digitsValue_decimal, digitsValue_zeros, List.length_replicate,
      Nat.add_zero, hvalue]
  · refine ⟨by simp [decimal_ne_nil], fun unit hmem => ?_, ?_⟩
    · rcases List.mem_append.mp hmem with h | h
      · exact isDigit_of_mem_decimal h
      · rw [List.eq_of_mem_replicate h]
        decide
    · rw [List.head?_append_of_ne_nil _ (decimal_ne_nil _)]
      exact decimal_head hdigits

end Binary
