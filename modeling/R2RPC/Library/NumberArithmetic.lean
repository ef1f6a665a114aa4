import R2RPC.Library.Binary64
import Mathlib.Data.Int.Order.Basic

/-!
# Sums, products and comparisons of binary numbers

The exact result of an operation is counted in the units of its operands and rounded once.

Main results:

- Definitions {lit}`Number.add`, {lit}`Number.mul`, {lit}`Number.le`.
- Theorems {lit}`toInt_add` and {lit}`toInt_mul`: an integer result that fits the mantissa is
  exact.
- Theorem {lit}`le_iff`: the order of integers.
- Theorem {lit}`nearest_lower`: rounding does not cross a power of two.

Current gaps:

- {lit}`max` and {lit}`min` do not tell the two zeros apart.
-/

namespace Binary

variable {F : Format}

/-! ## Rounded results -/

/-- The number nearest to `a / b` units. -/
def ofUnits (F : Format) (negative : Bool) (a b : Nat) : Number F :=
  if h : nearest F a b < 2 ^ F.limit then .finite negative ⟨nearest F a b, nearest_dvd _ _, h⟩
  else .infinity negative

namespace Number

/-- Signed units. -/
def signed (negative : Bool) (m : Magnitude F) : Int :=
  if negative then -(m.units : Int) else m.units

/-- The product. -/
def mul : Number F → Number F → Number F
  | .nan, _ => .nan
  | _, .nan => .nan
  | .infinity negative, .infinity negative' => .infinity (negative != negative')
  | .infinity negative, .finite negative' m =>
      if m.units = 0 then .nan else .infinity (negative != negative')
  | .finite negative m, .infinity negative' =>
      if m.units = 0 then .nan else .infinity (negative != negative')
  | .finite negative m, .finite negative' m' =>
      ofUnits F (negative != negative') (m.units * m'.units) (2 ^ F.scale)

/-- The sum. -/
def add : Number F → Number F → Number F
  | .nan, _ => .nan
  | _, .nan => .nan
  | .infinity negative, .infinity negative' =>
      if negative = negative' then .infinity negative else .nan
  | .infinity negative, .finite _ _ => .infinity negative
  | .finite _ _, .infinity negative => .infinity negative
  | .finite negative m, .finite negative' m' =>
      let units := signed negative m + signed negative' m'
      if units = 0 then ofUnits F (negative && negative') 0 1
      else ofUnits F (decide (units < 0)) units.natAbs 1

/-- The opposite. -/
def neg : Number F → Number F
  | .nan => .nan
  | .infinity negative => .infinity (!negative)
  | .finite negative m => .finite (!negative) m

/-- The difference. -/
def sub (x y : Number F) : Number F := x.add y.neg

/-- `<=`. -/
def le : Number F → Number F → Bool
  | .nan, _ => false
  | _, .nan => false
  | .infinity negative, .infinity negative' => negative || !negative'
  | .infinity negative, .finite _ _ => negative
  | .finite _ _, .infinity negative => !negative
  | .finite negative m, .finite negative' m' => decide (signed negative m ≤ signed negative' m')

/-- `Math.max`. -/
def max (x y : Number F) : Number F :=
  if x = .nan ∨ y = .nan then .nan else if x.le y then y else x

/-- `Math.min`. -/
def min (x y : Number F) : Number F :=
  if x = .nan ∨ y = .nan then .nan else if x.le y then x else y

end Number

/-- An integer, rounded. -/
def ofInteger (F : Format) (k : Int) : Number F := ofDecimal F (decide (k < 0)) k.natAbs 0

/-! ## Integers -/

/-- The mantissa of a format fits below its overflow threshold. -/
def Format.Roomy (F : Format) : Prop := F.precision + F.scale < F.limit

theorem binary64_roomy : binary64.Roomy := by
  unfold Format.Roomy
  decide

namespace Number

/-- An integer is a whole number of units. -/
theorem toInt_finite {negative : Bool} {m : Magnitude F} {k : Int} :
    (Number.finite negative m).toInt = some k ↔ signed negative m = k * 2 ^ F.scale := by
  have hpos : 0 < 2 ^ F.scale := Nat.two_pow_pos F.scale
  have hcast : (2 : Int) ^ F.scale = ((2 ^ F.scale : Nat) : Int) := by norm_cast
  constructor
  · intro h
    simp only [toInt] at h
    split at h
    · rename_i hzero
      have hunits : (m.units : Int) = (m.units / 2 ^ F.scale : Nat) * 2 ^ F.scale := by
        exact_mod_cast (Nat.div_mul_cancel (Nat.dvd_of_mod_eq_zero hzero)).symm
      rw [Option.some.injEq] at h
      rw [← h, signed]
      split
      · rw [Int.neg_mul, ← hunits]
      · exact hunits
    · cases h
  · intro h
    have hunits : ((m.units : Nat) : Int) = (if negative then -k else k) * (2 ^ F.scale : Nat) := by
      rw [hcast] at h
      unfold signed at h
      split at h
      · rename_i hnegative
        rw [if_pos hnegative, Int.neg_mul, ← h, Int.neg_neg]
      · rename_i hpositive
        rw [if_neg hpositive, h]
    have hdvd : 2 ^ F.scale ∣ m.units := by
      rw [← Int.natCast_dvd_natCast, hunits]
      exact Dvd.intro_left _ rfl
    have hquotient : ((m.units / 2 ^ F.scale : Nat) : Int) = if negative then -k else k := by
      rw [Int.natCast_ediv, hunits]
      exact Int.mul_ediv_cancel _ (by exact_mod_cast hpos.ne')
    simp only [toInt, Nat.mod_eq_zero_of_dvd hdvd, if_true, hquotient]
    split <;> simp

/-- An integer is finite. -/
theorem finite_of_toInt {n : Number F} {k : Int} (h : n.toInt = some k) :
    ∃ negative m, n = .finite negative m ∧ signed negative m = k * 2 ^ F.scale := by
  cases n with
  | finite negative m => exact ⟨negative, m, rfl, toInt_finite.mp h⟩
  | nan => cases h
  | infinity negative => cases h

/-- Whole units that fit the mantissa are not rounded. -/
theorem toInt_ofUnits {negative : Bool} {k b : Nat} (hb : 0 < b) (hk : k ≤ 2 ^ F.precision)
    (hroomy : F.Roomy) :
    (ofUnits F negative (k * 2 ^ F.scale * b) b).toInt =
      some (if negative then -(k : Int) else k) := by
  have hlt : k * 2 ^ F.scale < 2 ^ F.limit := by
    calc
      k * 2 ^ F.scale ≤ 2 ^ F.precision * 2 ^ F.scale := Nat.mul_le_mul_right _ hk
      _ = 2 ^ (F.precision + F.scale) := (pow_add 2 _ _).symm
      _ < 2 ^ F.limit := Nat.pow_lt_pow_right (by omega) hroomy
  have hexact : nearest F (k * 2 ^ F.scale * b) b = k * 2 ^ F.scale :=
    nearest_mul ⟨dvd_of_mantissa hk, hlt⟩ hb
  rw [ofUnits, dif_pos (by rw [hexact]; exact hlt), toInt_finite, signed]
  simp only [hexact]
  split <;> push_cast <;> ring

/-- The order of integers. -/
theorem le_iff {x y : Number F} {a b : Int} (hx : x.toInt = some a) (hy : y.toInt = some b) :
    x.le y = true ↔ a ≤ b := by
  rcases finite_of_toInt hx with ⟨negative, m, rfl, hm⟩
  rcases finite_of_toInt hy with ⟨negative', m', rfl, hm'⟩
  rw [le, decide_eq_true_eq, hm, hm']
  exact Int.mul_le_mul_right (by positivity)

theorem natAbs_signed (negative : Bool) (m : Magnitude F) : (signed negative m).natAbs = m.units := by
  unfold signed
  split <;> simp

theorem signed_mul (negative negative' : Bool) (m m' : Magnitude F) :
    signed negative m * signed negative' m' =
      if negative != negative' then -((m.units * m'.units : Nat) : Int)
      else ((m.units * m'.units : Nat) : Int) := by
  cases negative <;> cases negative' <;> simp [signed]

/-- The product of integers, if it fits the mantissa. -/
theorem toInt_mul {x y : Number F} {a b : Int} (hx : x.toInt = some a) (hy : y.toInt = some b)
    (hfits : (a * b).natAbs ≤ 2 ^ F.precision) (hroomy : F.Roomy) :
    (x.mul y).toInt = some (a * b) := by
  rcases finite_of_toInt hx with ⟨negative, m, rfl, hm⟩
  rcases finite_of_toInt hy with ⟨negative', m', rfl, hm'⟩
  have hpos : (0 : Int) < 2 ^ F.scale := by positivity
  have hunits : m.units * m'.units = (a * b).natAbs * 2 ^ F.scale * 2 ^ F.scale := by
    rw [← natAbs_signed negative m, ← natAbs_signed negative' m', hm, hm', Int.natAbs_mul,
      Int.natAbs_mul, Int.natAbs_mul, Int.natAbs_pow]
    show a.natAbs * 2 ^ F.scale * (b.natAbs * 2 ^ F.scale) = _
    ring
  have hproduct : a * b * (2 ^ F.scale * 2 ^ F.scale) =
      (if negative != negative' then -((a * b).natAbs : Int) else ((a * b).natAbs : Int)) *
        (2 ^ F.scale * 2 ^ F.scale) := by
    have hsigned := signed_mul negative negative' m m'
    rw [hm, hm', hunits] at hsigned
    calc
      a * b * (2 ^ F.scale * 2 ^ F.scale) = a * 2 ^ F.scale * (b * 2 ^ F.scale) := by ring
      _ = _ := hsigned
      _ = _ := by split <;> push_cast <;> ring
  rw [mul, hunits, toInt_ofUnits (by positivity) hfits hroomy]
  exact congrArg some (Int.eq_of_mul_eq_mul_right (Int.mul_pos hpos hpos).ne' hproduct).symm

/-- The sum of integers, if it fits the mantissa. -/
theorem toInt_add {x y : Number F} {a b : Int} (hx : x.toInt = some a) (hy : y.toInt = some b)
    (hfits : (a + b).natAbs ≤ 2 ^ F.precision) (hroomy : F.Roomy) :
    (x.add y).toInt = some (a + b) := by
  rcases finite_of_toInt hx with ⟨negative, m, rfl, hm⟩
  rcases finite_of_toInt hy with ⟨negative', m', rfl, hm'⟩
  have hsum : signed negative m + signed negative' m' = (a + b) * 2 ^ F.scale := by
    rw [hm, hm', Int.add_mul]
  have hpos : (0 : Int) < 2 ^ F.scale := by positivity
  simp only [add, hsum]
  split
  · rename_i hzero
    have hsumZero : a + b = 0 := by
      rcases Int.mul_eq_zero.mp hzero with h | h
      · exact h
      · exact absurd h hpos.ne'
    have hround : (ofUnits F (negative && negative') (0 * 2 ^ F.scale * 1) 1).toInt =
        some (if negative && negative' then -((0 : Nat) : Int) else (0 : Nat)) :=
      toInt_ofUnits Nat.one_pos (Nat.zero_le _) hroomy
    rw [Nat.zero_mul, Nat.zero_mul] at hround
    rw [hround, hsumZero]
    split <;> rfl
  · rename_i hne
    have habs : ((a + b) * 2 ^ F.scale).natAbs = (a + b).natAbs * 2 ^ F.scale * 1 := by
      rw [Int.natAbs_mul, Int.natAbs_pow, Nat.mul_one]
      rfl
    rw [habs, toInt_ofUnits Nat.one_pos hfits hroomy]
    have hsign : ((a + b) * 2 ^ F.scale < 0) ↔ a + b < 0 := by
      constructor
      · intro h
        by_contra hnonneg
        exact absurd h (not_lt.mpr (Int.mul_nonneg (not_lt.mp hnonneg) hpos.le))
      · intro h
        exact Int.mul_neg_of_neg_of_pos h hpos
    simp only [hsign, decide_eq_true_eq, Option.some.injEq]
    split <;> omega

theorem toInt_neg {x : Number F} {a : Int} (hx : x.toInt = some a) : x.neg.toInt = some (-a) := by
  rcases finite_of_toInt hx with ⟨negative, m, rfl, hm⟩
  rw [neg, toInt_finite, Int.neg_mul, ← hm]
  cases negative <;> simp [signed]

/-- The difference of integers, if it fits the mantissa. -/
theorem toInt_sub {x y : Number F} {a b : Int} (hx : x.toInt = some a) (hy : y.toInt = some b)
    (hfits : (a - b).natAbs ≤ 2 ^ F.precision) (hroomy : F.Roomy) :
    (x.sub y).toInt = some (a - b) :=
  toInt_add hx (toInt_neg hy) hfits hroomy

theorem ne_nan_of_toInt {x : Number F} {a : Int} (hx : x.toInt = some a) : x ≠ .nan := by
  rintro rfl
  cases hx

theorem toInt_max {x y : Number F} {a b : Int} (hx : x.toInt = some a) (hy : y.toInt = some b) :
    (x.max y).toInt = some (Max.max a b) := by
  rw [max, if_neg (by simp [ne_nan_of_toInt hx, ne_nan_of_toInt hy])]
  split
  · rename_i hle
    rw [hy, max_eq_right ((le_iff hx hy).mp hle)]
  · rename_i hgt
    rw [le_iff hx hy, not_le] at hgt
    rw [hx, max_eq_left hgt.le]

theorem toInt_min {x y : Number F} {a b : Int} (hx : x.toInt = some a) (hy : y.toInt = some b) :
    (x.min y).toInt = some (Min.min a b) := by
  rw [min, if_neg (by simp [ne_nan_of_toInt hx, ne_nan_of_toInt hy])]
  split
  · rename_i hle
    rw [hx, min_eq_left ((le_iff hx hy).mp hle)]
  · rename_i hgt
    rw [le_iff hx hy, not_le] at hgt
    rw [hy, min_eq_right hgt.le]

end Number

/-! ## Large results -/

theorem le_roundHalfEven (a b : Nat) : a / b ≤ roundHalfEven a b := by
  unfold roundHalfEven
  split
  · exact le_rfl
  · split <;> omega

/-- Rounding does not cross a power of two from above. -/
theorem nearest_lower {a b k : Nat} (h : 2 ^ k ≤ a / b) : 2 ^ k ≤ nearest F a b := by
  have hprecision := F.precision_pos
  have hne : a / b ≠ 0 := by
    have hpos := Nat.two_pow_pos k
    omega
  have hbits : k ≤ (a / b).log2 := (Nat.le_log2 hne).mpr h
  have hshift : F.shift (a / b) ≤ (a / b).log2 := by
    unfold Format.shift
    omega
  have hmantissa : 2 ^ ((a / b).log2 - F.shift (a / b)) ≤
      roundHalfEven a (b * 2 ^ F.shift (a / b)) := by
    refine le_trans ?_ (le_roundHalfEven _ _)
    rw [← Nat.div_div_eq_div_mul, Nat.le_div_iff_mul_le (by positivity), ← pow_add,
      Nat.sub_add_cancel hshift]
    exact Nat.log2_self_le hne
  calc
    2 ^ k ≤ 2 ^ (a / b).log2 := Nat.pow_le_pow_right (by omega) hbits
    _ = 2 ^ ((a / b).log2 - F.shift (a / b)) * 2 ^ F.shift (a / b) := by
      rw [← pow_add, Nat.sub_add_cancel hshift]
    _ ≤ nearest F a b := Nat.mul_le_mul_right _ hmantissa

namespace Number

/-- A rounded result from a power of two on is above an integer below it. -/
theorem le_ofUnits {z : Number F} {c : Int} {a b k : Nat} (hz : z.toInt = some c)
    (hlarge : 2 ^ (k + F.scale) ≤ a / b) (hc : c < 2 ^ k) :
    (ofUnits F false a b).le z = false ∧ z.le (ofUnits F false a b) = true := by
  rcases finite_of_toInt hz with ⟨negative, m, rfl, hm⟩
  have hpos : (0 : Int) < 2 ^ F.scale := by positivity
  have hnearest := nearest_lower (F := F) hlarge
  rw [ofUnits]
  split
  · have hvalue : (2 : Int) ^ (k + F.scale) ≤ (nearest F a b : Nat) := by exact_mod_cast hnearest
    have hlt : c * 2 ^ F.scale < (nearest F a b : Nat) := by
      calc
        c * 2 ^ F.scale < 2 ^ k * 2 ^ F.scale := Int.mul_lt_mul_of_pos_right hc hpos
        _ = 2 ^ (k + F.scale) := (pow_add 2 _ _).symm
        _ ≤ _ := hvalue
    rw [le, decide_eq_false_iff_not, not_le, le, decide_eq_true_eq, hm]
    exact ⟨hlt, hlt.le⟩
  · exact ⟨rfl, rfl⟩

/-- A large difference is above an integer that is not. -/
theorem le_sub {x y z : Number F} {a b c : Int} {k : Nat} (hx : x.toInt = some a)
    (hy : y.toInt = some b) (hz : z.toInt = some c) (hlarge : 2 ^ k ≤ a - b) (hc : c < 2 ^ k) :
    z.le (x.sub y) = true := by
  rcases finite_of_toInt hx with ⟨negative, m, rfl, hm⟩
  rcases finite_of_toInt (toInt_neg hy) with ⟨negative', m', heq, hm'⟩
  have hpos : (0 : Int) < 2 ^ F.scale := by positivity
  have hunits : signed negative m + signed negative' m' = (a - b) * 2 ^ F.scale := by
    rw [hm, hm']
    ring
  have hfits : (2 : Int) ^ (k + F.scale) ≤ (a - b) * 2 ^ F.scale := by
    rw [pow_add]
    exact Int.mul_le_mul_of_nonneg_right hlarge hpos.le
  have hlower : (0 : Int) < (a - b) * 2 ^ F.scale :=
    lt_of_lt_of_le (by positivity) hfits
  rw [sub, heq]
  simp only [add, hunits]
  rw [if_neg hlower.ne', decide_eq_false (by omega)]
  refine (le_ofUnits hz ?_ hc).2
  rw [Nat.div_one, ← Int.ofNat_le, Int.natAbs_of_nonneg hlower.le]
  push_cast
  exact hfits

theorem sign_of_pos {negative : Bool} {m : Magnitude F} {a : Int}
    (hm : signed negative m = a * 2 ^ F.scale) (ha : 0 < a) : negative = false := by
  have hpos : 0 < signed negative m := by
    rw [hm]
    exact Int.mul_pos ha (by positivity)
  cases negative with
  | false => rfl
  | true =>
      unfold signed at hpos
      rw [if_pos rfl] at hpos
      omega

/-- A product that does not fit the mantissa is far above an integer that does. -/
theorem le_mul_eq_false {x y z : Number F} {a b c : Int} {k : Nat} (hx : x.toInt = some a)
    (hy : y.toInt = some b) (hz : z.toInt = some c) (ha : 0 < a) (hb : 0 < b)
    (hlarge : 2 ^ k ≤ a * b) (hc : c < 2 ^ k) : (x.mul y).le z = false := by
  rcases finite_of_toInt hx with ⟨negative, m, rfl, hm⟩
  rcases finite_of_toInt hy with ⟨negative', m', rfl, hm'⟩
  have hpos : (0 : Int) < 2 ^ F.scale := by positivity
  obtain rfl := sign_of_pos hm ha
  obtain rfl := sign_of_pos hm' hb
  have hunits : ((m.units * m'.units : Nat) : Int) = a * b * (2 ^ F.scale * 2 ^ F.scale) := by
    have hfirst : (m.units : Int) = a * 2 ^ F.scale := by simpa [signed] using hm
    have hsecond : (m'.units : Int) = b * 2 ^ F.scale := by simpa [signed] using hm'
    push_cast
    rw [hfirst, hsecond]
    ring
  have hquotient : 2 ^ (k + F.scale) ≤ m.units * m'.units / 2 ^ F.scale := by
    rw [Nat.le_div_iff_mul_le (by positivity), ← Int.ofNat_le, hunits]
    push_cast
    calc
      (2 : Int) ^ (k + F.scale) * 2 ^ F.scale = 2 ^ k * (2 ^ F.scale * 2 ^ F.scale) := by ring
      _ ≤ a * b * (2 ^ F.scale * 2 ^ F.scale) :=
        Int.mul_le_mul_of_nonneg_right hlarge (by positivity)
  exact (le_ofUnits hz hquotient hc).1

/-- What overflows keeps its sign. -/
theorem ofUnits_ne_infinity (negative : Bool) (a b : Nat) :
    ofUnits F negative a b ≠ .infinity (!negative) := by
  rw [ofUnits]
  split <;> simp

/-- A product of positive integers, added to an integer that fits the mantissa, does not overflow
downwards. -/
theorem add_mul_ne_infinity {x y z : Number F} {a b c : Int} (hx : x.toInt = some a)
    (hy : y.toInt = some b) (hz : z.toInt = some c) (ha : 0 < a) (hb : 0 < b)
    (hc : c.natAbs < 2 ^ F.precision) (hroomy : F.Roomy) :
    z.add (x.mul y) ≠ .infinity true := by
  rcases finite_of_toInt hx with ⟨negative, m, rfl, hm⟩
  rcases finite_of_toInt hy with ⟨negative', m', rfl, hm'⟩
  rcases finite_of_toInt hz with ⟨sign, n, rfl, hn⟩
  obtain rfl := sign_of_pos hm ha
  obtain rfl := sign_of_pos hm' hb
  rw [mul, ofUnits]
  split
  next hfinite =>
    generalize hproduct : (⟨nearest F _ _, nearest_dvd _ _, hfinite⟩ : Magnitude F) = product
    simp only [bne_self_eq_false, add]
    split
    · rw [Bool.and_false]
      exact ofUnits_ne_infinity false 0 1
    · by_cases hbelow : signed sign n + signed false product < 0
      · -- the sum lies between the integer and zero
        have hunits : (signed sign n + signed false product).natAbs / 1 <
            2 ^ (F.precision + F.scale) := by
          have hscaled : (c * 2 ^ F.scale).natAbs < 2 ^ (F.precision + F.scale) := by
            rw [Int.natAbs_mul, Int.natAbs_pow, pow_add]
            exact Nat.mul_lt_mul_of_pos_right hc (by positivity)
          have hnonneg : 0 ≤ signed false product := by simp [signed]
          rw [← hn] at hscaled
          omega
        have hnearest := nearest_le hunits (Nat.le_add_right ..)
        have hlimit : 2 ^ (F.precision + F.scale) < 2 ^ F.limit :=
          Nat.pow_lt_pow_right (by omega) hroomy
        rw [ofUnits, dif_pos (lt_of_le_of_lt hnearest hlimit)]
        simp
      · rw [decide_eq_false hbelow]
        exact ofUnits_ne_infinity false _ _
  next => simp [add]

/-- An integer that fits the mantissa is not rounded. -/
theorem toInt_ofInteger {k : Int} (h : k.natAbs ≤ 2 ^ F.precision) (hroomy : F.Roomy) :
    (ofInteger F k).toInt = some k := by
  have hunits : ofInteger F k = ofUnits F (decide (k < 0)) (k.natAbs * 2 ^ F.scale * 1) 1 := by
    simp only [ofInteger, ofDecimal, ofUnits, decimalUnits_whole, Nat.mul_one]
  rw [hunits, toInt_ofUnits Nat.one_pos h hroomy, Option.some.injEq]
  simp only [decide_eq_true_eq]
  split <;> omega

end Number

end Binary
