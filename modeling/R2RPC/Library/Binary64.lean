import Mathlib.Data.Nat.Log
import Mathlib.Tactic.Positivity
import Mathlib.Tactic.Ring
import R2RPC.Library.Utf16

/-!
# Binary floating point and its decimal text

The numbers of ECMAScript, over an arbitrary binary format.  A finite magnitude is
counted in units of the last place of the smallest number, so that rounding and the
search for the shortest decimal are computations on natural numbers.

Main results:

- Definition {lit}`ofDecimal`: the number nearest to a decimal, ties to even.
- Definition {lit}`shortest`: the decimal with the fewest digits that reads back.
- Theorem {lit}`ofDecimal_shortest`: that decimal is rounded to the number it was made
  from.
- Theorem {lit}`nearest_mul`: what is representable is not rounded.
- Theorem {lit}`shortest_le`: that decimal has at most two digits more than the mantissa
  needs.

Current gaps:

- The payload of a NaN is not modelled.
-/

namespace Binary

/-- A binary format: bits of the mantissa, the unit `2 ^ -scale` of the smallest numbers,
and the overflow threshold `2 ^ limit` in those units. -/
structure Format where
  precision : Nat
  scale : Nat
  limit : Nat
  precision_pos : 0 < precision

/-- The format of ECMAScript. -/
def binary64 : Format := ⟨53, 1074, 2098, by omega⟩

variable (F : Format)

/-! ## Magnitudes -/

/-- Exponent of the unit in the last place. -/
def Format.shift (units : Nat) : Nat := units.log2 + 1 - F.precision

/-- No more significant bits than the mantissa has, below the overflow threshold. -/
def IsMagnitude (units : Nat) : Prop :=
  2 ^ F.shift units ∣ units ∧ units < 2 ^ F.limit

instance (units : Nat) : Decidable (IsMagnitude F units) :=
  inferInstanceAs (Decidable (_ ∧ _))

/-- A finite magnitude, in units of `2 ^ -scale`. -/
structure Magnitude where
  units : Nat
  representable : IsMagnitude F units
deriving DecidableEq

/-- A number. -/
inductive Number where
  | nan
  | infinity (negative : Bool)
  | finite (negative : Bool) (magnitude : Magnitude F)
deriving DecidableEq

/-! ## Rounding -/

/-- `a / b`, rounded to the nearest natural number, ties to even. -/
def roundHalfEven (a b : Nat) : Nat :=
  if 2 * (a % b) < b then a / b
  else if b < 2 * (a % b) then a / b + 1
  else a / b + a / b % 2

/-- The multiple of the unit in the last place that is nearest to `a / b`. -/
def nearest (a b : Nat) : Nat :=
  roundHalfEven a (b * 2 ^ F.shift (a / b)) * 2 ^ F.shift (a / b)

theorem roundHalfEven_le (a b : Nat) : roundHalfEven a b ≤ a / b + 1 := by
  unfold roundHalfEven
  split
  · omega
  · split <;> omega

/-- A multiple of the divisor is not rounded. -/
theorem roundHalfEven_mul (m : Nat) {b : Nat} (hb : 0 < b) :
    roundHalfEven (m * b) b = m := by
  simp [roundHalfEven, Nat.mul_mod_left, hb, Nat.mul_div_cancel m hb]

theorem log2_mul_pow {m s : Nat} (hm : m ≠ 0) : (m * 2 ^ s).log2 = m.log2 + s := by
  rw [Nat.log2_eq_iff (by positivity)]
  constructor
  · rw [pow_add]
    exact Nat.mul_le_mul_right _ (Nat.log2_self_le hm)
  · have hlt : m < 2 ^ (m.log2 + 1) := Nat.lt_log2_self
    calc
      m * 2 ^ s < 2 ^ (m.log2 + 1) * 2 ^ s := Nat.mul_lt_mul_of_pos_right hlt (by positivity)
      _ = 2 ^ (m.log2 + s + 1) := by ring

variable {F}

/-- A mantissa that fits, or the next power of two, at any scale. -/
theorem dvd_of_mantissa {m s : Nat} (hm : m ≤ 2 ^ F.precision) :
    2 ^ F.shift (m * 2 ^ s) ∣ m * 2 ^ s := by
  rcases Nat.eq_zero_or_pos m with rfl | hpos
  · simp
  have hprecision := F.precision_pos
  rw [Format.shift, log2_mul_pow (by omega)]
  rcases Nat.lt_or_eq_of_le hm with hlt | heq
  · have hbits : m.log2 < F.precision := (Nat.log2_lt (by omega)).mpr hlt
    exact Dvd.dvd.mul_left (pow_dvd_pow 2 (by omega)) m
  · have hbits : m.log2 = F.precision := by rw [heq, Nat.log2_two_pow]
    rw [hbits, heq, ← pow_add]
    exact pow_dvd_pow 2 (by omega)

/-- The rounded mantissa fits, or is the next power of two. -/
theorem mantissa_le (a b : Nat) :
    roundHalfEven a (b * 2 ^ F.shift (a / b)) ≤ 2 ^ F.precision := by
  refine (roundHalfEven_le _ _).trans ?_
  rw [← Nat.div_div_eq_div_mul]
  have hbits : (a / b).log2 + 1 ≤ F.precision + F.shift (a / b) := by
    unfold Format.shift
    omega
  have hlt : a / b < 2 ^ (F.precision + F.shift (a / b)) :=
    Nat.lt_of_lt_of_le Nat.lt_log2_self (Nat.pow_le_pow_right (by omega) hbits)
  rw [pow_add] at hlt
  exact (Nat.div_lt_iff_lt_mul (by positivity)).mpr hlt

theorem nearest_dvd (a b : Nat) : 2 ^ F.shift (nearest F a b) ∣ nearest F a b :=
  dvd_of_mantissa (mantissa_le a b)

/-- What is representable is not rounded. -/
theorem nearest_mul {units b : Nat} (h : IsMagnitude F units) (hb : 0 < b) :
    nearest F (units * b) b = units := by
  rcases h.1 with ⟨m, hm⟩
  have hscale : units * b = m * (b * 2 ^ F.shift units) := by
    calc
      units * b = 2 ^ F.shift units * m * b := by rw [← hm]
      _ = m * (b * 2 ^ F.shift units) := by ring
  unfold nearest
  rw [Nat.mul_div_cancel units hb, hscale, roundHalfEven_mul m (by positivity)]
  rw [Nat.mul_comm, ← hm]

/-- Rounding stays below a power of two that the mantissa reaches. -/
theorem nearest_le {a b k : Nat} (h : a / b < 2 ^ k) (hk : F.precision ≤ k) :
    nearest F a b ≤ 2 ^ k := by
  have hshift : F.precision + F.shift (a / b) ≤ k := by
    rcases Nat.eq_zero_or_pos (a / b) with hzero | hpos
    · have hprecision := F.precision_pos
      simp only [Format.shift, hzero, Nat.log2_zero]
      omega
    · have hbits : (a / b).log2 < k := (Nat.log2_lt (by omega)).mpr h
      unfold Format.shift
      omega
  calc
    nearest F a b ≤ 2 ^ F.precision * 2 ^ F.shift (a / b) :=
      Nat.mul_le_mul_right _ (mantissa_le a b)
    _ = 2 ^ (F.precision + F.shift (a / b)) := (pow_add 2 _ _).symm
    _ ≤ 2 ^ k := Nat.pow_le_pow_right (by omega) hshift

/-! ## Decimals -/

/-- The decimal `digits * 10 ^ exponent` as a fraction. -/
def fraction (digits : Nat) : Int → Nat × Nat
  | .ofNat k => (digits * 10 ^ k, 1)
  | .negSucc k => (digits, 10 ^ (k + 1))

variable (F)

/-- The units nearest to a decimal. -/
def decimalUnits (digits : Nat) (exponent : Int) : Nat :=
  nearest F ((fraction digits exponent).1 * 2 ^ F.scale) (fraction digits exponent).2

/-- The number nearest to a decimal. -/
def ofDecimal (negative : Bool) (digits : Nat) (exponent : Int) : Number F :=
  if h : decimalUnits F digits exponent < 2 ^ F.limit then
    .finite negative ⟨decimalUnits F digits exponent, nearest_dvd _ _, h⟩
  else .infinity negative

variable {F}

theorem ofDecimal_eq_finite {negative : Bool} {digits : Nat} {exponent : Int}
    {m : Magnitude F} (h : decimalUnits F digits exponent = m.units) :
    ofDecimal F negative digits exponent = .finite negative m := by
  cases m with
  | mk units representable =>
      subst h
      simp [ofDecimal, representable.2]

/-- Zeros behind a whole number say the same as its exponent. -/
theorem ofDecimal_scale (negative : Bool) (digits k : Nat) :
    ofDecimal F negative (digits * 10 ^ k) 0 = ofDecimal F negative digits k := by
  have hunits : decimalUnits F (digits * 10 ^ k) 0 = decimalUnits F digits k := by
    simp [decimalUnits, fraction]
  simp only [ofDecimal, hunits]

theorem decimalUnits_whole (n : Nat) : decimalUnits F n 0 = nearest F (n * 2 ^ F.scale) 1 := by
  have hfraction : fraction n 0 = (n * 10 ^ 0, 1) := rfl
  rw [decimalUnits, hfraction, pow_zero, Nat.mul_one]

/-- A whole number below the overflow threshold is finite. -/
theorem ofDecimal_whole {n k : Nat} (h : n < 2 ^ k) (hprecision : F.precision ≤ k)
    (hlimit : k + F.scale < F.limit) (negative : Bool) :
    ∃ m, ofDecimal F negative n 0 = .finite negative m := by
  have hle : nearest F (n * 2 ^ F.scale) 1 ≤ 2 ^ (k + F.scale) := by
    refine nearest_le ?_ (by omega)
    rw [Nat.div_one, pow_add]
    exact Nat.mul_lt_mul_of_pos_right h (by positivity)
  have hlt : decimalUnits F n 0 < 2 ^ F.limit := by
    rw [decimalUnits_whole]
    exact Nat.lt_of_le_of_lt hle (Nat.pow_lt_pow_right (by omega) hlimit)
  exact ⟨⟨decimalUnits F n 0, nearest_dvd _ _, hlt⟩, by rw [ofDecimal, dif_pos hlt]⟩

/-- `Number.isInteger`, with the integer. -/
def Number.toInt : Number F → Option Int
  | .finite negative m =>
      if m.units % 2 ^ F.scale = 0 then
        some (if negative then -(m.units / 2 ^ F.scale : Nat) else (m.units / 2 ^ F.scale : Nat))
      else none
  | _ => none

/-- A whole number that fits the mantissa is exact. -/
theorem toInt_ofDecimal {n : Nat} (h : n ≤ 2 ^ F.precision)
    (hlimit : F.precision + F.scale < F.limit) :
    (ofDecimal F false n 0).toInt = some (n : Int) := by
  have hlt : n * 2 ^ F.scale < 2 ^ F.limit := by
    calc
      n * 2 ^ F.scale ≤ 2 ^ F.precision * 2 ^ F.scale := Nat.mul_le_mul_right _ h
      _ = 2 ^ (F.precision + F.scale) := (pow_add 2 _ _).symm
      _ < 2 ^ F.limit := Nat.pow_lt_pow_right (by omega) hlimit
  have hmagnitude : IsMagnitude F (n * 2 ^ F.scale) := ⟨dvd_of_mantissa h, hlt⟩
  have hunits : decimalUnits F n 0 = n * 2 ^ F.scale := by
    have hexact := nearest_mul hmagnitude (b := 1) (by omega)
    rwa [Nat.mul_one, ← decimalUnits_whole] at hexact
  have hfinite : ofDecimal F false n 0 = .finite false ⟨n * 2 ^ F.scale, hmagnitude⟩ :=
    ofDecimal_eq_finite hunits
  simp [hfinite, Number.toInt, Nat.mul_div_cancel n (Nat.two_pow_pos F.scale)]

/-- `Number.isFinite`. -/
def Number.isFinite : Number F → Bool
  | .finite _ _ => true
  | _ => false

theorem Number.isFinite_of_toInt {n : Number F} {k : Int} (h : n.toInt = some k) :
    n.isFinite = true := by
  cases n with
  | finite negative m => rfl
  | _ => contradiction

/-! ## The shortest decimal -/

variable (F)

/-- Units at the scale of an exponent, as a fraction. -/
def scaled (units : Nat) : Int → Nat × Nat
  | .ofNat k => (units, 2 ^ F.scale * 10 ^ k)
  | .negSucc k => (units * 10 ^ (k + 1), 2 ^ F.scale)

/-- The lower of the two neighbours of a fraction is the nearer one, or the even one
where they are equally near. -/
def preferLower (numerator denominator : Nat) : Bool :=
  decide (2 * (numerator % denominator) < denominator) ||
    (decide (2 * (numerator % denominator) = denominator) &&
      decide (numerator / denominator % 2 = 0))

/-- The digits at an exponent that are rounded to these units, if there are any. -/
def digitsAt (units : Nat) (exponent : Int) : Option Nat :=
  let (numerator, denominator) := scaled F units exponent
  let lower := numerator / denominator
  let lowerFits := decide (decimalUnits F lower exponent = units)
  let upperFits := decide (decimalUnits F (lower + 1) exponent = units)
  if lowerFits && (!upperFits || preferLower numerator denominator) then some lower
  else if upperFits then some (lower + 1)
  else none

/-- Try one exponent after the other down to `-scale`, where every magnitude is exact. -/
def shortestFrom (units : Nat) : Nat → Nat × Int
  | 0 => (units * 5 ^ F.scale, -F.scale)
  | steps + 1 =>
      match digitsAt F units ((steps : Int) + 1 - F.scale) with
      | some digits => (digits, (steps : Int) + 1 - F.scale)
      | none => shortestFrom units steps

/-- The decimal with the fewest digits that is rounded to these units. -/
def shortest (units : Nat) : Nat × Int :=
  shortestFrom F units ((units / 2 ^ F.scale).log2 / 3 + 1 + F.scale)

variable {F}

theorem decimalUnits_digitsAt {units digits : Nat} {exponent : Int}
    (h : digitsAt F units exponent = some digits) :
    decimalUnits F digits exponent = units := by
  simp only [digitsAt] at h
  split_ifs at h with hlower hupper
  · rw [Option.some.injEq] at h
    subst h
    simp only [Bool.and_eq_true, decide_eq_true_eq] at hlower
    exact hlower.1
  · rw [Option.some.injEq] at h
    subst h
    simpa using hupper

theorem decimalUnits_exact {units : Nat} (h : IsMagnitude F units) :
    decimalUnits F (units * 5 ^ F.scale) (-F.scale) = units := by
  have hten : units * 5 ^ F.scale * 2 ^ F.scale = units * 10 ^ F.scale := by
    rw [Nat.mul_assoc, ← Nat.mul_pow]
  unfold decimalUnits
  cases hscale : F.scale with
  | zero => simpa [fraction] using nearest_mul h Nat.one_pos
  | succ k =>
      rw [hscale] at hten
      have hnegative : (-((k + 1 : Nat) : Int)) = Int.negSucc k := rfl
      simp only [hnegative, fraction, hten]
      exact nearest_mul h (by positivity)

theorem decimalUnits_shortestFrom {units : Nat} (h : IsMagnitude F units) (steps : Nat) :
    decimalUnits F (shortestFrom F units steps).1 (shortestFrom F units steps).2 = units := by
  induction steps with
  | zero => exact decimalUnits_exact h
  | succ steps ih =>
      simp only [shortestFrom]
      split
      · next digits hdigits => exact decimalUnits_digitsAt hdigits
      · exact ih

/-- The shortest decimal is rounded to the number it was made from. -/
theorem ofDecimal_shortest (negative : Bool) (m : Magnitude F) :
    ofDecimal F negative (shortest F m.units).1 (shortest F m.units).2 =
      .finite negative m :=
  ofDecimal_eq_finite (decimalUnits_shortestFrom m.representable _)

theorem decimalUnits_zero (exponent : Int) : decimalUnits F 0 exponent = 0 := by
  cases exponent with
  | ofNat k => simp [decimalUnits, fraction, nearest, roundHalfEven]
  | negSucc k => simp [decimalUnits, fraction, nearest, roundHalfEven]

/-- The decimal of a number that is not zero has a digit. -/
theorem shortest_pos {m : Magnitude F} (h : m.units ≠ 0) : 0 < (shortest F m.units).1 := by
  by_contra hzero
  have hdigits : (shortest F m.units).1 = 0 := by omega
  have hunits := decimalUnits_shortestFrom m.representable
    ((m.units / 2 ^ F.scale).log2 / 3 + 1 + F.scale)
  apply h
  rw [← hunits]
  change decimalUnits F (shortest F m.units).1 (shortest F m.units).2 = 0
  rw [hdigits, decimalUnits_zero]

/-! ## How many digits -/

/-- Near a multiple the rounding finds it. -/
theorem roundHalfEven_close {a c m : Nat} (h : 2 * (a - m * c) < c) (h' : 2 * (m * c - a) < c) :
    roundHalfEven a c = m := by
  have hc : 0 < c := by omega
  rcases Nat.lt_or_ge a (m * c) with hlt | hge
  · rcases m with _ | m
    · omega
    · have hsplit : (m + 1) * c = m * c + c := by ring
      have hdiv : a / c = m := by
        apply Nat.div_eq_of_lt_le
        · omega
        · omega
      have hmod : a % c = a - m * c := by
        have := Nat.div_add_mod a c
        rw [hdiv] at this
        have hcomm : c * m = m * c := Nat.mul_comm c m
        omega
      rw [roundHalfEven, hdiv, hmod]
      split_ifs <;> omega
  · have hdiv : a / c = m := by
      apply Nat.div_eq_of_lt_le
      · omega
      · have hsplit : (m + 1) * c = m * c + c := by ring
        omega
    have hmod : a % c = a - m * c := by
      have := Nat.div_add_mod a c
      rw [hdiv] at this
      have hcomm : c * m = m * c := Nat.mul_comm c m
      omega
    rw [roundHalfEven, hdiv, hmod, if_pos h]

theorem units_lt (units : Nat) : units < 2 ^ (F.shift units + F.precision) := by
  apply Nat.lt_of_lt_of_le Nat.lt_log2_self
  apply Nat.pow_le_pow_right (by omega)
  unfold Format.shift
  omega

/-- Close to a number the unit in the last place is the same, or half of it. -/
theorem shift_close {units a b : Nat} (h : IsMagnitude F units) (hb : 0 < b)
    (hup : 4 * (a - units * b) < b * 2 ^ F.shift units)
    (hdown : 4 * (units * b - a) < b * 2 ^ F.shift units) :
    F.shift (a / b) ≤ F.shift units ∧ F.shift units ≤ F.shift (a / b) + 1 := by
  have hp := F.precision_pos
  rcases h.1 with ⟨m, hm⟩
  set s := F.shift units with hs
  have hlt : units < 2 ^ (s + F.precision) := units_lt units
  constructor
  · have hroom : units + 2 ^ s ≤ 2 ^ (s + F.precision) := by
      rw [pow_add] at hlt ⊢
      rw [hm] at hlt ⊢
      have hmlt : m < 2 ^ F.precision := Nat.lt_of_mul_lt_mul_left hlt
      calc
        2 ^ s * m + 2 ^ s = 2 ^ s * (m + 1) := by ring
        _ ≤ 2 ^ s * 2 ^ F.precision := Nat.mul_le_mul_left _ hmlt
    have hquot : a / b < 2 ^ (s + F.precision) := by
      rw [Nat.div_lt_iff_lt_mul hb]
      have hbound : a < (units + 2 ^ s) * b := by
        have hexpand : (units + 2 ^ s) * b = units * b + b * 2 ^ s := by ring
        omega
      exact Nat.lt_of_lt_of_le hbound (Nat.mul_le_mul_right b hroom)
    rcases Nat.eq_zero_or_pos (a / b) with hzero | hpos
    · rw [hzero]
      simp only [Format.shift, Nat.log2_zero]
      omega
    · have hlog := (Nat.log2_lt (by omega)).mpr hquot
      unfold Format.shift
      omega
  · rcases Nat.eq_zero_or_pos s with hzero | hpos
    · omega
    · have hlog : units.log2 = s + F.precision - 1 := by
        rw [hs] at hpos ⊢
        unfold Format.shift at hpos ⊢
        omega
      have hunits : units ≠ 0 := by
        rintro rfl
        rw [Nat.log2_zero] at hlog
        omega
      have hlow : 2 ^ (s + F.precision - 1) ≤ units := hlog ▸ Nat.log2_self_le hunits
      have hquot : 2 ^ (s + F.precision - 2) ≤ a / b := by
        rw [Nat.le_div_iff_mul_le hb]
        have htwo : 2 ^ (s + F.precision - 1) = 2 * 2 ^ (s + F.precision - 2) := by
          rw [← pow_succ']
          congr 1
          omega
        have hulp : 2 ^ s ≤ 2 * 2 ^ (s + F.precision - 2) := by
          rw [← pow_succ']
          exact Nat.pow_le_pow_right (by omega) (by omega)
        have hscaled := Nat.mul_le_mul_right b (htwo ▸ hlow)
        have hscaled' := Nat.mul_le_mul_left b hulp
        set x := 2 ^ (s + F.precision - 2) with hx
        have e1 : 2 * x * b = 2 * (x * b) := by ring
        have e2 : b * (2 * x) = 2 * (x * b) := by ring
        omega
      have hne : a / b ≠ 0 := by
        have := Nat.two_pow_pos (s + F.precision - 2)
        omega
      have hlog' := (Nat.le_log2 hne).mpr hquot
      unfold Format.shift
      omega

/-- What is close to a number is rounded to it. -/
theorem nearest_close {units a b : Nat} (h : IsMagnitude F units) (hb : 0 < b)
    (hup : 4 * (a - units * b) < b * 2 ^ F.shift units)
    (hdown : 4 * (units * b - a) < b * 2 ^ F.shift units) : nearest F a b = units := by
  have hshift := shift_close h hb hup hdown
  rcases (pow_dvd_pow 2 hshift.1).trans h.1 with ⟨m, hm⟩
  have hpow : 2 ^ F.shift units ≤ 2 * 2 ^ F.shift (a / b) := by
    rw [← pow_succ']
    exact Nat.pow_le_pow_right (by omega) hshift.2
  have hscaled := Nat.mul_le_mul_left b hpow
  have hdouble : b * (2 * 2 ^ F.shift (a / b)) = 2 * (b * 2 ^ F.shift (a / b)) := by ring
  have hmul : m * (b * 2 ^ F.shift (a / b)) = units * b := by
    calc
      m * (b * 2 ^ F.shift (a / b)) = 2 ^ F.shift (a / b) * m * b := by ring
      _ = units * b := by rw [← hm]
  rw [nearest, roundHalfEven_close (m := m) (by omega) (by omega), Nat.mul_comm, ← hm]

/-- Scaling by a power of ten, and the decimal that scales back. -/
theorem scaled_spec (units : Nat) (exponent : Int) :
    ∃ b, 0 < b ∧ (scaled F units exponent).1 = units * b ∧ 0 < (scaled F units exponent).2 ∧
      ∀ digits, (fraction digits exponent).1 * 2 ^ F.scale =
        digits * (scaled F units exponent).2 ∧ (fraction digits exponent).2 = b := by
  cases exponent with
  | ofNat k =>
      refine ⟨1, by omega, by simp [scaled], by simp only [scaled]; positivity, fun digits => ?_⟩
      simp only [fraction, scaled, and_true]
      ring
  | negSucc k =>
      exact ⟨10 ^ (k + 1), by positivity, rfl, by simp only [scaled]; positivity,
        fun digits => ⟨rfl, rfl⟩⟩

/-- With small enough steps some digits are rounded to the number. -/
theorem digitsAt_isSome {units : Nat} (h : IsMagnitude F units) {exponent : Int} {b : Nat}
    (hb : (fraction 0 exponent).2 = b)
    (hsmall : 2 * (scaled F units exponent).2 < b * 2 ^ F.shift units) :
    digitsAt F units exponent ≠ none := by
  rcases scaled_spec (F := F) units exponent with ⟨b', hpos, hnum, hden, hfraction⟩
  have hsame : b' = b := (hfraction 0).2.symm.trans hb
  subst hsame
  have hsplit := Nat.div_add_mod (scaled F units exponent).1 (scaled F units exponent).2
  have hmod := Nat.mod_lt (scaled F units exponent).1 hden
  have hunits : ∀ digits, 4 * (digits * (scaled F units exponent).2 - units * b') <
      b' * 2 ^ F.shift units → 4 * (units * b' - digits * (scaled F units exponent).2) <
        b' * 2 ^ F.shift units → decimalUnits F digits exponent = units := by
    intro digits hup hdown
    rw [decimalUnits, (hfraction digits).1, (hfraction digits).2]
    exact nearest_close h hpos hup hdown
  simp only [digitsAt]
  rw [hnum] at hsplit hmod ⊢
  set den := (scaled F units exponent).2
  set lower := units * b' / den with hlower
  have hcomm : den * lower = lower * den := Nat.mul_comm den lower
  have hnext : (lower + 1) * den = lower * den + den := by ring
  by_cases hhalf : 2 * (units * b' % den) ≤ den
  · have hfits := hunits lower (by omega) (by omega)
    by_cases hother : decimalUnits F (lower + 1) exponent = units
    · simp only [hfits, hother]
      split_ifs <;> simp_all
    · simp [hfits, hother]
  · have hfits := hunits (lower + 1) (by omega) (by omega)
    simp only [hfits]
    split_ifs <;> simp_all

theorem digitsAt_le {units digits : Nat} {exponent : Int}
    (h : digitsAt F units exponent = some digits) :
    digits ≤ (scaled F units exponent).1 / (scaled F units exponent).2 + 1 := by
  simp only [digitsAt] at h
  split_ifs at h
  · rw [Option.some.injEq] at h
    omega
  · rw [Option.some.injEq] at h
    omega

/-- The exponents of the search, as powers of ten over `5 ^ scale`. -/
theorem scaled_search (units n : Nat) :
    (scaled F units ((n : Int) - F.scale)).2 * 10 ^ F.scale =
      2 ^ F.scale * 10 ^ n * (fraction 0 ((n : Int) - F.scale)).2 ∧
    (scaled F units ((n : Int) - F.scale)).1 =
      units * (fraction 0 ((n : Int) - F.scale)).2 := by
  rcases Nat.lt_or_ge n F.scale with hlt | hge
  · obtain ⟨k, hk⟩ : ∃ k, F.scale = n + (k + 1) := ⟨F.scale - n - 1, by omega⟩
    have hexponent : (n : Int) - F.scale = Int.negSucc k := by omega
    rw [hexponent]
    simp only [scaled, fraction, and_true]
    rw [hk, pow_add 10]
    ring
  · obtain ⟨k, hk⟩ : ∃ k, n = F.scale + k := ⟨n - F.scale, by omega⟩
    have hexponent : (n : Int) - F.scale = Int.ofNat k := by
      rw [hk]
      simp
    rw [hexponent]
    simp only [scaled, fraction, mul_one, and_true]
    rw [hk, pow_add]
    ring

/-- Steps that are not small bound the digits. -/
theorem digits_bound {units n : Nat}
    (hlarge : 5 ^ F.scale * 2 ^ F.shift units ≤ 20 * 10 ^ n) :
    units * 5 ^ F.scale < 20 * 2 ^ F.precision * 10 ^ n := by
  have hlt := units_lt (F := F) units
  rw [pow_add] at hlt
  calc
    units * 5 ^ F.scale < 2 ^ F.shift units * 2 ^ F.precision * 5 ^ F.scale :=
      Nat.mul_lt_mul_of_pos_right hlt (by positivity)
    _ = 2 ^ F.precision * (5 ^ F.scale * 2 ^ F.shift units) := by ring
    _ ≤ 2 ^ F.precision * (20 * 10 ^ n) := Nat.mul_le_mul_left _ hlarge
    _ = 20 * 2 ^ F.precision * 10 ^ n := by ring

/-- Behind a step that was too large the search finds few digits. -/
theorem shortestFrom_le {units : Nat} (h : IsMagnitude F units) (steps : Nat)
    (hlarge : 5 ^ F.scale * 2 ^ F.shift units ≤ 2 * 10 ^ (steps + 1)) :
    (shortestFrom F units steps).1 ≤ 20 * 2 ^ F.precision := by
  induction steps with
  | zero =>
      have hsteps : 5 ^ F.scale * 2 ^ F.shift units ≤ 20 * 10 ^ 0 := by simpa using hlarge
      have hbound := digits_bound hsteps
      simp only [shortestFrom]
      omega
  | succ steps ih =>
      have hexponent : (steps : Int) + 1 - F.scale = ((steps + 1 : Nat) : Int) - F.scale := by
        push_cast
        ring
      have hsearch := scaled_search (F := F) units (steps + 1)
      have hten : (10 : Nat) ^ F.scale = 2 ^ F.scale * 5 ^ F.scale := by
        rw [← Nat.mul_pow]
      rw [shortestFrom, hexponent]
      cases hdigits : digitsAt F units (((steps + 1 : Nat) : Int) - F.scale) with
      | some digits =>
          have hle := digitsAt_le hdigits
          have hsteps : 5 ^ F.scale * 2 ^ F.shift units ≤ 20 * 10 ^ (steps + 1) := by
            rw [pow_succ 10 (steps + 1)] at hlarge
            omega
          have hbound := digits_bound hsteps
          rcases scaled_spec (F := F) units (((steps + 1 : Nat) : Int) - F.scale) with
            ⟨b, hpos, hnum, hden, hfraction⟩
          rw [(hfraction 0).2] at hsearch
          set num := (scaled F units (((steps + 1 : Nat) : Int) - F.scale)).1
          set den := (scaled F units (((steps + 1 : Nat) : Int) - F.scale)).2
          have hquot : num / den < 20 * 2 ^ F.precision := by
            rw [Nat.div_lt_iff_lt_mul hden]
            have hscaled : num * 10 ^ F.scale < 20 * 2 ^ F.precision * den * 10 ^ F.scale := by
              calc
                num * 10 ^ F.scale = units * 5 ^ F.scale * (b * 2 ^ F.scale) := by
                  rw [hnum, hten]
                  ring
                _ < 20 * 2 ^ F.precision * 10 ^ (steps + 1) * (b * 2 ^ F.scale) :=
                  Nat.mul_lt_mul_of_pos_right hbound (by positivity)
                _ = 20 * 2 ^ F.precision * (2 ^ F.scale * 10 ^ (steps + 1) * b) := by ring
                _ = 20 * 2 ^ F.precision * den * 10 ^ F.scale := by
                  rw [← hsearch.1]
                  ring
            exact Nat.lt_of_mul_lt_mul_right hscaled
          simp only
          omega
      | none =>
          apply ih
          by_contra hsmall
          apply digitsAt_isSome h rfl _ hdigits
          rw [not_le] at hsmall
          set b := (fraction 0 (((steps + 1 : Nat) : Int) - F.scale)).2
          set den := (scaled F units (((steps + 1 : Nat) : Int) - F.scale)).2
          have hb : 0 < b := by
            rcases scaled_spec (F := F) units (((steps + 1 : Nat) : Int) - F.scale) with
              ⟨b', hpos, -, -, hfraction⟩
            rw [← (hfraction 0).2] at hpos
            exact hpos
          have hscaled : 2 * den * 10 ^ F.scale < b * 2 ^ F.shift units * 10 ^ F.scale := by
            calc
              2 * den * 10 ^ F.scale = 2 * (den * 10 ^ F.scale) := by ring
              _ = 2 * 10 ^ (steps + 1) * (2 ^ F.scale * b) := by
                rw [hsearch.1]
                ring
              _ < 5 ^ F.scale * 2 ^ F.shift units * (2 ^ F.scale * b) :=
                Nat.mul_lt_mul_of_pos_right hsmall (by positivity)
              _ = b * 2 ^ F.shift units * 10 ^ F.scale := by
                rw [hten]
                ring
          exact Nat.lt_of_mul_lt_mul_right hscaled

/-- The shortest decimal has at most two digits more than the mantissa needs. -/
theorem shortest_le {units : Nat} (h : IsMagnitude F units) :
    (shortest F units).1 ≤ 20 * 2 ^ F.precision := by
  apply shortestFrom_le h
  set v := units / 2 ^ F.scale with hv
  have hpow : 2 ^ F.shift units ≤ units + 1 := by
    rcases Nat.eq_zero_or_pos units with rfl | hpos
    · have hp := F.precision_pos
      have hzero : F.shift 0 = 0 := by
        simp only [Format.shift, Nat.log2_zero]
        omega
      simp [hzero]
    · exact (Nat.le_of_dvd hpos h.1).trans (Nat.le_succ units)
  have hunits : units + 1 ≤ (v + 1) * 2 ^ F.scale := by
    have hsplit := Nat.div_add_mod units (2 ^ F.scale)
    have hmod := Nat.mod_lt units (Nat.two_pow_pos F.scale)
    rw [← hv] at hsplit
    have hexpand : (v + 1) * 2 ^ F.scale = 2 ^ F.scale * v + 2 ^ F.scale := by ring
    omega
  have hwhole : v + 1 ≤ 10 ^ (v.log2 / 3 + 1) := by
    calc
      v + 1 ≤ 2 ^ (v.log2 + 1) := Nat.lt_log2_self
      _ ≤ 2 ^ (3 * (v.log2 / 3 + 1)) := Nat.pow_le_pow_right (by omega) (by omega)
      _ = 8 ^ (v.log2 / 3 + 1) := by
        rw [pow_mul]
        norm_num
      _ ≤ 10 ^ (v.log2 / 3 + 1) := Nat.pow_le_pow_left (by omega) _
  calc
    5 ^ F.scale * 2 ^ F.shift units ≤ 5 ^ F.scale * (10 ^ (v.log2 / 3 + 1) * 2 ^ F.scale) :=
      Nat.mul_le_mul_left _ (hpow.trans (hunits.trans (Nat.mul_le_mul_right _ hwhole)))
    _ = 10 ^ (v.log2 / 3 + 1) * 10 ^ F.scale := by
      rw [show (10 : Nat) ^ F.scale = 5 ^ F.scale * 2 ^ F.scale by rw [← Nat.mul_pow]]
      ring
    _ = 10 ^ (v.log2 / 3 + 1 + F.scale) := by rw [← pow_add]
    _ ≤ 2 * 10 ^ (v.log2 / 3 + 1 + F.scale + 1) := by
      rw [pow_succ]
      omega

/-- The exponents that the search visits. -/
theorem shortestFrom_exponent (units steps : Nat) :
    -(F.scale : Int) ≤ (shortestFrom F units steps).2 ∧
      (shortestFrom F units steps).2 ≤ steps - F.scale := by
  induction steps with
  | zero => simp [shortestFrom]
  | succ steps ih =>
      rw [shortestFrom]
      cases digitsAt F units ((steps : Int) + 1 - F.scale) with
      | some digits => constructor <;> push_cast <;> omega
      | none =>
          refine ⟨ih.1, ih.2.trans ?_⟩
          push_cast
          omega

theorem shortest_exponent {units : Nat} (h : IsMagnitude F units) :
    -(F.scale : Int) ≤ (shortest F units).2 ∧
      (shortest F units).2 ≤ (F.limit - F.scale : Nat) + 1 := by
  have hexponent := shortestFrom_exponent (F := F) units ((units / 2 ^ F.scale).log2 / 3 + 1 + F.scale)
  have hlog : (units / 2 ^ F.scale).log2 ≤ F.limit - F.scale := by
    rcases Nat.eq_zero_or_pos (units / 2 ^ F.scale) with hzero | hpos
    · simp [hzero]
    · have hle : F.limit ≤ F.scale + (F.limit - F.scale) := by omega
      have hlt : units < 2 ^ F.scale * 2 ^ (F.limit - F.scale) := by
        rw [← pow_add]
        exact Nat.lt_of_lt_of_le h.2 (Nat.pow_le_pow_right (by omega) hle)
      exact ((Nat.log2_lt (by omega)).mpr (Nat.div_lt_of_lt_mul hlt)).le
  rw [shortest]
  refine ⟨hexponent.1, hexponent.2.trans ?_⟩
  push_cast
  omega

end Binary
