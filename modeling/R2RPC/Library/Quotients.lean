import R2RPC.Library.NumberArithmetic

/-!
# Quotients and rounding to integers

Division of binary numbers and {lit}`Math.round`, for results that are no integers any more: what
is kept of them is a whole number that they do not pass.

Main results:

- Definitions {lit}`Number.div`, {lit}`Number.round`.
- Theorem {lit}`nearest_le_of_le`: rounding does not pass a number that is representable.
- Theorems {lit}`IsWhole.div` and {lit}`Within.round`: how far a quotient and its rounding reach.
-/

namespace Binary

variable {F : Format}

/-! ## Rounding below a number -/

theorem roundHalfEven_le_of_le {a b m : Nat} (hb : 0 < b) (h : a ≤ m * b) :
    roundHalfEven a b ≤ m := by
  have hdiv : a / b ≤ m := Nat.div_le_of_le_mul (by rwa [Nat.mul_comm])
  rcases Nat.lt_or_eq_of_le hdiv with hlt | heq
  · exact (roundHalfEven_le a b).trans hlt
  · have hsplit := Nat.div_add_mod a b
    rw [heq, Nat.mul_comm b m] at hsplit
    have hexact : a = m * b := by omega
    rw [hexact, roundHalfEven_mul m hb]

/-- Rounding does not pass a number that is representable. -/
theorem nearest_le_of_le {a b units : Nat} (hunits : IsMagnitude F units) (hb : 0 < b)
    (h : a ≤ units * b) : nearest F a b ≤ units := by
  have hdiv : a / b ≤ units := Nat.div_le_of_le_mul (by rwa [Nat.mul_comm])
  have hshift : F.shift (a / b) ≤ F.shift units := by
    rcases Nat.eq_zero_or_pos (a / b) with hzero | hpos
    · have hprecision := F.precision_pos
      rw [hzero]
      simp only [Format.shift, Nat.log2_zero]
      omega
    · have hlog : (a / b).log2 ≤ units.log2 :=
        (Nat.le_log2 (by omega)).mpr ((Nat.log2_self_le hpos.ne').trans hdiv)
      unfold Format.shift
      omega
  obtain ⟨m, hm⟩ := (pow_dvd_pow 2 hshift).trans hunits.1
  have hle : a ≤ m * (b * 2 ^ F.shift (a / b)) := by
    calc
      a ≤ units * b := h
      _ = m * (b * 2 ^ F.shift (a / b)) := by
        rw [hm]
        ring
  calc
    nearest F a b ≤ m * 2 ^ F.shift (a / b) :=
      Nat.mul_le_mul_right _ (roundHalfEven_le_of_le (by positivity) hle)
    _ = units := by rw [hm, Nat.mul_comm]

/-! ## Operations -/

namespace Number

/-- The quotient. -/
def div : Number F → Number F → Number F
  | .nan, _ => .nan
  | _, .nan => .nan
  | .infinity _, .infinity _ => .nan
  | .infinity negative, .finite negative' _ => .infinity (negative != negative')
  | .finite negative _, .infinity negative' => ofUnits F (negative != negative') 0 1
  | .finite negative m, .finite negative' m' =>
      if m'.units = 0 then
        if m.units = 0 then .nan else .infinity (negative != negative')
      else ofUnits F (negative != negative') (m.units * 2 ^ F.scale) m'.units

/-- `Math.round`: halves are rounded up. -/
def round : Number F → Number F
  | .finite negative m =>
      ofUnits F negative
        (((2 * signed negative m + 2 ^ F.scale) / (2 * 2 ^ F.scale)).natAbs * 2 ^ F.scale) 1
  | x => x

/-- A natural number. -/
def IsWhole (x : Number F) (n : Nat) : Prop :=
  ∃ m, x = .finite false m ∧ m.units = n * 2 ^ F.scale

/-- A number between 0 and a natural number. -/
def Within (x : Number F) (n : Nat) : Prop :=
  ∃ m, x = .finite false m ∧ m.units ≤ n * 2 ^ F.scale

variable {x y : Number F} {a b n : Nat}

theorem isMagnitude_whole (h : n ≤ 2 ^ F.precision) (hroomy : F.Roomy) :
    IsMagnitude F (n * 2 ^ F.scale) := by
  refine ⟨dvd_of_mantissa h, ?_⟩
  calc
    n * 2 ^ F.scale ≤ 2 ^ F.precision * 2 ^ F.scale := Nat.mul_le_mul_right _ h
    _ = 2 ^ (F.precision + F.scale) := (pow_add 2 _ _).symm
    _ < 2 ^ F.limit := Nat.pow_lt_pow_right (by omega) hroomy

/-- What is rounded below a natural number stays there. -/
theorem within_ofUnits (hb : 0 < b) (hle : a ≤ n * 2 ^ F.scale * b) (hn : n ≤ 2 ^ F.precision)
    (hroomy : F.Roomy) : Within (ofUnits F false a b) n := by
  have hmagnitude := isMagnitude_whole hn hroomy
  have hnearest := nearest_le_of_le hmagnitude hb hle
  have hlimit := Nat.lt_of_le_of_lt hnearest hmagnitude.2
  exact ⟨_, by rw [ofUnits, dif_pos hlimit], hnearest⟩

theorem isWhole_ofUnits (hb : 0 < b) (hn : n ≤ 2 ^ F.precision) (hroomy : F.Roomy) :
    IsWhole (ofUnits F false (n * 2 ^ F.scale * b) b) n := by
  have hmagnitude := isMagnitude_whole hn hroomy
  have hnearest := nearest_mul hmagnitude hb
  have hlimit : nearest F (n * 2 ^ F.scale * b) b < 2 ^ F.limit := by
    rw [hnearest]
    exact hmagnitude.2
  exact ⟨_, by rw [ofUnits, dif_pos hlimit], hnearest⟩

theorem isWhole_ofInteger (hn : n ≤ 2 ^ F.precision) (hroomy : F.Roomy) :
    IsWhole (ofInteger F n) n := by
  have hunits : ofInteger F n = ofUnits F false (n * 2 ^ F.scale * 1) 1 := by
    have hsign : decide ((n : Int) < 0) = false := decide_eq_false (by omega)
    simp only [ofInteger, ofDecimal, ofUnits, decimalUnits_whole, Nat.mul_one, hsign,
      Int.natAbs_natCast]
  rw [hunits]
  exact isWhole_ofUnits Nat.one_pos hn hroomy

theorem IsWhole.mul (hx : x.IsWhole a) (hy : y.IsWhole b) (hn : a * b ≤ 2 ^ F.precision)
    (hroomy : F.Roomy) : (x.mul y).IsWhole (a * b) := by
  rcases hx with ⟨m, rfl, hm⟩
  rcases hy with ⟨m', rfl, hm'⟩
  have hunits : m.units * m'.units = a * b * 2 ^ F.scale * 2 ^ F.scale := by
    rw [hm, hm']
    ring
  rw [Number.mul, hunits]
  exact isWhole_ofUnits (Nat.two_pow_pos F.scale) hn hroomy

/-- How far a quotient reaches. -/
theorem IsWhole.div (hx : x.IsWhole a) (hy : y.IsWhole b) (hb : 0 < b) (hle : a ≤ n * b)
    (hn : n ≤ 2 ^ F.precision) (hroomy : F.Roomy) : (x.div y).Within n := by
  rcases hx with ⟨m, rfl, hm⟩
  rcases hy with ⟨m', rfl, hm'⟩
  have hpos : 0 < m'.units := by
    rw [hm']
    positivity
  rw [Number.div, if_neg hpos.ne']
  refine within_ofUnits hpos ?_ hn hroomy
  calc
    m.units * 2 ^ F.scale = a * 2 ^ F.scale * 2 ^ F.scale := by rw [hm]
    _ ≤ n * b * 2 ^ F.scale * 2 ^ F.scale := by gcongr
    _ = n * 2 ^ F.scale * m'.units := by
      rw [hm']
      ring

/-- Rounding to an integer does not pass an integer. -/
theorem Within.round (hx : x.Within n) (hn : n ≤ 2 ^ F.precision) (hroomy : F.Roomy) :
    ∃ k ≤ n, x.round.IsWhole k := by
  rcases hx with ⟨m, rfl, hm⟩
  have hpos := Nat.two_pow_pos F.scale
  obtain ⟨k, hk⟩ : ∃ k, (2 * m.units + 2 ^ F.scale) / (2 * 2 ^ F.scale) = k := ⟨_, rfl⟩
  have hle : k ≤ n := by
    rw [← hk]
    refine Nat.le_of_lt_succ ((Nat.div_lt_iff_lt_mul (by positivity)).mpr ?_)
    calc
      2 * m.units + 2 ^ F.scale < 2 * (n * 2 ^ F.scale) + 2 * 2 ^ F.scale := by omega
      _ = (n + 1) * (2 * 2 ^ F.scale) := by ring
  have hround : ((2 * signed false m + 2 ^ F.scale) / (2 * 2 ^ F.scale) : Int).natAbs = k := by
    have hcast : ((2 * signed false m + 2 ^ F.scale) / (2 * 2 ^ F.scale) : Int) = (k : Nat) := by
      rw [← hk]
      simp [signed]
    rw [hcast, Int.natAbs_natCast]
  refine ⟨k, hle, ?_⟩
  rw [Number.round, hround, ← Nat.mul_one (k * 2 ^ F.scale)]
  exact isWhole_ofUnits Nat.one_pos (hle.trans hn) hroomy

theorem Within.le (hx : x.Within n) (hy : y.IsWhole n) : x.le y = true := by
  rcases hx with ⟨m, rfl, hm⟩
  rcases hy with ⟨m', rfl, hm'⟩
  rw [Number.le, decide_eq_true_eq]
  simp only [signed, Bool.false_eq_true, if_false]
  omega

theorem Within.nonneg (hx : x.Within n) (hy : y.IsWhole 0) : y.le x = true := by
  rcases hx with ⟨m, rfl, hm⟩
  rcases hy with ⟨m', rfl, hm'⟩
  rw [Number.le, decide_eq_true_eq]
  simp only [signed, Bool.false_eq_true, if_false]
  omega

end Number

end Binary
