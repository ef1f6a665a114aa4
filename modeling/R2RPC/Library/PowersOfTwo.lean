import R2RPC.Library.Backoff
import R2RPC.Library.NumberArithmetic
import Mathlib.Data.ENat.Lattice

/-!
# Powers of two and numbers that are not negative

A number that is not negative has a value, possibly infinite. Doubling it is exact until the
result or the power of two overflows.

Main results:

- Definitions {lit}`Number.value`, {lit}`Number.twoTo`.
- Theorem {lit}`value_min`: the value of a minimum.
- Theorem {lit}`value_mul_twoTo`: the value of a product with a power of two.
- Theorem {lit}`toInt_add_one`: a counter of doubles stops at the end of the mantissa.
-/

namespace Binary

variable {F : Format}

namespace Number

/-- The value of a number that is not negative, in units. -/
def value : Number F → Option ℕ∞
  | .finite false m => some m.units
  | .infinity false => some ⊤
  | _ => none

variable {x y : Number F} {a b : ℕ∞}

theorem value_eq_some (h : x.value = some a) :
    x = .infinity false ∧ a = ⊤ ∨ ∃ m, x = .finite false m ∧ a = m.units := by
  match x with
  | .infinity false => exact .inl ⟨rfl, (Option.some.inj h).symm⟩
  | .finite false m => exact .inr ⟨m, rfl, (Option.some.inj h).symm⟩

theorem value_min (hx : x.value = some a) (hy : y.value = some b) :
    (x.min y).value = some (Min.min a b) := by
  have hle : x ≠ .nan ∧ y ≠ .nan ∧ (x.le y = true ↔ a ≤ b) := by
    rcases value_eq_some hx with ⟨rfl, rfl⟩ | ⟨m, rfl, rfl⟩ <;>
      rcases value_eq_some hy with ⟨rfl, rfl⟩ | ⟨m', rfl, rfl⟩ <;> simp [le, signed]
  obtain ⟨hxnan, hynan, hle⟩ := hle
  rw [Number.min, if_neg (by simp [hxnan, hynan])]
  split
  · rename_i h
    rw [hx, min_eq_left (hle.mp h)]
  · rename_i h
    rw [hle, not_le] at h
    rw [hy, min_eq_right h.le]

/-! ## Products with a power of two -/

/-- `2 ** k` for a whole number `k`. -/
def twoTo (F : Format) : Int → Number F
  | .ofNat k =>
      if k + F.scale < F.limit then ofUnits F false (2 ^ (k + F.scale)) 1 else .infinity false
  | .negSucc k => ofUnits F false (2 ^ F.scale) (2 ^ (k + 1))

/-- What doubling makes of a value. -/
def doubled (F : Format) (a : ℕ∞) (k : Nat) : ℕ∞ :=
  if k + F.scale < F.limit ∧ a * 2 ^ k < 2 ^ F.limit then a * 2 ^ k else ⊤

theorem isMagnitude_mul_pow {units k : Nat} (h : IsMagnitude F units)
    (hlt : units * 2 ^ k < 2 ^ F.limit) : IsMagnitude F (units * 2 ^ k) := by
  refine ⟨?_, hlt⟩
  rcases Nat.eq_zero_or_pos units with rfl | hpos
  · simp
  have hshift : F.shift (units * 2 ^ k) ≤ F.shift units + k := by
    rw [Format.shift, Format.shift, log2_mul_pow hpos.ne']
    omega
  calc
    2 ^ F.shift (units * 2 ^ k) ∣ 2 ^ (F.shift units + k) := pow_dvd_pow 2 hshift
    _ = 2 ^ F.shift units * 2 ^ k := pow_add 2 _ _
    _ ∣ units * 2 ^ k := Nat.mul_dvd_mul_right h.1 _

/-- Doubling is exact, or it overflows. -/
theorem value_ofUnits {units k b : Nat} (h : IsMagnitude F units) (hb : 0 < b) :
    (ofUnits F false (units * 2 ^ k * b) b).value =
      some (if units * 2 ^ k < 2 ^ F.limit then ((units * 2 ^ k : Nat) : ℕ∞) else ⊤) := by
  rw [ofUnits]
  split_ifs with hnearest hlt hlt
  · have hexact := nearest_mul (isMagnitude_mul_pow h hlt) hb
    simp only [value, hexact]
  · have hlower : 2 ^ F.limit ≤ nearest F (units * 2 ^ k * b) b :=
      nearest_lower (by rwa [Nat.mul_div_cancel _ hb, ← not_lt])
    omega
  · rw [nearest_mul (isMagnitude_mul_pow h hlt) hb] at hnearest
    exact absurd hlt hnearest
  · rfl

theorem twoTo_eq {k : Nat} (h : k + F.scale < F.limit) :
    ∃ m, twoTo F k = .finite false m ∧ m.units = 2 ^ (k + F.scale) := by
  have hmagnitude : IsMagnitude F (2 ^ (k + F.scale)) := by
    refine ⟨?_, Nat.pow_lt_pow_right (by omega) h⟩
    have hdvd := dvd_of_mantissa (F := F) (m := 1) (s := k + F.scale) Nat.one_le_two_pow
    rwa [Nat.one_mul] at hdvd
  have hnearest : nearest F (2 ^ (k + F.scale)) 1 = 2 ^ (k + F.scale) := by
    have hexact := nearest_mul hmagnitude Nat.one_pos
    rwa [Nat.mul_one] at hexact
  have hlt : nearest F (2 ^ (k + F.scale)) 1 < 2 ^ F.limit := by
    rw [hnearest]
    exact hmagnitude.2
  refine ⟨⟨nearest F (2 ^ (k + F.scale)) 1, nearest_dvd _ _, hlt⟩, ?_, hnearest⟩
  change (if k + F.scale < F.limit then _ else _) = _
  rw [if_pos h, ofUnits, dif_pos hlt]

/-- A product with a power of two. -/
theorem value_mul_twoTo (hx : x.value = some a) (ha : a ≠ 0) (k : Nat) :
    (x.mul (twoTo F k)).value = some (doubled F a k) := by
  have hpow : (2 : ℕ∞) ^ k ≠ 0 := pow_ne_zero k two_ne_zero
  unfold doubled
  by_cases hk : k + F.scale < F.limit
  · obtain ⟨m', htwo, hunits⟩ := twoTo_eq hk
    rw [htwo]
    rcases value_eq_some hx with ⟨rfl, rfl⟩ | ⟨m, rfl, rfl⟩
    · have hm' : m'.units ≠ 0 := by
        rw [hunits]
        positivity
      simp [mul, value, hm', ENat.top_mul hpow]
    · have hproduct : m.units * m'.units = m.units * 2 ^ k * 2 ^ F.scale := by
        rw [hunits, pow_add, Nat.mul_assoc]
      have hcast : (m.units : ℕ∞) * 2 ^ k = ((m.units * 2 ^ k : Nat) : ℕ∞) := by
        push_cast
        rfl
      have hlimit : ((m.units * 2 ^ k : Nat) : ℕ∞) < 2 ^ F.limit ↔
          m.units * 2 ^ k < 2 ^ F.limit := by
        exact_mod_cast Iff.rfl
      rw [mul, hproduct, bne_self_eq_false,
        value_ofUnits m.representable (Nat.two_pow_pos F.scale), hcast]
      simp only [hk, true_and, hlimit]
  · have htwo : twoTo F k = .infinity false := if_neg hk
    rw [htwo, if_neg (fun h => hk h.1)]
    rcases value_eq_some hx with ⟨rfl, rfl⟩ | ⟨m, rfl, rfl⟩
    · rfl
    · have hm : m.units ≠ 0 := fun hzero => ha (by rw [hzero]; rfl)
      simp [mul, value, hm]

/-! ## Counters -/

/-- A whole number that is not 0 has one representation. -/
theorem eq_of_toInt {k : Int} (hx : x.toInt = some k) (hy : y.toInt = some k) (hk : k ≠ 0) :
    x = y := by
  obtain ⟨negative, m, rfl, hm⟩ := finite_of_toInt hx
  obtain ⟨negative', m', rfl, hm'⟩ := finite_of_toInt hy
  have hpos : (2 : Int) ^ F.scale ≠ 0 := by positivity
  have hne : signed negative m ≠ 0 := by
    rw [hm]
    exact mul_ne_zero hk hpos
  have heq : signed negative m = signed negative' m' := hm.trans hm'.symm
  have hsame : negative = negative' ∧ m.units = m'.units := by
    cases negative <;> cases negative' <;> simp [signed] at heq hne ⊢ <;> omega
  obtain ⟨rfl, hunits⟩ := hsame
  cases m
  cases m'
  simp only at hunits
  subst hunits
  rfl

/-- A counter of doubles stops at the end of the mantissa. -/
theorem toInt_add_one {x : Number binary64} {n : Nat}
    (hx : x.toInt = some ((Min.min n (2 ^ 53) : Nat) : Int)) :
    (x.add (ofInteger binary64 1)).toInt = some ((Min.min (n + 1) (2 ^ 53) : Nat) : Int) := by
  have hone : (ofInteger binary64 1).toInt = some 1 := toInt_ofInteger (by decide) binary64_roomy
  rcases lt_or_ge n (2 ^ 53) with hlt | hge
  · rw [Nat.min_eq_left hlt.le] at hx
    rw [Nat.min_eq_left hlt, toInt_add hx hone ?_ binary64_roomy]
    · rfl
    · change ((n : Int) + 1).natAbs ≤ 2 ^ 53
      omega
  · rw [Nat.min_eq_right hge] at hx
    have hlast : (ofInteger binary64 (2 ^ 53)).toInt = some ((2 ^ 53 : Nat) : Int) :=
      toInt_ofInteger (by decide) binary64_roomy
    rw [eq_of_toInt hx hlast (by decide), Nat.min_eq_right (by omega)]
    decide +kernel

end Number

end Binary
