import R2RPC.Library.Backoff
import Mathlib.Algebra.Order.Ring.Int
import Mathlib.RingTheory.Coprime.Lemmas
import Mathlib.Tactic.Positivity
import Mathlib.Tactic.Ring

/-!
# The reconnect delay of the Kotlin device

{lit}`scheduleReconnect` of {lit}`R2RpcDevice.kt` in the arithmetic of {lit}`Long` and
{lit}`Int`: the product and the counter wrap, the shift takes the six lowest bits of its
distance.

Main results:

- Definition {lit}`reconnectDelay`: the delay of an attempt.
- Theorem {lit}`toInt_delayUsed`: the delay as an integer.
- Structure {lit}`WellFormed`: what a delay should be after a history of failures.
- Theorem {lit}`wellFormed_iff`: it is that exactly if the product is not wrapped below the
  maximum.

Current gaps:

- What a callback of the application or another thread does to the counter in the middle of
  {lit}`scheduleReconnect`.
-/

namespace R2RPC
namespace Reconnect
namespace Kotlin

open Backoff

/-! ## The delay -/

/-- The options of a device that its `init` block accepts. -/
structure Options where
  reconnectInitialDelayMilliseconds : Int64
  reconnectMaximumDelayMilliseconds : Int64
  initial_pos : 0 < reconnectInitialDelayMilliseconds.toInt
  maximum_pos : 0 < reconnectMaximumDelayMilliseconds.toInt

/-- `Int.coerceAtMost`. -/
def coerceIntAtMost (value maximumValue : Int32) : Int32 :=
  if maximumValue < value then maximumValue else value

/-- `Long.coerceAtMost`. -/
def coerceLongAtMost (value maximumValue : Int64) : Int64 :=
  if maximumValue < value then maximumValue else value

/-- `1L shl bitCount`. -/
def oneShl (bitCount : Int32) : Int64 := 1 <<< bitCount.toInt64

/-- `reconnectDelay` in `scheduleReconnect`. -/
def reconnectDelay (options : Options) (reconnectAttempt : Int32) : Int64 :=
  coerceLongAtMost
    (options.reconnectInitialDelayMilliseconds * oneShl (coerceIntAtMost (reconnectAttempt - 1) 20))
    options.reconnectMaximumDelayMilliseconds

/-- How long `delay` waits. It returns at once if the time is not positive. -/
def delay (timeMillis : Int64) : Int := max 0 timeMillis.toInt

/-- `reconnectAttempt`: set to 0 by `start` and `handleWelcome`, incremented by
`scheduleReconnect`. -/
def reconnectAttempt (history : List Event) : Int32 := count 0 (· + 1) history

/-- The delay of the attempt that `scheduleReconnect` schedules after a history. -/
def delayUsed (options : Options) (history : List Event) : Int64 :=
  reconnectDelay options (reconnectAttempt history + 1)

/-- The delay is positive, at most the maximum, not below the one before it, the capped double
of the initial one, waited for, and the first one again after a reset. -/
structure WellFormed (options : Options) (history : List Event) : Prop where
  positive : 0 < (delayUsed options history).toInt
  bounded :
    (delayUsed options history).toInt ≤ options.reconnectMaximumDelayMilliseconds.toInt
  nondecreasing : ∀ earlier, history = earlier ++ [.failure] →
    (delayUsed options earlier).toInt ≤ (delayUsed options history).toInt
  exact : (delayUsed options history).toInt =
    Backoff.delay options.reconnectInitialDelayMilliseconds.toInt
      options.reconnectMaximumDelayMilliseconds.toInt (min (failures history) 20)
  waited : delay (delayUsed options history) = (delayUsed options history).toInt
  returns : ∀ earlier, history = earlier ++ [.reset] →
    delayUsed options history = delayUsed options []

/-! ## Machine arithmetic -/

theorem toInt_coerceLongAtMost (value maximumValue : Int64) :
    (coerceLongAtMost value maximumValue).toInt = min maximumValue.toInt value.toInt := by
  unfold coerceLongAtMost
  split
  · rename_i hlt
    rw [min_eq_left (Int64.lt_iff_toInt_lt.mp hlt).le]
  · rename_i hge
    rw [Int64.lt_iff_toInt_lt, not_lt] at hge
    rw [min_eq_right hge]

theorem toInt_coerceIntAtMost (value maximumValue : Int32) :
    (coerceIntAtMost value maximumValue).toInt = min maximumValue.toInt value.toInt := by
  unfold coerceIntAtMost
  split
  · rename_i hlt
    rw [min_eq_left (Int32.lt_iff_toInt_lt.mp hlt).le]
  · rename_i hge
    rw [Int32.lt_iff_toInt_lt, not_lt] at hge
    rw [min_eq_right hge]

theorem toNat_smod_width (distance : BitVec 64) :
    ((distance.smod 64#64).toNat : Int) = distance.toInt % 64 := by
  have hsmod : (distance.smod 64#64).toInt = distance.toInt % 64 := by
    rw [BitVec.toInt_smod]
    exact Int.fmod_eq_emod_of_nonneg _ (by decide)
  have hcond := BitVec.toInt_eq_toNat_cond (distance.smod 64#64)
  have hlt := (distance.smod 64#64).isLt
  rw [hsmod] at hcond
  split at hcond <;> omega

theorem toInt_oneShl (bitCount : Int32) :
    (oneShl bitCount).toInt = ((2 : Int) ^ (bitCount.toInt % 64).toNat).bmod (2 ^ 64) := by
  have hdistance : ((bitCount.toInt64.toBitVec.smod 64#64).toNat : Int) = bitCount.toInt % 64 := by
    rw [toNat_smod_width, Int64.toInt_toBitVec, Int32.toInt_toInt64]
  have hone : (1 : Int64).toBitVec.toNat = 1 := rfl
  rw [oneShl, ← Int64.toInt_toBitVec, Int64.toBitVec_shiftLeft, BitVec.shiftLeft_eq',
    BitVec.toInt_shiftLeft, ← hdistance, Int.toNat_natCast, hone, Nat.one_shiftLeft]
  push_cast
  rfl

/-- The counter wraps at `Int`. -/
theorem toInt_reconnectAttempt (history : List Event) :
    (reconnectAttempt history).toInt = (failures history : Int).bmod (2 ^ 32) := by
  rw [reconnectAttempt, count_eq_iterate]
  induction failures history with
  | zero => rfl
  | succ n ih =>
      rw [Function.iterate_succ_apply', Int32.toInt_add, ih]
      push_cast
      exact Int.bmod_add_bmod

/-- The distance of the shift after `k` failures. -/
def shift (k : Nat) : Nat := (min 20 ((k : Int).bmod (2 ^ 32)) % 64).toNat

/-- The delay as an integer: the product is wrapped before it is capped. -/
theorem toInt_delayUsed (options : Options) (history : List Event) :
    (delayUsed options history).toInt =
      min options.reconnectMaximumDelayMilliseconds.toInt
        ((options.reconnectInitialDelayMilliseconds.toInt * 2 ^ shift (failures history)).bmod
          (2 ^ 64)) := by
  have hattempt : reconnectAttempt history + 1 - 1 = reconnectAttempt history := by
    rw [Int32.add_sub_cancel]
  have htwenty : (20 : Int32).toInt = 20 := rfl
  rw [delayUsed, reconnectDelay, toInt_coerceLongAtMost, Int64.toInt_mul, hattempt, toInt_oneShl,
    toInt_coerceIntAtMost, toInt_reconnectAttempt, htwenty, Int.mul_bmod_bmod]
  rfl

/-- Where the distance is what it should be, the one before it is not larger. -/
theorem shift_le {k : Nat} (h : shift (k + 1) = min (k + 1) 20) : shift k ≤ shift (k + 1) := by
  have hsplit := Int.bmod_add_bdiv (k : Int) 4294967296
  have hsplit' := Int.bmod_add_bdiv ((k + 1 : Nat) : Int) 4294967296
  have hlt := Int.bmod_lt (x := (k : Int)) (m := 4294967296) (by omega)
  have hle := Int.le_bmod (x := (k : Int)) (m := 4294967296) (by omega)
  have hlt' := Int.bmod_lt (x := ((k + 1 : Nat) : Int)) (m := 4294967296) (by omega)
  have hle' := Int.le_bmod (x := ((k + 1 : Nat) : Int)) (m := 4294967296) (by omega)
  unfold shift at h ⊢
  rw [show (2 : Nat) ^ 32 = 4294967296 from rfl] at h ⊢
  generalize (k : Int).bmod 4294967296 = r at *
  generalize ((k + 1 : Nat) : Int).bmod 4294967296 = r' at *
  omega

theorem bmod_of_fits {a : Int} {s : Nat} (ha : 0 < a) (hfits : a * 2 ^ s < 2 ^ 63) :
    (a * 2 ^ s).bmod (2 ^ 64) = a * 2 ^ s := by
  have hpos : 0 < a * 2 ^ s := by positivity
  rw [show (2 : Nat) ^ 64 = 18446744073709551616 from rfl]
  exact Int.bmod_eq_of_le_mul_two (by omega) (by omega)

/-- Two multiples by powers of two with one residue: the smaller one has no residue. -/
theorem dvd_of_dvd_sub {a : Int} {s t : Nat} (hlt : s < t)
    (hdvd : 2 ^ 64 ∣ a * 2 ^ t - a * 2 ^ s) : 2 ^ 64 ∣ a * 2 ^ s := by
  obtain ⟨d, rfl⟩ := Nat.exists_eq_add_of_lt hlt
  have hfactor : a * 2 ^ (s + d + 1) - a * 2 ^ s = a * 2 ^ s * (2 ^ (d + 1) - 1) := by ring
  have hodd : IsCoprime (2 : Int) (2 ^ (d + 1) - 1) := ⟨2 ^ d, -1, by ring⟩
  rw [hfactor] at hdvd
  exact hodd.pow_left.dvd_of_dvd_mul_right hdvd

/-- A multiple that fits is the residue of no other one. -/
theorem eq_of_bmod {a : Int} {s t : Nat} (ha : 0 < a) (hfits : a * 2 ^ t < 2 ^ 63)
    (h : (a * 2 ^ s).bmod (2 ^ 64) = a * 2 ^ t) : s = t := by
  have hdvd : (2 ^ 64 : Int) ∣ a * 2 ^ s - a * 2 ^ t := by
    refine ⟨(a * 2 ^ s).bdiv (2 ^ 64), ?_⟩
    have hsplit := Int.bmod_add_bdiv (a * 2 ^ s) (2 ^ 64)
    rw [h] at hsplit
    exact sub_eq_iff_eq_add'.mpr hsplit.symm
  have hnot : ∀ r ≤ t, ¬ (2 ^ 64 : Int) ∣ a * 2 ^ r := fun r hr hmultiple => by
    have hpow : (2 : Int) ^ r ≤ 2 ^ t := pow_le_pow_right₀ one_le_two hr
    have hle : a * 2 ^ r ≤ a * 2 ^ t := Int.mul_le_mul_of_nonneg_left hpow ha.le
    have hpos : 0 < a * 2 ^ r := by positivity
    have hlarge := Int.le_of_dvd hpos hmultiple
    omega
  rcases lt_trichotomy s t with hlt | heq | hgt
  · have hneg := (dvd_neg.mpr hdvd)
    rw [neg_sub] at hneg
    exact absurd (dvd_of_dvd_sub hlt hneg) (hnot s hlt.le)
  · exact heq
  · exact absurd (dvd_of_dvd_sub hgt hdvd) (hnot t le_rfl)

/-! ## When the delay is well formed -/

/-- The condition after `k` failures: the doubled delay fits a `Long`, or it is at least the
maximum and what is left of it modulo `2 ^ 64` still is. From `2 ^ 31` attempts on the counter
has wrapped, and the distance of the shift may be another one. -/
def Fits (options : Options) (k : Nat) : Prop :=
  let initial := options.reconnectInitialDelayMilliseconds.toInt
  let maximum := options.reconnectMaximumDelayMilliseconds.toInt
  shift k = min k 20 ∧ initial * 2 ^ min k 20 < 2 ^ 63 ∨
    maximum ≤ initial * 2 ^ min k 20 ∧ maximum ≤ (initial * 2 ^ shift k).bmod (2 ^ 64)

variable {options : Options} {history : List Event}

/-- The delay is the capped double exactly under the condition. -/
theorem exact_iff : (delayUsed options history).toInt =
    Backoff.delay options.reconnectInitialDelayMilliseconds.toInt
      options.reconnectMaximumDelayMilliseconds.toInt (min (failures history) 20) ↔
    Fits options (failures history) := by
  have hinitial := options.initial_pos
  have hmaximum := Int64.toInt_lt options.reconnectMaximumDelayMilliseconds
  rw [toInt_delayUsed, Backoff.delay, Fits]
  generalize options.reconnectInitialDelayMilliseconds.toInt = initial at *
  generalize options.reconnectMaximumDelayMilliseconds.toInt = maximum at *
  generalize failures history = k
  constructor
  · intro h
    rcases le_or_gt maximum ((initial * 2 ^ shift k).bmod (2 ^ 64)) with hle | hgt
    · rw [min_eq_left hle] at h
      exact .inr ⟨min_eq_left_iff.mp h.symm, hle⟩
    · rw [min_eq_right hgt.le] at h
      have hbelow : initial * 2 ^ min k 20 < maximum := by
        by_contra hge
        rw [min_eq_left (not_lt.mp hge)] at h
        omega
      rw [min_eq_right hbelow.le] at h
      have hfits : initial * 2 ^ min k 20 < 2 ^ 63 := hbelow.trans hmaximum
      exact .inl ⟨eq_of_bmod hinitial hfits h, hfits⟩
  · rintro (⟨hshift, hfits⟩ | ⟨hproduct, hresidue⟩)
    · rw [hshift, bmod_of_fits hinitial hfits]
    · rw [min_eq_left hresidue, min_eq_left hproduct]

/-- A delay that is the capped double is well formed in every other respect. -/
theorem nondecreasing_of_fits (h : Fits options (failures history)) (earlier : List Event)
    (heq : history = earlier ++ [.failure]) :
    (delayUsed options earlier).toInt ≤ (delayUsed options history).toInt := by
  subst heq
  rw [failures_failure] at h
  rw [toInt_delayUsed, toInt_delayUsed, failures_failure]
  rcases h with ⟨hshift, hfits⟩ | ⟨-, hresidue⟩
  · have hpos := options.initial_pos
    have hpow : (2 : Int) ^ shift (failures earlier) ≤ 2 ^ shift (failures earlier + 1) :=
      pow_le_pow_right₀ one_le_two (shift_le hshift)
    have hle := Int.mul_le_mul_of_nonneg_left hpow hpos.le
    rw [← hshift] at hfits
    rw [bmod_of_fits hpos hfits, bmod_of_fits hpos (hle.trans_lt hfits)]
    exact min_le_min_left _ hle
  · rw [min_eq_left hresidue]
    exact min_le_left _ _

/-- The delay after a history of failures is well formed exactly under the condition. -/
theorem wellFormed_iff :
    WellFormed options history ↔ Fits options (failures history) := by
  constructor
  · exact fun h => exact_iff.mp h.exact
  · intro h
    have hexact := exact_iff.mpr h
    have hpos : 0 < (delayUsed options history).toInt := by
      rw [hexact]
      exact delay_pos options.initial_pos options.maximum_pos _
    refine ⟨hpos, ?_, nondecreasing_of_fits h, hexact, max_eq_right hpos.le, ?_⟩
    · rw [hexact]
      exact delay_le_maximum _
    · rintro earlier rfl
      rw [delayUsed, reconnectAttempt, count_reset]
      rfl

end Kotlin
end Reconnect
end R2RPC
