import R2RPC.Library.PowersOfTwo
import R2RPC.Reconnect.Kotlin

/-!
# The reconnect delay of the JavaScript device

{lit}`scheduleReconnect` of {lit}`device.ts` in the arithmetic of doubles, with the timer of the
host. The two devices are taken together at the end.

Main results:

- Definition {lit}`reconnectDelay`: the delay of an attempt.
- Theorem {lit}`value_delayUsed`: its value.
- Structure {lit}`WellFormed`: what a delay should be after a history of failures.
- Theorem {lit}`wellFormed_iff`: it is that exactly for options that are numbers, as long as the
  timer takes the delay and the power of two does not overflow below the maximum.

Current gaps:

- What a callback of the application does to the counter in the middle of
  {lit}`scheduleReconnect`.
-/

namespace R2RPC
namespace Reconnect

open Backoff Binary

namespace JavaScript

/-- A number of JavaScript. -/
abbrev Double := Number binary64

/-! ## The delay -/

/-- `ensurePositive` does not throw. -/
def ensurePositive (value : Option Double) : Bool :=
  match value with
  | none => true
  | some value => !value.le (ofInteger binary64 0)

/-- The options of a device that its constructor accepts. -/
structure Options where
  reconnectInitialDelayMilliseconds : Option Double
  reconnectMaximumDelayMilliseconds : Option Double
  initial_ok : ensurePositive reconnectInitialDelayMilliseconds = true
  maximum_ok : ensurePositive reconnectMaximumDelayMilliseconds = true

/-- `initialDelay`. -/
def Options.initialDelay (options : Options) : Double :=
  options.reconnectInitialDelayMilliseconds.getD (ofInteger binary64 500)

/-- `maximumDelay`. -/
def Options.maximumDelay (options : Options) : Double :=
  options.reconnectMaximumDelayMilliseconds.getD (ofInteger binary64 30000)

/-- `2 ** exponent`; the exponent is always a whole number here. -/
def powerOfTwo (exponent : Double) : Double := exponent.toInt.elim .nan (Number.twoTo binary64)

/-- `reconnectDelay` in `scheduleReconnect`. -/
def reconnectDelay (options : Options) (reconnectAttempt : Double) : Double :=
  options.maximumDelay.min
    (options.initialDelay.mul (powerOfTwo (reconnectAttempt.sub (ofInteger binary64 1))))

/-- The milliseconds that `setTimeout` waits: 1 for a delay below 1 or above `2 ^ 31 - 1` and for
NaN, otherwise the whole milliseconds of the delay. -/
def setTimeout : Double → Nat
  | .finite false m =>
      if 2 ^ binary64.scale ≤ m.units ∧ m.units ≤ (2 ^ 31 - 1) * 2 ^ binary64.scale then
        m.units / 2 ^ binary64.scale
      else 1
  | _ => 1

/-- The timer waits for the delay, to the millisecond. -/
def Waits (delay : Double) : Prop :=
  ∃ m, delay = .finite false m ∧
    setTimeout delay * 2 ^ binary64.scale < m.units + 2 ^ binary64.scale ∧
    m.units < (setTimeout delay + 1) * 2 ^ binary64.scale

/-- `reconnectAttempt`: set to 0 by `start` and `handleWelcome`, incremented by
`scheduleReconnect`. -/
def reconnectAttempt (history : List Event) : Double :=
  count (ofInteger binary64 0) (fun attempt => attempt.add (ofInteger binary64 1)) history

/-- The delay of the attempt that `scheduleReconnect` schedules after a history. -/
def delayUsed (options : Options) (history : List Event) : Double :=
  reconnectDelay options ((reconnectAttempt history).add (ofInteger binary64 1))

/-- The delay is positive, at most the maximum, not below the one before it, the capped double
of the initial one, waited for, and the first one again after a reset. -/
structure WellFormed (options : Options) (history : List Event) : Prop where
  positive : ∃ v ∈ (delayUsed options history).value, 0 < v
  bounded : ∃ v ∈ (delayUsed options history).value, ∃ b ∈ options.maximumDelay.value, v ≤ b
  nondecreasing : ∀ earlier, history = earlier ++ [.failure] →
    ∃ u ∈ (delayUsed options earlier).value, ∃ v ∈ (delayUsed options history).value, u ≤ v
  exact : ∃ a ∈ options.initialDelay.value, ∃ b ∈ options.maximumDelay.value,
    (delayUsed options history).value = some (Backoff.delay a b (failures history))
  waited : Waits (delayUsed options history)
  returns : ∀ earlier, history = earlier ++ [.reset] →
    delayUsed options history = delayUsed options []

/-! ## The value of the delay -/

theorem toInt_reconnectAttempt (history : List Event) :
    (reconnectAttempt history).toInt = some ((min (failures history) (2 ^ 53) : Nat) : Int) := by
  rw [reconnectAttempt, count_eq_iterate]
  induction failures history with
  | zero =>
      have hzero : (ofInteger binary64 0).toInt = some 0 :=
        Number.toInt_ofInteger (by decide) binary64_roomy
      rw [Function.iterate_zero_apply, hzero, Nat.zero_min]
      rfl
  | succ n ih =>
      rw [Function.iterate_succ_apply']
      exact Number.toInt_add_one ih

theorem powerOfTwo_eq (history : List Event) :
    powerOfTwo (((reconnectAttempt history).add (ofInteger binary64 1)).sub (ofInteger binary64 1)) =
      Number.twoTo binary64 (min (failures history) (2 ^ 53 - 1) : Nat) := by
  have hattempt := Number.toInt_add_one (toInt_reconnectAttempt history)
  have hone : (ofInteger binary64 1).toInt = some 1 :=
    Number.toInt_ofInteger (by decide) binary64_roomy
  have hexponent := Number.toInt_sub hattempt hone
    (by change (_ : Int).natAbs ≤ 2 ^ 53; omega) binary64_roomy
  have hwhole : ((min (failures history + 1) (2 ^ 53) : Nat) : Int) - 1 =
      (min (failures history) (2 ^ 53 - 1) : Nat) := by omega
  rw [powerOfTwo, hexponent, hwhole, Option.elim_some]

/-- What a counter that has stopped leaves out has overflowed. -/
theorem doubled_min (a : ℕ∞) (k : Nat) :
    Number.doubled binary64 a (min k (2 ^ 53 - 1)) = Number.doubled binary64 a k := by
  rcases le_or_gt k (2 ^ 53 - 1) with hle | hgt
  · rw [min_eq_left hle]
  · have hscale : binary64.scale = 1074 := rfl
    have hlimit : binary64.limit = 2098 := rfl
    rw [min_eq_right hgt.le, Number.doubled, Number.doubled, if_neg, if_neg] <;> omega

variable {options : Options} {history : List Event} {a b v : ℕ∞}

/-- A value that is not at most 0 is positive. -/
theorem pos_of_value {x : Double} (h : x.le (ofInteger binary64 0) = false)
    (ha : x.value = some a) : 0 < a := by
  have hzero : (ofInteger binary64 0).toInt = some 0 :=
    Number.toInt_ofInteger (by decide) binary64_roomy
  obtain ⟨negative, m, heq, hm⟩ := Number.finite_of_toInt hzero
  rcases Number.value_eq_some ha with ⟨rfl, rfl⟩ | ⟨m', rfl, rfl⟩
  · exact ENat.top_pos
  · rw [heq, Number.le, hm, decide_eq_false_iff_not, Number.signed, if_neg Bool.false_ne_true] at h
    exact_mod_cast (by omega : 0 < m'.units)

/-- An option that is checked, and a default that would pass the check. -/
theorem le_getD {option : Option Double} {default : Double} (hok : ensurePositive option = true)
    (hdefault : default.le (ofInteger binary64 0) = false) :
    (option.getD default).le (ofInteger binary64 0) = false := by
  cases option with
  | none => exact hdefault
  | some value => simpa [ensurePositive] using hok

theorem initialDelay_pos (ha : options.initialDelay.value = some a) : 0 < a :=
  pos_of_value (le_getD options.initial_ok (by decide +kernel)) ha

theorem maximumDelay_pos (hb : options.maximumDelay.value = some b) : 0 < b :=
  pos_of_value (le_getD options.maximum_ok (by decide +kernel)) hb

/-- The value of the delay. -/
theorem value_delayUsed (ha : options.initialDelay.value = some a)
    (hb : options.maximumDelay.value = some b) :
    (delayUsed options history).value =
      some (min b (Number.doubled binary64 a (failures history))) := by
  have hproduct := Number.value_mul_twoTo ha (initialDelay_pos ha).ne'
    (min (failures history) (2 ^ 53 - 1))
  rw [delayUsed, reconnectDelay, powerOfTwo_eq, Number.value_min hb hproduct, doubled_min]

/-- The longest delay that the timer takes, in units. -/
def longest : ℕ∞ := ((2 ^ 31 - 1) * 2 ^ binary64.scale : Nat)

/-- Whole units of a bounded number, or one. -/
theorem timer_iff {u unit most : Nat} (hpos : 0 < u) (hunit : 0 < unit) (hmost : 2 ≤ most) :
    ((if unit ≤ u ∧ u ≤ most * unit then u / unit else 1) * unit < u + unit ∧
      u < ((if unit ≤ u ∧ u ≤ most * unit then u / unit else 1) + 1) * unit) ↔
    u ≤ most * unit := by
  have hsplit := Nat.div_add_mod u unit
  have hmod := Nat.mod_lt u hunit
  have htwo : 2 * unit ≤ most * unit := Nat.mul_le_mul_right _ hmost
  rw [Nat.mul_comm unit] at hsplit
  split_ifs with htaken
  · have hnext : (u / unit + 1) * unit = u / unit * unit + unit := by ring
    simp only [htaken.2, iff_true]
    omega
  · omega

/-- The timer waits exactly for the positive delays that it takes. -/
theorem waits_iff {delay : Double} (hv : delay.value = some v) (hpos : 0 < v) :
    Waits delay ↔ v ≤ longest := by
  rcases Number.value_eq_some hv with ⟨rfl, rfl⟩ | ⟨m, rfl, rfl⟩
  · constructor
    · rintro ⟨m, heq, -⟩
      cases heq
    · exact fun h => absurd (top_le_iff.mp h) (ENat.natCast_ne_top _)
  · have hunits : 0 < m.units := by exact_mod_cast hpos
    have hunit : 0 < 2 ^ binary64.scale := by positivity
    have hwaits := timer_iff hunits hunit (show 2 ≤ 2 ^ 31 - 1 by decide)
    rw [longest, Nat.cast_le, ← hwaits]
    constructor
    · rintro ⟨m', heq, h⟩
      obtain rfl : m = m' := by injection heq
      rwa [setTimeout] at h
    · intro h
      refine ⟨m, rfl, ?_⟩
      rwa [setTimeout]

/-! ## When the delay is well formed -/

/-- The condition after `k` failures: the options are no NaN, the timer takes the capped double,
and after 1024 failures the maximum is reached, since `2 ** 1024` is infinite. -/
def Fits (options : Options) (k : Nat) : Prop :=
  ∃ a ∈ options.initialDelay.value, ∃ b ∈ options.maximumDelay.value,
    Backoff.delay a b k ≤ longest ∧ (k < 1024 ∨ b ≤ a * 2 ^ k)

theorem longest_lt : longest < 2 ^ binary64.limit := by
  have hlt : (2 ^ 31 - 1) * 2 ^ binary64.scale < 2 ^ binary64.limit := by
    calc
      (2 ^ 31 - 1) * 2 ^ binary64.scale < 2 ^ 31 * 2 ^ binary64.scale :=
        Nat.mul_lt_mul_of_pos_right (by decide) (by positivity)
      _ = 2 ^ (31 + binary64.scale) := (pow_add 2 _ _).symm
      _ < 2 ^ binary64.limit := Nat.pow_lt_pow_right (by omega) (by decide)
  have hcast : (2 : ℕ∞) ^ binary64.limit = ((2 ^ binary64.limit : Nat) : ℕ∞) := by
    rw [Nat.cast_pow, Nat.cast_ofNat]
  rwa [longest, hcast, Nat.cast_lt]

/-- Overflow is not seen behind the maximum. -/
theorem min_doubled_iff {k : Nat} (hle : Backoff.delay a b k ≤ longest) :
    min b (Number.doubled binary64 a k) = Backoff.delay a b k ↔ k < 1024 ∨ b ≤ a * 2 ^ k := by
  have hscale : k + binary64.scale < binary64.limit ↔ k < 1024 := by
    change k + 1074 < 2098 ↔ k < 1024
    omega
  unfold Backoff.delay at *
  by_cases hk : k < 1024
  · simp only [hk, true_or, iff_true]
    unfold Number.doubled
    split_ifs with hfits
    · rfl
    · have hlarge : 2 ^ binary64.limit ≤ a * 2 ^ k := by
        rw [not_and, not_lt] at hfits
        exact hfits (hscale.mpr hk)
      have hb : b < a * 2 ^ k := by
        rcases min_le_iff.mp hle with hb | ha
        · exact (hb.trans_lt longest_lt).trans_le hlarge
        · exact absurd (ha.trans_lt longest_lt) (not_lt.mpr hlarge)
      rw [min_eq_left le_top, min_eq_left hb.le]
  · have htop : Number.doubled binary64 a k = ⊤ := if_neg fun h => hk (hscale.mp h.1)
    rw [htop, min_eq_left le_top, eq_comm, min_eq_left_iff]
    simp [hk]

theorem doubled_mono (a : ℕ∞) (k : Nat) :
    Number.doubled binary64 a k ≤ Number.doubled binary64 a (k + 1) := by
  have hle : a * 2 ^ k ≤ a * 2 ^ (k + 1) := by
    gcongr
    · exact one_le_two
    · omega
  unfold Number.doubled
  split_ifs with hfits hnext hnext
  · exact hle
  · exact le_top
  · exact absurd ⟨by omega, hle.trans_lt hnext.2⟩ hfits
  · exact le_rfl

/-- The delay after a history of failures is well formed exactly under the condition. -/
theorem wellFormed_iff : WellFormed options history ↔ Fits options (failures history) := by
  constructor
  · intro h
    obtain ⟨a, ha, b, hb, hexact⟩ := h.exact
    obtain ⟨v, hv, hpos⟩ := h.positive
    have hle := (waits_iff hv hpos).mp h.waited
    rw [value_delayUsed ha hb, Option.some.injEq] at hexact
    rw [value_delayUsed ha hb, Option.mem_some_iff, hexact] at hv
    subst hv
    exact ⟨a, ha, b, hb, hle, (min_doubled_iff hle).mp hexact⟩
  · rintro ⟨a, ha, b, hb, hle, hreached⟩
    have hvalue : (delayUsed options history).value = _ := value_delayUsed ha hb
    have hexact := (min_doubled_iff hle).mpr hreached
    have hpos := delay_pos (initialDelay_pos ha) (maximumDelay_pos hb) (failures history)
    rw [hexact] at hvalue
    refine ⟨⟨_, hvalue, hpos⟩, ⟨_, hvalue, b, hb, delay_le_maximum _⟩, ?_,
      ⟨a, ha, b, hb, hvalue⟩, (waits_iff hvalue hpos).mpr hle, ?_⟩
    · rintro earlier rfl
      refine ⟨_, value_delayUsed ha hb, _, value_delayUsed ha hb, ?_⟩
      rw [failures_failure]
      exact min_le_min_left b (doubled_mono a _)
    · rintro earlier rfl
      rw [delayUsed, delayUsed, reconnectAttempt, reconnectAttempt, count_reset, count_nil]

end JavaScript

/-! ## Both devices -/

/-- On either device the delay after a history of failures is well formed exactly under its
condition. -/
theorem delays_wellFormed_iff (history : List Event) :
    (∀ options : Kotlin.Options,
      Kotlin.WellFormed options history ↔ Kotlin.Fits options (failures history)) ∧
    ∀ options : JavaScript.Options,
      JavaScript.WellFormed options history ↔ JavaScript.Fits options (failures history) :=
  ⟨fun _ => Kotlin.wellFormed_iff, fun _ => JavaScript.wellFormed_iff⟩

/-- Delays that doubling wraps. -/
def wrapping : Kotlin.Options where
  reconnectInitialDelayMilliseconds := 10000000000000
  reconnectMaximumDelayMilliseconds := 10000000000000
  initial_pos := by decide
  maximum_pos := by decide

/-- A delay of `2 ^ 31` milliseconds. -/
def untimed : JavaScript.Options where
  reconnectInitialDelayMilliseconds := some (ofInteger binary64 2147483648)
  reconnectMaximumDelayMilliseconds := some (ofInteger binary64 2147483648)
  initial_ok := by decide +kernel
  maximum_ok := by decide +kernel

/-- The twenty-first attempt of one device has a negative delay, the first one of the other a
delay that its timer does not take. -/
theorem delays_not_wellFormed :
    ¬ Kotlin.WellFormed wrapping (List.replicate 20 .failure) ∧
      ¬ JavaScript.WellFormed untimed [] := by
  refine ⟨fun h => absurd h.positive (by decide +kernel), fun h => ?_⟩
  have hdelay : JavaScript.delayUsed untimed [] = ofInteger binary64 2147483648 := by
    decide +kernel
  have hone : JavaScript.setTimeout (JavaScript.delayUsed untimed []) = 1 := by decide +kernel
  have hinteger : (JavaScript.delayUsed untimed []).toInt = some 2147483648 := by
    rw [hdelay]
    exact Number.toInt_ofInteger (by decide) binary64_roomy
  obtain ⟨m, heq, -, hlt⟩ := h.waited
  rw [hone] at hlt
  rw [heq, Number.toInt_finite, Number.signed, if_neg Bool.false_ne_true] at hinteger
  have hunit : 0 < 2 ^ binary64.scale := by positivity
  have hunits : m.units = 2147483648 * 2 ^ binary64.scale := by exact_mod_cast hinteger
  omega

end Reconnect
end R2RPC
