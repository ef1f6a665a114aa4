import R2RPC.JavaScriptDevice.Jobs
import R2RPC.KotlinDevice.Jobs
import R2RPC.Library.IntegerText

/-!
# The timeout of an invocation

One integer on its way: checked by {lit}`InvokeDto`, multiplied by {lit}`invoke`, given to the
timer of the waiter, to the expiry of {lit}`rpc:waiter`, and to the two device SDKs.

Main results:

- Definition {lit}`timerDelay`: the delay that a host makes of a number.
- Structure {lit}`Honoured`: the timeout is kept everywhere.
- Theorem {lit}`honoured_iff`: the timeouts that are kept.
- Theorem {lit}`long_timeout_fires`: one that is not.

Current gaps:

- Timers fire no earlier than their delay; how much later is not modeled.
-/

namespace R2RPC
namespace Rpc
namespace Timeouts

open Utf16 Binary JavaScript

/-! ## Hosts -/

/-- The whole part of a positive number. -/
def wholePart : JsNumber → Nat
  | .finite false m => m.units / 2 ^ binary64.scale
  | _ => 0

/-- The largest delay of a timer. -/
def timeoutMax : Int := 2147483647

/-- The delay of `setTimeout`: one millisecond unless the number is in range. -/
def timerDelay (delay : JsNumber) : Nat :=
  if (ofInteger binary64 1).le delay && delay.le (ofInteger binary64 timeoutMax) then
    wholePart delay
  else 1

/-- What Redis reads from the argument of `PX`: a positive integer of 64 bits with its sign. -/
def expiryMilliseconds (argument : JsString) : Option Nat :=
  (readInteger argument).filter fun value => decide (value < 2 ^ 63)

/-- A number as an `Int` of Kotlin. -/
def kotlinInt (n : JsNumber) : Option Int :=
  n.toInt.filter fun value => decide (-2 ^ 31 ≤ value ∧ value < 2 ^ 31)

/-- A number as a `Long` of Kotlin. -/
def kotlinLong (n : JsNumber) : Option Int :=
  n.toInt.filter fun value => decide (-2 ^ 63 ≤ value ∧ value < 2 ^ 63)

/-- A reading of a clock, in the range of ECMAScript. -/
structure ClockReading where
  milliseconds : Int
  bounded : milliseconds.natAbs ≤ 8640000000000000

/-- `Date.now()`. -/
def ClockReading.number (reading : ClockReading) : JsNumber :=
  ofInteger binary64 reading.milliseconds

/-! ## The server -/

/-- `timeoutSeconds` after {lit}`@IsOptional`, {lit}`@IsInt` and {lit}`@Min(1)`: left out, or an
integer from one on. -/
structure AcceptedTimeout where
  value : Option JsNumber
  accepted : ∀ n, value = some n → ∃ k : Int, n.toInt = some k ∧ 1 ≤ k

namespace AcceptedTimeout

variable (timeout : AcceptedTimeout)

/-- `input.timeoutSeconds ?? 20`. -/
def timeoutSeconds : JsNumber := timeout.value.getD (ofInteger binary64 20)

/-- `timeoutSeconds * 1000`. -/
def timeoutMilliseconds : JsNumber := timeout.timeoutSeconds.mul (ofInteger binary64 1000)

/-- `startedAt + timeoutMilliseconds`. -/
def deadlineAt (startedAt : ClockReading) : JsNumber :=
  startedAt.number.add timeout.timeoutMilliseconds

/-- The expiry of `markWaiting`, as its argument is written. -/
def expiry : JsString := (timeout.timeoutMilliseconds.add (ofInteger binary64 5000)).text

/-- The job that the device gets, as far as time is concerned. -/
def job (startedAt : ClockReading) : JavaScriptDevice.Jobs.RpcJob where
  requestId := []
  project := []
  action := []
  payload := .null
  timeoutSeconds := timeout.timeoutSeconds
  deadlineAt := some (timeout.deadlineAt startedAt)

/-- How long the JavaScript SDK gives the handler. -/
def javaScriptDelay (startedAt now : ClockReading) : Nat :=
  timerDelay (JavaScriptDevice.Jobs.resolveTimeoutMilliseconds (timeout.job startedAt) now.number)

/-- How long the Kotlin SDK gives the handler, if it can decode the job. -/
def kotlinDelay (startedAt now : ClockReading) : Option Int :=
  (kotlinInt timeout.timeoutSeconds).bind fun timeoutSeconds =>
    (kotlinLong (timeout.deadlineAt startedAt)).map fun deadlineAt =>
      KotlinDevice.Jobs.resolveTimeoutMilliseconds timeoutSeconds (some deadlineAt) now.milliseconds

end AcceptedTimeout

/-- The seconds of an accepted timeout. -/
def AcceptedTimeout.seconds (timeout : AcceptedTimeout) : Int :=
  timeout.timeoutSeconds.toInt.getD 0

/-! ## What is expected -/

/-- The timeout is kept: by the waiter, by the expiry of its key, by the deadline, and by the two
SDKs at any reading of their clocks. -/
structure Honoured (timeout : AcceptedTimeout) (startedAt : ClockReading) : Prop where
  waiter : timeout.seconds * 1000 ≤ timerDelay timeout.timeoutMilliseconds
  expiry : ∃ milliseconds, expiryMilliseconds timeout.expiry = some milliseconds ∧
    timerDelay timeout.timeoutMilliseconds < milliseconds
  deadline : (timeout.deadlineAt startedAt).le startedAt.number = false
  javaScript : ∀ (now : ClockReading) (deadlineAt : Int),
    (timeout.deadlineAt startedAt).toInt = some deadlineAt →
      min (timeout.seconds * 1000) (deadlineAt - now.milliseconds) ≤
        timeout.javaScriptDelay startedAt now
  kotlin : ∀ (now : ClockReading) (deadlineAt : Int),
    (timeout.deadlineAt startedAt).toInt = some deadlineAt →
      ∃ delay, timeout.kotlinDelay startedAt now = some delay ∧
        min (timeout.seconds * 1000) (deadlineAt - now.milliseconds) ≤ delay

/-! ## Exact numbers -/

/-- Integers up to here are exact. -/
theorem fits {k : Int} (h : k.natAbs ≤ 9007199254740992) : k.natAbs ≤ 2 ^ binary64.precision := h

theorem toInt_integer {k : Int} (h : k.natAbs ≤ 9007199254740992) :
    (ofInteger binary64 k).toInt = some k := Number.toInt_ofInteger (fits h) binary64_roomy

theorem ClockReading.toInt_number (reading : ClockReading) :
    reading.number.toInt = some reading.milliseconds :=
  toInt_integer (reading.bounded.trans (by decide))

theorem AcceptedTimeout.seconds_spec (timeout : AcceptedTimeout) :
    timeout.timeoutSeconds.toInt = some timeout.seconds ∧ 1 ≤ timeout.seconds := by
  have hspec : ∃ k : Int, timeout.timeoutSeconds.toInt = some k ∧ 1 ≤ k := by
    unfold timeoutSeconds
    cases hvalue : timeout.value with
    | none =>
        rw [Option.getD_none]
        exact ⟨20, toInt_integer (by decide), by decide⟩
    | some n => exact timeout.accepted n hvalue
  rcases hspec with ⟨k, hk, hpos⟩
  rw [seconds, hk]
  exact ⟨rfl, hpos⟩

/-- A delay in range is kept. -/
theorem timerDelay_eq {delay : JsNumber} {k : Int} (hdelay : delay.toInt = some k) (hpos : 1 ≤ k)
    (hk : k ≤ timeoutMax) : (timerDelay delay : Int) = k := by
  have hlower : (ofInteger binary64 1).le delay = true :=
    (Number.le_iff (toInt_integer (by decide)) hdelay).mpr hpos
  have hupper : delay.le (ofInteger binary64 timeoutMax) = true :=
    (Number.le_iff hdelay (toInt_integer (by decide))).mpr hk
  rw [timerDelay, hlower, hupper, Bool.and_true, if_pos rfl]
  rcases Number.finite_of_toInt hdelay with ⟨negative, m, rfl, hm⟩
  have hscale : (0 : Int) < 2 ^ binary64.scale := by positivity
  have hsigned : 0 < Number.signed negative m := by
    rw [hm]
    exact Int.mul_pos (by omega) hscale
  cases negative with
  | true =>
      unfold Number.signed at hsigned
      rw [if_pos rfl] at hsigned
      omega
  | false =>
      have hunits : (m.units : Int) = k * 2 ^ binary64.scale := by simpa [Number.signed] using hm
      rw [wholePart, Int.natCast_ediv, hunits]
      push_cast
      exact Int.mul_ediv_cancel _ hscale.ne'

/-! ## Timeouts in range -/

section InRange

variable {timeout : AcceptedTimeout} (startedAt : ClockReading)
  (hrange : timeout.seconds ≤ 2147483)

include hrange

theorem toInt_timeoutMilliseconds :
    timeout.timeoutMilliseconds.toInt = some (timeout.seconds * 1000) := by
  rcases timeout.seconds_spec with ⟨htoInt, hpos⟩
  exact Number.toInt_mul htoInt (toInt_integer (by decide)) (fits (by omega)) binary64_roomy

theorem toInt_deadlineAt :
    (timeout.deadlineAt startedAt).toInt =
      some (startedAt.milliseconds + timeout.seconds * 1000) := by
  have hpos := timeout.seconds_spec.2
  have hbound := startedAt.bounded
  exact Number.toInt_add startedAt.toInt_number (toInt_timeoutMilliseconds hrange)
    (fits (by omega)) binary64_roomy

theorem timerDelay_timeoutMilliseconds :
    (timerDelay timeout.timeoutMilliseconds : Int) = timeout.seconds * 1000 := by
  have hpos := timeout.seconds_spec.2
  have hmax : timeoutMax = 2147483647 := rfl
  exact timerDelay_eq (toInt_timeoutMilliseconds hrange) (by omega) (by omega)

theorem expiry_honoured :
    ∃ milliseconds, expiryMilliseconds timeout.expiry = some milliseconds ∧
      timerDelay timeout.timeoutMilliseconds < milliseconds := by
  have hpos := timeout.seconds_spec.2
  have hdelay := timerDelay_timeoutMilliseconds hrange
  have hsum : (timeout.timeoutMilliseconds.add (ofInteger binary64 5000)).toInt =
      some ((timeout.seconds * 1000 + 5000).toNat : Int) := by
    rw [Int.toNat_of_nonneg (by omega)]
    exact Number.toInt_add (toInt_timeoutMilliseconds hrange) (toInt_integer (by decide))
      (fits (by omega)) binary64_roomy
  have hprecision : (2 : Nat) ^ binary64.precision = 9007199254740992 := by decide
  have htext : readInteger timeout.expiry = some (timeout.seconds * 1000 + 5000).toNat :=
    text_integer hsum (by omega) (by rw [hprecision]; omega) binary64_roomy (by decide)
      (by rw [hprecision]; decide)
  refine ⟨(timeout.seconds * 1000 + 5000).toNat, ?_, by omega⟩
  rw [expiryMilliseconds, htext, Option.filter_some, if_pos]
  exact decide_eq_true (by omega)

/-- Before the deadline, the JavaScript SDK keeps the smaller of the timeout and the time to the
deadline. -/
theorem javaScriptDelay_eq (now : ClockReading)
    (hlater : now.milliseconds < startedAt.milliseconds + timeout.seconds * 1000) :
    (timeout.javaScriptDelay startedAt now : Int) =
      min (timeout.seconds * 1000)
        (startedAt.milliseconds + timeout.seconds * 1000 - now.milliseconds) := by
  rcases timeout.seconds_spec with ⟨htoInt, hpos⟩
  have hmax : timeoutMax = 2147483647 := rfl
  have hone : (ofInteger binary64 1).toInt = some 1 := toInt_integer (by decide)
  have hdeadline := toInt_deadlineAt startedAt hrange
  set remaining := startedAt.milliseconds + timeout.seconds * 1000 - now.milliseconds
    with hremaining
  have hconfigured : ((ofInteger binary64 1).max
      (timeout.timeoutSeconds.mul (ofInteger binary64 1000))).toInt =
        some (timeout.seconds * 1000) := by
    have hproduct : (timeout.timeoutSeconds.mul (ofInteger binary64 1000)).toInt =
        some (timeout.seconds * 1000) := toInt_timeoutMilliseconds hrange
    rw [Number.toInt_max hone hproduct, max_eq_right (by omega)]
  have hshorter : (((ofInteger binary64 1).max
      (timeout.timeoutSeconds.mul (ofInteger binary64 1000))).min
        ((timeout.deadlineAt startedAt).sub now.number)).toInt =
          some (min (timeout.seconds * 1000) remaining) := by
    by_cases hexact : remaining ≤ 9007199254740992
    · exact Number.toInt_min hconfigured
        (Number.toInt_sub hdeadline now.toInt_number (fits (by omega)) binary64_roomy)
    · have hle := Number.le_sub (k := 53) hdeadline now.toInt_number hconfigured (by omega)
        (by omega)
      have hnan : (timeout.deadlineAt startedAt).sub now.number ≠ .nan := by
        intro hnan
        rw [hnan] at hle
        revert hle
        cases (ofInteger binary64 1).max (timeout.timeoutSeconds.mul (ofInteger binary64 1000)) <;>
          simp [Number.le]
      rw [Number.min, if_neg (by simp [Number.ne_nan_of_toInt hconfigured, hnan]), if_pos hle,
        hconfigured, min_eq_left (by omega)]
  refine timerDelay_eq ?_ (by omega) (by omega)
  rw [JavaScriptDevice.Jobs.resolveTimeoutMilliseconds]
  simp only [AcceptedTimeout.job]
  rw [Number.toInt_max hone hshorter, max_eq_right (by omega)]

/-- The JavaScript SDK gives the handler no less than is left. -/
theorem javaScript_honoured (now : ClockReading) :
    min (timeout.seconds * 1000)
        (startedAt.milliseconds + timeout.seconds * 1000 - now.milliseconds) ≤
      timeout.javaScriptDelay startedAt now := by
  rcases Int.lt_or_le now.milliseconds (startedAt.milliseconds + timeout.seconds * 1000) with
    hlater | hpassed
  · exact (javaScriptDelay_eq startedAt hrange now hlater).ge
  · exact (min_le_right _ _).trans (by omega)

/-- The Kotlin SDK decodes the job, and keeps the same. -/
theorem kotlin_honoured (now : ClockReading) :
    ∃ delay, timeout.kotlinDelay startedAt now = some delay ∧
      min (timeout.seconds * 1000)
        (startedAt.milliseconds + timeout.seconds * 1000 - now.milliseconds) ≤ delay := by
  rcases timeout.seconds_spec with ⟨htoInt, hpos⟩
  have hstarted := startedAt.bounded
  have hnow := now.bounded
  have hseconds : kotlinInt timeout.timeoutSeconds = some timeout.seconds := by
    rw [kotlinInt, htoInt, Option.filter_some, if_pos]
    exact decide_eq_true (by omega)
  have hdeadline : kotlinLong (timeout.deadlineAt startedAt) =
      some (startedAt.milliseconds + timeout.seconds * 1000) := by
    rw [kotlinLong, toInt_deadlineAt startedAt hrange, Option.filter_some, if_pos]
    exact decide_eq_true (by omega)
  refine ⟨_, by rw [AcceptedTimeout.kotlinDelay, hseconds, Option.bind_some, hdeadline]; rfl, ?_⟩
  have hconfigured : KotlinDevice.Jobs.toLong (max timeout.seconds 1 * 1000) =
      timeout.seconds * 1000 := by
    rw [max_eq_left hpos, KotlinDevice.Jobs.toLong, Int.bmod_eq_of_le (by omega) (by omega)]
  have hremaining : KotlinDevice.Jobs.toLong
      (startedAt.milliseconds + timeout.seconds * 1000 - now.milliseconds) =
        startedAt.milliseconds + timeout.seconds * 1000 - now.milliseconds :=
    Int.bmod_eq_of_le (by omega) (by omega)
  simp only [KotlinDevice.Jobs.resolveTimeoutMilliseconds, hconfigured, hremaining]
  omega

theorem honoured_of_range : Honoured timeout startedAt where
  waiter := (timerDelay_timeoutMilliseconds hrange).ge
  expiry := expiry_honoured hrange
  deadline := by
    have hpos := timeout.seconds_spec.2
    rw [Bool.eq_false_iff, ne_eq,
      Number.le_iff (toInt_deadlineAt startedAt hrange) startedAt.toInt_number]
    omega
  javaScript := by
    intro now deadlineAt hdeadline
    obtain rfl := Option.some.inj ((toInt_deadlineAt startedAt hrange).symm.trans hdeadline)
    exact javaScript_honoured startedAt hrange now
  kotlin := by
    intro now deadlineAt hdeadline
    obtain rfl := Option.some.inj ((toInt_deadlineAt startedAt hrange).symm.trans hdeadline)
    exact kotlin_honoured startedAt hrange now

end InRange

/-! ## Which timeouts are kept -/

/-- A timeout beyond the range of timers fires at once. -/
theorem timerDelay_of_large {timeout : AcceptedTimeout} (hlarge : 2147483 < timeout.seconds) :
    timerDelay timeout.timeoutMilliseconds = 1 := by
  rcases timeout.seconds_spec with ⟨htoInt, hpos⟩
  have hmax : timeoutMax = 2147483647 := rfl
  have hfires : timeout.timeoutMilliseconds.le (ofInteger binary64 timeoutMax) = false :=
    Number.le_mul_eq_false (k := 31) htoInt (toInt_integer (by decide)) (toInt_integer (by decide))
      (by omega) (by decide) (by omega) (by decide)
  rw [timerDelay, hfires, Bool.and_false, if_neg Bool.false_ne_true]

/-- An accepted timeout is kept exactly up to 2147483 seconds. -/
theorem honoured_iff (timeout : AcceptedTimeout) (startedAt : ClockReading) :
    Honoured timeout startedAt ↔ timeout.seconds ≤ 2147483 := by
  constructor
  · intro h
    by_contra hlarge
    have hwaiter := h.waiter
    rw [timerDelay_of_large (not_le.mp hlarge)] at hwaiter
    omega
  · exact honoured_of_range startedAt

/-- One second more than a timer can wait. -/
def longTimeout : AcceptedTimeout where
  value := some (ofInteger binary64 2147484)
  accepted := by
    intro n hn
    obtain rfl := Option.some.inj hn
    exact ⟨2147484, toInt_integer (by decide), by decide⟩

/-- The waiter of such an invocation rejects after one millisecond. -/
theorem long_timeout_fires :
    ¬ ∀ (timeout : AcceptedTimeout) (startedAt : ClockReading), Honoured timeout startedAt := by
  intro h
  have hseconds : longTimeout.seconds = 2147484 := by
    have htoInt : longTimeout.timeoutSeconds.toInt = some 2147484 := by
      rw [AcceptedTimeout.timeoutSeconds, longTimeout, Option.getD_some]
      exact toInt_integer (by decide)
    rw [AcceptedTimeout.seconds, htoInt, Option.getD_some]
  have hwaiter := (h longTimeout ⟨0, by decide⟩).waiter
  rw [timerDelay_of_large (by omega), hseconds] at hwaiter
  omega

end Timeouts
end Rpc
end R2RPC
