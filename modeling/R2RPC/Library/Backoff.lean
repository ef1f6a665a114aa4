import Mathlib.Algebra.Order.Ring.Basic
import Mathlib.Algebra.Order.Monoid.NatCast
import Mathlib.Data.List.Induction
import Mathlib.Order.Monotone.Basic

/-!
# Exponential backoff

A delay that doubles with each failure and is capped, and the counter of the failures since the
last reset. The delays are of any ordered semiring, the counter of any type.

Main results:

- Definition {lit}`delay`: the capped delay after a number of doublings.
- Theorems {lit}`delay_pos`, {lit}`delay_le_maximum`, {lit}`delay_mono`: it is well formed.
- Theorem {lit}`count_eq_iterate`: a counter holds what it makes of the consecutive failures.
-/

namespace Backoff

/-! ## Delays -/

section Delays

variable {α : Type*} [Semiring α] [LinearOrder α] {initial maximum : α}

/-- The numeral that doubles. -/
instance atLeastTwo : Nat.AtLeastTwo 2 := inferInstance

/-- The delay after `k` doublings. -/
def delay (initial maximum : α) (k : Nat) : α := min maximum (initial * 2 ^ k)

theorem delay_le_maximum (k : Nat) : delay initial maximum k ≤ maximum := min_le_left _ _

variable [IsOrderedRing α]

theorem delay_mono (hinitial : 0 ≤ initial) : Monotone (delay initial maximum) := by
  intro k l hle
  have hpow : (2 : α) ^ k ≤ 2 ^ l := pow_le_pow_right₀ one_le_two hle
  exact min_le_min_left _ (mul_le_mul_of_nonneg_left hpow hinitial)

theorem delay_pos (hinitial : 0 < initial) (hmaximum : 0 < maximum) (k : Nat) :
    0 < delay initial maximum k := by
  have hfirst : 0 < delay initial maximum 0 := by
    rw [delay, pow_zero, mul_one]
    exact lt_min hmaximum hinitial
  exact hfirst.trans_le (delay_mono hinitial.le (Nat.zero_le k))

end Delays

/-! ## Counters -/

/-- What happens to a counter of failures. -/
inductive Event where
  | reset
  | failure
deriving DecidableEq, Repr

section Counters

variable {σ : Type*}

/-- A counter after a history. -/
def count (zero : σ) (next : σ → σ) (history : List Event) : σ :=
  history.foldl (fun counter event =>
    match event with
    | .reset => zero
    | .failure => next counter) zero

/-- Failures since the last reset. -/
def failures (history : List Event) : Nat := count 0 Nat.succ history

variable (zero : σ) (next : σ → σ) (history : List Event)

@[simp]
theorem count_nil : count zero next [] = zero := rfl

@[simp]
theorem count_reset : count zero next (history ++ [.reset]) = zero := by
  simp [count]

@[simp]
theorem count_failure :
    count zero next (history ++ [.failure]) = next (count zero next history) := by
  simp [count]

@[simp]
theorem failures_reset : failures (history ++ [.reset]) = 0 := count_reset _ _ _

@[simp]
theorem failures_failure : failures (history ++ [.failure]) = failures history + 1 :=
  count_failure _ _ _

/-- A counter holds what it makes of the consecutive failures. -/
theorem count_eq_iterate : count zero next history = Nat.iterate next (failures history) zero := by
  induction history using List.reverseRecOn with
  | nil => rfl
  | append_singleton history event ih =>
      cases event with
      | reset => rw [count_reset, failures_reset, Function.iterate_zero_apply]
      | failure => rw [count_failure, failures_failure, Function.iterate_succ_apply', ih]

end Counters

end Backoff
