import R2RPC.Audit.Interceptor
import R2RPC.Library.Nesting

/-!
# The scan for NUL bytes

{lit}`rejectNullByte` stands in front of every route and refuses a request whose query or body
holds a NUL, as deep as its scan goes.

Main results:

- Definition {lit}`containsNullByte`: the scan.
- Theorem {lit}`containsNullByte_iff`: it finds exactly the strings within its depth.
- Theorem {lit}`rejectNullByte_eq_none`: what is let through.

Current gaps:

- None for the values of the {lit}`JavaScript` library.
-/

namespace R2RPC
namespace NulBytes

open Utf16 JavaScript Value Binary Audit

/-- `MAXIMUM_SCAN_DEPTH`. -/
def maximumScanDepth : Nat := 8

mutual

/-- `containsNullByte`. -/
def containsNullByte (value : Value) (depth : Nat) : Bool :=
  if depth > maximumScanDepth then false
  else
    match value with
    | .string text => text.contains 0
    | .array elements => someElement elements (depth + 1)
    | .object _ fields => someField fields (depth + 1)
    | _ => false

/-- `value.some((element) => containsNullByte(element, depth))`. -/
def someElement (elements : List Value) (depth : Nat) : Bool :=
  match elements with
  | [] => false
  | element :: elements => containsNullByte element depth || someElement elements depth

/-- The same of `Object.values(value)`. -/
def someField (fields : List (JsString × Value)) (depth : Nat) : Bool :=
  match fields with
  | [] => false
  | (_, value) :: fields => containsNullByte value depth || someField fields depth

end

/-- `rejectNullByte`: what it throws, if anything. -/
def rejectNullByte (query body : Value) : Option Exception :=
  if containsNullByte query 0 || containsNullByte body 0 then
    some
      (.httpException 400
        (.object true
          [(lit "message", .string (lit "请求参数不得包含 NUL 字节")),
            (lit "error", .string (lit "Bad Request")),
            (lit "statusCode", .number (ofDecimal binary64 false 400 0))])
        (lit "请求参数不得包含 NUL 字节"))
  else none

/-- A NUL stands that many levels below a value. -/
abbrev NulAt : Nat → Value → Prop := StringAt fun text => nulFree text = false

theorem contains_zero (text : JsString) : text.contains 0 = !nulFree text := by
  induction text with
  | nil => rfl
  | cons unit text ih =>
      rw [List.contains_cons, ih, nulFree_cons, Bool.not_and, bne, Bool.not_not, BEq.comm]

theorem someElement_eq (elements : List Value) (depth : Nat) :
    someElement elements depth = elements.any (containsNullByte · depth) := by
  induction elements with
  | nil => rfl
  | cons element elements ih => rw [someElement, ih, List.any_cons]

theorem someField_eq (fields : Fields) (depth : Nat) :
    someField fields depth = fields.any (containsNullByte ·.2 depth) := by
  induction fields with
  | nil => rfl
  | cons field fields ih => rw [someField, ih, List.any_cons]

/-- The scan finds exactly the strings within its depth. -/
theorem containsNullByte_iff (value : Value) (depth : Nat) :
    containsNullByte value depth = true ↔
      ∃ n, depth + n ≤ maximumScanDepth ∧ NulAt n value := by
  induction value generalizing depth with
  | string text =>
      rw [containsNullByte]
      split_ifs with hlt
      · simpa using fun n hle => absurd hle (by omega)
      · simp only [contains_zero, Bool.not_eq_true', stringAt_string]
        exact ⟨fun h => ⟨0, by omega, rfl, h⟩, fun ⟨_, _, _, h⟩ => h⟩
  | array elements ih =>
      rw [containsNullByte]
      split_ifs with hlt
      · simpa using fun n hle => absurd hle (by omega)
      · simp only [someElement_eq, List.any_eq_true, stringAt_array]
        constructor
        · rintro ⟨element, hmem, hfound⟩
          rcases (ih element hmem (depth + 1)).mp hfound with ⟨n, hle, hstring⟩
          exact ⟨n + 1, by omega, n, rfl, element, hmem, hstring⟩
        · rintro ⟨n, hle, m, rfl, element, hmem, hstring⟩
          exact ⟨element, hmem, (ih element hmem (depth + 1)).mpr ⟨m, by omega, hstring⟩⟩
  | object inherits fields ih =>
      rw [containsNullByte]
      split_ifs with hlt
      · simpa using fun n hle => absurd hle (by omega)
      · simp only [someField_eq, List.any_eq_true, stringAt_object]
        constructor
        · rintro ⟨field, hmem, hfound⟩
          rcases (ih field hmem (depth + 1)).mp hfound with ⟨n, hle, hstring⟩
          exact ⟨n + 1, by omega, n, rfl, field, hmem, hstring⟩
        · rintro ⟨n, hle, m, rfl, field, hmem, hstring⟩
          exact ⟨field, hmem, (ih field hmem (depth + 1)).mpr ⟨m, by omega, hstring⟩⟩
  | _ =>
      rw [containsNullByte.eq_def]
      simp only [ite_self, Bool.false_eq_true, false_iff, not_exists, not_and]
      exact fun n _ h => by cases h

/-- What is let through holds a NUL only below the depth of the scan. -/
theorem rejectNullByte_eq_none {query body : Value} :
    rejectNullByte query body = none ↔
      (∀ n, NulAt n query → maximumScanDepth < n) ∧ ∀ n, NulAt n body → maximumScanDepth < n := by
  have hscan : ∀ value, containsNullByte value 0 = false ↔
      ∀ n, NulAt n value → maximumScanDepth < n := by
    intro value
    rw [← Bool.not_eq_true, containsNullByte_iff]
    simp only [Nat.zero_add, not_exists, not_and, ← not_le]
    exact forall_congr' fun n =>
      ⟨fun h hstring hle => h hle hstring, fun h hle hstring => h hstring hle⟩
  rw [← hscan, ← hscan, ← Bool.or_eq_false_iff, rejectNullByte]
  cases containsNullByte query 0 || containsNullByte body 0 <;> simp

/-- A refusal is a bad request. -/
theorem rejectNullByte_statusCode {query body : Value} {exception : Exception}
    (h : rejectNullByte query body = some exception) :
    exception.statusCode = 400 ∧ nulFree exception.message = true := by
  rw [rejectNullByte] at h
  split_ifs at h
  rw [Option.some.injEq] at h
  subst h
  exact ⟨rfl, by decide⟩

end NulBytes
end R2RPC
