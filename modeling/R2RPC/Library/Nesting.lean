import R2RPC.Library.JavaScript

/-!
# Strings inside values

How deep a string stands in a value: through arrays and objects, or through arrays alone,
which is how far a value can be printed as a list.

Main results:

- Definition {lit}`StringAt`: a string of some kind stands that many levels down.
- Theorem {lit}`stringAt_of_get`: what stands in a property stands one level deeper in the
  value.
- Theorem {lit}`stringAt_of_mem_stringsAt`: strings below arrays are strings of the value.

Current gaps:

- Keys of objects are no strings of the value.
-/

namespace JavaScript
namespace Value

open Utf16

variable {p : JsString → Prop}

/-- A string with {lit}`p` stands that many levels below a value. -/
inductive StringAt (p : JsString → Prop) : Nat → Value → Prop where
  | here {text : JsString} (h : p text) : StringAt p 0 (.string text)
  | element {n : Nat} {element : Value} {elements : List Value} (hmem : element ∈ elements)
      (h : StringAt p n element) : StringAt p (n + 1) (.array elements)
  | field {n : Nat} {inherits : Bool} {field : JsString × Value} {fields : Fields}
      (hmem : field ∈ fields) (h : StringAt p n field.2) :
      StringAt p (n + 1) (.object inherits fields)

/-- The strings that many arrays below a value. -/
def stringsAt : Nat → Value → List JsString
  | 0, .string text => [text]
  | n + 1, .array elements => elements.flatMap (stringsAt n)
  | _, _ => []

theorem stringAt_string {n : Nat} {text : JsString} :
    StringAt p n (.string text) ↔ n = 0 ∧ p text := by
  constructor
  · intro h
    cases h with
    | here h => exact ⟨rfl, h⟩
  · rintro ⟨rfl, h⟩
    exact .here h

theorem stringAt_array {n : Nat} {elements : List Value} :
    StringAt p n (.array elements) ↔
      ∃ m, n = m + 1 ∧ ∃ element ∈ elements, StringAt p m element := by
  constructor
  · intro h
    cases h with
    | element hmem h => exact ⟨_, rfl, _, hmem, h⟩
  · rintro ⟨m, rfl, element, hmem, h⟩
    exact .element hmem h

theorem stringAt_object {n : Nat} {inherits : Bool} {fields : Fields} :
    StringAt p n (.object inherits fields) ↔
      ∃ m, n = m + 1 ∧ ∃ field ∈ fields, StringAt p m field.2 := by
  constructor
  · intro h
    cases h with
    | field hmem h => exact ⟨_, rfl, _, hmem, h⟩
  · rintro ⟨m, rfl, field, hmem, h⟩
    exact .field hmem h

/-- Nothing that an object literal inherits is a string or holds one. -/
theorem not_stringAt_inherited (n : Nat) (key : JsString) : ¬StringAt p n (inherited key) := by
  intro h
  unfold inherited at h
  split_ifs at h
  · rcases stringAt_object.mp h with ⟨m, -, field, hfield, hstring⟩
    rcases List.mem_map.mp hfield with ⟨key, -, rfl⟩
    dsimp only at hstring
    split_ifs at hstring <;> cases hstring
  · cases h
  · cases h

theorem mem_of_lookup {fields : Fields} {key : JsString} {value : Value}
    (h : lookup fields key = some value) : (key, value) ∈ fields := by
  rw [lookup, Option.map_eq_some_iff] at h
  rcases h with ⟨field, hfound, rfl⟩
  have hkey := List.find?_some hfound
  rw [beq_iff_eq] at hkey
  exact hkey ▸ List.mem_of_find?_eq_some hfound

/-- What stands in a property stands one level deeper in the value. -/
theorem stringAt_of_get {value : Value} {key : JsString} {n : Nat}
    (h : StringAt p n (value.get key)) : StringAt p (n + 1) value := by
  cases value with
  | object inherits fields =>
      rw [get] at h
      cases hlookup : lookup fields key with
      | some value => exact .field (mem_of_lookup hlookup) (by simpa [hlookup] using h)
      | none =>
          rw [hlookup, Option.getD_none] at h
          split at h
          · exact absurd h (not_stringAt_inherited n key)
          · cases h
  | array elements =>
      rw [get] at h
      split at h
      · next index hindex =>
        cases helement : elements[index]? with
        | some element =>
            rw [helement, Option.getD_some] at h
            exact .element (List.mem_of_getElem? helement) h
        | none =>
            rw [helement, Option.getD_none] at h
            cases h
      · split_ifs at h
        · cases h
        · rcases stringAt_array.mp h with ⟨m, -, element, hmem, -⟩
          exact absurd hmem List.not_mem_nil
        · exact absurd h (not_stringAt_inherited n key)
  | _ => cases h

theorem mem_stringsAt_zero {value : Value} {text : JsString} :
    text ∈ stringsAt 0 value ↔ value = .string text := by
  cases value <;> simp [stringsAt, eq_comm]

theorem mem_stringsAt_succ {n : Nat} {value : Value} {text : JsString} :
    text ∈ stringsAt (n + 1) value ↔
      ∃ elements, value = .array elements ∧ ∃ element ∈ elements, text ∈ stringsAt n element := by
  cases value <;> simp [stringsAt]

/-- Strings below arrays are strings of the value. -/
theorem stringAt_of_mem_stringsAt {n : Nat} {value : Value} {text : JsString}
    (h : text ∈ stringsAt n value) (hp : p text) : StringAt p n value := by
  induction n generalizing value with
  | zero =>
      rw [mem_stringsAt_zero.mp h]
      exact .here hp
  | succ n ih =>
      rcases mem_stringsAt_succ.mp h with ⟨elements, rfl, element, hmem, htext⟩
      exact .element hmem (ih htext)

end Value
end JavaScript
