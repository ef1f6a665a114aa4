import R2RPC.Library.JavaScript

/-!
# Parameters of a statement

What a driver sends to a relational store for a value of ECMAScript: everything goes as a text, or
as {lit}`NULL`, whatever the type of the column is.

Main results:

- Definition {lit}`prepareValue`: the text of a parameter.

Current gaps:

- Functions, dates and byte arrays.
-/

namespace JavaScript
namespace Value

open Utf16

/-! ## Texts of parameters -/

/-- `escapeElement`. -/
def escapeElement (text : JsString) : JsString :=
  34 :: (text.flatMap (fun unit => if unit = 92 ∨ unit = 34 then [92, unit] else [unit]) ++ [34])

/-- `prepareValue` of a value that is no array. -/
def scalarText : Value → Option JsString
  | .boolean value => some (if value then lit "true" else lit "false")
  | .number value => some value.text
  | .string text => some text
  | .object inherits fields => stringify (.object inherits fields)
  | _ => none

mutual

/-- An element of `arrayString`. -/
def elementText : Value → JsString
  | .array elements => 123 :: (List.intercalate [44] (elementTexts elements) ++ [125])
  | value => (scalarText value).elim (lit "NULL") escapeElement

def elementTexts : List Value → List JsString
  | [] => []
  | element :: elements => elementText element :: elementTexts elements

end

/-- `prepareValue`. -/
def prepareValue : Value → Option JsString
  | .array elements => some (elementText (.array elements))
  | value => scalarText value

@[simp]
theorem prepareValue_string (text : JsString) : prepareValue (.string text) = some text := rfl

@[simp]
theorem prepareValue_number (value : JsNumber) : prepareValue (.number value) = some value.text := rfl

example : prepareValue (.array [.string (lit "a\"b"), .null, .number (Binary.ofDecimal _ false 5 0)]) =
    some (lit "\x7b\"a\\\"b\",NULL,\"5\"\x7d") := by decide +kernel

end Value
end JavaScript
