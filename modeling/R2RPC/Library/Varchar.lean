import R2RPC.Library.NumberText

/-!
# Columns of a table

What the column types of a relational store take: texts of a bounded number of characters
without NUL, integers of 32 bits, and the strings of a binary JSON value.

Main results:

- Definition {lit}`Fits`: a text that is too long only by blanks is cut.
- Theorem {lit}`fits_take`: a text that is cut fits when it has no NUL.
- Theorem {lit}`fits_number`: the text of a number fits.

Current gaps:

- Collations, and what a column keeps of a text.
-/

namespace Varchar

open Utf16 Binary

/-- A text for `varchar(limit)`: behind the limit stands nothing but blanks. -/
def Fits (limit : Nat) (text : JsString) : Prop :=
  (∀ c ∈ (codePoints text).drop limit, c = 32) ∧ nulFree text = true

instance (limit : Nat) (text : JsString) : Decidable (Fits limit text) :=
  inferInstanceAs (Decidable (_ ∧ _))

/-- A text for a column that may be null. -/
def FitsNullable (limit : Nat) (text : Option JsString) : Prop := ∀ value ∈ text, Fits limit value

/-- A text for a column that may not be null. -/
def FitsNotNull (limit : Nat) (text : Option JsString) : Prop :=
  text ≠ none ∧ FitsNullable limit text

/-- A number for `integer`. -/
def IsInteger (value : Int) : Prop := -2147483648 ≤ value ∧ value ≤ 2147483647

/-- A string inside of `jsonb`: it has no NUL, and its surrogates stand in pairs. -/
def FitsJsonb (text : JsString) : Prop := nulFree text = true ∧ WellFormed text

instance (text : JsString) : Decidable (FitsJsonb text) :=
  inferInstanceAs (Decidable (_ ∧ _))

/-- A text within the limit fits when it has no NUL. -/
theorem fits_of_length_le {limit : Nat} {text : JsString} (h : text.length ≤ limit) :
    Fits limit text ↔ nulFree text = true := by
  refine ⟨fun h => h.2, fun hnul => ⟨?_, hnul⟩⟩
  rw [List.drop_eq_nil_of_le ((codePoints_length_le text).trans h)]
  simp

/-- A cut text fits when it has no NUL. -/
theorem fits_take (limit : Nat) (text : JsString) :
    Fits limit (text.take limit) ↔ nulFree (text.take limit) = true :=
  fits_of_length_le (List.length_take_le limit text)

theorem fitsNullable_some {limit : Nat} {text : JsString} :
    FitsNullable limit (some text) ↔ Fits limit text := by
  simp [FitsNullable]

/-- The text of a number is short and has no NUL. -/
theorem fits_number {limit : Nat} (hlimit : 64 ≤ limit) (number : Number binary64) :
    Fits limit number.text :=
  (fits_of_length_le ((text_length_le number).trans hlimit)).mpr (nulFree_text number)

example : Fits 2 (lit "ok  ") ∧ ¬ Fits 2 (lit "ok.") := by decide

end Varchar
