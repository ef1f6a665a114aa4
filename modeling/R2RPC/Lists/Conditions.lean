import R2RPC.Library.DateText
import R2RPC.Library.Like
import R2RPC.Library.Utf16
import R2RPC.Metrics.Tables

/-!
# Conditions of the lists

What the {lit}`WHERE` of a list is put together from: patterns that find a text literally, and
a condition for every filter that is given.

Main results:

- Definition {lit}`containsPattern`: a text as a pattern that finds it.
- Definition {lit}`compactConditions`: the condition of all filters.
- Theorem {lit}`containsPattern_literal`: the pattern finds exactly the text, with folding and
  in a permission, too.

Current gaps:

- A folding goes by characters and knows no neighbours.
- A moment is given as the milliseconds that {lit}`new Date` reads.
-/

namespace R2RPC
namespace Lists

open Calendar Like Metrics Utf16

/-! ## Patterns -/

/-- `containsPattern`: `value.replace(/[\\%_]/g, '\\$&')` between two `%`. -/
def containsPattern {α : Type} [DecidableEq α] (w : Wildcards α) (value : List α) : List α :=
  w.any :: (escaped w value ++ [w.any])

/-- The characters of PostgreSQL. -/
def characters : Wildcards Char where
  any := '%'
  one := '_'
  escape := '\\'
  any_ne_one := by decide
  any_ne_escape := by decide
  one_ne_escape := by decide

/-- The code units that `replace` looks at. -/
def codeUnits : Wildcards UInt16 where
  any := 37
  one := 95
  escape := 92
  any_ne_one := by decide
  any_ne_escape := by decide
  one_ne_escape := by decide

/-- The code points that arrive. -/
def scalars : Wildcards Nat where
  any := 37
  one := 95
  escape := 92
  any_ne_one := by decide
  any_ne_escape := by decide
  one_ne_escape := by decide

/-- `text ILIKE containsPattern(value)`; nothing for a pattern that is an error. -/
def contains (fold : Char → List Char) (text value : String) : Option Bool :=
  ilike characters fold text.toList (containsPattern characters value.toList)

/-! ## Filters -/

/-- A filter of a list: none is given, a condition on the rows, where `NULL` is no match, or a
value that PostgreSQL does not take, so that the statement fails. -/
inductive Filter (ρ : Type) where
  | absent
  | condition (holds : ρ → Bool)
  | refused

section

variable {ρ : Type}

/-- A filter by a text; the empty one is none, and PostgreSQL takes no NUL. -/
def textFilter (holds : String → ρ → Bool) (value : Option String) : Filter ρ :=
  match value with
  | none => .absent
  | some value =>
      if value = "" then .absent
      else if value.contains '\x00' then .refused
      else .condition (holds value)

/-- A filter by a number of an `integer` column. -/
def numberFilter (holds : Int → ρ → Bool) (value : Option Int) : Filter ρ :=
  match value with
  | none => .absent
  | some value => if (signedInt4 value).isSome then .condition (holds value) else .refused

/-- A filter by a moment; PostgreSQL takes those of the years 1 to 9999. -/
def timeFilter (holds : Int → ρ → Bool) (value : Option Int) : Filter ρ :=
  match value with
  | none => .absent
  | some value => if (pgDate (isoDate value)).isSome then .condition (holds value) else .refused

/-- `likeIf`. -/
def likeIf (fold : Char → List Char) (column : ρ → String) : Option String → Filter ρ :=
  textFilter fun value row => contains fold (column row) value = some true

/-- `eqIf` of a text. -/
def eqIf (column : ρ → Option String) : Option String → Filter ρ :=
  textFilter fun value row => decide (column row = some value)

/-- `eqIf` of a number, 0 among them. -/
def eqNumberIf (column : ρ → Option Int) : Option Int → Filter ρ :=
  numberFilter fun value row => decide (column row = some value)

/-- `gteIf`, of a column in microseconds. -/
def gteIf (column : ρ → Int) : Option Int → Filter ρ :=
  timeFilter fun value row => decide (value * 1000 ≤ column row)

/-- `lteIf`, of a column in microseconds. -/
def lteIf (column : ρ → Int) : Option Int → Filter ρ :=
  timeFilter fun value row => decide (column row ≤ value * 1000)

/-- `query.enabled ? eq(enabled, query.enabled === 'enabled') : null`. -/
def enabledIf (column : ρ → Bool) : Option Bool → Filter ρ
  | none => .absent
  | some enabled => .condition fun row => column row == enabled

/-- `and(...compactConditions(...))`, unless the statement fails. -/
def compactConditions : List (Filter ρ) → Option (ρ → Bool)
  | [] => some fun _ => true
  | .absent :: filters => compactConditions filters
  | .condition holds :: filters =>
      (compactConditions filters).map fun rest row => holds row && rest row
  | .refused :: _ => none

/-- `alive(table, ...conditions)`. -/
def alive (deleted : ρ → Bool) (filters : List (Filter ρ)) : Option (ρ → Bool) :=
  (compactConditions filters).map fun holds row => !deleted row && holds row

end

/-! ## Permission groups -/

/-- `action || '/' || subject ILIKE containsPattern(permission)`. -/
def permissionMatches (fold : Char → List Char) (action subject permission : String) :
    Option Bool :=
  contains fold (action ++ "/" ++ subject) permission

/-! ## What arrives -/

theorem isSpecial_toNat (unit : UInt16) :
    scalars.isSpecial unit.toNat = codeUnits.isSpecial unit := by
  rw [Bool.eq_iff_iff, Wildcards.isSpecial_eq_true, Wildcards.isSpecial_eq_true]
  simp [scalars, codeUnits, ← UInt16.toNat_inj]

theorem isHalf_of_isSpecial {unit : UInt16} (h : codeUnits.isSpecial unit = true) :
    isHalf unit = false := by
  rcases codeUnits.isSpecial_eq_true.mp h with rfl | rfl | rfl <;> decide

theorem isSpecial_of_isHalf {unit : UInt16} (h : isHalf unit = true) :
    codeUnits.isSpecial unit = false := by
  by_contra hspecial
  rw [isHalf_of_isSpecial (Bool.not_eq_false _ ▸ hspecial)] at h
  exact absurd h (by decide)

theorem isLead_escape : isLead codeUnits.escape = false := by decide

theorem isTrail_escape : isTrail codeUnits.escape = false := by decide

/-- Escaping does not bring the second half of a pair behind another character. -/
theorem codePoints_cons_escaped {unit next : UInt16} {rest : JsString}
    (h : (isLead unit && isTrail next) = false) :
    codePoints (unit :: escaped codeUnits (next :: rest)) =
      unit.toNat :: codePoints (escaped codeUnits (next :: rest)) := by
  cases hspecial : codeUnits.isSpecial next with
  | false => rw [escaped_cons_literal hspecial, codePoints, h, if_neg Bool.false_ne_true]
  | true =>
      rw [escaped_cons_special hspecial, codePoints, isTrail_escape, Bool.and_false,
        if_neg Bool.false_ne_true]

/-- An escaped text arrives as the escaped code points. -/
theorem codePoints_escaped (text : JsString) :
    codePoints (escaped codeUnits text) = escaped scalars (codePoints text) := by
  have hnil : escaped codeUnits [] = [] := rfl
  have hempty : escaped scalars [] = [] := rfl
  induction text using codePoints.induct with
  | case1 => rfl
  | case2 unit =>
      cases hspecial : codeUnits.isSpecial unit with
      | false =>
          rw [escaped_cons_literal hspecial, hnil, codePoints,
            escaped_cons_literal ((isSpecial_toNat unit).trans hspecial), hempty]
      | true =>
          rw [escaped_cons_special hspecial, hnil, codePoints_cons isLead_escape, codePoints,
            escaped_cons_special ((isSpecial_toNat unit).trans hspecial), hempty]
          rfl
  | case3 unit next rest hpair ih =>
      have hhalves := (Bool.and_eq_true _ _).mp hpair
      have hfirst := isSpecial_of_isHalf ((Bool.or_eq_true _ _).mpr (.inl hhalves.1))
      have hsecond := isSpecial_of_isHalf ((Bool.or_eq_true _ _).mpr (.inr hhalves.2))
      have hscalar : scalars.isSpecial
          (0x10000 + (unit.toNat - 0xD800) * 0x400 + (next.toNat - 0xDC00)) = false := by
        rw [Wildcards.isSpecial_eq_false]
        simp only [scalars]
        omega
      rw [escaped_cons_literal hfirst, escaped_cons_literal hsecond, codePoints, codePoints,
        if_pos hpair, if_pos hpair, escaped_cons_literal hscalar, ih]
  | case4 unit next rest hpair ih =>
      rw [Bool.not_eq_true] at hpair
      rw [codePoints, hpair, if_neg Bool.false_ne_true]
      cases hspecial : codeUnits.isSpecial unit with
      | false =>
          rw [escaped_cons_literal hspecial, codePoints_cons_escaped hpair, ih,
            escaped_cons_literal ((isSpecial_toNat unit).trans hspecial)]
      | true =>
          rw [escaped_cons_special hspecial, codePoints_cons isLead_escape,
            codePoints_cons (isLead_of_not_isHalf (isHalf_of_isSpecial hspecial)), ih,
            escaped_cons_special ((isSpecial_toNat unit).trans hspecial)]
          rfl

/-- The pattern of a string arrives as the pattern of its code points. -/
theorem codePoints_containsPattern (value : JsString) :
    codePoints (containsPattern codeUnits value) = containsPattern scalars (codePoints value) := by
  rw [containsPattern, containsPattern, codePoints_cons (by decide),
    codePoints_append_cons (by decide), codePoints_escaped]
  rfl

/-! ## What is found -/

/-- A pattern finds a text exactly where it stands; so it does behind the same folding of both,
behind the encoding of a string and in the action and the subject of a permission. -/
theorem containsPattern_literal {α : Type} [DecidableEq α] (w : Wildcards α) (value text : List α) :
    like w text (containsPattern w value) = some (decide (value <:+: text)) ∧
      (∀ fold : α → List α, Folding w fold →
        ilike w fold text (containsPattern w value) =
          some (decide (value.flatMap fold <:+: text.flatMap fold))) ∧
      (∀ found column : JsString,
        like scalars (codePoints column) (codePoints (containsPattern codeUnits found)) =
          some (decide (codePoints found <:+: codePoints column))) ∧
      ∀ fold : Char → List Char, Folding characters fold → ∀ action subject permission : String,
        permissionMatches fold action subject permission =
          some (decide (permission.toList.flatMap fold <:+:
            (action ++ "/" ++ subject).toList.flatMap fold)) := by
  refine ⟨like_within text value, fun fold hfold => ilike_within hfold text value,
    fun found column => ?_, fun fold hfold action subject permission => ?_⟩
  · rw [codePoints_containsPattern]
    exact like_within (codePoints column) (codePoints found)
  · exact ilike_within hfold (action ++ "/" ++ subject).toList permission.toList

/-- Lower case of the letters of ASCII leaves the special characters alone. -/
theorem toLower_ne {character special : Char} (hspecial : special.val < 97)
    (h : character ≠ special) : character.toLower ≠ special := by
  unfold Char.toLower
  split
  next hletter =>
    intro heq
    rw [← heq] at hspecial
    have hfirst : (65 : UInt32) ≤ character.val := hletter.1
    have hlast : character.val ≤ (90 : UInt32) := hletter.2
    have hlower : character.val + (97 - 65) < (97 : UInt32) := hspecial
    simp only [UInt32.lt_iff_toNat_lt, UInt32.le_iff_toNat_le, UInt32.toNat_add, UInt32.toNat_sub,
      UInt32.reduceToNat] at hfirst hlast hlower
    omega
  next => exact h

theorem folding_toLower : Folding characters fun c => [c.toLower] where
  any := rfl
  one := rfl
  escape := rfl
  ordinary := by
    intro character hany hone hescape folded hfolded
    obtain rfl := List.mem_singleton.mp hfolded
    exact ⟨toLower_ne (by decide) hany, toLower_ne (by decide) hone, toLower_ne (by decide) hescape⟩

/-- A permission, found in another case, and a text that is no pattern. -/
theorem containsPattern_literal_sample :
    permissionMatches (fun c => [c.toLower]) "Read" "Log_all" "d/LOG_A" = some true ∧
      like characters "100 apples".toList (containsPattern characters "0%".toList) = some false := by
  have hliteral := containsPattern_literal characters "0%".toList "100 apples".toList
  rw [hliteral.2.2.2 _ folding_toLower "Read" "Log_all" "d/LOG_A", hliteral.1]
  decide

end Lists
end R2RPC
