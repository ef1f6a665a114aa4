import R2RPC.Library.JsonText

/-!
# JSON text inside JSON text

What the reader makes of a text on its own, it makes of it in front of other text, as long
as a number cannot go on there.

Main results:

- Theorem {lit}`readNumber_append` and theorem {lit}`readString_append`: numbers and strings
  in front of other text.
- Theorem {lit}`parse_append`: values, elements and members.
- Theorem {lit}`stands_of_parse`: a text that is JSON stands for its value wherever JSON
  text puts it.

Current gaps:

- Only texts that are read to the end are looked at.
-/

namespace JavaScript

open Utf16 Binary

/-! ## Numbers and strings -/

/-- A number that is read up to this rest does not go on in what follows. -/
def EndsBefore (rest more : JsString) : Prop := rest ≠ [] ∨ Stops more

theorem span_append {text more : JsString} (p : UInt16 → Bool)
    (h : text.dropWhile p ≠ [] ∨ ∀ unit ∈ more.head?, p unit = false) :
    (text ++ more).takeWhile p = text.takeWhile p ∧
      (text ++ more).dropWhile p = text.dropWhile p ++ more := by
  induction text with
  | nil =>
      cases more with
      | nil => exact ⟨rfl, rfl⟩
      | cons unit more =>
          have hunit : p unit = false := by simpa using h
          simp [hunit]
  | cons unit text ih =>
      cases hunit : p unit with
      | false => simp [hunit]
      | true => simpa [hunit] using ih (by simpa [hunit] using h)

theorem readFraction_append {text more digits rest : JsString}
    (h : readFraction text = some (digits, rest)) (hmore : EndsBefore rest more) :
    readFraction (text ++ more) = some (digits, rest ++ more) := by
  cases text with
  | nil =>
      simp only [readFraction, Option.some.injEq, Prod.mk.injEq] at h
      rcases h with ⟨rfl, rfl⟩
      rcases hmore with hne | hstops
      · exact absurd rfl hne
      · cases more with
        | nil => rfl
        | cons unit more =>
            have hunit := (hstops unit rfl).2.1
            simp [readFraction, hunit]
  | cons unit text =>
      rw [readFraction] at h
      rw [List.cons_append, readFraction]
      split_ifs at h with hpoint hempty
      · rw [Option.some.injEq, Prod.mk.injEq] at h
        rcases h with ⟨rfl, rfl⟩
        have hspan := span_append isDigit
          (hmore.imp id fun hstops unit hunit => (hstops unit hunit).1)
        rw [if_pos hpoint, hspan.1, hspan.2, if_neg hempty]
      · rw [Option.some.injEq, Prod.mk.injEq] at h
        rcases h with ⟨rfl, rfl⟩
        rw [if_neg hpoint, List.cons_append]

theorem readExponentDigits_append {negative : Bool} {text more rest : JsString} {exponent : Int}
    (h : readExponentDigits negative text = some (exponent, rest)) (hmore : EndsBefore rest more) :
    readExponentDigits negative (text ++ more) = some (exponent, rest ++ more) := by
  by_cases hempty : text.takeWhile isDigit = []
  · simp [readExponentDigits, hempty] at h
  · simp only [readExponentDigits, hempty, if_false, Option.some.injEq, Prod.mk.injEq] at h
    rcases h with ⟨rfl, rfl⟩
    have hspan := span_append isDigit
      (hmore.imp id fun hstops unit hunit => (hstops unit hunit).1)
    simp only [readExponentDigits, hspan.1, hspan.2, hempty, if_false]

theorem readExponent_append {text more rest : JsString} {exponent : Int}
    (h : readExponent text = some (exponent, rest)) (hmore : EndsBefore rest more) :
    readExponent (text ++ more) = some (exponent, rest ++ more) := by
  cases text with
  | nil =>
      simp only [readExponent, Option.some.injEq, Prod.mk.injEq] at h
      rcases h with ⟨rfl, rfl⟩
      rcases hmore with hne | hstops
      · exact absurd rfl hne
      · cases more with
        | nil => rfl
        | cons unit more =>
            have hunit := (hstops unit rfl).2.2
            simp [readExponent, hunit]
  | cons unit text =>
      by_cases hexponent : unit = 101 ∨ unit = 69
      · cases text with
        | nil => simp [readExponent, hexponent] at h
        | cons sign digits =>
            simp only [readExponent, hexponent, if_true] at h
            simp only [List.cons_append, readExponent, hexponent, if_true]
            split_ifs at h ⊢ with hminus hplus
            · exact readExponentDigits_append h hmore
            · exact readExponentDigits_append h hmore
            · exact readExponentDigits_append h hmore
      · simp only [readExponent, hexponent, if_false, Option.some.injEq, Prod.mk.injEq] at h
        rcases h with ⟨rfl, rfl⟩
        simp only [List.cons_append, readExponent, hexponent, if_false]

/-- What is left behind a fraction was there before. -/
theorem readFraction_ne_nil {text digits rest : JsString}
    (h : readFraction text = some (digits, rest)) (hrest : rest ≠ []) : text ≠ [] := by
  rintro rfl
  simp only [readFraction, Option.some.injEq, Prod.mk.injEq] at h
  exact hrest h.2.symm

theorem readExponent_ne_nil {text rest : JsString} {exponent : Int}
    (h : readExponent text = some (exponent, rest)) (hrest : rest ≠ []) : text ≠ [] := by
  rintro rfl
  simp only [readExponent, Option.some.injEq, Prod.mk.injEq] at h
  exact hrest h.2.symm

theorem readUnsigned_append {F : Format} {negative : Bool} {text more rest : JsString}
    {n : Number F} (h : readUnsigned F negative text = some (n, rest))
    (hmore : EndsBefore rest more) :
    readUnsigned F negative (text ++ more) = some (n, rest ++ more) := by
  simp only [readUnsigned, Option.bind_eq_bind, Option.bind_eq_some_iff, Option.pure_def,
    Option.some.injEq, Prod.mk.injEq] at h
  rcases h with ⟨⟨⟩, hwhole, ⟨digits, behind⟩, hfraction, ⟨exponent, tail⟩, hexponent, rfl, rfl⟩
  have hbehind : EndsBefore behind more := hmore.imp (readExponent_ne_nil hexponent) id
  have hdigits : EndsBefore (text.dropWhile isDigit) more :=
    hbehind.imp (readFraction_ne_nil hfraction) id
  have hspan := span_append isDigit
    (hdigits.imp id fun hstops unit hunit => (hstops unit hunit).1)
  simp only [readUnsigned, hspan.1, hspan.2, readFraction_append hfraction hbehind,
    Option.bind_eq_bind, Option.bind_some, readExponent_append hexponent hmore, hwhole,
    Option.pure_def]

theorem readNumber_append {F : Format} {text more rest : JsString} {n : Number F}
    (h : readNumber F text = some (n, rest)) (hmore : EndsBefore rest more) :
    readNumber F (text ++ more) = some (n, rest ++ more) := by
  cases text with
  | nil => contradiction
  | cons unit text =>
      rw [readNumber] at h
      rw [List.cons_append, readNumber]
      split_ifs at h ⊢ with hsign
      · exact readUnsigned_append h hmore
      · exact readUnsigned_append h hmore

theorem push_append {unit : UInt16} {behind behind' : Option (JsString × JsString)}
    {read : JsString × JsString} {more : JsString} (h : push unit behind = some read)
    (hbehind : ∀ inner, behind = some inner → behind' = some (inner.1, inner.2 ++ more)) :
    push unit behind' = some (read.1, read.2 ++ more) := by
  rcases Option.map_eq_some_iff.mp h with ⟨inner, hinner, rfl⟩
  rw [push, hbehind inner hinner]
  rfl

theorem readString_append {scan : Scan} {text more : JsString} {read : JsString × JsString}
    (h : readString scan text = some read) :
    readString scan (text ++ more) = some (read.1, read.2 ++ more) := by
  induction text generalizing scan read with
  | nil => cases scan <;> contradiction
  | cons unit text ih =>
      rw [List.cons_append]
      cases scan with
      | plain =>
          rw [readString] at h ⊢
          split_ifs at h ⊢ with hquote hcontrol hescape
          · rw [← Option.some.inj h]
          · exact ih h
          · exact push_append h fun inner hinner => ih hinner
      | escaped =>
          rw [readString] at h ⊢
          split_ifs at h ⊢ with hunicode
          · exact ih h
          · rcases Option.bind_eq_some_iff.mp h with ⟨other, hother, h⟩
            rw [hother, Option.bind_some]
            exact push_append h fun inner hinner => ih hinner
      | hex remaining value =>
          cases remaining with
          | zero =>
              rw [readString] at h ⊢
              rcases Option.bind_eq_some_iff.mp h with ⟨digit, hdigit, h⟩
              rw [hdigit, Option.bind_some]
              exact push_append h fun inner hinner => ih hinner
          | succ remaining =>
              rw [readString] at h ⊢
              rcases Option.bind_eq_some_iff.mp h with ⟨digit, hdigit, h⟩
              rw [hdigit, Option.bind_some]
              exact ih h

/-! ### What is left behind -/

theorem dropWhile_length_le (p : UInt16 → Bool) (text : JsString) :
    (text.dropWhile p).length ≤ text.length :=
  (List.dropWhile_suffix p).length_le

theorem readFraction_length {text digits rest : JsString}
    (h : readFraction text = some (digits, rest)) : rest.length ≤ text.length := by
  cases text with
  | nil =>
      simp only [readFraction, Option.some.injEq, Prod.mk.injEq] at h
      simp [← h.2]
  | cons unit text =>
      have hle := dropWhile_length_le isDigit text
      rw [readFraction] at h
      split_ifs at h <;> rw [Option.some.injEq, Prod.mk.injEq] at h <;> rw [← h.2]
      · exact le_trans hle (Nat.le_succ _)

theorem readExponentDigits_length {negative : Bool} {text rest : JsString} {exponent : Int}
    (h : readExponentDigits negative text = some (exponent, rest)) : rest.length ≤ text.length := by
  by_cases hempty : text.takeWhile isDigit = []
  · simp [readExponentDigits, hempty] at h
  · simp only [readExponentDigits, hempty, if_false, Option.some.injEq, Prod.mk.injEq] at h
    rw [← h.2]
    exact dropWhile_length_le isDigit text

theorem readExponent_length {text rest : JsString} {exponent : Int}
    (h : readExponent text = some (exponent, rest)) : rest.length ≤ text.length := by
  cases text with
  | nil =>
      simp only [readExponent, Option.some.injEq, Prod.mk.injEq] at h
      simp [← h.2]
  | cons unit text =>
      by_cases hexponent : unit = 101 ∨ unit = 69
      · cases text with
        | nil => simp [readExponent, hexponent] at h
        | cons sign digits =>
            simp only [readExponent, hexponent, if_true] at h
            simp only [List.length_cons]
            split_ifs at h
            · exact le_trans (readExponentDigits_length h) (by omega)
            · exact le_trans (readExponentDigits_length h) (by omega)
            · exact le_trans (readExponentDigits_length h) (by simp)
      · simp only [readExponent, hexponent, if_false, Option.some.injEq, Prod.mk.injEq] at h
        rw [← h.2]

theorem readUnsigned_length {F : Format} {negative : Bool} {text rest : JsString} {n : Number F}
    (h : readUnsigned F negative text = some (n, rest)) : rest.length < text.length := by
  simp only [readUnsigned, Option.bind_eq_bind, Option.bind_eq_some_iff, Option.pure_def,
    Option.some.injEq, Prod.mk.injEq] at h
  rcases h with ⟨⟨⟩, hwhole, ⟨digits, behind⟩, hfraction, ⟨exponent, tail⟩, hexponent, rfl, rfl⟩
  have hpos : 0 < (text.takeWhile isDigit).length := by
    refine List.length_pos_of_ne_nil fun hnil => ?_
    simp [hnil, isWhole, guard] at hwhole
  have hspan := congrArg List.length (List.takeWhile_append_dropWhile (p := isDigit) (l := text))
  rw [List.length_append] at hspan
  have hle : behind.length ≤ (text.dropWhile isDigit).length := readFraction_length hfraction
  have hle' : tail.length ≤ behind.length := readExponent_length hexponent
  dsimp only
  omega

theorem readNumber_length {F : Format} {text rest : JsString} {n : Number F}
    (h : readNumber F text = some (n, rest)) : rest.length < text.length := by
  cases text with
  | nil => contradiction
  | cons unit text =>
      rw [readNumber] at h
      split_ifs at h with hsign
      · exact lt_trans (readUnsigned_length h) (Nat.lt_succ_self _)
      · exact readUnsigned_length h

theorem push_length {unit : UInt16} {behind : Option (JsString × JsString)}
    {read : JsString × JsString} {n : Nat} (h : push unit behind = some read)
    (hbehind : ∀ inner, behind = some inner → inner.2.length < n) : read.2.length < n + 1 := by
  rcases Option.map_eq_some_iff.mp h with ⟨inner, hinner, rfl⟩
  exact lt_trans (hbehind inner hinner) (Nat.lt_succ_self n)

theorem readString_length {scan : Scan} {text : JsString} {read : JsString × JsString}
    (h : readString scan text = some read) : read.2.length < text.length := by
  induction text generalizing scan read with
  | nil => cases scan <;> contradiction
  | cons unit text ih =>
      rw [List.length_cons]
      cases scan with
      | plain =>
          rw [readString] at h
          split_ifs at h with hquote hcontrol hescape
          · rw [← Option.some.inj h]
            exact Nat.lt_succ_self _
          · exact lt_trans (ih h) (Nat.lt_succ_self _)
          · exact push_length h fun inner hinner => ih hinner
      | escaped =>
          rw [readString] at h
          split_ifs at h with hunicode
          · exact lt_trans (ih h) (Nat.lt_succ_self _)
          · rcases Option.bind_eq_some_iff.mp h with ⟨other, -, h⟩
            exact push_length h fun inner hinner => ih hinner
      | hex remaining value =>
          cases remaining with
          | zero =>
              rw [readString] at h
              rcases Option.bind_eq_some_iff.mp h with ⟨digit, -, h⟩
              exact push_length h fun inner hinner => ih hinner
          | succ remaining =>
              rw [readString] at h
              rcases Option.bind_eq_some_iff.mp h with ⟨digit, -, h⟩
              exact lt_trans (ih h) (Nat.lt_succ_self _)

/-! ## Values -/

theorem skipSpace_length (text : JsString) : (skipSpace text).length ≤ text.length :=
  dropWhile_length_le isJsonSpace text

theorem readWord_extend {word text : JsString} {value : Value} {read : Value × JsString}
    (more : JsString) (h : readWord word value text = some read) :
    readWord word value (text ++ more) = some (read.1, read.2 ++ more) := by
  unfold readWord at h ⊢
  split_ifs at h with hprefix
  rcases List.isPrefixOf_iff_prefix.mp hprefix with ⟨rest, rfl⟩
  rw [← Option.some.inj h, if_pos (by simp [List.append_assoc])]
  simp [List.append_assoc]

theorem readWord_length {word text : JsString} {value : Value} {read : Value × JsString}
    (h : readWord word value text = some read) (hword : word ≠ []) :
    read.2.length < text.length := by
  unfold readWord at h
  split_ifs at h with hprefix
  rcases List.isPrefixOf_iff_prefix.mp hprefix with ⟨rest, rfl⟩
  have hpos := List.length_pos_of_ne_nil hword
  rw [← Option.some.inj h, List.length_drop, List.length_append]
  omega

/-- The reader makes the same of the text in front of other text that is ready for it, with
fuel for what it consumes. -/
def Extends {α : Type} (reader : Nat → JsString → Option (α × JsString))
    (ready : JsString → JsString → Prop) (text : JsString) (read : α × JsString) : Prop :=
  read.2.length < text.length ∧ ∀ fuel more, ready read.2 more →
    text.length ≤ fuel + read.2.length →
      reader fuel (text ++ more) = some (read.1, read.2 ++ more)

/-- A closing bracket needs nothing behind it. -/
def Always (_ _ : JsString) : Prop := True

section

variable {fuel : Nat} {text : JsString}

/-- A reader that consumes something is given fuel. -/
theorem Extends.of_succ {α : Type} {reader : Nat → JsString → Option (α × JsString)}
    {ready : JsString → JsString → Prop} {read : α × JsString}
    (hlength : read.2.length < text.length)
    (h : ∀ fuel more, ready read.2 more → text.length ≤ fuel + 1 + read.2.length →
      reader (fuel + 1) (text ++ more) = some (read.1, read.2 ++ more)) :
    Extends reader ready text read := by
  refine ⟨hlength, fun fuel more hready hfuel => ?_⟩
  cases fuel with
  | zero => omega
  | succ fuel => exact h fuel more hready hfuel

theorem parseValue_extends {read : Value × JsString}
    (helements : ∀ text read, parseElements fuel text = some read →
      Extends parseElements Always text read)
    (hmembers : ∀ text read, parseMembers fuel text = some read →
      Extends parseMembers Always text read)
    (h : parseValue (fuel + 1) text = some read) : Extends parseValue EndsBefore text read := by
  rw [parseValue] at h
  split at h
  · contradiction
  · rename_i unit rest hskip
    have hshort := skipSpace_length text
    rw [hskip, List.length_cons] at hshort
    have hword : ∀ {word : JsString} {value : Value}, word ≠ [] →
        readWord word value (unit :: rest) = some read →
        (∀ fuel more, parseValue (fuel + 1) (text ++ more) =
          readWord word value (unit :: (rest ++ more))) → Extends parseValue EndsBefore text read := by
      intro word value hne hread hparse
      have hlength := readWord_length hread hne
      rw [List.length_cons] at hlength
      refine .of_succ (by omega) fun fuel more hready hfuel => ?_
      rw [hparse]
      exact readWord_extend more hread
    split_ifs at h with h34 h91 h123 h110 h116 h102
    · rcases Option.map_eq_some_iff.mp h with ⟨inner, hinner, rfl⟩
      have hlength := readString_length hinner
      refine .of_succ (by dsimp only; omega) fun fuel more hready hfuel => ?_
      rw [parseValue, skipSpace_append hskip]
      simp [h34, readString_append hinner]
    · split at h
      · contradiction
      · rename_i next behind hnext
        have hshort' := skipSpace_length rest
        rw [hnext, List.length_cons] at hshort'
        split_ifs at h with hclose
        · obtain rfl := Option.some.inj h
          refine .of_succ (by dsimp only; omega) fun fuel more hready hfuel => ?_
          rw [parseValue, skipSpace_append hskip]
          simp [h91, skipSpace_append hnext, hclose]
        · rcases Option.map_eq_some_iff.mp h with ⟨inner, hinner, rfl⟩
          rcases helements _ inner hinner with ⟨hlength, hextend⟩
          rw [List.length_cons] at hlength hextend
          refine .of_succ (by dsimp only; omega) fun fuel more hready hfuel => ?_
          have hread := hextend fuel more trivial (by dsimp only at hfuel; omega)
          rw [List.cons_append] at hread
          rw [parseValue, skipSpace_append hskip]
          simp [h91, skipSpace_append hnext, hclose, hread]
    · split at h
      · contradiction
      · rename_i next behind hnext
        have hshort' := skipSpace_length rest
        rw [hnext, List.length_cons] at hshort'
        split_ifs at h with hclose
        · obtain rfl := Option.some.inj h
          refine .of_succ (by dsimp only; omega) fun fuel more hready hfuel => ?_
          rw [parseValue, skipSpace_append hskip]
          simp [h123, skipSpace_append hnext, hclose]
        · rcases Option.map_eq_some_iff.mp h with ⟨inner, hinner, rfl⟩
          rcases hmembers _ inner hinner with ⟨hlength, hextend⟩
          rw [List.length_cons] at hlength hextend
          refine .of_succ (by dsimp only; omega) fun fuel more hready hfuel => ?_
          have hread := hextend fuel more trivial (by dsimp only at hfuel; omega)
          rw [List.cons_append] at hread
          rw [parseValue, skipSpace_append hskip]
          simp [h123, skipSpace_append hnext, hclose, hread]
    · refine hword (by decide) h fun fuel more => ?_
      rw [parseValue, skipSpace_append hskip]
      simp [h110]
    · refine hword (by decide) h fun fuel more => ?_
      rw [parseValue, skipSpace_append hskip]
      simp [h116]
    · refine hword (by decide) h fun fuel more => ?_
      rw [parseValue, skipSpace_append hskip]
      simp [h102]
    · rcases Option.map_eq_some_iff.mp h with ⟨inner, hinner, rfl⟩
      have hlength : inner.2.length < (unit :: rest).length := readNumber_length hinner
      rw [List.length_cons] at hlength
      refine .of_succ (by dsimp only; omega) fun fuel more hready hfuel => ?_
      have hread := readNumber_append hinner hready
      rw [List.cons_append] at hread
      rw [parseValue, skipSpace_append hskip]
      simp [h34, h91, h123, h110, h116, h102, hread]

/-- The rest behind a value begins with what stops a number. -/
theorem endsBefore_of_skip {rest behind more : JsString} {unit : UInt16}
    (h : skipSpace rest = unit :: behind) : EndsBefore rest more := by
  refine Or.inl ?_
  rintro rfl
  contradiction

theorem parseElements_extends {read : List Value × JsString}
    (hvalue : ∀ text read, parseValue fuel text = some read → Extends parseValue EndsBefore text read)
    (helements : ∀ text read, parseElements fuel text = some read →
      Extends parseElements Always text read)
    (h : parseElements (fuel + 1) text = some read) : Extends parseElements Always text read := by
  rw [parseElements] at h
  rcases Option.bind_eq_some_iff.mp h with ⟨element, helement, h⟩
  rcases hvalue _ element helement with ⟨hlength, hextend⟩
  split at h
  · contradiction
  · rename_i unit rest hskip
    have hshort := skipSpace_length element.2
    rw [hskip, List.length_cons] at hshort
    split_ifs at h with hclose hcomma
    · obtain rfl := Option.some.inj h
      refine .of_succ (by dsimp only; omega) fun fuel more hready hfuel => ?_
      have hread := hextend fuel more (endsBefore_of_skip hskip) (by dsimp only at hfuel; omega)
      rw [parseElements, hread]
      simp [skipSpace_append hskip, hclose]
    · rcases Option.map_eq_some_iff.mp h with ⟨inner, hinner, rfl⟩
      rcases helements _ inner hinner with ⟨hlength', hextend'⟩
      refine .of_succ (by dsimp only; omega) fun fuel more hready hfuel => ?_
      dsimp only at hfuel
      have hread := hextend fuel more (endsBefore_of_skip hskip) (by omega)
      have hrest := hextend' fuel more trivial (by omega)
      rw [parseElements, hread]
      simp [skipSpace_append hskip, hcomma, hrest]

theorem parseMembers_extends {read : Fields × JsString}
    (hvalue : ∀ text read, parseValue fuel text = some read → Extends parseValue EndsBefore text read)
    (hmembers : ∀ text read, parseMembers fuel text = some read →
      Extends parseMembers Always text read)
    (h : parseMembers (fuel + 1) text = some read) : Extends parseMembers Always text read := by
  rw [parseMembers] at h
  split at h
  · contradiction
  · rename_i unit rest hskip
    have hshort := skipSpace_length text
    rw [hskip, List.length_cons] at hshort
    split_ifs at h with hquote
    rcases Option.bind_eq_some_iff.mp h with ⟨key, hkey, h⟩
    have hkeyLength := readString_length hkey
    split at h
    · contradiction
    · rename_i colon behind hcolonSkip
      have hshort' := skipSpace_length key.2
      rw [hcolonSkip, List.length_cons] at hshort'
      split_ifs at h with hcolon
      rcases Option.bind_eq_some_iff.mp h with ⟨value, hread, h⟩
      rcases hvalue _ value hread with ⟨hlength, hextend⟩
      split at h
      · contradiction
      · rename_i next tail hnext
        have hshort'' := skipSpace_length value.2
        rw [hnext, List.length_cons] at hshort''
        split_ifs at h with hclose hcomma
        · obtain rfl := Option.some.inj h
          refine .of_succ (by dsimp only; omega) fun fuel more hready hfuel => ?_
          dsimp only at hfuel
          have hvalueRead := hextend fuel more (endsBefore_of_skip hnext) (by omega)
          rw [parseMembers, skipSpace_append hskip]
          simp [hquote, readString_append hkey, skipSpace_append hcolonSkip, hcolon, hvalueRead,
            skipSpace_append hnext, hclose]
        · rcases Option.map_eq_some_iff.mp h with ⟨inner, hinner, rfl⟩
          rcases hmembers _ inner hinner with ⟨hlength', hextend'⟩
          refine .of_succ (by dsimp only; omega) fun fuel more hready hfuel => ?_
          dsimp only at hfuel
          have hvalueRead := hextend fuel more (endsBefore_of_skip hnext) (by omega)
          have hrest := hextend' fuel more trivial (by omega)
          rw [parseMembers, skipSpace_append hskip]
          simp [hquote, readString_append hkey, skipSpace_append hcolonSkip, hcolon, hvalueRead,
            skipSpace_append hnext, hcomma, hrest]

end

/-- Every reader makes the same of a text in front of other text. -/
theorem parse_append (fuel : Nat) :
    (∀ text read, parseValue fuel text = some read → Extends parseValue EndsBefore text read) ∧
      (∀ text read, parseElements fuel text = some read →
        Extends parseElements Always text read) ∧
      ∀ text read, parseMembers fuel text = some read → Extends parseMembers Always text read := by
  induction fuel with
  | zero =>
      exact ⟨fun _ _ h => by contradiction, fun _ _ h => by contradiction,
        fun _ _ h => by contradiction⟩
  | succ fuel ih =>
      rcases ih with ⟨hvalue, helements, hmembers⟩
      exact ⟨fun _ _ => parseValue_extends helements hmembers,
        fun _ _ => parseElements_extends hvalue helements,
        fun _ _ => parseMembers_extends hvalue hmembers⟩

/-- A text that is JSON stands for its value wherever JSON text puts it. -/
theorem stands_of_parse {text : JsString} {value : Value} (h : parse text = some value) :
    Stands text value := by
  unfold parse at h
  rcases Option.bind_eq_some_iff.mp h with ⟨⟨found, tail⟩, hread, h⟩
  split_ifs at h with htail
  obtain rfl : found = value := Option.some.inj h
  refine ⟨?_, fun fuel rest hfuel hstops => ⟨tail ++ rest, ?_, ?_⟩⟩
  · rw [parseValue] at hread
    split at hread
    · contradiction
    · rename_i unit rest hskip
      refine ⟨unit, rest, hskip, ?_⟩
      rintro rfl
      simp only [show ¬(93 : UInt16) = 34 by decide, show ¬(93 : UInt16) = 91 by decide,
        show ¬(93 : UInt16) = 123 by decide, show ¬(93 : UInt16) = 110 by decide,
        show ¬(93 : UInt16) = 116 by decide, show ¬(93 : UInt16) = 102 by decide, if_false,
        Option.map_eq_some_iff] at hread
      rcases hread with ⟨inner, hinner, -⟩
      exact absurd (readNumber_head hinner) (by decide)
  · exact ((parse_append _).1 text _ hread).2 fuel rest (Or.inr hstops) (by omega)
  · have hspaces : tail.dropWhile isJsonSpace = [] := htail
    rw [skipSpace, List.dropWhile_append, hspaces]
    rfl

end JavaScript
