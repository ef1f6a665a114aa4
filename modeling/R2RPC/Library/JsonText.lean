import Mathlib.Data.List.DropRight
import R2RPC.Library.JavaScript

/-!
# Reading JSON text

{lit}`JSON.parse`, and what it makes of the text of {lit}`JSON.stringify`.

Main results:

- Definition {lit}`parse`: the reader.
- Theorem {lit}`readString_escape`: a quoted string is read back, lone surrogates
  included.
- Structure {lit}`Reads`: a text that stands for a value, whoever wrote it; with a rule
  for each kind of value.
- Theorem {lit}`Value.parse_stringify`: a value comes back settled.

Current gaps:

- No reviver; nesting is not bounded by a call stack.
-/

namespace JavaScript

open Utf16 Binary

/-! ## Strings -/

/-- The value of a hexadecimal digit. -/
def hexValue (unit : UInt16) : Option Nat :=
  if 48 ≤ unit.toNat ∧ unit.toNat ≤ 57 then some (unit.toNat - 48)
  else if 97 ≤ unit.toNat ∧ unit.toNat ≤ 102 then some (unit.toNat - 87)
  else if 65 ≤ unit.toNat ∧ unit.toNat ≤ 70 then some (unit.toNat - 55)
  else none

/-- The code unit of a single character escape. -/
def unescape (unit : UInt16) : Option UInt16 :=
  if unit = 34 ∨ unit = 92 ∨ unit = 47 then some unit
  else if unit = 98 then some 8
  else if unit = 102 then some 12
  else if unit = 110 then some 10
  else if unit = 114 then some 13
  else if unit = 116 then some 9
  else none

/-- A code unit in front of what a reader answers. -/
def push (unit : UInt16) (read : Option (JsString × JsString)) : Option (JsString × JsString) :=
  read.map fun read => (unit :: read.1, read.2)

/-- Where a reader stands inside a string: in front of a character, behind a backslash, or
in an escape with so many hexadecimal digits to come after the next one. -/
inductive Scan where
  | plain
  | escaped
  | hex (remaining value : Nat)

/-- A string behind its opening quote. -/
def readString : Scan → JsString → Option (JsString × JsString)
  | _, [] => none
  | .plain, unit :: rest =>
      if unit = 34 then some ([], rest)
      else if unit < 32 then none
      else if unit = 92 then readString .escaped rest
      else push unit (readString .plain rest)
  | .escaped, unit :: rest =>
      if unit = 117 then readString (.hex 3 0) rest
      else (unescape unit).bind fun unit => push unit (readString .plain rest)
  | .hex 0 value, unit :: rest =>
      (hexValue unit).bind fun digit =>
        push (16 * value + digit).toUInt16 (readString .plain rest)
  | .hex (remaining + 1) value, unit :: rest =>
      (hexValue unit).bind fun digit => readString (.hex remaining (16 * value + digit)) rest

theorem hexValue_hexDigit {n : Nat} (h : n < 16) : hexValue (hexDigit n) = some n := by
  have hall : ∀ n : Fin 16, hexValue (hexDigit n) = some n.val := by decide
  exact hall ⟨n, h⟩

theorem readString_unicodeEscape (unit : UInt16) (rest : JsString) :
    readString .plain (unicodeEscape unit ++ rest) = push unit (readString .plain rest) := by
  have hlt : unit.toNat < 65536 := unit.toNat_lt
  have hvalue : 16 * (16 * (16 * (16 * 0 + unit.toNat / 4096) + unit.toNat / 256 % 16) +
      unit.toNat / 16 % 16) + unit.toNat % 16 = unit.toNat := by omega
  have hdigit : ∀ n, hexValue (hexDigit (n % 16)) = some (n % 16) := fun n =>
    hexValue_hexDigit (Nat.mod_lt n (by omega))
  simp only [unicodeEscape, List.cons_append, List.nil_append, readString]
  simp only [hdigit, hexValue_hexDigit (show unit.toNat / 4096 < 16 by omega),
    Option.bind_some, hvalue]
  simp

theorem readString_single {escape unit : UInt16} (hescape : escape ≠ 117)
    (hunit : unescape escape = some unit) (rest : JsString) :
    readString .plain (92 :: escape :: rest) = push unit (readString .plain rest) := by
  simp [readString, hescape, hunit]

theorem readString_plain {unit : UInt16} (hquote : unit ≠ 34) (hcontrol : ¬unit < 32)
    (hescape : unit ≠ 92) (rest : JsString) :
    readString .plain (unit :: rest) = push unit (readString .plain rest) := by
  simp [readString, hquote, hcontrol, hescape]

theorem readString_escapeUnit (unit : UInt16) (rest : JsString) :
    readString .plain (escapeUnit unit ++ rest) = push unit (readString .plain rest) := by
  unfold escapeUnit
  split_ifs with h8 h9 h10 h12 h13 h34 h92 hother
  · subst h8; exact readString_single (by decide) (by decide) rest
  · subst h9; exact readString_single (by decide) (by decide) rest
  · subst h10; exact readString_single (by decide) (by decide) rest
  · subst h12; exact readString_single (by decide) (by decide) rest
  · subst h13; exact readString_single (by decide) (by decide) rest
  · subst h34; exact readString_single (by decide) (by decide) rest
  · subst h92; exact readString_single (by decide) (by decide) rest
  · exact readString_unicodeEscape unit rest
  · simp only [Bool.or_eq_true, decide_eq_true_eq, not_or] at hother
    exact readString_plain h34 hother.1.1 h92 rest

/-- A surrogate is an ordinary character of a string. -/
theorem readString_surrogate {unit : UInt16} (h : isLead unit = true ∨ isTrail unit = true)
    (rest : JsString) :
    readString .plain (unit :: rest) = push unit (readString .plain rest) := by
  have hlow : 0xD800 ≤ unit.toNat := by
    rcases h with h | h
    · simp only [isLead, Bool.and_eq_true, decide_eq_true_eq, UInt16.le_iff_toNat_le] at h
      exact h.1
    · simp only [isTrail, Bool.and_eq_true, decide_eq_true_eq, UInt16.le_iff_toNat_le] at h
      exact le_trans (by decide) h.1
  refine readString_plain ?_ ?_ ?_ rest
  · rintro rfl; exact absurd hlow (by decide)
  · have hspace : (32 : UInt16).toNat = 32 := rfl
    rw [UInt16.lt_iff_toNat_lt, hspace]
    omega
  · rintro rfl; exact absurd hlow (by decide)

/-- A quoted string is read back. -/
theorem readString_escape (text rest : JsString) :
    readString .plain (escape text ++ 34 :: rest) = some (text, rest) := by
  induction text using escape.induct with
  | case1 => simp [escape, readString]
  | case2 unit =>
      rw [escape, readString_escapeUnit unit]
      simp [readString, push]
  | case3 unit next tail hpair ih =>
      rw [Bool.and_eq_true] at hpair
      simp only [escape, hpair, Bool.and_self, if_true, List.cons_append]
      rw [readString_surrogate (Or.inl hpair.1), readString_surrogate (Or.inr hpair.2), ih]
      rfl
  | case4 unit next tail hpair ih =>
      rw [escape, if_neg hpair, List.append_assoc, readString_escapeUnit unit, ih]
      rfl

/-! ## Values -/

/-- White space of the JSON grammar. -/
def isJsonSpace (unit : UInt16) : Bool := unit == 9 || unit == 10 || unit == 13 || unit == 32

def skipSpace (text : JsString) : JsString := text.dropWhile isJsonSpace

/-- A word of the grammar. -/
def readWord (word : JsString) (value : Value) (text : JsString) : Option (Value × JsString) :=
  if word.isPrefixOf text then some (value, text.drop word.length) else none

mutual

/-- A value at the head of a text. -/
def parseValue : Nat → JsString → Option (Value × JsString)
  | 0, _ => none
  | fuel + 1, text =>
      match skipSpace text with
      | [] => none
      | unit :: rest =>
          if unit = 34 then (readString .plain rest).map fun read => (.string read.1, read.2)
          else if unit = 91 then
            match skipSpace rest with
            | [] => none
            | next :: behind =>
                if next = 93 then some (.array [], behind)
                else (parseElements fuel (next :: behind)).map fun read =>
                  (.array read.1, read.2)
          else if unit = 123 then
            match skipSpace rest with
            | [] => none
            | next :: behind =>
                if next = 125 then some (.object true [], behind)
                else (parseMembers fuel (next :: behind)).map fun read =>
                  (.object true
                    (read.1.foldl (fun fields field => setField fields field.1 field.2) []), read.2)
          else if unit = 110 then readWord (lit "null") .null (unit :: rest)
          else if unit = 116 then readWord (lit "true") (.boolean true) (unit :: rest)
          else if unit = 102 then readWord (lit "false") (.boolean false) (unit :: rest)
          else (readNumber binary64 (unit :: rest)).map fun read => (.number read.1, read.2)

/-- The elements of an array that is not empty, with its closing bracket. -/
def parseElements : Nat → JsString → Option (List Value × JsString)
  | 0, _ => none
  | fuel + 1, text =>
      (parseValue fuel text).bind fun element =>
        match skipSpace element.2 with
        | [] => none
        | unit :: rest =>
            if unit = 93 then some ([element.1], rest)
            else if unit = 44 then
              (parseElements fuel rest).map fun read => (element.1 :: read.1, read.2)
            else none

/-- The members of an object that is not empty, with its closing brace. -/
def parseMembers : Nat → JsString → Option (Fields × JsString)
  | 0, _ => none
  | fuel + 1, text =>
      match skipSpace text with
      | [] => none
      | unit :: rest =>
          if unit = 34 then
            (readString .plain rest).bind fun key =>
              match skipSpace key.2 with
              | [] => none
              | colon :: behind =>
                  if colon = 58 then
                    (parseValue fuel behind).bind fun value =>
                      match skipSpace value.2 with
                      | [] => none
                      | next :: rest =>
                          if next = 125 then some ([(key.1, value.1)], rest)
                          else if next = 44 then
                            (parseMembers fuel rest).map fun read =>
                              ((key.1, value.1) :: read.1, read.2)
                          else none
                  else none
          else none

end

/-- `JSON.parse`. -/
def parse (text : JsString) : Option Value :=
  (parseValue (text.length + 1) text).bind fun read =>
    if skipSpace read.2 = [] then some read.1 else none

/-! ## What is read -/

theorem isJson_object_foldl {members fields : Fields} (hfields : (Value.object true fields).IsJson)
    (hmembers : ∀ field ∈ members, field.2.IsJson) :
    (Value.object true
      (members.foldl (fun fields field => setField fields field.1 field.2) fields)).IsJson := by
  induction members generalizing fields with
  | nil => exact hfields
  | cons member members ih =>
      rw [List.forall_mem_cons] at hmembers
      refine ih ?_ hmembers.2
      rw [Value.IsJson, Value.isJsonFields_iff] at hfields ⊢
      refine ⟨rfl, ordered_setField hfields.2.1 _ _, fun field hfield => ?_⟩
      rcases mem_setField hfield with rfl | hold
      · exact hmembers.1
      · exact hfields.2.2 field hold

theorem readWord_value {word text : JsString} {value : Value} {read : Value × JsString}
    (h : readWord word value text = some read) : read.1 = value := by
  unfold readWord at h
  split at h
  · exact (Option.some.inj h) ▸ rfl
  · contradiction

/-- Whatever the reader takes is JSON. -/
theorem isJson_of_parse (fuel : Nat) :
    (∀ text read, parseValue fuel text = some read → read.1.IsJson) ∧
      (∀ text read, parseElements fuel text = some read → ∀ element ∈ read.1, element.IsJson) ∧
      ∀ text read, parseMembers fuel text = some read → ∀ field ∈ read.1, field.2.IsJson := by
  induction fuel with
  | zero =>
      exact ⟨fun _ _ h => by contradiction, fun _ _ h => by contradiction,
        fun _ _ h => by contradiction⟩
  | succ fuel ih =>
      rcases ih with ⟨hvalue, helements, hmembers⟩
      refine ⟨fun text read h => ?_, fun text read h => ?_, fun text read h => ?_⟩
      · rw [parseValue] at h
        split at h
        · contradiction
        · split_ifs at h
          · rcases Option.map_eq_some_iff.mp h with ⟨_, -, rfl⟩
            trivial
          · split at h
            · contradiction
            · split_ifs at h
              · exact (Option.some.inj h) ▸ trivial
              · rcases Option.map_eq_some_iff.mp h with ⟨inner, hinner, rfl⟩
                rw [Value.IsJson, Value.isJsonElements_iff]
                exact helements _ inner hinner
          · split at h
            · contradiction
            · split_ifs at h
              · exact (Option.some.inj h) ▸ ⟨rfl, List.Pairwise.nil, trivial⟩
              · rcases Option.map_eq_some_iff.mp h with ⟨inner, hinner, rfl⟩
                exact isJson_object_foldl ⟨rfl, List.Pairwise.nil, trivial⟩
                  (hmembers _ inner hinner)
          · rw [readWord_value h]
            trivial
          · rw [readWord_value h]
            trivial
          · rw [readWord_value h]
            trivial
          · rcases Option.map_eq_some_iff.mp h with ⟨_, -, rfl⟩
            trivial
      · rw [parseElements] at h
        rcases Option.bind_eq_some_iff.mp h with ⟨element, helement, h⟩
        have hhead := hvalue _ element helement
        split at h
        · contradiction
        · split_ifs at h
          · obtain rfl := Option.some.inj h
            simpa using hhead
          · rcases Option.map_eq_some_iff.mp h with ⟨inner, hinner, rfl⟩
            exact List.forall_mem_cons.mpr ⟨hhead, helements _ inner hinner⟩
      · rw [parseMembers] at h
        split at h
        · contradiction
        · split_ifs at h
          rcases Option.bind_eq_some_iff.mp h with ⟨key, -, h⟩
          split at h
          · contradiction
          · split_ifs at h
            rcases Option.bind_eq_some_iff.mp h with ⟨value, hread, h⟩
            have hhead := hvalue _ value hread
            split at h
            · contradiction
            · split_ifs at h
              · obtain rfl := Option.some.inj h
                simpa using hhead
              · rcases Option.map_eq_some_iff.mp h with ⟨inner, hinner, rfl⟩
                exact List.forall_mem_cons.mpr ⟨hhead, hmembers _ inner hinner⟩

theorem parse_isJson {text : JsString} {value : Value} (h : parse text = some value) :
    value.IsJson := by
  unfold parse at h
  rcases Option.bind_eq_some_iff.mp h with ⟨read, hread, h⟩
  split_ifs at h
  exact Option.some.inj h ▸ (isJson_of_parse _).1 _ read hread

/-! ## The round trip -/

theorem skipSpace_cons {unit : UInt16} (h : isJsonSpace unit = false) (rest : JsString) :
    skipSpace (unit :: rest) = unit :: rest := by
  simp [skipSpace, h]

theorem readWord_append (word : JsString) (value : Value) (rest : JsString) :
    readWord word value (word ++ rest) = some (value, rest) := by
  simp [readWord]

/-- A number begins with its sign or a digit. -/
theorem readNumber_head {unit : UInt16} {rest : JsString} {read : JsNumber × JsString}
    (h : readNumber binary64 (unit :: rest) = some read) : unit = 45 ∨ isDigit unit = true := by
  by_cases hsign : unit = 45
  · exact Or.inl hsign
  · right
    rw [readNumber, if_neg hsign] at h
    by_contra hdigit
    have hspan : (unit :: rest).takeWhile isDigit = [] := by simp [hdigit]
    simp [readUnsigned, hspan, isWhole] at h

theorem stops_cons {unit : UInt16} (h : isDigit unit = false ∧ unit ≠ 46 ∧ unit ≠ 101 ∧ unit ≠ 69)
    (rest : JsString) : Stops (unit :: rest) := by
  intro other hother
  rw [List.head?_cons, Option.mem_some_iff] at hother
  exact hother ▸ h

theorem parseValue_number {fuel : Nat} {text rest : JsString} {n : JsNumber}
    (h : readNumber binary64 text = some (n, rest)) :
    parseValue (fuel + 1) text = some (.number n, rest) := by
  cases text with
  | nil => simp [readNumber] at h
  | cons unit behind =>
      have hspace : isJsonSpace unit = false := by
        rcases readNumber_head h with rfl | hdigit
        · decide
        · simp only [isDigit, Bool.and_eq_true, decide_eq_true_eq, UInt16.le_iff_toNat_le] at hdigit
          have hne : ∀ other : UInt16, other.toNat < 48 → unit ≠ other := by
            rintro other hother rfl
            exact absurd hdigit.1 (by simpa using hother)
          simp [isJsonSpace, hne]
      have hne : ∀ other : UInt16, isDigit other = false → other ≠ 45 → unit ≠ other := by
        rintro other hother hsign rfl
        rcases readNumber_head h with hminus | hdigit
        · exact hsign hminus
        · rw [hother] at hdigit
          exact Bool.false_ne_true hdigit
      rw [parseValue, skipSpace_cons hspace]
      simp only [hne 34 (by decide) (by decide), hne 91 (by decide) (by decide),
        hne 123 (by decide) (by decide), hne 110 (by decide) (by decide),
        hne 116 (by decide) (by decide), hne 102 (by decide) (by decide), if_false, h,
        Option.map_some]

/-! ### Texts that stand for a value -/

/-- The reader takes the text for the value and stops behind it. -/
structure Reads (text : JsString) (value : Value) : Prop where
  opens : ∃ unit rest, text = unit :: rest ∧ isJsonSpace unit = false ∧ unit ≠ 93
  parse : ∀ fuel rest, text.length ≤ fuel → Stops rest →
    parseValue fuel (text ++ rest) = some (value, rest)

/-- A text that is not empty is read with fuel. -/
theorem Reads.of_succ {text : JsString} {value : Value} {unit : UInt16} {tail : JsString}
    (htext : text = unit :: tail) (hspace : isJsonSpace unit = false) (hunit : unit ≠ 93)
    (hparse : ∀ fuel rest, tail.length ≤ fuel → Stops rest →
      parseValue (fuel + 1) (text ++ rest) = some (value, rest)) : Reads text value where
  opens := ⟨unit, tail, htext, hspace, hunit⟩
  parse := by
    intro fuel rest hfuel hstops
    rw [htext, List.length_cons] at hfuel
    cases fuel with
    | zero => omega
    | succ fuel => exact hparse fuel rest (by omega) hstops

/-- The whole text is read. -/
theorem Reads.parse_eq {text : JsString} {value : Value} (h : Reads text value) :
    JavaScript.parse text = some value := by
  have hread := h.parse (text.length + 1) [] (by omega) (by simp [Stops])
  rw [List.append_nil] at hread
  simp [JavaScript.parse, hread, skipSpace]

theorem reads_null : Reads (lit "null") .null := by
  have htext : lit "null" = 110 :: lit "ull" := by decide
  refine .of_succ htext (by decide) (by decide) fun fuel rest _ _ => ?_
  have hread := readWord_append (lit "null") .null rest
  rw [htext, List.cons_append] at hread ⊢
  rw [parseValue, skipSpace_cons (by decide)]
  simpa [htext] using hread

theorem reads_true : Reads (lit "true") (.boolean true) := by
  have htext : lit "true" = 116 :: lit "rue" := by decide
  refine .of_succ htext (by decide) (by decide) fun fuel rest _ _ => ?_
  have hread := readWord_append (lit "true") (.boolean true) rest
  rw [htext, List.cons_append] at hread ⊢
  rw [parseValue, skipSpace_cons (by decide)]
  simpa [htext] using hread

theorem reads_false : Reads (lit "false") (.boolean false) := by
  have htext : lit "false" = 102 :: lit "alse" := by decide
  refine .of_succ htext (by decide) (by decide) fun fuel rest _ _ => ?_
  have hread := readWord_append (lit "false") (.boolean false) rest
  rw [htext, List.cons_append] at hread ⊢
  rw [parseValue, skipSpace_cons (by decide)]
  simpa [htext] using hread

theorem reads_number {text : JsString} {n : JsNumber}
    (h : ∀ rest, Stops rest → readNumber binary64 (text ++ rest) = some (n, rest)) :
    Reads text (.number n) := by
  have hend := h [] (by simp [Stops])
  rw [List.append_nil] at hend
  cases htext : text with
  | nil => simp [htext, readNumber] at hend
  | cons unit tail =>
      rw [htext] at hend h
      have hunit : isJsonSpace unit = false ∧ unit ≠ 93 := by
        rcases readNumber_head hend with rfl | hdigit
        · decide
        · simp only [isDigit, Bool.and_eq_true, decide_eq_true_eq,
            UInt16.le_iff_toNat_le] at hdigit
          have hne : ∀ other : UInt16, other.toNat < 48 ∨ 57 < other.toNat → unit ≠ other := by
            rintro other hother rfl
            have hlow : (48 : UInt16).toNat = 48 := rfl
            have hhigh : (57 : UInt16).toNat = 57 := rfl
            omega
          simp [isJsonSpace, hne]
      exact .of_succ rfl hunit.1 hunit.2 fun fuel rest _ hstops => parseValue_number (h rest hstops)

/-- The quoted text is read as this string. -/
def Quotes (quoted text : JsString) : Prop :=
  ∃ inside, quoted = 34 :: (inside ++ [34]) ∧
    ∀ rest, readString .plain (inside ++ 34 :: rest) = some (text, rest)

theorem quotes_quote (text : JsString) : Quotes (quote text) text :=
  ⟨escape text, rfl, readString_escape text⟩

theorem Quotes.reads {quoted text : JsString} (h : Quotes quoted text) :
    Reads quoted (.string text) := by
  rcases h with ⟨inside, rfl, hread⟩
  refine .of_succ rfl (by decide) (by decide) fun fuel rest _ _ => ?_
  rw [List.cons_append, List.append_assoc, parseValue, skipSpace_cons (by decide)]
  simp [hread]

/-- The reader takes the text for the value and stops behind it, up to white space. -/
structure Stands (text : JsString) (value : Value) : Prop where
  opens : ∃ unit rest, skipSpace text = unit :: rest ∧ unit ≠ 93
  parse : ∀ fuel rest, text.length ≤ fuel → Stops rest →
    ∃ tail, parseValue fuel (text ++ rest) = some (value, tail) ∧ skipSpace tail = skipSpace rest

theorem Reads.stands {text : JsString} {value : Value} (h : Reads text value) :
    Stands text value where
  opens := by
    rcases h.opens with ⟨unit, rest, rfl, hspace, hunit⟩
    exact ⟨unit, rest, skipSpace_cons hspace rest, hunit⟩
  parse := fun fuel rest hfuel hstops => ⟨rest, h.parse fuel rest hfuel hstops, rfl⟩

/-- The whole text is read. -/
theorem Stands.parse_eq {text : JsString} {value : Value} (h : Stands text value) :
    JavaScript.parse text = some value := by
  rcases h.parse (text.length + 1) [] (by omega) (by simp [Stops]) with ⟨tail, hread, htail⟩
  have hend : skipSpace tail = [] := htail
  rw [List.append_nil] at hread
  simp [JavaScript.parse, hread, hend]

/-- The elements of an array, with the bracket that closes it. -/
theorem parseElements_join {texts : List JsString} {values : List Value}
    (h : List.Forall₂ Stands texts values) (hne : texts ≠ []) :
    ∀ fuel rest, (List.intercalate [44] texts).length < fuel →
      parseElements fuel (List.intercalate [44] texts ++ 93 :: rest) = some (values, rest) := by
  induction h with
  | nil => exact absurd rfl hne
  | @cons text value texts values hhead htail ih =>
      intro fuel rest hfuel
      cases fuel with
      | zero => omega
      | succ fuel =>
          cases htail with
          | nil =>
              rw [List.intercalate_singleton] at hfuel ⊢
              rcases hhead.parse fuel (93 :: rest) (by omega) (stops_cons (by decide) rest) with
                ⟨tail, hread, htail⟩
              rw [parseElements, hread]
              simp [htail, skipSpace_cons (show isJsonSpace 93 = false by decide)]
          | cons hnext hrest =>
              have hparse := ih (by simp) fuel rest
              rw [List.intercalate_cons_cons] at hfuel ⊢
              simp only [List.length_append, List.length_singleton] at hfuel
              rw [List.append_assoc, List.append_assoc, List.singleton_append, parseElements]
              have hcomma : ∀ behind, Stops (44 :: behind) := stops_cons (by decide)
              rcases hhead.parse fuel _ (by omega) (hcomma _) with ⟨tail, hread, htail⟩
              rw [hread]
              simp [htail, skipSpace_cons (show isJsonSpace 44 = false by decide),
                hparse (by omega)]

/-- White space in front of a text does not depend on what stands behind it. -/
theorem skipSpace_append {text behind : JsString} {unit : UInt16}
    (h : skipSpace text = unit :: behind) (rest : JsString) :
    skipSpace (text ++ rest) = unit :: (behind ++ rest) := by
  have hne : text.dropWhile isJsonSpace ≠ [] := by
    rw [skipSpace] at h
    simp [h]
  rw [skipSpace, List.dropWhile_append, if_neg (by simpa using hne), ← skipSpace, h]
  rfl

theorem skipSpace_skipSpace (text : JsString) : skipSpace (skipSpace text) = skipSpace text :=
  List.dropWhile_idempotent _ text

theorem parseElements_skipSpace (fuel : Nat) (text : JsString) :
    parseElements fuel (skipSpace text) = parseElements fuel text := by
  have hvalue : ∀ fuel, parseValue fuel (skipSpace text) = parseValue fuel text := by
    intro fuel
    cases fuel with
    | zero => rfl
    | succ fuel => rw [parseValue, parseValue, skipSpace_skipSpace]
  cases fuel with
  | zero => rfl
  | succ fuel => rw [parseElements, parseElements, hvalue]

theorem reads_array {texts : List JsString} {values : List Value}
    (h : List.Forall₂ Stands texts values) :
    Reads (91 :: (List.intercalate [44] texts ++ [93])) (.array values) := by
  refine .of_succ rfl (by decide) (by decide) fun fuel rest hfuel _ => ?_
  rw [List.cons_append, List.append_assoc, parseValue,
    skipSpace_cons (show isJsonSpace 91 = false by decide)]
  simp only [List.length_append, List.length_singleton] at hfuel
  cases h with
  | nil => simp [skipSpace_cons (show isJsonSpace 93 = false by decide)]
  | @cons text value texts values hhead htail =>
      have hread := parseElements_join (.cons hhead htail) (by simp) fuel rest (by omega)
      rcases hhead.opens with ⟨unit, tail, hopens, hunit⟩
      have hjoin : ∃ more, List.intercalate [44] (text :: texts) = text ++ more := by
        cases texts with
        | nil => exact ⟨[], by rw [List.intercalate_singleton, List.append_nil]⟩
        | cons next texts => exact ⟨_, List.intercalate_cons_cons.trans (List.append_assoc _ _ _)⟩
      rcases hjoin with ⟨more, hjoin⟩
      rw [hjoin, List.append_assoc] at hread ⊢
      rw [← parseElements_skipSpace, skipSpace_append hopens] at hread
      simp [skipSpace_append hopens, hunit, hread]

/-- A member of an object: its key, a colon and its value. -/
def ReadsMember (member : JsString) (field : JsString × Value) : Prop :=
  ∃ key text, member = key ++ 58 :: text ∧ Quotes key field.1 ∧ Stands text field.2

/-- One member, whatever stands behind its value. -/
theorem ReadsMember.parse {member : JsString} {field : JsString × Value}
    (h : ReadsMember member field) {fuel : Nat} {next : UInt16} {rest : JsString}
    (hfuel : member.length ≤ fuel) (hspace : isJsonSpace next = false)
    (hstops : Stops (next :: rest)) :
    parseMembers (fuel + 1) (member ++ next :: rest) =
      if next = 125 then some ([field], rest)
      else if next = 44 then
        (parseMembers fuel rest).map fun read => (field :: read.1, read.2)
      else none := by
  rcases h with ⟨key, text, rfl, ⟨inside, rfl, hkey⟩, htext⟩
  simp only [List.length_append, List.length_cons] at hfuel
  rcases htext.parse fuel (next :: rest) (by omega) hstops with ⟨tail, hvalue, htail⟩
  have hshape : 34 :: (inside ++ [34]) ++ 58 :: text ++ next :: rest =
      34 :: (inside ++ 34 :: 58 :: (text ++ next :: rest)) := by
    simp [List.append_assoc]
  rw [hshape, parseMembers, skipSpace_cons (by decide)]
  simp only [if_true, hkey, Option.bind_some,
    skipSpace_cons (show isJsonSpace 58 = false by decide), hvalue, htail, skipSpace_cons hspace]

/-- The members of an object, with the brace that closes it. -/
theorem parseMembers_join {members : List JsString} {fields : Fields}
    (h : List.Forall₂ ReadsMember members fields) (hne : members ≠ []) :
    ∀ fuel rest, (List.intercalate [44] members).length < fuel →
      parseMembers fuel (List.intercalate [44] members ++ 125 :: rest) = some (fields, rest) := by
  induction h with
  | nil => exact absurd rfl hne
  | @cons member field members fields hhead htail ih =>
      intro fuel rest hfuel
      cases fuel with
      | zero => omega
      | succ fuel =>
          cases htail with
          | nil =>
              rw [List.intercalate_singleton] at hfuel ⊢
              rw [hhead.parse (by omega) (by decide) (stops_cons (by decide) rest)]
              simp
          | cons hnext hrest =>
              have hparse := ih (by simp) fuel rest
              rw [List.intercalate_cons_cons] at hfuel ⊢
              simp only [List.length_append, List.length_singleton] at hfuel
              rw [List.append_assoc, List.append_assoc, List.singleton_append,
                hhead.parse (by omega) (by decide) (stops_cons (by decide) _)]
              simp [hparse (by omega)]

theorem reads_object {members : List JsString} {fields : Fields}
    (h : List.Forall₂ ReadsMember members fields) :
    Reads (123 :: (List.intercalate [44] members ++ [125]))
      (.object true (fields.foldl (fun fields field => setField fields field.1 field.2) [])) := by
  refine .of_succ rfl (by decide) (by decide) fun fuel rest hfuel _ => ?_
  rw [List.cons_append, List.append_assoc, parseValue,
    skipSpace_cons (show isJsonSpace 123 = false by decide)]
  simp only [List.length_append, List.length_singleton] at hfuel
  cases h with
  | nil => simp [skipSpace_cons (show isJsonSpace 125 = false by decide)]
  | @cons member field members fields hhead htail =>
      have hread := parseMembers_join (.cons hhead htail) (by simp) fuel rest (by omega)
      rcases hhead with ⟨key, text, rfl, ⟨inside, rfl, -⟩, -⟩
      have hopens : ∃ behind, List.intercalate [44]
          ((34 :: (inside ++ [34]) ++ 58 :: text) :: members) = 34 :: behind := by
        cases members with
        | nil => exact ⟨_, List.intercalate_singleton⟩
        | cons next members => exact ⟨_, List.intercalate_cons_cons⟩
      rcases hopens with ⟨behind, hopens⟩
      rw [hopens, List.cons_append] at hread ⊢
      simp [skipSpace_cons (show isJsonSpace 34 = false by decide), hread]

/-- Assigning the fields of an ordered list one after the other rebuilds the list. -/
theorem foldl_setField {fields : Fields} (h : Ordered fields) :
    fields.foldl (fun fields field => setField fields field.1 field.2) [] = fields := by
  induction fields using List.reverseRecOn with
  | nil => rfl
  | append_singleton fields field ih =>
      have hprefix : Ordered fields := (List.pairwise_append.mp h).1
      rw [List.foldl_append, ih hprefix]
      exact setField_of_ordered h

/-! ### The text of `JSON.stringify` -/

namespace Value

theorem ordered_settledFields {fields : Fields} (h : Ordered fields) :
    Ordered (settledFields fields) := by
  rw [settledFields_eq, Ordered, List.pairwise_map]
  exact h

theorem isJson_settled {value : Value} (h : value.IsJson) : value.settled.IsJson := by
  induction value with
  | number n => cases n <;> trivial
  | array elements ih =>
      rw [IsJson, isJsonElements_iff] at h
      rw [settled, IsJson, isJsonElements_iff, settledElements_eq, List.forall_mem_map]
      exact fun element helement => ih element helement (h element helement)
  | object inherits fields ih =>
      rw [IsJson, isJsonFields_iff] at h
      rw [settled, IsJson, isJsonFields_iff]
      refine ⟨h.1, ordered_settledFields h.2.1, ?_⟩
      rw [settledFields_eq, List.forall_mem_map]
      exact fun field hfield => ih field hfield (h.2.2 field hfield)
  | _ => exact h

theorem lookup_settledFields (fields : Fields) (key : JsString) :
    lookup (settledFields fields) key = (lookup fields key).map settled := by
  rw [settledFields_eq, lookup, lookup, List.find?_map, Option.map_map, Option.map_map]
  rfl

/-- The value has a text, and it stands for the settled value. -/
def ReadsBack (value : Value) : Prop := ∃ text, value.stringify = some text ∧ Reads text value.settled

theorem readsBack_number (n : JsNumber) : ReadsBack (.number n) := by
  cases n with
  | nan => exact ⟨lit "null", rfl, reads_null⟩
  | infinity negative => exact ⟨lit "null", rfl, reads_null⟩
  | finite negative m =>
      refine ⟨_, by rw [stringify, numberJson], ?_⟩
      rw [settled]
      exact reads_number fun rest => readNumber_text

theorem readsBack_array {elements : List Value} (h : ∀ element ∈ elements, ReadsBack element) :
    ReadsBack (.array elements) := by
  refine ⟨_, by rw [stringify], ?_⟩
  rw [settled]
  refine reads_array ?_
  rw [stringifyElements_eq, settledElements_eq, List.forall₂_map_left_iff,
    List.forall₂_map_right_iff, List.forall₂_same]
  intro element helement
  rcases h element helement with ⟨text, htext, hreads⟩
  rw [htext]
  exact hreads.stands

theorem readsBack_object {fields : Fields} (hordered : Ordered fields)
    (h : ∀ field ∈ fields, ReadsBack field.2) : ReadsBack (.object true fields) := by
  have hmembers : List.Forall₂ ReadsMember (stringifyFields fields) (settledFields fields) := by
    clear hordered
    induction fields with
    | nil => exact .nil
    | cons field fields ih =>
        rcases h field (by simp) with ⟨text, htext, hreads⟩
        rw [stringifyFields, htext, settledFields]
        exact .cons ⟨_, text, rfl, quotes_quote field.1, hreads.stands⟩
          (ih fun other hother => h other (by simp [hother]))
  refine ⟨_, by rw [stringify], ?_⟩
  rw [settled, ← foldl_setField (ordered_settledFields hordered)]
  exact reads_object hmembers

theorem readsBack_of_isJson {value : Value} (h : value.IsJson) : ReadsBack value := by
  induction value with
  | undefined => exact absurd h (by simp [IsJson])
  | function => exact absurd h (by simp [IsJson])
  | null => exact ⟨_, rfl, reads_null⟩
  | boolean value =>
      cases value with
      | true => exact ⟨_, rfl, reads_true⟩
      | false => exact ⟨_, rfl, reads_false⟩
  | number value => exact readsBack_number value
  | string text => exact ⟨_, rfl, (quotes_quote text).reads⟩
  | array elements ih =>
      rw [IsJson, isJsonElements_iff] at h
      exact readsBack_array fun element helement => ih element helement (h element helement)
  | object inherits fields ih =>
      rw [IsJson, isJsonFields_iff] at h
      rcases h with ⟨rfl, hordered, hfields⟩
      exact readsBack_object hordered fun field hfield => ih field hfield (hfields field hfield)

/-- A value comes back settled from its own text. -/
theorem parse_stringify {value : Value} (h : value.IsJson) :
    ∃ text, value.stringify = some text ∧ parse text = some value.settled := by
  rcases readsBack_of_isJson h with ⟨text, htext, hreads⟩
  exact ⟨text, htext, hreads.parse_eq⟩

end Value

end JavaScript
