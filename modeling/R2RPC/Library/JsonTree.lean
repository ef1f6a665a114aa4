import R2RPC.Library.JsonContext

/-!
# JSON text of another writer

Documents of which a program knows the structure and another library writes the leaves:
strings, numbers and whatever a caller has put in.  The reader parses the text and writes
it again in its own way, which may take more bytes or fewer.

Main results:

- Definition {lit}`Tree.encode`: the compact text, which is there when every leaf is.
- Definition {lit}`Wire.growth`: by how many bytes the reader's own text of a leaf is longer.
- Theorem {lit}`Tree.arrives`: what the reader gets, and what its text takes.

Current gaps:

- The writer puts no white space between the leaves.
-/

namespace JavaScript

open Utf16 Binary

/-! ## Wires -/

/-- How a text gets to its reader: as it is, or as bytes of UTF-8. -/
inductive Wire where
  | direct
  | utf8
deriving DecidableEq, Repr

namespace Wire

def carry : Wire → JsString → JsString
  | .direct, text => text
  | .utf8, text => throughUtf8 text

variable (wire : Wire)

@[simp]
theorem carry_nil : wire.carry [] = [] := by cases wire <;> rfl

theorem carry_append_cons {unit : UInt16} (h : isHalf unit = false) (text rest : JsString) :
    wire.carry (text ++ unit :: rest) = wire.carry text ++ unit :: wire.carry rest := by
  cases wire with
  | direct => rfl
  | utf8 => exact throughUtf8_append_cons h text rest

theorem carry_cons {unit : UInt16} (h : isHalf unit = false) (rest : JsString) :
    wire.carry (unit :: rest) = unit :: wire.carry rest := by
  simpa using wire.carry_append_cons h [] rest

theorem carry_length (text : JsString) : (wire.carry text).length = text.length := by
  cases wire with
  | direct => rfl
  | utf8 => exact throughUtf8_length text

/-- A text without surrogates arrives as it is. -/
theorem carry_of_plain {text : JsString} (h : ∀ unit ∈ text, isHalf unit = false) :
    wire.carry text = text := by
  induction text with
  | nil => exact wire.carry_nil
  | cons unit text ih =>
      rw [List.forall_mem_cons] at h
      rw [wire.carry_cons h.1, ih h.2]

theorem carry_join (texts : List JsString) :
    wire.carry (List.intercalate [44] texts) = List.intercalate [44] (texts.map wire.carry) := by
  induction texts with
  | nil => exact wire.carry_nil
  | cons text texts ih =>
      cases texts with
      | nil => simp
      | cons next texts =>
          rw [List.intercalate_cons_cons, List.append_assoc, List.singleton_append,
            wire.carry_append_cons (by decide), ih]
          simp [List.intercalate_cons_cons]

/-- By how many bytes a text is longer when its reader writes it again. -/
def growth (text : JsString) : Int :=
  (utf8Length 3 (((parse (wire.carry text)).bind Value.stringify).getD []) : Int) -
    utf8Length 1 text

end Wire

/-! ## Bytes of joined texts -/

theorem utf8Length_join (replacement : Nat) (texts : List JsString) :
    utf8Length replacement (List.intercalate [44] texts) =
      (texts.map (utf8Length replacement)).sum + (texts.length - 1) := by
  induction texts with
  | nil => rfl
  | cons text texts ih =>
      cases texts with
      | nil => simp
      | cons next texts =>
          have hcomma : utf8Length replacement [44] = 1 := by
            simp [utf8Length, codePoints, scalarBytes]
          rw [List.intercalate_cons_cons, List.append_assoc, List.singleton_append,
            utf8Length_append_cons (by decide), ih, hcomma]
          simp only [List.map_cons, List.sum_cons, List.length_cons]
          omega

/-- Joined texts between brackets. -/
def enclose (first last : UInt16) (texts : List JsString) : JsString :=
  first :: (List.intercalate [44] texts ++ [last])

theorem utf8Length_ascii {unit : UInt16} (h : unit.toNat < 128) (replacement : Nat) :
    utf8Length replacement [unit] = 1 := by
  simp [utf8Length, codePoints, scalarBytes, h]

theorem utf8Length_enclose {first last : UInt16} (hfirst : isHalf first = false)
    (hlast : isHalf last = false) (hsmall : first.toNat < 128 ∧ last.toNat < 128)
    (replacement : Nat) (texts : List JsString) :
    utf8Length replacement (enclose first last texts) =
      (texts.map (utf8Length replacement)).sum + (texts.length - 1) + 2 := by
  have hopen := utf8Length_append_cons hfirst replacement [] (List.intercalate [44] texts ++ [last])
  rw [List.nil_append, utf8Length_append_cons hlast, utf8Length_ascii hsmall.1,
    utf8Length_ascii hsmall.2, utf8Length_join] at hopen
  simp only [utf8Length_nil] at hopen
  rw [enclose]
  omega

/-! ## Documents -/

/-- A document; a leaf that its writer refuses has no text. -/
inductive Tree where
  | leaf (text : Option JsString)
  | array (elements : List Tree)
  | object (fields : List (JsString × Tree))

namespace Tree

/-- Induction over a document, with its elements and the values of its fields. -/
@[elab_as_elim, induction_eliminator]
theorem induction {P : Tree → Prop} (leaf : ∀ text, P (.leaf text))
    (array : ∀ elements, (∀ element ∈ elements, P element) → P (.array elements))
    (object : ∀ fields, (∀ field ∈ fields, P field.2) → P (.object fields)) : ∀ tree, P tree
  | .leaf text => leaf text
  | .array elements => array elements fun element _ => induction leaf array object element
  | .object fields => object fields fun field _ => induction leaf array object field.2
termination_by tree => tree
decreasing_by
  · have hsize := List.sizeOf_lt_of_mem ‹element ∈ elements›
    simp only [Tree.array.sizeOf_spec]
    omega
  · have hsize := List.sizeOf_lt_of_mem ‹field ∈ fields›
    cases field
    simp only [Prod.mk.sizeOf_spec, Tree.object.sizeOf_spec] at hsize ⊢
    omega

section

variable (quote : JsString → JsString)

mutual

/-- The compact text of a document. -/
def write : Tree → JsString
  | .leaf text => text.getD []
  | .array elements => enclose 91 93 (writeElements elements)
  | .object fields => enclose 123 125 (writeFields fields)

def writeElements : List Tree → List JsString
  | [] => []
  | element :: elements => write element :: writeElements elements

def writeFields : List (JsString × Tree) → List JsString
  | [] => []
  | (key, value) :: fields => (quote key ++ 58 :: write value) :: writeFields fields

end

mutual

/-- The texts that a document is put together from. -/
def leaves : Tree → List (Option JsString)
  | .leaf text => [text]
  | .array elements => leavesOfElements elements
  | .object fields => leavesOfFields fields

def leavesOfElements : List Tree → List (Option JsString)
  | [] => []
  | element :: elements => leaves element ++ leavesOfElements elements

def leavesOfFields : List (JsString × Tree) → List (Option JsString)
  | [] => []
  | (key, value) :: fields => some (quote key) :: (leaves value ++ leavesOfFields fields)

end

/-- The text of a document all of whose leaves are written. -/
def encode (tree : Tree) : Option JsString :=
  if (tree.leaves quote).all Option.isSome then some (tree.write quote) else none

end

section

variable (wire : Wire)

mutual

/-- What the reader gets. -/
def value : Tree → Value
  | .leaf text => (parse (wire.carry (text.getD []))).getD .null
  | .array elements => .array (valueOfElements elements)
  | .object fields => .object true (valueOfFields fields)

def valueOfElements : List Tree → List Value
  | [] => []
  | element :: elements => value element :: valueOfElements elements

def valueOfFields : List (JsString × Tree) → Fields
  | [] => []
  | (key, tree) :: fields => (key, value tree) :: valueOfFields fields

end

end

variable {quote : JsString → JsString} {wire : Wire}

theorem writeElements_eq (elements : List Tree) :
    writeElements quote elements = elements.map (write quote) := by
  induction elements with
  | nil => rfl
  | cons element elements ih => simp [writeElements, ih]

theorem writeFields_eq (fields : List (JsString × Tree)) :
    writeFields quote fields = fields.map fun field => quote field.1 ++ 58 :: write quote field.2 := by
  induction fields with
  | nil => rfl
  | cons field fields ih => simp [writeFields, ih]

theorem leavesOfElements_eq (elements : List Tree) :
    leavesOfElements quote elements = elements.flatMap (leaves quote) := by
  induction elements with
  | nil => rfl
  | cons element elements ih => simp [leavesOfElements, ih]

theorem leavesOfFields_eq (fields : List (JsString × Tree)) :
    leavesOfFields quote fields =
      fields.flatMap fun field => some (quote field.1) :: leaves quote field.2 := by
  induction fields with
  | nil => rfl
  | cons field fields ih => simp [leavesOfFields, ih]

theorem valueOfElements_eq (elements : List Tree) :
    valueOfElements wire elements = elements.map (value wire) := by
  induction elements with
  | nil => rfl
  | cons element elements ih => simp [valueOfElements, ih]

theorem valueOfFields_eq (fields : List (JsString × Tree)) :
    valueOfFields wire fields = fields.map fun field => (field.1, value wire field.2) := by
  induction fields with
  | nil => rfl
  | cons field fields ih => simp [valueOfFields, ih]

/-- By how many bytes a document is longer when its reader writes it again. -/
def growth (quote : JsString → JsString) (wire : Wire) (tree : Tree) : Int :=
  ((tree.leaves quote).map fun leaf => wire.growth (leaf.getD [])).sum

theorem growth_array (elements : List Tree) :
    growth quote wire (.array elements) = (elements.map (growth quote wire)).sum := by
  rw [growth, leaves, leavesOfElements_eq]
  induction elements with
  | nil => rfl
  | cons element elements ih => simp [growth, ih]

theorem growth_object (fields : List (JsString × Tree)) :
    growth quote wire (.object fields) =
      (fields.map fun field => wire.growth (quote field.1) + growth quote wire field.2).sum := by
  rw [growth, leaves, leavesOfFields_eq]
  induction fields with
  | nil => rfl
  | cons field fields ih => simp [growth, ih, add_assoc]

/-! ## What arrives -/

mutual

/-- The keys are quoted so that they arrive, and stand in property order. -/
def WellKeyed (quote : JsString → JsString) (wire : Wire) : Tree → Prop
  | .leaf _ => True
  | .array elements => ElementsWellKeyed quote wire elements
  | .object fields =>
      (fields.Pairwise fun field later => field.1 ≠ later.1 ∧ precedes later.1 field.1 = false) ∧
        FieldsWellKeyed quote wire fields

def ElementsWellKeyed (quote : JsString → JsString) (wire : Wire) : List Tree → Prop
  | [] => True
  | element :: elements =>
      WellKeyed quote wire element ∧ ElementsWellKeyed quote wire elements

def FieldsWellKeyed (quote : JsString → JsString) (wire : Wire) : List (JsString × Tree) → Prop
  | [] => True
  | (key, value) :: fields =>
      Quotes (wire.carry (quote key)) key ∧ WellKeyed quote wire value ∧
        FieldsWellKeyed quote wire fields

end

theorem elementsWellKeyed_iff {elements : List Tree} :
    ElementsWellKeyed quote wire elements ↔ ∀ element ∈ elements, WellKeyed quote wire element := by
  induction elements with
  | nil => simp [ElementsWellKeyed]
  | cons element elements ih => simp [ElementsWellKeyed, ih]

theorem fieldsWellKeyed_iff {fields : List (JsString × Tree)} :
    FieldsWellKeyed quote wire fields ↔
      ∀ field ∈ fields,
        Quotes (wire.carry (quote field.1)) field.1 ∧ WellKeyed quote wire field.2 := by
  induction fields with
  | nil => simp [FieldsWellKeyed]
  | cons field fields ih => simp [FieldsWellKeyed, ih, and_assoc]

/-- A leaf that is written, and that is JSON where it arrives. -/
def Readable (wire : Wire) (leaf : Option JsString) : Prop :=
  ∃ text value, leaf = some text ∧ parse (wire.carry text) = some value

end Tree

/-- The text arrives as the value, of which the reader's own text is longer by so much. -/
structure Arrives (wire : Wire) (text : JsString) (value : Value) (growth : Int) : Prop where
  stands : Stands (wire.carry text) value
  json : value.IsJson
  bytes : ∃ encoded, value.stringify = some encoded ∧
    (utf8Length 3 encoded : Int) = utf8Length 1 text + growth

/-- Where a text is JSON, it arrives as its value. -/
theorem arrives_of_parse {wire : Wire} {text : JsString} {value : Value}
    (h : parse (wire.carry text) = some value) : Arrives wire text value (wire.growth text) where
  stands := stands_of_parse h
  json := parse_isJson h
  bytes := by
    rcases Value.parse_stringify (parse_isJson h) with ⟨encoded, hencoded, -⟩
    refine ⟨encoded, hencoded, ?_⟩
    simp only [Wire.growth, h, Option.bind_some, hencoded, Option.getD_some]
    omega

/-- Texts between brackets grow by what each of them grows by. -/
theorem enclose_bytes {α : Type} {items : List α} {written again : α → JsString} {growth : α → Int}
    {first last : UInt16} (hfirst : isHalf first = false) (hlast : isHalf last = false)
    (hsmall : first.toNat < 128 ∧ last.toNat < 128)
    (h : ∀ item ∈ items, (utf8Length 3 (again item) : Int) =
      utf8Length 1 (written item) + growth item) :
    (utf8Length 3 (enclose first last (items.map again)) : Int) =
      utf8Length 1 (enclose first last (items.map written)) + (items.map growth).sum := by
  have hsum : (((items.map again).map (utf8Length 3)).sum : Int) =
      ((items.map written).map (utf8Length 1)).sum + (items.map growth).sum := by
    induction items with
    | nil => rfl
    | cons item items ih =>
        rw [List.forall_mem_cons] at h
        have hrest := ih h.2
        simp only [List.map_cons, List.sum_cons, Nat.cast_add, h.1]
        omega
  rw [utf8Length_enclose hfirst hlast hsmall, utf8Length_enclose hfirst hlast hsmall]
  simp only [List.length_map]
  omega

theorem carry_enclose (wire : Wire) {first last : UInt16} (hfirst : isHalf first = false)
    (hlast : isHalf last = false) (texts : List JsString) :
    wire.carry (enclose first last texts) = enclose first last (texts.map wire.carry) := by
  rw [enclose, wire.carry_cons hfirst, wire.carry_append_cons hlast, wire.carry_join,
    wire.carry_nil, enclose]

namespace Tree

variable {quote : JsString → JsString} {wire : Wire}

theorem arrives_array {elements : List Tree}
    (h : ∀ element ∈ elements,
      Arrives wire (write quote element) (value wire element) (growth quote wire element)) :
    Arrives wire (write quote (.array elements)) (value wire (.array elements))
      (growth quote wire (.array elements)) where
  stands := by
    rw [write, writeElements_eq, value, valueOfElements_eq, carry_enclose wire (by decide) (by decide),
      List.map_map]
    refine (reads_array ?_).stands
    rw [List.forall₂_map_left_iff, List.forall₂_map_right_iff, List.forall₂_same]
    exact fun element helement => (h element helement).stands
  json := by
    rw [value, valueOfElements_eq, Value.IsJson, Value.isJsonElements_iff, List.forall_mem_map]
    exact fun element helement => (h element helement).json
  bytes := by
    refine ⟨_, by rw [value, Value.stringify], ?_⟩
    rw [Value.stringifyElements_eq, valueOfElements_eq, List.map_map, write, writeElements_eq,
      growth_array]
    refine enclose_bytes (by decide) (by decide) (by decide) fun element helement => ?_
    rcases (h element helement).bytes with ⟨encoded, hencoded, hbytes⟩
    rw [Function.comp_apply, hencoded]
    exact hbytes

/-- A key arrives as the string that it is. -/
theorem arrives_key {key : JsString} (h : Quotes (wire.carry (quote key)) key) :
    Arrives wire (quote key) (.string key) (wire.growth (quote key)) :=
  arrives_of_parse h.reads.parse_eq

theorem arrives_object {fields : List (JsString × Tree)}
    (hordered : fields.Pairwise fun field later =>
      field.1 ≠ later.1 ∧ precedes later.1 field.1 = false)
    (hkeys : ∀ field ∈ fields, Quotes (wire.carry (quote field.1)) field.1)
    (h : ∀ field ∈ fields,
      Arrives wire (write quote field.2) (value wire field.2) (growth quote wire field.2)) :
    Arrives wire (write quote (.object fields)) (value wire (.object fields))
      (growth quote wire (.object fields)) where
  stands := by
    have hfields : Ordered (valueOfFields wire fields) := by
      rw [valueOfFields_eq, Ordered, List.pairwise_map]
      exact hordered
    rw [write, writeFields_eq, value, ← foldl_setField hfields, valueOfFields_eq,
      carry_enclose wire (by decide) (by decide), List.map_map]
    refine (reads_object ?_).stands
    rw [List.forall₂_map_left_iff, List.forall₂_map_right_iff, List.forall₂_same]
    intro field hfield
    exact ⟨_, _, wire.carry_append_cons (by decide) _ _, hkeys field hfield, (h field hfield).stands⟩
  json := by
    rw [value, valueOfFields_eq, Value.IsJson, Value.isJsonFields_iff, List.forall_mem_map, Ordered,
      List.pairwise_map]
    exact ⟨rfl, hordered, fun field hfield => (h field hfield).json⟩
  bytes := by
    have hmembers : Value.stringifyFields (valueOfFields wire fields) = fields.map fun field =>
        JavaScript.quote field.1 ++ 58 :: ((value wire field.2).stringify.getD []) := by
      rw [Value.stringifyFields_eq, valueOfFields_eq, List.filterMap_map, ← List.filterMap_eq_map]
      refine List.filterMap_congr fun field hfield => ?_
      rcases (h field hfield).bytes with ⟨encoded, hencoded, -⟩
      simp [hencoded]
    refine ⟨_, by rw [value, Value.stringify], ?_⟩
    rw [hmembers, write, writeFields_eq, growth_object]
    refine enclose_bytes (by decide) (by decide) (by decide) fun field hfield => ?_
    rcases (h field hfield).bytes with ⟨encoded, hencoded, hbytes⟩
    rcases (arrives_key (hkeys field hfield)).bytes with ⟨key, hkey, hkeyBytes⟩
    obtain rfl : JavaScript.quote field.1 = key := Option.some.inj hkey
    rw [hencoded, Option.getD_some, utf8Length_append_cons (by decide),
      utf8Length_append_cons (by decide), utf8Length_ascii (by decide), utf8Length_ascii (by decide)]
    omega

/-- What the reader gets from the text of a document, and how long its own text of it is. -/
theorem arrives {tree : Tree} (hleaves : ∀ leaf ∈ tree.leaves quote, Readable wire leaf)
    (hkeys : tree.WellKeyed quote wire) :
    Arrives wire (tree.write quote) (tree.value wire) (tree.growth quote wire) := by
  induction tree with
  | leaf text =>
      rcases hleaves text (by simp [leaves]) with ⟨text, value, rfl, hvalue⟩
      simpa [write, Tree.value, growth, leaves, hvalue] using arrives_of_parse hvalue
  | array elements ih =>
      rw [WellKeyed, elementsWellKeyed_iff] at hkeys
      refine arrives_array fun element helement => ih element helement ?_ (hkeys element helement)
      intro leaf hleaf
      refine hleaves leaf ?_
      rw [leaves, leavesOfElements_eq]
      exact List.mem_flatMap.mpr ⟨element, helement, hleaf⟩
  | object fields ih =>
      rw [WellKeyed, fieldsWellKeyed_iff] at hkeys
      refine arrives_object hkeys.1 (fun field hfield => (hkeys.2 field hfield).1)
        fun field hfield => ih field hfield ?_ (hkeys.2 field hfield).2
      intro leaf hleaf
      refine hleaves leaf ?_
      rw [leaves, leavesOfFields_eq]
      exact List.mem_flatMap.mpr ⟨field, hfield, List.mem_cons_of_mem _ hleaf⟩

end Tree

/-! ## A writer that escapes no surrogates -/

/-- A code unit of a quoted string. -/
def printUnit (unit : UInt16) : JsString := if isHalf unit then [unit] else escapeUnit unit

def printQuoted (text : JsString) : JsString := 34 :: (text.flatMap printUnit ++ [34])

theorem not_isHalf_of_lt {unit : UInt16} (h : unit < 128) : isHalf unit = false := by
  have hlow : unit.toNat < 128 := UInt16.lt_iff_toNat_lt.mp h
  have hhigh : (0xD800 : UInt16).toNat = 55296 := rfl
  have hhigh' : (0xDC00 : UInt16).toNat = 56320 := rfl
  simp only [isHalf, isLead, isTrail, Bool.or_eq_false_iff, Bool.and_eq_false_iff,
    decide_eq_false_iff_not, UInt16.le_iff_toNat_le]
  omega

theorem hexDigit_lt {n : Nat} (h : n < 16) : hexDigit n < 128 := by
  have hall : ∀ n : Fin 16, hexDigit n.val < 128 := by decide
  exact hall ⟨n, h⟩

/-- An escape is written with ASCII; what is not escaped is no surrogate. -/
theorem not_isHalf_escapeUnit {unit : UInt16} (hunit : isHalf unit = false) :
    ∀ written ∈ escapeUnit unit, isHalf written = false := by
  have hlt := unit.toNat_lt
  unfold escapeUnit
  split_ifs with _ _ _ _ _ _ _ hescaped
  any_goals decide
  · simp only [unicodeEscape, List.forall_mem_cons, List.not_mem_nil, false_implies, implies_true,
      and_true]
    exact ⟨by decide, by decide, not_isHalf_of_lt (hexDigit_lt (by omega)),
      not_isHalf_of_lt (hexDigit_lt (by omega)), not_isHalf_of_lt (hexDigit_lt (by omega)),
      not_isHalf_of_lt (hexDigit_lt (by omega))⟩
  · simpa using hunit

theorem throughUtf8_append_plain {text : JsString} (h : ∀ unit ∈ text, isHalf unit = false)
    (rest : JsString) : throughUtf8 (text ++ rest) = text ++ throughUtf8 rest := by
  induction text with
  | nil => rfl
  | cons unit text ih =>
      rw [List.forall_mem_cons] at h
      rw [List.cons_append, throughUtf8_cons (isLead_of_not_isHalf h.1), h.1, ih h.2]
      rfl

theorem throughUtf8_cons_half {unit : UInt16} {rest : JsString} (hunit : isHalf unit = true)
    (hrest : isLead unit = true → ∀ next ∈ rest.head?, isTrail next = false) :
    throughUtf8 (unit :: rest) = 63 :: throughUtf8 rest := by
  cases rest with
  | nil => simp [throughUtf8, hunit]
  | cons next rest =>
      have hpair : (isLead unit && isTrail next) = false := by
        cases hlead : isLead unit with
        | false => rfl
        | true => exact hrest hlead next rfl
      simp [throughUtf8, hpair, hunit]

theorem printUnit_of_half {unit : UInt16} (h : isHalf unit = true) : printUnit unit = [unit] :=
  if_pos h

theorem printUnit_of_plain {unit : UInt16} (h : isHalf unit = false) :
    printUnit unit = escapeUnit unit :=
  if_neg (by simp [h])

theorem escapeUnit_ne_nil (unit : UInt16) : escapeUnit unit ≠ [] := by
  unfold escapeUnit
  split_ifs <;> simp [unicodeEscape]

/-- What is written for a code unit completes no pair that the code unit does not. -/
theorem printUnit_head {unit : UInt16} (h : isTrail unit = false) (rest : JsString) :
    ∀ head ∈ (printUnit unit ++ rest).head?, isTrail head = false := by
  intro head hhead
  cases hunit : isHalf unit with
  | true =>
      rw [printUnit_of_half hunit] at hhead
      exact (Option.some.inj hhead) ▸ h
  | false =>
      rw [printUnit_of_plain hunit] at hhead
      have hplain := not_isHalf_escapeUnit hunit
      cases hescape : escapeUnit unit with
      | nil => exact absurd hescape (escapeUnit_ne_nil unit)
      | cons first escape =>
          rw [hescape] at hhead hplain
          obtain rfl : first = head := Option.some.inj hhead
          exact isTrail_of_not_isHalf (hplain first List.mem_cons_self)

/-- Escapes and lone surrogates do not meet on the way. -/
theorem throughUtf8_print (text : JsString) :
    throughUtf8 (text.flatMap printUnit) = (throughUtf8 text).flatMap printUnit := by
  have hquestion : printUnit 63 = [63] := by decide
  induction text using throughUtf8.induct with
  | case1 => rfl
  | case2 unit =>
      rw [List.flatMap_singleton]
      cases hunit : isHalf unit with
      | true => simp [printUnit_of_half hunit, throughUtf8, hunit, hquestion]
      | false =>
          have hplain := throughUtf8_append_plain (not_isHalf_escapeUnit hunit) []
          simpa [printUnit_of_plain hunit, throughUtf8, hunit] using hplain
  | case3 unit next rest hpair ih =>
      rw [Bool.and_eq_true] at hpair
      have hunit : isHalf unit = true := by simp [isHalf, hpair.1]
      have hnext : isHalf next = true := by simp [isHalf, hpair.2]
      simp only [List.flatMap_cons, printUnit_of_half hunit, printUnit_of_half hnext,
        List.singleton_append, throughUtf8, hpair, Bool.and_self, if_true, ih]
  | case4 unit next rest hpair ih =>
      rw [throughUtf8, if_neg hpair, List.flatMap_cons]
      cases hunit : isHalf unit with
      | false =>
          rw [printUnit_of_plain hunit, throughUtf8_append_plain (not_isHalf_escapeUnit hunit), ih,
            if_neg Bool.false_ne_true, List.flatMap_cons, printUnit_of_plain hunit]
      | true =>
          have hhead : isLead unit = true →
              ∀ head ∈ ((next :: rest).flatMap printUnit).head?, isTrail head = false := by
            intro hlead
            rw [List.flatMap_cons]
            exact printUnit_head (by simpa [hlead] using hpair) _
          rw [printUnit_of_half hunit, List.singleton_append, throughUtf8_cons_half hunit hhead, ih,
            if_pos rfl, List.flatMap_cons, hquestion, List.singleton_append]

theorem readString_print (text rest : JsString) :
    readString .plain (text.flatMap printUnit ++ 34 :: rest) = some (text, rest) := by
  induction text with
  | nil => simp [readString]
  | cons unit text ih =>
      rw [List.flatMap_cons, List.append_assoc]
      cases hunit : isHalf unit with
      | true =>
          rw [printUnit_of_half hunit, List.singleton_append,
            readString_surrogate (Bool.or_eq_true_iff.mp hunit), ih]
          rfl
      | false =>
          rw [printUnit_of_plain hunit, readString_escapeUnit, ih]
          rfl

/-- A quoted string arrives as what the wire makes of the string. -/
theorem quotes_printQuoted (wire : Wire) (text : JsString) :
    Quotes (wire.carry (printQuoted text)) (wire.carry text) := by
  rw [printQuoted, wire.carry_cons (by decide), wire.carry_append_cons (by decide), wire.carry_nil]
  cases wire with
  | direct => exact ⟨_, rfl, readString_print text⟩
  | utf8 =>
      refine ⟨_, rfl, fun rest => ?_⟩
      rw [Wire.carry, throughUtf8_print]
      exact readString_print (throughUtf8 text) rest

/-! ## Whole numbers -/

theorem reads_decimal (n : Nat) : Reads (decimal n) (.number (ofDecimal binary64 false n 0)) := by
  refine reads_number fun rest hrest => ?_
  have hwhole : isWhole (decimal n) = true := by
    rcases Nat.eq_zero_or_pos n with rfl | hpos
    · decide
    · simpa using isWhole_of_head (decimal_ne_nil n) (decimal_head hpos) []
  have hread : readNumber binary64 (literal false (decimal n) [] none ++ rest) =
      some (ofDecimal binary64 false (digitsValue (decimal n ++ [])) 0, rest) :=
    readNumber_literal (fun _ => isDigit_of_mem_decimal) hwhole (by simp) hrest
  simpa [literal, fractionText, exponentText, digitsValue_decimal] using hread

theorem carry_decimal (wire : Wire) (n : Nat) : wire.carry (decimal n) = decimal n := by
  refine wire.carry_of_plain fun unit hunit => not_isHalf_of_lt ?_
  have hdigit := isDigit_of_mem_decimal hunit
  simp only [isDigit, Bool.and_eq_true, decide_eq_true_eq, UInt16.le_iff_toNat_le] at hdigit
  rw [UInt16.lt_iff_toNat_lt]
  exact lt_of_le_of_lt hdigit.2 (by decide)

end JavaScript
