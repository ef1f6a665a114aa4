import R2RPC.Library.NumberText

/-!
# Values of ECMAScript and their JSON text

Values as a program sees them after {lit}`JSON.parse`, with the two kinds that JSON does
not have.  The fields of an object stand in the order in which the language lists them:
array indices in ascending order, then the other keys as they were created.

Main results:

- Definition {lit}`Value.stringify`: the text of {lit}`JSON.stringify`.
- Definition {lit}`setField`: a property assignment, with its place in the order.
- Theorem {lit}`setField_of_ordered`: the last field of a list in property order is
  put there by its assignment.

Current gaps:

- No symbols, no accessors but {lit}`__proto__`, and no {lit}`toJSON`.
- The methods of {lit}`Array.prototype` read as {lit}`undefined`.
-/

namespace JavaScript

open Utf16 Binary

abbrev JsNumber := Number binary64

/-- A value; an object says whether it inherits from `Object.prototype`. -/
inductive Value where
  | undefined
  | null
  | boolean (value : Bool)
  | number (value : JsNumber)
  | string (text : JsString)
  | array (elements : List Value)
  | object (inherits : Bool) (fields : List (JsString × Value))
  | function

abbrev Fields := List (JsString × Value)

/-! ## Property order -/

/-- An array index as a property key. -/
def arrayIndex (key : JsString) : Option Nat :=
  if key.all isDigit && isWhole key && decide (digitsValue key < 4294967295) then
    some (digitsValue key)
  else none

/-- A new key stands before an old one. -/
def precedes (new old : JsString) : Bool :=
  match arrayIndex new, arrayIndex old with
  | some i, some j => decide (i < j)
  | some _, none => true
  | none, _ => false

/-- Where a new key goes. -/
def insertField (key : JsString) (value : Value) : Fields → Fields
  | [] => [(key, value)]
  | field :: fields =>
      if precedes key field.1 then (key, value) :: field :: fields
      else field :: insertField key value fields

/-- Assignment to an own property. -/
def setField (fields : Fields) (key : JsString) (value : Value) : Fields :=
  if fields.any (·.1 == key) then
    fields.map fun field => if field.1 == key then (key, value) else field
  else insertField key value fields

/-- The own property of this key. -/
def lookup (fields : Fields) (key : JsString) : Option Value :=
  (fields.find? (·.1 == key)).map (·.2)

/-- Keys as an object lists them. -/
def Ordered (fields : Fields) : Prop :=
  fields.Pairwise fun field later => field.1 ≠ later.1 ∧ precedes later.1 field.1 = false

/-- The order is one of the keys. -/
theorem ordered_of_keys {fields : Fields}
    (h : (fields.map (·.1)).Pairwise fun key later => key ≠ later ∧ precedes later key = false) :
    Ordered fields := List.pairwise_map.mp h

theorem insertField_last {key : JsString} {value : Value} {fields : Fields}
    (h : ∀ field ∈ fields, precedes key field.1 = false) :
    insertField key value fields = fields ++ [(key, value)] := by
  induction fields with
  | nil => rfl
  | cons field fields ih =>
      have hfield := h field (by simp)
      rw [insertField, hfield, ih fun other hother => h other (by simp [hother])]
      simp

theorem mem_insertField_iff {key : JsString} {value : Value} {fields : Fields}
    {field : JsString × Value} :
    field ∈ insertField key value fields ↔ field = (key, value) ∨ field ∈ fields := by
  induction fields with
  | nil => simp [insertField]
  | cons first fields ih =>
      rw [insertField]
      split
      · simp
      · simp only [List.mem_cons, ih]
        grind

/-- An assignment brings in no other field. -/
theorem mem_setField {key : JsString} {value : Value} {fields : Fields}
    {field : JsString × Value} (h : field ∈ setField fields key value) :
    field = (key, value) ∨ field ∈ fields := by
  rw [setField] at h
  split_ifs at h with hold
  · rcases List.mem_map.mp h with ⟨other, hother, rfl⟩
    by_cases hkey : other.1 == key
    · exact Or.inl (by simp [hkey])
    · exact Or.inr (by simpa [hkey] using hother)
  · exact mem_insertField_iff.mp h

/-- The assigned field is there. -/
theorem mem_setField_self (fields : Fields) (key : JsString) (value : Value) :
    (key, value) ∈ setField fields key value := by
  rw [setField]
  split
  · next hold =>
    rcases List.any_eq_true.mp hold with ⟨field, hfield, hkey⟩
    exact List.mem_map.mpr ⟨field, hfield, if_pos hkey⟩
  · exact mem_insertField_iff.mpr (Or.inl rfl)

/-- Other fields stay. -/
theorem mem_setField_of_ne {fields : Fields} {key : JsString} {field : JsString × Value}
    (h : field ∈ fields) (hkey : field.1 ≠ key) (value : Value) :
    field ∈ setField fields key value := by
  rw [setField]
  split
  · exact List.mem_map.mpr ⟨field, h, if_neg (by simpa using hkey)⟩
  · exact mem_insertField_iff.mpr (Or.inr h)

/-- The last field of a list in property order is put there by its assignment. -/
theorem setField_of_ordered {fields : Fields} {key : JsString} {value : Value}
    (h : Ordered (fields ++ [(key, value)])) :
    setField fields key value = fields ++ [(key, value)] := by
  have hlast : ∀ field ∈ fields, field.1 ≠ key ∧ precedes key field.1 = false :=
    fun field hfield => (List.pairwise_append.mp h).2.2 field hfield (key, value) (by simp)
  have hnew : fields.any (·.1 == key) = false := by
    rw [List.any_eq_false]
    intro field hfield
    simpa using (hlast field hfield).1
  rw [setField, hnew]
  exact insertField_last fun field hfield => (hlast field hfield).2

theorem precedes_eq_true {new old : JsString} :
    precedes new old = true ↔
      ∃ i, arrayIndex new = some i ∧ ∀ j, arrayIndex old = some j → i < j := by
  unfold precedes
  cases arrayIndex new <;> cases arrayIndex old <;> simp

theorem ordered_insertField {fields : Fields} {key : JsString} {value : Value}
    (h : Ordered fields) (hnew : ∀ field ∈ fields, field.1 ≠ key) :
    Ordered (insertField key value fields) := by
  induction fields with
  | nil => exact List.pairwise_singleton _ _
  | cons first fields ih =>
      rcases List.pairwise_cons.mp h with ⟨hfirst, hrest⟩
      rw [insertField]
      split
      · rename_i hbefore
        refine List.pairwise_cons.mpr ⟨?_, h⟩
        rcases precedes_eq_true.mp hbefore with ⟨i, hi, hlt⟩
        -- what stands behind the first field has no smaller index than the new key
        have hback : ∀ field ∈ first :: fields, precedes field.1 key = false := by
          intro field hfield
          rw [Bool.eq_false_iff, ne_eq, precedes_eq_true]
          rintro ⟨j, hj, hless⟩
          have hji := hless i hi
          rcases List.mem_cons.mp hfield with rfl | hfield
          · have hij := hlt j hj
            omega
          · have hlater := (hfirst field hfield).2
            rw [Bool.eq_false_iff, ne_eq, precedes_eq_true] at hlater
            exact hlater ⟨j, hj, fun k hk => lt_trans hji (hlt k hk)⟩
        exact fun field hfield => ⟨(hnew field hfield).symm, hback field hfield⟩
      · rename_i hbehind
        refine List.pairwise_cons.mpr ⟨?_, ih hrest fun field hfield => hnew field (by simp [hfield])⟩
        intro field hfield
        rcases mem_insertField_iff.mp hfield with rfl | hfield
        · exact ⟨hnew first (by simp), by simpa using hbehind⟩
        · exact hfirst field hfield

/-- An assignment keeps the fields in property order. -/
theorem ordered_setField {fields : Fields} (h : Ordered fields) (key : JsString) (value : Value) :
    Ordered (setField fields key value) := by
  rw [setField]
  split
  · have hkeys : (fields.map fun field => if field.1 == key then (key, value) else field).map (·.1) =
        fields.map (·.1) := by
      rw [List.map_map]
      refine List.map_congr_left fun field _ => ?_
      by_cases hkey : field.1 = key <;> simp [hkey]
    have hpairwise : (fields.map (·.1)).Pairwise fun key later =>
        key ≠ later ∧ precedes later key = false := List.pairwise_map.mpr h
    rw [← hkeys] at hpairwise
    exact List.pairwise_map.mp hpairwise
  · rename_i hnew
    refine ordered_insertField h fun field hfield hkey => hnew ?_
    exact List.any_eq_true.mpr ⟨field, hfield, by simpa using hkey⟩

/-! ## Property access -/

/-- Keys that every object literal inherits from `Object.prototype`; all of them hold
functions, but for the accessor `__proto__`. -/
def objectPrototypeKeys : List JsString :=
  [lit "constructor", lit "__defineGetter__", lit "__defineSetter__", lit "hasOwnProperty",
    lit "__lookupGetter__", lit "__lookupSetter__", lit "isPrototypeOf",
    lit "propertyIsEnumerable", lit "toString", lit "valueOf", lit "__proto__",
    lit "toLocaleString"]

/-- What an object literal inherits under a key. -/
def inherited (key : JsString) : Value :=
  if key = lit "__proto__" then
    .object false (objectPrototypeKeys.map fun key =>
      (key, if key = lit "__proto__" then .null else .function))
  else if key ∈ objectPrototypeKeys then .function
  else .undefined

namespace Value

/-- `value[key]` of an object or an array. -/
def get (value : Value) (key : JsString) : Value :=
  match value with
  | .object inherits fields =>
      (lookup fields key).getD (if inherits then inherited key else .undefined)
  | .array elements =>
      match arrayIndex key with
      | some index => elements[index]?.getD .undefined
      | none =>
          if key = lit "length" then .number (ofDecimal binary64 false elements.length 0)
          else if key = lit "__proto__" then .array []
          else inherited key
  | _ => .undefined

/-- `typeof value === 'object' && value !== null`. -/
def isObject : Value → Bool
  | .object _ _ => true
  | .array _ => true
  | _ => false

theorem get_of_not_isObject {value : Value} (h : value.isObject = false) (key : JsString) :
    value.get key = .undefined := by
  cases value <;> first | rfl | exact absurd h (by simp [isObject])

/-- `value === undefined`. -/
def isUndefined : Value → Bool
  | .undefined => true
  | _ => false

end Value

/-- `record[key] = value` on an object literal, as its own fields show it: `__proto__` is an
accessor there. -/
def assignField (fields : Fields) (key : JsString) (value : Value) : Fields :=
  if key = lit "__proto__" then fields else setField fields key value

theorem mem_assignField {key : JsString} {value : Value} {fields : Fields}
    {field : JsString × Value} (h : field ∈ assignField fields key value) :
    field = (key, value) ∨ field ∈ fields := by
  rw [assignField] at h
  split_ifs at h with hkey
  · exact Or.inr h
  · exact mem_setField h

theorem mem_assignField_self {key : JsString} (hkey : key ≠ lit "__proto__") (fields : Fields)
    (value : Value) : (key, value) ∈ assignField fields key value := by
  rw [assignField, if_neg hkey]
  exact mem_setField_self fields key value

theorem mem_assignField_of_ne {fields : Fields} {key : JsString} {field : JsString × Value}
    (h : field ∈ fields) (hkey : field.1 ≠ key) (value : Value) :
    field ∈ assignField fields key value := by
  rw [assignField]
  split
  · exact h
  · exact mem_setField_of_ne h hkey value

/-! ## `JSON.stringify` -/

/-- A lower case hexadecimal digit. -/
def hexDigit (n : Nat) : UInt16 := (if n < 10 then 48 + n else 87 + n).toUInt16

/-- `UnicodeEscape`. -/
def unicodeEscape (unit : UInt16) : JsString :=
  [92, 117, hexDigit (unit.toNat / 4096), hexDigit (unit.toNat / 256 % 16),
    hexDigit (unit.toNat / 16 % 16), hexDigit (unit.toNat % 16)]

/-- A code unit of a JSON string that is not half of a pair. -/
def escapeUnit (unit : UInt16) : JsString :=
  if unit = 8 then [92, 98]
  else if unit = 9 then [92, 116]
  else if unit = 10 then [92, 110]
  else if unit = 12 then [92, 102]
  else if unit = 13 then [92, 114]
  else if unit = 34 then [92, 34]
  else if unit = 92 then [92, 92]
  else if unit < 32 || isLead unit || isTrail unit then unicodeEscape unit
  else [unit]

/-- The inside of `QuoteJSONString`. -/
def escape : JsString → JsString
  | [] => []
  | [unit] => escapeUnit unit
  | unit :: next :: rest =>
      if isLead unit && isTrail next then unit :: next :: escape rest
      else escapeUnit unit ++ escape (next :: rest)

/-- `QuoteJSONString`. -/
def quote (text : JsString) : JsString := 34 :: (escape text ++ [34])

/-- `SerializeJSONProperty` of a number. -/
def numberJson (n : JsNumber) : JsString :=
  match n with
  | .finite _ _ => n.text
  | _ => lit "null"

namespace Value

mutual

/-- `JSON.stringify`; nothing for what JSON leaves out. -/
def stringify : Value → Option JsString
  | .undefined => none
  | .function => none
  | .null => some (lit "null")
  | .boolean value => some (if value then lit "true" else lit "false")
  | .number value => some (numberJson value)
  | .string text => some (quote text)
  | .array elements => some (91 :: (List.intercalate [44] (stringifyElements elements) ++ [93]))
  | .object _ fields => some (123 :: (List.intercalate [44] (stringifyFields fields) ++ [125]))

/-- `SerializeJSONArray`: what JSON leaves out is `null` here. -/
def stringifyElements : List Value → List JsString
  | [] => []
  | element :: elements =>
      (stringify element).getD (lit "null") :: stringifyElements elements

/-- `SerializeJSONObject`. -/
def stringifyFields : List (JsString × Value) → List JsString
  | [] => []
  | (key, value) :: fields =>
      match stringify value with
      | none => stringifyFields fields
      | some text => (quote key ++ 58 :: text) :: stringifyFields fields

end

mutual

/-- A value that JSON can write: nothing is left out, and fields are in order. -/
def IsJson : Value → Prop
  | .undefined => False
  | .function => False
  | .array elements => IsJsonElements elements
  | .object inherits fields => inherits = true ∧ Ordered fields ∧ IsJsonFields fields
  | _ => True

def IsJsonElements : List Value → Prop
  | [] => True
  | element :: elements => IsJson element ∧ IsJsonElements elements

def IsJsonFields : List (JsString × Value) → Prop
  | [] => True
  | (_, value) :: fields => IsJson value ∧ IsJsonFields fields

end

mutual

/-- What a round trip through JSON text leaves of a value. -/
def settled : Value → Value
  | .number (.finite negative m) => .number (Number.settled (.finite negative m))
  | .number _ => .null
  | .array elements => .array (settledElements elements)
  | .object inherits fields => .object inherits (settledFields fields)
  | value => value

def settledElements : List Value → List Value
  | [] => []
  | element :: elements => settled element :: settledElements elements

def settledFields : List (JsString × Value) → List (JsString × Value)
  | [] => []
  | (key, value) :: fields => (key, settled value) :: settledFields fields

end

/-- Induction over a value, with its elements and the values of its fields. -/
@[elab_as_elim, induction_eliminator]
theorem induction {P : Value → Prop} (undefined : P .undefined) (null : P .null)
    (boolean : ∀ value, P (.boolean value)) (number : ∀ value, P (.number value))
    (string : ∀ text, P (.string text))
    (array : ∀ elements, (∀ element ∈ elements, P element) → P (.array elements))
    (object : ∀ inherits fields, (∀ field ∈ fields, P field.2) → P (.object inherits fields))
    (function : P .function) : ∀ value, P value
  | .undefined => undefined
  | .null => null
  | .boolean value => boolean value
  | .number value => number value
  | .string text => string text
  | .array elements => array elements fun element _ =>
      induction undefined null boolean number string array object function element
  | .object inherits fields => object inherits fields fun field _ =>
      induction undefined null boolean number string array object function field.2
  | .function => function
termination_by value => value
decreasing_by
  · have hsize := List.sizeOf_lt_of_mem ‹element ∈ elements›
    simp only [Value.array.sizeOf_spec]
    omega
  · have hsize := List.sizeOf_lt_of_mem ‹field ∈ fields›
    cases field
    simp only [Prod.mk.sizeOf_spec, Value.object.sizeOf_spec] at hsize ⊢
    omega

theorem isJsonElements_iff {elements : List Value} :
    IsJsonElements elements ↔ ∀ element ∈ elements, IsJson element := by
  induction elements with
  | nil => simp [IsJsonElements]
  | cons element elements ih => simp [IsJsonElements, ih]

theorem isJsonFields_iff {fields : Fields} :
    IsJsonFields fields ↔ ∀ field ∈ fields, IsJson field.2 := by
  induction fields with
  | nil => simp [IsJsonFields]
  | cons field fields ih => simp [IsJsonFields, ih]

theorem settledElements_eq (elements : List Value) :
    settledElements elements = elements.map settled := by
  induction elements with
  | nil => rfl
  | cons element elements ih => simp [settledElements, ih]

theorem settledFields_eq (fields : Fields) :
    settledFields fields = fields.map fun field => (field.1, settled field.2) := by
  induction fields with
  | nil => rfl
  | cons field fields ih => simp [settledFields, ih]

theorem settled_object (inherits : Bool) (fields : Fields) :
    (Value.object inherits fields).settled =
      .object inherits (fields.map fun field => (field.1, field.2.settled)) := by
  rw [settled, settledFields_eq]

theorem stringifyElements_eq (elements : List Value) :
    stringifyElements elements =
      elements.map fun element => (stringify element).getD (lit "null") := by
  induction elements with
  | nil => rfl
  | cons element elements ih => simp [stringifyElements, ih]

theorem stringifyFields_eq (fields : Fields) :
    stringifyFields fields =
      fields.filterMap fun field =>
        (stringify field.2).map fun text => quote field.1 ++ 58 :: text := by
  induction fields with
  | nil => rfl
  | cons field fields ih =>
      rw [stringifyFields, List.filterMap_cons, ih]
      cases stringify field.2 <;> rfl

theorem numberJson_settled (negative : Bool) (m : Magnitude binary64) :
    numberJson (Number.settled (.finite negative m)) = numberJson (.finite negative m) := by
  by_cases hzero : m.units = 0
  · simp [numberJson, Number.settled, Number.text, hzero]
  · have hsign : (negative && m.units != 0) = negative := by simp [hzero]
    simp only [Number.settled, hsign]

/-- A settled value has the text of the value. -/
theorem stringify_settled (value : Value) : value.settled.stringify = value.stringify := by
  induction value with
  | number value =>
      cases value with
      | finite negative m =>
          rw [settled, stringify, numberJson_settled, stringify]
      | nan => rfl
      | infinity negative => rfl
  | array elements ih =>
      have helements : stringifyElements (settledElements elements) =
          stringifyElements elements := by
        rw [settledElements_eq, stringifyElements_eq, stringifyElements_eq, List.map_map]
        exact List.map_congr_left fun element helement => by
          rw [Function.comp_apply, ih element helement]
      rw [settled, stringify, stringify, helements]
  | object inherits fields ih =>
      have hfields : stringifyFields (settledFields fields) = stringifyFields fields := by
        rw [settledFields_eq, stringifyFields_eq, stringifyFields_eq, List.filterMap_map]
        exact List.filterMap_congr fun field hfield => by
          rw [Function.comp_apply, ih field hfield]
      rw [settled, stringify, stringify, hfields]
  | _ => rfl

/-! ### No NUL -/

theorem hexDigit_ne_zero {n : Nat} (h : n < 16) : hexDigit n ≠ 0 := by
  revert n
  decide

theorem nulFree_escapeUnit (unit : UInt16) : nulFree (escapeUnit unit) = true := by
  unfold escapeUnit
  split_ifs with _ _ _ _ _ _ _ hescaped
  any_goals decide
  · have hunit := unit.toNat_lt
    simp only [unicodeEscape, nulFree_cons, nulFree_nil, Bool.and_true, Bool.and_eq_true, bne_iff_ne]
    exact ⟨by decide, by decide, hexDigit_ne_zero (by omega), hexDigit_ne_zero (by omega),
      hexDigit_ne_zero (by omega), hexDigit_ne_zero (by omega)⟩
  · simp only [nulFree_cons, nulFree_nil, Bool.and_true, bne_iff_ne]
    rintro rfl
    exact absurd hescaped (by decide)

theorem nulFree_escape (text : JsString) : nulFree (escape text) = true := by
  induction text using escape.induct with
  | case1 => rfl
  | case2 unit => exact nulFree_escapeUnit unit
  | case3 unit next rest hpair ih =>
      have hlead : unit ≠ 0 := by
        rintro rfl
        exact absurd hpair (by simp [isLead])
      have htrail : next ≠ 0 := by
        rintro rfl
        exact absurd hpair (by simp [isTrail])
      simp [escape, hpair, hlead, htrail, ih]
  | case4 unit next rest hpair ih =>
      simp [escape, hpair, nulFree_escapeUnit, ih]

theorem nulFree_quote (text : JsString) : nulFree (quote text) = true := by
  simp [quote, nulFree_escape]

/-- JSON text has no NUL, whatever the value holds. -/
theorem nulFree_stringify {value : Value} {text : JsString} (h : stringify value = some text) :
    nulFree text = true := by
  induction value generalizing text with
  | undefined => simp [stringify] at h
  | function => simp [stringify] at h
  | null =>
      simp only [stringify, Option.some.injEq] at h
      subst h
      decide
  | boolean value =>
      simp only [stringify, Option.some.injEq] at h
      subst h
      cases value <;> decide
  | number value =>
      simp only [stringify, Option.some.injEq] at h
      subst h
      cases value with
      | finite negative m =>
          rw [numberJson]
          exact nulFree_text _
      | nan => decide
      | infinity negative => cases negative <;> decide
  | string text' =>
      simp only [stringify, Option.some.injEq] at h
      subst h
      exact nulFree_quote text'
  | array elements ih =>
      have hall : ∀ part ∈ stringifyElements elements, nulFree part = true := by
        clear h
        induction elements with
        | nil => simp [stringifyElements]
        | cons element elements ih' =>
            rw [stringifyElements, List.forall_mem_cons]
            refine ⟨?_, ih' fun other hother => ih other (by simp [hother])⟩
            cases hpart : stringify element with
            | none => decide
            | some part => exact ih element (by simp) hpart
      simp only [stringify, Option.some.injEq] at h
      subst h
      have hcomma : nulFree [44] = true := by decide
      simp [nulFree_intercalate hcomma hall]
  | object inherits fields ih =>
      have hall : ∀ part ∈ stringifyFields fields, nulFree part = true := by
        clear h
        induction fields with
        | nil => simp [stringifyFields]
        | cons field fields ih' =>
            have hrest := ih' fun other hother => ih other (by simp [hother])
            rcases field with ⟨key, value⟩
            rw [stringifyFields]
            cases hpart : stringify value with
            | none => exact hrest
            | some part =>
                have hvalue := ih (key, value) (by simp) hpart
                simpa [nulFree_quote, hvalue] using hrest
      simp only [stringify, Option.some.injEq] at h
      subst h
      have hcomma : nulFree [44] = true := by decide
      simp [nulFree_intercalate hcomma hall]

end Value

end JavaScript
