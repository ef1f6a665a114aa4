import R2RPC.Library.JavaScript

/-!
# Schemas of values

Checks in the manner of a schema library: a check takes a value and returns the checked
copy, or nothing.  Strict objects refuse fields that their shape does not name and rebuild
the rest in the order of the shape.

Main results:

- Inductive {lit}`DeepEqual`: values that differ in the order of their fields only.
- Theorem {lit}`Copies.strictObject`: what a strict object returns is deeply equal to what
  it was given.
- Theorem {lit}`strictObject_isSome_iff`: what a strict object accepts.

Current gaps:

- A shape names no key that `Object.prototype` has.
- The messages of a refusal are not modelled.
-/

namespace Schema

open Utf16 JavaScript

/-- A check, with the value it returns for what it accepts. -/
abbrev Check := Value → Option Value

/-- Anything. -/
def unknown : Check := some

/-- A condition on the value itself. -/
def satisfies (accepts : Value → Bool) : Check :=
  fun value => if accepts value then some value else none

/-- A string that meets a condition. -/
def text (accepts : JsString → Bool) : Check :=
  satisfies fun value =>
    match value with
    | .string text => accepts text
    | _ => false

/-- A finite number that meets a condition. -/
def number (accepts : JsNumber → Bool) : Check :=
  satisfies fun value =>
    match value with
    | .number n => n.isFinite && accepts n
    | _ => false

/-- The first of two checks that accepts. -/
def either (first second : Check) : Check := fun value => (first value).or (second value)

/-- An array of a bounded length. -/
def arrayOf (element : Check) (maximum : Nat) : Check
  | .array elements =>
      if elements.length ≤ maximum then (elements.mapM element).map .array else none
  | _ => none

/-- One field of a shape. -/
structure Property where
  key : JsString
  optional : Bool
  check : Check

/-- The field of the result, if there is one. -/
def Property.read (fields : Fields) (property : Property) : Option Fields :=
  match lookup fields property.key with
  | some value =>
      if property.optional && value.isUndefined then some [(property.key, value)]
      else (property.check value).map fun checked => [(property.key, checked)]
  | none => if property.optional then some [] else none

/-- An object with the fields of the shape and no others. -/
def strictObject (shape : List Property) : Check
  | .object _ fields =>
      if fields.all fun field => shape.any (·.key == field.1) then
        (shape.mapM (Property.read fields)).map fun parts => .object true parts.flatten
      else none
  | _ => none

/-! ## Deep equality -/

/-- Equal up to the order of fields. -/
inductive DeepEqual : Value → Value → Prop where
  | refl (value : Value) : DeepEqual value value
  | array {left right : List Value} (h : List.Forall₂ DeepEqual left right) :
      DeepEqual (.array left) (.array right)
  | object {left right : Fields} (pairs : List (JsString × Value × Value))
      (h : ∀ pair ∈ pairs, DeepEqual pair.2.1 pair.2.2)
      (hleft : left.Perm (pairs.map fun pair => (pair.1, pair.2.1)))
      (hright : right.Perm (pairs.map fun pair => (pair.1, pair.2.2))) :
      DeepEqual (.object true left) (.object true right)

/-! ## Fields -/

theorem nodup_of_ordered {fields : Fields} (h : Ordered fields) : (fields.map (·.1)).Nodup :=
  List.pairwise_map.mpr (h.imp fun hpair => hpair.1)

theorem lookup_eq_some {fields : Fields} {key : JsString} {value : Value}
    (hnodup : (fields.map (·.1)).Nodup) :
    lookup fields key = some value ↔ (key, value) ∈ fields := by
  induction fields with
  | nil => simp [lookup]
  | cons field fields ih =>
      rw [List.map_cons, List.nodup_cons] at hnodup
      have ih := ih hnodup.2
      rw [lookup] at ih ⊢
      rw [List.find?_cons, List.mem_cons]
      by_cases hkey : field.1 = key
      · have hnew : (key, value) ∉ fields := by
          intro hmem
          exact hnodup.1 (hkey ▸ List.mem_map_of_mem hmem)
        simp only [hkey, beq_self_eq_true, Option.map_some, Option.some.injEq, hnew, or_false]
        constructor
        · rintro rfl
          exact Prod.ext hkey.symm rfl
        · rintro rfl
          rfl
      · have hne : (key, value) ≠ field := by
          rintro rfl
          exact hkey rfl
        simp only [beq_eq_false_iff_ne.mpr hkey, hne, false_or]
        exact ih

theorem lookup_eq_none {fields : Fields} {key : JsString} :
    lookup fields key = none ↔ ∀ field ∈ fields, field.1 ≠ key := by
  simp [lookup]

/-- Deeply equal objects have the same keys, with deeply equal values. -/
theorem DeepEqual.lookup {value : Value} {fields : Fields}
    (h : DeepEqual value (.object true fields)) (hfields : (fields.map (·.1)).Nodup) :
    ∃ copies, value = .object true copies ∧ ∀ key field, JavaScript.lookup fields key = some field →
      ∃ copy, JavaScript.lookup copies key = some copy ∧ DeepEqual copy field := by
  cases h with
  | refl => exact ⟨fields, rfl, fun key field hfield => ⟨field, hfield, .refl field⟩⟩
  | @object copies _ pairs hpairs hleft hright =>
      have hkeys : (copies.map (·.1)).Perm (fields.map (·.1)) := by
        refine (hleft.map (·.1)).trans (List.Perm.trans ?_ (hright.map (·.1)).symm)
        rw [List.map_map, List.map_map]
        exact .refl _
      have hcopies : (copies.map (·.1)).Nodup := hkeys.nodup_iff.mpr hfields
      refine ⟨copies, rfl, fun key field hfield => ?_⟩
      have hmem := hright.mem_iff.mp ((lookup_eq_some hfields).mp hfield)
      rcases List.mem_map.mp hmem with ⟨pair, hpair, hsame⟩
      rw [Prod.mk.injEq] at hsame
      refine ⟨pair.2.1, (lookup_eq_some hcopies).mpr ?_, hsame.2 ▸ hpairs pair hpair⟩
      exact hleft.mem_iff.mpr (List.mem_map.mpr ⟨pair, hpair, by rw [hsame.1]⟩)

/-- Deeply equal arrays are so element by element. -/
theorem DeepEqual.elements {value : Value} {elements : List Value}
    (h : DeepEqual value (.array elements)) :
    ∃ copies, value = .array copies ∧ List.Forall₂ DeepEqual copies elements := by
  cases h with
  | refl => exact ⟨elements, rfl, List.forall₂_same.mpr fun element _ => .refl element⟩
  | array h => exact ⟨_, rfl, h⟩

/-- A number is only deeply equal to itself. -/
theorem DeepEqual.number {value : Value} {n : JsNumber} (h : DeepEqual value (.number n)) :
    value = .number n := by
  cases h
  rfl

/-! ## Checks of lists -/

theorem mapM_eq_some {α β : Type} {f : α → Option β} {xs : List α} {ys : List β} :
    xs.mapM f = some ys ↔ List.Forall₂ (fun x y => f x = some y) xs ys := by
  induction xs generalizing ys with
  | nil => cases ys <;> simp
  | cons x xs ih =>
      rw [List.mapM_cons]
      cases hx : f x with
      | none => cases ys <;> simp [hx]
      | some y =>
          cases ys with
          | nil => simp [Option.bind_eq_some_iff]
          | cons y' ys => simp [hx, ih, Option.bind_eq_some_iff, and_comm]

theorem mapM_isSome {α β : Type} {f : α → Option β} {xs : List α} :
    (xs.mapM f).isSome = true ↔ ∀ x ∈ xs, (f x).isSome = true := by
  induction xs with
  | nil => simp
  | cons x xs ih =>
      rw [List.mapM_cons]
      cases hx : f x with
      | none => simp [hx]
      | some y =>
          cases hxs : xs.mapM f with
          | none =>
              have hnot : ¬∀ x ∈ xs, (f x).isSome = true := by
                rw [← ih, hxs]
                simp
              simpa [hx] using hnot
          | some ys => simpa [hx, hxs] using ih

/-! ## Conditions on texts and numbers -/

theorem satisfies_isSome (accepts : Value → Bool) (value : Value) :
    (satisfies accepts value).isSome = accepts value := by
  unfold satisfies
  cases accepts value <;> rfl

@[simp] theorem text_isSome (accepts : JsString → Bool) (text : JsString) :
    (Schema.text accepts (.string text)).isSome = accepts text :=
  satisfies_isSome _ _

@[simp] theorem number_isSome (accepts : JsNumber → Bool) (n : JsNumber) :
    (number accepts (.number n)).isSome = (n.isFinite && accepts n) :=
  satisfies_isSome _ _

/-! ## What is returned -/

/-- What the check returns is deeply equal to what it was given. -/
def Copies (check : Check) : Prop :=
  ∀ value checked, value.IsJson → check value = some checked → DeepEqual checked value

theorem copies_unknown : Copies unknown := by
  intro value checked _ h
  rw [unknown, Option.some.injEq] at h
  exact h ▸ .refl value

theorem copies_satisfies (accepts : Value → Bool) : Copies (satisfies accepts) := by
  intro value checked _ h
  unfold satisfies at h
  split at h
  · exact Option.some.inj h ▸ .refl value
  · contradiction

theorem Copies.either {first second : Check} (hfirst : Copies first) (hsecond : Copies second) :
    Copies (either first second) := by
  intro value checked hjson h
  rcases Option.or_eq_some_iff.mp h with h | ⟨-, h⟩
  · exact hfirst value checked hjson h
  · exact hsecond value checked hjson h

theorem Copies.arrayOf {element : Check} (helement : Copies element) (maximum : Nat) :
    Copies (arrayOf element maximum) := by
  intro value checked hjson h
  unfold Schema.arrayOf at h
  split at h
  · rename_i elements
    split at h
    · rcases Option.map_eq_some_iff.mp h with ⟨copies, hcopies, rfl⟩
      rw [Value.IsJson, Value.isJsonElements_iff] at hjson
      have hpairs := (List.forall₂_and_left _ _).mpr ⟨hjson, mapM_eq_some.mp hcopies⟩
      have hequal : List.Forall₂ (flip DeepEqual) elements copies :=
        hpairs.imp fun element copy hcopy => helement element copy hcopy.1 hcopy.2
      exact .array hequal.flip
    · contradiction
  · contradiction

/-! ## Strict objects -/

variable {shape : List Property} {fields : Fields}

/-- A property is read from its field, or is absent and reads as nothing. -/
theorem Property.read_eq_some {property : Property} {part : Fields}
    (h : property.read fields = some part) :
    (lookup fields property.key = none ∧ part = []) ∨
      ∃ value checked, lookup fields property.key = some value ∧
        part = [(property.key, checked)] ∧
        (checked = value ∨ property.check value = some checked) := by
  unfold read at h
  cases hfield : lookup fields property.key with
  | none =>
      simp only [hfield] at h
      refine Or.inl ⟨rfl, ?_⟩
      split at h
      · exact (Option.some.inj h).symm
      · contradiction
  | some value =>
      simp only [hfield] at h
      split at h
      · exact Or.inr ⟨value, value, rfl, (Option.some.inj h).symm, Or.inl rfl⟩
      · rcases Option.map_eq_some_iff.mp h with ⟨checked, hchecked, hpart⟩
        exact Or.inr ⟨value, checked, rfl, hpart.symm, Or.inr hchecked⟩

/-- The field that a property reads. -/
def present (fields : Fields) (property : Property) : Option (JsString × Value) :=
  (lookup fields property.key).map fun value => (property.key, value)

/-- A shape that names every field reads all of them. -/
theorem perm_present (hshape : (shape.map (·.key)).Nodup) (hfields : (fields.map (·.1)).Nodup)
    (hknown : ∀ field ∈ fields, ∃ property ∈ shape, property.key = field.1) :
    fields.Perm (shape.filterMap (present fields)) := by
  have hread : (shape.filterMap (present fields)).Nodup := by
    refine List.pairwise_filterMap.mpr ((List.pairwise_map.mp hshape).imp ?_)
    rintro property other hne field hfield field' hfield' rfl
    rcases Option.map_eq_some_iff.mp hfield with ⟨value, -, rfl⟩
    rcases Option.map_eq_some_iff.mp hfield' with ⟨value', -, hsame⟩
    exact hne (Prod.mk.inj hsame).1.symm
  refine (List.perm_ext_iff_of_nodup (hfields.of_map _) hread).mpr fun field => ?_
  rw [List.mem_filterMap]
  constructor
  · intro hmem
    rcases hknown field hmem with ⟨property, hproperty, hkey⟩
    refine ⟨property, hproperty, ?_⟩
    rw [present, hkey, (lookup_eq_some hfields).mpr hmem]
    rfl
  · rintro ⟨property, -, hfield⟩
    rcases Option.map_eq_some_iff.mp hfield with ⟨value, hvalue, rfl⟩
    exact (lookup_eq_some hfields).mp hvalue

/-- The fields that are read, beside the fields of the result. -/
theorem pairs_of_read {parts : List Fields}
    (hchecks : ∀ property ∈ shape, Copies property.check)
    (hjson : ∀ field ∈ fields, field.2.IsJson) (hfields : (fields.map (·.1)).Nodup)
    (h : List.Forall₂ (fun property part => Property.read fields property = some part) shape parts) :
    ∃ pairs : List (JsString × Value × Value),
      (∀ pair ∈ pairs, DeepEqual pair.2.1 pair.2.2) ∧
      parts.flatten = pairs.map (fun pair => (pair.1, pair.2.1)) ∧
      shape.filterMap (present fields) = pairs.map fun pair => (pair.1, pair.2.2) := by
  induction h with
  | nil => exact ⟨[], by simp, rfl, rfl⟩
  | @cons property part shape parts hread hrest ih =>
      rcases ih fun other hother => hchecks other (List.mem_cons_of_mem _ hother) with
        ⟨pairs, hpairs, hparts, hpresent⟩
      rcases property.read_eq_some hread with ⟨hnone, rfl⟩ | ⟨value, checked, hvalue, rfl, hchecked⟩
      · refine ⟨pairs, hpairs, hparts, ?_⟩
        rw [List.filterMap_cons, present, hnone]
        exact hpresent
      · refine ⟨(property.key, checked, value) :: pairs, ?_, ?_, ?_⟩
        · intro pair hpair
          rcases List.mem_cons.mp hpair with rfl | hpair
          · rcases hchecked with rfl | hchecked
            · exact .refl checked
            · exact hchecks property List.mem_cons_self value checked
                (hjson _ ((lookup_eq_some hfields).mp hvalue)) hchecked
          · exact hpairs pair hpair
        · rw [List.flatten_cons, hparts]
          rfl
        · rw [List.filterMap_cons, present, hvalue]
          exact congrArg _ hpresent

theorem Copies.strictObject (hshape : (shape.map (·.key)).Nodup)
    (hchecks : ∀ property ∈ shape, Copies property.check) : Copies (strictObject shape) := by
  intro value checked hjson h
  unfold Schema.strictObject at h
  split at h
  · rename_i inherits fields
    split at h
    · rename_i hknown
      rw [Value.IsJson, Value.isJsonFields_iff] at hjson
      rcases hjson with ⟨rfl, hordered, hjson⟩
      have hfields := nodup_of_ordered hordered
      rcases Option.map_eq_some_iff.mp h with ⟨parts, hparts, rfl⟩
      rcases pairs_of_read hchecks hjson hfields (mapM_eq_some.mp hparts) with
        ⟨pairs, hpairs, hleft, hright⟩
      refine .object pairs hpairs (hleft ▸ .refl _) (hright ▸ ?_)
      refine perm_present hshape hfields fun field hfield => ?_
      rcases List.any_eq_true.mp (List.all_eq_true.mp hknown field hfield) with
        ⟨property, hproperty, hkey⟩
      exact ⟨property, hproperty, eq_of_beq hkey⟩
    · contradiction
  · contradiction

/-- The check that a shape has for a key. -/
def checkOf (shape : List Property) (key : JsString) : Check :=
  match shape.find? (·.key == key) with
  | some property => property.check
  | none => fun _ => none

theorem checkOf_isSome {key : JsString} {value : Value} (hshape : (shape.map (·.key)).Nodup) :
    (checkOf shape key value).isSome = true ↔
      ∃ property ∈ shape, property.key = key ∧ (property.check value).isSome = true := by
  unfold checkOf
  cases hfind : shape.find? (·.key == key) with
  | none =>
      have hmissing := List.find?_eq_none.mp hfind
      simp only [Option.isSome_none, Bool.false_eq_true, false_iff, not_exists, not_and]
      intro property hproperty hkey
      exact absurd (beq_of_eq hkey) (hmissing property hproperty)
  | some found =>
      have hfound := List.mem_of_find?_eq_some hfind
      have hkey : found.key = key := by simpa using List.find?_some hfind
      constructor
      · intro h
        exact ⟨found, hfound, hkey, h⟩
      · rintro ⟨property, hproperty, hsame, h⟩
        obtain rfl : property = found :=
          List.inj_on_of_nodup_map hshape hproperty hfound (hsame.trans hkey.symm)
        exact h

/-- A property accepts its field, and the absence of it if it is optional. -/
theorem Property.read_isSome (property : Property) (hfields : (fields.map (·.1)).Nodup)
    (hdefined : ∀ field ∈ fields, field.2.isUndefined = false) :
    (property.read fields).isSome = true ↔
      (property.optional = false → ∃ value, (property.key, value) ∈ fields) ∧
        ∀ value, (property.key, value) ∈ fields → (property.check value).isSome = true := by
  unfold Property.read
  cases hfield : lookup fields property.key with
  | none =>
      have hmissing := lookup_eq_none.mp hfield
      have hnone : ∀ value, (property.key, value) ∉ fields :=
        fun value hmem => hmissing _ hmem rfl
      cases hoptional : property.optional <;> simp [hnone]
  | some value =>
      have hmem := (lookup_eq_some hfields).mp hfield
      have honly : ∀ other, (property.key, other) ∈ fields ↔ other = value := by
        intro other
        rw [← lookup_eq_some hfields, hfield, Option.some.injEq]
        exact eq_comm
      have hvalue : value.isUndefined = false := hdefined _ hmem
      simp [hvalue, honly]

/-- A strict object accepts the fields that its shape names, each with its check, when the
required ones are there. -/
theorem strictObject_isSome_iff (hfields : (fields.map (·.1)).Nodup)
    (hdefined : ∀ field ∈ fields, field.2.isUndefined = false) (inherits : Bool) :
    (strictObject shape (.object inherits fields)).isSome = true ↔
      (∀ field ∈ fields, ∃ property ∈ shape, property.key = field.1) ∧
      ∀ property ∈ shape,
        (property.optional = false → ∃ value, (property.key, value) ∈ fields) ∧
        ∀ value, (property.key, value) ∈ fields → (property.check value).isSome = true := by
  have hreads : (∀ property ∈ shape, (property.read fields).isSome = true) ↔
      ∀ property ∈ shape,
        (property.optional = false → ∃ value, (property.key, value) ∈ fields) ∧
        ∀ value, (property.key, value) ∈ fields → (property.check value).isSome = true :=
    forall₂_congr fun property _ => property.read_isSome hfields hdefined
  rw [strictObject, ← hreads, ← mapM_isSome]
  split
  · rename_i hknown
    simpa using fun _ => by simpa using hknown
  · rename_i hunknown
    have hnot : ¬∀ field ∈ fields, ∃ property ∈ shape, property.key = field.1 := by
      simpa using hunknown
    exact ⟨fun h => by simp at h, fun h => absurd h.1 hnot⟩

/-- A strict object whose required fields are there accepts what passes field by field. -/
theorem strictObject_isSome (hshape : (shape.map (·.key)).Nodup)
    (hfields : (fields.map (·.1)).Nodup)
    (hdefined : ∀ field ∈ fields, field.2.isUndefined = false)
    (hrequired : (shape.all fun property =>
      property.optional || (fields.map (·.1)).contains property.key) = true) :
    (strictObject shape (.object true fields)).isSome = true ↔
      ∀ field ∈ fields, (checkOf shape field.1 field.2).isSome = true := by
  have hthere : ∀ property ∈ shape, property.optional = false →
      ∃ value, (property.key, value) ∈ fields := by
    intro property hproperty hoptional
    have hmem := List.all_eq_true.mp hrequired property hproperty
    rw [hoptional, Bool.false_or, List.contains_iff_mem] at hmem
    rcases List.mem_map.mp hmem with ⟨field, hfield, hkey⟩
    exact ⟨field.2, hkey ▸ hfield⟩
  rw [strictObject_isSome_iff hfields hdefined]
  constructor
  · rintro ⟨hknown, hchecks⟩ field hfield
    rcases hknown field hfield with ⟨property, hproperty, hkey⟩
    refine (checkOf_isSome hshape).mpr ⟨property, hproperty, hkey, ?_⟩
    exact (hchecks property hproperty).2 field.2 (hkey ▸ hfield)
  · intro hchecked
    refine ⟨fun field hfield => ?_, fun property hproperty => ⟨hthere property hproperty, ?_⟩⟩
    · rcases (checkOf_isSome hshape).mp (hchecked field hfield) with
        ⟨property, hproperty, hkey, -⟩
      exact ⟨property, hproperty, hkey⟩
    · intro value hvalue
      rcases (checkOf_isSome hshape).mp (hchecked _ hvalue) with ⟨other, hother, hkey, haccepts⟩
      obtain rfl : other = property := List.inj_on_of_nodup_map hshape hother hproperty hkey
      exact haccepts

/-! ## Fields that may be absent -/

/-- A field that is there when it has a value. -/
def optionalField (key : JsString) (value : Option Value) : Fields :=
  value.toList.map fun value => (key, value)

theorem keys_optionalField (key : JsString) (value : Option Value) :
    ((optionalField key value).map (·.1)).Sublist [key] := by
  cases value with
  | none => exact List.nil_sublist _
  | some value => exact .refl _

theorem forall_optionalField {key : JsString} {value : Option Value}
    {P : JsString × Value → Prop} :
    (∀ field ∈ optionalField key value, P field) ↔ ∀ found ∈ value, P (key, found) := by
  simp [optionalField]

/-! ## A round trip through JSON text -/

/-- A check that sees no difference between a value and what a round trip through JSON text
leaves of it. -/
def Stable (check : Check) : Prop :=
  ∀ value, value.IsJson → (check value.settled).isSome = (check value).isSome

theorem settled_not_undefined (value : Value) :
    value.settled.isUndefined = value.isUndefined := by
  cases value with
  | number n => cases n <;> rfl
  | _ => rfl

theorem isUndefined_of_isJson {value : Value} (h : value.IsJson) : value.isUndefined = false := by
  cases value with
  | undefined => exact absurd h (by simp [Value.IsJson])
  | _ => rfl

theorem stable_unknown : Stable unknown := fun _ _ => rfl

theorem stable_satisfies {accepts : Value → Bool}
    (h : ∀ value : Value, accepts value.settled = accepts value) : Stable (satisfies accepts) := by
  intro value _
  rw [satisfies_isSome, satisfies_isSome, h]

theorem stable_text (accepts : JsString → Bool) : Stable (text accepts) := by
  refine stable_satisfies fun value => ?_
  cases value with
  | number n => cases n <;> rfl
  | _ => rfl

/-- A condition on numbers that does not look at the sign of zero. -/
theorem stable_number {accepts : JsNumber → Bool}
    (h : ∀ n : JsNumber, accepts n.settled = accepts n) : Stable (number accepts) := by
  refine stable_satisfies fun value => ?_
  cases value with
  | number n =>
      cases n with
      | finite negative m => exact congrArg (true && ·) (h (.finite negative m))
      | _ => rfl
  | _ => rfl

theorem Stable.either {first second : Check} (hfirst : Stable first) (hsecond : Stable second) :
    Stable (either first second) := by
  intro value hjson
  simp only [Schema.either, Option.isSome_or, hfirst value hjson, hsecond value hjson]

theorem Stable.strictObject (hchecks : ∀ property ∈ shape, Stable property.check) :
    Stable (strictObject shape) := by
  intro value hjson
  cases value with
  | object inherits fields =>
      rw [Value.IsJson, Value.isJsonFields_iff] at hjson
      rcases hjson with ⟨-, hordered, hjson⟩
      have hfields := nodup_of_ordered hordered
      have hkeys : (Value.settledFields fields).map (·.1) = fields.map (·.1) := by
        rw [Value.settledFields_eq, List.map_map]
        rfl
      have hdefined : ∀ field ∈ fields, field.2.isUndefined = false :=
        fun field hfield => isUndefined_of_isJson (hjson field hfield)
      have hmem : ∀ key value, (key, value) ∈ Value.settledFields fields ↔
          ∃ original, (key, original) ∈ fields ∧ original.settled = value := by
        intro key value
        simp [Value.settledFields_eq]
      rw [Value.settled, Bool.eq_iff_iff, strictObject_isSome_iff hfields hdefined,
        strictObject_isSome_iff (hkeys ▸ hfields)]
      · refine and_congr (by rw [Value.settledFields_eq, List.forall_mem_map]) ?_
        refine forall₂_congr fun property hproperty => ?_
        simp only [hmem]
        refine and_congr ⟨?_, ?_⟩ ⟨?_, ?_⟩
        · intro h hoptional
          rcases h hoptional with ⟨_, original, horiginal, -⟩
          exact ⟨original, horiginal⟩
        · intro h hoptional
          rcases h hoptional with ⟨original, horiginal⟩
          exact ⟨_, original, horiginal, rfl⟩
        · intro h original horiginal
          rw [← hchecks property hproperty original (hjson _ horiginal)]
          exact h _ ⟨original, horiginal, rfl⟩
        · rintro h _ ⟨original, horiginal, rfl⟩
          rw [hchecks property hproperty original (hjson _ horiginal)]
          exact h original horiginal
      · rw [Value.settledFields_eq, List.forall_mem_map]
        intro field hfield
        rw [settled_not_undefined, hdefined field hfield]
  | number n => cases n <;> rfl
  | _ => rfl

end Schema
