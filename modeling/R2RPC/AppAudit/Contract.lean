import R2RPC.AppAudit.Schema

/-!
# The documented audit contract

The table of fields of the device documentation, as a predicate on JSON values, and the
validation of the server against it.

Main results:

- Definition {lit}`IsAppAudit`: the documented language, row by row.
- Theorem {lit}`strictObject_iff`: a strict schema accepts the objects of a table of rows.
- Theorem {lit}`validate_accepts_iff`: the validation accepts exactly the documented
  language up to the size limit, and returns what it was given.

Current gaps:

- Which texts are timestamps is what the schema library says.
-/

namespace R2RPC
namespace AppAudit

open Utf16 Binary JavaScript Schema

/-! ## Rows of the table -/

/-- A row: a property, whether it has to be there, and its exact limit. -/
structure Row where
  key : JsString
  required : Bool
  limit : Value → Prop

/-- An object with the properties of the rows and no others. -/
def IsObject (rows : List Row) (value : Value) : Prop :=
  ∃ fields, value = .object true fields ∧
    (∀ field ∈ fields, field.1 ∈ rows.map (·.key)) ∧
    ∀ row ∈ rows,
      (row.required = true → ∃ found, (row.key, found) ∈ fields) ∧
      ∀ found, (row.key, found) ∈ fields → row.limit found

/-- An array of at most so many elements, each within the limit of its place. -/
def IsArray (maximum : Nat) (limit : Nat → Value → Prop) (value : Value) : Prop :=
  ∃ elements, value = .array elements ∧ elements.length ≤ maximum ∧
    ∀ index element, elements[index]? = some element → limit index element

def IsText (minimum maximum : Nat) (value : Value) : Prop :=
  ∃ text, value = .string text ∧ minimum ≤ text.length ∧ text.length ≤ maximum

def IsInteger (minimum maximum : Int) (value : Value) : Prop :=
  ∃ n k, value = .number n ∧ n.toInt = some k ∧ minimum ≤ k ∧ k ≤ maximum

def IsFiniteNumber (value : Value) : Prop := ∃ n, value = .number n ∧ n.isFinite = true

/-- A finite number that is not below zero. -/
def IsDuration (value : Value) : Prop :=
  ∃ n, value = .number n ∧ n.isFinite = true ∧ nonnegative n = true

def IsBodyFormat (value : Value) : Prop :=
  value = .string (lit "json") ∨ value = .string (lit "text") ∨ value = .string (lit "empty")

/-- Any value that JSON can hold. -/
def Free (_ : Value) : Prop := True

def requestRows : List Row :=
  [⟨lit "method", false, IsText 1 32⟩, ⟨lit "url", false, IsText 0 4096⟩,
    ⟨lit "headers", false, Free⟩, ⟨lit "body", false, Free⟩]

def responseRows : List Row :=
  [⟨lit "statusCode", false, IsInteger 0 999⟩, ⟨lit "headers", false, Free⟩,
    ⟨lit "bodyFormat", false, IsBodyFormat⟩, ⟨lit "body", false, Free⟩]

def errorRows : List Row :=
  [⟨lit "type", false, IsText 0 100⟩, ⟨lit "code", false, IsText 0 100⟩,
    ⟨lit "message", false, IsText 0 4096⟩]

def metadataRows : List Row :=
  [⟨lit "key", true, IsText 1 100⟩, ⟨lit "value", true, Free⟩]

section

variable (datetime : JsString → Bool)

/-- A date and time of ISO 8601 with `Z` or an offset. -/
def IsTimestamp (value : Value) : Prop := ∃ text, value = .string text ∧ datetime text = true

/-- The rows of the step at this index. -/
def stepRows (index : Nat) : List Row :=
  [⟨lit "sequence", true,
      fun value => IsInteger 1 128 value ∧ IsInteger (index + 1) (index + 1) value⟩,
    ⟨lit "code", false, IsText 0 100⟩, ⟨lit "name", true, IsText 1 200⟩,
    ⟨lit "startedAt", true, IsTimestamp datetime⟩, ⟨lit "durationMs", true, IsDuration⟩,
    ⟨lit "status", false, fun value => IsFiniteNumber value ∨ IsText 0 100 value⟩,
    ⟨lit "request", false, IsObject requestRows⟩, ⟨lit "response", false, IsObject responseRows⟩,
    ⟨lit "error", false, IsObject errorRows⟩]

def appAuditRows : List Row :=
  [⟨lit "schemaVersion", true, IsInteger 1 1⟩, ⟨lit "title", true, IsText 1 200⟩,
    ⟨lit "metadata", true, IsArray 64 fun _ => IsObject metadataRows⟩,
    ⟨lit "steps", true, IsArray 128 fun index => IsObject (stepRows datetime index)⟩]

/-- The documented language. -/
def IsAppAudit : Value → Prop := IsObject (appAuditRows datetime)

end

/-! ## Schemas and rows -/

variable {datetime : JsString → Bool}

/-- A check accepts, of JSON values, those within a limit. -/
def Checks (check : Check) (limit : Value → Prop) : Prop :=
  ∀ value, value.IsJson → ((check value).isSome = true ↔ limit value)

/-- A property of a schema does what its row says. -/
structure Implements (property : Property) (row : Row) : Prop where
  key : property.key = row.key
  required : property.optional = !row.required
  checks : Checks property.check row.limit

theorem checks_unknown : Checks unknown Free := fun _ _ => iff_of_true rfl trivial

theorem checks_stringBetween (minimum maximum : Nat) :
    Checks (stringBetween minimum maximum) (IsText minimum maximum) := by
  intro value _
  cases value with
  | string text => simp [stringBetween, IsText]
  | _ => simp [stringBetween, text, satisfies_isSome, IsText]

theorem checks_integerBetween (minimum maximum : Int) :
    Checks (integerBetween minimum maximum) (IsInteger minimum maximum) := by
  intro value _
  cases value with
  | number n =>
      cases hinteger : n.toInt with
      | none => simp [integerBetween, IsInteger, hinteger]
      | some k => simp [integerBetween, IsInteger, hinteger, Number.isFinite_of_toInt hinteger]
  | _ => simp [integerBetween, number, satisfies_isSome, IsInteger]

theorem checks_finiteNumber : Checks finiteNumber IsFiniteNumber := by
  intro value _
  cases value with
  | number n => simp [finiteNumber, IsFiniteNumber]
  | _ => simp [finiteNumber, number, satisfies_isSome, IsFiniteNumber]

theorem checks_nonnegativeNumber : Checks nonnegativeNumber IsDuration := by
  intro value _
  cases value with
  | number n => simp [nonnegativeNumber, IsDuration]
  | _ => simp [nonnegativeNumber, number, satisfies_isSome, IsDuration]

theorem checks_bodyFormat : Checks bodyFormat IsBodyFormat := by
  intro value _
  cases value with
  | string text => simp [bodyFormat, IsBodyFormat, or_assoc]
  | _ => simp [bodyFormat, text, satisfies_isSome, IsBodyFormat]

theorem checks_timestamp : Checks (timestamp datetime) (IsTimestamp datetime) := by
  intro value _
  cases value with
  | string text => simp [timestamp, IsTimestamp]
  | _ => simp [timestamp, text, satisfies_isSome, IsTimestamp]

theorem Checks.either {first second : Check} {limit limit' : Value → Prop}
    (hfirst : Checks first limit) (hsecond : Checks second limit') :
    Checks (either first second) fun value => limit value ∨ limit' value := by
  intro value hjson
  rw [Schema.either, Option.isSome_or, Bool.or_eq_true, hfirst value hjson, hsecond value hjson]

theorem Checks.arrayOf {element : Check} {limit : Value → Prop} (helement : Checks element limit)
    (maximum : Nat) : Checks (arrayOf element maximum) (IsArray maximum fun _ => limit) := by
  intro value hjson
  cases value with
  | array elements =>
      rw [Value.IsJson, Value.isJsonElements_iff] at hjson
      rw [arrayOf_isSome]
      constructor
      · rintro ⟨hlength, hall⟩
        refine ⟨elements, rfl, hlength, fun index value hindex => ?_⟩
        have hmem := List.mem_of_getElem? hindex
        exact (helement value (hjson value hmem)).mp (hall value hmem)
      · rintro ⟨others, hsame, hlength, hall⟩
        obtain rfl := Value.array.inj hsame
        refine ⟨hlength, fun value hmem => (helement value (hjson value hmem)).mpr ?_⟩
        rcases List.getElem?_of_mem hmem with ⟨index, hindex⟩
        exact hall index value hindex
  | _ => simp [Schema.arrayOf, IsArray]

theorem forall_mem_congr {α β : Type} {R : α → β → Prop} {P : α → Prop} {Q : β → Prop}
    {xs : List α} {ys : List β} (h : List.Forall₂ R xs ys) (hpq : ∀ x y, R x y → (P x ↔ Q y)) :
    (∀ x ∈ xs, P x) ↔ ∀ y ∈ ys, Q y := by
  induction h with
  | nil => simp
  | cons hhead htail ih => rw [List.forall_mem_cons, List.forall_mem_cons, hpq _ _ hhead, ih]

/-- A strict schema accepts the objects of a table of rows. -/
theorem strictObject_iff {shape : List Property} {rows : List Row}
    (h : List.Forall₂ Implements shape rows) : Checks (strictObject shape) (IsObject rows) := by
  intro value hjson
  cases value with
  | object inherits fields =>
      rw [Value.IsJson, Value.isJsonFields_iff] at hjson
      rcases hjson with ⟨rfl, hordered, hfields⟩
      have hkeys : shape.map (·.key) = rows.map (·.key) := by
        rw [← List.forall₂_eq_eq_eq, List.forall₂_map_left_iff, List.forall₂_map_right_iff]
        exact h.imp fun property row himplements => himplements.key
      have hknown : ∀ field : JsString × Value, (∃ property ∈ shape, property.key = field.1) ↔
          field.1 ∈ rows.map (·.key) := by
        intro field
        rw [← hkeys, List.mem_map]
      have hlimits : (∀ property ∈ shape,
          (property.optional = false → ∃ value, (property.key, value) ∈ fields) ∧
          ∀ value, (property.key, value) ∈ fields → (property.check value).isSome = true) ↔
          ∀ row ∈ rows, (row.required = true → ∃ found, (row.key, found) ∈ fields) ∧
            ∀ found, (row.key, found) ∈ fields → row.limit found := by
        refine forall_mem_congr h fun property row himplements => ?_
        rw [himplements.key, himplements.required, Bool.not_eq_eq_eq_not, Bool.not_false]
        refine and_congr_right fun _ => forall₂_congr fun value hvalue => ?_
        exact himplements.checks value (hfields _ hvalue)
      rw [strictObject_isSome_iff (nodup_of_ordered hordered)
        fun field hfield => isUndefined_of_isJson (hfields field hfield), hlimits]
      simp only [hknown]
      constructor
      · rintro ⟨hrows, hall⟩
        exact ⟨fields, rfl, hrows, hall⟩
      · rintro ⟨others, hsame, hrows, hall⟩
        obtain rfl := (Value.object.inj hsame).2
        exact ⟨hrows, hall⟩
  | _ => simp [strictObject, IsObject]

theorem checks_request : Checks (strictObject requestShape) (IsObject requestRows) :=
  strictObject_iff <| .cons ⟨rfl, rfl, checks_stringBetween 1 32⟩ <|
    .cons ⟨rfl, rfl, checks_stringBetween 0 4096⟩ <| .cons ⟨rfl, rfl, checks_unknown⟩ <|
    .cons ⟨rfl, rfl, checks_unknown⟩ .nil

theorem checks_response : Checks (strictObject responseShape) (IsObject responseRows) :=
  strictObject_iff <| .cons ⟨rfl, rfl, checks_integerBetween 0 999⟩ <|
    .cons ⟨rfl, rfl, checks_unknown⟩ <| .cons ⟨rfl, rfl, checks_bodyFormat⟩ <|
    .cons ⟨rfl, rfl, checks_unknown⟩ .nil

theorem checks_error : Checks (strictObject errorShape) (IsObject errorRows) :=
  strictObject_iff <| .cons ⟨rfl, rfl, checks_stringBetween 0 100⟩ <|
    .cons ⟨rfl, rfl, checks_stringBetween 0 100⟩ <|
    .cons ⟨rfl, rfl, checks_stringBetween 0 4096⟩ .nil

theorem checks_metadata : Checks (strictObject metadataShape) (IsObject metadataRows) :=
  strictObject_iff <| .cons ⟨rfl, rfl, checks_stringBetween 1 100⟩ <|
    .cons ⟨rfl, rfl, checks_unknown⟩ .nil

/-! ## The validation -/

/-- A required row with two limits. -/
theorem isObject_and {key : JsString} {limit also : Value → Prop} (front : List Row)
    {rows : List Row} {value : Value} :
    IsObject (front ++ ⟨key, true, fun value => limit value ∧ also value⟩ :: rows) value ↔
      IsObject (front ++ ⟨key, true, limit⟩ :: rows) value ∧
        ∀ fields found, value = .object true fields → (key, found) ∈ fields → also found := by
  unfold IsObject
  simp only [List.forall_mem_append, List.forall_mem_cons, List.map_append, List.map_cons]
  constructor
  · rintro ⟨fields, rfl, hknown, hfront, ⟨hrequired, hlimits⟩, hrows⟩
    refine ⟨⟨fields, rfl, hknown, hfront,
      ⟨hrequired, fun found hfound => (hlimits found hfound).1⟩, hrows⟩, ?_⟩
    intro others found hsame hfound
    obtain rfl := (Value.object.inj hsame).2
    exact (hlimits found hfound).2
  · rintro ⟨⟨fields, rfl, hknown, hfront, ⟨hrequired, hlimits⟩, hrows⟩, halso⟩
    exact ⟨fields, rfl, hknown, hfront,
      ⟨hrequired, fun found hfound => ⟨hlimits found hfound, halso fields found rfl hfound⟩⟩, hrows⟩

/-- The last row, with another limit that says the same of JSON values. -/
theorem isObject_last {key : JsString} {limit limit' : Value → Prop} (front : List Row)
    {value : Value} (hjson : value.IsJson)
    (h : ∀ found : Value, found.IsJson → (limit found ↔ limit' found)) :
    IsObject (front ++ [⟨key, true, limit⟩]) value ↔
      IsObject (front ++ [⟨key, true, limit'⟩]) value := by
  unfold IsObject
  refine exists_congr fun fields => and_congr_right fun hobject => ?_
  subst hobject
  rw [Value.IsJson, Value.isJsonFields_iff] at hjson
  simp only [List.forall_mem_append, List.forall_mem_singleton, List.map_append, List.map_cons]
  refine and_congr_right fun _ => and_congr_right fun _ => and_congr_right fun _ => ?_
  exact forall₂_congr fun found hfound => h found (hjson.2.2 _ hfound)

theorem checks_step (index : Nat) : Checks (strictObject (stepShape datetime))
    (IsObject (⟨lit "sequence", true, IsInteger 1 128⟩ :: (stepRows datetime index).tail)) :=
  strictObject_iff <| .cons ⟨rfl, rfl, checks_integerBetween 1 128⟩ <|
    .cons ⟨rfl, rfl, checks_stringBetween 0 100⟩ <| .cons ⟨rfl, rfl, checks_stringBetween 1 200⟩ <|
    .cons ⟨rfl, rfl, checks_timestamp⟩ <| .cons ⟨rfl, rfl, checks_nonnegativeNumber⟩ <|
    .cons ⟨rfl, rfl, checks_finiteNumber.either (checks_stringBetween 0 100)⟩ <|
    .cons ⟨rfl, rfl, checks_request⟩ <| .cons ⟨rfl, rfl, checks_response⟩ <|
    .cons ⟨rfl, rfl, checks_error⟩ .nil

/-- The schema of a step leaves only its place to check. -/
theorem step_iff {step : Value} {index : Nat} (hjson : step.IsJson) :
    IsObject (stepRows datetime index) step ↔
      (strictObject (stepShape datetime) step).isSome = true ∧ numbered step index = true := by
  rw [checks_step index step hjson]
  refine (isObject_and []).trans (and_congr_right fun haccepted => ?_)
  have hschema := (checks_step index step hjson).mpr haccepted
  rcases sequence_of_accepted hjson hschema with ⟨fields, n, rfl, hordered, hn⟩
  have hnodup := nodup_of_ordered hordered
  rw [numbered_iff]
  constructor
  · intro hplace
    rcases hplace fields _ rfl ((lookup_eq_some hnodup).mp hn) with ⟨m, k, hm, hk, hle, hge⟩
    obtain rfl := Value.number.inj hm
    exact ⟨n, hn, by rw [hk, le_antisymm hge hle]⟩
  · rintro ⟨m, hm, hk⟩ others found hsame hfound
    obtain rfl := (Value.object.inj hsame).2
    rw [(lookup_eq_some hnodup).mpr hfound, Option.some.injEq] at hm
    exact ⟨m, _, hm, hk, le_refl _, le_refl _⟩

theorem checks_appAudit : Checks (appAuditSchema datetime)
    (IsObject [⟨lit "schemaVersion", true, IsInteger 1 1⟩, ⟨lit "title", true, IsText 1 200⟩,
      ⟨lit "metadata", true, IsArray 64 fun _ => IsObject metadataRows⟩,
      ⟨lit "steps", true, IsArray 128 fun _ step =>
        (strictObject (stepShape datetime) step).isSome = true⟩]) :=
  strictObject_iff <| .cons ⟨rfl, rfl, checks_integerBetween 1 1⟩ <|
    .cons ⟨rfl, rfl, checks_stringBetween 1 200⟩ <|
    .cons ⟨rfl, rfl, checks_metadata.arrayOf 64⟩ <|
    .cons ⟨rfl, rfl, Checks.arrayOf (fun _ _ => Iff.rfl) 128⟩ .nil

/-- Steps that are numbered by their places. -/
def Consecutive (value : Value) : Prop :=
  ∀ steps, value = .array steps → ∀ index step, steps[index]? = some step →
    numbered step index = true

/-- The documented steps are those of the schema, with their numbers. -/
theorem isArray_steps {value : Value} (hjson : value.IsJson) :
    IsArray 128 (fun index => IsObject (stepRows datetime index)) value ↔
      IsArray 128 (fun _ step => (strictObject (stepShape datetime) step).isSome = true) value ∧
        Consecutive value := by
  have hsteps : ∀ steps, value = .array steps → ∀ index step, steps[index]? = some step →
      (IsObject (stepRows datetime index) step ↔
        (strictObject (stepShape datetime) step).isSome = true ∧ numbered step index = true) := by
    rintro steps rfl index step hstep
    rw [Value.IsJson, Value.isJsonElements_iff] at hjson
    exact step_iff (hjson step (List.mem_of_getElem? hstep))
  constructor
  · rintro ⟨steps, hvalue, hlength, hall⟩
    refine ⟨⟨steps, hvalue, hlength, fun index step hstep => ?_⟩, ?_⟩
    · exact ((hsteps steps hvalue index step hstep).mp (hall index step hstep)).1
    · intro others hsame index step hstep
      obtain rfl := Value.array.inj (hvalue.symm.trans hsame)
      exact ((hsteps steps hvalue index step hstep).mp (hall index step hstep)).2
  · rintro ⟨⟨steps, hvalue, hlength, hall⟩, hnumbered⟩
    exact ⟨steps, hvalue, hlength, fun index step hstep => (hsteps steps hvalue index step hstep).mpr
      ⟨hall index step hstep, hnumbered steps hvalue index step hstep⟩⟩

/-- The documented language, as schemas and sequence numbers. -/
theorem isAppAudit_iff {input : Value} (hjson : input.IsJson) :
    IsAppAudit datetime input ↔ (appAuditSchema datetime input).isSome = true ∧
      ∀ steps, input.get (lit "steps") = .array steps →
        ∀ index step, steps[index]? = some step → numbered step index = true := by
  have hrows : IsAppAudit datetime input ↔ (appAuditSchema datetime input).isSome = true ∧
      ∀ fields found, input = .object true fields → (lit "steps", found) ∈ fields →
        Consecutive found := by
    rw [checks_appAudit input hjson]
    exact (isObject_last ((appAuditRows datetime).take 3) hjson
      fun _ => isArray_steps).trans (isObject_and _)
  rw [hrows]
  refine and_congr_right fun haccepted => ?_
  rcases steps_of_accepted hjson haccepted with ⟨fields, steps, rfl, hordered, hlookup, -, -⟩
  have hmem := (lookup_eq_some (nodup_of_ordered hordered)).mp hlookup
  have hget : (Value.object true fields).get (lit "steps") = .array steps := by
    rw [Value.get, hlookup, Option.getD_some]
  constructor
  · intro hconsecutive others hothers
    exact hconsecutive fields _ rfl hmem others (hget.symm.trans hothers)
  · rintro hnumbered others found hsame hfound elements rfl
    obtain rfl := (Value.object.inj hsame).2
    rw [(lookup_eq_some (nodup_of_ordered hordered)).mpr hfound, Option.some.injEq] at hlookup
    exact hnumbered elements (hget.trans hlookup.symm)

/-- The validation accepts exactly the documented language up to the size limit, and returns
what it was given. -/
theorem validate_accepts_iff {text : JsString} {input : Value} (hparse : parse text = some input) :
    ((∃ data, validateDeviceAppAudit datetime input = .ok data) ↔
      IsAppAudit datetime input ∧
        ∃ encoded, input.stringify = some encoded ∧ utf8Length 3 encoded ≤ 524288) ∧
    ∀ data, validateDeviceAppAudit datetime input = .ok data → DeepEqual data input := by
  have hjson := parse_isJson hparse
  rcases Value.parse_stringify hjson with ⟨encoded, hencoded, -⟩
  refine ⟨?_, fun data h => deepEqual_of_validate hjson h⟩
  have hsize : (∃ encoded, input.stringify = some encoded ∧ utf8Length 3 encoded ≤ 524288) ↔
      utf8Length 3 encoded ≤ appAuditMaxBytes := by
    rw [hencoded]
    simp only [Option.some.injEq, exists_eq_left', appAuditMaxBytes]
  rw [validate_isOk hjson hencoded, isAppAudit_iff hjson, hsize, and_comm]

/-! ### An audit of two steps -/

/-- A step that called a shop, was answered and took it for an error. -/
def sampleStep (sequence : Nat) : Value :=
  .object true
    [(lit "sequence", .number (ofDecimal binary64 false sequence 0)),
      (lit "name", .string (lit "query")),
      (lit "startedAt", .string (lit "2026-07-24T08:00:00.000Z")),
      (lit "durationMs", .number (ofDecimal binary64 false 125 (-1))),
      (lit "request", .object true
        [(lit "method", .string (lit "POST")), (lit "url", .string (lit "https://shop/q")),
          (lit "headers", .object true [(lit "Accept", .string (lit "*/*"))]),
          (lit "body", .array [.null, .boolean true])]),
      (lit "response", .object true
        [(lit "statusCode", .number (ofDecimal binary64 false 502 0)),
          (lit "bodyFormat", .string (lit "text")), (lit "body", .string (lit "bad gateway"))]),
      (lit "error", .object true
        [(lit "type", .string (lit "HttpError")), (lit "message", .string (lit "502"))])]

/-- The shop that the steps have called. -/
def sampleMetadata : Value :=
  .object true [(lit "key", .string (lit "shop")), (lit "value", .array [.string (lit "深圳")])]

/-- An audit with two steps under these numbers. -/
def sampleAudit (first second : Nat) : Value :=
  auditValue (lit "同步订单") [sampleMetadata] [sampleStep first, sampleStep second]

theorem sampleStep_isJson (sequence : Nat) : (sampleStep sequence).IsJson := by
  have hkeys : ∀ {fields : Fields}, (fields.map (·.1)).Pairwise
      (fun key later => key ≠ later ∧ precedes later key = false) → Ordered fields :=
    fun h => ordered_of_keys h
  simp only [sampleStep, Value.IsJson, Value.IsJsonFields, Value.IsJsonElements, and_true, true_and]
  refine ⟨hkeys ?_, ⟨hkeys ?_, hkeys ?_⟩, hkeys ?_, hkeys ?_⟩ <;>
    (simp only [List.map_cons, List.map_nil]; decide)

theorem sampleAudit_isJson (first second : Nat) : (sampleAudit first second).IsJson := by
  have hmetadata : sampleMetadata.IsJson := by
    simp only [sampleMetadata, Value.IsJson, Value.IsJsonFields, Value.IsJsonElements, and_true,
      true_and]
    exact ordered_of_keys (by simp only [List.map_cons, List.map_nil]; decide)
  exact auditValue_isJson.mpr ⟨by simpa using hmetadata, by simp [sampleStep_isJson]⟩

/-- A step comes back from its text as it was. -/
theorem sampleStep_settled : (sampleStep 1).settled = sampleStep 1 ∧
    (sampleStep 2).settled = sampleStep 2 := by
  have hnumber : ∀ digits exponent, (ofDecimal binary64 false digits exponent).isFinite = true →
      (Value.number (ofDecimal binary64 false digits exponent)).settled =
        .number (ofDecimal binary64 false digits exponent) := by
    intro digits exponent hfinite
    obtain ⟨m, hm⟩ : ∃ m, ofDecimal binary64 false digits exponent = .finite false m := by
      rw [ofDecimal] at hfinite ⊢
      split
      · exact ⟨_, rfl⟩
      next hlarge =>
        rw [dif_neg hlarge] at hfinite
        cases hfinite
    rw [hm, Value.settled, Number.settled, Bool.false_and]
  simp only [sampleStep, Value.settled_object, List.map_cons, List.map_nil]
  rw [hnumber 1 0 (by decide +kernel), hnumber 2 0 (by decide +kernel),
    hnumber 125 (-1) (by decide +kernel), hnumber 502 0 (by decide +kernel)]
  exact ⟨rfl, rfl⟩

/-- The audit of two steps is documented, and accepted; with its steps in the other order it is
neither. -/
theorem validate_accepts_iff_sample :
    (∃ text, parse text = some (sampleAudit 1 2) ∧
      IsAppAudit Calendar.isoDatetime (sampleAudit 1 2) ∧
      ∃ data, validateDeviceAppAudit Calendar.isoDatetime (sampleAudit 1 2) = .ok data ∧
        DeepEqual data (sampleAudit 1 2)) ∧
    ∃ text, parse text = some (sampleAudit 2 1) ∧
      ¬ ∃ data, validateDeviceAppAudit Calendar.isoDatetime (sampleAudit 2 1) = .ok data := by
  have hsettled : (sampleAudit 1 2).settled = sampleAudit 1 2 ∧
      (sampleAudit 2 1).settled = sampleAudit 2 1 := by
    have hmetadata : sampleMetadata.settled = sampleMetadata := rfl
    simp only [sampleAudit, auditValue_settled, List.map_cons, List.map_nil, hmetadata,
      sampleStep_settled, and_self]
  constructor
  · have hjson := sampleAudit_isJson 1 2
    rcases Value.parse_stringify hjson with ⟨text, htext, hparse⟩
    rw [hsettled.1] at hparse
    have haudit : IsAppAudit Calendar.isoDatetime (sampleAudit 1 2) := by
      refine (isAppAudit_iff hjson).mpr ⟨by decide +kernel, fun steps hsteps => ?_⟩
      obtain rfl : [sampleStep 1, sampleStep 2] = steps := Value.array.inj hsteps
      rintro (_ | _ | index) step hstep
      · obtain rfl := Option.some.inj hstep
        decide +kernel
      · obtain rfl := Option.some.inj hstep
        decide +kernel
      · cases hstep
    have hsize : utf8Length 3 ((sampleAudit 1 2).stringify.getD []) ≤ 524288 := by decide +kernel
    rw [htext] at hsize
    rcases (validate_accepts_iff hparse).1.mpr ⟨haudit, text, htext, hsize⟩ with ⟨data, hdata⟩
    exact ⟨text, hparse, haudit, data, hdata, (validate_accepts_iff hparse).2 data hdata⟩
  · have hjson := sampleAudit_isJson 2 1
    rcases Value.parse_stringify hjson with ⟨text, htext, hparse⟩
    rw [hsettled.2] at hparse
    refine ⟨text, hparse, fun haccepted => ?_⟩
    have haudit := ((validate_accepts_iff hparse).1.mp haccepted).1
    have hnumbered := ((isAppAudit_iff hjson).mp haudit).2 _ rfl 0 (sampleStep 2) rfl
    exact absurd hnumbered (by decide +kernel)

end AppAudit
end R2RPC
