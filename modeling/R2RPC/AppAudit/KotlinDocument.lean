import R2RPC.AppAudit.KotlinRecorder

/-!
# The text of a Kotlin audit

What the server makes of the text that the device sends of an audit within the limits of the
recorder: the serializer writes the document, the wire carries it, and the server parses it
and writes it again to measure it.

Main results:

- Structure {lit}`AppAudit.Valid`: the limits of the recorder.
- Theorem {lit}`formatIsoTimestamp_iff`: the instants whose text the server takes.
- Theorem {lit}`auditLeavesOutNulls_arrived`: what is null in an audit is absent where it
  arrives.
- Theorem {lit}`accepted_audit_iff`: the server looks at the timestamps of such an audit, and
  at the length of its own text of it.

Current gaps:

- The serializer is one that does what its documentation says.
-/

set_option linter.dupNamespace false

namespace R2RPC
namespace AppAudit
namespace KotlinRecorder

open Utf16 Binary JavaScript Schema Calendar

/-! ## Timestamps -/

/-- The date of an instant, by the year of its era, is one of four digits that the Gregorian
calendar has. -/
def OnGregorianCalendar (instant : Int64) : Prop :=
  yearOfEra (calendarDate (dayOf instant.toInt)).year < 10000 ∧
    ((calendarDate (dayOf instant.toInt)).month = 2 →
      (calendarDate (dayOf instant.toInt)).day = 29 →
        gregorian.leap (yearOfEra (calendarDate (dayOf instant.toInt)).year) = true)
deriving Decidable

theorem isDate_calendarDate (day : Int) : ∃ rule : YearRule, rule.IsDate (calendarDate day) := by
  unfold calendarDate
  split
  · exact ⟨gregorian, gregorian.isDate_dateOf day⟩
  · exact ⟨julian, julian.isDate_dateOf day⟩

theorem formatIsoTimestamp_iff {datetime : JsString → Bool} (h : ChecksTimestamps datetime)
    (instant : Int64) :
    datetime (formatIsoTimestamp instant) = true ↔ OnGregorianCalendar instant := by
  rcases isDate_calendarDate (dayOf instant.toInt) with ⟨rule, hdate⟩
  rcases hdate.lt with ⟨hmonth, hday⟩
  rw [formatIsoTimestamp, OnGregorianCalendar]
  by_cases hyear : yearOfEra (calendarDate (dayOf instant.toInt)).year < 10000
  · have hcalendar := h.calendar
      ⟨yearOfEra (calendarDate (dayOf instant.toInt)).year,
        (calendarDate (dayOf instant.toInt)).month, (calendarDate (dayOf instant.toInt)).day⟩
      (timeWithinDay instant.toInt) (by dsimp only; omega) (by dsimp only; omega) hmonth hday
      (timeWithinDay_lt _)
    rw [YearRule.isDate_iff hdate, Int.toNat_natCast] at hcalendar
    simpa [hyear] using hcalendar
  · simp only [hyear, false_and, iff_false]
    intro hchecked
    rcases h.fourDigits _ hchecked with ⟨year, behind, hread⟩
    exact readDigits_long (by omega) (by omega) _ year behind hread

/-! ## The serializer -/

/-- What the documentation of the library says: a string is written as a JSON string, also
when it is an element, and what reads as a finite double is written as a finite number. -/
structure Serializer.Lawful (serializer : Serializer) (wire : Wire) : Prop where
  strings : ∀ text, Quotes (wire.carry (serializer.quote text)) (wire.carry text)
  literals : ∀ content, serializer.encode (.literal true content) = some (serializer.quote content)
  numbers : ∀ element content n text value, element.primitive = some (false, content) →
    serializer.doubleOrNull content = some n → n.isFinite = true →
      serializer.encode element = some text → parse (wire.carry text) = some value →
        ∃ read : JsNumber, value = .number read ∧ read.isFinite = true

/-- The element is written, as valid JSON. -/
def Serializer.EncodesJson (serializer : Serializer) (wire : Wire) (element : JsonElement) : Prop :=
  Tree.Readable wire (serializer.encode element)

section

variable {serializer : Serializer} {wire : Wire}

/-- A document whose leaves are written as JSON, under keys that arrive in order. -/
def Sound (serializer : Serializer) (wire : Wire) (tree : Tree) : Prop :=
  (∀ leaf ∈ tree.leaves serializer.quote, Tree.Readable wire leaf) ∧
    tree.WellKeyed serializer.quote wire

theorem sound_leaf {text : Option JsString} :
    Sound serializer wire (.leaf text) ↔ Tree.Readable wire text := by
  simp [Sound, Tree.leaves, Tree.WellKeyed]

theorem sound_array {elements : List Tree} (h : ∀ element ∈ elements, Sound serializer wire element) :
    Sound serializer wire (.array elements) := by
  rw [Sound, Tree.leaves, Tree.leavesOfElements_eq, Tree.WellKeyed, Tree.elementsWellKeyed_iff]
  refine ⟨fun leaf hleaf => ?_, fun element helement => (h element helement).2⟩
  rcases List.mem_flatMap.mp hleaf with ⟨element, helement, hmem⟩
  exact (h element helement).1 leaf hmem

/-- Keys of classes: no surrogates, and none that is moved in front of another. -/
def ClassKeys (keys : List JsString) : Prop :=
  (keys.Pairwise fun key later => key ≠ later ∧ precedes later key = false) ∧
    ∀ key ∈ keys, ∀ unit ∈ key, isHalf unit = false
deriving Decidable

theorem sound_object (hserializer : serializer.Lawful wire) {fields : List (JsString × Tree)}
    (hkeys : ClassKeys (fields.map (·.1))) (h : ∀ field ∈ fields, Sound serializer wire field.2) :
    Sound serializer wire (.object fields) := by
  have hquotes : ∀ field ∈ fields, Quotes (wire.carry (serializer.quote field.1)) field.1 := by
    intro field hfield
    have hplain := hkeys.2 field.1 (List.mem_map_of_mem hfield)
    simpa only [wire.carry_of_plain hplain] using hserializer.strings field.1
  rw [Sound, Tree.leaves, Tree.leavesOfFields_eq, Tree.WellKeyed, Tree.fieldsWellKeyed_iff]
  refine ⟨fun leaf hleaf => ?_, List.pairwise_map.mp hkeys.1,
    fun field hfield => ⟨hquotes field hfield, (h field hfield).2⟩⟩
  rcases List.mem_flatMap.mp hleaf with ⟨field, hfield, hmem⟩
  rcases List.mem_cons.mp hmem with rfl | hmem
  · exact ⟨_, _, rfl, (hquotes field hfield).reads.parse_eq⟩
  · exact (h field hfield).1 leaf hmem

theorem sound_stringTree (hserializer : serializer.Lawful wire) (text : JsString) :
    Sound serializer wire (serializer.stringTree text) :=
  sound_leaf.mpr ⟨_, _, rfl, (hserializer.strings text).reads.parse_eq⟩

theorem value_stringTree (hserializer : serializer.Lawful wire) (text : JsString) :
    (serializer.stringTree text).value wire = .string (wire.carry text) := by
  simp [Serializer.stringTree, Tree.value, (hserializer.strings text).reads.parse_eq]

/-! ### Whole numbers -/

theorem parse_integerText (wire : Wire) (n : Nat) :
    parse (wire.carry (integerText n)) = some (.number (ofDecimal binary64 false n 0)) := by
  have htext : integerText n = decimal n := by simp [integerText]
  rw [htext, carry_decimal]
  exact (reads_decimal n).parse_eq

theorem sound_integerTree (n : Nat) : Sound serializer wire (integerTree n) :=
  sound_leaf.mpr ⟨_, _, rfl, parse_integerText wire n⟩

theorem value_integerTree (n : Nat) :
    (integerTree n).value wire = .number (ofDecimal binary64 false n 0) := by
  simp [integerTree, Tree.value, parse_integerText]

/-- What a document arrives as is there. -/
theorem value_not_undefined (tree : Tree) : (tree.value wire).isUndefined = false := by
  cases tree with
  | leaf text =>
      rw [Tree.value]
      cases hparse : parse (wire.carry (text.getD [])) with
      | none => rfl
      | some value => exact isUndefined_of_isJson (parse_isJson hparse)
  | array elements => rfl
  | object fields => rfl

/-! ### Objects of classes -/

namespace Properties

variable {properties : Properties}

theorem forall_fields {P : JsString × Tree → Prop} :
    (∀ field ∈ properties.fields, P field) ↔
      ∀ property ∈ properties, ∀ tree ∈ property.2, P (property.1, tree) := by
  simp only [fields, List.mem_filterMap, Option.map_eq_some_iff, forall_exists_index, and_imp]
  constructor
  · exact fun h property hproperty tree htree => h _ property hproperty tree htree rfl
  · rintro h field property hproperty tree htree rfl
    exact h property hproperty tree htree

theorem keys_sublist (properties : Properties) :
    (properties.fields.map (·.1)).Sublist (properties.map (·.1)) := by
  induction properties with
  | nil => exact .refl _
  | cons property properties ih =>
      rcases property with ⟨key, tree⟩
      cases tree with
      | none => exact ih.cons key
      | some tree => exact ih.cons_cons key

theorem classKeys_fields (h : ClassKeys (properties.map (·.1))) :
    ClassKeys (properties.fields.map (·.1)) :=
  ⟨h.1.sublist properties.keys_sublist, fun key hkey => h.2 key (properties.keys_sublist.subset hkey)⟩

theorem sound (hserializer : serializer.Lawful wire) (hkeys : ClassKeys (properties.map (·.1)))
    (h : ∀ property ∈ properties, ∀ tree ∈ property.2, Sound serializer wire tree) :
    Sound serializer wire properties.tree :=
  sound_object hserializer (classKeys_fields hkeys)
    ((forall_fields (P := fun field => Sound serializer wire field.2)).mpr h)

/-- The keys that arrive are those of the properties that are not null. -/
theorem keys_value (properties : Properties) :
    (Tree.valueOfFields wire properties.fields).map (·.1) =
      (properties.filter fun property => property.2.isSome).map (·.1) := by
  rw [Tree.valueOfFields_eq, List.map_map]
  induction properties with
  | nil => rfl
  | cons property properties ih =>
      rcases property with ⟨key, tree⟩
      cases tree with
      | none => exact ih
      | some tree => exact congrArg (key :: ·) ih

/-- A strict schema takes an object of a class when it takes each property that is not null. -/
theorem accepted_iff {shape : List Property} (hkeys : ClassKeys (properties.map (·.1)))
    (hshape : (shape.map (·.key)).Nodup)
    (hrequired : ∀ property ∈ shape, property.optional = false →
      ∃ tree, (property.key, some tree) ∈ properties) :
    (strictObject shape (properties.tree.value wire)).isSome = true ↔
      ∀ property ∈ properties, ∀ tree ∈ property.2,
        (checkOf shape property.1 (tree.value wire)).isSome = true := by
  have hnodup : ((Tree.valueOfFields wire properties.fields).map (·.1)).Nodup := by
    rw [Tree.valueOfFields_eq, List.map_map]
    exact (classKeys_fields hkeys).1.imp fun hne => hne.1
  have hdefined : ∀ field ∈ Tree.valueOfFields wire properties.fields,
      field.2.isUndefined = false := by
    rw [Tree.valueOfFields_eq, List.forall_mem_map]
    exact fun field _ => value_not_undefined field.2
  have hthere : (shape.all fun property => property.optional ||
      ((Tree.valueOfFields wire properties.fields).map (·.1)).contains property.key) = true := by
    rw [List.all_eq_true]
    intro property hproperty
    cases hoptional : property.optional with
    | true => rfl
    | false =>
        rcases hrequired property hproperty hoptional with ⟨tree, htree⟩
        rw [keys_value, Bool.false_or, List.contains_iff_mem]
        exact List.mem_map.mpr ⟨_, List.mem_filter.mpr ⟨htree, rfl⟩, rfl⟩
  rw [tree, Tree.value, strictObject_isSome hshape hnodup hdefined hthere, Tree.valueOfFields_eq,
    List.forall_mem_map]
  exact forall_fields (P := fun field => (checkOf shape field.1 (field.2.value wire)).isSome = true)

end Properties

/-! ## What the server takes -/

/-- The server looks at the length of a string, which the wire keeps. -/
theorem stringBetween_stringTree (hserializer : serializer.Lawful wire) {minimum maximum : Nat}
    {text : JsString} (h : minimum ≤ text.length ∧ text.length ≤ maximum) :
    (stringBetween minimum maximum ((serializer.stringTree text).value wire)).isSome = true := by
  simp [value_stringTree hserializer, stringBetween, wire.carry_length, h]

theorem classKeys_metadata (item : AppAuditMetadata) :
    ClassKeys ((serializer.metadataProperties item).map (·.1)) := by
  simp only [Serializer.metadataProperties, List.map_cons, List.map_nil]
  decide

theorem classKeys_request (request : AppAuditRequest) :
    ClassKeys ((serializer.requestProperties request).map (·.1)) := by
  simp only [Serializer.requestProperties, List.map_cons, List.map_nil]
  decide

theorem classKeys_response (response : AppAuditResponse) :
    ClassKeys ((serializer.responseProperties response).map (·.1)) := by
  simp only [Serializer.responseProperties, List.map_cons, List.map_nil]
  decide

theorem classKeys_error (error : AppAuditError) :
    ClassKeys ((serializer.errorProperties error).map (·.1)) := by
  simp only [Serializer.errorProperties, List.map_cons, List.map_nil]
  decide

theorem classKeys_step (step : AppAuditStep) :
    ClassKeys ((serializer.stepProperties step).map (·.1)) := by
  simp only [Serializer.stepProperties, List.map_cons, List.map_nil]
  decide

theorem metadata_accepted (hserializer : serializer.Lawful wire) {item : AppAuditMetadata}
    (h : 1 ≤ item.key.length ∧ item.key.length ≤ 100) :
    (strictObject metadataShape ((serializer.metadataProperties item).tree.value wire)).isSome =
      true := by
  refine (Properties.accepted_iff (classKeys_metadata item) (by decide) ?_).mpr ?_
  · simp [metadataShape, Serializer.metadataProperties]
  · simp only [Serializer.metadataProperties, List.forall_mem_cons, List.not_mem_nil, false_implies,
      implies_true, and_true, Option.mem_def, Option.some.injEq, forall_eq']
    exact ⟨stringBetween_stringTree hserializer h, rfl⟩

theorem request_accepted (hserializer : serializer.Lawful wire) {request : AppAuditRequest}
    (h : request.Valid) :
    (strictObject requestShape ((serializer.requestProperties request).tree.value wire)).isSome =
      true := by
  refine (Properties.accepted_iff (classKeys_request request) (by decide)
    (by simp [requestShape])).mpr ?_
  simp only [Serializer.requestProperties, List.forall_mem_cons, List.not_mem_nil, false_implies,
    implies_true, and_true, Option.forall_mem_map]
  refine ⟨fun method hmethod => ?_, fun url hurl => ?_, fun _ _ => rfl, fun _ _ => rfl⟩
  · exact stringBetween_stringTree hserializer (h.1 method hmethod)
  · exact stringBetween_stringTree hserializer ⟨Nat.zero_le _, h.2 url hurl⟩

/-- A whole number within bounds passes them. -/
theorem integerBetween_integerTree {minimum maximum : Int} {n : Nat} (hsmall : n ≤ 1000)
    (h : minimum ≤ n ∧ (n : Int) ≤ maximum) :
    (integerBetween minimum maximum ((integerTree n).value wire)).isSome = true := by
  have hinteger : (ofDecimal binary64 false n 0).toInt = some (n : Int) :=
    toInt_ofDecimal (le_trans hsmall (by decide)) (by decide)
  simp [value_integerTree, integerBetween, hinteger, Number.isFinite_of_toInt hinteger, h]

theorem bodyFormat_accepted (hserializer : serializer.Lawful wire) (format : AppAuditBodyFormat) :
    (bodyFormat ((serializer.stringTree format.serialName).value wire)).isSome = true := by
  have hplain : ∀ unit ∈ format.serialName, isHalf unit = false := by cases format <;> decide
  rw [value_stringTree hserializer, wire.carry_of_plain hplain]
  cases format <;> rfl

theorem response_accepted (hserializer : serializer.Lawful wire) {response : AppAuditResponse}
    (h : response.Valid) :
    (strictObject responseShape ((serializer.responseProperties response).tree.value wire)).isSome =
      true := by
  refine (Properties.accepted_iff (classKeys_response response) (by decide)
    (by simp [responseShape])).mpr ?_
  simp only [Serializer.responseProperties, List.forall_mem_cons, List.not_mem_nil, false_implies,
    implies_true, and_true, Option.forall_mem_map]
  refine ⟨fun code hcode => ?_, fun _ _ => rfl, fun format _ => bodyFormat_accepted hserializer format,
    fun _ _ => rfl⟩
  rcases h code hcode with ⟨hlow, hhigh⟩
  rcases Int.eq_ofNat_of_zero_le hlow with ⟨n, hn⟩
  rw [hn] at hhigh ⊢
  exact integerBetween_integerTree (by omega) ⟨by omega, hhigh⟩

theorem error_accepted (hserializer : serializer.Lawful wire) {error : AppAuditError}
    (h : error.Valid) :
    (strictObject errorShape ((serializer.errorProperties error).tree.value wire)).isSome = true := by
  refine (Properties.accepted_iff (classKeys_error error) (by decide)
    (by simp [errorShape])).mpr ?_
  simp only [Serializer.errorProperties, List.forall_mem_cons, List.not_mem_nil, false_implies,
    implies_true, and_true, Option.forall_mem_map]
  refine ⟨fun type htype => ?_, fun code hcode => ?_, fun message hmessage => ?_⟩
  · exact stringBetween_stringTree hserializer ⟨Nat.zero_le _, h.1 type htype⟩
  · exact stringBetween_stringTree hserializer ⟨Nat.zero_le _, h.2.1 code hcode⟩
  · exact stringBetween_stringTree hserializer ⟨Nat.zero_le _, h.2.2 message hmessage⟩

/-- A status that the recorder takes is one that the server takes. -/
theorem status_accepted (hserializer : serializer.Lawful wire) {status : JsonElement}
    (hvalid : status.ValidStatus serializer) (hencodes : serializer.EncodesJson wire status) :
    (either finiteNumber (stringBetween 0 100)
      ((serializer.elementTree status).value wire)).isSome = true := by
  rcases hvalid with ⟨isString, content, hprimitive, hvalid⟩
  rcases hencodes with ⟨text, value, htext, hvalue⟩
  have harrives : (serializer.elementTree status).value wire = value := by
    simp [Serializer.elementTree, Tree.value, htext, hvalue]
  cases isString with
  | true =>
      have hliteral : status = .literal true content := by
        cases status <;> simp_all [JsonElement.primitive]
      subst hliteral
      rw [hserializer.literals, Option.some.injEq] at htext
      subst htext
      rw [(hserializer.strings content).reads.parse_eq, Option.some.injEq] at hvalue
      rw [harrives, ← hvalue]
      simp only [if_true] at hvalid
      simp [either, finiteNumber, stringBetween, wire.carry_length, hvalid]
  | false =>
      simp only [Bool.false_eq_true, if_false] at hvalid
      rcases hvalid with ⟨n, hn, hfinite⟩
      rcases hserializer.numbers status content n text value hprimitive hn hfinite htext hvalue with
        ⟨read, rfl, hread⟩
      simp [harrives, either, finiteNumber, hread]

/-! ### Steps -/

/-- What the recorder keeps of a step at its place. -/
structure AppAuditStep.Valid (serializer : Serializer) (step : AppAuditStep) (index : Nat) : Prop where
  sequence : step.sequence = index + 1
  code : ∀ code ∈ step.code, code.length ≤ 100
  name : 1 ≤ step.name.length ∧ step.name.length ≤ 200
  startedAt : ∃ instant, step.startedAt = formatIsoTimestamp instant
  durationMs : step.durationMs < 2 ^ 63
  status : ∀ status ∈ step.status, status.ValidStatus serializer
  request : ∀ request ∈ step.request, request.Valid
  response : ∀ response ∈ step.response, response.Valid
  error : ∀ error ∈ step.error, error.Valid

def AppAuditStep.elements (step : AppAuditStep) : List JsonElement :=
  step.status.toList ++ (step.request.toList.flatMap AppAuditRequest.elements ++
    step.response.toList.flatMap AppAuditResponse.elements)

theorem not_isHalf_of_isDigit {unit : UInt16} (h : isDigit unit = true) : isHalf unit = false := by
  simp only [isDigit, Bool.and_eq_true, decide_eq_true_eq, UInt16.le_iff_toNat_le] at h
  refine not_isHalf_of_lt (UInt16.lt_iff_toNat_lt.mpr ?_)
  exact lt_of_le_of_lt h.2 (by decide)

/-- A timestamp arrives as it is. -/
theorem carry_formatIsoTimestamp (instant : Int64) :
    wire.carry (formatIsoTimestamp instant) = formatIsoTimestamp instant := by
  refine wire.carry_of_plain fun unit hunit => ?_
  have hdigit : ∀ {width n}, unit ∈ pad width n → isHalf unit = false :=
    fun hmem => not_isHalf_of_isDigit (isDigit_of_mem_pad hmem)
  simp only [formatIsoTimestamp, behindYear, List.mem_append, List.mem_cons, List.not_mem_nil,
    or_false] at hunit
  rcases hunit with h | rfl | h | rfl | h | rfl | h | rfl | h | rfl | h | rfl | h | rfl
  all_goals first | exact hdigit h | decide

theorem whole_nonnegative {n : Nat} (h : n < 2 ^ 63) :
    (nonnegativeNumber ((integerTree n).value wire)).isSome = true := by
  rcases ofDecimal_whole (F := binary64) h (by decide) (by decide) false with ⟨m, hm⟩
  rw [value_integerTree, hm]
  rfl

theorem step_required (datetime : JsString → Bool) (step : AppAuditStep) :
    ∀ property ∈ stepShape datetime, property.optional = false →
      ∃ tree, (property.key, some tree) ∈ serializer.stepProperties step := by
  simp only [stepShape, List.forall_mem_cons, List.not_mem_nil, false_implies, implies_true,
    and_true, reduceCtorEq, forall_const, true_and]
  refine ⟨⟨_, List.mem_cons_self⟩, ⟨_, .tail _ (.tail _ List.mem_cons_self)⟩,
    ⟨_, .tail _ (.tail _ (.tail _ List.mem_cons_self))⟩,
    ⟨_, .tail _ (.tail _ (.tail _ (.tail _ List.mem_cons_self)))⟩⟩

/-- The server looks at the timestamp only: the recorder has checked everything else. -/
theorem step_accepted_iff (hserializer : serializer.Lawful wire) {datetime : JsString → Bool}
    {step : AppAuditStep} {index : Nat} (h : step.Valid serializer index)
    (hindex : index < appAuditMaxSteps)
    (hencodes : ∀ element ∈ step.elements, serializer.EncodesJson wire element) :
    (strictObject (stepShape datetime) ((serializer.stepProperties step).tree.value wire)).isSome =
      true ↔ datetime step.startedAt = true := by
  rcases h.startedAt with ⟨instant, hinstant⟩
  have hsmall : index < 128 := hindex
  have hsequence : (integerBetween 1 appAuditMaxSteps
      ((integerTree step.sequence).value wire)).isSome = true := by
    rw [h.sequence]
    refine integerBetween_integerTree (by omega) ⟨by omega, ?_⟩
    exact_mod_cast hindex
  have hstatus : ∀ status ∈ step.status, (either finiteNumber (stringBetween 0 100)
      ((serializer.elementTree status).value wire)).isSome = true := by
    intro status hmem
    refine status_accepted hserializer (h.status status hmem) (hencodes status ?_)
    rw [Option.mem_def] at hmem
    simp [AppAuditStep.elements, hmem]
  have hstartedAt : (timestamp datetime ((serializer.stringTree step.startedAt).value wire)).isSome =
      true ↔ datetime step.startedAt = true := by
    rw [value_stringTree hserializer, hinstant, carry_formatIsoTimestamp]
    simp [timestamp]
  rw [Properties.accepted_iff (classKeys_step step) stepShape_nodup (step_required datetime step)]
  simp only [Serializer.stepProperties, List.forall_mem_cons, List.not_mem_nil, false_implies,
    implies_true, and_true, Option.forall_mem_map]
  simp only [Option.mem_def, Option.some.injEq, forall_eq']
  constructor
  · exact fun hall => hstartedAt.mp hall.2.2.2.1
  · intro hdatetime
    refine ⟨hsequence, fun code hcode => ?_, ?_, hstartedAt.mpr hdatetime,
      whole_nonnegative h.durationMs, hstatus, ?_, ?_, ?_⟩
    · exact stringBetween_stringTree hserializer ⟨Nat.zero_le _, h.code code hcode⟩
    · exact stringBetween_stringTree hserializer h.name
    · exact fun request hrequest => request_accepted hserializer (h.request request hrequest)
    · exact fun response hresponse => response_accepted hserializer (h.response response hresponse)
    · exact fun error herror => error_accepted hserializer (h.error error herror)

/-! ### Audits -/

def AppAudit.elements (audit : AppAudit) : List JsonElement :=
  audit.metadata.map (·.value) ++ audit.steps.flatMap AppAuditStep.elements

/-- The limits of the recorder. -/
structure AppAudit.Valid (serializer : Serializer) (audit : AppAudit) : Prop where
  title : 1 ≤ audit.title.length ∧ audit.title.length ≤ 200
  metadata : audit.metadata.length ≤ maximumMetadataCount
  keys : ∀ item ∈ audit.metadata, 1 ≤ item.key.length ∧ item.key.length ≤ 100
  count : audit.steps.length ≤ maximumStepCount
  steps : ∀ (index : Nat) (step : AppAuditStep),
    audit.steps[index]? = some step → step.Valid serializer index

theorem sound_elementTree {element : JsonElement} (h : serializer.EncodesJson wire element) :
    Sound serializer wire (serializer.elementTree element) :=
  sound_leaf.mpr h

theorem sound_metadata (hserializer : serializer.Lawful wire) {item : AppAuditMetadata}
    (h : serializer.EncodesJson wire item.value) :
    Sound serializer wire (serializer.metadataProperties item).tree := by
  refine Properties.sound hserializer (classKeys_metadata item) ?_
  simp only [Serializer.metadataProperties, List.forall_mem_cons, List.not_mem_nil, false_implies,
    implies_true, and_true, Option.mem_def, Option.some.injEq, forall_eq']
  exact ⟨sound_stringTree hserializer item.key, sound_elementTree h⟩

theorem sound_request (hserializer : serializer.Lawful wire) {request : AppAuditRequest}
    (h : ∀ element ∈ request.elements, serializer.EncodesJson wire element) :
    Sound serializer wire (serializer.requestProperties request).tree := by
  simp only [AppAuditRequest.elements, List.forall_mem_append, Option.mem_toList] at h
  refine Properties.sound hserializer (classKeys_request request) ?_
  simp only [Serializer.requestProperties, List.forall_mem_cons, List.not_mem_nil, false_implies,
    implies_true, and_true, Option.forall_mem_map]
  exact ⟨fun method _ => sound_stringTree hserializer method,
    fun url _ => sound_stringTree hserializer url,
    fun headers hheaders => sound_elementTree (h.1 headers hheaders),
    fun body hbody => sound_elementTree (h.2 body hbody)⟩

theorem sound_response (hserializer : serializer.Lawful wire) {response : AppAuditResponse}
    (hvalid : response.Valid)
    (h : ∀ element ∈ response.elements, serializer.EncodesJson wire element) :
    Sound serializer wire (serializer.responseProperties response).tree := by
  simp only [AppAuditResponse.elements, List.forall_mem_append, Option.mem_toList] at h
  refine Properties.sound hserializer (classKeys_response response) ?_
  simp only [Serializer.responseProperties, List.forall_mem_cons, List.not_mem_nil, false_implies,
    implies_true, and_true, Option.forall_mem_map]
  refine ⟨fun code hcode => ?_, fun headers hheaders => sound_elementTree (h.1 headers hheaders),
    fun format _ => sound_stringTree hserializer format.serialName,
    fun body hbody => sound_elementTree (h.2 body hbody)⟩
  rcases Int.eq_ofNat_of_zero_le (hvalid code hcode).1 with ⟨n, hn⟩
  rw [hn]
  exact sound_integerTree n

theorem sound_error (hserializer : serializer.Lawful wire) (error : AppAuditError) :
    Sound serializer wire (serializer.errorProperties error).tree := by
  refine Properties.sound hserializer (classKeys_error error) ?_
  simp only [Serializer.errorProperties, List.forall_mem_cons, List.not_mem_nil, false_implies,
    implies_true, and_true, Option.forall_mem_map]
  exact ⟨fun type _ => sound_stringTree hserializer type,
    fun code _ => sound_stringTree hserializer code,
    fun message _ => sound_stringTree hserializer message⟩

theorem sound_step (hserializer : serializer.Lawful wire) {step : AppAuditStep} {index : Nat}
    (hvalid : step.Valid serializer index)
    (h : ∀ element ∈ step.elements, serializer.EncodesJson wire element) :
    Sound serializer wire (serializer.stepProperties step).tree := by
  simp only [AppAuditStep.elements, List.forall_mem_append, List.forall_mem_flatMap,
    Option.mem_toList] at h
  refine Properties.sound hserializer (classKeys_step step) ?_
  simp only [Serializer.stepProperties, List.forall_mem_cons, List.not_mem_nil, false_implies,
    implies_true, and_true, Option.forall_mem_map]
  simp only [Option.mem_def, Option.some.injEq, forall_eq']
  refine ⟨sound_integerTree step.sequence, fun code _ => sound_stringTree hserializer code,
    sound_stringTree hserializer step.name, sound_stringTree hserializer step.startedAt,
    sound_integerTree step.durationMs, fun status hstatus => sound_elementTree (h.1 status hstatus),
    ?_, ?_, fun error _ => sound_error hserializer error⟩
  · exact fun request hrequest => sound_request hserializer (h.2.1 request hrequest)
  · exact fun response hresponse =>
      sound_response hserializer (hvalid.response response hresponse) (h.2.2 response hresponse)

/-- What the server parses: every document at its place. -/
def Serializer.arrived (serializer : Serializer) (wire : Wire) (audit : AppAudit) : Value :=
  auditValue (wire.carry audit.title)
    (audit.metadata.map fun item => (serializer.metadataProperties item).tree.value wire)
    (audit.steps.map fun step => (serializer.stepProperties step).tree.value wire)

theorem value_auditTree (hserializer : serializer.Lawful wire) (audit : AppAudit) :
    (serializer.auditTree audit).value wire = serializer.arrived wire audit := by
  have hversion : (integerTree 1).value wire = .number (ofDecimal binary64 false 1 0) :=
    value_integerTree 1
  simp only [Serializer.auditTree, Tree.value, Tree.valueOfFields, hversion,
    value_stringTree hserializer, Tree.valueOfElements_eq, List.map_map, Serializer.arrived,
    auditValue, Function.comp_def]

theorem sound_audit (hserializer : serializer.Lawful wire) {audit : AppAudit}
    (hvalid : audit.Valid serializer)
    (h : ∀ element ∈ audit.elements, serializer.EncodesJson wire element) :
    Sound serializer wire (serializer.auditTree audit) := by
  simp only [AppAudit.elements, List.forall_mem_append, List.forall_mem_map,
    List.forall_mem_flatMap] at h
  have hmetadata : Sound serializer wire (.array (audit.metadata.map fun item =>
      (serializer.metadataProperties item).tree)) := by
    refine sound_array (List.forall_mem_map.mpr fun item hitem => ?_)
    exact sound_metadata hserializer (h.1 item hitem)
  have hsteps : Sound serializer wire (.array (audit.steps.map fun step =>
      (serializer.stepProperties step).tree)) := by
    refine sound_array (List.forall_mem_map.mpr fun step hstep => ?_)
    rcases List.getElem?_of_mem hstep with ⟨index, hindex⟩
    exact sound_step hserializer (hvalid.steps index step hindex) (h.2 step hstep)
  refine sound_object hserializer ?_ ?_
  · simp only [List.map_cons, List.map_nil]
    decide
  · simp only [List.forall_mem_cons, List.not_mem_nil, false_implies, implies_true, and_true]
    exact ⟨sound_integerTree 1, sound_stringTree hserializer _, hmetadata, hsteps⟩

/-! ### Null fields -/

/-- An object with the keys of the properties that are not null, and no others. -/
def LeavesOutNulls (properties : Properties) (value : Value) : Prop :=
  ∃ fields, value = .object true fields ∧
    fields.map (·.1) = (properties.filter fun property => property.2.isSome).map (·.1)

/-- The objects of a step leave out what is null. -/
def Serializer.StepLeavesOutNulls (serializer : Serializer) (step : AppAuditStep) (value : Value) :
    Prop :=
  LeavesOutNulls (serializer.stepProperties step) value ∧
    (∀ request ∈ step.request,
      LeavesOutNulls (serializer.requestProperties request) (value.get (lit "request"))) ∧
    (∀ response ∈ step.response,
      LeavesOutNulls (serializer.responseProperties response) (value.get (lit "response"))) ∧
    ∀ error ∈ step.error,
      LeavesOutNulls (serializer.errorProperties error) (value.get (lit "error"))

/-- The objects of all steps leave out what is null. -/
def Serializer.AuditLeavesOutNulls (serializer : Serializer) (audit : AppAudit) (parsed : Value) :
    Prop :=
  ∃ steps, parsed.get (lit "steps") = .array steps ∧
    List.Forall₂ serializer.StepLeavesOutNulls audit.steps steps

theorem leavesOutNulls_value (properties : Properties) :
    LeavesOutNulls properties (properties.tree.value wire) :=
  ⟨_, by rw [Properties.tree, Tree.value], properties.keys_value⟩

/-- An object of a class has its properties. -/
theorem get_property (wire : Wire) {properties : Properties} {key : JsString} {tree : Tree}
    (hkeys : ClassKeys (properties.map (·.1))) (h : (key, some tree) ∈ properties) :
    (properties.tree.value wire).get key = tree.value wire := by
  have hnodup : ((Tree.valueOfFields wire properties.fields).map (·.1)).Nodup := by
    rw [Tree.valueOfFields_eq, List.map_map]
    exact (Properties.classKeys_fields hkeys).1.imp fun hne => hne.1
  have hfield : (key, tree) ∈ properties.fields :=
    List.mem_filterMap.mpr ⟨_, h, rfl⟩
  have hlookup : lookup (Tree.valueOfFields wire properties.fields) key = some (tree.value wire) := by
    rw [lookup_eq_some hnodup, Tree.valueOfFields_eq]
    exact List.mem_map_of_mem (f := fun field => (field.1, Tree.value wire field.2)) hfield
  rw [Properties.tree, Tree.value, Value.get, hlookup, Option.getD_some]

theorem stepLeavesOutNulls_value (step : AppAuditStep) :
    serializer.StepLeavesOutNulls step ((serializer.stepProperties step).tree.value wire) := by
  refine ⟨leavesOutNulls_value _, fun request hrequest => ?_, fun response hresponse => ?_,
    fun error herror => ?_⟩
  · have hproperty : (lit "request", some (serializer.requestProperties request).tree) ∈
        serializer.stepProperties step := by
      simp [Serializer.stepProperties, Option.mem_def.mp hrequest]
    rw [get_property wire (classKeys_step step) hproperty]
    exact leavesOutNulls_value _
  · have hproperty : (lit "response", some (serializer.responseProperties response).tree) ∈
        serializer.stepProperties step := by
      simp [Serializer.stepProperties, Option.mem_def.mp hresponse]
    rw [get_property wire (classKeys_step step) hproperty]
    exact leavesOutNulls_value _
  · have hproperty : (lit "error", some (serializer.errorProperties error).tree) ∈
        serializer.stepProperties step := by
      simp [Serializer.stepProperties, Option.mem_def.mp herror]
    rw [get_property wire (classKeys_step step) hproperty]
    exact leavesOutNulls_value _

theorem auditLeavesOutNulls_arrived (audit : AppAudit) :
    serializer.AuditLeavesOutNulls audit (serializer.arrived wire audit) := by
  refine ⟨_, rfl, ?_⟩
  rw [List.forall₂_map_right_iff, List.forall₂_same]
  exact fun step _ => stepLeavesOutNulls_value step

/-! ### Acceptance -/

theorem numbered_step {step : AppAuditStep} {index : Nat} (h : step.Valid serializer index)
    (hindex : index < appAuditMaxSteps) :
    numbered ((serializer.stepProperties step).tree.value wire) index = true := by
  have hsmall : index < 128 := hindex
  have hinteger : (ofDecimal binary64 false step.sequence 0).toInt = some (step.sequence : Int) :=
    toInt_ofDecimal (le_trans (show step.sequence ≤ 128 by rw [h.sequence]; omega) (by decide))
      (by decide)
  have hproperty : (lit "sequence", some (integerTree step.sequence)) ∈
      serializer.stepProperties step := List.mem_cons_self
  have hget := get_property wire (classKeys_step step) hproperty
  rw [h.sequence, Nat.cast_add, Nat.cast_one] at hinteger
  rw [numbered, hget, value_integerTree, h.sequence]
  simp [hinteger]

/-- What the server makes of the text of an audit within the limits of its recorder. -/
theorem accepted_audit_iff (hserializer : serializer.Lawful wire) (datetime : JsString → Bool)
    {audit : AppAudit} {text : JsString} (hvalid : audit.Valid serializer)
    (helements : ∀ element ∈ audit.elements, serializer.EncodesJson wire element)
    (htext : serializer.encodeToString audit = some text) :
    parse (wire.carry text) = some (serializer.arrived wire audit) ∧
      ((∃ data, validateDeviceAppAudit datetime (serializer.arrived wire audit) = .ok data) ↔
        (utf8Length 1 text : Int) + (serializer.auditTree audit).growth serializer.quote wire ≤
          appAuditMaxBytes ∧
        ∀ step ∈ audit.steps, datetime step.startedAt = true) := by
  have hsound := sound_audit hserializer hvalid helements
  have harrives := Tree.arrives hsound.1 hsound.2
  have hwritten : (serializer.auditTree audit).write serializer.quote = text := by
    rw [Serializer.encodeToString, Tree.encode] at htext
    split_ifs at htext
    exact Option.some.inj htext
  rw [hwritten, value_auditTree hserializer] at harrives
  rcases harrives.bytes with ⟨encoded, hencoded, hbytes⟩
  refine ⟨harrives.stands.parse_eq, ?_⟩
  have hindexed : ∀ step ∈ audit.steps, ∃ index, index < appAuditMaxSteps ∧
      step.Valid serializer index := by
    intro step hstep
    rcases List.getElem?_of_mem hstep with ⟨index, hindex⟩
    exact ⟨index, lt_of_lt_of_le (List.getElem?_eq_some_iff.mp hindex).1 hvalid.count,
      hvalid.steps index step hindex⟩
  have htitle : 1 ≤ (wire.carry audit.title).length ∧ (wire.carry audit.title).length ≤ 200 := by
    rw [wire.carry_length]
    exact hvalid.title
  have hmetadata : ∀ item ∈ audit.metadata.map fun item =>
      (serializer.metadataProperties item).tree.value wire,
      (strictObject metadataShape item).isSome = true :=
    List.forall_mem_map.mpr fun item hitem =>
      metadata_accepted hserializer (hvalid.keys item hitem)
  have hnumbered : ∀ index step,
      (audit.steps.map fun step => (serializer.stepProperties step).tree.value wire)[index]? =
        some step → numbered step index = true := by
    intro index value hvalue
    rw [List.getElem?_map] at hvalue
    rcases Option.map_eq_some_iff.mp hvalue with ⟨step, hstep, rfl⟩
    have hindex := (List.getElem?_eq_some_iff.mp hstep).1
    exact numbered_step (hvalid.steps index step hstep) (lt_of_lt_of_le hindex hvalid.count)
  rw [Serializer.arrived, validate_isOk_iff harrives.json htitle
    ⟨by rw [List.length_map]; exact hvalid.metadata, hmetadata⟩
    (by rw [List.length_map]; exact hvalid.count) hnumbered hencoded, List.forall_mem_map]
  refine and_congr (by rw [← hbytes]; exact Nat.cast_le.symm) (forall₂_congr fun step hstep => ?_)
  rcases hindexed step hstep with ⟨index, hindex, hstepValid⟩
  refine step_accepted_iff hserializer hstepValid hindex fun element helement => helements element ?_
  exact List.mem_append_right _ (List.mem_flatMap.mpr ⟨step, hstep, helement⟩)

end

end KotlinRecorder
end AppAudit
end R2RPC
