import R2RPC.Audit.Controllers
import R2RPC.Audit.Disclosure
import R2RPC.Library.Varchar

/-!
# The columns of the audit table

What {lit}`system_logs` takes, and which requests make an entry that it does not take: the
entry is then only logged, and the request stays without an audit row.

Main results:

- Definition {lit}`Accepts`: the constraints of the table.
- Theorem {lit}`metadata_strings`: which strings reach the metadata.
- Theorem {lit}`wellFormed_of_used`: the texts of every definition fit.
- Theorem {lit}`accepts_iff`: exactly when the entry of a request fits, for every definition
  that is declared or inferred.

Current gaps:

- Metadata nested so deep that a store runs out of stack.
-/

namespace R2RPC
namespace Audit

open Utf16 Binary JavaScript Varchar

/-! ## The table -/

/-- A value without objects, all of whose strings have a property. -/
inductive Strings (P : JsString → Prop) : Value → Prop where
  | null : Strings P .null
  | boolean (value : Bool) : Strings P (.boolean value)
  | number (value : JsNumber) : Strings P (.number value)
  | string {text : JsString} (h : P text) : Strings P (.string text)
  | array {elements : List Value} (h : ∀ element ∈ elements, Strings P element) :
      Strings P (.array elements)

/-- No string in a value has a NUL. -/
abbrev NoNul : Value → Prop := Strings fun text => nulFree text = true

/-- A value for `jsonb`. -/
abbrev Jsonb : Value → Prop := Strings FitsJsonb

/-- The constraints of `systemLogs`. -/
structure Accepts (row : CreateSystemLogInput) : Prop where
  name : Fits 128 row.name
  description : Fits 1024 row.description
  actorUserId : IsInteger row.actorUserId
  actorUsername : Fits 64 row.actorUsername
  action : Fits 64 row.action
  subject : FitsNotNull 64 row.subject
  targetType : FitsNotNull 64 row.targetType
  targetId : FitsNullable 128 row.targetId
  targetName : FitsNullable 128 row.targetName
  metadata : ∀ entry ∈ row.metadata, FitsJsonb entry.1 ∧ Jsonb entry.2
  method : Fits 16 row.method
  route : Fits 255 row.route
  status : Fits 16 row.status.text
  statusCode : IsInteger row.statusCode
  errorMessage : FitsNullable 1024 row.errorMessage
  ipAddress : FitsNullable 64 row.ipAddress
  userAgent : FitsNullable 512 row.userAgent

/-- A definition that an entry of this request is built with. -/
inductive Used (request : AuthedRequest) : SystemAuditDefinition → Prop where
  | declared {handler : Handler} (h : handler ∈ auditedHandlers) :
      Used request handler.systemAudit
  | inferred {definition : SystemAuditDefinition}
      (h : inferSystemAuditDefinition request = some definition) : Used request definition

/-! ## What a request may hold -/

/-- A value that is taken for an identifier. -/
def isIdentifier : Value → Bool
  | .string text => text != []
  | .number value => value.isFinite
  | _ => false

/-- A text fits as far as it is read; numbers do. -/
def ReadsFit (limit : Nat) : Value → Prop
  | .string text => Fits limit (text.take 128)
  | _ => True

/-- The identifier that is read fits: the first one, or the second in its absence. -/
def IdentifierFits (limit : Nat) (first second : Value) : Prop :=
  (isIdentifier first = true → ReadsFit limit first) ∧
    (isIdentifier first = false → ReadsFit limit second)

/-- A number that is a positive integer is small enough. -/
def PositiveIdFits : Value → Prop
  | .number number => ∀ id, number.toInt = some id → 0 < id → IsInteger id
  | _ => True

/-- The address that stands first in `X-Forwarded-For`, or else the peer, fits. -/
def AddressFits (request : AuthedRequest) : Prop :=
  match request.header (lit "x-forwarded-for") with
  | some (.one text) => Fits 64 (trim (text.takeWhile (· != 44)))
  | some (.many (text :: _)) => Fits 64 (trim (text.takeWhile (· != 44)))
  | _ => FitsNullable 64 (request.ip.or request.remoteAddress)

/-- The input of `buildSystemAuditEntry` holds nothing that a column refuses. -/
structure Recordable (input : BuildSystemAuditEntryInput) : Prop where
  resource : (∃ handler ∈ auditedHandlers, handler.systemAudit = input.definition) ∨
    auditedResourceOf input.request ≠ some inheritedResource
  user : ∀ user ∈ input.request.user, IsInteger user.id ∧ Fits 64 user.username
  anonymous : input.request.user = none →
    PositiveIdFits
        (readObjectPath input.responseBody input.definition.actorUserIdResponsePath) ∧
      IdentifierFits 64
        (readObjectPath input.responseBody input.definition.actorUsernameResponsePath)
        (readObjectField input.request.body input.definition.actorUsernameBodyField)
  target : IdentifierFits 128
    (readObjectField (.object false input.request.params) input.definition.targetParameter)
    (readObjectField input.responseBody input.definition.targetResponseField)
  targetName : IdentifierFits 128
    (readObjectField input.request.body input.definition.targetNameField)
    (readObjectField input.responseBody input.definition.targetNameField)
  metadata : ∀ name value, Declared input name value → Plain value → Jsonb (cut value)
  method : Fits 16 input.request.method
  path : Fits 255 input.request.path
  statusCode : IsInteger input.statusCode
  errorMessage : ∀ message ∈ input.errorMessage, nulFree (message.take 1024) = true
  address : AddressFits input.request
  userAgent : ∀ text, input.request.header (lit "user-agent") = some (.one text) →
    nulFree (text.take 512) = true

/-! ## Identifiers, actors and addresses -/

theorem toIdentifier_isSome (value : Value) :
    (toIdentifier value).isSome = isIdentifier value := by
  cases value with
  | string text => by_cases hempty : text = [] <;> simp [toIdentifier, isIdentifier, hempty]
  | number value =>
      rw [toIdentifier, isIdentifier]
      cases value.isFinite <;> rfl
  | _ => rfl

theorem fits_toIdentifier {limit : Nat} (hlimit : 64 ≤ limit) (value : Value) :
    FitsNullable limit (toIdentifier value) ↔ ReadsFit limit value := by
  cases value with
  | string text =>
      by_cases hempty : text = []
      · simp [toIdentifier, ReadsFit, hempty, FitsNullable, Fits, codePoints]
      · simp [toIdentifier, ReadsFit, hempty, FitsNullable]
  | number number =>
      have hfits := fits_number hlimit number
      rw [toIdentifier]
      cases number.isFinite <;> simp [ReadsFit, FitsNullable, hfits]
  | _ => simp [toIdentifier, ReadsFit, FitsNullable]

/-- Of two identifiers the first one is recorded. -/
theorem fitsNullable_or {limit : Nat} (hlimit : 64 ≤ limit) (first second : Value) :
    FitsNullable limit ((toIdentifier first).or (toIdentifier second)) ↔
      IdentifierFits limit first second := by
  have hfirst := fits_toIdentifier hlimit first
  have hsome := toIdentifier_isSome first
  rw [IdentifierFits, ← hfirst, ← fits_toIdentifier hlimit second, ← hsome]
  cases toIdentifier first <;> simp

theorem positiveId_isInteger (value : Value) :
    IsInteger (positiveId value) ↔ PositiveIdFits value := by
  cases value with
  | number number =>
      cases hint : number.toInt with
      | none => simp [positiveId, PositiveIdFits, hint, IsInteger]
      | some id =>
          by_cases hpositive : 0 < id
          · simp [positiveId, PositiveIdFits, hint, hpositive]
          · simp [positiveId, PositiveIdFits, hint, hpositive, IsInteger]
  | _ => simp [positiveId, PositiveIdFits, IsInteger]

/-- Who acted, when a guard has set the user and when not. -/
theorem actorIdentity_fits (definition : SystemAuditDefinition) (request : AuthedRequest)
    (responseBody : Value) :
    (IsInteger (actorIdentity definition request responseBody).1 ∧
        Fits 64 (actorIdentity definition request responseBody).2) ↔
      (∀ user ∈ request.user, IsInteger user.id ∧ Fits 64 user.username) ∧
        (request.user = none →
          PositiveIdFits (readObjectPath responseBody definition.actorUserIdResponsePath) ∧
            IdentifierFits 64
              (readObjectPath responseBody definition.actorUsernameResponsePath)
              (readObjectField request.body definition.actorUsernameBodyField)) := by
  rw [actorIdentity]
  cases request.user with
  | some user => simp
  | none =>
      have hdefault : Fits 64 (lit "anonymous") := by decide
      have hname : ∀ name : Option JsString,
          Fits 64 (name.getD (lit "anonymous")) ↔ FitsNullable 64 name := by
        intro name
        cases name with
        | none => simp [FitsNullable, hdefault]
        | some name => simp [FitsNullable]
      simp only [positiveId_isInteger, hname, fitsNullable_or (le_refl 64)]
      simp

/-- The recorded address is what stands first in the header. -/
theorem forwardedAddress_fits (request : AuthedRequest) :
    FitsNullable 64 (forwardedAddress request) ↔ AddressFits request := by
  rw [forwardedAddress, AddressFits]
  cases request.header (lit "x-forwarded-for") with
  | none => simp
  | some header =>
      cases header with
      | one text => simp [split_head?, fitsNullable_some]
      | many texts =>
          cases texts with
          | nil => simp
          | cons text texts => simp [split_head?, fitsNullable_some]

/-! ## Metadata -/

/-- What is not assigned again stays. -/
theorem mem_collectFields_of_notMem {read : JsString → Value} {names : List JsString}
    {metadata : Fields} {entry : JsString × Value} (h : entry ∈ metadata)
    (hnames : entry.1 ∉ names) : entry ∈ collectFields read names metadata := by
  induction names generalizing metadata with
  | nil => exact h
  | cons name names ih =>
      rw [List.mem_cons, not_or] at hnames
      rw [collectFields, List.foldl_cons]
      apply ih _ hnames.2
      cases safeMetadataValue (read name) with
      | none => exact h
      | some value => exact mem_assignField_of_ne h hnames.1 value

/-- A field that is read once is there, when its value passes. -/
theorem mem_collectFields {read : JsString → Value} {names : List JsString} {metadata : Fields}
    {name : JsString} {value : Value} (hname : name ∈ names) (hnodup : names.Nodup)
    (hproto : lit "__proto__" ∉ names) (hvalue : safeMetadataValue (read name) = some value) :
    (name, value) ∈ collectFields read names metadata := by
  induction names generalizing metadata with
  | nil => exact absurd hname (List.not_mem_nil)
  | cons first names ih =>
      rw [List.nodup_cons] at hnodup
      rw [List.mem_cons, not_or] at hproto
      rw [collectFields, List.foldl_cons]
      rcases List.mem_cons.mp hname with rfl | hrest
      · apply mem_collectFields_of_notMem _ hnodup.1
        rw [hvalue]
        exact mem_assignField_self (Ne.symm hproto.1) _ _
      · exact ih hrest hnodup.2 hproto.2

/-- The fields that a definition declares. -/
def metadataFields (definition : SystemAuditDefinition) : List JsString :=
  definition.metadataParameters ++ definition.metadataBodyFields ++ definition.metadataQueryFields

/-- The texts of a definition fit, and it names every field once. -/
structure WellFormed (definition : SystemAuditDefinition) : Prop where
  name : Fits 128 definition.name
  action : Fits 64 definition.action
  subject : FitsNullable 64 definition.subject
  targetType : FitsNullable 64 definition.targetType
  fields : (metadataFields definition).Nodup
  fieldNames : ∀ name ∈ metadataFields definition,
    name ≠ [] ∧ name ≠ lit "__proto__" ∧ FitsJsonb name

/-- The same, as a computation. -/
def wellFormed (definition : SystemAuditDefinition) : Bool :=
  decide (Fits 128 definition.name) && decide (Fits 64 definition.action) &&
    definition.subject.all (fun text => decide (Fits 64 text)) &&
    definition.targetType.all (fun text => decide (Fits 64 text)) &&
    decide (metadataFields definition).Nodup &&
    (metadataFields definition).all fun name =>
      name != [] && name != lit "__proto__" && decide (FitsJsonb name)

theorem WellFormed.of_wellFormed {definition : SystemAuditDefinition}
    (h : wellFormed definition = true) : WellFormed definition := by
  simp only [wellFormed, Bool.and_eq_true, decide_eq_true_eq, Option.all_eq_true, List.all_eq_true,
    bne_iff_ne] at h
  rcases h with ⟨⟨⟨⟨⟨hname, haction⟩, hsubject⟩, htargetType⟩, hfields⟩, hnames⟩
  exact ⟨hname, haction, hsubject, htargetType, hfields,
    fun name hmem => ⟨(hnames name hmem).1.1, (hnames name hmem).1.2, (hnames name hmem).2⟩⟩

theorem wellFormed_auditedHandlers :
    ∀ handler ∈ auditedHandlers, wellFormed handler.systemAudit = true := by
  decide +kernel

theorem subject_auditedHandlers : ∀ handler ∈ auditedHandlers,
    handler.systemAudit.subject ≠ none ∧ handler.systemAudit.targetType ≠ none := by
  decide +kernel

/-- The resources of the table, the inherited one too. -/
def resources : List AuditedResource := inheritedResource :: auditedResources.map (·.2)

theorem mem_resources {segment : JsString} {resource : AuditedResource}
    (h : auditedResource segment = some resource) : resource ∈ resources := by
  rw [auditedResource] at h
  split at h
  · next entry hfound =>
    rw [Option.some.injEq] at h
    subst h
    exact List.mem_cons_of_mem _ (List.mem_map.mpr ⟨entry, List.mem_of_find?_eq_some hfound, rfl⟩)
  · split at h
    · rw [Option.some.injEq] at h
      subst h
      exact List.mem_cons_self
    · exact absurd h (by simp)

theorem mem_operations {method : JsString} {operation : Operation}
    (h : operationOf method = some operation) : operation ∈ actionByMethod.map (·.2) := by
  rw [operationOf, Option.map_eq_some_iff] at h
  rcases h with ⟨entry, hfound, rfl⟩
  exact List.mem_map.mpr ⟨entry, List.mem_of_find?_eq_some hfound, rfl⟩

theorem resources_wellFormed : ∀ resource ∈ resources, ∀ operation ∈ actionByMethod.map (·.2),
    wellFormed
      { name := operation.namePrefix ++ resource.label
        action := operation.action
        subject := resource.subject
        targetType := resource.targetType
        metadataQueryFields := resource.safeQueryFields } = true := by
  decide +kernel

/-- The inherited resource is the one without a subject. -/
theorem resources_subject : ∀ resource ∈ resources,
    (resource.subject = none ↔ resource = inheritedResource) ∧
      (resource.targetType = none ↔ resource = inheritedResource) := by
  decide +kernel

/-- Where the parts of an inferred definition come from. -/
theorem inferred_cases {request : AuthedRequest} {definition : SystemAuditDefinition}
    (h : inferSystemAuditDefinition request = some definition) :
    ∃ resource ∈ resources, ∃ operation ∈ actionByMethod.map (·.2),
      auditedResourceOf request = some resource ∧
        definition.name = operation.namePrefix ++ resource.label ∧
        definition.action = operation.action ∧ definition.subject = resource.subject ∧
        definition.targetType = resource.targetType ∧
        (metadataFields definition).Sublist resource.safeQueryFields := by
  rw [inferSystemAuditDefinition] at h
  split at h
  · next resource operation hresource hoperation =>
    rw [Option.some.injEq] at h
    subst h
    rcases List.exists_of_findSome?_eq_some hresource with ⟨segment, -, hsegment⟩
    exact ⟨resource, mem_resources hsegment, operation, mem_operations hoperation, hresource, rfl,
      rfl, rfl, rfl, List.filter_sublist⟩
  · exact absurd h (by simp)

/-- The texts of every definition that is used fit. -/
theorem wellFormed_of_used {request : AuthedRequest} {definition : SystemAuditDefinition}
    (h : Used request definition) : WellFormed definition := by
  cases h with
  | declared hhandler => exact .of_wellFormed (wellFormed_auditedHandlers _ hhandler)
  | inferred hinferred =>
      rcases inferred_cases hinferred with ⟨resource, hresource, operation, hoperation, -, hname,
        haction, hsubject, htargetType, hfields⟩
      have hwell := WellFormed.of_wellFormed
        (resources_wellFormed resource hresource operation hoperation)
      exact
        { name := hname ▸ hwell.name
          action := haction ▸ hwell.action
          subject := hsubject ▸ hwell.subject
          targetType := htargetType ▸ hwell.targetType
          fields := hfields.nodup hwell.fields
          fieldNames := fun name hmem => hwell.fieldNames name (hfields.subset hmem) }

/-- A subject and a target type are there, unless a key that the table inherits was read. -/
theorem subject_of_used {request : AuthedRequest} {definition : SystemAuditDefinition}
    (h : Used request definition) :
    (definition.subject ≠ none ∧ definition.targetType ≠ none) ↔
      (∃ handler ∈ auditedHandlers, handler.systemAudit = definition) ∨
        auditedResourceOf request ≠ some inheritedResource := by
  cases h with
  | declared hhandler =>
      exact iff_of_true (subject_auditedHandlers _ hhandler) (Or.inl ⟨_, hhandler, rfl⟩)
  | inferred hinferred =>
      rcases inferred_cases hinferred with ⟨resource, hresource, operation, -, hread, -, -, hsubject,
        htargetType, -⟩
      rw [hsubject, htargetType, ne_eq, ne_eq, (resources_subject resource hresource).1,
        (resources_subject resource hresource).2, hread, ne_eq, Option.some.injEq, and_self]
      constructor
      · exact Or.inr
      · rintro (⟨handler, hhandler, heq⟩ | hother)
        · intro hinherited
          apply (subject_auditedHandlers handler hhandler).1
          rw [heq, hsubject]
          exact (resources_subject resource hresource).1.mpr hinherited
        · exact hother

/-! ## The entry -/

variable {input : BuildSystemAuditEntryInput}

/-- The value that a declared field holds is in the metadata, when it passes. -/
theorem mem_metadata (hwell : WellFormed input.definition) {name : JsString} {value : Value}
    (hdeclared : Declared input name value) (hplain : Plain value) :
    (name, cut value) ∈ (buildSystemAuditEntry input).metadata := by
  have hfields := hwell.fields
  have hnames := hwell.fieldNames
  simp only [metadataFields, List.nodup_append, List.mem_append] at hfields hnames
  have hread : ∀ source : Value, name ≠ [] → source.get name = value →
      safeMetadataValue (readObjectField source (some name)) = some (cut value) := by
    intro source hname hget
    rw [safeMetadataValue_eq_some, readObjectField_some, if_neg hname, hget]
    exact ⟨hplain, rfl⟩
  change _ ∈ collectMetadata input.definition input.request
  rw [collectMetadata]
  cases hdeclared with
  | parameter h =>
      have hname := hnames name (Or.inl (Or.inl h))
      apply mem_collectFields_of_notMem _ fun hquery => hfields.2.2 name (Or.inl h) name hquery rfl
      apply mem_collectFields_of_notMem _ fun hbody => hfields.1.2.2 name h name hbody rfl
      exact mem_collectFields h hfields.1.1
        (fun hproto => (hnames _ (Or.inl (Or.inl hproto))).2.1 rfl) (hread _ hname.1 rfl)
  | body h =>
      have hname := hnames name (Or.inl (Or.inr h))
      apply mem_collectFields_of_notMem _ fun hquery => hfields.2.2 name (Or.inr h) name hquery rfl
      exact mem_collectFields h hfields.1.2.1
        (fun hproto => (hnames _ (Or.inl (Or.inr hproto))).2.1 rfl) (hread _ hname.1 rfl)
  | query h =>
      have hname := hnames name (Or.inr h)
      exact mem_collectFields h hfields.2.1 (fun hproto => (hnames _ (Or.inr hproto)).2.1 rfl)
        (hread _ hname.1 rfl)

/-- The strings of the metadata are those of the declared fields, as far as they are recorded. -/
theorem metadata_strings (hwell : WellFormed input.definition) {P : JsString → Prop}
    (hP : ∀ text, FitsJsonb text → P text) :
    (∀ entry ∈ (buildSystemAuditEntry input).metadata, P entry.1 ∧ Strings P entry.2) ↔
      ∀ name value, Declared input name value → Plain value → Strings P (cut value) := by
  constructor
  · intro h name value hdeclared hplain
    exact (h _ (mem_metadata hwell hdeclared hplain)).2
  · intro h entry hentry
    rcases metadata_sourced input entry hentry with ⟨source, hdeclared, hplain, hvalue⟩
    refine ⟨?_, hvalue ▸ h entry.1 source hdeclared hplain⟩
    apply hP
    apply (hwell.fieldNames entry.1 _).2.2
    simp only [metadataFields, List.mem_append]
    cases hdeclared with
    | parameter h => exact Or.inl (Or.inl h)
    | body h => exact Or.inl (Or.inr h)
    | query h => exact Or.inr h

theorem nulFree_formatMetadata {metadata : Fields}
    (h : ∀ entry ∈ metadata, nulFree entry.1 = true) : nulFree (formatMetadata metadata) = true := by
  rw [formatMetadata]
  split
  · rfl
  · have hentries : ∀ text ∈ metadata.map (fun entry =>
        entry.1 ++ 61 :: (entry.2.stringify.getD (lit "undefined"))), nulFree text = true := by
      intro text htext
      rcases List.mem_map.mp htext with ⟨entry, hentry, rfl⟩
      rw [nulFree_append, nulFree_cons, h entry hentry]
      cases hjson : entry.2.stringify with
      | none => decide
      | some json => simp [Value.nulFree_stringify hjson]
    have hopen : nulFree (lit " (") = true := by decide
    have hcomma : nulFree (lit ", ") = true := by decide
    have hclose : nulFree (lit ")") = true := by decide
    rw [nulFree_append, nulFree_append, hopen, hclose, nulFree_intercalate hcomma hentries]
    rfl

/-- The description brings in nothing that another column does not refuse. -/
theorem buildDescription_fits {actorUsername : JsString} {definition : SystemAuditDefinition}
    {targetId targetName : Option JsString} {metadata : Fields} {status : SystemLogStatus}
    (hactor : nulFree actorUsername = true) (hname : nulFree definition.name = true)
    (htarget : ∀ text ∈ targetName.or targetId, nulFree text = true)
    (hmetadata : ∀ entry ∈ metadata, nulFree entry.1 = true) :
    Fits 1024
      (buildDescription actorUsername definition targetId targetName metadata status) := by
  rw [buildDescription, fits_take]
  apply nulFree_take
  have hstatus : nulFree (if status = .failed then lit " [失败]" else []) = true := by
    cases status <;> decide
  simp only [nulFree_append, nulFree_cons, hactor, hname, hstatus,
    nulFree_formatMetadata hmetadata]
  cases hor : targetName.or targetId with
  | none => decide
  | some target =>
      have hclean := htarget target (by rw [hor]; rfl)
      by_cases hempty : target = []
      · simp [hempty]
      · simpa [hempty] using hclean

/-- The entry of a request fits its columns exactly when the request holds nothing that a
column refuses. -/
theorem accepts_iff (input : BuildSystemAuditEntryInput)
    (hused : Used input.request input.definition) :
    Accepts (buildSystemAuditEntry input) ↔ Recordable input := by
  have hwell := wellFormed_of_used hused
  have hactor := actorIdentity_fits input.definition input.request input.responseBody
  have htarget := fitsNullable_or (show 64 ≤ 128 by omega)
    (readObjectField (.object false input.request.params) input.definition.targetParameter)
    (readObjectField input.responseBody input.definition.targetResponseField)
  have htargetName := fitsNullable_or (show 64 ≤ 128 by omega)
    (readObjectField input.request.body input.definition.targetNameField)
    (readObjectField input.responseBody input.definition.targetNameField)
  have herror : FitsNullable 1024 (input.errorMessage.map (·.take 1024)) ↔
      ∀ message ∈ input.errorMessage, nulFree (message.take 1024) = true := by
    simp [FitsNullable, fits_take]
  have huserAgent : FitsNullable 512 (userAgentOf input.request) ↔
      ∀ text, input.request.header (lit "user-agent") = some (.one text) →
        nulFree (text.take 512) = true := by
    rw [userAgentOf]
    cases input.request.header (lit "user-agent") with
    | none => simp [FitsNullable]
    | some header => cases header <;> simp [FitsNullable, fits_take]
  constructor
  · intro h
    exact
      { resource := (subject_of_used hused).mp ⟨h.subject.1, h.targetType.1⟩
        user := (hactor.mp ⟨h.actorUserId, h.actorUsername⟩).1
        anonymous := (hactor.mp ⟨h.actorUserId, h.actorUsername⟩).2
        target := htarget.mp h.targetId
        targetName := htargetName.mp h.targetName
        metadata := (metadata_strings hwell fun _ => id).mp h.metadata
        method := h.method
        path := h.route
        statusCode := h.statusCode
        errorMessage := herror.mp h.errorMessage
        address := (forwardedAddress_fits input.request).mp h.ipAddress
        userAgent := huserAgent.mp h.userAgent }
  · intro h
    have hidentity := hactor.mpr ⟨h.user, h.anonymous⟩
    have hsubject := (subject_of_used hused).mpr h.resource
    have hmetadata := (metadata_strings hwell fun _ => id).mpr h.metadata
    have hdescription : ∀ text ∈ (resolveTargetName input.definition input.request
        input.responseBody).or (resolveTargetId input.definition input.request
          input.responseBody), nulFree text = true := by
      intro text htext
      rw [Option.mem_def, Option.or_eq_some_iff] at htext
      rcases htext with hfirst | ⟨-, hsecond⟩
      · exact (htargetName.mpr h.targetName text hfirst).2
      · exact (htarget.mpr h.target text hsecond).2
    exact
      { name := hwell.name
        description := buildDescription_fits hidentity.2.2 hwell.name.2 hdescription
          fun entry hentry => (hmetadata entry hentry).1.1
        actorUserId := hidentity.1
        actorUsername := hidentity.2
        action := hwell.action
        subject := ⟨hsubject.1, hwell.subject⟩
        targetType := ⟨hsubject.2, hwell.targetType⟩
        targetId := htarget.mpr h.target
        targetName := htargetName.mpr h.targetName
        metadata := hmetadata
        method := h.method
        route := h.path
        status := by
          cases hstatus : input.status <;> simp only [buildSystemAuditEntry, hstatus] <;> decide
        statusCode := h.statusCode
        errorMessage := herror.mpr h.errorMessage
        ipAddress := (forwardedAddress_fits input.request).mpr h.address
        userAgent := huserAgent.mpr h.userAgent }

/-- A read of the user list by a client that nobody knows. -/
def usersRead : BuildSystemAuditEntryInput where
  definition :=
    { name := lit "读取后台账号"
      action := lit "read"
      subject := some (lit "user")
      targetType := some (lit "user") }
  request := plainRequest (lit "GET") (lit "/users")
  status := .failed
  statusCode := 401

/-- The entry of a rejected read is accepted. -/
theorem accepts_iff_usersRead : Accepts (buildSystemAuditEntry usersRead) := by
  apply (accepts_iff usersRead (.inferred (by decide +kernel))).mpr
  exact
    { resource := Or.inr (by decide +kernel)
      user := by simp [usersRead, plainRequest]
      anonymous := by simp [usersRead, readObjectPath, readObjectField, PositiveIdFits,
        IdentifierFits, ReadsFit]
      target := by simp [usersRead, readObjectField, IdentifierFits, ReadsFit]
      targetName := by simp [usersRead, readObjectField, IdentifierFits, ReadsFit]
      metadata := by
        intro name value hdeclared
        cases hdeclared with
        | parameter h => exact absurd h (by simp [usersRead])
        | body h => exact absurd h (by simp [usersRead])
        | query h => exact absurd h (by simp [usersRead])
      method := by decide
      path := by decide
      statusCode := by simp [usersRead, IsInteger]
      errorMessage := by simp [usersRead]
      address := by simp [usersRead, plainRequest, AddressFits, AuthedRequest.header, FitsNullable]
      userAgent := by simp [usersRead, plainRequest, AuthedRequest.header] }

/-- The same read with a header of 65 characters that names no address. -/
def longForwarded : BuildSystemAuditEntryInput :=
  { usersRead with
    request :=
      { usersRead.request with
        headers := [(lit "x-forwarded-for", .one (List.replicate 65 49))] } }

/-- A header that the client writes keeps the request out of the audit table. -/
theorem longForwarded_refused :
    ¬ ∀ input, Used input.request input.definition → Accepts (buildSystemAuditEntry input) := by
  intro h
  have hused : Used longForwarded.request longForwarded.definition :=
    .inferred (by decide +kernel)
  have haddress : forwardedAddress longForwarded.request = some (List.replicate 65 49) := by
    decide +kernel
  have hfits := (h longForwarded hused).ipAddress _ haddress
  exact absurd hfits (by decide +kernel)

end Audit
end R2RPC
