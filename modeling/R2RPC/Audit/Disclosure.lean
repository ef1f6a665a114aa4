import R2RPC.Audit.Entry

/-!
# What an audit entry reveals

Two inputs that agree on what a definition declares make the same entry, and metadata
holds scalars and arrays of scalars only.

Main results:

- Theorem {lit}`safeMetadataValue_eq_some`: a value passes exactly when no object stands
  anywhere in it, and with its strings cut.
- Theorem {lit}`buildSystemAuditEntry_congr`: an entry depends on nothing but the declared
  fields.
- Theorem {lit}`entry_reveals_declared`: both, with the source of every metadata value.

Current gaps:

- None for the request shape of {lit}`AuthedRequest`.
-/

namespace R2RPC
namespace Audit

open Utf16 JavaScript

/-! ## Metadata values -/

/-- A scalar, or an array of such values nested to any depth. -/
inductive Plain : Value → Prop where
  | null : Plain .null
  | boolean (value : Bool) : Plain (.boolean value)
  | number (value : JsNumber) : Plain (.number value)
  | string (text : JsString) : Plain (.string text)
  | array {elements : List Value} (h : ∀ element ∈ elements, Plain element) :
      Plain (.array elements)

/-- A plain value with strings of at most 512 code units. -/
inductive SafeValue : Value → Prop where
  | null : SafeValue .null
  | boolean (value : Bool) : SafeValue (.boolean value)
  | number (value : JsNumber) : SafeValue (.number value)
  | string {text : JsString} (h : text.length ≤ 512) : SafeValue (.string text)
  | array {elements : List Value} (h : ∀ element ∈ elements, SafeValue element) :
      SafeValue (.array elements)

mutual

/-- A value with its strings cut at 512 code units. -/
def cut : Value → Value
  | .string text => .string (text.take 512)
  | .array elements => .array (cutElements elements)
  | value => value

def cutElements : List Value → List Value
  | [] => []
  | element :: elements => cut element :: cutElements elements

end

theorem cutElements_eq (elements : List Value) : cutElements elements = elements.map cut := by
  induction elements with
  | nil => rfl
  | cons element elements ih => simp [cutElements, ih]

theorem safeMetadataValues_eq (elements : List Value) :
    safeMetadataValues elements = elements.filterMap safeMetadataValue := by
  induction elements with
  | nil => rfl
  | cons element elements ih =>
      rw [safeMetadataValues, ih, List.filterMap_cons]
      cases safeMetadataValue element <;> rfl

theorem plain_array {elements : List Value} :
    Plain (.array elements) ↔ ∀ element ∈ elements, Plain element :=
  ⟨fun h => by cases h with | array h => exact h, .array⟩

/-- All elements pass exactly when none is left out. -/
theorem safeMetadataValues_complete {elements : List Value}
    (h : ∀ element ∈ elements, (Plain element ∧ safeMetadataValue element = some (cut element)) ∨
      (¬Plain element ∧ safeMetadataValue element = none)) :
    ((∀ element ∈ elements, Plain element) ∧ safeMetadataValues elements = cutElements elements) ∨
      ((¬∀ element ∈ elements, Plain element) ∧
        (safeMetadataValues elements).length < elements.length) := by
  induction elements with
  | nil => exact Or.inl ⟨by simp, rfl⟩
  | cons element elements ih =>
      have hrest := ih fun other hother => h other (by simp [hother])
      have hle : (safeMetadataValues elements).length ≤ elements.length := by
        rw [safeMetadataValues_eq]
        exact List.length_filterMap_le _ _
      rcases h element (by simp) with ⟨hplain, hsafe⟩ | ⟨hplain, hsafe⟩
      · rw [safeMetadataValues, hsafe, Option.toList_some, cutElements]
        rcases hrest with ⟨hall, heq⟩ | ⟨hall, hlt⟩
        · exact Or.inl ⟨by simpa [hplain] using hall, by rw [heq]; rfl⟩
        · refine Or.inr ⟨fun hcons => hall fun other hother => hcons other (by simp [hother]), ?_⟩
          simp only [List.singleton_append, List.length_cons]
          omega
      · refine Or.inr ⟨fun hcons => hplain (hcons element (by simp)), ?_⟩
        rw [safeMetadataValues, hsafe, Option.toList_none, List.nil_append, List.length_cons]
        omega

theorem safeMetadataValue_cases (value : Value) :
    (Plain value ∧ safeMetadataValue value = some (cut value)) ∨
      (¬Plain value ∧ safeMetadataValue value = none) := by
  induction value with
  | undefined => exact Or.inr ⟨nofun, by rw [safeMetadataValue.eq_def]⟩
  | function => exact Or.inr ⟨nofun, by rw [safeMetadataValue.eq_def]⟩
  | object inherits fields ih => exact Or.inr ⟨nofun, by rw [safeMetadataValue.eq_def]⟩
  | null => exact Or.inl ⟨.null, by simp [safeMetadataValue, cut]⟩
  | boolean value => exact Or.inl ⟨.boolean value, by simp [safeMetadataValue, cut]⟩
  | number value => exact Or.inl ⟨.number value, by simp [safeMetadataValue, cut]⟩
  | string text => exact Or.inl ⟨.string text, by simp [safeMetadataValue, cut]⟩
  | array elements ih =>
      rcases safeMetadataValues_complete ih with ⟨hall, heq⟩ | ⟨hall, hlt⟩
      · have hlength : (cutElements elements).length = elements.length := by
          rw [cutElements_eq, List.length_map]
        exact Or.inl ⟨.array hall, by simp [safeMetadataValue, heq, hlength, cut]⟩
      · refine Or.inr ⟨fun h => hall (plain_array.mp h), ?_⟩
        rw [safeMetadataValue, if_neg (by omega)]

/-- A value passes exactly when no object stands anywhere in it, with its strings cut. -/
theorem safeMetadataValue_eq_some {value safe : Value} :
    safeMetadataValue value = some safe ↔ Plain value ∧ safe = cut value := by
  rcases safeMetadataValue_cases value with ⟨hplain, hsafe⟩ | ⟨hplain, hsafe⟩
  · simp [hplain, hsafe, eq_comm]
  · simp [hplain, hsafe]

/-- Cutting a plain value makes it safe. -/
theorem SafeValue.cut {value : Value} (h : Plain value) : SafeValue (cut value) := by
  induction value with
  | undefined => cases h
  | function => cases h
  | object inherits fields ih => cases h
  | null => exact .null
  | boolean value => exact .boolean value
  | number value => exact .number value
  | string text =>
      refine .string ?_
      rw [List.length_take]
      omega
  | array elements ih =>
      rw [Audit.cut, cutElements_eq]
      refine .array fun safe hsafe => ?_
      rcases List.mem_map.mp hsafe with ⟨element, helement, rfl⟩
      exact ih element helement (plain_array.mp h element helement)

/-! ## Declared fields -/

/-- `value.a.b.c`. -/
def atPath (value : Value) (path : JsString) : Value := (split 46 path).foldl Value.get value

/-- What two inputs have to share: everything that is recorded from every request, and what
the definition names. -/
structure AgreeOn (definition : SystemAuditDefinition) (request request' : AuthedRequest)
    (response response' : Value) : Prop where
  method : request.method = request'.method
  path : request.path = request'.path
  user : request.user = request'.user
  forwardedFor : request.header (lit "x-forwarded-for") = request'.header (lit "x-forwarded-for")
  userAgent : request.header (lit "user-agent") = request'.header (lit "user-agent")
  ip : request.ip = request'.ip
  remoteAddress : request.remoteAddress = request'.remoteAddress
  params : ∀ name, name ∈ definition.metadataParameters ∨ definition.targetParameter = some name →
    lookup request.params name = lookup request'.params name
  body : ∀ name, name ∈ definition.metadataBodyFields ∨ definition.targetNameField = some name ∨
      definition.actorUsernameBodyField = some name →
    request.body.get name = request'.body.get name
  query : ∀ name ∈ definition.metadataQueryFields,
    lookup request.query name = lookup request'.query name
  responseFields : ∀ name, definition.targetResponseField = some name ∨
      definition.targetNameField = some name →
    response.get name = response'.get name
  responsePaths : ∀ path, definition.actorUserIdResponsePath = some path ∨
      definition.actorUsernameResponsePath = some path →
    atPath response path = atPath response' path

theorem readObjectField_some (value : Value) (name : JsString) :
    readObjectField value (some name) = if name = [] then .undefined else value.get name := by
  by_cases hobject : value.isObject
  · simp [readObjectField, hobject]
  · rw [Bool.not_eq_true] at hobject
    simp [readObjectField, hobject, Value.get_of_not_isObject]

/-- A field is read as the field of that name. -/
theorem readObjectField_congr {value value' : Value} {fieldName : Option JsString}
    (h : ∀ name, fieldName = some name → value.get name = value'.get name) :
    readObjectField value fieldName = readObjectField value' fieldName := by
  cases fieldName with
  | none => rfl
  | some name => rw [readObjectField_some, readObjectField_some, h name rfl]

theorem foldl_get_undefined (names : List JsString) :
    names.foldl Value.get .undefined = .undefined := by
  induction names with
  | nil => rfl
  | cons name names ih => exact ih

/-- A path without an empty name is read as the path. -/
theorem readFieldNames_eq (value : Value) (names : List JsString) :
    readFieldNames value names =
      if [] ∈ names then .undefined else names.foldl Value.get value := by
  induction names generalizing value with
  | nil => simp [readFieldNames]
  | cons name names ih =>
      rw [readFieldNames, readObjectField_some]
      by_cases hname : name = []
      · simp [hname, Value.isUndefined]
      · have hne : [] ≠ name := fun h => hname h.symm
        simp only [hname, if_false, ih, List.mem_cons, hne, false_or, List.foldl_cons]
        by_cases hundefined : (value.get name).isUndefined
        · have hvalue : value.get name = .undefined := by
            cases hget : value.get name with
            | undefined => rfl
            | _ => simp [hget, Value.isUndefined] at hundefined
          simp [hvalue, Value.isUndefined, foldl_get_undefined]
        · simp [hundefined]

theorem readObjectPath_congr {value value' : Value} {fieldPath : Option JsString}
    (h : ∀ path, fieldPath = some path → atPath value path = atPath value' path) :
    readObjectPath value fieldPath = readObjectPath value' fieldPath := by
  cases fieldPath with
  | none => rfl
  | some path =>
      have hpath := h path rfl
      unfold atPath at hpath
      simp only [readObjectPath, readFieldNames_eq, hpath]

theorem collectFields_congr {read read' : JsString → Value} {names : List JsString}
    (h : ∀ name ∈ names, read name = read' name) (metadata : Fields) :
    collectFields read names metadata = collectFields read' names metadata := by
  refine List.foldl_ext _ _ _ fun metadata name hname => ?_
  rw [h name hname]

/-- Own properties of an object without a prototype. -/
theorem get_dictionary (fields : Fields) (name : JsString) :
    (Value.object false fields).get name = (lookup fields name).getD .undefined := rfl

variable {definition : SystemAuditDefinition} {request request' : AuthedRequest}
  {response response' : Value}

theorem collectMetadata_congr (h : AgreeOn definition request request' response response') :
    collectMetadata definition request = collectMetadata definition request' := by
  have hparams : ∀ name ∈ definition.metadataParameters,
      readObjectField (.object false request.params) (some name) =
        readObjectField (.object false request'.params) (some name) := by
    intro name hname
    rw [readObjectField_some, readObjectField_some, get_dictionary, get_dictionary,
      h.params name (Or.inl hname)]
  have hbody : ∀ name ∈ definition.metadataBodyFields,
      readObjectField request.body (some name) = readObjectField request'.body (some name) := by
    intro name hname
    rw [readObjectField_some, readObjectField_some, h.body name (Or.inl hname)]
  have hquery : ∀ name ∈ definition.metadataQueryFields,
      readObjectField (.object false request.query) (some name) =
        readObjectField (.object false request'.query) (some name) := by
    intro name hname
    rw [readObjectField_some, readObjectField_some, get_dictionary, get_dictionary,
      h.query name hname]
  simp only [collectMetadata, collectFields_congr hparams, collectFields_congr hbody,
    collectFields_congr hquery]

theorem resolveTargetId_congr (h : AgreeOn definition request request' response response') :
    resolveTargetId definition request response =
      resolveTargetId definition request' response' := by
  have hparameter : readObjectField (.object false request.params) definition.targetParameter =
      readObjectField (.object false request'.params) definition.targetParameter :=
    readObjectField_congr fun name hname => by
      rw [get_dictionary, get_dictionary, h.params name (Or.inr hname)]
  have hresponse : readObjectField response definition.targetResponseField =
      readObjectField response' definition.targetResponseField :=
    readObjectField_congr fun name hname => h.responseFields name (Or.inl hname)
  rw [resolveTargetId, resolveTargetId, hparameter, hresponse]

theorem resolveTargetName_congr (h : AgreeOn definition request request' response response') :
    resolveTargetName definition request response =
      resolveTargetName definition request' response' := by
  have hbody : readObjectField request.body definition.targetNameField =
      readObjectField request'.body definition.targetNameField :=
    readObjectField_congr fun name hname => h.body name (Or.inr (Or.inl hname))
  have hresponse : readObjectField response definition.targetNameField =
      readObjectField response' definition.targetNameField :=
    readObjectField_congr fun name hname => h.responseFields name (Or.inr hname)
  rw [resolveTargetName, resolveTargetName, hbody, hresponse]

theorem actorIdentity_congr (h : AgreeOn definition request request' response response') :
    actorIdentity definition request response = actorIdentity definition request' response' := by
  have hid : readObjectPath response definition.actorUserIdResponsePath =
      readObjectPath response' definition.actorUserIdResponsePath :=
    readObjectPath_congr fun path hpath => h.responsePaths path (Or.inl hpath)
  have husername : readObjectPath response definition.actorUsernameResponsePath =
      readObjectPath response' definition.actorUsernameResponsePath :=
    readObjectPath_congr fun path hpath => h.responsePaths path (Or.inr hpath)
  have hbody : readObjectField request.body definition.actorUsernameBodyField =
      readObjectField request'.body definition.actorUsernameBodyField :=
    readObjectField_congr fun name hname => h.body name (Or.inr (Or.inr hname))
  rw [actorIdentity, actorIdentity, hid, husername, hbody, h.user]

theorem forwardedAddress_congr (h : AgreeOn definition request request' response response') :
    forwardedAddress request = forwardedAddress request' := by
  rw [forwardedAddress, forwardedAddress, h.forwardedFor, h.ip, h.remoteAddress]

/-- An entry depends on nothing but the declared fields. -/
theorem buildSystemAuditEntry_congr (h : AgreeOn definition request request' response response')
    (status : SystemLogStatus) (statusCode : Int) (errorMessage : Option JsString) :
    buildSystemAuditEntry ⟨definition, request, response, status, statusCode, errorMessage⟩ =
      buildSystemAuditEntry ⟨definition, request', response', status, statusCode, errorMessage⟩ := by
  have huserAgent : userAgentOf request = userAgentOf request' := by
    rw [userAgentOf, userAgentOf, h.userAgent]
  simp only [buildSystemAuditEntry, resolveTargetId_congr h, resolveTargetName_congr h,
    collectMetadata_congr h, actorIdentity_congr h, forwardedAddress_congr h, huserAgent, h.method,
    h.path]

/-! ## The source of metadata -/

/-- A field that the definition declares, with the value the request holds there. -/
inductive Declared (input : BuildSystemAuditEntryInput) : JsString → Value → Prop where
  | parameter {name : JsString} (h : name ∈ input.definition.metadataParameters) :
      Declared input name ((Value.object false input.request.params).get name)
  | body {name : JsString} (h : name ∈ input.definition.metadataBodyFields) :
      Declared input name (input.request.body.get name)
  | query {name : JsString} (h : name ∈ input.definition.metadataQueryFields) :
      Declared input name ((Value.object false input.request.query).get name)

/-- Metadata holds a plain value of a declared field, cut. -/
def Sourced (input : BuildSystemAuditEntryInput) (entry : JsString × Value) : Prop :=
  ∃ source, Declared input entry.1 source ∧ Plain source ∧ entry.2 = cut source

/-- One loop of `collectMetadata` keeps to declared fields. -/
theorem collectFields_sourced {input : BuildSystemAuditEntryInput} {source : Value}
    {names : List JsString} {metadata : Fields}
    (hdeclared : ∀ name ∈ names, Declared input name (source.get name))
    (hmetadata : ∀ entry ∈ metadata, Sourced input entry) :
    ∀ entry ∈ collectFields (fun name => readObjectField source (some name)) names metadata,
      Sourced input entry := by
  induction names generalizing metadata with
  | nil => exact hmetadata
  | cons name names ih =>
      rw [collectFields, List.foldl_cons]
      refine ih (fun other hother => hdeclared other (by simp [hother])) ?_
      cases hsafe : safeMetadataValue (readObjectField source (some name)) with
      | none => exact hmetadata
      | some value =>
          intro entry hentry
          rcases mem_assignField hentry with rfl | hold
          · rw [safeMetadataValue_eq_some, readObjectField_some] at hsafe
            by_cases hname : name = []
            · rw [if_pos hname] at hsafe
              exact absurd hsafe.1 nofun
            · rw [if_neg hname] at hsafe
              exact ⟨_, hdeclared name (by simp), hsafe.1, hsafe.2⟩
          · exact hmetadata entry hold

theorem metadata_sourced (input : BuildSystemAuditEntryInput) :
    ∀ entry ∈ (buildSystemAuditEntry input).metadata, Sourced input entry :=
  collectFields_sourced (fun _ => .query)
    (collectFields_sourced (fun _ => .body)
      (collectFields_sourced (fun _ => .parameter) (by simp)))

/-- Inputs that agree on what a definition declares make the same entry, and every metadata
value is a plain value of a declared field with its strings cut. -/
theorem entry_reveals_declared :
    (∀ definition request request' response response', ∀ status statusCode errorMessage,
      AgreeOn definition request request' response response' →
        buildSystemAuditEntry ⟨definition, request, response, status, statusCode, errorMessage⟩ =
          buildSystemAuditEntry
            ⟨definition, request', response', status, statusCode, errorMessage⟩) ∧
    ∀ input, ∀ entry ∈ (buildSystemAuditEntry input).metadata,
      SafeValue entry.2 ∧
        ∃ source, Declared input entry.1 source ∧ Plain source ∧ entry.2 = cut source := by
  constructor
  · intro definition request request' response response' status statusCode errorMessage h
    exact buildSystemAuditEntry_congr h status statusCode errorMessage
  · intro input entry hentry
    rcases metadata_sourced input entry hentry with ⟨source, hdeclared, hplain, heq⟩
    exact ⟨heq ▸ SafeValue.cut hplain, source, hdeclared, hplain, heq⟩

/-- `PATCH /users/7/password` with a password in the body. -/
def passwordChange (password : JsString) : AuthedRequest where
  body := .object true [(lit "password", .string password)]
  headers := []
  ip := none
  method := lit "PATCH"
  originalUrl := lit "/users/7/password"
  params := [(lit "id", .string (lit "7"))]
  query := []
  remoteAddress := none
  user := some ⟨1, lit "admin"⟩

/-- `修改用户密码`. -/
def passwordChangeAudit : SystemAuditDefinition where
  name := lit "修改用户密码"
  action := lit "update-password"
  subject := some (lit "user")
  targetType := some (lit "user")
  targetParameter := some (lit "id")
  targetNameField := some (lit "username")

/-- The new password leaves no trace. -/
theorem entry_reveals_declared_password :
    buildSystemAuditEntry
        ⟨passwordChangeAudit, passwordChange (lit "hunter2"), .undefined, .succeeded, 200, none⟩ =
      buildSystemAuditEntry
        ⟨passwordChangeAudit, passwordChange (lit "letmein"), .undefined, .succeeded, 200, none⟩ := by
  apply entry_reveals_declared.1
  exact
    { method := by simp only [passwordChange]
      path := by simp only [AuthedRequest.path, passwordChange]
      user := by simp only [passwordChange]
      forwardedFor := by simp only [AuthedRequest.header, passwordChange]
      userAgent := by simp only [AuthedRequest.header, passwordChange]
      ip := by simp only [passwordChange]
      remoteAddress := by simp only [passwordChange]
      params := fun _ _ => by simp only [passwordChange]
      body := by
        rintro name (hname | hname | hname)
        · exact absurd hname (by simp [passwordChangeAudit])
        · cases hname
          have hother : (lit "password" == lit "username") = false := by decide
          simp [passwordChange, Value.get, lookup, hother]
        · exact absurd hname (by simp [passwordChangeAudit])
      query := fun _ _ => by simp only [passwordChange]
      responseFields := fun _ _ => rfl
      responsePaths := fun _ _ => rfl }

end Audit
end R2RPC
