import R2RPC.NulBytes.Bindings

/-!
# Statements without NUL

What a statement carries, and when the row of an audit entry is free of NUL: exactly when
the places are clean that its definition records.

Main results:

- Definition {lit}`Statement.NulFree`: no parameter and no {lit}`jsonb` value has a NUL.
- Theorem {lit}`statement_nulFree_iff`: the statement of a source is clean when the source is.
- Theorem {lit}`audit_nulFree` and theorem {lit}`clean_of_audit`: the same for a row of the
  audit and the places that are recorded.

Current gaps:

- What a parameter carries of a nested array has no braces.
-/

namespace R2RPC
namespace NulBytes

open Utf16 JavaScript Value Audit

/-! ## Parameters -/

mutual

/-- What a parameter carries of a value: an array goes element by element, an object as its
JSON text. -/
def printed : Value → List JsString
  | .string text => [text]
  | .number n => [n.text]
  | .boolean value => [if value then lit "true" else lit "false"]
  | .array elements => printedElements elements
  | .object inherits fields => (stringify (.object inherits fields)).toList
  | _ => []

def printedElements : List Value → List JsString
  | [] => []
  | element :: elements => printed element ++ printedElements elements

end

/-- A statement for PostgreSQL: one with parameters, or the row of an audit entry. -/
inductive Statement where
  | query (parameters : List JsString)
  | audit (row : CreateSystemLogInput)

/-- The columns of a row that hold texts. -/
def columnTexts (row : CreateSystemLogInput) : List JsString :=
  [row.name, row.description, row.actorUsername, row.action, row.method, row.route,
    row.status.text] ++
    row.subject.toList ++ row.targetType.toList ++ row.targetId.toList ++
    row.targetName.toList ++ row.errorMessage.toList ++ row.ipAddress.toList ++
    row.userAgent.toList

/-- No parameter and no `jsonb` value has a NUL. -/
def Statement.NulFree : Statement → Prop
  | .query parameters => ∀ text ∈ parameters, nulFree text = true
  | .audit row =>
      (∀ text ∈ columnTexts row, nulFree text = true) ∧
        ∀ entry ∈ row.metadata, nulFree entry.1 = true ∧ NoNul entry.2

/-- The statement that carries what is read at a place. -/
def Source.statement (source : Source) (request : AuthedRequest) : Statement :=
  .query ((printed (source.read request)).map source.reading.spell)

theorem printedElements_eq (elements : List Value) :
    printedElements elements = elements.flatMap printed := by
  induction elements with
  | nil => rfl
  | cons element elements ih => rw [printedElements, ih, List.flatMap_cons]

/-- What is printed of a value is clean exactly when its strings below arrays are. -/
theorem nulFree_printed (value : Value) :
    (∀ text ∈ printed value, nulFree text = true) ↔
      ∀ n, ∀ text ∈ stringsAt n value, nulFree text = true := by
  have hnone : ∀ {other : Value}, (∀ text, other ≠ .string text) →
      (∀ elements, other ≠ .array elements) → ∀ n, stringsAt n other = [] := by
    intro other hstring harray n
    rw [List.eq_nil_iff_forall_not_mem]
    intro text htext
    cases n with
    | zero => exact hstring text (mem_stringsAt_zero.mp htext)
    | succ n =>
        rcases mem_stringsAt_succ.mp htext with ⟨elements, helements, -⟩
        exact harray elements helements
  induction value with
  | undefined => simp [printed, hnone]
  | null => simp [printed, hnone]
  | function => simp [printed, hnone]
  | number n => simp [printed, hnone, Binary.nulFree_text]
  | boolean value => cases value <;> simp [printed, hnone] <;> decide
  | string text =>
      constructor
      · intro h n other hother
        cases n with
        | zero => exact h other hother
        | succ n => exact absurd hother (by simp [stringsAt])
      · exact fun h => h 0
  | object inherits fields =>
      have hjson : ∀ text ∈ printed (.object inherits fields), nulFree text = true := by
        intro text htext
        rw [printed, Option.mem_toList] at htext
        exact nulFree_stringify htext
      exact iff_of_true hjson (by simp [hnone])
  | array elements ih =>
      rw [printed, printedElements_eq]
      constructor
      · intro h n text htext
        cases n with
        | zero => exact absurd htext (by simp [stringsAt])
        | succ n =>
            rw [stringsAt, List.mem_flatMap] at htext
            rcases htext with ⟨element, hmem, htext⟩
            refine (ih element hmem).mp (fun other hother => h other ?_) n text htext
            exact List.mem_flatMap.mpr ⟨element, hmem, hother⟩
      · intro h text htext
        rcases List.mem_flatMap.mp htext with ⟨element, hmem, htext⟩
        refine (ih element hmem).mpr (fun n other hother => h (n + 1) other ?_) text htext
        rw [stringsAt, List.mem_flatMap]
        exact ⟨element, hmem, hother⟩

/-- Escapes and wildcards are no NUL. -/
theorem nulFree_spell (reading : Reading) (text : JsString) :
    nulFree (reading.spell text) = nulFree text := by
  cases reading with
  | likeIf =>
      have hany : (Lists.codeUnits.any != 0) = true := by decide
      have hescape : (Lists.codeUnits.escape != 0) = true := by decide
      have hescaped : nulFree (Like.escaped Lists.codeUnits text) = nulFree text := by
        induction text with
        | nil => rfl
        | cons unit text ih =>
            cases hspecial : Like.Wildcards.isSpecial Lists.codeUnits unit with
            | true => simp [Like.escaped_cons_special hspecial, ih, hescape]
            | false => simp [Like.escaped_cons_literal hspecial, ih]
      simp [Reading.spell, Lists.containsPattern, hescaped, hany]
  | _ => rfl

/-- The statement of a source is clean exactly when the source is. -/
theorem statement_nulFree_iff (source : Source) (request : AuthedRequest) :
    (source.statement request).NulFree ↔ source.Clean request := by
  simp only [Source.statement, Statement.NulFree, Source.Clean, List.forall_mem_map, nulFree_spell,
    nulFree_printed]

/-! ## Recorded places -/

/-- The places that a definition records in the metadata. -/
def metadataSources (definition : SystemAuditDefinition) : List Source :=
  definition.metadataParameters.map (⟨.parameter, ·, .metadata⟩) ++
    definition.metadataBodyFields.map (⟨.body, ·, .metadata⟩) ++
    definition.metadataQueryFields.map (⟨.query, ·, .metadata⟩)

/-- The places that an entry under a definition records. -/
def recordedSources (definition : SystemAuditDefinition) : List Source :=
  metadataSources definition ++
    definition.targetParameter.toList.map (⟨.parameter, ·, .identifier⟩) ++
    definition.targetNameField.toList.map (⟨.body, ·, .identifier⟩) ++
    definition.actorUsernameBodyField.toList.map (⟨.body, ·, .identifier⟩)

theorem plain_cut {value : Value} (h : Plain value) : Plain (cut value) := by
  induction h with
  | array _ ih =>
      rw [cut, cutElements_eq]
      refine .array fun element helement => ?_
      rcases List.mem_map.mp helement with ⟨whole, hwhole, rfl⟩
      exact ih whole hwhole
  | null => exact .null
  | boolean value => exact .boolean value
  | number n => exact .number n
  | string text => exact .string _

/-- A value for `jsonb` is clean exactly when its strings are. -/
theorem noNul_iff {value : Value} (h : Plain value) :
    NoNul value ↔ ∀ n, ∀ text ∈ stringsAt n value, nulFree text = true := by
  induction h with
  | null => exact iff_of_true .null (by rintro (_ | n) <;> simp [stringsAt])
  | boolean value => exact iff_of_true (.boolean value) (by rintro (_ | n) <;> simp [stringsAt])
  | number n => exact iff_of_true (.number n) (by rintro (_ | n) <;> simp [stringsAt])
  | string text =>
      rw [← nulFree_printed, printed, List.forall_mem_singleton]
      exact ⟨fun h => by cases h with | string h => exact h, fun h => .string h⟩
  | @array elements _ ih =>
      rw [← nulFree_printed, printed, printedElements_eq]
      constructor
      · intro h text htext
        cases h with
        | array h =>
            rcases List.mem_flatMap.mp htext with ⟨element, hmem, htext⟩
            exact (nulFree_printed element).mpr ((ih element hmem).mp (h element hmem)) text htext
      · refine fun h => .array fun element hmem => (ih element hmem).mpr ?_
        rw [← nulFree_printed]
        exact fun text htext => h text (List.mem_flatMap.mpr ⟨element, hmem, htext⟩)

/-- A recorded field is clean exactly when what is recorded of it is. -/
theorem clean_metadata {channel : Channel} {name : JsString} {request : AuthedRequest}
    {value : Value} (hvalue : channel.value request name = value) :
    Source.Clean ⟨channel, name, .metadata⟩ request ↔ (Plain value → NoNul (cut value)) := by
  rw [Source.Clean, Source.read, Reading.take, hvalue]
  rcases safeMetadataValue_cases value with ⟨hplain, hsafe⟩ | ⟨hplain, hsafe⟩
  · simp only [hsafe, Option.getD_some, hplain, true_implies, noNul_iff (plain_cut hplain)]
  · simp [hsafe, hplain, stringsAt_undefined]

/-- An identifier is clean exactly when the text is that is taken for it. -/
theorem clean_identifier {channel : Channel} {request : AuthedRequest} {value : Value}
    (hvalue : ∀ name, channel.value request name = readObjectField value (some name))
    (field : Option JsString) :
    (∀ name ∈ field, Source.Clean ⟨channel, name, .identifier⟩ request) ↔
      ∀ text ∈ toIdentifier (readObjectField value field), nulFree text = true := by
  cases field with
  | none => simp [readObjectField, toIdentifier]
  | some name =>
      simp only [Option.mem_some_iff, forall_eq', Source.Clean, Source.read, Reading.take, hvalue]
      cases toIdentifier (readObjectField value (some name)) with
      | none => simp [stringsAt_undefined]
      | some identifier =>
          have hprinted := nulFree_printed (.string identifier)
          simpa [printed] using hprinted.symm

/-- A declared value is what is read at a place of the metadata. -/
theorem declared_iff {input : BuildSystemAuditEntryInput} (hwell : WellFormed input.definition)
    {name : JsString} {value : Value} :
    Declared input name value ↔
      ∃ channel, ⟨channel, name, .metadata⟩ ∈ metadataSources input.definition ∧
        Channel.value input.request name channel = value := by
  have hread : ∀ {name}, name ∈ metadataFields input.definition → ∀ value : Value,
      readObjectField value (some name) = value.get name := by
    intro name hname value
    rw [readObjectField_some, if_neg (hwell.fieldNames name hname).1]
  simp only [metadataFields, List.mem_append] at hread
  constructor
  · rintro (hname | hname | hname)
    · exact ⟨.parameter, by simp [metadataSources, hname], hread (.inl (.inl hname)) _⟩
    · exact ⟨.body, by simp [metadataSources, hname], hread (.inl (.inr hname)) _⟩
    · exact ⟨.query, by simp [metadataSources, hname], hread (.inr hname) _⟩
  · rintro ⟨channel, hsource, rfl⟩
    simp only [metadataSources, List.mem_append, List.mem_map, Source.mk.injEq] at hsource
    rcases hsource with (⟨_, hname, rfl, rfl, -⟩ | ⟨_, hname, rfl, rfl, -⟩) |
      ⟨_, hname, rfl, rfl, -⟩
    · rw [Channel.value, hread (.inl (.inl hname))]
      exact .parameter hname
    · rw [Channel.value, hread (.inl (.inr hname))]
      exact .body hname
    · rw [Channel.value, hread (.inr hname)]
      exact .query hname

/-- The metadata of an entry is clean exactly when its places are. -/
theorem clean_metadataSources {input : BuildSystemAuditEntryInput}
    (hwell : WellFormed input.definition) :
    (∀ source ∈ metadataSources input.definition, source.Clean input.request) ↔
      ∀ entry ∈ (buildSystemAuditEntry input).metadata, nulFree entry.1 = true ∧ NoNul entry.2 := by
  rw [metadata_strings hwell fun _ h => h.1]
  constructor
  · intro h name value hdeclared
    rcases (declared_iff hwell).mp hdeclared with ⟨channel, hsource, hvalue⟩
    exact (clean_metadata hvalue).mp (h _ hsource)
  · rintro h ⟨channel, name, reading⟩ hsource
    have hreading : reading = .metadata := by
      simp only [metadataSources, List.mem_append, List.mem_map, Source.mk.injEq] at hsource
      rcases hsource with (⟨_, -, -, -, rfl⟩ | ⟨_, -, -, -, rfl⟩) | ⟨_, -, -, -, rfl⟩ <;> rfl
    subst hreading
    exact (clean_metadata rfl).mpr (h name _ ((declared_iff hwell).mpr ⟨channel, hsource, rfl⟩))

/-- What is recorded of a request is clean exactly when the metadata and the identifiers are. -/
theorem clean_recordedSources (definition : SystemAuditDefinition) (request : AuthedRequest) :
    (∀ source ∈ recordedSources definition, source.Clean request) ↔
      (∀ source ∈ metadataSources definition, source.Clean request) ∧
      (∀ text ∈ toIdentifier
          (readObjectField (.object false request.params) definition.targetParameter),
        nulFree text = true) ∧
      (∀ text ∈ toIdentifier (readObjectField request.body definition.targetNameField),
        nulFree text = true) ∧
      ∀ text ∈ toIdentifier (readObjectField request.body definition.actorUsernameBodyField),
        nulFree text = true := by
  have hparameter := @clean_identifier .parameter request (.object false request.params)
    (fun _ => rfl) definition.targetParameter
  have hbody := @clean_identifier .body request request.body (fun _ => rfl)
  rw [← hparameter, ← hbody, ← hbody]
  simp only [recordedSources, List.forall_mem_append, List.forall_mem_map, Option.mem_toList,
    and_assoc, Option.mem_def]

/-! ## Rows of the audit -/

/-- The lines of a header. -/
def headerTexts : Header → List JsString
  | .one text => [text]
  | .many texts => texts

/-- What an HTTP parser lets through has no NUL in the request line, the headers and the
addresses. -/
structure Transmitted (request : AuthedRequest) : Prop where
  method : nulFree request.method = true
  originalUrl : nulFree request.originalUrl = true
  headers : ∀ header ∈ request.headers, ∀ text ∈ headerTexts header.2, nulFree text = true
  ip : ∀ address ∈ request.ip, nulFree address = true
  remoteAddress : ∀ address ∈ request.remoteAddress, nulFree address = true

namespace Transmitted

variable {request : AuthedRequest}

theorem path (h : Transmitted request) : nulFree request.path = true := by
  rw [AuthedRequest.path, List.headD_eq_head?_getD, split_head?, Option.getD_some]
  exact nulFree_of_subset h.originalUrl (List.takeWhile_subset _)

theorem header (h : Transmitted request) {name : JsString} {header : Header}
    (hheader : request.header name = some header) :
    ∀ text ∈ headerTexts header, nulFree text = true := by
  rw [AuthedRequest.header, Option.map_eq_some_iff] at hheader
  rcases hheader with ⟨entry, hfound, rfl⟩
  exact h.headers entry (List.mem_of_find?_eq_some hfound)

theorem userAgentOf (h : Transmitted request) :
    ∀ text ∈ userAgentOf request, nulFree text = true := by
  intro text htext
  rw [Audit.userAgentOf] at htext
  split at htext
  · next whole hheader =>
    rw [Option.mem_some_iff] at htext
    exact htext ▸ nulFree_take 512 (h.header hheader whole (by simp [headerTexts]))
  · exact absurd htext (by simp)

theorem forwardedAddress (h : Transmitted request) :
    ∀ text ∈ forwardedAddress request, nulFree text = true := by
  have hfirst : ∀ text, nulFree text = true →
      ∀ address ∈ ((split 44 text).head?).map trim, nulFree address = true := by
    intro text htext address haddress
    rw [split_head?, Option.map_some, Option.mem_some_iff] at haddress
    subst haddress
    exact nulFree_of_subset htext (List.Subset.trans (trim_subset _) (List.takeWhile_subset _))
  have hpeer : ∀ address ∈ request.ip.or request.remoteAddress, nulFree address = true := by
    intro address haddress
    rcases Option.or_eq_some_iff.mp haddress with hip | ⟨-, hremote⟩
    · exact h.ip address hip
    · exact h.remoteAddress address hremote
  intro text htext
  rw [Audit.forwardedAddress] at htext
  cases hheader : request.header (lit "x-forwarded-for") with
  | none => exact hpeer text (by simpa [hheader] using htext)
  | some header =>
      have hlines := h.header hheader
      rcases header with line | (_ | ⟨line, lines⟩)
      · rw [hheader] at htext
        rcases Option.or_eq_some_iff.mp htext with hline | ⟨-, haddress⟩
        · exact hfirst line (hlines line (by simp [headerTexts])) text hline
        · exact hpeer text haddress
      · exact hpeer text (by simpa [hheader] using htext)
      · rw [hheader] at htext
        rcases Option.or_eq_some_iff.mp htext with hline | ⟨-, haddress⟩
        · exact hfirst line (hlines line (by simp [headerTexts])) text hline
        · exact hpeer text haddress

end Transmitted

/-- What an answer brings into an entry under a definition has no NUL. -/
structure Stored (definition : SystemAuditDefinition) (responseBody : Value) : Prop where
  target : ∀ text ∈ toIdentifier (readObjectField responseBody definition.targetResponseField),
    nulFree text = true
  targetName : ∀ text ∈ toIdentifier (readObjectField responseBody definition.targetNameField),
    nulFree text = true
  username : ∀ text ∈
      toIdentifier (readObjectPath responseBody definition.actorUsernameResponsePath),
    nulFree text = true

/-- No answer brings nothing in. -/
theorem readObjectPath_undefined (fieldPath : Option JsString) :
    readObjectPath .undefined fieldPath = .undefined := by
  have hnames : ∀ names, readFieldNames .undefined names = .undefined := by
    rintro (_ | ⟨name, names⟩) <;> simp [readFieldNames, readObjectField, isObject, isUndefined]
  cases fieldPath with
  | none => rfl
  | some path =>
      rw [readObjectPath, hnames]
      exact ite_self _

theorem readObjectField_undefined (fieldName : Option JsString) :
    readObjectField .undefined fieldName = .undefined := by
  cases fieldName <;> simp [readObjectField, isObject]

theorem stored_undefined (definition : SystemAuditDefinition) :
    Stored definition .undefined := by
  constructor <;> simp [readObjectPath_undefined, readObjectField_undefined, toIdentifier]

variable {input : BuildSystemAuditEntryInput}

/-- The first of two texts has no NUL when neither has. -/
theorem nulFree_or {first second : Option JsString}
    (hfirst : ∀ text ∈ first, nulFree text = true)
    (hsecond : ∀ text ∈ second, nulFree text = true) :
    ∀ text ∈ first.or second, nulFree text = true := by
  intro text htext
  rcases Option.or_eq_some_iff.mp htext with h | ⟨-, h⟩
  · exact hfirst text h
  · exact hsecond text h

/-- The actor has no NUL when no name has that may be taken for it. -/
theorem nulFree_actor {definition : SystemAuditDefinition} {request : AuthedRequest}
    {responseBody : Value} (huser : ∀ user ∈ request.user, nulFree user.username = true)
    (hname : ∀ text ∈
      (toIdentifier (readObjectPath responseBody definition.actorUsernameResponsePath)).or
        (toIdentifier (readObjectField request.body definition.actorUsernameBodyField)),
      nulFree text = true) :
    nulFree (actorIdentity definition request responseBody).2 = true := by
  rw [actorIdentity]
  cases hactor : request.user with
  | some user => exact huser user hactor
  | none =>
      cases hfound : (toIdentifier
          (readObjectPath responseBody definition.actorUsernameResponsePath)).or
            (toIdentifier (readObjectField request.body definition.actorUsernameBodyField)) with
      | none =>
          have hanonymous : nulFree (lit "anonymous") = true := by decide
          exact hanonymous
      | some username => exact hname username hfound

/-- The row of an entry has no NUL when the places are clean that its definition records. -/
theorem audit_nulFree (hused : Used input.request input.definition)
    (htransmitted : Transmitted input.request)
    (huser : ∀ user ∈ input.request.user, nulFree user.username = true)
    (hmessage : ∀ message ∈ input.errorMessage, nulFree message = true)
    (hstored : Stored input.definition input.responseBody)
    (hclean : ∀ source ∈ recordedSources input.definition, source.Clean input.request) :
    (Statement.audit (buildSystemAuditEntry input)).NulFree := by
  have hwell := wellFormed_of_used hused
  rw [clean_recordedSources] at hclean
  rcases hclean with ⟨hsources, hparameter, hname, husername⟩
  have hmetadata := (clean_metadataSources hwell).mp hsources
  have htarget := nulFree_or hparameter hstored.target
  have htargetName := nulFree_or hname hstored.targetName
  have hactor : nulFree (buildSystemAuditEntry input).actorUsername = true :=
    nulFree_actor huser (nulFree_or hstored.username husername)
  refine ⟨?_, hmetadata⟩
  have hdescription : Varchar.Fits 1024 (buildSystemAuditEntry input).description :=
    buildDescription_fits hactor hwell.name.2 (nulFree_or htargetName htarget)
      fun entry hentry => (hmetadata entry hentry).1
  have hstatus : nulFree input.status.text = true := by cases input.status <;> decide
  have herror : ∀ text ∈ input.errorMessage.map (·.take 1024), nulFree text = true := by
    intro text htext
    rcases Option.mem_map.mp htext with ⟨message, hmem, rfl⟩
    exact nulFree_take 1024 (hmessage message hmem)
  have hsubject : ∀ text ∈ input.definition.subject, nulFree text = true :=
    fun text htext => (hwell.subject text htext).2
  have htargetType : ∀ text ∈ input.definition.targetType, nulFree text = true :=
    fun text htext => (hwell.targetType text htext).2
  simp only [columnTexts, List.forall_mem_append, Option.mem_toList, List.forall_mem_cons,
    List.not_mem_nil, false_implies, implies_true, and_true]
  exact ⟨⟨⟨⟨⟨⟨⟨⟨hwell.name.2, hdescription.2, hactor, hwell.action.2, htransmitted.method,
    htransmitted.path, hstatus⟩, hsubject⟩, htargetType⟩, htarget⟩, htargetName⟩, herror⟩,
    htransmitted.forwardedAddress⟩, htransmitted.userAgentOf⟩

/-- And then only, where the answer adds nothing and nobody is logged in. -/
theorem clean_of_audit (h : (Statement.audit (buildSystemAuditEntry input)).NulFree)
    (hused : Used input.request input.definition) (huser : input.request.user = none)
    (hresponse : input.responseBody = .undefined) :
    ∀ source ∈ recordedSources input.definition, source.Clean input.request := by
  rcases h with ⟨htexts, hmetadata⟩
  have hnothing : ∀ field, toIdentifier (readObjectField input.responseBody field) = none := by
    intro field
    rw [hresponse, readObjectField_undefined]
    rfl
  have hnobody : toIdentifier (readObjectPath input.responseBody
      input.definition.actorUsernameResponsePath) = none := by
    rw [hresponse, readObjectPath_undefined]
    rfl
  rw [clean_recordedSources]
  refine ⟨(clean_metadataSources (wellFormed_of_used hused)).mpr hmetadata, ?_, ?_, ?_⟩
  · intro text htext
    apply htexts
    have htarget : (buildSystemAuditEntry input).targetId = some text := by
      change resolveTargetId _ _ _ = _
      rw [resolveTargetId, hnothing, Option.or_none]
      exact htext
    simp [columnTexts, htarget]
  · intro text htext
    apply htexts
    have htarget : (buildSystemAuditEntry input).targetName = some text := by
      change resolveTargetName _ _ _ = _
      rw [resolveTargetName, hnothing, Option.or_none]
      exact htext
    simp [columnTexts, htarget]
  · intro text htext
    apply htexts
    have hactor : (buildSystemAuditEntry input).actorUsername = text := by
      change (actorIdentity _ _ _).2 = _
      rw [Option.mem_def] at htext
      simp only [actorIdentity, huser, hnobody, Option.none_or, htext, Option.getD_some]
    simp [columnTexts, hactor]

end NulBytes
end R2RPC
