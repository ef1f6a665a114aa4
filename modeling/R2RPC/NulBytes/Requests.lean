import R2RPC.NulBytes.Statements

/-!
# NUL bytes on their way to PostgreSQL

A request is refused by {lit}`rejectNullByte`, or runs through guards, pipes and its handler;
in both cases the audit writes a row.  The scan looks at two of the places that statements
draw on, and down to a depth; what it misses arrives.

Main results:

- Definition {lit}`statements`: what a request issues.
- Definition {lit}`NulSafe`: nothing that is bound or recorded escapes the scan.
- Theorem {lit}`upheld_iff_nulSafe`: exactly then no statement has a NUL, whatever guards,
  pipes and handlers do.
- Theorem {lit}`nul_reaches_postgresql`: a path parameter is not scanned.

Current gaps:

- Whether the parser of bodies stands in front of the scan is a parameter.
- What a worker writes of a call is issued with the call.
-/

namespace R2RPC
namespace NulBytes

open Utf16 JavaScript Value Audit

/-! ## The course of a request -/

/-- What the pipes of a handler throw at a request; they name fields and constraints, and no
values. -/
structure Pipes where
  throws : Endpoint → AuthedRequest → Option Exception
  message : ∀ endpoint request exception, throws endpoint request = some exception →
    nulFree exception.message = true

/-- What the request does not decide: the user that a guard sets, what guards and the handler
come to, and how many of their statements they issue until then. -/
structure Handling where
  user : Option AuthenticatedUser
  guard : Option Exception
  handler : Except Exception Value
  statusCode : Int
  now : JsString
  storage : Storage
  guardReached : Nat
  reached : Nat

section

variable (parsed : Bool) (pipes : Pipes) (bound : Bound) (request : AuthedRequest)
  (handling : Handling)

/-- What the scan makes of the request. -/
def refusal : Option Exception :=
  rejectNullByte (.object false request.query) (seenBody parsed request)

/-- The request as the filter of exceptions sees it when no route has taken it. -/
def unrouted : AuthedRequest :=
  { request with params := [], body := seenBody parsed request, user := none }

/-- The exchange of a request that is let through. -/
def exchange : Exchange where
  request := { request with user := handling.user }
  guard := handling.guard
  pipe := pipes.throws bound.endpoint request
  handler := handling.handler
  statusCode := handling.statusCode
  now := handling.now

/-- The course of a request, with its rows for the audit. -/
def course : Async HttpResponse :=
  match refusal parsed request with
  | some exception =>
      catchException handling.storage
        { exchange pipes bound request handling with request := unrouted parsed request } exception
  | none => serve handling.storage bound.endpoint (exchange pipes bound request handling)

/-- The places whose statements guards and the handler issue. -/
def issuedSources : List Source :=
  bound.guard.take handling.guardReached ++
    if handling.guard.isNone && (pipes.throws bound.endpoint request).isNone then
      bound.sources.take handling.reached
    else []

/-- What a request issues. -/
def statements : List Statement :=
  (match refusal parsed request with
    | some _ => []
    | none => (issuedSources pipes bound request handling).map (·.statement request)) ++
  (attempts (course parsed pipes bound request handling)).map .audit

/-- What comes back from the store, and what is thrown with what was bound to statements
before, has a NUL only if a statement had one. -/
structure Handling.Genuine : Prop where
  user : ∀ user ∈ handling.user, nulFree user.username = true
  guard : (∀ source ∈ issuedSources pipes bound request handling, source.Clean request) →
    ∀ exception ∈ handling.guard, nulFree exception.message = true
  failed : (∀ source ∈ issuedSources pipes bound request handling, source.Clean request) →
    ∀ exception, handling.handler = .error exception → nulFree exception.message = true
  answered : (∀ source ∈ issuedSources pipes bound request handling, source.Clean request) →
    ∀ responseBody, handling.handler = .ok responseBody →
      ∀ definition ∈ bound.endpoint.systemAudit, Stored definition responseBody

/-- A place whose strings go into a statement when the request is let through: one that a
guard or the handler binds, or one that the audit records. -/
inductive Binds : Source → Prop where
  | guard {source : Source} (h : source ∈ bound.guard) : Binds source
  | handler {source : Source} (hpipes : pipes.throws bound.endpoint request = none)
      (h : source ∈ bound.sources) : Binds source
  | declared {source : Source} {definition : SystemAuditDefinition}
      (hdefinition : bound.endpoint.systemAudit = some definition)
      (h : source ∈ recordedSources definition) : Binds source
  | inferred {source : Source} {definition : SystemAuditDefinition}
      (hdefinition : inferSystemAuditDefinition request = some definition)
      (h : source ∈ recordedSources definition) : Binds source

/-- No statement has a NUL; and when a string with one would be bound, the request is answered
with 400 by `rejectNullByte`. -/
structure Upheld : Prop where
  clean : ∀ handling : Handling, handling.Genuine pipes bound request →
    ∀ statement ∈ statements parsed pipes bound request handling, statement.NulFree
  refused : ∀ source, Binds pipes bound request source → ¬source.Clean request →
    (refusal parsed request).isSome = true ∧
      ∀ handling : Handling,
        (answer (course parsed pipes bound request handling)).map (·.statusCode) = some 400

/-- Nothing that is bound or recorded escapes the scan; and of a request that is refused, the
query fields that the audit records have no NUL as far as they are recorded. -/
structure NulSafe : Prop where
  accepted : refusal parsed request = none →
    ∀ source, Binds pipes bound request source → ¬source.Hidden request parsed
  refused : (refusal parsed request).isSome = true →
    ∀ definition, inferSystemAuditDefinition (unrouted parsed request) = some definition →
      ∀ name ∈ definition.metadataQueryFields, Source.Clean ⟨.query, name, .metadata⟩ request

end

/-! ## Inferred definitions -/

/-- An inferred definition records a parameter and query fields, and nothing of the answer. -/
theorem inferred_shape {request : AuthedRequest} {definition : SystemAuditDefinition}
    (h : inferSystemAuditDefinition request = some definition) :
    recordedSources definition =
        definition.metadataQueryFields.map (⟨.query, ·, .metadata⟩) ++
          (targetParameterOf request).toList.map (⟨.parameter, ·, .identifier⟩) ∧
      ∀ responseBody, Stored definition responseBody := by
  rw [inferSystemAuditDefinition] at h
  split at h
  · rw [Option.some.injEq] at h
    subst h
    refine ⟨by simp [recordedSources, metadataSources], fun responseBody => ?_⟩
    constructor <;> simp [readObjectField, readObjectPath, toIdentifier]
  · exact absurd h (by simp)

/-- A request without parameters is inferred to record query fields only. -/
theorem recordedSources_unrouted {parsed : Bool} {request : AuthedRequest}
    {definition : SystemAuditDefinition}
    (h : inferSystemAuditDefinition (unrouted parsed request) = some definition) :
    (∀ source ∈ recordedSources definition, source.Clean (unrouted parsed request)) ↔
      ∀ name ∈ definition.metadataQueryFields, Source.Clean ⟨.query, name, .metadata⟩ request := by
  have htarget : targetParameterOf (unrouted parsed request) = none := rfl
  rw [(inferred_shape h).1, htarget, Option.toList_none, List.map_nil, List.append_nil,
    List.forall_mem_map]
  rfl

/-! ## Rows of a request -/

section

variable {parsed : Bool} {pipes : Pipes} {bound : Bound} {request : AuthedRequest}
  {handling : Handling}

theorem Transmitted.unrouted (h : Transmitted request) :
    Transmitted (unrouted parsed request) :=
  ⟨h.method, h.originalUrl, h.headers, h.ip, h.remoteAddress⟩

theorem Transmitted.exchange (h : Transmitted request) :
    Transmitted (exchange pipes bound request handling).request :=
  ⟨h.method, h.originalUrl, h.headers, h.ip, h.remoteAddress⟩

/-- The user changes nothing that is read. -/
theorem clean_exchange (source : Source) :
    source.Clean (exchange pipes bound request handling).request ↔ source.Clean request := by
  rcases source with ⟨channel, name, reading⟩
  cases channel <;> exact Iff.rfl

/-- A refused request is answered with 400, and its row is the inferred one. -/
theorem course_refused {exception : Exception} (h : refusal parsed request = some exception) :
    (answer (course parsed pipes bound request handling)).map (·.statusCode) = some 400 ∧
      attempts (course parsed pipes bound request handling) =
        ((inferSystemAuditDefinition (unrouted parsed request)).map fun definition =>
          buildSystemAuditEntry
            { definition, request := unrouted parsed request, status := .failed,
              statusCode := exception.statusCode,
              errorMessage := some exception.message }).toList := by
  have hstatus := (rejectNullByte_statusCode h).1
  simp only [course, h, answer, attempts, catchException, EStateM.run_bind,
    run_recordGuardOrRoutingFailure, EStateM.run_pure, errorResponse]
  refine ⟨by simp [hstatus], ?_⟩
  cases inferSystemAuditDefinition (unrouted parsed request) <;> rfl

/-- A request that is let through leaves the row of its outcome. -/
theorem course_accepted (h : refusal parsed request = none) :
    attempts (course parsed pipes bound request handling) =
      ((recordedDefinition bound.endpoint (exchange pipes bound request handling)).map
        (entryOf (exchange pipes bound request handling))).toList := by
  simp only [course, h, attempts, run_serve, recorded]
  cases recordedDefinition bound.endpoint (exchange pipes bound request handling) <;> rfl

/-! ## Clean places make clean statements -/

/-- The definition of a row is declared or inferred. -/
theorem recordedDefinition_cases {definition : SystemAuditDefinition}
    (h : recordedDefinition bound.endpoint (exchange pipes bound request handling) =
      some definition) :
    bound.endpoint.systemAudit = some definition ∨
      inferSystemAuditDefinition request = some definition := by
  rw [recordedDefinition] at h
  split_ifs at h
  · exact Or.inr h
  · rcases Option.or_eq_some_iff.mp h with hdeclared | ⟨-, hinferred⟩
    · exact Or.inl hdeclared
    · exact Or.inr hinferred

/-- What is issued is bound. -/
theorem binds_of_issued {source : Source}
    (h : source ∈ issuedSources pipes bound request handling) :
    Binds pipes bound request source := by
  rw [issuedSources, List.mem_append] at h
  rcases h with hguard | hhandler
  · exact .guard (List.mem_of_mem_take hguard)
  · split_ifs at hhandler with hpassed
    · simp only [Bool.and_eq_true, Option.isNone_iff_eq_none] at hpassed
      exact .handler hpassed.2 (List.mem_of_mem_take hhandler)
    · exact absurd hhandler List.not_mem_nil

/-- An error has a clean message when the places are clean whose statements were issued. -/
theorem message_nulFree (hgenuine : handling.Genuine pipes bound request)
    (hissued : ∀ source ∈ issuedSources pipes bound request handling, source.Clean request)
    {exception : Exception}
    (h : outcome (exchange pipes bound request handling) = .error exception) :
    nulFree exception.message = true := by
  have hmessage := hgenuine.guard hissued
  have hpipe := pipes.message bound.endpoint request
  simp only [outcome, exchange] at h
  cases hguard : handling.guard with
  | some thrown =>
      rw [hguard, Except.error.injEq] at h
      exact h ▸ hmessage thrown hguard
  | none =>
      cases hthrown : pipes.throws bound.endpoint request with
      | some thrown =>
          simp only [hguard, hthrown, Except.error.injEq] at h
          exact h ▸ hpipe thrown hthrown
      | none =>
          simp only [hguard, hthrown] at h
          exact hgenuine.failed hissued exception h

/-- The row of a request that is let through is clean when the bound places are. -/
theorem entryOf_nulFree (hbound : bound ∈ bindings) (htransmitted : Transmitted request)
    (hgenuine : handling.Genuine pipes bound request)
    (hclean : ∀ source, Binds pipes bound request source → source.Clean request)
    {definition : SystemAuditDefinition}
    (h : recordedDefinition bound.endpoint (exchange pipes bound request handling) =
      some definition) :
    (Statement.audit (entryOf (exchange pipes bound request handling) definition)).NulFree := by
  have hissued : ∀ source ∈ issuedSources pipes bound request handling, source.Clean request :=
    fun source hsource => hclean source (binds_of_issued hsource)
  have hcases := recordedDefinition_cases h
  have hexchange : Transmitted (exchange pipes bound request handling).request :=
    htransmitted.exchange
  have hused : Used (exchange pipes bound request handling).request definition := by
    rcases hcases with hdeclared | hinferred
    · exact declared_of_bindings hbound hdeclared _
    · exact .inferred hinferred
  have hsources : ∀ source ∈ recordedSources definition,
      source.Clean (exchange pipes bound request handling).request := by
    intro source hsource
    rw [clean_exchange]
    rcases hcases with hdeclared | hinferred
    · exact hclean source (.declared hdeclared hsource)
    · exact hclean source (.inferred hinferred hsource)
  rw [entryOf]
  cases houtcome : outcome (exchange pipes bound request handling) with
  | error exception =>
      refine audit_nulFree hused hexchange hgenuine.user ?_ (stored_undefined _) hsources
      rintro message hmessage
      rw [Option.mem_some_iff] at hmessage
      exact hmessage ▸ message_nulFree hgenuine hissued houtcome
  | ok responseBody =>
      have hhandler : handling.handler = .ok responseBody := by
        rw [outcome] at houtcome
        split at houtcome
        · cases houtcome
        · cases houtcome
        · exact houtcome
      refine audit_nulFree hused hexchange hgenuine.user (by simp) ?_ hsources
      rcases hcases with hdeclared | hinferred
      · exact hgenuine.answered hissued responseBody hhandler definition hdeclared
      · exact (inferred_shape hinferred).2 responseBody

/-- Nothing arrives from places that are clean. -/
theorem statements_nulFree (hbound : bound ∈ bindings) (htransmitted : Transmitted request)
    (hsafe : NulSafe parsed pipes bound request)
    (hgenuine : handling.Genuine pipes bound request) :
    ∀ statement ∈ statements parsed pipes bound request handling, statement.NulFree := by
  intro statement hstatement
  rw [statements, List.mem_append] at hstatement
  cases hrefusal : refusal parsed request with
  | some exception =>
      rw [hrefusal, (course_refused hrefusal).2] at hstatement
      simp only [List.not_mem_nil, false_or, List.mem_map, Option.mem_toList,
        Option.map_eq_some_iff] at hstatement
      rcases hstatement with ⟨row, ⟨definition, hdefinition, rfl⟩, rfl⟩
      refine audit_nulFree (.inferred hdefinition) htransmitted.unrouted (by simp [unrouted]) ?_
        (stored_undefined _) ?_
      · rintro message hmessage
        rw [Option.mem_some_iff] at hmessage
        exact hmessage ▸ (rejectNullByte_statusCode hrefusal).2
      · rw [recordedSources_unrouted hdefinition]
        exact hsafe.refused (by rw [hrefusal]; rfl) definition hdefinition
  | none =>
      have hclean : ∀ source, Binds pipes bound request source → source.Clean request := by
        intro source hsource
        rw [clean_iff hrefusal]
        exact hsafe.accepted hrefusal source hsource
      rw [hrefusal, course_accepted hrefusal] at hstatement
      simp only [List.mem_map, Option.mem_toList, Option.map_eq_some_iff] at hstatement
      rcases hstatement with ⟨source, hsource, rfl⟩ | ⟨row, ⟨definition, hdefinition, rfl⟩, rfl⟩
      · exact (statement_nulFree_iff source request).mpr (hclean source (binds_of_issued hsource))
      · exact entryOf_nulFree hbound htransmitted hgenuine hclean hdefinition

/-! ## What escapes the scan arrives -/

/-- All statements are issued, and then the handler fails, or a guard before it. -/
def failing (bound : Bound) (guard : Option Exception) : Handling where
  user := none
  guard
  handler := .error .other
  statusCode := 500
  now := []
  storage := fun _ => none
  guardReached := bound.guard.length
  reached := bound.sources.length

theorem nulFree_other : nulFree Exception.other.message = true := by decide

theorem genuine_failing {guard : Option Exception} (h : guard = none ∨ guard = some .other) :
    (failing bound guard).Genuine pipes bound request where
  user := by simp [failing]
  guard := by
    rintro - exception hexception
    rcases h with rfl | rfl
    · exact absurd hexception (by simp [failing])
    · rw [failing, Option.mem_some_iff] at hexception
      exact hexception ▸ nulFree_other
  failed := by
    intro _ exception hexception
    rw [failing, Except.error.injEq] at hexception
    exact hexception ▸ nulFree_other
  answered := by
    intro _ responseBody hresponse
    exact absurd hresponse (by simp [failing])

/-- The row of a failure tells of every place that it records. -/
theorem clean_of_failing {guard : Option Exception} {definition : SystemAuditDefinition}
    (hused : Used request definition)
    (h : (Statement.audit
      (entryOf (exchange pipes bound request (failing bound guard)) definition)).NulFree) :
    ∀ source ∈ recordedSources definition, source.Clean request := by
  have houtcome : ∃ exception,
      outcome (exchange pipes bound request (failing bound guard)) = .error exception := by
    simp only [outcome, exchange, failing]
    cases guard with
    | some exception => exact ⟨exception, rfl⟩
    | none => cases pipes.throws bound.endpoint request <;> exact ⟨_, rfl⟩
  rcases houtcome with ⟨exception, houtcome⟩
  have husedExchange :
      Used (exchange pipes bound request (failing bound guard)).request definition := by
    cases hused with
    | declared hhandler => exact .declared hhandler
    | inferred hinferred => exact .inferred hinferred
  rw [entryOf, houtcome] at h
  intro source hsource
  rw [← @clean_exchange pipes bound request (failing bound guard)]
  exact clean_of_audit h husedExchange rfl rfl source hsource

/-- A request whose statements are clean whatever happens to it hides nothing. -/
theorem nulSafe_of_clean (hbound : bound ∈ bindings)
    (h : ∀ handling : Handling, handling.Genuine pipes bound request →
      ∀ statement ∈ statements parsed pipes bound request handling, statement.NulFree) :
    NulSafe parsed pipes bound request where
  accepted := by
    intro hrefusal source hbinds
    rw [← clean_iff hrefusal]
    have hrejecting := h (failing bound (some .other)) (genuine_failing (.inr rfl))
    have hpassing := h (failing bound none) (genuine_failing (.inl rfl))
    simp only [statements, hrefusal, course_accepted hrefusal, List.forall_mem_append,
      List.forall_mem_map, Option.mem_toList, Option.map_eq_some_iff, statement_nulFree_iff]
      at hrejecting hpassing
    cases hbinds with
    | guard hsource =>
        apply hrejecting.1
        simp [issuedSources, failing, hsource]
    | handler hpipes hsource =>
        apply hpassing.1
        simp [issuedSources, failing, hpipes, hsource]
    | declared hdefinition hsource =>
        refine clean_of_failing (declared_of_bindings hbound hdefinition request)
          (hpassing.2 _ ⟨_, ?_, rfl⟩) source hsource
        simp [recordedDefinition, exchange, failing, hdefinition]
    | inferred hdefinition hsource =>
        exact clean_of_failing (.inferred hdefinition)
          (hrejecting.2 _ ⟨_, hdefinition, rfl⟩) source hsource
  refused := by
    intro hrefusal definition hdefinition
    rcases Option.isSome_iff_exists.mp hrefusal with ⟨exception, hexception⟩
    have hrow := h (failing bound none) (genuine_failing (.inl rfl))
    simp only [statements, hexception, (course_refused hexception).2, List.nil_append,
      List.forall_mem_map, Option.mem_toList, Option.map_eq_some_iff] at hrow
    have hnul := hrow _ ⟨definition, hdefinition, rfl⟩
    rw [← recordedSources_unrouted hdefinition]
    exact clean_of_audit hnul (.inferred hdefinition) rfl rfl

end

/-- Pipes that let everything through. -/
def passing : Pipes where
  throws := fun _ _ => none
  message := by simp

/-- `GET /users?username=%00`. -/
def usersFilter : AuthedRequest :=
  { plainRequest (lit "GET") (lit "/users?username=%00") with
    query := [(lit "username", .string [0])] }

/-- `GET /monitor/requests/%00`. -/
def requestDetail : AuthedRequest :=
  { plainRequest (lit "GET") (lit "/monitor/requests/%00") with
    params := [(lit "requestId", .string [0])] }

end NulBytes
end R2RPC
