import R2RPC.Audit.Controllers

/-!
# Recording by the interceptor and the exception filter

A request passes guards, the interceptor, pipes and the handler; whatever is thrown on the
way ends in the global filter.  The interceptor records what goes through it, and the
filter what is thrown in front of it; a flag on the request joins the two.

Main results:

- Definition {lit}`serve`: the course of a request, with the attempts to write a row.
- Theorem {lit}`serve_transparent`: the client sees what it would see without the audit.
- Theorem {lit}`auditedOnce_iff`: exactly when one attempt is made, with the outcome of the
  request.

Current gaps:

- A handler answers with one value.
- What a guard changes on the request is there when the audit reads it.
-/

namespace R2RPC
namespace Audit

open Utf16 JavaScript

/-! ## Exceptions and answers -/

/-- What is thrown. -/
inductive Exception where
  | httpException (status : Int) (response : Value) (message : JsString)
  | error (message : JsString)
  | other

/-- `statusCodeOf`. -/
def Exception.statusCode : Exception → Int
  | .httpException status _ _ => status
  | _ => 500

/-- `errorMessageOf`. -/
def Exception.message : Exception → JsString
  | .httpException _ _ message => message
  | .error message => message
  | .other => lit "未知错误"

/-- The message of the error body. -/
def Exception.response : Exception → Value
  | .httpException _ response _ => response
  | _ => .string (lit "Internal server error")

/-- The body of an answer. -/
inductive ResponseBody where
  | result (value : Value)
  | failure (statusCode : Int) (message : Value) (timestamp : JsString)

/-- What the client sees. -/
structure HttpResponse where
  statusCode : Int
  body : ResponseBody

/-! ## Attempts -/

/-- The flag on the request, and the rows that were offered to the storage. -/
structure AuditState where
  systemAuditRecorded : Bool := false
  attempts : List CreateSystemLogInput := []

/-- A computation that records and may throw. -/
abbrev Async := EStateM Exception AuditState

@[simp]
theorem run_tryCatch {α : Type} (program : Async α) (handler : Exception → Async α)
    (state : AuditState) :
    (tryCatch program handler).run state =
      match program.run state with
      | .ok value state => .ok value state
      | .error exception state => (handler exception).run state := by
  change EStateM.tryCatch program handler state = _
  rw [EStateM.tryCatch, EStateM.run]
  cases program state <;> rfl

/-- What was recorded stays when an exception is caught. -/
@[simp]
theorem restore_save (state saved : AuditState) :
    EStateM.Backtrackable.restore state (EStateM.Backtrackable.save saved : PUnit) = state := rfl

@[simp]
theorem run_throw {α : Type} (exception : Exception) (state : AuditState) :
    (throw exception : Async α).run state = .error exception state := rfl

@[simp]
theorem run_map {α β : Type} (f : α → β) (program : Async α) (state : AuditState) :
    (f <$> program).run state =
      match program.run state with
      | .ok value state => .ok (f value) state
      | .error exception state => .error exception state := by
  change EStateM.map f program state = _
  rw [EStateM.map, EStateM.run]
  cases program state <;> rfl

/-- When the storage fails. -/
abbrev Storage := AuditState → Option Exception

variable (storage : Storage)

/-- `SystemLogsService.create`. -/
def create (input : CreateSystemLogInput) : Async Unit := do
  modify fun state => { state with attempts := state.attempts ++ [input] }
  match storage (← get) with
  | none => pure ()
  | some exception => throw exception

/-- `recordSafely`. -/
def recordSafely (input : CreateSystemLogInput) : Async Unit :=
  tryCatch (create storage input) fun _ => pure ()

/-- `recordAndMark`. -/
def recordAndMark (input : CreateSystemLogInput) : Async Unit := do
  modify fun state => { state with systemAuditRecorded := true }
  recordSafely storage input

/-! ## The course of a request -/

/-- A handler with its route, and its definition if it is decorated. -/
structure Endpoint where
  route : Route
  systemAudit : Option SystemAuditDefinition

/-- A decorated handler. -/
def Handler.endpoint (handler : Handler) : Endpoint := ⟨handler.route, some handler.systemAudit⟩

/-- A request, what guards, pipes and the handler make of it, the status of a successful
answer, and the time of an error. -/
structure Exchange where
  request : AuthedRequest
  guard : Option Exception
  pipe : Option Exception
  handler : Except Exception Value
  statusCode : Int
  now : JsString

variable (endpoint : Endpoint) (exchange : Exchange)

/-- Guards let a request through or throw. -/
def canActivate : Async Unit :=
  match exchange.guard with
  | none => pure ()
  | some exception => throw exception

/-- `next.handle()`: pipes, then the handler. -/
def handle : Async Value :=
  match exchange.pipe, exchange.handler with
  | some exception, _ => throw exception
  | none, .error exception => throw exception
  | none, .ok responseBody => pure responseBody

/-- `SystemAuditInterceptor.intercept`. -/
def intercept (next : Async Value) : Async Value :=
  match endpoint.systemAudit.or (inferSystemAuditDefinition exchange.request) with
  | none => next
  | some definition =>
      tryCatch
        (do
          let responseBody ← next
          recordAndMark storage
            (buildSystemAuditEntry
              { definition, request := exchange.request, responseBody, status := .succeeded,
                statusCode := exchange.statusCode })
          pure responseBody)
        fun handlerError => do
          recordAndMark storage
            (buildSystemAuditEntry
              { definition, request := exchange.request, status := .failed,
                statusCode := handlerError.statusCode,
                errorMessage := some handlerError.message })
          throw handlerError

/-- `recordGuardOrRoutingFailure`. -/
def recordGuardOrRoutingFailure (exception : Exception) : Async Unit := do
  if (← get).systemAuditRecorded then pure ()
  else
    match inferSystemAuditDefinition exchange.request with
    | none => pure ()
    | some definition =>
        modify fun state => { state with systemAuditRecorded := true }
        tryCatch
          (create storage
            (buildSystemAuditEntry
              { definition, request := exchange.request, status := .failed,
                statusCode := exception.statusCode, errorMessage := some exception.message }))
          fun _ => pure ()

/-- The error that is sent. -/
def errorResponse (exception : Exception) : HttpResponse :=
  ⟨exception.statusCode, .failure exception.statusCode exception.response exchange.now⟩

/-- `AllExceptionsFilter.catch`. -/
def catchException (exception : Exception) : Async HttpResponse := do
  recordGuardOrRoutingFailure storage exchange exception
  pure (errorResponse exchange exception)

/-- A request, from the guards to the answer. -/
def serve : Async HttpResponse :=
  tryCatch
    (do
      canActivate exchange
      let responseBody ← intercept storage endpoint exchange (handle exchange)
      pure ⟨exchange.statusCode, .result responseBody⟩)
    (catchException storage exchange)

/-- The same course without an audit. -/
def serveUnaudited : Async HttpResponse :=
  tryCatch
    (do
      canActivate exchange
      let responseBody ← handle exchange
      pure ⟨exchange.statusCode, .result responseBody⟩)
    fun exception => pure (errorResponse exchange exception)

/-- What a computation answers, when it does not throw. -/
def answer {α : Type} (program : Async α) : Option α :=
  match program.run {} with
  | .ok value _ => some value
  | .error _ _ => none

/-- The attempts that a computation makes. -/
def attempts {α : Type} (program : Async α) : List CreateSystemLogInput :=
  match program.run {} with
  | .ok _ state => state.attempts
  | .error _ state => state.attempts

/-! ## What was thrown -/

/-- The outcome of a request: what a guard, a pipe or the handler throws, or the result. -/
def outcome : Except Exception Value :=
  match exchange.guard, exchange.pipe with
  | some exception, _ => .error exception
  | none, some exception => .error exception
  | none, none => exchange.handler

/-- The answer to an outcome. -/
def answered : HttpResponse :=
  match outcome exchange with
  | .ok responseBody => ⟨exchange.statusCode, .result responseBody⟩
  | .error exception => errorResponse exchange exception

/-- The row for an outcome. -/
def entryOf (definition : SystemAuditDefinition) : CreateSystemLogInput :=
  match outcome exchange with
  | .ok responseBody =>
      buildSystemAuditEntry
        { definition, request := exchange.request, responseBody, status := .succeeded,
          statusCode := exchange.statusCode }
  | .error exception =>
      buildSystemAuditEntry
        { definition, request := exchange.request, status := .failed,
          statusCode := exception.statusCode, errorMessage := some exception.message }

/-- The definition of the row: behind a guard that throws only an inferred one. -/
def recordedDefinition : Option SystemAuditDefinition :=
  if exchange.guard.isSome then inferSystemAuditDefinition exchange.request
  else endpoint.systemAudit.or (inferSystemAuditDefinition exchange.request)

/-- What is recorded of a request. -/
def recorded : AuditState :=
  match recordedDefinition endpoint exchange with
  | none => {}
  | some definition => ⟨true, [entryOf exchange definition]⟩

/-! ## One run -/

/-- A failure of the storage ends here. -/
theorem run_recordSafely (input : CreateSystemLogInput) (state : AuditState) :
    (recordSafely storage input).run state =
      .ok () { state with attempts := state.attempts ++ [input] } := by
  cases hstorage : storage { state with attempts := state.attempts ++ [input] } with
  | none => simp [recordSafely, create, hstorage]
  | some exception => simp [recordSafely, create, hstorage]

theorem run_recordAndMark (input : CreateSystemLogInput) (state : AuditState) :
    (recordAndMark storage input).run state = .ok () ⟨true, state.attempts ++ [input]⟩ := by
  simp [recordAndMark, run_recordSafely]

theorem run_handle (hguard : exchange.guard = none) (state : AuditState) :
    (handle exchange).run state =
      match outcome exchange with
      | .ok responseBody => .ok responseBody state
      | .error exception => .error exception state := by
  rw [handle, outcome, hguard]
  cases exchange.pipe with
  | some exception => rfl
  | none => cases exchange.handler <;> rfl

/-- The interceptor records what goes through it, and hands it on. -/
theorem run_intercept (hguard : exchange.guard = none) :
    (intercept storage endpoint exchange (handle exchange)).run {} =
      match outcome exchange with
      | .ok responseBody => .ok responseBody (recorded endpoint exchange)
      | .error exception => .error exception (recorded endpoint exchange) := by
  have hhandle := run_handle exchange hguard {}
  rw [intercept, recorded, recordedDefinition, hguard]
  simp only [Option.isSome_none, Bool.false_eq_true, if_false]
  cases endpoint.systemAudit.or (inferSystemAuditDefinition exchange.request) with
  | none => exact hhandle
  | some definition =>
      cases houtcome : outcome exchange with
      | ok responseBody =>
          simp only [houtcome] at hhandle
          simp [hhandle, run_recordAndMark, entryOf, houtcome]
      | error exception =>
          simp only [houtcome] at hhandle
          simp [hhandle, run_recordAndMark, entryOf, houtcome]

/-- The filter records what is not recorded yet. -/
theorem run_recordGuardOrRoutingFailure (exception : Exception) (state : AuditState) :
    (recordGuardOrRoutingFailure storage exchange exception).run state =
      .ok ()
        (if state.systemAuditRecorded then state
        else
          match inferSystemAuditDefinition exchange.request with
          | none => state
          | some definition =>
              ⟨true, state.attempts ++
                [buildSystemAuditEntry
                  { definition, request := exchange.request, status := .failed,
                    statusCode := exception.statusCode,
                    errorMessage := some exception.message }]⟩) := by
  rw [recordGuardOrRoutingFailure]
  by_cases hrecorded : state.systemAuditRecorded
  · simp [hrecorded]
  · cases inferSystemAuditDefinition exchange.request with
    | none => simp [hrecorded]
    | some definition =>
        have hrecord := run_recordSafely storage
          (buildSystemAuditEntry
            { definition, request := exchange.request, status := .failed,
              statusCode := exception.statusCode, errorMessage := some exception.message })
          ⟨true, state.attempts⟩
        rw [recordSafely] at hrecord
        simp [hrecorded, hrecord]

/-- A request is answered by its outcome, with what is recorded of it. -/
theorem run_serve :
    (serve storage endpoint exchange).run {} =
      .ok (answered exchange) (recorded endpoint exchange) := by
  cases hguard : exchange.guard with
  | some exception =>
      have houtcome : outcome exchange = .error exception := by simp [outcome, hguard]
      have hfilter := run_recordGuardOrRoutingFailure storage exchange exception {}
      have hcatch : (catchException storage exchange exception).run {} =
          .ok (answered exchange) (recorded endpoint exchange) := by
        simp only [catchException, EStateM.run_bind, hfilter, EStateM.run_pure, answered, houtcome,
          recorded, recordedDefinition, hguard, entryOf]
        cases inferSystemAuditDefinition exchange.request <;> rfl
      simp [serve, canActivate, hguard, hcatch]
  | none =>
      have hintercept := run_intercept storage endpoint exchange hguard
      cases houtcome : outcome exchange with
      | ok responseBody =>
          simp only [houtcome] at hintercept
          simp [serve, canActivate, hguard, hintercept, answered, houtcome]
      | error exception =>
          simp only [houtcome] at hintercept
          have hcatch : (catchException storage exchange exception).run
              (recorded endpoint exchange) =
                .ok (answered exchange) (recorded endpoint exchange) := by
            simp only [catchException, EStateM.run_bind, run_recordGuardOrRoutingFailure,
              EStateM.run_pure, answered, houtcome]
            congr 1
            rw [recorded, recordedDefinition, hguard]
            cases hdefinition : endpoint.systemAudit with
            | some definition => rfl
            | none => cases inferSystemAuditDefinition exchange.request <;> rfl
          simp [serve, canActivate, hguard, hintercept, hcatch]

theorem run_serveUnaudited :
    (serveUnaudited exchange).run {} = .ok (answered exchange) {} := by
  cases hguard : exchange.guard with
  | some exception =>
      simp [serveUnaudited, canActivate, answered, outcome, hguard]
  | none =>
      have hhandle := run_handle exchange hguard {}
      cases houtcome : outcome exchange with
      | ok responseBody =>
          simp only [houtcome] at hhandle
          simp [serveUnaudited, canActivate, hguard, hhandle, answered, houtcome]
      | error exception =>
          simp only [houtcome] at hhandle
          simp [serveUnaudited, canActivate, hguard, hhandle, answered, houtcome]

/-- The client sees what it would see without the audit. -/
theorem serve_transparent :
    answer (serve storage endpoint exchange) = answer (serveUnaudited exchange) := by
  rw [answer, answer, run_serve, run_serveUnaudited]

/-! ## Exactly one attempt -/

/-- The raw URL has a segment that the table of resources knows, and the method is listed. -/
def Inferable (request : AuthedRequest) : Prop :=
  (∃ segment ∈ routeSegments request, (auditedResource segment).isSome = true) ∧
    (operationOf request.method).isSome = true

theorem inferable_iff (request : AuthedRequest) :
    (inferSystemAuditDefinition request).isSome = true ↔ Inferable request := by
  rw [Inferable, ← List.findSome?_isSome_iff, inferSystemAuditDefinition]
  change _ ↔ (auditedResourceOf request).isSome = true ∧ _
  cases auditedResourceOf request with
  | none => simp
  | some resource => cases operationOf request.method <;> simp

/-- One attempt is made, which names the outcome, and the client does not notice it. -/
structure AuditedOnce : Prop where
  once : ∃ entry, attempts (serve storage endpoint exchange) = [entry] ∧
    (entry.status = .succeeded ↔ ∃ responseBody, outcome exchange = .ok responseBody) ∧
    (entry.status ≠ .succeeded → entry.status = .failed ∧
      (answer (serve storage endpoint exchange)).map (·.statusCode) = some entry.statusCode)
  transparent : answer (serve storage endpoint exchange) = answer (serveUnaudited exchange)

/-- A row names the outcome. -/
theorem entryOf_outcome (definition : SystemAuditDefinition) :
    ((entryOf exchange definition).status = .succeeded ↔
        ∃ responseBody, outcome exchange = .ok responseBody) ∧
      ((entryOf exchange definition).status ≠ .succeeded →
        (entryOf exchange definition).status = .failed ∧
          (answered exchange).statusCode = (entryOf exchange definition).statusCode) := by
  cases houtcome : outcome exchange with
  | ok responseBody => simp [entryOf, houtcome, buildSystemAuditEntry]
  | error exception =>
      simp [entryOf, houtcome, buildSystemAuditEntry, answered, errorResponse]

/-- One attempt is made exactly when there is a definition at the place that records. -/
theorem auditedOnce_iff_recordedDefinition :
    AuditedOnce storage endpoint exchange ↔
      (recordedDefinition endpoint exchange).isSome = true := by
  have hattempts : attempts (serve storage endpoint exchange) =
      (recorded endpoint exchange).attempts := by
    rw [attempts, run_serve]
  have hanswer : answer (serve storage endpoint exchange) = some (answered exchange) := by
    rw [answer, run_serve]
  constructor
  · intro h
    rcases h.once with ⟨entry, hentry, -, -⟩
    rw [hattempts, recorded] at hentry
    cases hdefinition : recordedDefinition endpoint exchange with
    | none => simp [hdefinition] at hentry
    | some definition => rfl
  · intro h
    rcases Option.isSome_iff_exists.mp h with ⟨definition, hdefinition⟩
    have houtcome := entryOf_outcome exchange definition
    refine ⟨⟨entryOf exchange definition, ?_, houtcome.1, ?_⟩, serve_transparent _ _ _⟩
    · rw [hattempts, recorded, hdefinition]
    · intro hfailed
      rw [hanswer, Option.map_some, (houtcome.2 hfailed).2]
      exact ⟨(houtcome.2 hfailed).1, rfl⟩

/-- A request is audited exactly once when guards let it through to a decorated handler, or
when its URL is inferable.  The latter covers every handler under a resource of the table
whose URL is spelled as the route is. -/
theorem auditedOnce_iff :
    (AuditedOnce storage endpoint exchange ↔
      (exchange.guard = none ∧ endpoint.systemAudit.isSome = true) ∨
        Inferable exchange.request) ∧
    ∀ values query, endpoint.route.Matches values query exchange.request →
      (operationOf endpoint.route.method).isSome = true →
        endpoint.route.segments.any auditedLiteral = true →
          AuditedOnce storage endpoint exchange := by
  have hiff : AuditedOnce storage endpoint exchange ↔
      (exchange.guard = none ∧ endpoint.systemAudit.isSome = true) ∨
        Inferable exchange.request := by
    rw [auditedOnce_iff_recordedDefinition, ← inferable_iff, recordedDefinition]
    cases exchange.guard with
    | some exception => simp
    | none => cases endpoint.systemAudit <;> simp
  refine ⟨hiff, ?_⟩
  intro values query hmatch hmethod hliteral
  apply hiff.mpr
  exact Or.inr ((inferable_iff _).mp (inferred_of_auditedLiteral hmatch hmethod hliteral))

/-! ## Requests that are routed to the control plane -/

/-- A router ignores the case of literals. -/
def Segment.accepts (text : JsString) : Segment → Prop
  | .literal segment => toUpperCase text = toUpperCase segment.text
  | .parameter _ => text ≠ []

/-- The route takes the request; a trailing slash does not matter, and `GET` takes `HEAD`. -/
structure Route.Takes (route : Route) (request : AuthedRequest) : Prop where
  method : request.method = route.method ∨
    request.method = lit "HEAD" ∧ route.method = lit "GET"
  path : ∃ texts, List.Forall₂ Segment.accepts texts route.segments ∧
    (split 47 request.path = [] :: texts ∨ split 47 request.path = [] :: (texts ++ [[]]))

/-- A decorated handler, or one under a resource with a listed method. -/
def ControlPlane (request : AuthedRequest) : Prop :=
  endpoint.systemAudit.isSome = true ∨
    (endpoint.route.segments.any auditedLiteral = true ∧
      (operationOf request.method).isSome = true)

/-- `GET /rpc/debug/options`. -/
def debugOptions : Handler := rpcController.head (by simp [rpcController])

/-- A request for the options of the debugger that a guard rejects. -/
def rejectedOptions : Exchange where
  request := plainRequest (lit "GET") (lit "/rpc/debug/options")
  guard := some (.httpException 401 .undefined (lit "Unauthorized"))
  pipe := none
  handler := .ok .undefined
  statusCode := 200
  now := lit "2026-07-24T12:00:00.000Z"

/-- A rejected request for the options of the debugger is not audited. -/
theorem rejectedOptions_unaudited :
    ¬ ∀ storage endpoint exchange, endpoint.route.Takes exchange.request →
      ControlPlane endpoint exchange.request → AuditedOnce storage endpoint exchange := by
  intro h
  have htakes : debugOptions.endpoint.route.Takes rejectedOptions.request := by
    refine ⟨Or.inl rfl, [lit "rpc", lit "debug", lit "options"], ?_, Or.inl (by decide +kernel)⟩
    exact .cons rfl (.cons rfl (.cons rfl .nil))
  have haudited := h (fun _ => none) debugOptions.endpoint rejectedOptions htakes (Or.inl rfl)
  rw [auditedOnce_iff_recordedDefinition] at haudited
  exact absurd haudited (by decide +kernel)

/-- The rule for a rejected request to the user list. -/
theorem auditedOnce_iff_users :
    AuditedOnce (fun _ => none) ⟨⟨lit "GET", [.literal usersSegment]⟩, none⟩
      { rejectedOptions with request := plainRequest (lit "GET") (lit "/users") } := by
  apply (auditedOnce_iff _ _ _).2 (fun _ => usersSegment) none
  · exact ⟨rfl, by decide⟩
  · decide
  · decide

end Audit
end R2RPC
