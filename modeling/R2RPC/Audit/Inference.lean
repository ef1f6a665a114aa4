import R2RPC.Audit.Entry

/-!
# Inferred audit definitions

{lit}`inferSystemAuditDefinition` looks the segments of the raw URL up in a table of
resources, whichever of them the router took for a parameter.

Main results:

- Definition {lit}`inferSystemAuditDefinition`, with the keys that the table inherits from
  {lit}`Object.prototype`.
- Theorem {lit}`routeSegments_render`: what the scan sees of a request to a route.
- Theorem {lit}`parameterBlind_iff`: exactly which routes are classified without their
  parameters, and which calls of the data plane stay out of the audit.

Current gaps:

- A method is an ASCII token.
-/

namespace R2RPC
namespace Audit

open Utf16 JavaScript

/-- `AuditedResource`. -/
structure AuditedResource where
  label : JsString
  subject : Option JsString
  targetType : Option JsString
  safeQueryFields : List JsString := []
deriving DecidableEq

/-- `PAGINATION_QUERY_FIELDS`. -/
def paginationQueryFields : List JsString := [lit "page", lit "pageSize"]

/-- The own keys of `AUDITED_RESOURCES`. -/
def auditedResources : List (JsString × AuditedResource) :=
  [(lit "auth", ⟨lit "认证信息", some (lit "auth"), some (lit "authentication"), []⟩),
    (lit "users", ⟨lit "后台账号", some (lit "user"), some (lit "user"), []⟩),
    (lit "projects", ⟨lit "功能组", some (lit "project"), some (lit "project"), []⟩),
    (lit "devices", ⟨lit "设备", some (lit "device"), some (lit "device"), []⟩),
    (lit "access-tokens",
      ⟨lit "Access Token", some (lit "access-token"), some (lit "access-token"), []⟩),
    (lit "device-tokens",
      ⟨lit "Device Token", some (lit "device-token"), some (lit "device-token"), []⟩),
    (lit "rbac", ⟨lit "权限配置", some (lit "rbac"), some (lit "rbac"), []⟩),
    (lit "monitor",
      ⟨lit "请求日志", some (lit "monitor"), some (lit "request-log"),
        [lit "project", lit "action", lit "clientId", lit "status", lit "payloadState",
          lit "minimumLatencyMs", lit "maximumLatencyMs", lit "from", lit "to"]⟩),
    (lit "metrics",
      ⟨lit "指标", some (lit "metrics"), some (lit "metrics"), [lit "project", lit "days"]⟩),
    (lit "system-logs",
      ⟨lit "系统日志", some (lit "system-log"), some (lit "system-log"),
        [lit "name", lit "actorUsername", lit "action", lit "subject", lit "targetType",
          lit "targetName", lit "status", lit "from", lit "to"]⟩)]

/-- A function of `Object.prototype`, read as a resource: the template prints its missing
label as `undefined`. -/
def inheritedResource : AuditedResource := ⟨lit "undefined", none, none, []⟩

/-- `AUDITED_RESOURCES[routeSegment]`. -/
def auditedResource (routeSegment : JsString) : Option AuditedResource :=
  match auditedResources.find? (·.1 == routeSegment) with
  | some entry => some entry.2
  | none => if routeSegment ∈ objectPrototypeKeys then some inheritedResource else none

/-- An entry of `ACTION_BY_METHOD`. -/
structure Operation where
  action : JsString
  namePrefix : JsString
deriving DecidableEq

/-- `ACTION_BY_METHOD`; its inherited keys are no upper case text. -/
def actionByMethod : List (JsString × Operation) :=
  [(lit "GET", ⟨lit "read", lit "读取"⟩), (lit "POST", ⟨lit "execute", lit "执行"⟩),
    (lit "PATCH", ⟨lit "update", lit "修改"⟩), (lit "PUT", ⟨lit "update", lit "修改"⟩),
    (lit "DELETE", ⟨lit "delete", lit "删除"⟩)]

/-- `toUpperCase` of an ASCII text. -/
def toUpperCase (text : JsString) : JsString :=
  text.map fun unit => if 97 ≤ unit && unit ≤ 122 then unit - 32 else unit

/-- `ACTION_BY_METHOD[request.method.toUpperCase()]`. -/
def operationOf (method : JsString) : Option Operation :=
  (actionByMethod.find? (·.1 == toUpperCase method)).map (·.2)

/-- `routeSegments`. -/
def routeSegments (request : AuthedRequest) : List JsString :=
  (split 47 request.path).filter (· != [])

/-- The loop of `auditedResourceOf`. -/
def firstAudited (segments : List JsString) : Option AuditedResource :=
  segments.findSome? auditedResource

/-- `auditedResourceOf`. -/
def auditedResourceOf (request : AuthedRequest) : Option AuditedResource :=
  firstAudited (routeSegments request)

/-- `targetParameterOf`. -/
def targetParameterOf (request : AuthedRequest) : Option JsString :=
  (request.params.find? fun parameter => !parameter.2.isUndefined).map (·.1)

/-- `inferSystemAuditDefinition`. -/
def inferSystemAuditDefinition (request : AuthedRequest) : Option SystemAuditDefinition :=
  match auditedResourceOf request, operationOf request.method with
  | some auditedResource, some operation => some
      { name := operation.namePrefix ++ auditedResource.label
        action := operation.action
        subject := auditedResource.subject
        targetType := auditedResource.targetType
        targetParameter := targetParameterOf request
        metadataQueryFields := auditedResource.safeQueryFields.filter fun fieldName =>
          !paginationQueryFields.contains fieldName &&
            !((lookup request.query fieldName).getD .undefined).isUndefined }
  | _, _ => none

/-! ## Routes -/

/-- A segment of a URL path. -/
structure PathSegment where
  text : JsString
  nonempty : text ≠ []
  noSlash : 47 ∉ text
  noMark : 63 ∉ text

/-- A segment of a route pattern. -/
inductive Segment where
  | literal (segment : PathSegment)
  | parameter (name : JsString)

/-- A method and a path pattern. -/
structure Route where
  method : JsString
  segments : List Segment

/-- What stands for a segment in a URL. -/
def Segment.value (values : JsString → PathSegment) : Segment → PathSegment
  | .literal segment => segment
  | .parameter name => values name

/-- A URL that the route matches. -/
def Route.render (route : Route) (values : JsString → PathSegment) (query : Option JsString) :
    JsString :=
  (route.segments.flatMap fun segment => 47 :: (segment.value values).text) ++
    match query with
    | none => []
    | some query => 63 :: query

/-- A request to a route, with its parameters and its query string. -/
structure Route.Matches (route : Route) (values : JsString → PathSegment)
    (query : Option JsString) (request : AuthedRequest) : Prop where
  method : request.method = route.method
  url : request.originalUrl = route.render values query

/-- What inference says about a request, but for its target and its metadata. -/
def classification (request : AuthedRequest) :
    Option (JsString × JsString × Option JsString × Option JsString) :=
  (inferSystemAuditDefinition request).map fun definition =>
    (definition.name, definition.action, definition.subject, definition.targetType)

/-- Requests to the route that differ in parameter values and query strings are classified
alike. -/
def ParameterBlind (route : Route) : Prop :=
  ∀ values query request values' query' request',
    route.Matches values query request → route.Matches values' query' request' →
      classification request = classification request'

/-- No parameter stands in front of the first literal segment that is audited. -/
def decidedByLiterals : List Segment → Bool
  | [] => true
  | .literal segment :: segments =>
      (auditedResource segment.text).isSome || decidedByLiterals segments
  | .parameter _ :: _ => false

/-! ## What the scan sees -/

theorem split_segments (text : JsString) (segments : List PathSegment) (htext : 47 ∉ text) :
    split 47 (text ++ segments.flatMap fun segment => 47 :: segment.text) =
      text :: segments.map (·.text) := by
  induction segments generalizing text with
  | nil =>
      rw [List.flatMap_nil, List.append_nil]
      exact List.splitOn_eq_singleton htext
  | cons segment segments ih =>
      have hnext := ih segment.text segment.noSlash
      unfold split at hnext ⊢
      rw [List.flatMap_cons, List.cons_append, List.splitOn_append_cons_self_of_not_mem htext, hnext]
      rfl

/-- The scan sees every segment of the path, whatever the router made of it. -/
theorem routeSegments_render {route : Route} {values : JsString → PathSegment}
    {query : Option JsString} {request : AuthedRequest} (h : route.Matches values query request) :
    routeSegments request = route.segments.map fun segment => (segment.value values).text := by
  have hpath : request.path =
      route.segments.flatMap fun segment => 47 :: (segment.value values).text := by
    have hmark : 63 ∉ route.segments.flatMap fun segment => 47 :: (segment.value values).text := by
      simp only [List.mem_flatMap, List.mem_cons, not_exists, not_and, not_or]
      exact fun segment _ => ⟨by decide, (segment.value values).noMark⟩
    have hhead : (split 63 request.originalUrl).head? =
        some (route.segments.flatMap fun segment => 47 :: (segment.value values).text) := by
      rw [h.url]
      cases query with
      | none =>
          simp only [Route.render, List.append_nil]
          exact split_head?_of_notMem hmark
      | some query =>
          simp only [Route.render]
          rw [split_append_head?, split_head?_of_notMem hmark]
    rw [AuthedRequest.path, List.headD_eq_head?_getD, hhead, Option.getD_some]
  have hsegments := split_segments []
    (route.segments.map fun segment => segment.value values) (by simp)
  simp only [List.nil_append, List.flatMap_map, List.map_map] at hsegments
  rw [routeSegments, hpath, hsegments, List.filter_cons_of_neg (by simp),
    List.filter_eq_self.mpr]
  · rfl
  · intro text htext
    rcases List.mem_map.mp htext with ⟨segment, -, rfl⟩
    simpa using (segment.value values).nonempty

theorem auditedResourceOf_render {route : Route} {values : JsString → PathSegment}
    {query : Option JsString} {request : AuthedRequest} (h : route.Matches values query request) :
    auditedResourceOf request =
      firstAudited (route.segments.map fun segment => (segment.value values).text) := by
  rw [auditedResourceOf, routeSegments_render h]

/-- Literals that decide leave nothing to the parameters. -/
theorem firstAudited_of_decided {segments : List Segment} (h : decidedByLiterals segments = true)
    (values values' : JsString → PathSegment) :
    firstAudited (segments.map fun segment => (segment.value values).text) =
      firstAudited (segments.map fun segment => (segment.value values').text) := by
  induction segments with
  | nil => rfl
  | cons segment segments ih =>
      cases segment with
      | parameter name => exact absurd h (by simp [decidedByLiterals])
      | literal segment =>
          simp only [List.map_cons, Segment.value, firstAudited, List.findSome?_cons]
          cases haudited : auditedResource segment.text with
          | some resource => rfl
          | none =>
              simp only [decidedByLiterals, haudited, Option.isSome_none, Bool.false_or] at h
              exact ih h

/-- Otherwise the first parameter decides, when its value is audited. -/
theorem firstAudited_of_not_decided {segments : List Segment}
    (h : decidedByLiterals segments = false) {value : PathSegment} {resource : AuditedResource}
    (hvalue : auditedResource value.text = some resource) :
    firstAudited (segments.map fun segment => (segment.value fun _ => value).text) =
      some resource := by
  induction segments with
  | nil => exact absurd h (by simp [decidedByLiterals])
  | cons segment segments ih =>
      cases segment with
      | parameter name => simp [firstAudited, Segment.value, hvalue]
      | literal segment =>
          simp only [decidedByLiterals, Bool.or_eq_false_iff, Option.isSome_eq_false_iff,
            Option.isNone_iff_eq_none] at h
          simp only [List.map_cons, Segment.value, firstAudited, List.findSome?_cons, h.1]
          exact ih h.2

theorem classification_eq {request request' : AuthedRequest}
    (hmethod : request.method = request'.method)
    (hresource : auditedResourceOf request = auditedResourceOf request') :
    classification request = classification request' := by
  unfold classification inferSystemAuditDefinition
  rw [hmethod, hresource]
  cases auditedResourceOf request' with
  | none => rfl
  | some resource => cases operationOf request'.method <;> rfl

/-- A request with a URL and a method, and nothing else. -/
def plainRequest (method originalUrl : JsString) : AuthedRequest where
  body := .undefined
  headers := []
  ip := none
  method
  originalUrl
  params := []
  query := []
  remoteAddress := none
  user := none

/-- A resource of the table, as a path segment. -/
def usersSegment : PathSegment := ⟨lit "users", by decide, by decide, by decide⟩

/-- A key that the table inherits, as a path segment. -/
def constructorSegment : PathSegment := ⟨lit "constructor", by decide, by decide, by decide⟩

/-- `POST /rpc/invoke/:project/:action`. -/
def invokeRoute : Route where
  method := lit "POST"
  segments :=
    [.literal ⟨lit "rpc", by decide, by decide, by decide⟩,
      .literal ⟨lit "invoke", by decide, by decide, by decide⟩,
      .parameter (lit "project"), .parameter (lit "action")]

/-- A route whose method is audited is blind exactly when its literals decide. -/
theorem blind_iff (route : Route) :
    ParameterBlind route ↔
      operationOf route.method = none ∨ decidedByLiterals route.segments = true := by
  constructor
  · intro hblind
    by_contra hneither
    rw [not_or, Bool.not_eq_true] at hneither
    rcases Option.ne_none_iff_exists'.mp hneither.1 with ⟨operation, hoperation⟩
    have hmatch : ∀ value : PathSegment, route.Matches (fun _ => value) none
        (plainRequest route.method (route.render (fun _ => value) none)) :=
      fun value => ⟨rfl, rfl⟩
    have hsubject : ∀ value resource, auditedResource (PathSegment.text value) = some resource →
        (classification (plainRequest route.method (route.render (fun _ => value) none))).map
          (·.2.2.1) = some resource.subject := by
      intro value resource hvalue
      have hresource := (auditedResourceOf_render (hmatch value)).trans
        (firstAudited_of_not_decided hneither.2 hvalue)
      have hmethod : operationOf (plainRequest route.method
          (route.render (fun _ => value) none)).method = some operation := hoperation
      simp [classification, inferSystemAuditDefinition, hresource, hmethod]
    have hsame := hblind _ _ _ _ _ _ (hmatch usersSegment) (hmatch constructorSegment)
    have husers := hsubject usersSegment
      ⟨lit "后台账号", some (lit "user"), some (lit "user"), []⟩ (by decide)
    have hconstructor := hsubject constructorSegment inheritedResource (by decide)
    rw [hsame, hconstructor] at husers
    exact absurd husers (by decide)
  · intro h values query request values' query' request' hmatch hmatch'
    have hmethod : request.method = request'.method := hmatch.method.trans hmatch'.method.symm
    rcases h with hnone | hdecided
    · have hoperation : operationOf request.method = none := hmatch.method ▸ hnone
      have hoperation' : operationOf request'.method = none := hmatch'.method ▸ hnone
      simp [classification, inferSystemAuditDefinition, hoperation, hoperation']
    · apply classification_eq hmethod
      rw [auditedResourceOf_render hmatch, auditedResourceOf_render hmatch']
      exact firstAudited_of_decided hdecided values values'

/-- A call of the data plane is out of the audit exactly when neither name is a key of the
table. -/
theorem invoke_unaudited_iff {values : JsString → PathSegment} {query : Option JsString}
    {request : AuthedRequest} (h : invokeRoute.Matches values query request) :
    inferSystemAuditDefinition request = none ↔
      auditedResource (values (lit "project")).text = none ∧
        auditedResource (values (lit "action")).text = none := by
  have hoperation : operationOf request.method = some ⟨lit "execute", lit "执行"⟩ := by
    rw [h.method]
    decide
  have hrpc : auditedResource (lit "rpc") = none := by decide
  have hinvoke : auditedResource (lit "invoke") = none := by decide
  have hresource : auditedResourceOf request =
      (auditedResource (values (lit "project")).text).or
        (auditedResource (values (lit "action")).text) := by
    rw [auditedResourceOf_render h]
    simp only [firstAudited, invokeRoute, List.map_cons, List.map_nil, Segment.value,
      List.findSome?_cons, List.findSome?_nil, hrpc, hinvoke]
    cases auditedResource (values (lit "project")).text with
    | some resource => rfl
    | none => cases auditedResource (values (lit "action")).text <;> rfl
  rw [inferSystemAuditDefinition, hresource, hoperation]
  cases auditedResource (values (lit "project")).text with
  | some resource => simp
  | none => cases auditedResource (values (lit "action")).text <;> simp

/-- Which routes are classified without their parameters, and which calls of the data plane
stay out of the audit. -/
theorem parameterBlind_iff (route : Route) :
    (ParameterBlind route ↔
      operationOf route.method = none ∨ decidedByLiterals route.segments = true) ∧
    ∀ values query request, invokeRoute.Matches values query request →
      (inferSystemAuditDefinition request = none ↔
        auditedResource (values (lit "project")).text = none ∧
          auditedResource (values (lit "action")).text = none) :=
  ⟨blind_iff route, fun _ _ _ => invoke_unaudited_iff⟩

/-- The rule at a call of a project that bears the name of a resource. -/
theorem parameterBlind_iff_users :
    inferSystemAuditDefinition (plainRequest (lit "POST") (lit "/rpc/invoke/users/users")) ≠
      none := by
  intro hnone
  have hmatch : invokeRoute.Matches (fun _ => usersSegment) none
      (plainRequest (lit "POST") (lit "/rpc/invoke/users/users")) := ⟨rfl, by decide⟩
  have hneither := ((parameterBlind_iff invokeRoute).2 _ _ _ hmatch).mp hnone
  exact absurd hneither.1 (by decide)

/-- Invocations are classified by the names they carry. -/
theorem invoke_not_blind : ¬ParameterBlind invokeRoute := by
  rw [blind_iff]
  decide

end Audit
end R2RPC
