import R2RPC.Audit.Columns
import R2RPC.NulBytes.Sources

/-!
# What the routes bind

The handlers of the API, with the places whose strings their statements carry, in the order
in which the statements are issued.

Main results:

- Definition {lit}`bindings`: all of them.
- Theorem {lit}`declared_of_bindings`: the decorated ones are those of the audit.

Current gaps:

- Numbers, dates, hashes and the names that a statement returned are no places.
-/

namespace R2RPC
namespace NulBytes

open Utf16 JavaScript Audit

/-- A handler, with what its guards and the handler itself bind. -/
structure Bound where
  endpoint : Endpoint
  guard : List Source := []
  sources : List Source := []

/-- A decorated handler. -/
def bind (handler : Handler) (sources : List Source) : Bound where
  endpoint := handler.endpoint
  sources := sources

/-- A handler of `GET` without a decorator. -/
def reads (path : List Segment) (sources : List Source) : Bound where
  endpoint := ⟨⟨lit "GET", path⟩, none⟩
  sources := sources

/-- `@Param(name)`. -/
def param (name : String) : Source := ⟨.parameter, lit name, .value⟩

/-- A field of `@Query()`. -/
def query (name : String) (reading : Reading) : Source := ⟨.query, lit name, reading⟩

/-- A field of `@Body()`. -/
def body (name : String) (reading : Reading := .isString) : Source := ⟨.body, lit name, reading⟩

/-- `accessTokenService.findByToken(plaintextToken)` of `AccessTokenGuard`. -/
def plaintextToken : Source := ⟨.authorization, lit "authorization", .value⟩

/-! ## Controllers -/

/-- The handlers of `AccessTokenController`. -/
def accessTokenBindings : List Bound :=
  List.zipWith bind accessTokenController
    [[body "projects" .isStringArray, body "name", body "description"],
      [body "projects" .isStringArray], [body "projects" .isStringArray], [], [], []] ++
  [reads [accessTokensLiteral] [query "name" .likeIf, query "project" .eqIf]]

/-- The handlers of `AuthController`. -/
def authBindings : List Bound :=
  List.zipWith bind authController [[body "username"]] ++
  [reads [authLiteral, literal (lit "me")] []]

/-- The handlers of `DashboardController`. -/
def dashboardBindings : List Bound :=
  [reads [literal (lit "dashboard"), literal (lit "overview")] []]

/-- The handlers of `DeviceTokenController`. -/
def deviceTokenBindings : List Bound :=
  List.zipWith bind deviceTokenController
    [[body "projects" .isStringArray, body "name", body "description"],
      [body "projects" .isStringArray], [], []] ++
  [reads [deviceTokensLiteral] [query "name" .likeIf, query "project" .eqIf]]

/-- The handlers of `DevicesController`. -/
def devicesBindings : List Bound :=
  [reads [literal (lit "devices")]
      [query "clientId" .likeIf, query "platform" .likeIf, query "lastIp" .likeIf],
    reads [literal (lit "devices"), .parameter (lit "id")] []]

/-- The handlers of `MetricsController`. -/
def metricsBindings : List Bound :=
  [reads [literal (lit "metrics"), literal (lit "overview")] [],
    reads [literal (lit "metrics"), literal (lit "weekly")] [query "project" .value],
    reads [literal (lit "metrics"), literal (lit "trend")] [query "project" .eqIf]]

/-- The handlers of `MonitorController`. -/
def monitorBindings : List Bound :=
  [reads [literal (lit "monitor"), literal (lit "requests")]
      [query "project" .eqIf, query "action" .eqIf, query "clientId" .eqIf,
        query "clientRequestId" .eqIf, query "status" .eqIf, query "payloadState" .eqIf],
    reads [literal (lit "monitor"), literal (lit "request-options")]
      [query "action" .eqIf, query "clientId" .eqIf, query "project" .eqIf],
    reads [literal (lit "monitor"), literal (lit "requests"), .parameter (lit "requestId")]
      [param "requestId"]]

/-- The handlers of `ProjectsController`. -/
def projectsBindings : List Bound :=
  List.zipWith bind projectsController [[body "name", body "description"], [], []] ++
  [reads [projectsLiteral] [],
    reads [projectsLiteral, literal (lit "info")] [query "name" .likeIf],
    reads [projectsLiteral, literal (lit "stats")] [],
    reads [projectsLiteral, literal (lit "summary")] []]

/-- The handlers of `RbacController`. -/
def rbacBindings : List Bound :=
  List.zipWith bind rbacController
    [[body "name", body "description"], [body "name", body "description"], [],
      [body "action", body "subject", body "description"], [], [], [], [], [], [], []] ++
  [reads [rbacLiteral, rolesLiteral]
      [query "name" .likeIf, query "permission" .likeIf],
    reads [rbacLiteral, rolesLiteral, optionsLiteral] [],
    reads [rbacLiteral, permissionsLiteral]
      [query "action" .likeIf, query "subject" .likeIf],
    reads [rbacLiteral, permissionsLiteral, optionsLiteral] [],
    reads [rbacLiteral, usersLiteral, .parameter (lit "userId"),
      rolesLiteral] []]

/-- What `rpcService.invoke` binds: the project when it is resolved, and the row of the
request log, whoever writes it. -/
def invokeSources : List Source :=
  [param "project", param "action", query "clientId" .value, body "clientRequestId"]

/-- The handlers of `RpcController`.  `AccessTokenGuard` reads the project from the path, or
else from the query. -/
def rpcBindings : List Bound :=
  List.zipWith bind rpcController [[], invokeSources] ++
  [{ endpoint := ⟨invokeRoute, none⟩, guard := [plaintextToken, param "project"],
      sources := invokeSources },
    { endpoint := ⟨⟨lit "GET", [rpcLiteral, literal (lit "clientQueue")]⟩, none⟩,
      guard := [plaintextToken, query "project" .value], sources := [query "project" .value] }]

/-- The handlers of `SystemLogsController`. -/
def systemLogsBindings : List Bound :=
  [reads [literal (lit "system-logs")]
    [query "name" .eqIf, query "actorUsername" .eqIf, query "action" .eqIf,
      query "subject" .eqIf, query "targetType" .eqIf, query "targetName" .eqIf]]

/-- The handlers of `UsersController`. -/
def usersBindings : List Bound :=
  List.zipWith bind usersController
    [[body "username", body "description"], [body "description"], [], [], []] ++
  [reads [usersLiteral] [query "username" .likeIf, query "role" .likeIf],
    reads [usersLiteral, .parameter (lit "id")] []]

/-- The handlers of the API. -/
def bindings : List Bound :=
  accessTokenBindings ++ authBindings ++ dashboardBindings ++ deviceTokenBindings ++
    devicesBindings ++ metricsBindings ++ monitorBindings ++ projectsBindings ++ rbacBindings ++
    rpcBindings ++ systemLogsBindings ++ usersBindings

/-- The decorated handlers are those of the audit, and none is left out. -/
theorem filterMap_bindings :
    bindings.filterMap (·.endpoint.systemAudit) = auditedHandlers.map (·.systemAudit) := rfl

/-- A definition that a handler declares is one of the audit. -/
theorem declared_of_bindings {bound : Bound} (hbound : bound ∈ bindings)
    {definition : SystemAuditDefinition} (h : bound.endpoint.systemAudit = some definition)
    (request : AuthedRequest) : Used request definition := by
  have hmem : definition ∈ auditedHandlers.map (·.systemAudit) := by
    rw [← filterMap_bindings]
    exact List.mem_filterMap.mpr ⟨bound, hbound, h⟩
  rcases List.mem_map.mp hmem with ⟨handler, hhandler, rfl⟩
  exact .declared hhandler

end NulBytes
end R2RPC
