import R2RPC.Audit.Inference

/-!
# Audited handlers

The handlers that carry {lit}`@SystemAudit`, with their routes and their definitions.

Main results:

- Definition {lit}`auditedHandlers`: the decorated handlers of all controllers.
- Theorem {lit}`inferred_of_auditedLiteral`: which routes are inferred whatever their
  parameters.
- Theorems {lit}`auditedLiteral_iff` and {lit}`inferred_of_resourceHandler`: every decorated
  handler has such a route, but for the manual calls of the data plane.

Current gaps:

- No global prefix.
-/

namespace R2RPC
namespace Audit

open Utf16

/-- A decorated handler. -/
structure Handler where
  method : JsString
  path : List Segment
  systemAudit : SystemAuditDefinition

/-- A literal segment of a path. -/
def literal (text : JsString) (h : text ≠ [] ∧ 47 ∉ text ∧ 63 ∉ text := by decide) : Segment :=
  .literal ⟨text, h.1, h.2.1, h.2.2⟩

/-- The route of a handler. -/
def Handler.route (handler : Handler) : Route := ⟨handler.method, handler.path⟩

/-! ## Literals of several routes -/

def accessTokensLiteral : Segment := literal (lit "access-tokens")

def authLiteral : Segment := literal (lit "auth")

def deviceTokensLiteral : Segment := literal (lit "device-tokens")

def optionsLiteral : Segment := literal (lit "options")

def permissionsLiteral : Segment := literal (lit "permissions")

def projectsLiteral : Segment := literal (lit "projects")

def rbacLiteral : Segment := literal (lit "rbac")

def rolesLiteral : Segment := literal (lit "roles")

def rpcLiteral : Segment := literal (lit "rpc")

def usersLiteral : Segment := literal (lit "users")

/-! ## Controllers -/

/-- The audited handlers of `AccessTokenController`. -/
def accessTokenController : List Handler :=
  [{ method := lit "POST", path := [literal (lit "access-tokens")],
      systemAudit :=
        { name := lit "创建 Access Token", action := lit "create",
          subject := some (lit "access-token"), targetType := some (lit "access-token"),
          targetNameField := some (lit "name"), targetResponseField := some (lit "id"),
          metadataBodyFields := [lit "projects", lit "expiresAt", lit "maximumUsageCount"] } },
    { method := lit "PATCH", path := [literal (lit "access-tokens"), .parameter (lit "id")],
      systemAudit :=
        { name := lit "修改 Access Token", action := lit "update",
          subject := some (lit "access-token"), targetType := some (lit "access-token"),
          targetParameter := some (lit "id"),
          metadataBodyFields := [lit "projects", lit "expiresAt", lit "maximumUsageCount"] } },
    { method := lit "PATCH",
      path := [literal (lit "access-tokens"), .parameter (lit "id"), literal (lit "projects")],
      systemAudit :=
        { name := lit "修改 Access Token 功能组", action := lit "update",
          subject := some (lit "access-token"), targetType := some (lit "access-token"),
          targetParameter := some (lit "id"), metadataBodyFields := [lit "projects"] } },
    { method := lit "POST",
      path := [literal (lit "access-tokens"), .parameter (lit "id"), literal (lit "revoke")],
      systemAudit :=
        { name := lit "撤销 Access Token", action := lit "revoke",
          subject := some (lit "access-token"), targetType := some (lit "access-token"),
          targetParameter := some (lit "id"), targetNameField := some (lit "name") } },
    { method := lit "POST",
      path := [literal (lit "access-tokens"), .parameter (lit "id"), literal (lit "reset-usage")],
      systemAudit :=
        { name := lit "重置 Access Token 调用次数", action := lit "reset-usage",
          subject := some (lit "access-token"), targetType := some (lit "access-token"),
          targetParameter := some (lit "id"), targetNameField := some (lit "name") } },
    { method := lit "DELETE", path := [literal (lit "access-tokens"), .parameter (lit "id")],
      systemAudit :=
        { name := lit "删除 Access Token", action := lit "delete",
          subject := some (lit "access-token"), targetType := some (lit "access-token"),
          targetParameter := some (lit "id") } }]

/-- The audited handlers of `AuthController`. -/
def authController : List Handler :=
  [{ method := lit "POST", path := [literal (lit "auth"), literal (lit "login")],
      systemAudit :=
        { name := lit "登录系统", action := lit "login", subject := some (lit "auth"),
          targetType := some (lit "user"), actorUsernameBodyField := some (lit "username"),
          actorUserIdResponsePath := some (lit "user.id"),
          actorUsernameResponsePath := some (lit "user.username") } }]

/-- The audited handlers of `DeviceTokenController`. -/
def deviceTokenController : List Handler :=
  [{ method := lit "POST", path := [literal (lit "device-tokens")],
      systemAudit :=
        { name := lit "创建 Device Token", action := lit "create",
          subject := some (lit "device-token"), targetType := some (lit "device-token"),
          targetNameField := some (lit "name"), targetResponseField := some (lit "id"),
          metadataBodyFields := [lit "projects"] } },
    { method := lit "PATCH",
      path := [literal (lit "device-tokens"), .parameter (lit "id"), literal (lit "projects")],
      systemAudit :=
        { name := lit "修改 Device Token 功能组", action := lit "update",
          subject := some (lit "device-token"), targetType := some (lit "device-token"),
          targetParameter := some (lit "id"), metadataBodyFields := [lit "projects"] } },
    { method := lit "POST",
      path := [literal (lit "device-tokens"), .parameter (lit "id"), literal (lit "revoke")],
      systemAudit :=
        { name := lit "撤销 Device Token", action := lit "revoke",
          subject := some (lit "device-token"), targetType := some (lit "device-token"),
          targetParameter := some (lit "id"), targetNameField := some (lit "name") } },
    { method := lit "DELETE", path := [literal (lit "device-tokens"), .parameter (lit "id")],
      systemAudit :=
        { name := lit "删除 Device Token", action := lit "delete",
          subject := some (lit "device-token"), targetType := some (lit "device-token"),
          targetParameter := some (lit "id") } }]

/-- The audited handlers of `ProjectsController`. -/
def projectsController : List Handler :=
  [{ method := lit "POST", path := [literal (lit "projects")],
      systemAudit :=
        { name := lit "创建功能组", action := lit "create",
          subject := some (lit "project"), targetType := some (lit "project"),
          targetNameField := some (lit "name"), targetResponseField := some (lit "id") } },
    { method := lit "DELETE", path := [literal (lit "projects"), .parameter (lit "id")],
      systemAudit :=
        { name := lit "删除功能组", action := lit "delete",
          subject := some (lit "project"), targetType := some (lit "project"),
          targetParameter := some (lit "id") } },
    { method := lit "POST",
      path := [literal (lit "projects"), .parameter (lit "id"), literal (lit "enabled")],
      systemAudit :=
        { name := lit "设置功能组启用状态", action := lit "set-enabled",
          subject := some (lit "project"), targetType := some (lit "project"),
          targetParameter := some (lit "id"), targetNameField := some (lit "name"),
          metadataBodyFields := [lit "enabled"] } }]

/-- The audited handlers of `RbacController`. -/
def rbacController : List Handler :=
  [{ method := lit "POST", path := [literal (lit "rbac"), literal (lit "roles")],
      systemAudit :=
        { name := lit "创建权限组", action := lit "create",
          subject := some (lit "rbac-role"), targetType := some (lit "permission-group"),
          targetNameField := some (lit "name"), targetResponseField := some (lit "id") } },
    { method := lit "PATCH",
      path := [literal (lit "rbac"), literal (lit "roles"), .parameter (lit "id")],
      systemAudit :=
        { name := lit "编辑权限组", action := lit "update",
          subject := some (lit "rbac-role"), targetType := some (lit "permission-group"),
          targetParameter := some (lit "id"), targetNameField := some (lit "name") } },
    { method := lit "DELETE",
      path := [literal (lit "rbac"), literal (lit "roles"), .parameter (lit "id")],
      systemAudit :=
        { name := lit "删除权限组", action := lit "delete",
          subject := some (lit "rbac-role"), targetType := some (lit "permission-group"),
          targetParameter := some (lit "id") } },
    { method := lit "POST", path := [literal (lit "rbac"), literal (lit "permissions")],
      systemAudit :=
        { name := lit "创建权限", action := lit "create",
          subject := some (lit "rbac-permission"), targetType := some (lit "permission"),
          targetResponseField := some (lit "id"),
          metadataBodyFields := [lit "action", lit "subject"] } },
    { method := lit "DELETE",
      path := [literal (lit "rbac"), literal (lit "permissions"), .parameter (lit "id")],
      systemAudit :=
        { name := lit "删除权限", action := lit "delete",
          subject := some (lit "rbac-permission"), targetType := some (lit "permission"),
          targetParameter := some (lit "id") } },
    { method := lit "POST",
      path := [literal (lit "rbac"), literal (lit "roles"), .parameter (lit "roleId"),
          literal (lit "permissions")],
      systemAudit :=
        { name := lit "配置权限组权限", action := lit "attach-permission",
          subject := some (lit "rbac-role"), targetType := some (lit "permission-group"),
          targetParameter := some (lit "roleId"), metadataBodyFields := [lit "permissionId"] } },
    { method := lit "POST",
      path := [literal (lit "rbac"), literal (lit "roles"), .parameter (lit "roleId"),
          literal (lit "permissions"), .parameter (lit "permissionId")],
      systemAudit :=
        { name := lit "配置权限组权限", action := lit "attach-permission",
          subject := some (lit "rbac-role"), targetType := some (lit "permission-group"),
          targetParameter := some (lit "roleId"), metadataParameters := [lit "permissionId"] } },
    { method := lit "DELETE",
      path := [literal (lit "rbac"), literal (lit "roles"), .parameter (lit "roleId"),
          literal (lit "permissions"), .parameter (lit "permissionId")],
      systemAudit :=
        { name := lit "移除权限组权限", action := lit "detach-permission",
          subject := some (lit "rbac-role"), targetType := some (lit "permission-group"),
          targetParameter := some (lit "roleId"), metadataParameters := [lit "permissionId"] } },
    { method := lit "POST",
      path := [literal (lit "rbac"), literal (lit "users"), .parameter (lit "userId"),
          literal (lit "roles")],
      systemAudit :=
        { name := lit "分配用户权限组", action := lit "assign-role",
          subject := some (lit "rbac-user-role"), targetType := some (lit "user"),
          targetParameter := some (lit "userId"), metadataBodyFields := [lit "roleId"] } },
    { method := lit "POST",
      path := [literal (lit "rbac"), literal (lit "users"), .parameter (lit "userId"),
          literal (lit "roles"), .parameter (lit "roleId")],
      systemAudit :=
        { name := lit "分配用户权限组", action := lit "assign-role",
          subject := some (lit "rbac-user-role"), targetType := some (lit "user"),
          targetParameter := some (lit "userId"), metadataParameters := [lit "roleId"] } },
    { method := lit "DELETE",
      path := [literal (lit "rbac"), literal (lit "users"), .parameter (lit "userId"),
          literal (lit "roles"), .parameter (lit "roleId")],
      systemAudit :=
        { name := lit "移除用户权限组", action := lit "unassign-role",
          subject := some (lit "rbac-user-role"), targetType := some (lit "user"),
          targetParameter := some (lit "userId"), metadataParameters := [lit "roleId"] } }]

/-- The audited handlers of `RpcController`. -/
def rpcController : List Handler :=
  [{ method := lit "GET",
      path := [literal (lit "rpc"), literal (lit "debug"), literal (lit "options")],
      systemAudit :=
        { name := lit "读取手动 RPC 调试上下文", action := lit "read",
          subject := some (lit "manual-rpc"), targetType := some (lit "rpc-debugger"),
          metadataQueryFields := [lit "project"] } },
    { method := lit "POST",
      path := [literal (lit "rpc"), literal (lit "debug"), literal (lit "invoke"),
          .parameter (lit "project"), .parameter (lit "action")],
      systemAudit :=
        { name := lit "手动发起 RPC 调试调用", action := lit "invoke",
          subject := some (lit "manual-rpc"), targetType := some (lit "rpc-debugger"),
          targetParameter := some (lit "project"),
          metadataParameters := [lit "project", lit "action"],
          metadataQueryFields := [lit "clientId"], metadataBodyFields := [lit "timeoutSeconds"] } }]

/-- The audited handlers of `UsersController`. -/
def usersController : List Handler :=
  [{ method := lit "POST", path := [literal (lit "users")],
      systemAudit :=
        { name := lit "创建用户", action := lit "create", subject := some (lit "user"),
          targetType := some (lit "user"), targetNameField := some (lit "username"),
          targetResponseField := some (lit "id"), metadataBodyFields := [lit "role"] } },
    { method := lit "PATCH", path := [literal (lit "users"), .parameter (lit "id")],
      systemAudit :=
        { name := lit "修改用户资料", action := lit "update",
          subject := some (lit "user"), targetType := some (lit "user"),
          targetParameter := some (lit "id"), targetNameField := some (lit "username") } },
    { method := lit "PATCH",
      path := [literal (lit "users"), .parameter (lit "id"), literal (lit "password")],
      systemAudit :=
        { name := lit "修改用户密码", action := lit "update-password",
          subject := some (lit "user"), targetType := some (lit "user"),
          targetParameter := some (lit "id"), targetNameField := some (lit "username") } },
    { method := lit "DELETE", path := [literal (lit "users"), .parameter (lit "id")],
      systemAudit :=
        { name := lit "删除用户", action := lit "delete", subject := some (lit "user"),
          targetType := some (lit "user"), targetParameter := some (lit "id") } },
    { method := lit "POST",
      path := [literal (lit "users"), .parameter (lit "id"), literal (lit "enabled")],
      systemAudit :=
        { name := lit "设置用户启用状态", action := lit "set-enabled",
          subject := some (lit "user"), targetType := some (lit "user"),
          targetParameter := some (lit "id"), targetNameField := some (lit "username"),
          metadataBodyFields := [lit "enabled"] } }]

/-- The decorated handlers. -/
def auditedHandlers : List Handler :=
  accessTokenController ++ authController ++ deviceTokenController ++ projectsController ++
    rbacController ++ rpcController ++ usersController

/-- A literal segment that the table of resources knows. -/
def auditedLiteral : Segment → Bool
  | .literal segment => (auditedResource segment.text).isSome
  | .parameter _ => false

/-- A request to a route with an audited literal is inferred, whatever its parameters. -/
theorem inferred_of_auditedLiteral {route : Route} {values : JsString → PathSegment}
    {query : Option JsString} {request : AuthedRequest} (h : route.Matches values query request)
    (hmethod : (operationOf route.method).isSome = true)
    (hliteral : route.segments.any auditedLiteral = true) :
    (inferSystemAuditDefinition request).isSome = true := by
  rcases List.any_eq_true.mp hliteral with ⟨segment, hsegment, haudited⟩
  have hresource : (auditedResourceOf request).isSome = true := by
    rw [auditedResourceOf_render h, firstAudited, List.findSome?_isSome_iff]
    cases segment with
    | parameter name => exact absurd haudited (by simp [auditedLiteral])
    | literal segment =>
        exact ⟨segment.text, List.mem_map.mpr ⟨_, hsegment, rfl⟩, haudited⟩
  rw [← h.method] at hmethod
  rw [inferSystemAuditDefinition]
  cases hfound : auditedResourceOf request with
  | none => simp [hfound] at hresource
  | some resource =>
      cases hoperation : operationOf request.method with
      | none => simp [hoperation] at hmethod
      | some operation => rfl

/-- The decorated handlers outside `RpcController`. -/
def resourceHandlers : List Handler :=
  accessTokenController ++ authController ++ deviceTokenController ++ projectsController ++
    rbacController ++ usersController

theorem mem_auditedHandlers {handler : Handler} :
    handler ∈ auditedHandlers ↔ handler ∈ resourceHandlers ∨ handler ∈ rpcController := by
  simp only [auditedHandlers, resourceHandlers, List.mem_append]
  grind

theorem auditedLiteral_resourceHandlers : ∀ handler ∈ resourceHandlers,
    (operationOf handler.method).isSome = true ∧ handler.path.any auditedLiteral = true := by
  decide +kernel

theorem auditedLiteral_rpcController : ∀ handler ∈ rpcController,
    handler.path.any auditedLiteral = false := by
  decide +kernel

/-- A decorated handler has an audited literal in its route exactly when it is none of the
manual calls of the data plane. -/
theorem auditedLiteral_iff {handler : Handler} (h : handler ∈ auditedHandlers) :
    handler.path.any auditedLiteral = true ↔ handler ∉ rpcController := by
  constructor
  · intro hliteral hrpc
    rw [auditedLiteral_rpcController handler hrpc] at hliteral
    contradiction
  · intro hresource
    rcases mem_auditedHandlers.mp h with hmem | hmem
    · exact (auditedLiteral_resourceHandlers handler hmem).2
    · exact absurd hmem hresource

/-- A request to a decorated handler under a resource is inferred, whatever its parameters. -/
theorem inferred_of_resourceHandler {handler : Handler} (h : handler ∈ resourceHandlers)
    {values : JsString → PathSegment} {query : Option JsString} {request : AuthedRequest}
    (hmatches : handler.route.Matches values query request) :
    (inferSystemAuditDefinition request).isSome = true := by
  rcases auditedLiteral_resourceHandlers handler h with ⟨hmethod, hliteral⟩
  exact inferred_of_auditedLiteral hmatches hmethod hliteral

end Audit
end R2RPC
