import R2RPC.Rbac.Consistency

/-!
# The controllers of accounts and permission groups

Every endpoint of {lit}`UsersController` and {lit}`RbacController`: its decorators,
the guards in front of it, its parameter pipes and the service method behind it.
The ability that CASL builds from the permissions of an account is a parameter.

Main results:

- Definition {lit}`Request.requiredPermission` and {lit}`Request.requiresRoot`: the
  decorators.
- Definition {lit}`Request.serve`: a request from the guards to the tables.

Current gaps:

- The paginated lists answer {lit}`page`; they write nothing.
- Bodies are not checked against their DTO: every body is let through.
-/

namespace R2RPC
namespace Rbac

/-! ## Reads -/

namespace Tables

variable (t : Tables)

/-- `findById`. -/
def findById (userId : UserId) : Except HttpException Response :=
  match t.users.filter (·.aliveWith userId) with
  | [] => .error userNotFound
  | row :: _ => .ok (.publicUser row.publicUser)

/-- `listRoleOptions`. -/
def listRoleOptions : List PermissionGroup :=
  ((t.roles.filter (·.deletedAt.isNone)).mergeSort (·.id ≤ ·.id)).map t.includePermissions

/-- `listPermissionOptions`. -/
def listPermissionOptions : List PermissionRow :=
  (t.permissions.filter (·.deletedAt.isNone)).mergeSort (·.id ≤ ·.id)

/-- `listUserRoles`. -/
def listUserRoles (userId : UserId) : Except HttpException Response :=
  match t.assertUserExists userId with
  | some error => .error error
  | none =>
      let roleRecords := (t.userRoles.filter (·.1 == userId)).flatMap fun userRole =>
        t.roles.filter (·.aliveWith userRole.2)
      .ok (.permissionGroups ((roleRecords.mergeSort (·.id ≤ ·.id)).map t.includePermissions))

/-- A read leaves the tables. -/
def read (answer : Except HttpException Response) : Outcome := ⟨answer, t, []⟩

end Tables

/-! ## Pipes and guards -/

def numericStringExpected : HttpException :=
  ⟨400, "Validation failed (numeric string is expected)"⟩
def entityIdOutOfRange : HttpException := ⟨400, "编号超出取值范围"⟩
def rootRequired : HttpException := ⟨403, "仅种子管理员可执行此操作"⟩

def permissionMissing (required : PermissionTuple) : HttpException :=
  ⟨403, "缺少权限: " ++ required.action ++ " " ++ required.subject⟩

/-- A path parameter; `none` is no numeric string. -/
abbrev PathParameter := Option Int

/-- `ParseEntityIdPipe.MAXIMUM_ENTITY_ID`. -/
def maximumEntityId : Int := 2147483647

/-- `ParseEntityIdPipe.transform`. -/
def parseEntityId : PathParameter → Except HttpException Int
  | none => .error numericStringExpected
  | some entityId =>
      if maximumEntityId < entityId then .error entityIdOutOfRange else .ok entityId

/-- A handler with one path parameter. -/
def withEntityId (t : Tables) (parameter : PathParameter) (handler : Int → Outcome) : Outcome :=
  match parseEntityId parameter with
  | .error error => t.refuse error
  | .ok entityId => handler entityId

/-- `ability.can`, for the ability built from these permissions. -/
abbrev Ability := List PermissionTuple → PermissionTuple → Bool

/-- `PermissionGuard.canActivate` for an endpoint that declares a permission. -/
def permissionGuard (can : Ability) (user : AuthenticatedUser) (required : PermissionTuple) :
    Option HttpException :=
  if user.isRoot then none
  else if can user.permissions required then none
  else some (permissionMissing required)

/-- `RootGuard.canActivate`. -/
def rootGuard (user : AuthenticatedUser) : Option HttpException :=
  if user.isRoot then none else some rootRequired

/-! ## Endpoints -/

/-- A request with its path parameters and its body; what the server draws
itself (the hash with its salt, the time) is part of it. -/
inductive Request where
  | list
  | findOne (id : PathParameter)
  | create (username passwordHash : String) (role description : Option String) (now : Timestamp)
  | update (id : PathParameter) (description : String)
  | setPassword (id : PathParameter) (passwordHash : String)
  | remove (id : PathParameter) (now : Timestamp)
  | setEnabled (id : PathParameter) (enabled : Bool)
  | createRole (name : String) (description : Option String) (now : Timestamp)
  | updateRole (id : PathParameter) (name description : Option (Option String))
  | listRoles
  | listRoleOptions
  | deleteRole (id : PathParameter) (now : Timestamp)
  | createPermission (action subject : String) (description : Option String)
  | listPermissions
  | listPermissionOptions
  | deletePermission (id : PathParameter) (now : Timestamp)
  | attachPermissionFromBody (roleId : PathParameter) (permissionId : PermissionId)
  | attachPermission (roleId permissionId : PathParameter)
  | detachPermission (roleId permissionId : PathParameter)
  | listUserRoles (userId : PathParameter)
  | assignRoleFromBody (userId : PathParameter) (roleId : RoleId)
  | assignRole (userId roleId : PathParameter)
  | unassignRole (userId roleId : PathParameter)
deriving DecidableEq, Repr

namespace Request

/-- `@RequirePermission`. -/
def requiredPermission : Request → PermissionTuple
  | .list | .findOne _ => ⟨"read", "user"⟩
  | .create .. => ⟨"create", "user"⟩
  | .update .. | .setPassword .. | .setEnabled .. => ⟨"update", "user"⟩
  | .remove .. => ⟨"delete", "user"⟩
  | .listRoles | .listRoleOptions | .listPermissions | .listPermissionOptions
  | .listUserRoles _ => ⟨"read", "rbac"⟩
  | .createRole .. | .updateRole .. | .deleteRole .. | .createPermission ..
  | .deletePermission .. | .attachPermissionFromBody .. | .attachPermission ..
  | .detachPermission .. | .assignRoleFromBody .. | .assignRole .. | .unassignRole .. =>
      ⟨"manage", "rbac"⟩

/-- `@UseGuards(RootGuard)`. -/
def requiresRoot : Request → Bool
  | .createRole .. | .updateRole .. | .deleteRole .. | .createPermission ..
  | .deletePermission .. | .attachPermissionFromBody .. | .attachPermission ..
  | .detachPermission .. | .assignRoleFromBody .. | .assignRole .. | .unassignRole .. => true
  | .list | .findOne _ | .create .. | .update .. | .setPassword .. | .setEnabled ..
  | .remove .. | .listRoles | .listRoleOptions | .listPermissions | .listPermissionOptions
  | .listUserRoles _ => false

/-- The pipes and the method behind an endpoint. -/
def handle (t : Tables) (requester : AuthenticatedUser) : Request → Outcome
  | .list | .listRoles | .listPermissions => t.read (.ok .page)
  | .findOne id => withEntityId t id fun userId => t.read (t.findById userId)
  | .create username passwordHash role description now =>
      t.createUser username passwordHash role description now
  | .update id description =>
      withEntityId t id fun userId => t.update requester.id userId description
  | .setPassword id passwordHash =>
      withEntityId t id fun userId => t.setPassword requester.id userId passwordHash
  | .remove id now => withEntityId t id fun userId => t.remove requester.id userId now
  | .setEnabled id enabled =>
      withEntityId t id fun userId => t.setEnabled requester.id userId enabled
  | .createRole name description now => t.createRole name description now
  | .updateRole id name description =>
      withEntityId t id fun roleId => t.updateRole roleId name description
  | .listRoleOptions => t.read (.ok (.permissionGroups t.listRoleOptions))
  | .deleteRole id now => withEntityId t id fun roleId => t.deleteRole roleId now
  | .createPermission action subject description => t.createPermission action subject description
  | .listPermissionOptions => t.read (.ok (.permissions t.listPermissionOptions))
  | .deletePermission id now =>
      withEntityId t id fun permissionId => t.deletePermission permissionId now
  | .attachPermissionFromBody roleId permissionId =>
      withEntityId t roleId fun roleId => t.attachPermission roleId permissionId
  | .attachPermission roleId permissionId =>
      withEntityId t roleId fun roleId =>
        withEntityId t permissionId fun permissionId => t.attachPermission roleId permissionId
  | .detachPermission roleId permissionId =>
      withEntityId t roleId fun roleId =>
        withEntityId t permissionId fun permissionId => t.detachPermission roleId permissionId
  | .listUserRoles userId => withEntityId t userId fun userId => t.read (t.listUserRoles userId)
  | .assignRoleFromBody userId roleId =>
      withEntityId t userId fun userId => t.assignRole requester.id userId roleId
  | .assignRole userId roleId =>
      withEntityId t userId fun userId =>
        withEntityId t roleId fun roleId => t.assignRole requester.id userId roleId
  | .unassignRole userId roleId =>
      withEntityId t userId fun userId =>
        withEntityId t roleId fun roleId => t.unassignRole requester.id userId roleId

/-- A request of an authenticated account: the global guard, the guard of the
endpoint, its pipes, its method. -/
def serve (can : Ability) (t : Tables) (requester : AuthenticatedUser) (request : Request) :
    Outcome :=
  t.guarded (permissionGuard can requester request.requiredPermission)
    (t.guarded (if request.requiresRoot then rootGuard requester else none)
      (request.handle t requester))

end Request

end Rbac
end R2RPC
