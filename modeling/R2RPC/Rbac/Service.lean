import R2RPC.Basic
import R2RPC.Library.Relational

/-!
# Accounts, permission groups and their cached authorization

The tables {lit}`users`, {lit}`roles`, {lit}`permissions`, {lit}`user_roles` and
{lit}`role_permissions`, the operations of {lit}`UsersService` and
{lit}`RbacService` that write them, and the authorization that
{lit}`JwtStrategy` loads from them.  A row that is deleted softly stays in its
table, and so do the relation rows that name it.

Main results:

- Definition {lit}`Tables.getUserPermissions`: the effective permissions of an
  account.
- Definition {lit}`Operation.run`: one operation, with the accounts it
  invalidates.
- Definition {lit}`buildAuthenticatedUser`: what a request carries about its
  account.
- Structure {lit}`Database`: tables whose serial keys are ahead of every id in
  them.

Current gaps:

- The paginated lists are not part of this module.
- An id beyond {lit}`int4` is an unknown id here; the driver answers 500.
- The salt of {lit}`hashPassword` is drawn by the environment: a hash is an
  argument.
-/

namespace R2RPC
namespace Rbac

open Relational

abbrev UserId := Int
abbrev RoleId := Int
abbrev PermissionId := Int

/-! ## Rows -/

/-- A row of `users`. -/
structure UserRow where
  id : UserId
  username : String
  passwordHash : String
  role : String
  isRoot : Bool
  enabled : Bool
  lastLoginAt : Option Timestamp
  description : Option String
  createdAt : Timestamp
  deletedAt : Option Timestamp
deriving DecidableEq, Repr

/-- A row of `roles`. -/
structure RoleRow where
  id : RoleId
  name : String
  description : Option String
  createdAt : Timestamp
  deletedAt : Option Timestamp
deriving DecidableEq, Repr

/-- A row of `permissions`. -/
structure PermissionRow where
  id : PermissionId
  action : String
  subject : String
  description : Option String
  deletedAt : Option Timestamp
deriving DecidableEq, Repr

/-- What a permission allows. -/
structure PermissionTuple where
  action : String
  subject : String
deriving DecidableEq, Repr

def PermissionRow.tuple (row : PermissionRow) : PermissionTuple := ⟨row.action, row.subject⟩

/-- `alive(users, eq(users.id, id))`. -/
def UserRow.aliveWith (id : UserId) (row : UserRow) : Bool :=
  row.deletedAt.isNone && row.id == id

/-- `alive(roles, eq(roles.id, id))`. -/
def RoleRow.aliveWith (id : RoleId) (row : RoleRow) : Bool :=
  row.deletedAt.isNone && row.id == id

/-- `alive(permissions, eq(permissions.id, id))`. -/
def PermissionRow.aliveWith (id : PermissionId) (row : PermissionRow) : Bool :=
  row.deletedAt.isNone && row.id == id

/-- The tables, with the next value of each `serial`. -/
structure Tables where
  users : List UserRow
  roles : List RoleRow
  permissions : List PermissionRow
  userRoles : List (UserId × RoleId)
  rolePermissions : List (RoleId × PermissionId)
  nextUserId : UserId
  nextRoleId : RoleId
  nextPermissionId : PermissionId
deriving DecidableEq, Repr

/-- Accounts have distinct ids, and no table names an id that its `serial` has
not drawn yet.  A relation row may name a row that is deleted or gone. -/
structure Tables.Consistent (t : Tables) : Prop where
  user_keys : (t.users.map (·.id)).Nodup
  user_drawn : ∀ row ∈ t.users, row.id < t.nextUserId
  role_drawn : ∀ row ∈ t.roles, row.id < t.nextRoleId
  permission_drawn : ∀ row ∈ t.permissions, row.id < t.nextPermissionId
  userRole_drawn : ∀ row ∈ t.userRoles, row.1 < t.nextUserId ∧ row.2 < t.nextRoleId
  rolePermission_drawn : ∀ row ∈ t.rolePermissions,
    row.1 < t.nextRoleId ∧ row.2 < t.nextPermissionId

/-- A state of the database. -/
structure Database where
  tables : Tables
  consistent : tables.Consistent

/-! ## Responses -/

/-- An exception with its HTTP status. -/
structure HttpException where
  statusCode : Nat
  message : String
deriving DecidableEq, Repr

def userNotFound : HttpException := ⟨404, "用户不存在"⟩
def roleNotFound : HttpException := ⟨404, "权限组不存在"⟩
def permissionNotFound : HttpException := ⟨404, "权限不存在"⟩
def rolePermissionNotFound : HttpException := ⟨404, "权限组未拥有该权限"⟩
def userRoleNotFound : HttpException := ⟨404, "用户未拥有该权限组"⟩
def usernameTaken : HttpException := ⟨409, "用户名已存在"⟩
def roleTaken : HttpException := ⟨409, "权限组已存在"⟩
def permissionTaken : HttpException := ⟨409, "权限已存在"⟩
def rolePermissionTaken : HttpException := ⟨409, "权限组已拥有该权限"⟩
def userRoleTaken : HttpException := ⟨409, "用户已拥有该权限组"⟩
def nothingToUpdate : HttpException := ⟨400, "至少提供 name 或 description"⟩
def rootProtected : HttpException := ⟨403, "管理员账号只能由本人修改"⟩
def accountGone : HttpException := ⟨401, "账号不存在或已删除"⟩
def accountDisabled : HttpException := ⟨403, "账号已禁用"⟩
def credentialInvalid : HttpException := ⟨401, "凭证无效"⟩
def internalServerError : HttpException := ⟨500, "Internal server error"⟩

/-- `publicUserSelection`. -/
structure PublicUser where
  id : UserId
  username : String
  role : String
  isRoot : Bool
  enabled : Bool
  description : Option String
  lastLoginAt : Option Timestamp
  createdAt : Timestamp
deriving DecidableEq, Repr

def UserRow.publicUser (row : UserRow) : PublicUser :=
  ⟨row.id, row.username, row.role, row.isRoot, row.enabled, row.description, row.lastLoginAt,
    row.createdAt⟩

/-- A permission inside a permission group. -/
structure PermissionGroupPermission where
  id : PermissionId
  action : String
  subject : String
  description : Option String
deriving DecidableEq, Repr

/-- A permission group with its permissions. -/
structure PermissionGroup where
  id : RoleId
  name : String
  description : Option String
  createdAt : Timestamp
  permissions : List PermissionGroupPermission
deriving DecidableEq, Repr

/-- What an operation answers. -/
inductive Response where
  | publicUser (user : PublicUser)
  | enabledUser (id : UserId) (username : String) (enabled : Bool)
  | permissionGroup (group : PermissionGroup)
  | permissionGroups (groups : List PermissionGroup)
  | permission (row : PermissionRow)
  | permissions (rows : List PermissionRow)
  | deleted
  | attached
  | detached
  | assigned
  | unassigned
  | page
deriving DecidableEq, Repr

/-- The end of an operation: its answer, the tables, and the accounts whose
cached authorization it deletes. -/
structure Outcome where
  result : Except HttpException Response
  tables : Tables
  invalidated : List UserId

namespace Tables

variable (t : Tables)

/-- An operation that throws has written nothing. -/
def refuse (error : HttpException) : Outcome := ⟨.error error, t, []⟩

/-- A write without `writeAndInvalidate`. -/
def write (written : Except HttpException (Response × Tables)) : Outcome :=
  match written with
  | .error error => t.refuse error
  | .ok (response, tables) => ⟨.ok response, tables, []⟩

/-- `UserAuthorizationCacheService.writeAndInvalidate`: the `DEL` follows a write
that has succeeded. -/
def writeAndInvalidate (userIds : List UserId)
    (written : Except HttpException (Response × Tables)) : Outcome :=
  match written with
  | .error error => t.refuse error
  | .ok (response, tables) => ⟨.ok response, tables, userIds⟩

/-! ## Authorization -/

/-- `getUserPermissions`: the join of the four tables, without duplicates. -/
def getUserPermissions (userId : UserId) : List PermissionTuple :=
  ((t.userRoles.filter (·.1 == userId)).flatMap fun userRole =>
    (t.roles.filter (·.aliveWith userRole.2)).flatMap fun _ =>
      (t.rolePermissions.filter (·.1 == userRole.2)).flatMap fun rolePermission =>
        (t.permissions.filter (·.aliveWith rolePermission.2)).map (·.tuple)).dedup

/-- The columns that `findAuthUser` selects. -/
structure AuthUser where
  id : UserId
  isRoot : Bool
  enabled : Bool
deriving DecidableEq, Repr

/-- `findAuthUser`. -/
def findAuthUser (userId : UserId) : Option AuthUser :=
  ((t.users.filter (·.aliveWith userId)).head?).map fun row => ⟨row.id, row.isRoot, row.enabled⟩

/-- A cached authorization. -/
structure AuthorizationSnapshot where
  isRoot : Bool
  enabled : Bool
  permissions : List PermissionTuple
deriving DecidableEq, Repr

/-- The loader of `JwtStrategy.validate`. -/
def loadSnapshot (userId : UserId) : Except HttpException AuthorizationSnapshot :=
  match t.findAuthUser userId with
  | none => .error accountGone
  | some user =>
      if user.enabled then .ok ⟨user.isRoot, user.enabled, t.getUserPermissions userId⟩
      else .error accountDisabled

/-! ## Checks -/

/-- `assertAdministratorMutationAllowed`. -/
def administratorMutationAllowed (requesterUserId : UserId) (target : UserRow) : Bool :=
  !(target.isRoot && target.id != requesterUserId)

/-- `assertCanMutateUser`; `none` lets the mutation through. -/
def assertCanMutateUser (requesterUserId targetUserId : UserId) : Option HttpException :=
  match t.users.filter (·.aliveWith targetUserId) with
  | [] => some userNotFound
  | target :: _ =>
      if administratorMutationAllowed requesterUserId target then none else some rootProtected

/-- `assertRoleExists`. -/
def assertRoleExists (roleId : RoleId) : Option HttpException :=
  if t.roles.any (·.aliveWith roleId) then none else some roleNotFound

/-- `assertPermissionExists`. -/
def assertPermissionExists (permissionId : PermissionId) : Option HttpException :=
  if t.permissions.any (·.aliveWith permissionId) then none else some permissionNotFound

/-- `assertUserExists`. -/
def assertUserExists (userId : UserId) : Option HttpException :=
  if t.users.any (·.aliveWith userId) then none else some userNotFound

/-- Run the rest of an operation unless a check has thrown. -/
def guarded (check : Option HttpException) (rest : Outcome) : Outcome :=
  match check with
  | some error => t.refuse error
  | none => rest

/-! ## Affected accounts -/

/-- `listRoleMemberUserIds`. -/
def listRoleMemberUserIds (roleId : RoleId) : List UserId :=
  ((t.userRoles.filter (·.2 == roleId)).map (·.1)).dedup

/-- `listPermissionHolderUserIds`. -/
def listPermissionHolderUserIds (permissionId : PermissionId) : List UserId :=
  (t.userRoles.flatMap fun userRole =>
    (t.rolePermissions.filter fun rolePermission =>
      rolePermission.1 == userRole.2 && rolePermission.2 == permissionId).map
        fun _ => userRole.1).dedup

/-! ## Users -/

/-- `findByUsername` finds a live account. -/
def usernameExists (username : String) : Bool :=
  t.users.any fun row => row.deletedAt.isNone && row.username == username

/-- `UsersService.create`. -/
def createUser (username passwordHash : String) (role description : Option String)
    (now : Timestamp) : Outcome :=
  if t.usernameExists username then t.refuse usernameTaken
  else
    let created : UserRow :=
      ⟨t.nextUserId, username, passwordHash, role.getD "admin", false, true, none, description,
        now, none⟩
    ⟨.ok (.publicUser created.publicUser),
      { t with
        users := t.users ++ [created]
        nextUserId := t.nextUserId + 1 }, []⟩

/-- An `UPDATE` of one live account, answered with the updated row. -/
def updateUser (userId : UserId) (set : UserRow → UserRow) (answer : UserRow → Response) :
    Except HttpException (Response × Tables) :=
  match t.users.filter (·.aliveWith userId) with
  | [] => .error userNotFound
  | row :: _ =>
      .ok (answer (set row), { t with users := updateWhere (·.aliveWith userId) set t.users })

/-- `UsersService.update`. -/
def update (requesterUserId targetUserId : UserId) (description : String) : Outcome :=
  t.guarded (t.assertCanMutateUser requesterUserId targetUserId)
    (t.write (t.updateUser targetUserId (fun row => { row with description := some description })
      fun row => .publicUser row.publicUser))

/-- `UsersService.setPassword`. -/
def setPassword (requesterUserId targetUserId : UserId) (passwordHash : String) : Outcome :=
  t.guarded (t.assertCanMutateUser requesterUserId targetUserId)
    (t.write (t.updateUser targetUserId (fun row => { row with passwordHash })
      fun row => .publicUser row.publicUser))

/-- `UsersService.remove`. -/
def remove (requesterUserId targetUserId : UserId) (now : Timestamp) : Outcome :=
  t.guarded (t.assertCanMutateUser requesterUserId targetUserId)
    (t.writeAndInvalidate [targetUserId]
      (t.updateUser targetUserId (fun row => { row with deletedAt := some now })
        fun _ => .deleted))

/-- `UsersService.setEnabled`. -/
def setEnabled (requesterUserId targetUserId : UserId) (enabled : Bool) : Outcome :=
  t.guarded (t.assertCanMutateUser requesterUserId targetUserId)
    (t.writeAndInvalidate [targetUserId]
      (t.updateUser targetUserId (fun row => { row with enabled })
        fun row => .enabledUser row.id row.username row.enabled))

/-! ## Permission groups -/

/-- `listRolePermissionRecords` of one group. -/
def permissionsOfRole (roleId : RoleId) : List PermissionGroupPermission :=
  (t.rolePermissions.filter (·.1 == roleId)).flatMap fun rolePermission =>
    (t.permissions.filter (·.aliveWith rolePermission.2)).map fun row =>
      ⟨row.id, row.action, row.subject, row.description⟩

/-- `includePermissions` of one group. -/
def includePermissions (row : RoleRow) : PermissionGroup :=
  ⟨row.id, row.name, row.description, row.createdAt, t.permissionsOfRole row.id⟩

/-- The partial unique index `roles_name_uq` holds the name for another row. -/
def roleNameTaken (except : Option RoleId) (name : String) : Bool :=
  t.roles.any fun row => row.deletedAt.isNone && row.name == name && some row.id != except

/-- `createRole`; a conflict has drawn an id all the same. -/
def createRole (name : String) (description : Option String) (now : Timestamp) : Outcome :=
  let drawn := { t with nextRoleId := t.nextRoleId + 1 }
  if t.roleNameTaken none name then ⟨.error roleTaken, drawn, []⟩
  else
    let created : RoleRow := ⟨t.nextRoleId, name, description, now, none⟩
    ⟨.ok (.permissionGroup
        ⟨created.id, created.name, created.description, created.createdAt, []⟩),
      { drawn with roles := t.roles ++ [created] }, []⟩

/-- The columns that `buildRoleUpdateValues` sets: a field of the body that is
absent keeps the column, and one that is `null` clears it. -/
def setRole (name description : Option (Option String)) (row : RoleRow) : RoleRow :=
  { row with
    name := name.join.getD row.name
    description := description.getD row.description }

/-- `updateRole`; a `null` name breaks the `NOT NULL` of its column. -/
def updateRole (roleId : RoleId) (name description : Option (Option String)) : Outcome :=
  if name.isNone && description.isNone then t.refuse nothingToUpdate
  else
    match t.roles.filter (·.aliveWith roleId) with
    | [] => t.refuse roleNotFound
    | row :: _ =>
        if name == some none then t.refuse internalServerError
        else if name.join.any (t.roleNameTaken (some roleId)) then t.refuse roleTaken
        else
          ⟨.ok (.permissionGroup (t.includePermissions (setRole name description row))),
            { t with
              roles := updateWhere (·.aliveWith roleId) (setRole name description) t.roles }, []⟩

/-- `deleteRole`. -/
def deleteRole (roleId : RoleId) (now : Timestamp) : Outcome :=
  t.writeAndInvalidate (t.listRoleMemberUserIds roleId)
    (if t.roles.any (·.aliveWith roleId) then
      .ok (.deleted, { t with
        roles := updateWhere (·.aliveWith roleId)
          (fun row => { row with deletedAt := some now }) t.roles })
    else .error roleNotFound)

/-! ## Permissions -/

/-- The partial unique index `perm_action_subject_uq` holds the pair. -/
def permissionTakenBy (action subject : String) : Bool :=
  t.permissions.any fun row =>
    row.deletedAt.isNone && row.action == action && row.subject == subject

/-- `createPermission`; a conflict has drawn an id all the same. -/
def createPermission (action subject : String) (description : Option String) : Outcome :=
  let drawn := { t with nextPermissionId := t.nextPermissionId + 1 }
  if t.permissionTakenBy action subject then ⟨.error permissionTaken, drawn, []⟩
  else
    let created : PermissionRow := ⟨t.nextPermissionId, action, subject, description, none⟩
    ⟨.ok (.permission created), { drawn with permissions := t.permissions ++ [created] }, []⟩

/-- `deletePermission`. -/
def deletePermission (permissionId : PermissionId) (now : Timestamp) : Outcome :=
  t.writeAndInvalidate (t.listPermissionHolderUserIds permissionId)
    (if t.permissions.any (·.aliveWith permissionId) then
      .ok (.deleted, { t with
        permissions := updateWhere (·.aliveWith permissionId)
          (fun row => { row with deletedAt := some now }) t.permissions })
    else .error permissionNotFound)

/-! ## Relations -/

/-- `attachPermission`. -/
def attachPermission (roleId : RoleId) (permissionId : PermissionId) : Outcome :=
  t.guarded (t.assertRoleExists roleId)
    (t.guarded (t.assertPermissionExists permissionId)
      (t.writeAndInvalidate (t.listRoleMemberUserIds roleId)
        (if (roleId, permissionId) ∈ t.rolePermissions then .error rolePermissionTaken
        else .ok (.attached, { t with
          rolePermissions := t.rolePermissions ++ [(roleId, permissionId)] }))))

/-- `detachPermission`. -/
def detachPermission (roleId : RoleId) (permissionId : PermissionId) : Outcome :=
  t.writeAndInvalidate (t.listRoleMemberUserIds roleId)
    (if (roleId, permissionId) ∈ t.rolePermissions then
      .ok (.detached, { t with
        rolePermissions := t.rolePermissions.filter (· != (roleId, permissionId)) })
    else .error rolePermissionNotFound)

/-- `assignRole`. -/
def assignRole (requesterUserId targetUserId : UserId) (roleId : RoleId) : Outcome :=
  t.guarded (t.assertCanMutateUser requesterUserId targetUserId)
    (t.guarded (t.assertRoleExists roleId)
      (t.writeAndInvalidate [targetUserId]
        (if (targetUserId, roleId) ∈ t.userRoles then .error userRoleTaken
        else .ok (.assigned, { t with
          userRoles := t.userRoles ++ [(targetUserId, roleId)] }))))

/-- `unassignRole`. -/
def unassignRole (requesterUserId targetUserId : UserId) (roleId : RoleId) : Outcome :=
  t.guarded (t.assertCanMutateUser requesterUserId targetUserId)
    (t.writeAndInvalidate [targetUserId]
      (if (targetUserId, roleId) ∈ t.userRoles then
        .ok (.unassigned, { t with
          userRoles := t.userRoles.filter (· != (targetUserId, roleId)) })
      else .error userRoleNotFound))

end Tables

/-- The operations that write accounts that exist, groups and permissions. -/
inductive Operation where
  | update (requesterUserId targetUserId : UserId) (description : String)
  | setPassword (requesterUserId targetUserId : UserId) (passwordHash : String)
  | remove (requesterUserId targetUserId : UserId) (now : Timestamp)
  | setEnabled (requesterUserId targetUserId : UserId) (enabled : Bool)
  | createRole (name : String) (description : Option String) (now : Timestamp)
  | updateRole (roleId : RoleId) (name description : Option (Option String))
  | deleteRole (roleId : RoleId) (now : Timestamp)
  | createPermission (action subject : String) (description : Option String)
  | deletePermission (permissionId : PermissionId) (now : Timestamp)
  | attachPermission (roleId : RoleId) (permissionId : PermissionId)
  | detachPermission (roleId : RoleId) (permissionId : PermissionId)
  | assignRole (requesterUserId targetUserId : UserId) (roleId : RoleId)
  | unassignRole (requesterUserId targetUserId : UserId) (roleId : RoleId)
deriving DecidableEq, Repr

/-- Dispatch of an operation to its method. -/
def Operation.run (t : Tables) : Operation → Outcome
  | .update requesterUserId targetUserId description =>
      t.update requesterUserId targetUserId description
  | .setPassword requesterUserId targetUserId passwordHash =>
      t.setPassword requesterUserId targetUserId passwordHash
  | .remove requesterUserId targetUserId now => t.remove requesterUserId targetUserId now
  | .setEnabled requesterUserId targetUserId enabled =>
      t.setEnabled requesterUserId targetUserId enabled
  | .createRole name description now => t.createRole name description now
  | .updateRole roleId name description => t.updateRole roleId name description
  | .deleteRole roleId now => t.deleteRole roleId now
  | .createPermission action subject description => t.createPermission action subject description
  | .deletePermission permissionId now => t.deletePermission permissionId now
  | .attachPermission roleId permissionId => t.attachPermission roleId permissionId
  | .detachPermission roleId permissionId => t.detachPermission roleId permissionId
  | .assignRole requesterUserId targetUserId roleId =>
      t.assignRole requesterUserId targetUserId roleId
  | .unassignRole requesterUserId targetUserId roleId =>
      t.unassignRole requesterUserId targetUserId roleId

/-! ## Authentication -/

/-- The claims that `JwtStrategy` reads; `sub` is `Number(payload.sub)`, `none`
when that is no integer. -/
structure JwtPayload where
  sub : Option Int
  username : String
deriving DecidableEq, Repr

/-- `request.user`. -/
structure AuthenticatedUser where
  id : UserId
  username : String
  permissions : List PermissionTuple
  isRoot : Bool
deriving DecidableEq, Repr

/-- `buildAuthenticatedUser`. -/
def buildAuthenticatedUser (userId : UserId) (payload : JwtPayload)
    (authorization : Tables.AuthorizationSnapshot) : Except HttpException AuthenticatedUser :=
  if authorization.enabled then
    .ok ⟨userId, payload.username, authorization.permissions, authorization.isRoot⟩
  else .error accountDisabled

end Rbac
end R2RPC
