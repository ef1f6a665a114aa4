import Mathlib.Data.List.Dedup
import R2RPC.Library.Machine
import R2RPC.Rbac.Consistency

/-!
# Every affected account is invalidated

The effective permissions of an account are a relation, the composition of
{lit}`user_roles` and {lit}`role_permissions` over live groups and permissions.
An operation rewrites a few rows, and what it can change for an account is read
off that relation; the accounts it invalidates come from other joins.  This
module shows that the second set covers the first, and what a cached
authorization is then worth.

Main results:

- Theorem {lit}`Tables.mem_getUserPermissions`: the query computes the relation.
- Theorem {lit}`Operation.covers`: an account that an operation does not
  invalidate is loaded as before.
- Theorem {lit}`invalidation_covers_affected`: an account whose load changes is
  invalidated, and in every run every cached authorization agrees with a fresh
  load.

Current gaps:

- Operations and loads follow each other; reads that overlap a write are the
  subject of the cache-aside module.
-/

namespace R2RPC
namespace Rbac

open Interleaving Relational

/-! ## Effective permissions as a relation -/

namespace Tables

/-- Some live row has this id. -/
def RoleAlive (t : Tables) (roleId : RoleId) : Prop :=
  ∃ row ∈ t.roles, row.aliveWith roleId = true

/-- Some live row has this id and allows this. -/
def PermissionAlive (t : Tables) (permissionId : PermissionId) (tuple : PermissionTuple) : Prop :=
  ∃ row ∈ t.permissions, row.aliveWith permissionId = true ∧ row.tuple = tuple

/-- The account holds a live group that holds a live permission. -/
def Grants (t : Tables) (userId : UserId) (tuple : PermissionTuple) : Prop :=
  ∃ roleId permissionId, (userId, roleId) ∈ t.userRoles ∧ t.RoleAlive roleId ∧
    (roleId, permissionId) ∈ t.rolePermissions ∧ t.PermissionAlive permissionId tuple

variable {t before after : Tables} {userId : UserId} {tuple : PermissionTuple}

theorem mem_getUserPermissions :
    tuple ∈ t.getUserPermissions userId ↔ t.Grants userId tuple := by
  simp only [getUserPermissions, List.mem_dedup, List.mem_flatMap, List.mem_filter, List.mem_map,
    beq_iff_eq]
  constructor
  · rintro ⟨⟨_, roleId⟩, ⟨huserRole, rfl⟩, role, hrole, ⟨groupId, permissionId⟩,
      ⟨hrolePermission, hgroup⟩, permission, ⟨hpermission, halive⟩, htuple⟩
    have hgroup : groupId = roleId := hgroup
    exact ⟨roleId, permissionId, huserRole, ⟨role, hrole⟩, hgroup ▸ hrolePermission,
      permission, hpermission, halive, htuple⟩
  · rintro ⟨roleId, permissionId, huserRole, ⟨role, hrole⟩, hrolePermission,
      permission, hpermission, halive, htuple⟩
    exact ⟨(userId, roleId), ⟨huserRole, rfl⟩, role, hrole, (roleId, permissionId),
      ⟨hrolePermission, rfl⟩, permission, ⟨hpermission, halive⟩, htuple⟩

/-- What an account is granted depends on its own groups, on the permissions of
those groups, and on whether these are alive. -/
theorem Grants.congr
    (huserRoles : ∀ roleId, (userId, roleId) ∈ after.userRoles ↔ (userId, roleId) ∈ before.userRoles)
    (hroles : ∀ roleId, (userId, roleId) ∈ before.userRoles →
      (after.RoleAlive roleId ↔ before.RoleAlive roleId))
    (hrolePermissions : ∀ roleId permissionId, (userId, roleId) ∈ before.userRoles →
      ((roleId, permissionId) ∈ after.rolePermissions ↔
        (roleId, permissionId) ∈ before.rolePermissions))
    (hpermissions : ∀ roleId permissionId, (userId, roleId) ∈ before.userRoles →
      (roleId, permissionId) ∈ before.rolePermissions →
      (after.PermissionAlive permissionId tuple ↔ before.PermissionAlive permissionId tuple)) :
    after.Grants userId tuple ↔ before.Grants userId tuple := by
  constructor
  · rintro ⟨roleId, permissionId, huserRole, hrole, hrolePermission, hpermission⟩
    have hmember := (huserRoles roleId).mp huserRole
    have hheld := (hrolePermissions roleId permissionId hmember).mp hrolePermission
    exact ⟨roleId, permissionId, hmember, (hroles roleId hmember).mp hrole, hheld,
      (hpermissions roleId permissionId hmember hheld).mp hpermission⟩
  · rintro ⟨roleId, permissionId, hmember, hrole, hheld, hpermission⟩
    exact ⟨roleId, permissionId, (huserRoles roleId).mpr hmember,
      (hroles roleId hmember).mpr hrole,
      (hrolePermissions roleId permissionId hmember).mpr hheld,
      (hpermissions roleId permissionId hmember hheld).mpr hpermission⟩

/-- The two queries of a load answer the same for this account. -/
structure SameLoad (before after : Tables) (userId : UserId) : Prop where
  user : after.findAuthUser userId = before.findAuthUser userId
  permissions : ∀ tuple, after.Grants userId tuple ↔ before.Grants userId tuple

theorem SameLoad.refl (t : Tables) (userId : UserId) : SameLoad t t userId :=
  ⟨rfl, fun _ => Iff.rfl⟩

/-- Two loads of one account give the same snapshot up to the order of its
permissions. -/
theorem SameLoad.loadSnapshot (h : SameLoad before after userId)
    {snapshot : AuthorizationSnapshot} (hload : before.loadSnapshot userId = .ok snapshot) :
    ∃ fresh, after.loadSnapshot userId = .ok fresh ∧ fresh.isRoot = snapshot.isRoot ∧
      fresh.enabled = snapshot.enabled ∧
      ∀ tuple, tuple ∈ fresh.permissions ↔ tuple ∈ snapshot.permissions := by
  simp only [Tables.loadSnapshot, h.user] at hload ⊢
  cases hfound : before.findAuthUser userId with
  | none => rw [hfound] at hload; contradiction
  | some user =>
      rw [hfound] at hload
      by_cases henabled : user.enabled = true
      · simp only [henabled, if_true, Except.ok.injEq] at hload ⊢
        refine ⟨_, rfl, ?_⟩
        rw [← hload]
        refine ⟨rfl, rfl, fun tuple => ?_⟩
        rw [mem_getUserPermissions, mem_getUserPermissions]
        exact h.permissions tuple
      · rw [Bool.not_eq_true] at henabled
        simp [henabled] at hload

end Tables

/-! ## One operation -/

/-- Every account outside the invalidated ones is loaded as before. -/
def Outcome.Covers (before : Tables) (outcome : Outcome) : Prop :=
  ∀ userId, userId ∉ outcome.invalidated → Tables.SameLoad before outcome.tables userId

namespace Tables

variable {t : Tables} {userId : UserId} {ids : List UserId}
  {written : Except HttpException (Response × Tables)}

theorem covers_refuse (error : HttpException) : (t.refuse error).Covers t :=
  fun userId _ => SameLoad.refl t userId

theorem covers_guarded {check : Option HttpException} {rest : Outcome} (h : rest.Covers t) :
    (t.guarded check rest).Covers t := by
  cases check with
  | none => exact h
  | some error => exact covers_refuse error

theorem covers_write
    (h : ∀ response tables, written = .ok (response, tables) → ∀ userId, SameLoad t tables userId) :
    (t.write written).Covers t := by
  cases written with
  | error error => exact covers_refuse error
  | ok result => exact fun userId _ => h result.1 result.2 rfl userId

theorem covers_writeAndInvalidate
    (h : ∀ response tables, written = .ok (response, tables) →
      ∀ userId, userId ∉ ids → SameLoad t tables userId) :
    (t.writeAndInvalidate ids written).Covers t := by
  cases written with
  | error error => exact covers_refuse error
  | ok result => exact h result.1 result.2 rfl

/-- An `UPDATE` of one account leaves the load of another account, and that of
its own when it sets none of the columns that a load reads. -/
theorem sameLoad_updateUser {targetUserId : UserId} {set : UserRow → UserRow}
    {answer : UserRow → Response} {response : Response} {tables : Tables}
    (hupdate : t.updateUser targetUserId set answer = .ok (response, tables))
    (hid : ∀ row, (set row).id = row.id)
    (hset : userId = targetUserId → ∀ row, (set row).deletedAt = row.deletedAt ∧
      (set row).isRoot = row.isRoot ∧ (set row).enabled = row.enabled) :
    SameLoad t tables userId := by
  unfold updateUser at hupdate
  split at hupdate
  · contradiction
  · rw [Except.ok.injEq, Prod.mk.injEq] at hupdate
    obtain ⟨-, rfl⟩ := hupdate
    refine ⟨?_, fun tuple => Iff.rfl⟩
    unfold findAuthUser
    refine head_updateWhere (fun row hrow => ?_) (fun row hrow hquery => ?_)
    · simp only [UserRow.aliveWith, Bool.and_eq_true, beq_iff_eq] at hrow
      by_cases heq : userId = targetUserId
      · simp only [UserRow.aliveWith, hid, (hset heq row).1]
      · have hne : ¬ row.id = userId := fun h => heq (h.symm.trans hrow.2)
        simp only [UserRow.aliveWith, hid, beq_eq_false_iff_ne.mpr hne, Bool.and_false]
    · simp only [UserRow.aliveWith, Bool.and_eq_true, beq_iff_eq] at hrow hquery
      have heq : userId = targetUserId := hquery.2.symm.trans hrow.2
      simp only [hid, (hset heq row).2]

/-- An insertion under an id that no relation row names yet is granted to nobody. -/
theorem Consistent.sameLoad_createRole (h : t.Consistent) (name : String)
    (description : Option String) (now : Timestamp) :
    SameLoad t (t.createRole name description now).tables userId := by
  unfold Tables.createRole
  split
  · exact ⟨rfl, fun tuple => Iff.rfl⟩
  · refine ⟨rfl, fun tuple => Grants.congr (fun _ => Iff.rfl) (fun roleId hmember => ?_)
      (fun _ _ _ => Iff.rfl) (fun _ _ _ _ => Iff.rfl)⟩
    have hdrawn : roleId < t.nextRoleId := (h.userRole_drawn _ hmember).2
    refine exists_insert fun halive => ?_
    simp only [RoleRow.aliveWith, Bool.and_eq_true, beq_iff_eq] at halive
    exact Int.ne_of_lt hdrawn halive.2.symm

theorem Consistent.sameLoad_createPermission (h : t.Consistent) (action subject : String)
    (description : Option String) :
    SameLoad t (t.createPermission action subject description).tables userId := by
  unfold Tables.createPermission
  split
  · exact ⟨rfl, fun tuple => Iff.rfl⟩
  · refine ⟨rfl, fun tuple => Grants.congr (fun _ => Iff.rfl) (fun _ _ => Iff.rfl)
      (fun _ _ _ => Iff.rfl) (fun roleId permissionId _ hheld => ?_)⟩
    have hdrawn : permissionId < t.nextPermissionId := (h.rolePermission_drawn _ hheld).2
    refine exists_insert fun halive => ?_
    simp only [PermissionRow.aliveWith, Bool.and_eq_true, beq_iff_eq] at halive
    exact Int.ne_of_lt hdrawn halive.1.2.symm

/-- A group keeps its id and its life under an edit of its texts. -/
theorem sameLoad_updateRole (roleId : RoleId) (name description : Option (Option String)) :
    SameLoad t (t.updateRole roleId name description).tables userId := by
  unfold updateRole
  split
  · exact SameLoad.refl t userId
  · split
    · exact SameLoad.refl t userId
    · split
      · exact SameLoad.refl t userId
      · split
        · exact SameLoad.refl t userId
        · refine ⟨rfl, fun tuple => Grants.congr (fun _ => Iff.rfl) (fun _ _ => ?_)
            (fun _ _ _ => Iff.rfl) (fun _ _ _ _ => Iff.rfl)⟩
          exact exists_updateWhere fun _ _ _ => Iff.rfl

theorem mem_listRoleMemberUserIds {roleId : RoleId} :
    userId ∈ t.listRoleMemberUserIds roleId ↔ (userId, roleId) ∈ t.userRoles := by
  simp only [listRoleMemberUserIds, List.mem_dedup, List.mem_map, List.mem_filter, beq_iff_eq]
  constructor
  · rintro ⟨⟨_, _⟩, ⟨hmember, rfl⟩, rfl⟩
    exact hmember
  · intro hmember
    exact ⟨(userId, roleId), ⟨hmember, rfl⟩, rfl⟩

theorem mem_listPermissionHolderUserIds {permissionId : PermissionId} :
    userId ∈ t.listPermissionHolderUserIds permissionId ↔
      ∃ roleId, (userId, roleId) ∈ t.userRoles ∧ (roleId, permissionId) ∈ t.rolePermissions := by
  simp only [listPermissionHolderUserIds, List.mem_dedup, List.mem_flatMap, List.mem_map,
    List.mem_filter, Bool.and_eq_true, beq_iff_eq]
  constructor
  · rintro ⟨⟨_, roleId⟩, hmember, ⟨_, _⟩, ⟨hheld, rfl, rfl⟩, rfl⟩
    exact ⟨_, hmember, hheld⟩
  · rintro ⟨roleId, hmember, hheld⟩
    exact ⟨(userId, roleId), hmember, (roleId, permissionId), ⟨hheld, rfl, rfl⟩, rfl⟩

/-- Only members of the group can lose by its deletion. -/
theorem covers_deleteRole (roleId : RoleId) (now : Timestamp) :
    (t.deleteRole roleId now).Covers t := by
  refine covers_writeAndInvalidate fun response tables hwritten userId hnot => ?_
  rw [mem_listRoleMemberUserIds] at hnot
  split at hwritten
  · rw [Except.ok.injEq, Prod.mk.injEq] at hwritten
    obtain ⟨-, rfl⟩ := hwritten
    refine ⟨rfl, fun tuple => Grants.congr (fun _ => Iff.rfl) (fun otherId hmember => ?_)
      (fun _ _ _ => Iff.rfl) (fun _ _ _ _ => Iff.rfl)⟩
    have hne : ¬ roleId = otherId := fun heq => hnot (heq ▸ hmember)
    refine exists_updateWhere fun row _ hrow => ?_
    simp only [RoleRow.aliveWith, Bool.and_eq_true, beq_iff_eq] at hrow ⊢
    simp [hrow.2, hne]
  · contradiction

/-- Only holders of the permission can lose by its deletion; groups that are
deleted themselves count as holders. -/
theorem covers_deletePermission (permissionId : PermissionId) (now : Timestamp) :
    (t.deletePermission permissionId now).Covers t := by
  refine covers_writeAndInvalidate fun response tables hwritten userId hnot => ?_
  rw [mem_listPermissionHolderUserIds] at hnot
  split at hwritten
  · rw [Except.ok.injEq, Prod.mk.injEq] at hwritten
    obtain ⟨-, rfl⟩ := hwritten
    refine ⟨rfl, fun tuple => Grants.congr (fun _ => Iff.rfl) (fun _ _ => Iff.rfl)
      (fun _ _ _ => Iff.rfl) (fun roleId otherId hmember hheld => ?_)⟩
    have hne : ¬ permissionId = otherId := fun heq => hnot ⟨roleId, hmember, heq ▸ hheld⟩
    refine exists_updateWhere fun row _ hrow => ?_
    simp only [PermissionRow.aliveWith, Bool.and_eq_true, beq_iff_eq] at hrow ⊢
    simp [hrow.2, hne]
  · contradiction

/-- A change of the permissions of one group is seen by its members only. -/
theorem sameLoad_rolePermissions {roleId : RoleId} {rolePermissions : List (RoleId × PermissionId)}
    (hnot : (userId, roleId) ∉ t.userRoles)
    (hother : ∀ otherId permissionId, otherId ≠ roleId →
      ((otherId, permissionId) ∈ rolePermissions ↔ (otherId, permissionId) ∈ t.rolePermissions)) :
    SameLoad t { t with rolePermissions } userId := by
  refine ⟨rfl, fun tuple => Grants.congr (fun _ => Iff.rfl) (fun _ _ => Iff.rfl)
    (fun otherId permissionId hmember => ?_) (fun _ _ _ _ => Iff.rfl)⟩
  exact hother otherId permissionId fun heq => hnot (heq ▸ hmember)

theorem covers_attachPermission (roleId : RoleId) (permissionId : PermissionId) :
    (t.attachPermission roleId permissionId).Covers t := by
  refine covers_guarded (covers_guarded (covers_writeAndInvalidate ?_))
  intro response tables hwritten userId hnot
  rw [mem_listRoleMemberUserIds] at hnot
  split at hwritten
  · contradiction
  · rw [Except.ok.injEq, Prod.mk.injEq] at hwritten
    obtain ⟨-, rfl⟩ := hwritten
    refine sameLoad_rolePermissions hnot fun otherId otherPermissionId hne => ?_
    simp [hne]

theorem covers_detachPermission (roleId : RoleId) (permissionId : PermissionId) :
    (t.detachPermission roleId permissionId).Covers t := by
  refine covers_writeAndInvalidate fun response tables hwritten userId hnot => ?_
  rw [mem_listRoleMemberUserIds] at hnot
  split at hwritten
  · rw [Except.ok.injEq, Prod.mk.injEq] at hwritten
    obtain ⟨-, rfl⟩ := hwritten
    refine sameLoad_rolePermissions hnot fun otherId otherPermissionId hne => ?_
    simp [hne]
  · contradiction

/-- A change of the groups of one account is seen by that account only. -/
theorem sameLoad_userRoles {targetUserId : UserId} {userRoles : List (UserId × RoleId)}
    (hne : userId ≠ targetUserId)
    (hother : ∀ otherId roleId, otherId ≠ targetUserId →
      ((otherId, roleId) ∈ userRoles ↔ (otherId, roleId) ∈ t.userRoles)) :
    SameLoad t { t with userRoles } userId :=
  ⟨rfl, fun _ => Grants.congr (fun roleId => hother userId roleId hne) (fun _ _ => Iff.rfl)
    (fun _ _ _ => Iff.rfl) (fun _ _ _ _ => Iff.rfl)⟩

theorem covers_assignRole (requesterUserId targetUserId : UserId) (roleId : RoleId) :
    (t.assignRole requesterUserId targetUserId roleId).Covers t := by
  refine covers_guarded (covers_guarded (covers_writeAndInvalidate ?_))
  intro response tables hwritten userId hnot
  rw [List.mem_singleton] at hnot
  split at hwritten
  · contradiction
  · rw [Except.ok.injEq, Prod.mk.injEq] at hwritten
    obtain ⟨-, rfl⟩ := hwritten
    refine sameLoad_userRoles hnot fun otherId otherRoleId hne => ?_
    simp [hne]

theorem covers_unassignRole (requesterUserId targetUserId : UserId) (roleId : RoleId) :
    (t.unassignRole requesterUserId targetUserId roleId).Covers t := by
  refine covers_guarded (covers_writeAndInvalidate ?_)
  intro response tables hwritten userId hnot
  rw [List.mem_singleton] at hnot
  split at hwritten
  · rw [Except.ok.injEq, Prod.mk.injEq] at hwritten
    obtain ⟨-, rfl⟩ := hwritten
    refine sameLoad_userRoles hnot fun otherId otherRoleId hne => ?_
    simp [hne]
  · contradiction

end Tables

/-- Every operation invalidates every account whose load it can change. -/
theorem Operation.covers {t : Tables} (h : t.Consistent) (operation : Operation) :
    (operation.run t).Covers t := by
  cases operation with
  | update requesterUserId targetUserId description =>
      exact Tables.covers_guarded (Tables.covers_write fun _ _ hwritten _ =>
        Tables.sameLoad_updateUser hwritten (fun _ => rfl) fun _ _ => ⟨rfl, rfl, rfl⟩)
  | setPassword requesterUserId targetUserId passwordHash =>
      exact Tables.covers_guarded (Tables.covers_write fun _ _ hwritten _ =>
        Tables.sameLoad_updateUser hwritten (fun _ => rfl) fun _ _ => ⟨rfl, rfl, rfl⟩)
  | remove requesterUserId targetUserId now =>
      exact Tables.covers_guarded (Tables.covers_writeAndInvalidate fun _ _ hwritten _ hnot =>
        Tables.sameLoad_updateUser hwritten (fun _ => rfl)
          fun heq => absurd (List.mem_singleton.mpr heq) hnot)
  | setEnabled requesterUserId targetUserId enabled =>
      exact Tables.covers_guarded (Tables.covers_writeAndInvalidate fun _ _ hwritten _ hnot =>
        Tables.sameLoad_updateUser hwritten (fun _ => rfl)
          fun heq => absurd (List.mem_singleton.mpr heq) hnot)
  | createRole name description now =>
      exact fun _ _ => h.sameLoad_createRole name description now
  | updateRole roleId name description =>
      exact fun _ _ => Tables.sameLoad_updateRole roleId name description
  | deleteRole roleId now => exact Tables.covers_deleteRole roleId now
  | createPermission action subject description =>
      exact fun _ _ => h.sameLoad_createPermission action subject description
  | deletePermission permissionId now => exact Tables.covers_deletePermission permissionId now
  | attachPermission roleId permissionId =>
      exact Tables.covers_attachPermission roleId permissionId
  | detachPermission roleId permissionId =>
      exact Tables.covers_detachPermission roleId permissionId
  | assignRole requesterUserId targetUserId roleId =>
      exact Tables.covers_assignRole requesterUserId targetUserId roleId
  | unassignRole requesterUserId targetUserId roleId =>
      exact Tables.covers_unassignRole requesterUserId targetUserId roleId

/-! ## Runs -/

/-- Two snapshots that grant the same. -/
structure Tables.AuthorizationSnapshot.Agrees (fresh snapshot : Tables.AuthorizationSnapshot) :
    Prop where
  isRoot : fresh.isRoot = snapshot.isRoot
  enabled : fresh.enabled = snapshot.enabled
  permissions : ∀ tuple, tuple ∈ fresh.permissions ↔ tuple ∈ snapshot.permissions

/-- The database and the cached authorizations. -/
structure AuthorizationState where
  database : Database
  cached : UserId → Option Tables.AuthorizationSnapshot

/-- What happens in one run. -/
inductive AuthorizationAction where
  /-- An operation runs to its end. -/
  | operate (operation : Operation)
  /-- A request is authenticated. -/
  | validate (payload : JwtPayload)
  /-- The TTL of a cached authorization runs out. -/
  | expire (userId : UserId)

namespace AuthorizationState

variable (s : AuthorizationState)

/-- `UserAuthorizationCacheService.getOrLoad` with the loader of `validate`. -/
def getOrLoad (userId : UserId) :
    Except HttpException Tables.AuthorizationSnapshot × AuthorizationState :=
  match s.cached userId with
  | some snapshot => (.ok snapshot, s)
  | none =>
      match s.database.tables.loadSnapshot userId with
      | .error error => (.error error, s)
      | .ok snapshot =>
          (.ok snapshot, { s with cached := Function.update s.cached userId (some snapshot) })

/-- `JwtStrategy.validate`. -/
def validate (payload : JwtPayload) :
    Except HttpException AuthenticatedUser × AuthorizationState :=
  match payload.sub with
  | none => (.error credentialInvalid, s)
  | some userId =>
      if userId < 1 then (.error credentialInvalid, s)
      else
        ((s.getOrLoad userId).1.bind (buildAuthenticatedUser userId payload),
          (s.getOrLoad userId).2)

/-- An operation, with the `DEL` of `writeAndInvalidate` at its end. -/
def operate (operation : Operation) : AuthorizationState where
  database := s.database.run operation
  cached userId :=
    if userId ∈ (operation.run s.database.tables).invalidated then none else s.cached userId

/-- Every cached snapshot agrees with a load from the database of now. -/
def Fresh : Prop :=
  ∀ userId snapshot, s.cached userId = some snapshot →
    ∃ fresh, s.database.tables.loadSnapshot userId = .ok fresh ∧ fresh.Agrees snapshot

variable {s}

/-- Accounts that keep their cached snapshot are loaded as before. -/
theorem Fresh.operate (h : s.Fresh) (operation : Operation) : (s.operate operation).Fresh := by
  intro userId snapshot hcached
  simp only [AuthorizationState.operate] at hcached
  split at hcached
  · contradiction
  next hkept =>
    rcases h userId snapshot hcached with ⟨old, hload, hagrees⟩
    have hsame := operation.covers s.database.consistent userId hkept
    rcases hsame.loadSnapshot hload with ⟨fresh, hfresh, hroot, henabled, hpermissions⟩
    exact ⟨fresh, hfresh, hroot.trans hagrees.isRoot, henabled.trans hagrees.enabled,
      fun tuple => (hpermissions tuple).trans (hagrees.permissions tuple)⟩

/-- A miss caches the load it has just made. -/
theorem Fresh.getOrLoad (h : s.Fresh) (userId : UserId) : (s.getOrLoad userId).2.Fresh := by
  unfold AuthorizationState.getOrLoad
  split
  · exact h
  · split
    · exact h
    next snapshot hload =>
      intro otherId cached hcached
      change Function.update s.cached userId (some snapshot) otherId = some cached at hcached
      by_cases heq : otherId = userId
      · subst heq
        rw [Function.update_self, Option.some.injEq] at hcached
        exact ⟨snapshot, hload, hcached ▸ ⟨rfl, rfl, fun _ => Iff.rfl⟩⟩
      · rw [Function.update_of_ne heq] at hcached
        exact h otherId cached hcached

theorem Fresh.validate (h : s.Fresh) (payload : JwtPayload) : (s.validate payload).2.Fresh := by
  unfold AuthorizationState.validate
  split
  · exact h
  next userId _ =>
    split
    · exact h
    · exact h.getOrLoad userId

theorem Fresh.expire (h : s.Fresh) (userId : UserId) :
    Fresh { s with cached := Function.update s.cached userId none } := by
  intro otherId snapshot hcached
  change Function.update s.cached userId none otherId = some snapshot at hcached
  by_cases heq : otherId = userId
  · subst heq
    rw [Function.update_self] at hcached
    contradiction
  · rw [Function.update_of_ne heq] at hcached
    exact h otherId snapshot hcached

end AuthorizationState

/-- Operations and authenticated requests one after the other, over any database
and with nothing cached at first. -/
def authorizationMachine : Machine AuthorizationState AuthorizationAction where
  initial s := s.cached = fun _ => none
  step s
    | .operate operation => some (s.operate operation)
    | .validate payload => some (s.validate payload).2
    | .expire userId => some { s with cached := Function.update s.cached userId none }

theorem authorizationMachine_fresh {s : AuthorizationState}
    (h : authorizationMachine.Reachable s) : s.Fresh := by
  refine h.invariant (fun {s} hinit => ?_) (fun {s a t} hfresh hstep => ?_)
  · intro userId snapshot hcached
    rw [show s.cached = fun _ => none from hinit] at hcached
    contradiction
  · cases a with
    | operate operation =>
        exact Option.some.inj hstep ▸ hfresh.operate operation
    | validate payload =>
        exact Option.some.inj hstep ▸ hfresh.validate payload
    | expire userId =>
        exact Option.some.inj hstep ▸ hfresh.expire userId

/-- An account whose load an operation changes is invalidated by it, and so
every cached authorization of every run agrees with a fresh load. -/
theorem invalidation_covers_affected :
    (∀ (d : Database) (operation : Operation) (userId : UserId),
      (operation.run d.tables).tables.findAuthUser userId ≠ d.tables.findAuthUser userId ∨
        (∃ tuple, ¬ (tuple ∈ (operation.run d.tables).tables.getUserPermissions userId ↔
          tuple ∈ d.tables.getUserPermissions userId)) →
      userId ∈ (operation.run d.tables).invalidated) ∧
    ∀ s, authorizationMachine.Reachable s → ∀ userId snapshot, s.cached userId = some snapshot →
      ∃ fresh, s.database.tables.loadSnapshot userId = .ok fresh ∧
        fresh.isRoot = snapshot.isRoot ∧ fresh.enabled = snapshot.enabled ∧
        ∀ tuple, tuple ∈ fresh.permissions ↔ tuple ∈ snapshot.permissions := by
  constructor
  · intro d operation userId hdiffers
    by_contra hnot
    have hsame := operation.covers d.consistent userId hnot
    rcases hdiffers with huser | ⟨tuple, htuple⟩
    · exact huser hsame.user
    · rw [Tables.mem_getUserPermissions, Tables.mem_getUserPermissions] at htuple
      exact htuple (hsame.permissions tuple)
  · intro s hreachable userId snapshot hcached
    rcases authorizationMachine_fresh hreachable userId snapshot hcached with ⟨fresh, hload, h⟩
    exact ⟨fresh, hload, h.isRoot, h.enabled, h.permissions⟩

/-- One account whose group may read logs; a second row of its groups names a
group that is gone. -/
def readerDatabase : Database where
  tables :=
    { users := [⟨1, "reader", "hash", "admin", false, true, none, none, 0, none⟩]
      roles := [⟨1, "readers", none, 0, none⟩]
      permissions := [⟨1, "read", "log", none, none⟩]
      userRoles := [(1, 1), (1, 2)]
      rolePermissions := [(1, 1), (2, 1)]
      nextUserId := 2
      nextRoleId := 3
      nextPermissionId := 2 }
  consistent := ⟨by decide, by decide, by decide, by decide, by decide, by decide⟩

/-- The account signs in, and its only permission is deleted: the account is
invalidated.  When it signs in between, the cached snapshot is the fresh one. -/
theorem invalidation_covers_affected_reader :
    1 ∈ ((Operation.deletePermission 1 7).run readerDatabase.tables).invalidated ∧
      ∃ fresh, readerDatabase.tables.loadSnapshot 1 = .ok fresh ∧ fresh.isRoot = false ∧
        fresh.enabled = true ∧ ∀ tuple, tuple ∈ fresh.permissions ↔ tuple ∈ [⟨"read", "log"⟩] := by
  constructor
  · refine invalidation_covers_affected.1 readerDatabase (.deletePermission 1 7) 1 (Or.inr ?_)
    exact ⟨⟨"read", "log"⟩, by decide⟩
  · have hreach : authorizationMachine.Reachable
        ((⟨readerDatabase, fun _ => none⟩ : AuthorizationState).validate ⟨some 1, "reader"⟩).2 :=
      ⟨⟨readerDatabase, fun _ => none⟩, [.validate ⟨some 1, "reader"⟩], rfl, rfl⟩
    exact invalidation_covers_affected.2 _ hreach 1 ⟨false, true, [⟨"read", "log"⟩]⟩ (by decide)

end Rbac
end R2RPC
