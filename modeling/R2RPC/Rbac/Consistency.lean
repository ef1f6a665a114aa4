import Mathlib.Data.List.Nodup
import R2RPC.Rbac.Service

/-!
# The serial keys stay ahead of the relation tables

An operation writes a relation row only between an account, a group and a
permission that it has just found, and a sequence never returns an id twice.
This module shows that the tables stay consistent, so that a created row starts
without relations.

Main results:

- Theorem {lit}`Tables.Consistent.run`: every operation keeps the tables
  consistent.
- Definition {lit}`Database.run`: one operation on a database.

Current gaps:

- {lit}`ON DELETE CASCADE` is not modelled, since no operation deletes a row of
  {lit}`users`, {lit}`roles` or {lit}`permissions`.
-/

namespace R2RPC
namespace Rbac

open Relational

/-! ## What an operation leaves in the tables -/

namespace Tables

variable {t : Tables} {P : Tables → Prop}
  {written : Except HttpException (Response × Tables)}

theorem guarded_tables {check : Option HttpException} {rest : Outcome} (ht : P t)
    (hrest : P rest.tables) : P (t.guarded check rest).tables := by
  cases check with
  | none => exact hrest
  | some error => exact ht

theorem write_tables (ht : P t)
    (hwritten : ∀ response tables, written = .ok (response, tables) → P tables) :
    P (t.write written).tables := by
  cases written with
  | error error => exact ht
  | ok result => exact hwritten result.1 result.2 rfl

theorem writeAndInvalidate_tables {ids : List UserId} (ht : P t)
    (hwritten : ∀ response tables, written = .ok (response, tables) → P tables) :
    P (t.writeAndInvalidate ids written).tables := by
  cases written with
  | error error => exact ht
  | ok result => exact hwritten result.1 result.2 rfl

namespace Consistent

variable (h : t.Consistent)
include h

/-- An `UPDATE` of accounts that keeps their ids. -/
theorem updateUsers {condition : UserRow → Bool} {set : UserRow → UserRow}
    (hid : ∀ row, (set row).id = row.id) :
    Consistent { t with users := updateWhere condition set t.users } := by
  refine { h with user_keys := ?_, user_drawn := ?_ }
  · show ((updateWhere condition set t.users).map (·.id)).Nodup
    rw [map_updateWhere fun row _ => hid row]
    exact h.user_keys
  · exact forall_updateWhere h.user_drawn fun row _ hrow => (hid row).symm ▸ hrow

theorem updateUser {targetUserId : UserId} {set : UserRow → UserRow}
    {answer : UserRow → Response} {response : Response} {tables : Tables}
    (hid : ∀ row, (set row).id = row.id)
    (hupdate : t.updateUser targetUserId set answer = .ok (response, tables)) :
    tables.Consistent := by
  unfold Tables.updateUser at hupdate
  split at hupdate
  · contradiction
  · rw [Except.ok.injEq, Prod.mk.injEq] at hupdate
    exact hupdate.2 ▸ h.updateUsers hid

/-- An account inserted under the next id. -/
theorem insertUser {row : UserRow} (hid : row.id = t.nextUserId) :
    Consistent { t with users := t.users ++ [row], nextUserId := t.nextUserId + 1 } where
  user_keys := by
    simp only [List.map_append, List.map_cons, List.map_nil]
    refine List.nodup_append.mpr ⟨h.user_keys, List.nodup_singleton _, fun id hold id' hnew => ?_⟩
    rcases List.mem_map.mp hold with ⟨old, hmem, rfl⟩
    rw [List.mem_singleton.mp hnew, hid]
    exact Int.ne_of_lt (h.user_drawn old hmem)
  user_drawn other hother := by
    rcases List.mem_append.mp hother with hold | hnew
    · exact Int.lt_trans (h.user_drawn other hold) (Int.lt_succ _)
    · rw [List.mem_singleton.mp hnew, hid]
      exact Int.lt_succ _
  role_drawn := h.role_drawn
  permission_drawn := h.permission_drawn
  userRole_drawn row hrow :=
    ⟨Int.lt_trans (h.userRole_drawn row hrow).1 (Int.lt_succ _), (h.userRole_drawn row hrow).2⟩
  rolePermission_drawn := h.rolePermission_drawn

/-- An `UPDATE` of groups that keeps their ids. -/
theorem updateRoles {condition : RoleRow → Bool} {set : RoleRow → RoleRow}
    (hid : ∀ row, (set row).id = row.id) :
    Consistent { t with roles := updateWhere condition set t.roles } :=
  { h with
    role_drawn := forall_updateWhere h.role_drawn fun row _ hrow => (hid row).symm ▸ hrow }

/-- An `UPDATE` of permissions that keeps their ids. -/
theorem updatePermissions {condition : PermissionRow → Bool} {set : PermissionRow → PermissionRow}
    (hid : ∀ row, (set row).id = row.id) :
    Consistent { t with permissions := updateWhere condition set t.permissions } :=
  { h with
    permission_drawn :=
      forall_updateWhere h.permission_drawn fun row _ hrow => (hid row).symm ▸ hrow }

/-- `nextval('roles_id_seq')`. -/
theorem drawRole : Consistent { t with nextRoleId := t.nextRoleId + 1 } where
  user_keys := h.user_keys
  user_drawn := h.user_drawn
  role_drawn row hrow := Int.lt_trans (h.role_drawn row hrow) (Int.lt_succ _)
  permission_drawn := h.permission_drawn
  userRole_drawn row hrow :=
    ⟨(h.userRole_drawn row hrow).1, Int.lt_trans (h.userRole_drawn row hrow).2 (Int.lt_succ _)⟩
  rolePermission_drawn row hrow :=
    ⟨Int.lt_trans (h.rolePermission_drawn row hrow).1 (Int.lt_succ _),
      (h.rolePermission_drawn row hrow).2⟩

/-- `nextval('permissions_id_seq')`. -/
theorem drawPermission : Consistent { t with nextPermissionId := t.nextPermissionId + 1 } where
  user_keys := h.user_keys
  user_drawn := h.user_drawn
  role_drawn := h.role_drawn
  permission_drawn row hrow := Int.lt_trans (h.permission_drawn row hrow) (Int.lt_succ _)
  userRole_drawn := h.userRole_drawn
  rolePermission_drawn row hrow :=
    ⟨(h.rolePermission_drawn row hrow).1,
      Int.lt_trans (h.rolePermission_drawn row hrow).2 (Int.lt_succ _)⟩

theorem createRole (name : String) (description : Option String) (now : Timestamp) :
    (t.createRole name description now).tables.Consistent := by
  unfold Tables.createRole
  split
  · exact h.drawRole
  · refine { h.drawRole with role_drawn := fun row hrow => ?_ }
    rcases List.mem_append.mp hrow with hold | hnew
    · exact h.drawRole.role_drawn row hold
    · rw [List.mem_singleton.mp hnew]
      exact Int.lt_succ t.nextRoleId

theorem createPermission (action subject : String) (description : Option String) :
    (t.createPermission action subject description).tables.Consistent := by
  unfold Tables.createPermission
  split
  · exact h.drawPermission
  · refine { h.drawPermission with permission_drawn := fun row hrow => ?_ }
    rcases List.mem_append.mp hrow with hold | hnew
    · exact h.drawPermission.permission_drawn row hold
    · rw [List.mem_singleton.mp hnew]
      exact Int.lt_succ t.nextPermissionId

theorem updateRole (roleId : RoleId) (name description : Option (Option String)) :
    (t.updateRole roleId name description).tables.Consistent := by
  unfold Tables.updateRole
  split
  · exact h
  · split
    · exact h
    · split
      · exact h
      · split
        · exact h
        · exact h.updateRoles fun _ => rfl

/-- An id with a live row has been drawn. -/
theorem drawn_of_assertRoleExists {roleId : RoleId} (hexists : t.assertRoleExists roleId = none) :
    roleId < t.nextRoleId := by
  unfold assertRoleExists at hexists
  split at hexists
  next hany =>
    rcases List.any_eq_true.mp hany with ⟨row, hrow, halive⟩
    simp only [RoleRow.aliveWith, Bool.and_eq_true, beq_iff_eq] at halive
    exact halive.2 ▸ h.role_drawn row hrow
  next => contradiction

theorem drawn_of_assertPermissionExists {permissionId : PermissionId}
    (hexists : t.assertPermissionExists permissionId = none) :
    permissionId < t.nextPermissionId := by
  unfold assertPermissionExists at hexists
  split at hexists
  next hany =>
    rcases List.any_eq_true.mp hany with ⟨row, hrow, halive⟩
    simp only [PermissionRow.aliveWith, Bool.and_eq_true, beq_iff_eq] at halive
    exact halive.2 ▸ h.permission_drawn row hrow
  next => contradiction

theorem drawn_of_assertCanMutateUser {requesterUserId targetUserId : UserId}
    (hallowed : t.assertCanMutateUser requesterUserId targetUserId = none) :
    targetUserId < t.nextUserId := by
  unfold assertCanMutateUser at hallowed
  split at hallowed
  · contradiction
  next row rows hfound =>
    have hrow : row ∈ t.users.filter (·.aliveWith targetUserId) := hfound ▸ List.mem_cons_self
    rcases List.mem_filter.mp hrow with ⟨hmem, halive⟩
    simp only [UserRow.aliveWith, Bool.and_eq_true, beq_iff_eq] at halive
    exact halive.2 ▸ h.user_drawn row hmem

end Consistent

/-- The rest of an operation runs only when its check has passed. -/
theorem guarded_tables_of_passed {check : Option HttpException} {rest : Outcome} (ht : P t)
    (hrest : check = none → P rest.tables) : P (t.guarded check rest).tables := by
  cases check with
  | none => exact hrest rfl
  | some error => exact ht

end Tables

/-- An operation keeps the tables consistent. -/
theorem Tables.Consistent.run {t : Tables} (h : t.Consistent) (operation : Operation) :
    (operation.run t).tables.Consistent := by
  cases operation with
  | update requesterUserId targetUserId description =>
      exact Tables.guarded_tables h (Tables.write_tables h fun _ _ => h.updateUser fun _ => rfl)
  | setPassword requesterUserId targetUserId passwordHash =>
      exact Tables.guarded_tables h (Tables.write_tables h fun _ _ => h.updateUser fun _ => rfl)
  | remove requesterUserId targetUserId now =>
      exact Tables.guarded_tables h
        (Tables.writeAndInvalidate_tables h fun _ _ => h.updateUser fun _ => rfl)
  | setEnabled requesterUserId targetUserId enabled =>
      exact Tables.guarded_tables h
        (Tables.writeAndInvalidate_tables h fun _ _ => h.updateUser fun _ => rfl)
  | createRole name description now => exact h.createRole name description now
  | updateRole roleId name description => exact h.updateRole roleId name description
  | createPermission action subject description =>
      exact h.createPermission action subject description
  | deleteRole roleId now =>
      refine Tables.writeAndInvalidate_tables h fun response tables hwritten => ?_
      split at hwritten
      · rw [Except.ok.injEq, Prod.mk.injEq] at hwritten
        exact hwritten.2 ▸ h.updateRoles fun _ => rfl
      · contradiction
  | deletePermission permissionId now =>
      refine Tables.writeAndInvalidate_tables h fun response tables hwritten => ?_
      split at hwritten
      · rw [Except.ok.injEq, Prod.mk.injEq] at hwritten
        exact hwritten.2 ▸ h.updatePermissions fun _ => rfl
      · contradiction
  | attachPermission roleId permissionId =>
      refine Tables.guarded_tables_of_passed h fun hrole =>
        Tables.guarded_tables_of_passed h fun hpermission =>
          Tables.writeAndInvalidate_tables h fun response tables hwritten => ?_
      split at hwritten
      · contradiction
      · rw [Except.ok.injEq, Prod.mk.injEq] at hwritten
        refine hwritten.2 ▸ { h with rolePermission_drawn := fun row hrow => ?_ }
        rcases List.mem_append.mp hrow with hold | hnew
        · exact h.rolePermission_drawn row hold
        · rw [List.mem_singleton.mp hnew]
          exact ⟨h.drawn_of_assertRoleExists hrole,
            h.drawn_of_assertPermissionExists hpermission⟩
  | detachPermission roleId permissionId =>
      refine Tables.writeAndInvalidate_tables h fun response tables hwritten => ?_
      split at hwritten
      · rw [Except.ok.injEq, Prod.mk.injEq] at hwritten
        exact hwritten.2 ▸ { h with
          rolePermission_drawn := fun row hrow =>
            h.rolePermission_drawn row (List.mem_of_mem_filter hrow) }
      · contradiction
  | assignRole requesterUserId targetUserId roleId =>
      refine Tables.guarded_tables_of_passed h fun huser =>
        Tables.guarded_tables_of_passed h fun hrole =>
          Tables.writeAndInvalidate_tables h fun response tables hwritten => ?_
      split at hwritten
      · contradiction
      · rw [Except.ok.injEq, Prod.mk.injEq] at hwritten
        refine hwritten.2 ▸ { h with userRole_drawn := fun row hrow => ?_ }
        rcases List.mem_append.mp hrow with hold | hnew
        · exact h.userRole_drawn row hold
        · rw [List.mem_singleton.mp hnew]
          exact ⟨h.drawn_of_assertCanMutateUser huser, h.drawn_of_assertRoleExists hrole⟩
  | unassignRole requesterUserId targetUserId roleId =>
      refine Tables.guarded_tables h
        (Tables.writeAndInvalidate_tables h fun response tables hwritten => ?_)
      split at hwritten
      · rw [Except.ok.injEq, Prod.mk.injEq] at hwritten
        exact hwritten.2 ▸ { h with
          userRole_drawn := fun row hrow => h.userRole_drawn row (List.mem_of_mem_filter hrow) }
      · contradiction

/-- The database after an operation. -/
def Database.run (d : Database) (operation : Operation) : Database :=
  ⟨(operation.run d.tables).tables, d.consistent.run operation⟩

end Rbac
end R2RPC
