import Mathlib.Data.List.Nodup
import R2RPC.Library.Machine
import R2RPC.Rbac.Controllers
import R2RPC.Rbac.Invalidation

/-!
# No escalation by accounts that are not root

An account that is not root can hold every permission there is.  What it can
then do to the tables is one of three things: nothing, an {lit}`UPDATE` of a live
account that is not root, or the insertion of an account that is not root.  The
permissions of an account hang off the four tables that none of these touches.

Main results:

- Theorem {lit}`Request.serve_effect`: the three effects of one request.
- Theorem {lit}`no_escalation`: what holds after any sequence of requests.

Current gaps:

- Requests follow each other, as the statements of one request do here.
-/

namespace R2RPC
namespace Rbac

open Interleaving Relational

/-! ## One request -/

/-- What a request of an account that is not root can do to the tables. -/
inductive NonRootEffect (t : Tables) : Tables → Prop where
  | unchanged : NonRootEffect t t
  | updated (targetUserId : UserId) (set : UserRow → UserRow)
      (keeps : ∀ row, (set row).id = row.id ∧ (set row).isRoot = row.isRoot)
      (target : ∀ row ∈ t.users, row.aliveWith targetUserId = true → row.isRoot = false) :
      NonRootEffect t { t with users := updateWhere (·.aliveWith targetUserId) set t.users }
  | created (row : UserRow) (id : row.id = t.nextUserId) (isRoot : row.isRoot = false) :
      NonRootEffect t { t with users := t.users ++ [row], nextUserId := t.nextUserId + 1 }

/-- No root account has this id. -/
def Tables.NotRoot (t : Tables) (userId : UserId) : Prop :=
  ∀ row ∈ t.users, row.id = userId → row.isRoot = false

instance (t : Tables) (userId : UserId) : Decidable (t.NotRoot userId) :=
  inferInstanceAs (Decidable (∀ row ∈ t.users, row.id = userId → row.isRoot = false))

namespace Tables

variable {t : Tables}

theorem Consistent.user_unique (h : t.Consistent) {row other : UserRow} (hrow : row ∈ t.users)
    (hother : other ∈ t.users) (hid : row.id = other.id) : row = other :=
  List.inj_on_of_nodup_map h.user_keys hrow hother hid

/-- The account policy lets a root account be changed by itself only. -/
theorem Consistent.target_not_root (h : t.Consistent) {requesterUserId targetUserId : UserId}
    (hrequester : t.NotRoot requesterUserId)
    (hallowed : t.assertCanMutateUser requesterUserId targetUserId = none) :
    ∀ row ∈ t.users, row.aliveWith targetUserId = true → row.isRoot = false := by
  unfold assertCanMutateUser at hallowed
  split at hallowed
  · contradiction
  next target rows hfound =>
    split at hallowed
    next hpolicy =>
      have htarget : target ∈ t.users.filter (·.aliveWith targetUserId) :=
        hfound ▸ List.mem_cons_self
      rcases List.mem_filter.mp htarget with ⟨hmem, htargetAlive⟩
      have hnotRoot : target.isRoot = false := by
        by_contra hroot
        rw [Bool.not_eq_false] at hroot
        have hself : target.id = requesterUserId := by
          simpa [administratorMutationAllowed, hroot] using hpolicy
        exact absurd hroot (by simp [hrequester target hmem hself])
      intro row hrow halive
      simp only [UserRow.aliveWith, Bool.and_eq_true, beq_iff_eq] at halive htargetAlive
      rw [h.user_unique hrow hmem (halive.2.trans htargetAlive.2.symm)]
      exact hnotRoot
    next => contradiction

/-- A guarded `UPDATE` of one account that sets neither its id nor `is_root`. -/
theorem updateUser_effect (h : t.Consistent) {requesterUserId targetUserId : UserId}
    (hrequester : t.NotRoot requesterUserId)
    (hallowed : t.assertCanMutateUser requesterUserId targetUserId = none)
    {set : UserRow → UserRow} {answer : UserRow → Response} {response : Response}
    {tables : Tables} (keeps : ∀ row, (set row).id = row.id ∧ (set row).isRoot = row.isRoot)
    (hupdate : t.updateUser targetUserId set answer = .ok (response, tables)) :
    NonRootEffect t tables := by
  unfold updateUser at hupdate
  split at hupdate
  · contradiction
  · rw [Except.ok.injEq, Prod.mk.injEq] at hupdate
    exact hupdate.2 ▸ .updated targetUserId set keeps (h.target_not_root hrequester hallowed)

theorem createUser_effect (username passwordHash : String) (role description : Option String)
    (now : Timestamp) :
    NonRootEffect t (t.createUser username passwordHash role description now).tables := by
  unfold createUser
  split
  · exact .unchanged
  · exact .created _ rfl rfl

theorem withEntityId_tables {P : Tables → Prop} {parameter : PathParameter}
    {handler : Int → Outcome} (ht : P t) (hhandler : ∀ entityId, P (handler entityId).tables) :
    P (withEntityId t parameter handler).tables := by
  unfold withEntityId
  split
  · exact ht
  next entityId _ => exact hhandler entityId

end Tables

namespace Request

variable {can : Ability} {t : Tables} {requester : AuthenticatedUser} {request : Request}

/-- Endpoints that only root may use leave the tables when someone else does. -/
theorem serve_of_requiresRoot (hrequester : requester.isRoot = false)
    (hroot : request.requiresRoot = true) : (request.serve can t requester).tables = t := by
  refine Tables.guarded_tables (P := (· = t)) rfl ?_
  rw [hroot, if_pos rfl, rootGuard, hrequester]
  rfl

theorem handle_effect (h : t.Consistent) (hrequester : t.NotRoot requester.id)
    (hroot : request.requiresRoot = false) :
    NonRootEffect t (request.handle t requester).tables := by
  have hguarded : ∀ {targetUserId : UserId} {rest : Outcome},
      (t.assertCanMutateUser requester.id targetUserId = none → NonRootEffect t rest.tables) →
      NonRootEffect t
        (t.guarded (t.assertCanMutateUser requester.id targetUserId) rest).tables :=
    fun hrest => Tables.guarded_tables_of_passed .unchanged hrest
  cases request with
  | list => exact .unchanged
  | listRoles => exact .unchanged
  | listPermissions => exact .unchanged
  | listRoleOptions => exact .unchanged
  | listPermissionOptions => exact .unchanged
  | findOne id => exact Tables.withEntityId_tables .unchanged fun _ => .unchanged
  | listUserRoles userId => exact Tables.withEntityId_tables .unchanged fun _ => .unchanged
  | create username passwordHash role description now =>
      exact Tables.createUser_effect username passwordHash role description now
  | update id description =>
      exact Tables.withEntityId_tables .unchanged fun userId => hguarded fun hallowed =>
        Tables.write_tables .unchanged fun _ _ =>
          Tables.updateUser_effect h hrequester hallowed fun _ => ⟨rfl, rfl⟩
  | setPassword id passwordHash =>
      exact Tables.withEntityId_tables .unchanged fun userId => hguarded fun hallowed =>
        Tables.write_tables .unchanged fun _ _ =>
          Tables.updateUser_effect h hrequester hallowed fun _ => ⟨rfl, rfl⟩
  | remove id now =>
      exact Tables.withEntityId_tables .unchanged fun userId => hguarded fun hallowed =>
        Tables.writeAndInvalidate_tables .unchanged fun _ _ =>
          Tables.updateUser_effect h hrequester hallowed fun _ => ⟨rfl, rfl⟩
  | setEnabled id enabled =>
      exact Tables.withEntityId_tables .unchanged fun userId => hguarded fun hallowed =>
        Tables.writeAndInvalidate_tables .unchanged fun _ _ =>
          Tables.updateUser_effect h hrequester hallowed fun _ => ⟨rfl, rfl⟩
  | createRole | updateRole | deleteRole | createPermission | deletePermission
  | attachPermissionFromBody | attachPermission | detachPermission | assignRoleFromBody
  | assignRole | unassignRole => contradiction

/-- The three effects of a request of an account that is not root. -/
theorem serve_effect (h : t.Consistent) (hisRoot : requester.isRoot = false)
    (hrequester : t.NotRoot requester.id) :
    NonRootEffect t (request.serve can t requester).tables := by
  cases hroot : request.requiresRoot with
  | true =>
      rw [serve_of_requiresRoot hisRoot hroot]
      exact .unchanged
  | false =>
      exact Tables.guarded_tables .unchanged
        (Tables.guarded_tables .unchanged (handle_effect h hrequester hroot))

end Request

/-! ## Runs -/

/-- An account keeps its id and its standing, and a root account everything. -/
structure UserRow.SameStanding (before after : UserRow) : Prop where
  id : after.id = before.id
  isRoot : after.isRoot = before.isRoot
  root : before.isRoot = true → after = before

/-- The tables as far as accounts that are not root can take them. -/
structure Unescalated (before after : Tables) : Prop where
  consistent : after.Consistent
  drawn : before.nextUserId ≤ after.nextUserId
  kept : ∀ row ∈ before.users, ∃ row' ∈ after.users, row.SameStanding row'
  origin : ∀ row ∈ after.users, (∃ old ∈ before.users, old.SameStanding row) ∨
    before.nextUserId ≤ row.id ∧ row.isRoot = false
  roles : after.roles = before.roles
  permissions : after.permissions = before.permissions
  userRoles : after.userRoles = before.userRoles
  rolePermissions : after.rolePermissions = before.rolePermissions

namespace UserRow.SameStanding

theorem refl (row : UserRow) : row.SameStanding row := ⟨rfl, rfl, fun _ => rfl⟩

theorem trans {a b c : UserRow} (hab : a.SameStanding b) (hbc : b.SameStanding c) :
    a.SameStanding c where
  id := hbc.id.trans hab.id
  isRoot := hbc.isRoot.trans hab.isRoot
  root hroot := (hbc.root (hab.isRoot.trans hroot)).trans (hab.root hroot)

end UserRow.SameStanding

namespace Unescalated

variable {before after next : Tables}

theorem refl (h : before.Consistent) : Unescalated before before where
  consistent := h
  drawn := Int.le_refl _
  kept row hrow := ⟨row, hrow, .refl row⟩
  origin row hrow := Or.inl ⟨row, hrow, .refl row⟩
  roles := rfl
  permissions := rfl
  userRoles := rfl
  rolePermissions := rfl

/-- An account that is no root account at first is none later. -/
theorem notRoot (h : Unescalated before after) {userId : UserId} (hnot : before.NotRoot userId) :
    after.NotRoot userId := by
  intro row hrow hid
  rcases h.origin row hrow with ⟨old, hold, hstanding⟩ | ⟨-, hroot⟩
  · rw [hstanding.isRoot]
    exact hnot old hold (hstanding.id.symm.trans hid)
  · exact hroot

/-- The rows that an update touches are not root, so it changes no standing. -/
theorem updated (h : Unescalated before after) {targetUserId : UserId} {set : UserRow → UserRow}
    (keeps : ∀ row, (set row).id = row.id ∧ (set row).isRoot = row.isRoot)
    (target : ∀ row ∈ after.users, row.aliveWith targetUserId = true → row.isRoot = false) :
    Unescalated before
      { after with users := updateWhere (·.aliveWith targetUserId) set after.users } := by
  have hstanding : ∀ row ∈ after.users, row.aliveWith targetUserId = true →
      row.SameStanding (set row) := fun row hrow halive =>
    ⟨(keeps row).1, (keeps row).2, fun hroot => by
      rw [target row hrow halive] at hroot
      contradiction⟩
  refine { h with consistent := ?_, kept := fun row hrow => ?_, origin := fun row hrow => ?_ }
  · exact h.consistent.updateUsers fun row => (keeps row).1
  · rcases h.kept row hrow with ⟨row', hrow', hkept⟩
    by_cases halive : row'.aliveWith targetUserId = true
    · exact ⟨set row', mem_updateWhere.mpr (Or.inl ⟨row', hrow', halive, rfl⟩),
        hkept.trans (hstanding row' hrow' halive)⟩
    · exact ⟨row', mem_updateWhere.mpr (Or.inr ⟨hrow', by simpa using halive⟩), hkept⟩
  · rcases mem_updateWhere.mp hrow with ⟨row', hrow', halive, rfl⟩ | ⟨hrow', -⟩
    · rcases h.origin row' hrow' with ⟨old, hold, horigin⟩ | ⟨hid, hroot⟩
      · exact Or.inl ⟨old, hold, horigin.trans (hstanding row' hrow' halive)⟩
      · exact Or.inr ⟨(keeps row').1.symm ▸ hid, (keeps row').2.trans hroot⟩
    · exact h.origin row hrow'

theorem created (h : Unescalated before after) {row : UserRow} (hid : row.id = after.nextUserId)
    (hroot : row.isRoot = false) :
    Unescalated before
      { after with users := after.users ++ [row], nextUserId := after.nextUserId + 1 } := by
  refine { h with
    consistent := h.consistent.insertUser hid
    drawn := Int.le_trans h.drawn (Int.le_of_lt (Int.lt_succ _))
    kept := fun old hold => ?_
    origin := fun other hother => ?_ }
  · rcases h.kept old hold with ⟨row', hrow', hkept⟩
    exact ⟨row', List.mem_append_left _ hrow', hkept⟩
  · rcases List.mem_append.mp hother with hold | hnew
    · exact h.origin other hold
    · rw [List.mem_singleton.mp hnew]
      exact Or.inr ⟨hid ▸ h.drawn, hroot⟩

/-- One more request of an account that is not root. -/
theorem serve (h : Unescalated before after) {can : Ability} {requester : AuthenticatedUser}
    {request : Request} (hisRoot : requester.isRoot = false)
    (hrequester : before.NotRoot requester.id) :
    Unescalated before (request.serve can after requester).tables := by
  have heffect : NonRootEffect after (request.serve can after requester).tables :=
    Request.serve_effect h.consistent hisRoot (h.notRoot hrequester)
  generalize (request.serve can after requester).tables = tables at heffect ⊢
  cases heffect with
  | unchanged => exact h
  | updated targetUserId set keeps target => exact h.updated keeps target
  | created row hid hroot => exact h.created hid hroot

/-- The permissions of an account hang off tables that have not changed. -/
theorem grants (h : Unescalated before after) {userId : UserId} {tuple : PermissionTuple} :
    tuple ∈ after.getUserPermissions userId ↔ tuple ∈ before.getUserPermissions userId := by
  simp only [Tables.getUserPermissions, h.roles, h.permissions, h.userRoles, h.rolePermissions]

/-- No relation row names the id of a created account. -/
theorem getUserPermissions_created (h : Unescalated before after) (hbefore : before.Consistent)
    {userId : UserId} (hfresh : before.nextUserId ≤ userId) :
    after.getUserPermissions userId = [] := by
  refine List.eq_nil_iff_forall_not_mem.mpr fun tuple htuple => ?_
  rw [h.grants, Tables.mem_getUserPermissions] at htuple
  rcases htuple with ⟨roleId, permissionId, hmember, -⟩
  have hdrawn : userId < before.nextUserId := (hbefore.userRole_drawn _ hmember).1
  exact absurd hdrawn (Int.not_lt.mpr hfresh)

end Unescalated

/-- Requests of authenticated accounts, one after the other. -/
def apiMachine (can : Ability) : Machine Tables (AuthenticatedUser × Request) where
  initial t := t.Consistent
  step t a := some (a.2.serve can t a.1).tables

/-- Requests of accounts that are not root, whatever they may do, change no
account's `is_root`, no root account and no membership; nobody is granted more,
and an account they create is not root and is granted nothing. -/
theorem no_escalation (can : Ability) (d : Database)
    (requests : List (AuthenticatedUser × Request)) (final : Tables)
    (hrequesters : ∀ a ∈ requests, a.1.isRoot = false ∧ d.tables.NotRoot a.1.id)
    (hrun : (apiMachine can).run d.tables requests = some final) :
    (∀ row ∈ d.tables.users, ∃ row' ∈ final.users,
        row'.id = row.id ∧ row'.isRoot = row.isRoot ∧ (row.isRoot = true → row' = row)) ∧
      (final.users.map (·.id)).Nodup ∧
      final.userRoles = d.tables.userRoles ∧
      (∀ row ∈ d.tables.users, ∀ tuple, tuple ∈ final.getUserPermissions row.id →
        tuple ∈ d.tables.getUserPermissions row.id) ∧
      ∀ row ∈ final.users, (∀ old ∈ d.tables.users, old.id ≠ row.id) →
        row.isRoot = false ∧ final.getUserPermissions row.id = [] := by
  have hmeets : (apiMachine can).Meets
      (fun _ a => a.1.isRoot = false ∧ d.tables.NotRoot a.1.id) d.tables requests :=
    Machine.meets_of_forall_mem fun a ha _ => hrequesters a ha
  have hfinal : Unescalated d.tables final := by
    refine hmeets.invariant (fun {s a t} hs ha hstep => ?_) (.refl d.consistent) hrun
    exact Option.some.inj hstep ▸ hs.serve ha.1 ha.2
  refine ⟨fun row hrow => ?_, hfinal.consistent.user_keys, hfinal.userRoles,
    fun row _ tuple htuple => hfinal.grants.mp htuple, fun row hrow hnew => ?_⟩
  · rcases hfinal.kept row hrow with ⟨row', hrow', hkept⟩
    exact ⟨row', hrow', hkept.id, hkept.isRoot, hkept.root⟩
  · rcases hfinal.origin row hrow with ⟨old, hold, hstanding⟩ | ⟨hfresh, hroot⟩
    · exact absurd hstanding.id.symm (hnew old hold)
    · exact ⟨hroot, hfinal.getUserPermissions_created d.consistent hfresh⟩

/-- A root account, and an operator whose group holds every user permission. -/
def operatorDatabase : Database where
  tables :=
    { users :=
        [⟨1, "root", "secret", "admin", true, true, none, none, 0, none⟩,
          ⟨2, "operator", "hash", "operator", false, true, none, none, 0, none⟩]
      roles := [⟨1, "operators", none, 0, none⟩]
      permissions := [⟨1, "manage", "all", none, none⟩]
      userRoles := [(2, 1)]
      rolePermissions := [(1, 1)]
      nextUserId := 3
      nextRoleId := 2
      nextPermissionId := 2 }
  consistent := ⟨by decide, by decide, by decide, by decide, by decide, by decide⟩

def operator : AuthenticatedUser := ⟨2, "operator", [⟨"manage", "all"⟩], false⟩

/-- The operator tries the password of the root account, joins a second account
to its own group, and creates a third. -/
def operatorRequests : List (AuthenticatedUser × Request) :=
  [(operator, .setPassword (some 1) "stolen"),
    (operator, .create "third" "hash" none none 5),
    (operator, .assignRole (some 3) (some 1))]

/-- After them the root account has its password, and the new account is granted
nothing. -/
theorem no_escalation_operator :
    ∃ final, (apiMachine fun _ _ => true).run operatorDatabase.tables operatorRequests =
        some final ∧
      (∃ row' ∈ final.users, row'.id = 1 ∧ row'.passwordHash = "secret") ∧
      ∀ row ∈ final.users, row.id = 3 → row.isRoot = false ∧ final.getUserPermissions 3 = [] := by
  refine ⟨_, rfl, ?_, ?_⟩
  · obtain ⟨hkept, -⟩ := no_escalation (fun _ _ => true) operatorDatabase operatorRequests _
      (by decide) rfl
    rcases hkept ⟨1, "root", "secret", "admin", true, true, none, none, 0, none⟩ (by decide) with
      ⟨row', hrow', hid, -, hroot⟩
    exact ⟨row', hrow', hid, by rw [hroot rfl]⟩
  · obtain ⟨-, -, -, -, hcreated⟩ := no_escalation (fun _ _ => true) operatorDatabase
      operatorRequests _ (by decide) rfl
    intro row hrow hid
    rw [← hid]
    refine hcreated row hrow fun old hold heq => ?_
    rw [hid] at heq
    revert old
    decide

end Rbac
end R2RPC
