import R2RPC.Rbac.Escalation
import R2RPC.Rbac.Invalidation

/-!
# Passwords, logins and tokens

How {lit}`AuthService` tells accounts apart by their passwords, and what the tokens that it
signs are good for while accounts are created, changed and deleted.

Main results:

- Definitions {lit}`hashPassword`, {lit}`verifyPassword`: the stored form of a password.
- Definition {lit}`accountMachine`: everything that happens to accounts and to tokens, in any
  order, with the passwords that were set as a ghost.
- Theorem {lit}`login_exact`: who gets a token.
- Theorem {lit}`token_exact`: what a token is good for from then on.

Current gaps:

- The digest is a parameter; the signature and the expiry of tokens are not modelled.
- The seeding script runs once, in front of everything else.
- A load through the cache is one step, and so is a write with its invalidation.
-/

namespace R2RPC
namespace Rbac

open Interleaving Relational

/-! ## Passwords -/

/-- `scryptSync(password, salt, 64)`. -/
structure Scrypt where
  digest : String → List UInt8 → List UInt8
  length_digest : ∀ password salt, (digest password salt).length = 64

/-- `randomBytes(16)`. -/
abbrev Salt := { bytes : List UInt8 // bytes.length = 16 }

/-- A hexadecimal digit. -/
def hexDigitChar (n : Nat) : Char := Char.ofNat (if n < 10 then 48 + n else 87 + n)

/-- `Buffer.toString('hex')`. -/
def hexText (bytes : List UInt8) : List Char :=
  bytes.flatMap fun byte => [hexDigitChar (byte.toNat / 16), hexDigitChar (byte.toNat % 16)]

/-- The value of a hexadecimal digit, in either case. -/
def hexDigitValue (c : Char) : Option Nat :=
  if '0' ≤ c ∧ c ≤ '9' then some (c.toNat - 48)
  else if 'a' ≤ c ∧ c ≤ 'f' then some (c.toNat - 87)
  else if 'A' ≤ c ∧ c ≤ 'F' then some (c.toNat - 55)
  else none

/-- `Buffer.from(text, 'hex')`: it ends in front of the first pair that is none. -/
def bytesOfHex : List Char → List UInt8
  | high :: low :: rest =>
      match hexDigitValue high, hexDigitValue low with
      | some high, some low => UInt8.ofNat (16 * high + low) :: bytesOfHex rest
      | _, _ => []
  | _ => []

section

variable (scrypt : Scrypt)

/-- `hashPassword`, with the salt that was drawn. -/
def hashPassword (salt : Salt) (password : String) : String :=
  String.ofList (List.intercalate ['$']
    ["scrypt".toList, hexText salt.1, hexText (scrypt.digest password salt.1)])

/-- `verifyPassword`. -/
def verifyPassword (password stored : String) : Bool :=
  match stored.toList.splitOn '$' with
  | scheme :: saltHex :: hashHex :: _ =>
      if scheme ≠ "scrypt".toList ∨ saltHex = [] ∨ hashHex = [] then false
      else scrypt.digest password (bytesOfHex saltHex) == bytesOfHex hashHex
  | _ => false

theorem hexDigitChar_spec {n : Nat} (h : n < 16) :
    hexDigitValue (hexDigitChar n) = some n ∧ hexDigitChar n ≠ '$' := by
  have hall : ∀ n : Fin 16, hexDigitValue (hexDigitChar n.val) = some n.val ∧
      hexDigitChar n.val ≠ '$' := by decide
  exact hall ⟨n, h⟩

/-- Bytes are read back from their digits. -/
theorem bytesOfHex_hexText (bytes : List UInt8) : bytesOfHex (hexText bytes) = bytes := by
  induction bytes with
  | nil => rfl
  | cons byte bytes ih =>
      have hlt := byte.toNat_lt
      have hbyte : UInt8.ofNat (16 * (byte.toNat / 16) + byte.toNat % 16) = byte := by
        rw [Nat.div_add_mod, UInt8.ofNat_toNat]
      rw [hexText] at ih ⊢
      rw [List.flatMap_cons, List.cons_append, List.cons_append, List.nil_append, bytesOfHex,
        (hexDigitChar_spec (show byte.toNat / 16 < 16 by omega)).1,
        (hexDigitChar_spec (show byte.toNat % 16 < 16 by omega)).1]
      simp only [hbyte, ih]

theorem dollar_notMem_hexText (bytes : List UInt8) : '$' ∉ hexText bytes := by
  intro hmem
  rcases List.mem_flatMap.mp hmem with ⟨byte, -, hmem⟩
  have hlt := byte.toNat_lt
  simp only [List.mem_cons, List.not_mem_nil, or_false] at hmem
  rcases hmem with h | h
  · exact (hexDigitChar_spec (show byte.toNat / 16 < 16 by omega)).2 h.symm
  · exact (hexDigitChar_spec (show byte.toNat % 16 < 16 by omega)).2 h.symm

theorem hexText_length (bytes : List UInt8) : (hexText bytes).length = 2 * bytes.length := by
  induction bytes with
  | nil => rfl
  | cons byte bytes ih =>
      rw [hexText] at ih ⊢
      rw [List.flatMap_cons, List.length_append, ih, List.length_cons]
      simp
      omega

/-- A password is accepted exactly when its digest is that of the password that was set. -/
theorem verifyPassword_hashPassword (salt : Salt) (password other : String) :
    verifyPassword scrypt other (hashPassword scrypt salt password) =
      (scrypt.digest other salt.1 == scrypt.digest password salt.1) := by
  have hparts : (hashPassword scrypt salt password).toList.splitOn '$' =
      ["scrypt".toList, hexText salt.1, hexText (scrypt.digest password salt.1)] := by
    rw [hashPassword, String.toList_ofList]
    refine List.splitOn_intercalate '$' ?_ (by simp)
    simp only [List.forall_mem_cons]
    exact ⟨by decide, dollar_notMem_hexText _, dollar_notMem_hexText _, by simp⟩
  have hsalt : hexText salt.1 ≠ [] := by
    rw [← List.length_pos_iff, hexText_length, salt.2]
    decide
  have hdigest : hexText (scrypt.digest password salt.1) ≠ [] := by
    rw [← List.length_pos_iff, hexText_length, scrypt.length_digest]
    decide
  rw [verifyPassword, hparts]
  simp only [hsalt, hdigest, ne_eq, not_true, or_false, if_false, bytesOfHex_hexText]

end

/-! ## Logins -/

def wrongCredentials : HttpException := ⟨401, "用户名或密码错误"⟩

/-- The answer of a login: the claims that are signed, and the account. -/
structure LoginAnswer where
  token : JwtPayload
  id : UserId
  username : String
  role : String
deriving DecidableEq, Repr

namespace Tables

/-- `alive(users, eq(users.username, username))`. -/
def named (t : Tables) (username : String) : List UserRow :=
  t.users.filter fun row => row.deletedAt.isNone && row.username == username

/-- `AuthService.login`. -/
def login (t : Tables) (scrypt : Scrypt) (username password : String) :
    Except HttpException LoginAnswer :=
  match t.named username with
  | [] => .error wrongCredentials
  | user :: _ =>
      if verifyPassword scrypt password user.passwordHash then
        if user.enabled then .ok ⟨⟨some user.id, user.username⟩, user.id, user.username, user.role⟩
        else .error accountDisabled
      else .error wrongCredentials

/-- `updateLastLogin`: deleted accounts are not spared. -/
def updateLastLogin (t : Tables) (userId : UserId) (now : Timestamp) : Tables :=
  { t with
    users := updateWhere (·.id == userId) (fun row => { row with lastLoginAt := some now }) t.users }

/-- The account of the seeding script: inserted unless its name is taken, which draws an id all
the same, and root in any case. -/
def seedAdmin (t : Tables) (scrypt : Scrypt) (username password : String) (salt : Salt)
    (now : Timestamp) : Tables :=
  let created : UserRow :=
    ⟨t.nextUserId, username, hashPassword scrypt salt password, "admin", true, true, none, none,
      now, none⟩
  { t with
    users := updateWhere (·.username == username) (fun row => { row with isRoot := true })
      (if t.usernameExists username then t.users else t.users ++ [created])
    nextUserId := t.nextUserId + 1 }

/-- The tables of a new installation. -/
def empty : Tables := ⟨[], [], [], [], [], 1, 1, 1⟩

end Tables

theorem Tables.consistent_empty : Tables.empty.Consistent := by
  constructor <;> simp [Tables.empty]

/-! ## Accounts over time -/

/-- The database with its cache, the password that was set last for each account with its salt,
and the tokens that were signed. -/
structure AccountState where
  authorization : AuthorizationState
  passwords : UserId → Option (String × Salt)
  issued : List JwtPayload

/-- What happens to accounts. -/
inductive AccountAction where
  | create (username password : String) (salt : Salt) (role description : Option String)
      (now : Timestamp)
  | setPassword (requesterUserId targetUserId : UserId) (password : String) (salt : Salt)
  | operate (operation : Operation)
  | login (username password : String)
  | updateLastLogin (userId : UserId) (now : Timestamp)
  | validate (payload : JwtPayload)
  | expire (userId : UserId)

/-- Passwords are set through `hashPassword` only. -/
def Operation.setsPassword : Operation → Bool
  | .setPassword .. => true
  | _ => false

theorem Tables.Consistent.createUser {t : Tables} (h : t.Consistent)
    (username passwordHash : String) (role description : Option String) (now : Timestamp) :
    (t.createUser username passwordHash role description now).tables.Consistent := by
  rw [Tables.createUser]
  split
  · exact h
  · exact h.insertUser rfl

theorem Tables.Consistent.updateLastLogin {t : Tables} (h : t.Consistent) (userId : UserId)
    (now : Timestamp) : (t.updateLastLogin userId now).Consistent :=
  h.updateUsers fun _ => rfl

/-- `nextval('users_id_seq')`. -/
theorem Tables.Consistent.drawUser {t : Tables} (h : t.Consistent) :
    Tables.Consistent { t with nextUserId := t.nextUserId + 1 } :=
  { h with
    user_drawn := fun row hrow => Int.lt_trans (h.user_drawn row hrow) (Int.lt_succ _)
    userRole_drawn := fun row hrow =>
      ⟨Int.lt_trans (h.userRole_drawn row hrow).1 (Int.lt_succ _), (h.userRole_drawn row hrow).2⟩ }

theorem Tables.Consistent.seedAdmin {t : Tables} (h : t.Consistent) (scrypt : Scrypt)
    (username password : String) (salt : Salt) (now : Timestamp) :
    (t.seedAdmin scrypt username password salt now).Consistent := by
  rw [Tables.seedAdmin]
  by_cases htaken : t.usernameExists username = true
  · rw [if_pos htaken]
    exact h.drawUser.updateUsers fun _ => rfl
  · rw [if_neg htaken]
    exact (h.insertUser rfl).updateUsers fun _ => rfl

namespace AccountState

variable (s : AccountState)

/-- The tables of now. -/
abbrev tables : Tables := s.authorization.database.tables

/-- Another state of the database, with the cache as it is. -/
def withTables (tables : Tables) (h : tables.Consistent) : AccountState :=
  { s with authorization := { s.authorization with database := ⟨tables, h⟩ } }

/-- The password of an account, where an answer says that it was set. -/
def remember (answer : Except HttpException Response) (userId : UserId) (password : String)
    (salt : Salt) : AccountState :=
  match answer with
  | .ok _ => { s with passwords := Function.update s.passwords userId (some (password, salt)) }
  | .error _ => s

/-- The new installation, with the account of the seeding script. -/
def seeded (scrypt : Scrypt) (username password : String) (salt : Salt) (now : Timestamp) :
    AccountState where
  authorization :=
    { database := ⟨_, Tables.consistent_empty.seedAdmin scrypt username password salt now⟩
      cached := fun _ => none }
  passwords := Function.update (fun _ => none) 1 (some (password, salt))
  issued := []

/-- One step. -/
def step (scrypt : Scrypt) : AccountAction → Option AccountState
  | .create username password salt role description now =>
      let hash := hashPassword scrypt salt password
      some ((s.withTables _ (s.authorization.database.consistent.createUser username hash role
        description now)).remember (s.tables.createUser username hash role description now).result
          s.tables.nextUserId password salt)
  | .setPassword requesterUserId targetUserId password salt =>
      let operation : Operation :=
        .setPassword requesterUserId targetUserId (hashPassword scrypt salt password)
      some (({ s with authorization := s.authorization.operate operation }).remember
        (operation.run s.tables).result targetUserId password salt)
  | .operate operation =>
      if operation.setsPassword then none
      else some { s with authorization := s.authorization.operate operation }
  | .login username password =>
      match s.tables.login scrypt username password with
      | .ok answer => some { s with issued := answer.token :: s.issued }
      | .error _ => some s
  | .updateLastLogin userId now =>
      some (s.withTables _ (s.authorization.database.consistent.updateLastLogin userId now))
  | .validate payload => some { s with authorization := (s.authorization.validate payload).2 }
  | .expire userId =>
      some
        { s with
          authorization :=
            { s.authorization with
              cached := Function.update s.authorization.cached userId none } }

end AccountState

/-- A new installation, and whatever happens to its accounts. -/
def accountMachine (scrypt : Scrypt) : Machine AccountState AccountAction where
  initial s := ∃ username password salt now,
    s = AccountState.seeded scrypt username password salt now
  step s := s.step scrypt

/-! ## What a step does to the accounts -/

/-- Accounts keep their ids and their names, and a deleted account stays deleted. -/
structure KeepsAccounts (set : UserRow → UserRow) : Prop where
  id : ∀ row, (set row).id = row.id
  username : ∀ row, (set row).username = row.username
  deleted : ∀ row, (set row).deletedAt = none → row.deletedAt = none

theorem KeepsAccounts.updateWhere {condition : UserRow → Bool} {set : UserRow → UserRow}
    (h : KeepsAccounts set) :
    KeepsAccounts fun row => if condition row then set row else row where
  id row := by
    split
    · exact h.id row
    · rfl
  username row := by
    split
    · exact h.username row
    · rfl
  deleted row hdeleted := by
    split at hdeleted
    · exact h.deleted row hdeleted
    · exact hdeleted

/-- The accounts behind a step, from those in front of it. -/
structure Tables.Rewrites (before after : Tables) (set : UserRow → UserRow) : Prop where
  users : after.users = before.users.map set
  nextUserId : after.nextUserId = before.nextUserId
  keeps : KeepsAccounts set

/-- A step that sets no password. -/
def Tables.Spares (before after : Tables) : Prop :=
  ∃ set, before.Rewrites after set ∧ ∀ row, (set row).passwordHash = row.passwordHash

namespace Tables

variable {t : Tables}

theorem spares_of_users {after : Tables} (husers : after.users = t.users)
    (hnext : after.nextUserId = t.nextUserId) : t.Spares after :=
  ⟨id, ⟨by rw [husers, List.map_id], hnext, ⟨fun _ => rfl, fun _ => rfl, fun _ => id⟩⟩, fun _ => rfl⟩

theorem spares_refl (t : Tables) : t.Spares t := spares_of_users rfl rfl

theorem spares_updateUser {targetUserId : UserId} {set : UserRow → UserRow}
    {answer : UserRow → Response} (hkeeps : KeepsAccounts set)
    (hhash : ∀ row, (set row).passwordHash = row.passwordHash) {response : Response}
    {tables : Tables} (hupdate : t.updateUser targetUserId set answer = .ok (response, tables)) :
    t.Spares tables := by
  unfold updateUser at hupdate
  split at hupdate
  · contradiction
  · rw [Except.ok.injEq, Prod.mk.injEq] at hupdate
    refine hupdate.2 ▸ ⟨_, ⟨rfl, rfl, hkeeps.updateWhere⟩, fun row => ?_⟩
    split
    · exact hhash row
    · rfl

/-- A write of other tables, if there is no error. -/
theorem spares_written {condition : Prop} [Decidable condition] {ids : List UserId}
    {response : Response} {after : Tables} {error : HttpException}
    (husers : after.users = t.users) (hnext : after.nextUserId = t.nextUserId) :
    t.Spares (t.writeAndInvalidate ids
      (if condition then .ok (response, after) else .error error)).tables := by
  split
  · exact spares_of_users husers hnext
  · exact t.spares_refl

end Tables

/-- Operations other than a change of a password spare the passwords. -/
theorem Operation.spares {operation : Operation} (hpassword : operation.setsPassword = false)
    (t : Tables) : t.Spares (operation.run t).tables := by
  have hself := t.spares_refl
  cases operation with
  | setPassword requesterUserId targetUserId passwordHash => cases hpassword
  | update requesterUserId targetUserId description =>
      refine Tables.guarded_tables hself (Tables.write_tables hself fun _ _ h => ?_)
      refine Tables.spares_updateUser ?_ ?_ h
      · exact ⟨fun _ => rfl, fun _ => rfl, fun _ => id⟩
      · exact fun _ => rfl
  | remove requesterUserId targetUserId now =>
      refine Tables.guarded_tables hself (Tables.writeAndInvalidate_tables hself fun _ _ h => ?_)
      refine Tables.spares_updateUser ?_ ?_ h
      · exact ⟨fun _ => rfl, fun _ => rfl, fun _ hnone => absurd hnone (Option.some_ne_none now)⟩
      · exact fun _ => rfl
  | setEnabled requesterUserId targetUserId enabled =>
      refine Tables.guarded_tables hself (Tables.writeAndInvalidate_tables hself fun _ _ h => ?_)
      refine Tables.spares_updateUser ?_ ?_ h
      · exact ⟨fun _ => rfl, fun _ => rfl, fun _ => id⟩
      · exact fun _ => rfl
  | createRole name description now =>
      rw [Operation.run, Tables.createRole]
      split <;> exact Tables.spares_of_users rfl rfl
  | updateRole roleId name description =>
      rw [Operation.run, Tables.updateRole]
      split
      · exact hself
      split
      · exact hself
      split
      · exact hself
      split
      · exact hself
      · exact Tables.spares_of_users rfl rfl
  | createPermission action subject description =>
      rw [Operation.run, Tables.createPermission]
      split <;> exact Tables.spares_of_users rfl rfl
  | deleteRole roleId now => exact Tables.spares_written rfl rfl
  | deletePermission permissionId now => exact Tables.spares_written rfl rfl
  | attachPermission roleId permissionId =>
      refine Tables.guarded_tables hself (Tables.guarded_tables hself ?_)
      rw [← ite_not]
      exact Tables.spares_written rfl rfl
  | detachPermission roleId permissionId => exact Tables.spares_written rfl rfl
  | assignRole requesterUserId targetUserId roleId =>
      refine Tables.guarded_tables hself (Tables.guarded_tables hself ?_)
      rw [← ite_not]
      exact Tables.spares_written rfl rfl
  | unassignRole requesterUserId targetUserId roleId =>
      exact Tables.guarded_tables hself (Tables.spares_written rfl rfl)

/-- A change of a password is refused, or the live account has the new one. -/
theorem Tables.setPassword_cases (t : Tables) (requesterUserId targetUserId : UserId)
    (hash : String) :
    (∃ error, (t.setPassword requesterUserId targetUserId hash).result = .error error ∧
      (t.setPassword requesterUserId targetUserId hash).tables = t) ∨
    ∃ response, (t.setPassword requesterUserId targetUserId hash).result = .ok response ∧
      (∃ row ∈ t.users, row.aliveWith targetUserId = true) ∧
      (t.setPassword requesterUserId targetUserId hash).tables =
        { t with
          users := updateWhere (·.aliveWith targetUserId)
            (fun row => { row with passwordHash := hash }) t.users } := by
  rw [Tables.setPassword]
  cases t.assertCanMutateUser requesterUserId targetUserId with
  | some error => exact .inl ⟨error, rfl, rfl⟩
  | none =>
      rw [Tables.guarded, Tables.updateUser]
      cases hrows : t.users.filter (·.aliveWith targetUserId) with
      | nil => exact .inl ⟨userNotFound, rfl, rfl⟩
      | cons row rows =>
          have hrow : row ∈ t.users.filter (·.aliveWith targetUserId) := by
            rw [hrows]
            exact List.mem_cons_self
          rw [List.mem_filter] at hrow
          exact .inr ⟨_, rfl, ⟨row, hrow⟩, rfl⟩

/-! ## Cached authorizations -/

/-- A step that leaves the loads of the accounts that are there. -/
theorem AuthorizationState.Fresh.of_sameLoad {s after : AuthorizationState} (h : s.Fresh)
    (hcached : after.cached = s.cached)
    (hload : ∀ userId snapshot, s.database.tables.loadSnapshot userId = .ok snapshot →
      Tables.SameLoad s.database.tables after.database.tables userId) : after.Fresh := by
  intro userId snapshot hsnapshot
  rw [hcached] at hsnapshot
  rcases h userId snapshot hsnapshot with ⟨old, hold, hagrees⟩
  rcases (hload userId old hold).loadSnapshot hold with ⟨fresh, hfresh, hroot, henabled, htuples⟩
  exact ⟨fresh, hfresh, hroot.trans hagrees.isRoot, henabled.trans hagrees.enabled,
    fun tuple => (htuples tuple).trans (hagrees.permissions tuple)⟩

/-- A load that fails is not cached. -/
theorem AuthorizationState.Fresh.getOrLoad_error {s : AuthorizationState} (h : s.Fresh)
    {userId : UserId} {error : HttpException}
    (hload : s.database.tables.loadSnapshot userId = .error error) :
    (s.getOrLoad userId).1 = .error error := by
  rw [AuthorizationState.getOrLoad]
  cases hcached : s.cached userId with
  | none => simp only [hload]
  | some snapshot =>
      rcases h userId snapshot hcached with ⟨fresh, hfresh, -⟩
      rw [hload] at hfresh
      cases hfresh

/-- Cached or not, an authorization agrees with the load of now. -/
theorem AuthorizationState.Fresh.getOrLoad_ok {s : AuthorizationState} (h : s.Fresh)
    {userId : UserId} {fresh : Tables.AuthorizationSnapshot}
    (hload : s.database.tables.loadSnapshot userId = .ok fresh) :
    ∃ snapshot, (s.getOrLoad userId).1 = .ok snapshot ∧ fresh.Agrees snapshot := by
  rw [AuthorizationState.getOrLoad]
  cases hcached : s.cached userId with
  | none =>
      simp only [hload]
      exact ⟨fresh, rfl, ⟨rfl, rfl, fun _ => Iff.rfl⟩⟩
  | some snapshot =>
      rcases h userId snapshot hcached with ⟨other, hother, hagrees⟩
      obtain rfl := Except.ok.inj (hload.symm.trans hother)
      exact ⟨snapshot, rfl, hagrees⟩

namespace Tables

variable {t : Tables}

/-- An account that is loaded is there. -/
theorem exists_of_loadSnapshot {userId : UserId} {snapshot : AuthorizationSnapshot}
    (h : t.loadSnapshot userId = .ok snapshot) :
    ∃ row ∈ t.users, row.aliveWith userId = true := by
  rw [loadSnapshot, findAuthUser] at h
  cases hrows : t.users.filter (·.aliveWith userId) with
  | nil =>
      rw [hrows] at h
      cases h
  | cons row rows =>
      have hrow : row ∈ t.users.filter (·.aliveWith userId) := by
        rw [hrows]
        exact List.mem_cons_self
      exact ⟨row, List.mem_filter.mp hrow⟩

theorem Consistent.sameLoad_createUser (h : t.Consistent) {row : UserRow}
    (hid : row.id = t.nextUserId) {userId : UserId} {snapshot : AuthorizationSnapshot}
    (hload : t.loadSnapshot userId = .ok snapshot) :
    SameLoad t { t with users := t.users ++ [row], nextUserId := t.nextUserId + 1 } userId := by
  refine ⟨?_, fun tuple => Iff.rfl⟩
  rcases exists_of_loadSnapshot hload with ⟨old, hold, halive⟩
  rw [UserRow.aliveWith, Bool.and_eq_true, beq_iff_eq] at halive
  have hother : row.aliveWith userId = false := by
    rw [UserRow.aliveWith, Bool.and_eq_false_iff, beq_eq_false_iff_ne]
    refine .inr fun heq => Int.ne_of_lt (h.user_drawn old hold) ?_
    rw [← hid, heq, halive.2]
  rw [findAuthUser, findAuthUser, List.filter_append, List.filter_singleton, hother]
  simp

theorem sameLoad_updateLastLogin (userId otherId : UserId) (now : Timestamp) :
    SameLoad t (t.updateLastLogin userId now) otherId := by
  refine ⟨?_, fun tuple => Iff.rfl⟩
  exact head_updateWhere (fun _ _ => rfl) fun _ _ _ => rfl

end Tables

/-- A request reads the tables. -/
theorem AuthorizationState.validate_database (s : AuthorizationState) (payload : JwtPayload) :
    (s.validate payload).2.database = s.database := by
  rw [AuthorizationState.validate]
  split
  · rfl
  split
  · rfl
  · rw [AuthorizationState.getOrLoad]
    split
    · rfl
    split <;> rfl

/-- A token is signed for an account that is there. -/
theorem Tables.mem_of_login {t : Tables} {scrypt : Scrypt} {username password : String}
    {answer : LoginAnswer} (h : t.login scrypt username password = .ok answer) :
    ∃ row ∈ t.users, answer.token = ⟨some row.id, row.username⟩ := by
  rw [Tables.login] at h
  split at h
  · cases h
  next row rows hrows =>
    have hrow : row ∈ t.named username := by
      rw [hrows]
      exact List.mem_cons_self
    split at h
    · split at h
      · exact ⟨row, (List.mem_filter.mp hrow).1, by rw [← Except.ok.inj h]⟩
      · cases h
    · cases h

/-! ## The invariant -/

namespace AccountState

/-- What holds of the accounts at any time. -/
structure Sound (scrypt : Scrypt) (s : AccountState) : Prop where
  fresh : s.authorization.Fresh
  positive : 1 ≤ s.tables.nextUserId ∧ ∀ row ∈ s.tables.users, 1 ≤ row.id
  names : ∀ row ∈ s.tables.users, ∀ other ∈ s.tables.users, row.deletedAt = none →
    other.deletedAt = none → row.username = other.username → row.id = other.id
  hashed : ∀ row ∈ s.tables.users, ∃ secret, s.passwords row.id = some secret ∧
    row.passwordHash = hashPassword scrypt secret.2 secret.1
  issued : ∀ payload ∈ s.issued, ∃ row ∈ s.tables.users, payload = ⟨some row.id, row.username⟩

namespace Sound

variable {scrypt : Scrypt} {s after : AccountState} (h : Sound scrypt s)
include h

/-- A step that rewrites accounts. -/
theorem rewrites (set : UserRow → UserRow) (hset : s.tables.Rewrites after.tables set)
    (hfresh : after.authorization.Fresh) (hissued : after.issued = s.issued)
    (hhashed : ∀ row ∈ s.tables.users, ∃ secret, after.passwords row.id = some secret ∧
      (set row).passwordHash = hashPassword scrypt secret.2 secret.1) : Sound scrypt after where
  fresh := hfresh
  positive := by
    rw [hset.users, hset.nextUserId]
    refine ⟨h.positive.1, fun row hrow => ?_⟩
    rcases List.mem_map.mp hrow with ⟨old, hold, rfl⟩
    rw [hset.keeps.id]
    exact h.positive.2 old hold
  names row hrow other hother halive halive' hname := by
    rw [hset.users] at hrow hother
    rcases List.mem_map.mp hrow with ⟨old, hold, rfl⟩
    rcases List.mem_map.mp hother with ⟨old', hold', rfl⟩
    rw [hset.keeps.username, hset.keeps.username] at hname
    rw [hset.keeps.id, hset.keeps.id]
    exact h.names old hold old' hold' (hset.keeps.deleted old halive)
      (hset.keeps.deleted old' halive') hname
  hashed row hrow := by
    rw [hset.users] at hrow
    rcases List.mem_map.mp hrow with ⟨old, hold, rfl⟩
    rw [hset.keeps.id]
    exact hhashed old hold
  issued payload hpayload := by
    rw [hissued] at hpayload
    rcases h.issued payload hpayload with ⟨row, hrow, rfl⟩
    refine ⟨set row, ?_, by rw [hset.keeps.id, hset.keeps.username]⟩
    rw [hset.users]
    exact List.mem_map_of_mem hrow

theorem spares (hspares : s.tables.Spares after.tables) (hfresh : after.authorization.Fresh)
    (hissued : after.issued = s.issued) (hpasswords : after.passwords = s.passwords) :
    Sound scrypt after := by
  rcases hspares with ⟨set, hset, hhash⟩
  refine h.rewrites set hset hfresh hissued fun row hrow => ?_
  rw [hpasswords, hhash]
  exact h.hashed row hrow

/-- A step that inserts an account under a name that is free. -/
theorem insert {row : UserRow} {secret : String × Salt} (hid : row.id = s.tables.nextUserId)
    (hname : s.tables.usernameExists row.username = false)
    (hhash : row.passwordHash = hashPassword scrypt secret.2 secret.1)
    (htables : after.tables = { s.tables with
      users := s.tables.users ++ [row], nextUserId := s.tables.nextUserId + 1 })
    (hcached : after.authorization.cached = s.authorization.cached)
    (hpasswords : after.passwords = Function.update s.passwords row.id (some secret))
    (hissued : after.issued = s.issued) : Sound scrypt after := by
  have hconsistent := s.authorization.database.consistent
  have husers : after.tables.users = s.tables.users ++ [row] := by rw [htables]
  have hpositive := h.positive
  refine ⟨?_, ?_, ?_, ?_, ?_⟩
  · refine h.fresh.of_sameLoad hcached fun userId snapshot hload => ?_
    change Tables.SameLoad s.tables after.tables userId
    rw [htables]
    exact hconsistent.sameLoad_createUser hid hload
  · rw [htables]
    refine ⟨Int.le_trans hpositive.1 (Int.le_of_lt (Int.lt_succ _)), fun other hother => ?_⟩
    rcases List.mem_append.mp hother with hold | hnew
    · exact hpositive.2 other hold
    · rw [List.mem_singleton.mp hnew, hid]
      exact hpositive.1
  · -- an old live account has another name
    have hfree : ∀ old ∈ s.tables.users, old.deletedAt = none → old.username ≠ row.username := by
      intro old hold halive heq
      have hnone := List.any_eq_false.mp hname old hold
      simp [halive, heq] at hnone
    rw [husers]
    intro first hfirst second hsecond hfirstAlive hsecondAlive heq
    rcases List.mem_append.mp hfirst with hfirst | hfirst <;>
      rcases List.mem_append.mp hsecond with hsecond | hsecond
    · exact h.names first hfirst second hsecond hfirstAlive hsecondAlive heq
    · rw [List.mem_singleton.mp hsecond] at heq
      exact absurd heq (hfree first hfirst hfirstAlive)
    · rw [List.mem_singleton.mp hfirst] at heq
      exact absurd heq.symm (hfree second hsecond hsecondAlive)
    · rw [List.mem_singleton.mp hfirst, List.mem_singleton.mp hsecond]
  · rw [husers, hpasswords]
    intro other hother
    rcases List.mem_append.mp hother with hold | hnew
    · rw [Function.update_of_ne (by
        rw [hid]
        exact Int.ne_of_lt (hconsistent.user_drawn other hold))]
      exact h.hashed other hold
    · rw [List.mem_singleton.mp hnew, Function.update_self]
      exact ⟨secret, rfl, hhash⟩
  · rw [hissued, husers]
    intro payload hpayload
    rcases h.issued payload hpayload with ⟨other, hother, rfl⟩
    exact ⟨other, List.mem_append_left _ hother, rfl⟩

/-- An account with a password. -/
theorem create {username password : String} {salt : Salt} {role description : Option String}
    {now : Timestamp} (hstep : s.step scrypt
      (.create username password salt role description now) = some after) :
    Sound scrypt after := by
  obtain rfl := Option.some.inj hstep
  cases htaken : s.tables.usernameExists username with
  | true =>
      have hrefused : s.tables.createUser username (hashPassword scrypt salt password) role
          description now = s.tables.refuse usernameTaken := by
        rw [Tables.createUser, if_pos htaken]
      simp only [hrefused]
      exact h
  | false =>
      simp only [Tables.createUser, if_neg (Bool.eq_false_iff.mp htaken)]
      exact h.insert rfl htaken rfl rfl rfl rfl rfl

/-- A new password, for the account that it is set for. -/
theorem setPassword {requesterUserId targetUserId : UserId} {password : String} {salt : Salt}
    (hstep : s.step scrypt (.setPassword requesterUserId targetUserId password salt) = some after) :
    Sound scrypt after := by
  obtain rfl := Option.some.inj hstep
  have hconsistent := s.authorization.database.consistent
  have hfresh := h.fresh.operate
    (.setPassword requesterUserId targetUserId (hashPassword scrypt salt password))
  rcases s.tables.setPassword_cases requesterUserId targetUserId (hashPassword scrypt salt password)
    with ⟨error, hresult, htables⟩ | ⟨response, hresult, ⟨target, htarget, halive⟩, htables⟩
  · simp only [Operation.run, hresult, remember]
    exact h.spares (Tables.spares_of_users (congrArg (·.users) htables)
      (congrArg (·.nextUserId) htables)) hfresh rfl rfl
  · simp only [Operation.run, hresult, remember]
    rw [UserRow.aliveWith, Bool.and_eq_true, beq_iff_eq] at halive
    refine h.rewrites (fun row => if row.aliveWith targetUserId then
      { row with passwordHash := hashPassword scrypt salt password } else row)
      ⟨congrArg (·.users) htables, congrArg (·.nextUserId) htables, ?_⟩ hfresh rfl
      fun row hrow => ?_
    · exact KeepsAccounts.updateWhere ⟨fun _ => rfl, fun _ => rfl, fun _ => id⟩
    · change ∃ secret, Function.update s.passwords targetUserId _ row.id = some secret ∧ _
      split
      next hmatch =>
        rw [UserRow.aliveWith, Bool.and_eq_true, beq_iff_eq] at hmatch
        exact ⟨(password, salt), by rw [hmatch.2, Function.update_self], rfl⟩
      next hmatch =>
        -- the live account is the only one with this id
        have hne : row.id ≠ targetUserId := by
          intro heq
          obtain rfl := hconsistent.user_unique hrow htarget (heq.trans halive.2.symm)
          exact hmatch (by simp [UserRow.aliveWith, halive])
        rw [Function.update_of_ne hne]
        exact h.hashed row hrow

theorem login {username password : String}
    (hstep : s.step scrypt (.login username password) = some after) : Sound scrypt after := by
  rw [AccountState.step] at hstep
  split at hstep
  next answer hanswer =>
    obtain rfl := Option.some.inj hstep
    rcases Tables.mem_of_login hanswer with ⟨row, hrow, htoken⟩
    refine { h with issued := fun payload hpayload => ?_ }
    rcases List.mem_cons.mp hpayload with rfl | hold
    · exact ⟨row, hrow, htoken⟩
    · exact h.issued payload hold
  next => exact Option.some.inj hstep ▸ h

/-- One step. -/
theorem step {action : AccountAction} (hstep : s.step scrypt action = some after) :
    Sound scrypt after := by
  cases action with
  | create username password salt role description now => exact h.create hstep
  | setPassword requesterUserId targetUserId password salt => exact h.setPassword hstep
  | login username password => exact h.login hstep
  | operate operation =>
      rw [AccountState.step] at hstep
      split at hstep
      · cases hstep
      next hpassword =>
        obtain rfl := Option.some.inj hstep
        exact h.spares (Operation.spares (Bool.eq_false_iff.mpr hpassword) s.tables)
          (h.fresh.operate operation) rfl rfl
  | updateLastLogin userId now =>
      obtain rfl := Option.some.inj hstep
      refine h.spares ⟨_, ⟨rfl, rfl, KeepsAccounts.updateWhere ?_⟩, fun row => ?_⟩ ?_ rfl rfl
      · exact ⟨fun _ => rfl, fun _ => rfl, fun _ => id⟩
      · split <;> rfl
      · exact h.fresh.of_sameLoad rfl fun otherId _ _ => Tables.sameLoad_updateLastLogin _ _ _
  | validate payload =>
      obtain rfl := Option.some.inj hstep
      have hsame := s.authorization.validate_database payload
      exact h.spares (Tables.spares_of_users (congrArg (·.tables.users) hsame)
        (congrArg (·.tables.nextUserId) hsame)) (h.fresh.validate payload) rfl rfl
  | expire userId =>
      obtain rfl := Option.some.inj hstep
      exact h.spares s.tables.spares_refl (h.fresh.expire userId) rfl rfl

end Sound

theorem sound_seeded (scrypt : Scrypt) (username password : String) (salt : Salt)
    (now : Timestamp) : Sound scrypt (seeded scrypt username password salt now) where
  fresh userId snapshot hcached := by cases hcached
  positive := by simp [seeded, Tables.seedAdmin, Tables.empty, Tables.usernameExists, updateWhere]
  names := by simp [seeded, Tables.seedAdmin, Tables.empty, Tables.usernameExists, updateWhere]
  hashed row hrow := by
    refine ⟨(password, salt), ?_, ?_⟩ <;>
      simp_all [seeded, Tables.seedAdmin, Tables.empty, Tables.usernameExists, updateWhere]
  issued payload hpayload := by cases hpayload

theorem sound_of_reachable {scrypt : Scrypt} {s : AccountState}
    (h : (accountMachine scrypt).Reachable s) : Sound scrypt s := by
  refine h.invariant (fun {s} hinit => ?_) (fun {s a t} hs hstep => ?_)
  · rcases hinit with ⟨username, password, salt, now, rfl⟩
    exact sound_seeded scrypt username password salt now
  · exact hs.step hstep

/-! ## Who gets a token -/

/-- The password that an account was given last has the digest of this one. -/
def Accepts (scrypt : Scrypt) (s : AccountState) (userId : UserId) (password : String) : Prop :=
  ∃ secret, s.passwords userId = some secret ∧
    scrypt.digest password secret.2.1 = scrypt.digest secret.1 secret.2.1

/-- A live account of this name. -/
def LiveAs (s : AccountState) (username : String) (row : UserRow) : Prop :=
  row ∈ s.tables.users ∧ row.deletedAt = none ∧ row.username = username

theorem mem_named {s : AccountState} {username : String} {row : UserRow} :
    row ∈ s.tables.named username ↔ s.LiveAs username row := by
  simp [Tables.named, LiveAs]

namespace Sound

variable {scrypt : Scrypt} {s : AccountState} (h : Sound scrypt s)
include h

theorem live_unique {username : String} {row other : UserRow} (hrow : s.LiveAs username row)
    (hother : s.LiveAs username other) : row = other := by
  refine s.authorization.database.consistent.user_unique hrow.1 hother.1 ?_
  exact h.names row hrow.1 other hother.1 hrow.2.1 hother.2.1 (hrow.2.2.trans hother.2.2.symm)

theorem verifyPassword_iff {row : UserRow} (hrow : row ∈ s.tables.users) (password : String) :
    verifyPassword scrypt password row.passwordHash = true ↔ Accepts scrypt s row.id password := by
  rcases h.hashed row hrow with ⟨secret, hsecret, hhash⟩
  rw [hhash, verifyPassword_hashPassword, beq_iff_eq, Accepts]
  constructor
  · exact fun hdigest => ⟨secret, hsecret, hdigest⟩
  · rintro ⟨other, hother, hdigest⟩
    obtain rfl := Option.some.inj (hsecret.symm.trans hother)
    exact hdigest

/-- A login, by the account of this name. -/
theorem login_cases (username password : String) :
    ((∀ row, ¬ s.LiveAs username row) ∧
        s.tables.login scrypt username password = .error wrongCredentials) ∨
      ∃ row, s.LiveAs username row ∧
        (Accepts scrypt s row.id password → row.enabled = true →
          s.tables.login scrypt username password =
            .ok ⟨⟨some row.id, row.username⟩, row.id, row.username, row.role⟩) ∧
        (Accepts scrypt s row.id password → row.enabled = false →
          s.tables.login scrypt username password = .error accountDisabled) ∧
        (¬ Accepts scrypt s row.id password →
          s.tables.login scrypt username password = .error wrongCredentials) := by
  rw [Tables.login]
  cases hnamed : s.tables.named username with
  | nil =>
      refine .inl ⟨fun row hrow => ?_, rfl⟩
      have hmem := mem_named.mpr hrow
      rw [hnamed] at hmem
      cases hmem
  | cons row rows =>
      have hrow : s.LiveAs username row := by
        rw [← mem_named, hnamed]
        exact List.mem_cons_self
      have hverify := h.verifyPassword_iff hrow.1 password
      dsimp only
      refine .inr ⟨row, hrow, fun haccepts henabled => ?_, fun haccepts henabled => ?_,
        fun hrefuses => ?_⟩
      · rw [if_pos (hverify.mpr haccepts), if_pos henabled]
      · rw [if_pos (hverify.mpr haccepts), if_neg (Bool.eq_false_iff.mp henabled)]
      · rw [if_neg fun htrue => hrefuses (hverify.mp htrue)]

end Sound

end AccountState

/-- Whatever happened to the accounts: a login is answered with a token exactly when it names a
live, enabled account and gives the password that was set for it last, by its digest; the token is
for this account. A disabled account is told apart from a wrong password only by who knows the
password, and a name without an account from neither. -/
theorem login_exact {scrypt : Scrypt} {s : AccountState}
    (h : (accountMachine scrypt).Reachable s) (username password : String) :
    (∀ answer, s.tables.login scrypt username password = .ok answer ↔
      ∃ row, s.LiveAs username row ∧ s.Accepts scrypt row.id password ∧ row.enabled = true ∧
        answer = ⟨⟨some row.id, username⟩, row.id, username, row.role⟩) ∧
    (s.tables.login scrypt username password = .error accountDisabled ↔
      ∃ row, s.LiveAs username row ∧ s.Accepts scrypt row.id password ∧ row.enabled = false) ∧
    (s.tables.login scrypt username password = .error wrongCredentials ↔
      ∀ row, s.LiveAs username row → ¬ s.Accepts scrypt row.id password) := by
  have hsound := AccountState.sound_of_reachable h
  have hdifferent : wrongCredentials ≠ accountDisabled := by decide
  rcases hsound.login_cases username password with
    ⟨hnone, hlogin⟩ | ⟨row, hrow, haccepted, hdisabled, hrefused⟩
  · rw [hlogin]
    simp [hnone, hdifferent]
  · -- every live account of this name is this row
    have hexists : ∀ P : UserRow → Prop, (∃ other, s.LiveAs username other ∧ P other) ↔ P row := by
      intro P
      constructor
      · rintro ⟨other, hother, hP⟩
        exact hsound.live_unique hother hrow ▸ hP
      · exact fun hP => ⟨row, hrow, hP⟩
    have hforall : (∀ other, s.LiveAs username other → ¬ s.Accepts scrypt other.id password) ↔
        ¬ s.Accepts scrypt row.id password := by
      rw [← not_iff_not]
      simp only [not_forall, not_not, exists_prop]
      exact hexists fun other => s.Accepts scrypt other.id password
    simp only [hexists, hforall]
    by_cases haccepts : s.Accepts scrypt row.id password
    · cases henabled : row.enabled with
      | true =>
          rw [haccepted haccepts henabled, hrow.2.2]
          simp [haccepts, eq_comm]
      | false =>
          rw [hdisabled haccepts henabled]
          simp [haccepts, hdifferent.symm]
    · rw [hrefused haccepts]
      simp [haccepts, hdifferent]

/-- The digests of two passwords under one salt. -/
def knownScrypt : Scrypt where
  digest password salt :=
    if salt = (List.range' 1 16).map UInt8.ofNat then
      if password = "administrator" then
        [174, 118, 87, 132, 223, 154, 186, 213, 7, 237, 84, 127, 241, 198, 81, 24, 146, 242, 253,
          254, 224, 151, 197, 132, 62, 36, 221, 143, 143, 255, 98, 132, 138, 109, 123, 212, 110,
          174, 197, 200, 110, 162, 106, 92, 50, 72, 150, 209, 0, 248, 154, 204, 118, 20, 18, 75,
          119, 167, 253, 43, 252, 29, 26, 187]
      else if password = "administrators" then
        [170, 185, 52, 235, 184, 74, 229, 125, 231, 251, 26, 225, 211, 29, 163, 5, 26, 127, 88,
          207, 75, 124, 48, 134, 58, 216, 227, 32, 205, 7, 12, 18, 245, 117, 79, 247, 166, 219, 55,
          93, 150, 245, 6, 184, 238, 65, 141, 9, 238, 112, 33, 78, 193, 174, 118, 69, 17, 78, 133,
          25, 250, 47, 125, 110]
      else List.replicate 64 0
    else List.replicate 64 0
  length_digest password salt := by
    split
    · split
      · rfl
      split
      · rfl
      · exact List.length_replicate
    · exact List.length_replicate

def knownSalt : Salt := ⟨(List.range' 1 16).map UInt8.ofNat, by decide⟩

/-- The account of the seeding script. -/
def seededAdmin : UserRow :=
  ⟨1, "admin", hashPassword knownScrypt knownSalt "administrator", "admin", true, true, none, none,
    0, none⟩

def seededState : AccountState :=
  AccountState.seeded knownScrypt "admin" "administrator" knownSalt 0

theorem reachable_seededState : (accountMachine knownScrypt).Reachable seededState :=
  Machine.Reachable.initial ⟨"admin", "administrator", knownSalt, 0, rfl⟩

theorem liveAs_seededState (row : UserRow) :
    seededState.LiveAs "admin" row ↔ row = seededAdmin := by
  simp only [AccountState.LiveAs, seededState, AccountState.seeded, AccountState.tables,
    Tables.seedAdmin, Tables.empty, Tables.usernameExists, updateWhere]
  constructor
  · intro h
    simpa [seededAdmin] using h.1
  · rintro rfl
    simp [seededAdmin]

/-- The password of the script logs in, another one does not. -/
theorem login_exact_seeded :
    seededState.tables.login knownScrypt "admin" "administrator" =
        .ok ⟨⟨some 1, "admin"⟩, 1, "admin", "admin"⟩ ∧
      seededState.tables.login knownScrypt "admin" "administrators" = .error wrongCredentials := by
  constructor
  · refine ((login_exact reachable_seededState "admin" "administrator").1 _).mpr ?_
    exact ⟨seededAdmin, (liveAs_seededState _).mpr rfl, ⟨_, rfl, rfl⟩, rfl, rfl⟩
  · refine (login_exact reachable_seededState "admin" "administrators").2.2.mpr ?_
    intro row hrow
    rw [liveAs_seededState] at hrow
    rintro ⟨secret, hsecret, hdigest⟩
    rw [hrow] at hsecret
    obtain rfl := Option.some.inj hsecret
    revert hdigest
    decide

/-! ## What a token is good for -/

/-- The load of an account that is there. -/
theorem Tables.Consistent.loadSnapshot_eq {t : Tables} (h : t.Consistent) {row : UserRow}
    (hrow : row ∈ t.users) :
    t.loadSnapshot row.id =
      if row.deletedAt = none then
        if row.enabled then .ok ⟨row.isRoot, true, t.getUserPermissions row.id⟩
        else .error accountDisabled
      else .error accountGone := by
  have hsame : ∀ other ∈ t.users.filter (·.aliveWith row.id), other = row ∧
      row.deletedAt = none := by
    intro other hother
    rcases List.mem_filter.mp hother with ⟨hother, halive⟩
    rw [UserRow.aliveWith, Bool.and_eq_true, beq_iff_eq, Option.isNone_iff_eq_none] at halive
    obtain rfl := h.user_unique hother hrow halive.2
    exact ⟨rfl, halive.1⟩
  rw [Tables.loadSnapshot, Tables.findAuthUser]
  cases hrows : t.users.filter (·.aliveWith row.id) with
  | nil =>
      have hdeleted : row.deletedAt ≠ none := by
        intro hnone
        have hmem : row ∈ t.users.filter (·.aliveWith row.id) := by
          rw [List.mem_filter]
          exact ⟨hrow, by simp [UserRow.aliveWith, hnone]⟩
        rw [hrows] at hmem
        cases hmem
      rw [if_neg hdeleted]
      rfl
  | cons other others =>
      have hother := hsame other (by rw [hrows]; exact List.mem_cons_self)
      rw [if_pos hother.2, hother.1]
      cases henabled : row.enabled <;> simp [henabled]

/-- Whatever happened since a token was signed: it stands for the account that logged in and for no
other, though its name be given to another account. It is refused once the account is deleted, and
while it is disabled; otherwise it carries what the account may do now, cached or not. -/
theorem token_exact {scrypt : Scrypt} {s : AccountState}
    (h : (accountMachine scrypt).Reachable s) {payload : JwtPayload} (hissued : payload ∈ s.issued) :
    ∃ row ∈ s.tables.users, payload = ⟨some row.id, row.username⟩ ∧
      (row.deletedAt ≠ none → (s.authorization.validate payload).1 = .error accountGone) ∧
      (row.deletedAt = none → row.enabled = false →
        (s.authorization.validate payload).1 = .error accountDisabled) ∧
      (row.deletedAt = none → row.enabled = true →
        ∃ user, (s.authorization.validate payload).1 = .ok user ∧ user.id = row.id ∧
          user.username = row.username ∧ user.isRoot = row.isRoot ∧
          ∀ tuple, tuple ∈ user.permissions ↔ tuple ∈ s.tables.getUserPermissions row.id) := by
  have hsound := AccountState.sound_of_reachable h
  rcases hsound.issued payload hissued with ⟨row, hrow, rfl⟩
  have hload := s.authorization.database.consistent.loadSnapshot_eq hrow
  have hpositive : ¬ row.id < 1 := Int.not_lt.mpr (hsound.positive.2 row hrow)
  have hvalidate : (s.authorization.validate ⟨some row.id, row.username⟩).1 =
      (s.authorization.getOrLoad row.id).1.bind
        (buildAuthenticatedUser row.id ⟨some row.id, row.username⟩) := by
    rw [AuthorizationState.validate]
    simp only [if_neg hpositive]
  refine ⟨row, hrow, rfl, ?_, ?_, ?_⟩
  · intro hdeleted
    rw [if_neg hdeleted] at hload
    rw [hvalidate, hsound.fresh.getOrLoad_error hload]
    rfl
  · intro halive hdisabled
    rw [if_pos halive, if_neg (Bool.eq_false_iff.mp hdisabled)] at hload
    rw [hvalidate, hsound.fresh.getOrLoad_error hload]
    rfl
  · intro halive henabled
    rw [if_pos halive, if_pos henabled] at hload
    rcases hsound.fresh.getOrLoad_ok hload with ⟨snapshot, hsnapshot, hagrees⟩
    have hsnapshotEnabled : snapshot.enabled = true := hagrees.enabled.symm
    refine ⟨⟨row.id, row.username, snapshot.permissions, snapshot.isRoot⟩, ?_, rfl, rfl,
      hagrees.isRoot.symm, fun tuple => (hagrees.permissions tuple).symm⟩
    rw [hvalidate, hsnapshot, Except.bind, buildAuthenticatedUser, if_pos hsnapshotEnabled]

theorem AccountState.step_login {scrypt : Scrypt} {s : AccountState} {username password : String}
    {answer : LoginAnswer} (h : s.tables.login scrypt username password = .ok answer) :
    s.step scrypt (.login username password) =
      some { s with issued := answer.token :: s.issued } := by
  rw [AccountState.step, h]

/-- The account logs in, and is disabled. -/
def disabledState : AccountState :=
  { seededState with
    authorization := seededState.authorization.operate (.setEnabled 1 1 false)
    issued := [⟨some 1, "admin"⟩] }

theorem reachable_disabledState : (accountMachine knownScrypt).Reachable disabledState := by
  have hlogin : seededState.tables.login knownScrypt "admin" "administrator" =
      .ok ⟨⟨some 1, "admin"⟩, 1, "admin", "admin"⟩ := by
    rcases (AccountState.sound_of_reachable reachable_seededState).login_cases "admin"
      "administrator" with ⟨hnone, -⟩ | ⟨row, hrow, haccepted, -⟩
    · exact absurd ((liveAs_seededState _).mpr rfl) (hnone seededAdmin)
    · rw [liveAs_seededState] at hrow
      subst hrow
      exact haccepted ⟨_, rfl, rfl⟩ rfl
  have hfirst : seededState.step knownScrypt (.login "admin" "administrator") =
      some { seededState with issued := [⟨some 1, "admin"⟩] } := AccountState.step_login hlogin
  have hsecond : AccountState.step { seededState with issued := [⟨some 1, "admin"⟩] } knownScrypt
      (.operate (.setEnabled 1 1 false)) = some disabledState := by
    rw [AccountState.step, if_neg (by decide)]
    rfl
  have hstep (s : AccountState) (action : AccountAction) :
      (accountMachine knownScrypt).step s action = s.step knownScrypt action := rfl
  have hrun : (accountMachine knownScrypt).run seededState [.login "admin" "administrator",
      .operate (.setEnabled 1 1 false)] = some disabledState := by
    rw [Machine.run_cons_eq_some, hstep, hfirst]
    refine ⟨_, rfl, ?_⟩
    rw [Machine.run_cons_eq_some, hstep, hsecond]
    exact ⟨_, rfl, rfl⟩
  exact reachable_seededState.run hrun

/-- The token is refused from then on. -/
theorem token_exact_disabled :
    (disabledState.authorization.validate ⟨some 1, "admin"⟩).1 = .error accountDisabled := by
  have husers : disabledState.tables.users = [{ seededAdmin with enabled := false }] := rfl
  have hissued : (⟨some 1, "admin"⟩ : JwtPayload) ∈ disabledState.issued := List.mem_cons_self
  rcases token_exact reachable_disabledState hissued with ⟨row, hrow, -, -, hdisabled, -⟩
  rw [husers, List.mem_singleton] at hrow
  subst hrow
  exact hdisabled rfl rfl

end Rbac
end R2RPC
