import Mathlib.Data.PNat.Notation
import Mathlib.Data.PNat.Defs
import Mathlib.Logic.Function.Basic
import R2RPC.Basic
import R2RPC.Cache.CacheAside

/-!
# Access tokens and the metered invocation

One row of {lit}`access_tokens` with its project rows, its cached copy, and the
calls of {lit}`/rpc/invoke` that present it: the guard reads the row through the
cache, and a metered call is admitted by {lit}`consumeInvocation`, a conditional
{lit}`UPDATE` followed on a miss by the {lit}`SELECT` of
{lit}`resolveUnconsumedToken`.  Every SQL statement and every Redis command is
one action; administrative writes interleave with them.

Main results:

- Definition {lit}`AccessToken.consumeUpdate`: the conditional {lit}`UPDATE`.
- Definition {lit}`AccessToken.resolveUnconsumedToken`: the decision on a miss.
- Definition {lit}`AccessToken.machine`: calls and administrative writes
  interleaved.

Current gaps:

- {lit}`monthlyUsageCount` is only displayed and is not modelled.
- The database clock and the clock of an API process are natural numbers; the
  latter is arbitrary at every reading.
-/

namespace R2RPC
namespace AccessToken

open Interleaving

/-- A moment, in the unit of the database clock. -/
abbrev Time := Nat

/-- Identity of one `/rpc/invoke` call. -/
abbrev InvocationId := Nat

/-- Identity of one administrative write. -/
abbrev WriterId := Nat

/-! ## Rows -/

/-- A row of `access_tokens`, with the ids of its project rows.  A limit is
positive by `access_tokens_maximum_usage_count_ck`. -/
structure AccessTokenRow where
  status : TokenStatus
  expiresAt : Option Time
  maximumUsageCount : Option ℕ+
  usageCount : Nat
  projectIds : List ProjectId
  deleted : Bool
deriving DecidableEq

/-- What the guard caches of a live row. -/
structure CachedToken where
  status : TokenStatus
  expiresAt : Option Time
  maximumUsageCount : Option ℕ+
  usageCount : Nat
  projectIds : List ProjectId
deriving DecidableEq

/-- An exception with its HTTP status. -/
structure HttpError where
  statusCode : Nat
  message : String
deriving DecidableEq, Repr

def invalidToken : HttpError := ⟨401, "无效 token"⟩
def tokenExpired : HttpError := ⟨401, "token 已过期"⟩
def tokenInactive : HttpError := ⟨403, "token 已停用/撤销"⟩
def usageExhausted : HttpError := ⟨429, "token 调用次数已用尽"⟩
def projectForbidden : HttpError := ⟨403, "token 无该 project 权限"⟩

/-- `usageCount >= maximumUsageCount` for a limited token. -/
def limitReached (maximumUsageCount : Option ℕ+) (usageCount : Nat) : Bool :=
  maximumUsageCount.any fun maximum => (maximum : Nat) ≤ usageCount

/-- `expiresAt < new Date()` for a token that expires. -/
def expiredBefore (expiresAt : Option Time) (clock : Time) : Bool :=
  expiresAt.any fun expiry => expiry < clock

/-- The row part of `findByToken`; the project ids are read by a second statement. -/
def findRow (row : AccessTokenRow) : Option CachedToken :=
  if row.deleted then none
  else some ⟨row.status, row.expiresAt, row.maximumUsageCount, row.usageCount, []⟩

/-! ## Decisions -/

/-- The guard's check of the cached row against the clock of its process. -/
def assertTokenIsUsable (cachedToken : Option CachedToken) (clock : Time) :
    Except HttpError CachedToken :=
  match cachedToken with
  | none => .error invalidToken
  | some token =>
      if expiredBefore token.expiresAt clock then .error tokenExpired
      else if token.status ≠ .active then .error tokenInactive
      else if limitReached token.maximumUsageCount token.usageCount then .error usageExhausted
      else .ok token

/-- The guard after its cache read: usable token, and a project of its scope. -/
def canActivate (cachedToken : Option CachedToken) (clock : Time)
    (projectId : Option ProjectId) : Except HttpError CachedToken :=
  match assertTokenIsUsable cachedToken clock with
  | .error error => .error error
  | .ok token =>
      match projectId with
      | none => .error projectForbidden
      | some id =>
          if id = 0 ∨ id ∉ token.projectIds then .error projectForbidden else .ok token

/-- The `UPDATE` of `consumeInvocation` at the database clock; `none` when its
`WHERE` clause matches no row. -/
def consumeUpdate (row : AccessTokenRow) (now : Time) : Option AccessTokenRow :=
  if row.deleted = false ∧ row.status = .active ∧
      limitReached row.maximumUsageCount row.usageCount = false ∧
      row.expiresAt.all (fun expiry => now < expiry) then
    some { row with
      usageCount :=
        if row.maximumUsageCount.isSome then row.usageCount + 1 else row.usageCount }
  else none

/-- The `SELECT` that decides about a row the `UPDATE` has missed. -/
def resolveUnconsumedToken (row : AccessTokenRow) (clock : Time) :
    Except HttpError AccessTokenRow :=
  if row.deleted then .error invalidToken
  else if row.status ≠ .active then .error tokenInactive
  else if expiredBefore row.expiresAt clock then .error tokenExpired
  else if limitReached row.maximumUsageCount row.usageCount then .error usageExhausted
  else .ok row

/-! ## Administrative writes -/

/-- The writes that an administrator makes through `writeAndInvalidate`.  A
missing field of an update is `undefined`, a `null` field is `some none`. -/
inductive AdminWrite where
  | resetUsage
  | update (expiresAt : Option (Option Time)) (maximumUsageCount : Option (Option ℕ+))
      (projectIds : Option (List ProjectId))
  | revoke
  | delete
deriving DecidableEq

/-- Effect of an administrative write; `none` is `NotFoundException`, or the
`BadRequestException` of an update without fields. -/
def AdminWrite.apply (row : AccessTokenRow) : AdminWrite → Option AccessTokenRow
  | .resetUsage => if row.deleted then none else some { row with usageCount := 0 }
  | .update expiresAt maximumUsageCount projectIds =>
      if row.deleted ∨
          (expiresAt.isNone ∧ maximumUsageCount.isNone ∧ projectIds.isNone) then none
      else
        some { row with
          expiresAt := expiresAt.getD row.expiresAt
          maximumUsageCount := maximumUsageCount.getD row.maximumUsageCount
          projectIds := projectIds.getD row.projectIds }
  | .revoke => some { row with status := .revoked }
  | .delete => if row.deleted then none else some { row with deleted := true }

/-! ## State -/

/-- The await at which an `/rpc/invoke` call stands. -/
inductive InvocationStage where
  | guard (stage : GetOrLoad (Option CachedToken))
  | loadProjects (token : CachedToken)
  | consume
  | resolve
  | invalidate
  | admitted
  | rejected (error : HttpError)
deriving DecidableEq

/-- The statement that admitted a metered invocation: the row before and after
it, and the database clock at which it ran. -/
structure Admission where
  before : AccessTokenRow
  after : AccessTokenRow
  now : Time
deriving DecidableEq

/-- The row, its cached copy, the calls in progress and the outstanding `DEL`s.
The last three fields record what has been admitted so far. -/
structure State where
  row : AccessTokenRow
  now : Time
  cache : Option (Option CachedToken)
  invocations : InvocationId → Option InvocationStage
  pendingDeletes : WriterId → Bool
  admissions : List Admission
  unmetered : Nat
  admittedSinceReset : Nat

/-- A token that has just been created. -/
def State.created (row : AccessTokenRow) (now : Time) : State where
  row := { row with usageCount := 0 }
  now
  cache := none
  invocations _ := none
  pendingDeletes _ := false
  admissions := []
  unmetered := 0
  admittedSinceReset := 0

/-- One statement, command or local decision. -/
inductive Action where
  | invoke (id : InvocationId)
  | getOrLoad (id : InvocationId)
  | authorize (id : InvocationId) (clock : Time) (projectId : Option ProjectId)
  | consumeUpdate (id : InvocationId)
  | resolveUnconsumedToken (id : InvocationId) (clock : Time)
  | invalidate (id : InvocationId)
  | administer (writer : WriterId) (write : AdminWrite)
  | invalidateWrite (writer : WriterId)
  | expire
  | tick (duration : Time)
deriving DecidableEq

namespace State

/-- Move an invocation to another await. -/
def setStage (s : State) (id : InvocationId) (stage : InvocationStage) : State :=
  { s with invocations := Function.update s.invocations id (some stage) }

/-- Record the statement that admits a metered invocation. -/
def recordAdmission (s : State) (id : InvocationId) (after : AccessTokenRow) : State :=
  { s.setStage id .invalidate with
    row := after
    admissions := s.admissions ++ [⟨s.row, after, s.now⟩]
    admittedSinceReset := s.admittedSinceReset + 1 }

/-- An invocation whose cached row has no limit skips the consumption. -/
def admitUnmetered (s : State) (id : InvocationId) : State :=
  { s.setStage id .admitted with
    unmetered := s.unmetered + 1
    admittedSinceReset := s.admittedSinceReset + 1 }

/-- One awaited command of the guard's `getOrLoad`. -/
def getOrLoad (s : State) (id : InvocationId) : Option State :=
  match s.invocations id with
  | some (.guard .get) =>
      some (s.setStage id (.guard (.afterGet (fun _ => true) s.cache)))
  | some (.guard .load) =>
      match findRow s.row with
      | none => some (s.setStage id (.guard (.set none)))
      | some token => some (s.setStage id (.loadProjects token))
  | some (.loadProjects token) =>
      some (s.setStage id (.guard (.set (some { token with projectIds := s.row.projectIds }))))
  | some (.guard (.set loadedToken)) =>
      some ({ s with cache := some loadedToken }.setStage id (.guard (.done loadedToken)))
  | _ => none

/-- The rest of the guard, and the controller's choice to consume or not. -/
def authorize (s : State) (id : InvocationId) (clock : Time) (projectId : Option ProjectId) :
    Option State :=
  match s.invocations id with
  | some (.guard (.done cachedToken)) =>
      match canActivate cachedToken clock projectId with
      | .error error => some (s.setStage id (.rejected error))
      | .ok token =>
          if token.maximumUsageCount.isSome then some (s.setStage id .consume)
          else some (s.admitUnmetered id)
  | _ => none

/-- The `UPDATE` of `consumeInvocation`. -/
def consume (s : State) (id : InvocationId) : Option State :=
  match s.invocations id with
  | some .consume =>
      match AccessToken.consumeUpdate s.row s.now with
      | some row => some (s.recordAdmission id row)
      | none => some (s.setStage id .resolve)
  | _ => none

/-- The `SELECT` of `resolveUnconsumedToken`, read against the process clock. -/
def resolve (s : State) (id : InvocationId) (clock : Time) : Option State :=
  match s.invocations id with
  | some .resolve =>
      match AccessToken.resolveUnconsumedToken s.row clock with
      | .ok row => some (s.recordAdmission id row)
      | .error error => some (s.setStage id (.rejected error))
  | _ => none

/-- The `DEL` after which `consumeInvocation` returns and the RPC is invoked. -/
def invalidate (s : State) (id : InvocationId) : Option State :=
  match s.invocations id with
  | some .invalidate => some ({ s with cache := none }.setStage id .admitted)
  | _ => none

/-- The statement or transaction of an administrative write. -/
def administer (s : State) (writer : WriterId) (write : AdminWrite) : Option State :=
  match s.pendingDeletes writer, write.apply s.row with
  | false, some row =>
      some { s with
        row
        pendingDeletes := Function.update s.pendingDeletes writer true
        admittedSinceReset := if write = .resetUsage then 0 else s.admittedSinceReset }
  | _, _ => none

end State

/-- Dispatch of an action to the function that runs it. -/
def step (s : State) : Action → Option State
  | .invoke id =>
      match s.invocations id with
      | none => some (s.setStage id (.guard .get))
      | some _ => none
  | .getOrLoad id => s.getOrLoad id
  | .authorize id clock projectId => s.authorize id clock projectId
  | .consumeUpdate id => s.consume id
  | .resolveUnconsumedToken id clock => s.resolve id clock
  | .invalidate id => s.invalidate id
  | .administer writer write => s.administer writer write
  | .invalidateWrite writer =>
      if s.pendingDeletes writer then
        some { s with
          cache := none
          pendingDeletes := Function.update s.pendingDeletes writer false }
      else none
  | .expire => some { s with cache := none }
  | .tick duration => some { s with now := s.now + duration }

/-- Invocations of one token, from its creation on. -/
def machine : Machine State Action where
  initial s := ∃ row now, s = State.created row now
  step := step

end AccessToken
end R2RPC
