import Mathlib.Logic.Function.Basic
import R2RPC.Basic
import R2RPC.Cache.CacheAside

/-!
# Device tokens

Rows of {lit}`device_tokens` with their {lit}`device_token_projects`, the
administrative writes that go through {lit}`writeAndInvalidate`, and the check
that a connecting device must pass.

Main results:

- Definition {lit}`DeviceToken.findByToken`: the load behind the token cache.
- Definition {lit}`DeviceToken.validateForConnect`: what a cached row grants.
- Definition {lit}`DeviceToken.cacheService`: the instance of the cache-aside
  machine.

Current gaps:

- A cache key is the digest of the plaintext; tokens and digests are identified.
-/

namespace R2RPC
namespace DeviceToken

/-- A row of `device_tokens`, with the ids of its project rows. -/
structure DeviceTokenRow where
  status : TokenStatus
  projectIds : List ProjectId
  deleted : Bool
deriving DecidableEq, Repr

/-- The table, by token. -/
abbrev DeviceTokenTable := TokenId → Option DeviceTokenRow

/-- What the cache holds about a live token. -/
structure CachedDeviceToken where
  id : TokenId
  status : TokenStatus
  projectIds : List ProjectId
deriving DecidableEq, Repr

/-- `alive(deviceTokens, ...)`. -/
def aliveRow (table : DeviceTokenTable) (token : TokenId) : Option DeviceTokenRow :=
  (table token).filter fun row => !row.deleted

/-- Row and project ids of a live token. -/
def findByToken (table : DeviceTokenTable) (token : TokenId) : Option CachedDeviceToken :=
  (aliveRow table token).map fun row => ⟨token, row.status, row.projectIds⟩

/-- The scope granted to a connecting device, if its token is usable. -/
def validateForConnect (deviceTokenRecord : Option CachedDeviceToken) :
    Option (TokenId × List ProjectId) :=
  match deviceTokenRecord with
  | none => none
  | some record =>
      if record.status = .active then some (record.id, record.projectIds) else none

/-! ## Writes -/

/-- `revoke`: deleted rows are revoked as well; a missing row is `NotFoundException`. -/
def revoke (token : TokenId) (table : DeviceTokenTable) :
    Option (DeviceTokenTable × List TokenId) :=
  (table token).map fun row =>
    (Function.update table token (some { row with status := .revoked }), [token])

/-- `delete`: soft deletion of a live row. -/
def delete (token : TokenId) (table : DeviceTokenTable) :
    Option (DeviceTokenTable × List TokenId) :=
  (aliveRow table token).map fun row =>
    (Function.update table token (some { row with deleted := true }), [token])

/-- `updateProjects`: one transaction replaces the project rows of a live token. -/
def updateProjects (token : TokenId) (projectIds : List ProjectId) (table : DeviceTokenTable) :
    Option (DeviceTokenTable × List TokenId) :=
  (aliveRow table token).map fun row =>
    (Function.update table token (some { row with projectIds }), [token])

/-- Reads of the token cache; an absent row is cached as `null`. -/
def cacheService :
    CacheAside.Service DeviceTokenTable TokenId (Option CachedDeviceToken) where
  loadValue table token := some (findByToken table token)
  valueSchema _ := true

end DeviceToken
end R2RPC
