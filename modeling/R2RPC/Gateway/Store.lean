import R2RPC.DeviceToken.Service

/-!
# The shared stores of the gateway

The Redis keys that {lit}`PresenceService` and {lit}`ConnectionRegistry` share
between the API instances, and the tables of devices and device tokens.  Every
command is a function of the whole store under the name the source gives to the
operation it belongs to.

Main results:

- Definition {lit}`clampMaxInFlight`: the declared capacity of a device.
- Definition {lit}`ClientDevices`: the rows of one client id, with at most one
  alive row by construction.
- Structure {lit}`Store`: Redis and PostgreSQL, with one function per command.

Current gaps:

- TTLs are over-approximated: a key that has one may expire at any moment, and
  {lit}`EXPIRE` has no effect on the value.
-/

namespace R2RPC
namespace Gateway

open DeviceToken

/-! ## Capacity -/

def defaultInFlightCapacity : Nat := 16
def minimumInFlightCapacity : Nat := 1
def maximumInFlightCapacity : Nat := 1024

/-- The argument of `clampMaxInFlight` after `Number(...)`: absent or empty, an
integer, or any other number (`NaN`, infinite, fractional). -/
inductive ReportedMaximum where
  | missing
  | integer (value : Int)
  | other
deriving DecidableEq, Repr

/-- `PresenceService.clampMaxInFlight`. -/
def clampMaxInFlight : ReportedMaximum → Nat
  | .missing => defaultInFlightCapacity
  | .integer value =>
      if value < minimumInFlightCapacity then defaultInFlightCapacity
      else min maximumInFlightCapacity value.toNat
  | .other => defaultInFlightCapacity

/-- The stored text of `device:maxinflight:<id>`, read back as a number. -/
def storedMaximum : Option Nat → ReportedMaximum
  | none => .missing
  | some value => .integer value

/-! ## Device rows -/

/-- Primary key of a row of `devices`. -/
abbrev DeviceId := Nat

/-- `status` of a device row. -/
inductive DeviceStatus where
  | online
  | offline
  | stale
deriving DecidableEq, Repr

/-- What a device reports when it connects. -/
structure DeviceMeta where
  platform : Option String
  lastIp : Option String
  extra : Option String
  maxInFlight : Nat
deriving DecidableEq, Repr

/-- A row of `devices`. -/
structure DeviceRow where
  id : DeviceId
  deviceTokenId : TokenId
  online : Bool
  status : DeviceStatus
  platform : Option String
  lastIp : Option String
  extra : Option String
  maxInFlight : Nat
deriving DecidableEq, Repr

/-- The rows of one client id.  The partial unique index allows one alive row;
the soft-deleted ones are listed by descending id. -/
structure ClientDevices where
  alive : Option DeviceRow
  deleted : List DeviceRow
  nextId : DeviceId
deriving DecidableEq, Repr

/-- The first statement of `registerOnline`: the alive row, else the newest
soft-deleted one, with the flag that it has to be revived. -/
def ClientDevices.selectExisting (devices : ClientDevices) : Option (DeviceId × Bool) :=
  match devices.alive with
  | some row => some (row.id, false)
  | none => devices.deleted.head?.map fun row => (row.id, true)

/-- The patch of `registerOnline`; a missing platform or extra keeps the old one. -/
def DeviceRow.patch (row : DeviceRow) (deviceTokenId : TokenId) (metadata : DeviceMeta) :
    DeviceRow :=
  { row with
    deviceTokenId
    online := true
    status := .online
    platform := metadata.platform.or row.platform
    lastIp := metadata.lastIp
    extra := metadata.extra.or row.extra
    maxInFlight := metadata.maxInFlight }

/-- The row that `registerOnline` inserts. -/
def DeviceRow.fresh (id : DeviceId) (deviceTokenId : TokenId) (metadata : DeviceMeta) :
    DeviceRow :=
  ⟨id, deviceTokenId, true, .online, metadata.platform, metadata.lastIp, metadata.extra,
    metadata.maxInFlight⟩

/-- The second statement of `registerOnline`; `none` is a violation of the
partial unique index. -/
def ClientDevices.writeDevice (devices : ClientDevices) (existing : Option (DeviceId × Bool))
    (deviceTokenId : TokenId) (metadata : DeviceMeta) : Option ClientDevices :=
  let patched := fun row : DeviceRow => row.patch deviceTokenId metadata
  match existing, devices.alive with
  | none, some _ => none
  | none, none =>
      some { devices with
        alive := some (.fresh devices.nextId deviceTokenId metadata)
        nextId := devices.nextId + 1 }
  | some (id, revived), some row =>
      if row.id = id then some { devices with alive := some (patched row) }
      else if revived ∧ devices.deleted.any (·.id = id) then none
      else some { devices with
        deleted := devices.deleted.map fun row => if row.id = id then patched row else row }
  | some (id, revived), none =>
      match revived, devices.deleted.find? (·.id = id) with
      | true, some row =>
          some { devices with
            alive := some (patched row)
            deleted := devices.deleted.filter (·.id ≠ id) }
      | _, _ =>
          some { devices with
            deleted := devices.deleted.map fun row => if row.id = id then patched row else row }

/-- `markOffline`. -/
def ClientDevices.markOffline (devices : ClientDevices) : ClientDevices :=
  { devices with
    alive := devices.alive.map fun row => { row with online := false, status := .offline } }

/-- Going offline changes no id. -/
@[simp]
theorem ClientDevices.selectExisting_markOffline (devices : ClientDevices) :
    devices.markOffline.selectExisting = devices.selectExisting := by
  unfold selectExisting markOffline
  cases devices.alive <;> rfl

/-- `registerOnline` alone never violates the partial unique index. -/
theorem ClientDevices.writeDevice_isSome (devices : ClientDevices) (deviceTokenId : TokenId)
    (metadata : DeviceMeta) :
    (devices.writeDevice devices.selectExisting deviceTokenId metadata).isSome = true := by
  unfold selectExisting writeDevice
  cases halive : devices.alive with
  | some row => simp
  | none => cases hdeleted : devices.deleted <;> simp

/-- After `registerOnline` has written an alive row, that row is online. -/
theorem ClientDevices.writeDevice_online {devices written : ClientDevices}
    {deviceTokenId : TokenId} {metadata : DeviceMeta}
    (h : devices.writeDevice devices.selectExisting deviceTokenId metadata = some written) :
    ∃ row, written.alive = some row ∧ row.online = true := by
  unfold selectExisting writeDevice at h
  cases halive : devices.alive with
  | some row =>
      simp only [halive, if_true, Option.some.injEq] at h
      rw [← h]
      exact ⟨_, rfl, rfl⟩
  | none =>
      cases hdeleted : devices.deleted with
      | nil =>
          simp only [halive, hdeleted, List.head?_nil, Option.map_none, Option.some.injEq] at h
          rw [← h]
          exact ⟨_, rfl, rfl⟩
      | cons row rows =>
          simp only [halive, hdeleted, List.head?_cons, Option.map_some, decide_true,
            List.find?_cons_of_pos, Option.some.injEq] at h
          rw [← h]
          exact ⟨_, rfl, rfl⟩

/-! ## The store -/

/-- Redis keys and tables, by client id, project id or token. -/
structure Store where
  session : ClientId → Option SessionToken
  presence : ClientId → Option (List ProjectId)
  members : ProjectId → List ClientId
  maxInFlight : ClientId → Option Nat
  inFlight : ClientId → Option Int
  cursor : ProjectId → Nat
  tokenCache : TokenId → Option (Option CachedDeviceToken)
  deviceTokens : DeviceTokenTable
  devices : ClientId → ClientDevices

/-- Redis is empty; the tables hold what earlier runs have left. -/
def Store.start (deviceTokens : DeviceTokenTable) (devices : ClientId → ClientDevices) :
    Store where
  session _ := none
  presence _ := none
  members _ := []
  maxInFlight _ := none
  inFlight _ := none
  cursor _ := 0
  tokenCache _ := none
  deviceTokens
  devices

namespace Store

variable (store : Store)

/-- `SET ws:devtoken:<digest>`. -/
def setTokenCache (token : TokenId) (record : Option CachedDeviceToken) : Store :=
  { store with tokenCache := Function.update store.tokenCache token (some record) }

/-- `DEL ws:devtoken:<digest>`. -/
def delTokenCache (token : TokenId) : Store :=
  { store with tokenCache := Function.update store.tokenCache token none }

/-- `SET client:session:<id>` of `register`. -/
def setSession (clientId : ClientId) (sessionToken : SessionToken) : Store :=
  { store with session := Function.update store.session clientId (some sessionToken) }

/-- `COMPARE_AND_DELETE_SCRIPT` answers 1: no session, or the caller's own. -/
def ownsSession (clientId : ClientId) (sessionToken : SessionToken) : Bool :=
  (store.session clientId).all (· = sessionToken)

/-- `COMPARE_AND_DELETE_SCRIPT`. -/
def compareAndDelete (clientId : ClientId) (sessionToken : SessionToken) : Store :=
  if store.ownsSession clientId sessionToken then
    { store with session := Function.update store.session clientId none }
  else store

/-- `SET presence:<id>` of `online`. -/
def setPresence (clientId : ClientId) (projectIds : List ProjectId) : Store :=
  { store with presence := Function.update store.presence clientId (some projectIds) }

/-- `DEL presence:<id>`. -/
def delPresence (clientId : ClientId) : Store :=
  { store with presence := Function.update store.presence clientId none }

/-- `SADD project:clients:<project>`. -/
def sadd (projectId : ProjectId) (clientId : ClientId) : Store :=
  { store with
    members := Function.update store.members projectId
      (if clientId ∈ store.members projectId then store.members projectId
        else store.members projectId ++ [clientId]) }

/-- `SREM project:clients:<project>`. -/
def srem (projectId : ProjectId) (clientId : ClientId) : Store :=
  { store with
    members := Function.update store.members projectId
      ((store.members projectId).filter (· ≠ clientId)) }

/-- `setMaxInFlight`. -/
def setMaxInFlight (clientId : ClientId) (maximumInFlight : Nat) : Store :=
  { store with maxInFlight := Function.update store.maxInFlight clientId (some maximumInFlight) }

/-- `DEL device:maxinflight:<id>`. -/
def delMaxInFlight (clientId : ClientId) : Store :=
  { store with maxInFlight := Function.update store.maxInFlight clientId none }

/-- `getMaxInFlight`. -/
def getMaxInFlight (clientId : ClientId) : Nat :=
  clampMaxInFlight (storedMaximum (store.maxInFlight clientId))

/-- `resetInFlight`, also the third `DEL` of `offline`. -/
def resetInFlight (clientId : ClientId) : Store :=
  { store with inFlight := Function.update store.inFlight clientId none }

/-- The number that `INCR` and `DECR` start from. -/
def inFlightCount (clientId : ClientId) : Int :=
  (store.inFlight clientId).getD 0

/-- `SET device:inflight:<id>`. -/
def setInFlight (clientId : ClientId) (count : Int) : Store :=
  { store with inFlight := Function.update store.inFlight clientId (some count) }

/-- `ACQUIRE_SLOT_LUA` answers 1. -/
def slotFree (clientId : ClientId) (maximumInFlight : Nat) : Bool :=
  store.inFlightCount clientId + 1 ≤ maximumInFlight

/-- `ACQUIRE_SLOT_LUA`: `INCR`, and `DECR` again beyond the limit. -/
def tryAcquireSlot (clientId : ClientId) (maximumInFlight : Nat) : Store :=
  store.setInFlight clientId
    (if store.slotFree clientId maximumInFlight then store.inFlightCount clientId + 1
      else store.inFlightCount clientId)

/-- The `DECR` of `releaseSlot`. -/
def decrInFlight (clientId : ClientId) : Store :=
  store.setInFlight clientId (store.inFlightCount clientId - 1)

/-- `INCR rpc:rr:<project>`. -/
def incrCursor (projectId : ProjectId) : Store :=
  { store with cursor := Function.update store.cursor projectId (store.cursor projectId + 1) }

/-- `isOnline`. -/
def isOnline (clientId : ClientId) : Bool :=
  (store.presence clientId).isSome

/-- The second statement of `registerOnline`, unless it violates the index. -/
def writeDevice (clientId : ClientId) (existing : Option (DeviceId × Bool))
    (deviceTokenId : TokenId) (metadata : DeviceMeta) : Option Store :=
  ((store.devices clientId).writeDevice existing deviceTokenId metadata).map fun written =>
    { store with devices := Function.update store.devices clientId written }

/-- `markOffline`. -/
def markOffline (clientId : ClientId) : Store :=
  { store with
    devices := Function.update store.devices clientId (store.devices clientId).markOffline }

end Store

end Gateway
end R2RPC
