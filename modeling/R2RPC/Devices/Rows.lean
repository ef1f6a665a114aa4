import Mathlib.Data.List.Nodup
import R2RPC.Gateway.Store
import R2RPC.Library.Machine
import R2RPC.Library.Relational

/-!
# Device rows

{lit}`registerOnline`, {lit}`markOffline`, {lit}`markStaleOffline` and {lit}`softDeleteIdle` on
the table of devices, one statement or command at a time, for any number of sockets and sweeps.

Main results:

- Definition {lit}`machine`: the calls in every interleaving.
- Structure {lit}`State.Truthful`: what the rows should say.
- Definition {lit}`Action.Undisturbed`: writes whose earlier reads still hold.
- Theorem {lit}`rows_truthful`: the rows after every run of undisturbed steps.
- Theorem {lit}`first_connections_collide`: two first connections at once.

Current gaps:

- Statements and commands succeed, a violation of the unique index aside.
-/

namespace R2RPC
namespace Devices

open Gateway (DeviceId DeviceStatus DeviceMeta)
open Interleaving Relational

/-! ## The table -/

/-- A row of `devices`. -/
structure Row where
  id : DeviceId
  clientId : ClientId
  deviceTokenId : TokenId
  online : Bool
  status : DeviceStatus
  platform : Option String
  lastIp : Option String
  extra : Option String
  maxInFlight : Nat
  lastSeenAt : Option Timestamp
  deletedAt : Option Timestamp
deriving DecidableEq, Repr

/-- `deletedAt IS NULL`. -/
def Row.alive (row : Row) : Bool := row.deletedAt.isNone

/-- The newest of the rows. -/
def newest : List Row → Option Row
  | [] => none
  | row :: rows =>
      match newest rows with
      | none => some row
      | some other => if other.id < row.id then some row else some other

/-- The first statement of `registerOnline`: the alive row, else the newest soft-deleted one. -/
def selectExisting (rows : List Row) (clientId : ClientId) : Option Row :=
  let own := rows.filter fun row => row.clientId == clientId
  match newest (own.filter Row.alive) with
  | some row => some row
  | none => newest own

/-- The patch of `registerOnline`; a missing platform or extra keeps the old one. -/
def Row.patch (row : Row) (deviceTokenId : TokenId) (metadata : DeviceMeta) (revives : Bool)
    (now : Timestamp) : Row :=
  { row with
    deviceTokenId
    online := true
    status := .online
    lastIp := metadata.lastIp
    maxInFlight := metadata.maxInFlight
    lastSeenAt := some now
    deletedAt := if revives then none else row.deletedAt
    platform := metadata.platform.or row.platform
    extra := metadata.extra.or row.extra }

/-- The row that `registerOnline` inserts. -/
def Row.fresh (id : DeviceId) (clientId : ClientId) (deviceTokenId : TokenId)
    (metadata : DeviceMeta) (now : Timestamp) : Row :=
  ⟨id, clientId, deviceTokenId, true, .online, metadata.platform, metadata.lastIp, metadata.extra,
    metadata.maxInFlight, some now, none⟩

/-! ## Sockets and sweeps -/

/-- Where `registerConnection` of a socket stands; the read row is kept with whether it was
soft-deleted. -/
inductive RegisterStage where
  | reading
  | writing (existing : Option (DeviceId × Bool))
  | announcing
  | registered
  | failed
deriving DecidableEq, Repr

/-- Where `handleDisconnect` of a socket stands. -/
inductive LeaveStage where
  | attached
  | clearing
  | marking
  | gone
deriving DecidableEq, Repr

/-- A socket: its registration and its end, whether its presence has existed ever since it was
announced, and whether `markOffline` was called for it after its registration. -/
structure Socket where
  clientId : ClientId
  deviceTokenId : TokenId
  metadata : DeviceMeta
  register : RegisterStage
  leave : LeaveStage
  uninterrupted : Bool
  markedOffline : Bool
deriving DecidableEq, Repr

/-- Where a call of `markStaleOffline` stands: at the next device, at its update, or done. -/
inductive SweepStage where
  | checking
  | updating
  | returned
deriving DecidableEq, Repr

/-- A call of `markStaleOffline`: the devices it has still to go through, and those it has
found present. -/
structure Sweep where
  devices : List (DeviceId × ClientId)
  present : List DeviceId
  stage : SweepStage
deriving DecidableEq, Repr

/-- The table with its sequence, the presence keys, the sockets and the sweeps. -/
structure State where
  rows : List Row
  nextId : DeviceId
  presence : List ClientId
  sockets : List Socket
  sweeps : List Sweep
deriving DecidableEq, Repr

namespace State

variable (state : State)

/-- A socket moves on. -/
def setSocket (index : Nat) (socket : Socket) : State :=
  { state with sockets := state.sockets.set index socket }

/-- A sweep moves on. -/
def setSweep (index : Nat) (sweep : Sweep) : State :=
  { state with sweeps := state.sweeps.set index sweep }

/-- The second statement of `registerOnline`, with `none` for a violation of the index. -/
def writeDevice (socket : Socket) (now : Timestamp) : Option (DeviceId × Bool) → Option State
  | none =>
      if state.rows.any fun row => row.clientId == socket.clientId && row.alive then none
      else
        some { state with
          rows := state.rows ++
            [.fresh state.nextId socket.clientId socket.deviceTokenId socket.metadata now]
          nextId := state.nextId + 1 }
  | some (id, deleted) =>
      if deleted && state.rows.any fun row =>
          row.clientId == socket.clientId && row.alive && row.id != id then none
      else
        some { state with
          rows := updateWhere (fun row => row.id == id)
            (fun row => row.patch socket.deviceTokenId socket.metadata deleted now) state.rows }

/-- The presence key of a client is gone. -/
def forget (clientId : ClientId) : State :=
  { state with
    presence := state.presence.filter (· != clientId)
    sockets := state.sockets.map fun socket =>
      if socket.clientId = clientId then { socket with uninterrupted := false } else socket }

/-- `markOffline`. -/
def markOffline (clientId : ClientId) : State :=
  { state with
    rows := updateWhere (fun row => row.alive && row.clientId == clientId)
      (fun row => { row with online := false, status := .offline }) state.rows }

/-- `softDeleteIdle`, for devices last seen before a moment. -/
def softDeleteIdle (before now : Timestamp) : State :=
  { state with
    rows := updateWhere
      (fun row => row.alive && !row.online && row.lastSeenAt.any (· < before))
      (fun row => { row with deletedAt := some now }) state.rows }

/-- The next step of `registerConnection`. -/
def stepRegister (index : Nat) (now : Timestamp) (socket : Socket) : Option State :=
  match socket.register with
  | .reading =>
      some (state.setSocket index { socket with
        register := .writing ((selectExisting state.rows socket.clientId).map fun row =>
          (row.id, !row.alive)) })
  | .writing existing =>
      match state.writeDevice socket now existing with
      | none => some (state.setSocket index { socket with register := .failed })
      | some written =>
          some (written.setSocket index { socket with
            register := .announcing, markedOffline := false })
  | .announcing =>
      some { state.setSocket index { socket with register := .registered, uninterrupted := true } with
        presence := if socket.clientId ∈ state.presence then state.presence
          else socket.clientId :: state.presence }
  | .registered | .failed => none

/-- The next step of `handleDisconnect`; only the owner of the session cleans up. -/
def stepLeave (index : Nat) (wasOwner : Bool) (socket : Socket) : Option State :=
  match socket.leave with
  | .attached =>
      some (state.setSocket index { socket with leave := if wasOwner then .clearing else .gone })
  | .clearing =>
      some ((state.setSocket index { socket with leave := .marking }).forget socket.clientId)
  | .marking =>
      some ((state.setSocket index { socket with
        leave := .gone, markedOffline := true }).markOffline socket.clientId)
  | .gone => none

/-- The next step of `markStaleOffline`. -/
def stepSweep (index : Nat) (now : Timestamp) (sweep : Sweep) : Option State :=
  match sweep.stage, sweep.devices with
  | .checking, [] =>
      some { state.setSweep index { sweep with stage := .returned } with
        rows := updateWhere (fun row => row.alive && sweep.present.contains row.id)
          (fun row => { row with lastSeenAt := some now }) state.rows }
  | .checking, device :: devices =>
      some (state.setSweep index
        (if device.2 ∈ state.presence then
          { sweep with devices, present := sweep.present ++ [device.1] }
        else { sweep with stage := .updating }))
  | .updating, device :: devices =>
      some { state.setSweep index { sweep with devices, stage := .checking } with
        rows := updateWhere (fun row => row.alive && row.id == device.1 && row.online)
          (fun row => { row with online := false, status := .stale }) state.rows }
  | .updating, [] | .returned, _ => none

end State

/-- What happens next. -/
inductive Action where
  | connect (clientId : ClientId) (deviceTokenId : TokenId) (metadata : DeviceMeta)
  | register (socket : Nat) (now : Timestamp)
  | leave (socket : Nat) (wasOwner : Bool)
  | expire (clientId : ClientId)
  | beginSweep
  | sweep (index : Nat) (now : Timestamp)
  | softDeleteIdle (before now : Timestamp)
deriving DecidableEq, Repr

/-- One step, if it is enabled. -/
def State.next (state : State) : Action → Option State
  | .connect clientId deviceTokenId metadata =>
      some { state with
        sockets := state.sockets ++
          [⟨clientId, deviceTokenId, metadata, .reading, .attached, false, false⟩] }
  | .register index now => state.sockets[index]?.bind (state.stepRegister index now)
  | .leave index wasOwner => state.sockets[index]?.bind (state.stepLeave index wasOwner)
  | .expire clientId => some (state.forget clientId)
  | .beginSweep =>
      some { state with
        sweeps := state.sweeps ++
          [⟨(state.rows.filter fun row => row.alive && row.online).map fun row =>
            (row.id, row.clientId), [], .checking⟩] }
  | .sweep index now => state.sweeps[index]?.bind (state.stepSweep index now)
  | .softDeleteIdle before now => some (state.softDeleteIdle before now)

/-- Two rows of one client are not both alive. -/
def AliveUnique (rows : List Row) : Prop :=
  ∀ row ∈ rows, ∀ other ∈ rows, row.alive = true → other.alive = true →
    row.clientId = other.clientId → row.id = other.id

instance (rows : List Row) : Decidable (AliveUnique rows) :=
  inferInstanceAs (Decidable (∀ _ ∈ rows, ∀ _ ∈ rows, _ → _ → _ → _))

/-- The devices of an installation: any table that its constraints allow, and no calls yet. -/
structure State.Idle (state : State) : Prop where
  ids : (state.rows.map Row.id).Nodup
  bounded : ∀ row ∈ state.rows, row.id < state.nextId
  alive : AliveUnique state.rows
  sockets : state.sockets = []
  sweeps : state.sweeps = []

/-- The calls of all instances. -/
def machine : Machine State Action where
  initial := State.Idle
  step := State.next

/-! ## What the rows should say -/

/-- A socket that is registered, and for which `markOffline` was not called since. -/
def Socket.connected (socket : Socket) : Bool :=
  socket.register == .registered && !socket.markedOffline

namespace State

/-- No call is in progress. -/
structure Returned (state : State) : Prop where
  register : ∀ socket ∈ state.sockets, socket.register = .registered ∨ socket.register = .failed
  leave : ∀ socket ∈ state.sockets, socket.leave = .attached ∨ socket.leave = .gone
  sweeps : ∀ sweep ∈ state.sweeps, sweep.stage = .returned

/-- A client has a row that is alive and online. -/
def Shown (state : State) (clientId : ClientId) : Prop :=
  ∃ row ∈ state.rows, row.clientId = clientId ∧ row.alive = true ∧ row.online = true ∧
    row.status = .online

instance (state : State) (clientId : ClientId) : Decidable (state.Shown clientId) :=
  inferInstanceAs (Decidable (∃ _ ∈ _, _))

/-- One alive row for each client, no call fails, and a client whose one connected socket has
been present ever since it was announced is shown as online. -/
structure Truthful (state : State) : Prop where
  unique : AliveUnique state.rows
  succeeds : ∀ socket ∈ state.sockets, socket.register ≠ .failed
  shown : state.Returned → ∀ socket ∈ state.sockets, socket.connected = true →
    (state.sockets.countP fun other => other.connected && other.clientId == socket.clientId) = 1 →
      socket.uninterrupted = true → state.Shown socket.clientId

end State

/-- A socket whose registration has written its row, and whose presence has not been interrupted
since it was announced. -/
def Socket.present (socket : Socket) : Bool :=
  !socket.markedOffline &&
    (socket.register == .announcing || socket.register == .registered && socket.uninterrupted)

/-- What `registerOnline` has read still tells where its second statement has to go: no row of the
client is alive, or the one that it updates is, or none but the one that it revives. -/
def ReadHolds (rows : List Row) (clientId : ClientId) : Option (DeviceId × Bool) → Prop
  | none => ∀ row ∈ rows, row.clientId = clientId → row.alive = false
  | some (id, false) => ∀ row ∈ rows, row.id = id → row.alive = true
  | some (id, true) => ∀ row ∈ rows, row.clientId = clientId → row.alive = true → row.id = id

instance (rows : List Row) (clientId : ClientId) :
    (existing : Option (DeviceId × Bool)) → Decidable (ReadHolds rows clientId existing)
  | none => inferInstanceAs (Decidable (∀ _ ∈ rows, _ → _))
  | some (_, false) => inferInstanceAs (Decidable (∀ _ ∈ rows, _ → _))
  | some (_, true) => inferInstanceAs (Decidable (∀ _ ∈ rows, _ → _ → _))

/-- A write whose earlier read still holds: of `registerOnline` the row, of a sweep that no one is
present whose row it changes, and of `markOffline` that no one else is. -/
def Action.Undisturbed (state : State) : Action → Prop
  | .register index _ =>
      ∀ socket ∈ state.sockets[index]?,
        match socket.register with
        | .writing existing => ReadHolds state.rows socket.clientId existing
        | _ => True
  | .leave index _ =>
      ∀ socket ∈ state.sockets[index]?, socket.leave = .marking →
        ∀ other ∈ state.sockets.eraseIdx index, other.clientId = socket.clientId →
          other.present = false
  | .sweep index _ =>
      ∀ sweep ∈ state.sweeps[index]?, sweep.stage = .updating →
        ∀ device ∈ sweep.devices.head?, ∀ row ∈ state.rows, row.id = device.1 →
          row.alive = true → row.online = true →
            ∀ socket ∈ state.sockets, socket.clientId = device.2 → socket.present = false
  | _ => True

instance (state : State) : (action : Action) → Decidable (action.Undisturbed state)
  | .register index _ =>
      have (socket : Socket) : Decidable (match socket.register with
          | .writing existing => ReadHolds state.rows socket.clientId existing
          | _ => True) :=
        match socket.register with
        | .writing _ => inferInstance
        | .reading | .announcing | .registered | .failed => isTrue trivial
      inferInstanceAs (Decidable (∀ _ ∈ state.sockets[index]?, _))
  | .leave index _ => inferInstanceAs (Decidable (∀ _ ∈ state.sockets[index]?, _ → ∀ _ ∈ _, _ → _))
  | .sweep index _ =>
      inferInstanceAs (Decidable (∀ _ ∈ state.sweeps[index]?, _ → ∀ _ ∈ _, ∀ _ ∈ _, _ → _ → _ →
        ∀ _ ∈ _, _ → _))
  | .connect _ _ _ | .expire _ | .beginSweep | .softDeleteIdle _ _ => isTrue trivial

/-! ## Statements -/

theorem newest_mem {rows : List Row} {row : Row} (h : newest rows = some row) : row ∈ rows := by
  induction rows with
  | nil => cases h
  | cons first rows ih =>
      rw [newest] at h
      split at h
      · obtain rfl := Option.some.inj h
        exact List.mem_cons_self
      · rename_i other hother
        split at h
        · obtain rfl := Option.some.inj h
          exact List.mem_cons_self
        · obtain rfl := Option.some.inj h
          exact List.mem_cons_of_mem _ (ih hother)

/-- What `registerOnline` reads is a row of its client. -/
theorem selectExisting_mem {rows : List Row} {clientId : ClientId} {row : Row}
    (h : selectExisting rows clientId = some row) : row ∈ rows ∧ row.clientId = clientId := by
  have hown : ∀ other ∈ rows.filter (fun row => row.clientId == clientId),
      other ∈ rows ∧ other.clientId = clientId := by
    intro other hmem
    rcases List.mem_filter.mp hmem with ⟨hrow, hclient⟩
    exact ⟨hrow, by simpa using hclient⟩
  simp only [selectExisting] at h
  split at h
  · rename_i found hfound
    obtain rfl := Option.some.inj h
    exact hown _ (List.mem_of_mem_filter (newest_mem hfound))
  · exact hown _ (newest_mem h)

/-- A statement that revives no row. -/
theorem AliveUnique.update {condition : Row → Bool} {set : Row → Row} {rows : List Row}
    (h : AliveUnique rows)
    (hset : ∀ row, condition row = true → (set row).id = row.id ∧
      (set row).clientId = row.clientId ∧ ((set row).alive = true → row.alive = true)) :
    AliveUnique (updateWhere condition set rows) := by
  have hold : ∀ row ∈ updateWhere condition set rows, row.alive = true →
      ∃ old ∈ rows, old.alive = true ∧ old.id = row.id ∧ old.clientId = row.clientId := by
    intro row hmem halive
    rcases mem_updateWhere.mp hmem with ⟨old, hrow, hcondition, rfl⟩ | ⟨hrow, -⟩
    · rcases hset old hcondition with ⟨hid, hclient, hkeeps⟩
      exact ⟨old, hrow, hkeeps halive, hid.symm, hclient.symm⟩
    · exact ⟨row, hrow, halive, rfl, rfl⟩
  intro row hmem other hother halive halive' hclient
  rcases hold row hmem halive with ⟨old, hrow, hrowAlive, hid, hrowClient⟩
  rcases hold other hother halive' with ⟨old', hrow', hrowAlive', hid', hrowClient'⟩
  rw [← hid, ← hid']
  refine h old hrow old' hrow' hrowAlive hrowAlive' ?_
  rw [hrowClient, hclient, hrowClient']

/-- A statement that revives the only row of its client that may be alive. -/
theorem AliveUnique.revive {set : Row → Row} {rows : List Row} {id : DeviceId} {clientId : ClientId}
    (h : AliveUnique rows)
    (hset : ∀ row, (set row).id = row.id ∧ (set row).clientId = row.clientId)
    (hclient : ∀ row ∈ rows, row.id = id → row.clientId = clientId)
    (honly : ∀ row ∈ rows, row.clientId = clientId → row.alive = true → row.id = id) :
    AliveUnique (updateWhere (fun row => row.id == id) set rows) := by
  have hold : ∀ row ∈ updateWhere (fun row => row.id == id) set rows, row.alive = true →
      row.id = id ∧ row.clientId = clientId ∨
        row ∈ rows ∧ row.id ≠ id := by
    intro row hmem _
    rcases mem_updateWhere.mp hmem with ⟨old, hrow, hid, rfl⟩ | ⟨hrow, hid⟩
    · have hsame : old.id = id := by simpa using hid
      exact .inl ⟨(hset old).1.trans hsame, (hset old).2.trans (hclient old hrow hsame)⟩
    · exact .inr ⟨hrow, by simpa using hid⟩
  intro row hmem other hother halive halive' hsame
  rcases hold row hmem halive with ⟨hid, hrowClient⟩ | ⟨hrow, hne⟩
  · rcases hold other hother halive' with ⟨hid', -⟩ | ⟨hrow', hne'⟩
    · rw [hid, hid']
    · exact absurd (honly other hrow' (hsame.symm.trans hrowClient) halive') hne'
  · rcases hold other hother halive' with ⟨hid', hclient'⟩ | ⟨hrow', -⟩
    · exact absurd (honly row hrow (hsame.trans hclient') halive) hne
    · exact h row hrow other hrow' halive halive' hsame

/-- The first row of a client that is alive. -/
theorem AliveUnique.insert {rows : List Row} {created : Row} (h : AliveUnique rows)
    (hnone : ∀ row ∈ rows, row.clientId = created.clientId → row.alive = false) :
    AliveUnique (rows ++ [created]) := by
  intro row hmem other hother halive halive' hsame
  rcases List.mem_append.mp hmem with hrow | hnew
  · rcases List.mem_append.mp hother with hrow' | hnew'
    · exact h row hrow other hrow' halive halive' hsame
    · rw [List.mem_singleton.mp hnew'] at hsame
      rw [hnone row hrow hsame] at halive
      cases halive
  · rw [List.mem_singleton.mp hnew] at hsame ⊢
    rcases List.mem_append.mp hother with hrow' | hnew'
    · rw [hnone other hrow' hsame.symm] at halive'
      cases halive'
    · rw [List.mem_singleton.mp hnew']

/-! ## The invariant -/

namespace State

/-- The rows with their clients. -/
def keys (state : State) : List (DeviceId × ClientId) :=
  state.rows.map fun row => (row.id, row.clientId)

/-- The table keeps its constraints, pending calls refer to rows of their clients, none has
failed, and present devices are shown. -/
structure Sound (state : State) : Prop where
  ids : (state.keys.map Prod.fst).Nodup
  bounded : ∀ key ∈ state.keys, key.1 < state.nextId
  alive : AliveUnique state.rows
  written : ∀ socket ∈ state.sockets, ∀ id deleted,
    socket.register = .writing (some (id, deleted)) → (id, socket.clientId) ∈ state.keys
  succeeds : ∀ socket ∈ state.sockets, socket.register ≠ .failed
  shown : ∀ socket ∈ state.sockets, socket.present = true → state.Shown socket.clientId
  listed : ∀ sweep ∈ state.sweeps, ∀ device ∈ sweep.devices, device ∈ state.keys

variable {state state' : State} {index : Nat} {socket : Socket} {sweep : Sweep}

theorem Idle.sound (h : state.Idle) : state.Sound where
  ids := by
    rw [keys, List.map_map]
    exact h.ids
  bounded := by
    intro key hmem
    rcases List.mem_map.mp hmem with ⟨row, hrow, rfl⟩
    exact h.bounded row hrow
  alive := h.alive
  written := fun _ hmem => absurd (h.sockets ▸ hmem) List.not_mem_nil
  succeeds := fun _ hmem => absurd (h.sockets ▸ hmem) List.not_mem_nil
  shown := fun _ hmem => absurd (h.sockets ▸ hmem) List.not_mem_nil
  listed := fun _ hmem => absurd (h.sweeps ▸ hmem) List.not_mem_nil

/-- The client of a row is known by its id. -/
theorem Sound.client_of_id {row : Row} {clientId : ClientId} (h : state.Sound)
    (hrow : row ∈ state.rows) (hkey : (row.id, clientId) ∈ state.keys) :
    row.clientId = clientId := by
  have hother : (row.id, row.clientId) ∈ state.keys := List.mem_map.mpr ⟨row, hrow, rfl⟩
  have hsame := List.inj_on_of_nodup_map h.ids hother hkey rfl
  exact congrArg Prod.snd hsame

/-- A statement on the rows. -/
theorem Sound.updateRows {condition : Row → Bool} {set : Row → Row} (h : state.Sound)
    (hset : ∀ row, condition row = true →
      (set row).id = row.id ∧ (set row).clientId = row.clientId)
    (halive : AliveUnique (updateWhere condition set state.rows))
    (hshown : ∀ socket ∈ state.sockets, socket.present = true →
      State.Shown { state with rows := updateWhere condition set state.rows } socket.clientId) :
    State.Sound { state with rows := updateWhere condition set state.rows } := by
  have hkeys : State.keys { state with rows := updateWhere condition set state.rows } =
      state.keys :=
    map_updateWhere fun row hcondition =>
      Prod.ext (hset row hcondition).1 (hset row hcondition).2
  exact ⟨hkeys ▸ h.ids, hkeys ▸ h.bounded, halive, hkeys ▸ h.written, h.succeeds, hshown,
    hkeys ▸ h.listed⟩

/-- A statement that shows as many clients as before. -/
theorem shown_updateRows {condition : Row → Bool} {set : Row → Row} {clientId : ClientId}
    (hset : ∀ row ∈ state.rows, condition row = true →
      (((set row).clientId = clientId ∧ (set row).alive = true ∧ (set row).online = true ∧
        (set row).status = .online) ↔
          (row.clientId = clientId ∧ row.alive = true ∧ row.online = true ∧ row.status = .online))) :
    State.Shown { state with rows := updateWhere condition set state.rows } clientId ↔
      state.Shown clientId :=
  exists_updateWhere hset

/-- A socket moves on. -/
theorem Sound.setSocket (h : state.Sound)
    (hwritten : ∀ id deleted, socket.register = .writing (some (id, deleted)) →
      (id, socket.clientId) ∈ state.keys)
    (hsucceeds : socket.register ≠ .failed)
    (hshown : socket.present = true → state.Shown socket.clientId) :
    (state.setSocket index socket).Sound := by
  refine ⟨h.ids, h.bounded, h.alive, ?_, ?_, ?_, h.listed⟩
  · intro other hmem
    rcases List.mem_or_eq_of_mem_set hmem with hold | rfl
    · exact h.written other hold
    · exact hwritten
  · intro other hmem
    rcases List.mem_or_eq_of_mem_set hmem with hold | rfl
    · exact h.succeeds other hold
    · exact hsucceeds
  · intro other hmem
    rcases List.mem_or_eq_of_mem_set hmem with hold | rfl
    · exact h.shown other hold
    · exact hshown

/-- A sweep moves on. -/
theorem Sound.setSweep (h : state.Sound) (hdevices : ∀ device ∈ sweep.devices, device ∈ state.keys) :
    (state.setSweep index sweep).Sound := by
  refine ⟨h.ids, h.bounded, h.alive, h.written, h.succeeds, h.shown, ?_⟩
  intro other hmem
  rcases List.mem_or_eq_of_mem_set hmem with hold | rfl
  · exact h.listed other hold
  · exact hdevices

/-! ### Statements of the calls -/

/-- `registerOnline` inserts the first row of a client. -/
theorem Sound.insert (h : state.Sound)
    (hnone : ∀ row ∈ state.rows, row.clientId = socket.clientId → row.alive = false)
    (now : Timestamp) :
    let written : State := { state with
      rows := state.rows ++
        [.fresh state.nextId socket.clientId socket.deviceTokenId socket.metadata now]
      nextId := state.nextId + 1 }
    written.Sound ∧ written.Shown socket.clientId := by
  intro written
  have hkeys : written.keys = state.keys ++ [(state.nextId, socket.clientId)] := List.map_append
  refine ⟨⟨?_, ?_, h.alive.insert hnone, ?_, h.succeeds, ?_, ?_⟩, ?_⟩
  · rw [hkeys, List.map_append, List.nodup_append]
    refine ⟨h.ids, List.nodup_singleton _, fun id hold id' hnew hsame => ?_⟩
    rcases List.mem_map.mp hold with ⟨key, hkey, rfl⟩
    rw [List.mem_singleton.mp hnew] at hsame
    exact absurd (h.bounded key hkey) (hsame ▸ Nat.lt_irrefl _)
  · intro key hmem
    rw [hkeys] at hmem
    rcases List.mem_append.mp hmem with hold | hnew
    · exact Nat.lt_succ_of_lt (h.bounded key hold)
    · rw [List.mem_singleton.mp hnew]
      exact Nat.lt_succ_self _
  · intro other hmem id deleted hstage
    rw [hkeys]
    exact List.mem_append_left _ (h.written other hmem id deleted hstage)
  · intro other hmem hpresent
    rcases h.shown other hmem hpresent with ⟨row, hrow, hshown⟩
    exact ⟨row, List.mem_append_left _ hrow, hshown⟩
  · intro sweep hmem device hdevice
    rw [hkeys]
    exact List.mem_append_left _ (h.listed sweep hmem device hdevice)
  · exact ⟨_, List.mem_append_right _ (List.mem_singleton_self _), rfl, rfl, rfl, rfl⟩

/-- `registerOnline` updates a row, which is alive then. -/
theorem Sound.patch {id : DeviceId} (deleted : Bool) (h : state.Sound)
    (hkey : (id, socket.clientId) ∈ state.keys)
    (hread : ∀ row ∈ state.rows, row.id = id → row.alive = true ∨ deleted = true)
    (honly : ∀ row ∈ state.rows, row.clientId = socket.clientId → row.alive = true → row.id = id)
    (now : Timestamp) :
    let written : State := { state with
      rows := updateWhere (fun row => row.id == id)
        (fun row => row.patch socket.deviceTokenId socket.metadata deleted now) state.rows }
    written.Sound ∧ written.Shown socket.clientId := by
  intro written
  have hclient : ∀ row ∈ state.rows, row.id = id → row.clientId = socket.clientId := by
    rintro row hrow rfl
    exact h.client_of_id hrow hkey
  have hshown : written.Shown socket.clientId := by
    rcases List.mem_map.mp hkey with ⟨row, hrow, heq⟩
    rw [Prod.mk.injEq] at heq
    rcases heq with ⟨hid, hrowClient⟩
    refine ⟨row.patch socket.deviceTokenId socket.metadata deleted now,
      mem_updateWhere.mpr (.inl ⟨row, hrow, by simpa using hid, rfl⟩), hrowClient, ?_, rfl, rfl⟩
    rcases hread row hrow hid with halive | hdeleted
    · simp only [Row.alive, Row.patch]
      split
      · rfl
      · exact halive
    · simp [Row.alive, Row.patch, hdeleted]
  refine ⟨h.updateRows (fun _ _ => ⟨rfl, rfl⟩) ?_ fun other hmem hpresent => ?_, hshown⟩
  · exact h.alive.revive (fun _ => ⟨rfl, rfl⟩) hclient honly
  · by_cases hsame : other.clientId = socket.clientId
    · rw [hsame]
      exact hshown
    · refine (shown_updateRows fun row hrow hid => ?_).mpr (h.shown other hmem hpresent)
      have hrowClient := hclient row hrow (by simpa using hid)
      have hne : row.clientId ≠ other.clientId := fun heq => hsame (heq.symm.trans hrowClient)
      exact iff_of_false (fun hpatched => hne hpatched.1) fun hrowShown => hne hrowShown.1

/-- `markOffline`, while no one of the client is present. -/
theorem Sound.markOffline {clientId : ClientId} (h : state.Sound)
    (habsent : ∀ socket ∈ state.sockets, socket.clientId = clientId → socket.present = false) :
    (state.markOffline clientId).Sound := by
  refine h.updateRows (fun _ _ => ⟨rfl, rfl⟩) (h.alive.update fun _ _ => ⟨rfl, rfl, id⟩) ?_
  intro socket hmem hpresent
  have hne : socket.clientId ≠ clientId := by
    intro hsame
    rw [habsent socket hmem hsame] at hpresent
    cases hpresent
  refine (shown_updateRows fun row hrow hcondition => ?_).mpr (h.shown socket hmem hpresent)
  have hrowClient : row.clientId = clientId := by
    simpa using (Bool.and_eq_true_iff.mp hcondition).2
  have hother : row.clientId ≠ socket.clientId := fun heq => hne (heq.symm.trans hrowClient)
  exact iff_of_false (fun hmarked => hother hmarked.1) fun hrowShown => hother hrowShown.1

/-- The update of a sweep, while no one is present whose row it would change. -/
theorem Sound.markStale (device : DeviceId × ClientId) (h : state.Sound)
    (hkey : device ∈ state.keys)
    (habsent : ∀ row ∈ state.rows, row.id = device.1 → row.alive = true → row.online = true →
      ∀ socket ∈ state.sockets, socket.clientId = device.2 → socket.present = false) :
    State.Sound { state with
      rows := updateWhere (fun row => row.alive && row.id == device.1 && row.online)
        (fun row => { row with online := false, status := .stale }) state.rows } := by
  refine h.updateRows (fun _ _ => ⟨rfl, rfl⟩) (h.alive.update fun _ _ => ⟨rfl, rfl, id⟩) ?_
  intro socket hmem hpresent
  refine (shown_updateRows fun row hrow hcondition => ?_).mpr (h.shown socket hmem hpresent)
  simp only [Bool.and_eq_true, beq_iff_eq] at hcondition
  rcases hcondition with ⟨⟨halive, hid⟩, honline⟩
  have hrowClient : row.clientId = device.2 := by
    refine h.client_of_id hrow ?_
    rw [hid]
    exact hkey
  have hother : row.clientId ≠ socket.clientId := by
    intro heq
    rw [habsent row hrow hid halive honline socket hmem (heq.symm.trans hrowClient)] at hpresent
    cases hpresent
  exact iff_of_false (fun hmarked => hother hmarked.1) fun hrowShown => hother hrowShown.1

/-- `refreshLastSeen`. -/
theorem Sound.refresh (h : state.Sound) (present : List DeviceId) (now : Timestamp) :
    State.Sound { state with
      rows := updateWhere (fun row => row.alive && present.contains row.id)
        (fun row => { row with lastSeenAt := some now }) state.rows } := by
  refine h.updateRows (fun _ _ => ⟨rfl, rfl⟩) (h.alive.update fun _ _ => ⟨rfl, rfl, id⟩) ?_
  intro socket hmem hpresent
  refine (shown_updateRows fun row _ _ => ?_).mpr (h.shown socket hmem hpresent)
  exact Iff.rfl

/-- `softDeleteIdle` leaves rows alone that are online. -/
theorem Sound.softDeleteIdle (h : state.Sound) (before now : Timestamp) :
    (state.softDeleteIdle before now).Sound := by
  refine h.updateRows (fun _ _ => ⟨rfl, rfl⟩) (h.alive.update ?_) ?_
  · intro row _
    exact ⟨rfl, rfl, fun halive => by cases halive⟩
  · intro socket hmem hpresent
    refine (shown_updateRows fun row hrow hcondition => ?_).mpr (h.shown socket hmem hpresent)
    simp only [Bool.and_eq_true, Bool.not_eq_true'] at hcondition
    refine iff_of_false (fun hdeleted => ?_) fun hrowShown => ?_
    · cases hdeleted.2.1
    · rw [hrowShown.2.2.1] at hcondition
      cases hcondition.1.2

/-- A presence key goes. -/
theorem Sound.forget (h : state.Sound) (clientId : ClientId) : (state.forget clientId).Sound := by
  have hold : ∀ socket ∈ (state.forget clientId).sockets, ∃ old ∈ state.sockets,
      old.clientId = socket.clientId ∧ old.register = socket.register ∧
        (socket.present = true → old.present = true) := by
    intro socket hmem
    rcases List.mem_map.mp hmem with ⟨old, hsocket, rfl⟩
    refine ⟨old, hsocket, ?_⟩
    split
    · refine ⟨rfl, rfl, fun hpresent => ?_⟩
      simp only [Socket.present, Bool.and_false, Bool.or_false, Bool.and_eq_true] at hpresent ⊢
      exact ⟨hpresent.1, by rw [hpresent.2, Bool.true_or]⟩
    · exact ⟨rfl, rfl, id⟩
  refine ⟨h.ids, h.bounded, h.alive, ?_, ?_, ?_, h.listed⟩
  · intro socket hmem id deleted hstage
    rcases hold socket hmem with ⟨old, hsocket, hclient, hregister, -⟩
    rw [← hclient]
    exact h.written old hsocket id deleted (hregister.trans hstage)
  · intro socket hmem
    rcases hold socket hmem with ⟨old, hsocket, -, hregister, -⟩
    rw [← hregister]
    exact h.succeeds old hsocket
  · intro socket hmem hpresent
    rcases hold socket hmem with ⟨old, hsocket, hclient, -, hkeeps⟩
    have hshown := h.shown old hsocket (hkeeps hpresent)
    rw [hclient] at hshown
    exact hshown

/-! ### Steps -/

/-- The second statement of `registerOnline` succeeds where its read still holds. -/
theorem Sound.writeDevice {existing : Option (DeviceId × Bool)} (now : Timestamp) (h : state.Sound)
    (hmem : socket ∈ state.sockets) (hstage : socket.register = .writing existing)
    (hundisturbed : ReadHolds state.rows socket.clientId existing) :
    ∃ written, state.writeDevice socket now existing = some written ∧ written.Sound ∧
      written.Shown socket.clientId := by
  match existing with
  | none =>
      refine ⟨_, ?_, h.insert hundisturbed now⟩
      rw [State.writeDevice, if_neg]
      rw [List.any_eq_true]
      rintro ⟨row, hrow, hcondition⟩
      simp only [Bool.and_eq_true, beq_iff_eq] at hcondition
      rw [hundisturbed row hrow hcondition.1] at hcondition
      cases hcondition.2
  | some (id, false) =>
      have hkey := h.written socket hmem id false hstage
      refine ⟨_, ?_, h.patch false hkey (fun row hrow hid => .inl (hundisturbed row hrow hid)) ?_ now⟩
      · rw [State.writeDevice, if_neg (by simp)]
      · -- the row that was read is alive, so it is the only one
        intro row hrow hclient halive
        rcases List.mem_map.mp hkey with ⟨own, hown, heq⟩
        rw [Prod.mk.injEq] at heq
        rw [← heq.1]
        exact h.alive row hrow own hown halive (hundisturbed own hown heq.1)
          (hclient.trans heq.2.symm)
  | some (id, true) =>
      have hkey := h.written socket hmem id true hstage
      refine ⟨_, ?_, h.patch true hkey (fun _ _ _ => .inr rfl) hundisturbed now⟩
      rw [State.writeDevice, if_neg]
      rw [Bool.true_and, List.any_eq_true]
      rintro ⟨row, hrow, hcondition⟩
      simp only [Bool.and_eq_true, beq_iff_eq, bne_iff_ne] at hcondition
      exact hcondition.2 (hundisturbed row hrow hcondition.1.1 hcondition.1.2)

theorem Sound.stepRegister {now : Timestamp} (h : state.Sound)
    (hget : state.sockets[index]? = some socket)
    (hundisturbed : (Action.register index now).Undisturbed state)
    (hstep : state.stepRegister index now socket = some state') : state'.Sound := by
  have hmem := List.mem_of_getElem? hget
  rw [State.stepRegister] at hstep
  cases hstage : socket.register with
  | reading =>
      simp only [hstage, Option.some.injEq] at hstep
      subst hstep
      refine h.setSocket ?_ (by simp) (by simp [Socket.present])
      intro id deleted hwriting
      simp only [RegisterStage.writing.injEq, Option.map_eq_some_iff, Prod.mk.injEq] at hwriting
      rcases hwriting with ⟨row, hread, rfl, -⟩
      rcases selectExisting_mem hread with ⟨hrow, hclient⟩
      exact List.mem_map.mpr ⟨row, hrow, by rw [hclient]⟩
  | writing existing =>
      have hholds := hundisturbed socket hget
      rw [hstage] at hholds
      rcases h.writeDevice now hmem hstage hholds with ⟨written, hwrite, hsound, hshown⟩
      simp only [hstage, hwrite, Option.some.injEq] at hstep
      subst hstep
      exact hsound.setSocket (by simp) (by simp) fun _ => hshown
  | announcing =>
      simp only [hstage, Option.some.injEq] at hstep
      subst hstep
      have hmoved : (state.setSocket index
          { socket with register := .registered, uninterrupted := true }).Sound := by
        refine h.setSocket (by simp) (by simp) fun hpresent => h.shown socket hmem ?_
        rw [Socket.present, hstage]
        simpa [Socket.present] using hpresent
      exact ⟨hmoved.ids, hmoved.bounded, hmoved.alive, hmoved.written, hmoved.succeeds,
        hmoved.shown, hmoved.listed⟩
  | registered =>
      simp only [hstage] at hstep
      cases hstep
  | failed =>
      simp only [hstage] at hstep
      cases hstep

theorem Sound.stepLeave {wasOwner : Bool} (h : state.Sound)
    (hget : state.sockets[index]? = some socket)
    (hundisturbed : (Action.leave index wasOwner).Undisturbed state)
    (hstep : state.stepLeave index wasOwner socket = some state') : state'.Sound := by
  have hmem := List.mem_of_getElem? hget
  have hmoved : ∀ leave, (state.setSocket index { socket with leave := leave }).Sound :=
    fun leave => h.setSocket (h.written socket hmem) (h.succeeds socket hmem) (h.shown socket hmem)
  rw [State.stepLeave] at hstep
  cases hstage : socket.leave with
  | attached =>
      simp only [hstage, Option.some.injEq] at hstep
      subst hstep
      exact hmoved _
  | clearing =>
      simp only [hstage, Option.some.injEq] at hstep
      subst hstep
      exact (hmoved .marking).forget _
  | marking =>
      simp only [hstage, Option.some.injEq] at hstep
      subst hstep
      have hgone : (state.setSocket index
          { socket with leave := .gone, markedOffline := true }).Sound :=
        h.setSocket (h.written socket hmem) (h.succeeds socket hmem)
          fun hpresent => by simp [Socket.present] at hpresent
      refine hgone.markOffline fun other hother hclient => ?_
      rcases List.mem_iff_getElem?.mp hother with ⟨index', hget'⟩
      by_cases hsame : index' = index
      · rw [hsame, State.setSocket,
          List.getElem?_set_self (List.getElem?_eq_some_iff.mp hget).1] at hget'
        rw [← Option.some.inj hget']
        rfl
      · rw [State.setSocket, List.getElem?_set_ne (Ne.symm hsame)] at hget'
        refine hundisturbed socket hget hstage other ?_ hclient
        exact List.mem_eraseIdx_iff_getElem?.mpr ⟨index', hsame, hget'⟩
  | gone =>
      simp only [hstage] at hstep
      cases hstep

theorem Sound.stepSweep {now : Timestamp} (h : state.Sound)
    (hget : state.sweeps[index]? = some sweep)
    (hundisturbed : (Action.sweep index now).Undisturbed state)
    (hstep : state.stepSweep index now sweep = some state') : state'.Sound := by
  have hlisted := h.listed sweep (List.mem_of_getElem? hget)
  unfold State.stepSweep at hstep
  split at hstep
  · obtain rfl := Option.some.inj hstep
    have hmoved : (state.setSweep index { sweep with stage := .returned }).Sound :=
      h.setSweep hlisted
    exact hmoved.refresh sweep.present now
  · rename_i device devices _ hdevices
    obtain rfl := Option.some.inj hstep
    refine h.setSweep ?_
    split
    · intro other hmem
      exact hlisted other (hdevices ▸ List.mem_cons_of_mem _ hmem)
    · exact hlisted
  · rename_i device devices hstage hdevices
    obtain rfl := Option.some.inj hstep
    have hmoved : (state.setSweep index { sweep with devices := devices, stage := .checking }).Sound :=
      h.setSweep fun other hmem => hlisted other (hdevices ▸ List.mem_cons_of_mem _ hmem)
    refine hmoved.markStale device (hlisted device (hdevices ▸ List.mem_cons_self)) ?_
    exact hundisturbed sweep hget hstage device (by rw [hdevices]; rfl)
  · cases hstep
  · cases hstep

/-- An undisturbed step keeps the invariant. -/
theorem Sound.next {action : Action} (h : state.Sound) (hundisturbed : action.Undisturbed state)
    (hstep : state.next action = some state') : state'.Sound := by
  cases action with
  | connect clientId deviceTokenId metadata =>
      obtain rfl := Option.some.inj hstep
      refine ⟨h.ids, h.bounded, h.alive, ?_, ?_, ?_, h.listed⟩
      · intro socket hmem id deleted hstage
        rcases List.mem_append.mp hmem with hold | hnew
        · exact h.written socket hold id deleted hstage
        · rw [List.mem_singleton.mp hnew] at hstage
          cases hstage
      · intro socket hmem
        rcases List.mem_append.mp hmem with hold | hnew
        · exact h.succeeds socket hold
        · rw [List.mem_singleton.mp hnew]
          simp
      · intro socket hmem hpresent
        rcases List.mem_append.mp hmem with hold | hnew
        · exact h.shown socket hold hpresent
        · rw [List.mem_singleton.mp hnew] at hpresent
          cases hpresent
  | register index now =>
      rcases Option.bind_eq_some_iff.mp hstep with ⟨socket, hget, hnext⟩
      exact h.stepRegister hget hundisturbed hnext
  | leave index wasOwner =>
      rcases Option.bind_eq_some_iff.mp hstep with ⟨socket, hget, hnext⟩
      exact h.stepLeave hget hundisturbed hnext
  | expire clientId =>
      obtain rfl := Option.some.inj hstep
      exact h.forget clientId
  | beginSweep =>
      obtain rfl := Option.some.inj hstep
      refine ⟨h.ids, h.bounded, h.alive, h.written, h.succeeds, h.shown, ?_⟩
      intro sweep hmem device hdevice
      rcases List.mem_append.mp hmem with hold | hnew
      · exact h.listed sweep hold device hdevice
      · rw [List.mem_singleton.mp hnew] at hdevice
        rcases List.mem_map.mp hdevice with ⟨row, hrow, rfl⟩
        exact List.mem_map.mpr ⟨row, List.mem_of_mem_filter hrow, rfl⟩
  | sweep index now =>
      rcases Option.bind_eq_some_iff.mp hstep with ⟨sweep, hget, hnext⟩
      exact h.stepSweep hget hundisturbed hnext
  | softDeleteIdle before now =>
      obtain rfl := Option.some.inj hstep
      exact h.softDeleteIdle before now

/-- What the invariant says about the rows. -/
theorem Sound.truthful (h : state.Sound) : state.Truthful where
  unique := h.alive
  succeeds := h.succeeds
  shown := by
    intro _ socket hmem hconnected _ huninterrupted
    refine h.shown socket hmem ?_
    simp only [Socket.connected, Bool.and_eq_true, beq_iff_eq, Bool.not_eq_true'] at hconnected
    simp [Socket.present, hconnected.1, hconnected.2, huninterrupted]

end State

/-! ## Runs -/

/-- The rows are true after every run of undisturbed steps. -/
theorem rows_truthful {start state : State} {actions : List Action} (hstart : start.Idle)
    (hrun : machine.run start actions = some state)
    (hundisturbed : machine.Meets (fun state action => action.Undisturbed state) start actions) :
    state.Truthful := by
  have hsound : state.Sound :=
    hundisturbed.invariant (fun h hholds hstep => h.next hholds hstep) hstart.sound hrun
  exact hsound.truthful

/-- What a sample device reports. -/
def sampleMeta : DeviceMeta := ⟨none, none, none, 16⟩

/-- A table without rows. -/
def noRows : State := ⟨[], 1, [], [], []⟩

theorem noRows_idle : noRows.Idle :=
  ⟨List.nodup_nil, by simp [noRows], by decide, rfl, rfl⟩

/-- A device that connects, is swept while it is absent, and connects again. -/
def reconnectRun : List Action :=
  [.connect "a" 1 sampleMeta, .register 0 1, .register 0 2, .register 0 3, .expire "a",
    .beginSweep, .sweep 0 4, .sweep 0 5, .sweep 0 6, .connect "a" 1 sampleMeta, .register 1 7,
    .register 1 8, .register 1 9, .leave 0 false]

/-- The table at its end. -/
def reconnected : State :=
  { rows := [⟨1, "a", 1, true, .online, none, none, none, 16, some 8, none⟩]
    nextId := 2
    presence := ["a"]
    sockets := [⟨"a", 1, sampleMeta, .registered, .gone, false, false⟩,
      ⟨"a", 1, sampleMeta, .registered, .attached, true, false⟩]
    sweeps := [⟨[], [], .returned⟩] }

theorem rows_truthful_reconnected : reconnected.Truthful :=
  rows_truthful noRows_idle (show machine.run noRows reconnectRun = some reconnected by decide)
    (by decide)

/-- Two first connections that have both read that there is no row. -/
def firstConnections : List Action :=
  [.connect "a" 1 sampleMeta, .connect "a" 1 sampleMeta, .register 0 1, .register 1 2,
    .register 0 3, .register 1 4]

/-- The second insertion violates the unique index. -/
theorem first_connections_collide :
    ¬ ∀ (start state : State) (actions : List Action), start.Idle →
      machine.run start actions = some state → state.Truthful := by
  intro h
  have hrun : (machine.run noRows firstConnections).elim False State.Truthful :=
    h noRows _ firstConnections noRows_idle rfl
  have hsucceeds := State.Truthful.succeeds hrun
  exact hsucceeds _ (List.mem_cons_of_mem _ List.mem_cons_self) rfl

end Devices
end R2RPC
