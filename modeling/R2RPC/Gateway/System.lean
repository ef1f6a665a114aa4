import R2RPC.Gateway.Connection
import R2RPC.Gateway.Dispatch
import R2RPC.Library.Machine

/-!
# The gateway cluster

All API instances over their shared stores: sockets with their handlers, the
local socket maps, heartbeats, administrative writes to device tokens with their
scope-changed events, and invocations.  One awaited command, one event or one
synchronous stretch of a handler is one action, so a list of actions is an
interleaving of the whole cluster.

Main results:

- Structure {lit}`State`: the cluster.
- Definition {lit}`machine`: the cluster as an interleaving machine.

Current gaps:

- An instance that crashes does not come back under its old identifier.
-/

namespace R2RPC
namespace Gateway

open Interleaving DeviceToken

/-- Identity of one `handleHeartbeat` call. -/
abbrev HeartbeatId := Nat

/-- Identity of one administrative write to a device token. -/
abbrev AdministrationId := Nat

/-! ## Administrative writes -/

/-- The writes of `DeviceTokenService`. -/
inductive TokenWrite where
  | updateProjects (projectIds : List ProjectId)
  | revoke
  | delete
deriving DecidableEq, Repr

/-- The database part of a write; `none` is `NotFoundException`. -/
def TokenWrite.apply (write : TokenWrite) (token : TokenId) (table : DeviceTokenTable) :
    Option DeviceTokenTable :=
  match write with
  | .updateProjects projectIds => (DeviceToken.updateProjects token projectIds table).map (·.1)
  | .revoke => (DeviceToken.revoke token table).map (·.1)
  | .delete => (DeviceToken.delete token table).map (·.1)

/-- The await at which a write stands after its transaction. -/
inductive AdministrationStage where
  | invalidate
  | publish
  | done
deriving DecidableEq, Repr

/-- A committed write. -/
structure Administration where
  token : TokenId
  write : TokenWrite
  stage : AdministrationStage
deriving DecidableEq, Repr

/-- Only `updateProjects` notifies the sessions. -/
def Administration.next (administration : Administration) : AdministrationStage :=
  match administration.stage, administration.write with
  | .invalidate, .updateProjects _ => .publish
  | _, _ => .done

/-! ## State -/

/-- The cluster.  `handled u i` says that instance `i` has handled the
scope-changed event of write `u`. -/
structure State where
  store : Store
  sockets : SocketId → Option Socket
  localSockets : InstanceId → ClientId → Option SocketId
  heartbeats : HeartbeatId → Option Heartbeat
  administrations : AdministrationId → Option Administration
  handled : AdministrationId → InstanceId → Bool
  crashed : InstanceId → Bool
  invocations : List Invocation

/-- Nobody is connected and nothing is in progress. -/
def State.start (deviceTokens : DeviceTokenTable) (devices : ClientId → ClientDevices) :
    State where
  store := .start deviceTokens devices
  sockets _ := none
  localSockets _ _ := none
  heartbeats _ := none
  administrations _ := none
  handled _ _ := false
  crashed _ := false
  invocations := []

/-- One step of the cluster or of its environment. -/
inductive Action where
  | accept (socket : SocketId) (instanceId : InstanceId) (request : ConnectRequest)
  | handshake (socket : SocketId) (fault : Fault)
  | attach (socket : SocketId)
  | bind (socket : SocketId)
  | closeEvent (socket : SocketId)
  | disconnect (socket : SocketId) (fault : Fault)
  | heartbeat (id : HeartbeatId) (socket : SocketId)
  | refresh (id : HeartbeatId) (fault : Fault)
  | administer (id : AdministrationId) (token : TokenId) (write : TokenWrite)
  | administration (id : AdministrationId)
  | deliverScopeChange (id : AdministrationId) (instanceId : InstanceId)
  | expireSession (clientId : ClientId)
  | expirePresence (clientId : ClientId)
  | expireMaxInFlight (clientId : ClientId)
  | expireTokenCache (token : TokenId)
  | crash (instanceId : InstanceId)
  | invoke (projectId : ProjectId) (requested : Option ClientId)
  | dispatch (invocation : Nat) (fault : Fault) (order : List ClientId)
deriving DecidableEq

namespace State

/-- The per-socket token that `register` draws. -/
def sessionToken (socket : Socket) (id : SocketId) : SessionToken := ⟨socket.instanceId, id⟩

/-- A socket whose process is still running. -/
def liveSocket (s : State) (id : SocketId) : Option Socket :=
  (s.sockets id).filter fun socket => !s.crashed socket.instanceId

/-- Change one socket. -/
def setSocket (s : State) (id : SocketId) (socket : Socket) : State :=
  { s with sockets := Function.update s.sockets id (some socket) }

/-- `sockets.set` of one instance. -/
def setLocal (s : State) (instanceId : InstanceId) (clientId : ClientId) (id : SocketId) :
    State :=
  { s with
    localSockets := Function.update s.localSockets instanceId
      (Function.update (s.localSockets instanceId) clientId (some id)) }

/-- `sockets.delete` of one instance, if the entry is this socket. -/
def deleteLocal (s : State) (instanceId : InstanceId) (clientId : ClientId) (id : SocketId) :
    State :=
  if s.localSockets instanceId clientId = some id then
    { s with
      localSockets := Function.update s.localSockets instanceId
        (Function.update (s.localSockets instanceId) clientId none) }
  else s

/-- A new connection reaches an instance. -/
def accept (s : State) (id : SocketId) (instanceId : InstanceId) (request : ConnectRequest) :
    Option State :=
  if (s.sockets id).isSome ∨ s.crashed instanceId then none
  else some (s.setSocket id (.accept instanceId request))

/-- One awaited command of `handleConnection`. -/
def handshake (s : State) (id : SocketId) (fault : Fault) : Option State :=
  match s.liveSocket id with
  | none => none
  | some socket =>
      if socket.awaitsCommand then
        let stage :=
          if fault.throws then socket.handshakeThrown else socket.handshakeNext s.store
        some ({ s with
          store := fault.apply (socket.handshakeCommand (sessionToken socket id)) s.store
          }.setSocket id (socket.moveHandshake stage))
      else none

/-- From the authenticated token to the `SET` of `register`, in one stretch. -/
def attach (s : State) (id : SocketId) : Option State :=
  match s.liveSocket id with
  | none => none
  | some socket =>
      match socket.handshake with
      | .readToken (.done record) =>
          match validateForConnect record with
          | none => some (s.setSocket id (socket.moveHandshake .unauthorized))
          | some (_, projectIds) =>
              some ((s.setLocal socket.instanceId socket.clientId id).setSocket id
                { socket with
                  projects := some projectIds
                  handshake := .setSession })
      | _ => none

/-- `bindMessageHandler`, the welcome frame and `startHeartbeat`. -/
def bind (s : State) (id : SocketId) : Option State :=
  match s.liveSocket id with
  | none => none
  | some socket =>
      if socket.handshake = .bind then
        some (s.setSocket id { socket with
          pingTimer := .running
          handshake := .finished })
      else none

/-- The close event starts `handleDisconnect` once. -/
def closeEvent (s : State) (id : SocketId) : Option State :=
  match s.liveSocket id with
  | none => none
  | some socket =>
      if socket.disconnect = .idle then
        let left :=
          if socket.projects.isSome then s.deleteLocal socket.instanceId socket.clientId id
          else s
        some (left.setSocket id socket.closed)
      else none

/-- One awaited command of `handleDisconnect`; an exception ends the handler. -/
def disconnect (s : State) (id : SocketId) (fault : Fault) : Option State :=
  match s.liveSocket id with
  | none => none
  | some socket =>
      if socket.disconnect = .idle ∨ socket.disconnect = .done then none
      else
        let token := sessionToken socket id
        let stage := if fault.throws then .done else socket.disconnectNext token s.store
        some ({ s with
          store := fault.apply (socket.disconnectCommand token) s.store
          }.setSocket id { socket with disconnect := stage })

/-- A heartbeat frame arrives on a bound socket. -/
def heartbeat (s : State) (id : HeartbeatId) (socketId : SocketId) : Option State :=
  match s.heartbeats id, s.liveSocket socketId with
  | none, some socket =>
      if socket.handshake = .finished ∧ socket.disconnect = .idle then
        some { s with
          heartbeats := Function.update s.heartbeats id
            (some ⟨socketId, socket.clientId, socket.maxInFlight, .refresh⟩) }
      else none
  | _, _ => none

/-- One awaited command of `handleHeartbeat`. -/
def refresh (s : State) (id : HeartbeatId) (fault : Fault) : Option State :=
  match s.heartbeats id with
  | none => none
  | some heartbeat =>
      if heartbeat.stage = .done ∨ (s.liveSocket heartbeat.socket).isNone then none
      else
        some { s with
          store := fault.apply heartbeat.command s.store
          heartbeats := Function.update s.heartbeats id
            (some { heartbeat with stage := heartbeat.next fault }) }

/-- The transaction of an administrative write. -/
def administer (s : State) (id : AdministrationId) (token : TokenId) (write : TokenWrite) :
    Option State :=
  match s.administrations id, write.apply token s.store.deviceTokens with
  | none, some deviceTokens =>
      some { s with
        store := { s.store with deviceTokens }
        administrations := Function.update s.administrations id
          (some ⟨token, write, .invalidate⟩) }
  | _, _ => none

/-- The `DEL` of an administrative write, then the `PUBLISH` of its event. -/
def administration (s : State) (id : AdministrationId) : Option State :=
  match s.administrations id with
  | none => none
  | some administration =>
      if administration.stage = .done then none
      else
        let store :=
          if administration.stage = .invalidate then s.store.delTokenCache administration.token
          else s.store
        some { s with
          store
          administrations := Function.update s.administrations id
            (some { administration with stage := administration.next }) }

/-- The event of a published scope change is on its way. -/
def published (s : State) (id : AdministrationId) (token : TokenId) : Prop :=
  ∃ projectIds, s.administrations id = some ⟨token, .updateProjects projectIds, .done⟩

/-- `disconnectLocalDeviceTokenSessions` closes what the local map holds. -/
def disconnectLocalDeviceTokenSessions (s : State) (instanceId : InstanceId)
    (deviceTokenId : TokenId) (id : SocketId) : Option Socket :=
  (s.sockets id).map fun socket =>
    if socket.instanceId = instanceId ∧ s.localSockets instanceId socket.clientId = some id ∧
        socket.request.token = deviceTokenId then socket.close 4002
    else socket

/-- One instance receives a scope-changed event. -/
def deliverScopeChange (s : State) (id : AdministrationId) (instanceId : InstanceId) :
    Option State :=
  match s.administrations id with
  | some ⟨token, .updateProjects _, .done⟩ =>
      if s.handled id instanceId ∨ s.crashed instanceId then none
      else
        some { s with
          sockets := s.disconnectLocalDeviceTokenSessions instanceId token
          handled := Function.update s.handled id
            (Function.update (s.handled id) instanceId true) }
  | _ => none

/-- A process dies with its sockets and its local map. -/
def crash (s : State) (instanceId : InstanceId) : State :=
  { s with
    crashed := Function.update s.crashed instanceId true
    localSockets := Function.update s.localSockets instanceId fun _ => none }

/-- One awaited command of an invocation.  The answer of `SMEMBERS` is the set in
some order. -/
def dispatch (s : State) (id : Nat) (fault : Fault) (order : List ClientId) : Option State :=
  match s.invocations[id]? with
  | none => none
  | some invocation =>
      if invocation.stage = .ended ∨
          (invocation.stage = .listMembers ∧
            ¬order.Perm (s.store.members invocation.projectId)) then none
      else
        some { s with
          store := fault.apply invocation.command s.store
          invocations := s.invocations.set id (invocation.advance s.store fault order) }

/-! ## What each handler step does -/

variable {s t : State} {id : Nat} {fault : Fault} {order : List ClientId}

theorem liveSocket_eq_some {socket : Socket} :
    s.liveSocket id = some socket ↔
      s.sockets id = some socket ∧ s.crashed socket.instanceId = false := by
  simp [liveSocket, Option.filter_eq_some_iff]

theorem handshake_eq_some (h : s.handshake id fault = some t) :
    ∃ socket, s.liveSocket id = some socket ∧ socket.awaitsCommand = true ∧
      t = { s with
        store := fault.apply (socket.handshakeCommand (sessionToken socket id)) s.store
        }.setSocket id (socket.moveHandshake
          (if fault.throws then socket.handshakeThrown else socket.handshakeNext s.store)) := by
  unfold handshake at h
  split at h
  · contradiction
  · rename_i socket hlive
    split at h
    · rename_i hawaits
      exact ⟨socket, hlive, hawaits, (Option.some.inj h).symm⟩
    · contradiction

theorem attach_eq_some (h : s.attach id = some t) :
    ∃ socket record, s.liveSocket id = some socket ∧
      socket.handshake = .readToken (.done record) ∧
      ((validateForConnect record = none ∧
          t = s.setSocket id (socket.moveHandshake .unauthorized)) ∨
        ∃ token projectIds, validateForConnect record = some (token, projectIds) ∧
          t = (s.setLocal socket.instanceId socket.clientId id).setSocket id
            { socket with
              projects := some projectIds
              handshake := .setSession }) := by
  unfold attach at h
  split at h
  · contradiction
  · rename_i socket hlive
    split at h
    · rename_i record hrecord
      refine ⟨socket, record, hlive, hrecord, ?_⟩
      split at h
      · rename_i hvalid
        exact Or.inl ⟨hvalid, (Option.some.inj h).symm⟩
      · rename_i token projectIds hvalid
        exact Or.inr ⟨token, projectIds, hvalid, (Option.some.inj h).symm⟩
    · contradiction

theorem bind_eq_some (h : s.bind id = some t) :
    ∃ socket, s.liveSocket id = some socket ∧ socket.handshake = .bind ∧
      t = s.setSocket id { socket with
        pingTimer := .running
        handshake := .finished } := by
  unfold bind at h
  split at h
  · contradiction
  · rename_i socket hlive
    split at h
    · rename_i hbind
      exact ⟨socket, hlive, hbind, (Option.some.inj h).symm⟩
    · contradiction

theorem closeEvent_eq_some (h : s.closeEvent id = some t) :
    ∃ socket, s.liveSocket id = some socket ∧ socket.disconnect = .idle ∧
      t = (if socket.projects.isSome then s.deleteLocal socket.instanceId socket.clientId id
        else s).setSocket id socket.closed := by
  unfold closeEvent at h
  split at h
  · contradiction
  · rename_i socket hlive
    split at h
    · rename_i hidle
      exact ⟨socket, hlive, hidle, (Option.some.inj h).symm⟩
    · contradiction

theorem disconnect_eq_some (h : s.disconnect id fault = some t) :
    ∃ socket, s.liveSocket id = some socket ∧ socket.disconnect ≠ .idle ∧
      socket.disconnect ≠ .done ∧
      t = { s with
        store := fault.apply (socket.disconnectCommand (sessionToken socket id)) s.store
        }.setSocket id { socket with
          disconnect :=
            if fault.throws then .done
            else socket.disconnectNext (sessionToken socket id) s.store } := by
  unfold disconnect at h
  split at h
  · contradiction
  · rename_i socket hlive
    split at h
    · contradiction
    · rename_i hactive
      rw [not_or] at hactive
      exact ⟨socket, hlive, hactive.1, hactive.2, (Option.some.inj h).symm⟩

theorem refresh_eq_some (h : s.refresh id fault = some t) :
    ∃ heartbeat, s.heartbeats id = some heartbeat ∧
      t = { s with
        store := fault.apply heartbeat.command s.store
        heartbeats := Function.update s.heartbeats id
          (some { heartbeat with stage := heartbeat.next fault }) } := by
  unfold refresh at h
  split at h
  · contradiction
  · rename_i heartbeat hheartbeat
    split at h
    · contradiction
    · exact ⟨heartbeat, hheartbeat, (Option.some.inj h).symm⟩

theorem dispatch_eq_some (h : s.dispatch id fault order = some t) :
    ∃ invocation, s.invocations[id]? = some invocation ∧ invocation.stage ≠ .ended ∧
      (invocation.stage = .listMembers →
        order.Perm (s.store.members invocation.projectId)) ∧
      t = { s with
        store := fault.apply invocation.command s.store
        invocations := s.invocations.set id (invocation.advance s.store fault order) } := by
  unfold dispatch at h
  split at h
  · contradiction
  · rename_i invocation hinvocation
    split at h
    · contradiction
    · rename_i hguard
      rw [not_or, not_and, not_not] at hguard
      exact ⟨invocation, hinvocation, hguard.1, hguard.2, (Option.some.inj h).symm⟩

end State

/-! ## The machine -/

/-- Dispatch of an action to the function that runs it. -/
def step (s : State) : Action → Option State
  | .accept id instanceId request => s.accept id instanceId request
  | .handshake id fault => s.handshake id fault
  | .attach id => s.attach id
  | .bind id => s.bind id
  | .closeEvent id => s.closeEvent id
  | .disconnect id fault => s.disconnect id fault
  | .heartbeat id socket => s.heartbeat id socket
  | .refresh id fault => s.refresh id fault
  | .administer id token write => s.administer id token write
  | .administration id => s.administration id
  | .deliverScopeChange id instanceId => s.deliverScopeChange id instanceId
  | .expireSession clientId =>
      some { s with store := { s.store with
        session := Function.update s.store.session clientId none } }
  | .expirePresence clientId => some { s with store := s.store.delPresence clientId }
  | .expireMaxInFlight clientId => some { s with store := s.store.delMaxInFlight clientId }
  | .expireTokenCache token => some { s with store := s.store.delTokenCache token }
  | .crash instanceId => some (s.crash instanceId)
  | .invoke projectId requested =>
      some { s with invocations := s.invocations ++ [.start projectId requested] }
  | .dispatch id fault order => s.dispatch id fault order

/-- The gateway cluster. -/
def machine : Machine State Action where
  initial s := ∃ deviceTokens devices, s = State.start deviceTokens devices
  step := step

/-! ## A device that connects -/

/-- Tokens 0 and 1 are active; they grant project 1 and project 2. -/
def sampleTokens : DeviceTokenTable :=
  Function.update (Function.update (fun _ => none) 0 (some ⟨.active, [1], false⟩))
    1 (some ⟨.active, [2], false⟩)

/-- No device has ever connected. -/
def noDevices : ClientId → ClientDevices := fun _ => ⟨none, [], 0⟩

/-- A cluster with the sample tokens. -/
def sampleState : State := .start sampleTokens noDevices

/-- `"device-a"` presents a token and declares its capacity. -/
def sampleRequest (token : TokenId) (maxInFlight : Int) : ConnectRequest :=
  ⟨token, "device-a", none, none, none, .integer maxInFlight⟩

/-- A whole `handleConnection` for a token of one project: the uncached token,
the synchronous stretch, seven commands and the heartbeat. -/
def connectTrace (id : SocketId) (instanceId : InstanceId) (request : ConnectRequest) :
    List Action :=
  .accept id instanceId request :: List.replicate 4 (.handshake id .none) ++
    .attach id :: List.replicate 7 (.handshake id .none) ++ [.bind id]

/-- The same for a token that is cached. -/
def reconnectTrace (id : SocketId) (instanceId : InstanceId) (request : ConnectRequest) :
    List Action :=
  [.accept id instanceId request, .handshake id .none, .attach id] ++
    List.replicate 7 (.handshake id .none) ++ [.bind id]

/-- Presence, limit and slot of a new invocation, number `id`, that names
`"device-a"`. -/
def acquireTrace (id : Nat) : List Action :=
  .invoke 1 (some "device-a") :: List.replicate 3 (.dispatch id .none [])

end Gateway
end R2RPC
