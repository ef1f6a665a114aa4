import R2RPC.Gateway.Store

/-!
# Connection handlers

One accepted WebSocket with the state of its two handlers.  Between two awaits a
handler runs undisturbed, so each await is a stage: {lit}`handshakeCommand` and
{lit}`disconnectCommand` say what the awaited command does to the store, and
{lit}`handshakeNext` and {lit}`disconnectNext` where the handler goes on.

Main results:

- Definition {lit}`Socket.handshakeCommand`: {lit}`handleConnection`, command by
  command.
- Definition {lit}`Socket.disconnectCommand`: {lit}`handleDisconnect`, command by
  command.
- Definition {lit}`Heartbeat.command`: {lit}`handleHeartbeat`.

Current gaps:

- The frames of a connection other than heartbeats are not part of this layer.
-/

namespace R2RPC
namespace Gateway

open DeviceToken

/-! ## Sockets -/

/-- Query parameters and address of the upgrade request. -/
structure ConnectRequest where
  token : TokenId
  clientId : ClientId
  platform : Option String
  lastIp : Option String
  extra : Option String
  maxInFlight : ReportedMaximum
deriving DecidableEq

/-- `metadata` of an authenticated connection. -/
def ConnectRequest.metadata (request : ConnectRequest) : DeviceMeta :=
  ⟨request.platform, request.lastIp, request.extra, clampMaxInFlight request.maxInFlight⟩

inductive ReadyState where
  | open
  | closing
  | closed
deriving DecidableEq, Repr

/-- The interval of `startHeartbeat`. -/
inductive PingTimer where
  | unset
  | running
  | cleared
deriving DecidableEq, Repr

/-- The await at which `handleConnection` stands, or how it has ended. -/
inductive HandshakeStage where
  | readToken (stage : GetOrLoad (Option CachedDeviceToken))
  | loadProjects (record : CachedDeviceToken)
  | setSession
  | selectDevice
  | writeDevice (existing : Option (DeviceId × Bool))
  | setPresence
  | addMember (projectId : ProjectId) (remaining : List ProjectId)
  | setMaxInFlight
  | resetInFlight
  | bind
  | finished
  | unauthorized
  | unavailable
deriving DecidableEq

/-- The await at which `handleDisconnect` stands; it is idle until the close event. -/
inductive DisconnectStage where
  | idle
  | unregister
  | delPresence
  | delMaxInFlight
  | delInFlight
  | removeMember (projectId : ProjectId) (remaining : List ProjectId)
  | markOffline
  | done
deriving DecidableEq

/-- A socket.  `_clientId`, `_deviceTokenId`, `_maxInFlight`, `_projects` and
`_sessionToken` are all set in one synchronous stretch, after which `projects`
holds the granted scope. -/
structure Socket where
  instanceId : InstanceId
  request : ConnectRequest
  projects : Option (List ProjectId)
  pingTimer : PingTimer
  readyState : ReadyState
  closeCode : Option Nat
  handshake : HandshakeStage
  disconnect : DisconnectStage
deriving DecidableEq

namespace Socket

/-- `_clientId`, once it is set. -/
def clientId (socket : Socket) : ClientId := socket.request.clientId

/-- `_maxInFlight`, once it is set. -/
def maxInFlight (socket : Socket) : Nat := clampMaxInFlight socket.request.maxInFlight

/-- The granted scope, empty while there is none. -/
def projectIds (socket : Socket) : List ProjectId := socket.projects.getD []

/-- `socket.close(code)` acts on an open socket only. -/
def close (socket : Socket) (code : Nat) : Socket :=
  if socket.readyState = .open then
    { socket with
      readyState := .closing
      closeCode := some code }
  else socket

/-- `handleConnection` up to its first await: `authenticate` refuses an empty
client id without asking for the token. -/
def accept (instanceId : InstanceId) (request : ConnectRequest) : Socket :=
  let socket : Socket :=
    ⟨instanceId, request, none, .unset, .open, none, .readToken .get, .idle⟩
  if request.clientId = "" then { socket with handshake := .unauthorized }.close 4001
  else socket

/-! ## handleConnection -/

/-- The loop of `online` over the projects that are not members yet. -/
def nextMember : List ProjectId → HandshakeStage
  | [] => .setMaxInFlight
  | projectId :: remaining => .addMember projectId remaining

/-- Effect of the awaited command on the stores. -/
def handshakeCommand (socket : Socket) (sessionToken : SessionToken) (store : Store) : Store :=
  match socket.handshake with
  | .readToken (.set record) => store.setTokenCache socket.request.token record
  | .setSession => store.setSession socket.clientId sessionToken
  | .writeDevice existing =>
      (store.writeDevice socket.clientId existing socket.request.token
        socket.request.metadata).getD store
  | .setPresence => store.setPresence socket.clientId socket.projectIds
  | .addMember projectId _ => store.sadd projectId socket.clientId
  | .setMaxInFlight => store.setMaxInFlight socket.clientId socket.maxInFlight
  | .resetInFlight => store.resetInFlight socket.clientId
  | _ => store

/-- Where `handleConnection` goes on when the command has answered. -/
def handshakeNext (socket : Socket) (store : Store) : HandshakeStage :=
  match socket.handshake with
  | .readToken .get =>
      .readToken (.afterGet (fun _ => true) (store.tokenCache socket.request.token))
  | .readToken .load =>
      match aliveRow store.deviceTokens socket.request.token with
      | none => .readToken (.set none)
      | some row => .loadProjects ⟨socket.request.token, row.status, []⟩
  | .loadProjects record =>
      let projectIds := ((store.deviceTokens socket.request.token).map (·.projectIds)).getD []
      .readToken (.set (some { record with projectIds }))
  | .readToken (.set record) => .readToken (.done record)
  | .setSession => .selectDevice
  | .selectDevice => .writeDevice (store.devices socket.clientId).selectExisting
  | .writeDevice existing =>
      match store.writeDevice socket.clientId existing socket.request.token
          socket.request.metadata with
      | some _ => .setPresence
      | none => .unavailable
  | .setPresence => nextMember socket.projectIds
  | .addMember _ remaining => nextMember remaining
  | .setMaxInFlight => .resetInFlight
  | .resetInFlight => .bind
  | stage => stage

/-- Where `handleConnection` goes on when the command has thrown: the cache
swallows Redis errors, `authenticate` and `registerConnection` give up. -/
def handshakeThrown (socket : Socket) : HandshakeStage :=
  match socket.handshake with
  | .readToken .get => .readToken .load
  | .readToken (.set record) => .readToken (.done record)
  | .readToken _ | .loadProjects _ => .unauthorized
  | _ => .unavailable

/-- The close code of a handshake that has just failed. -/
def moveHandshake (socket : Socket) (stage : HandshakeStage) : Socket :=
  match stage with
  | .unauthorized => { socket with handshake := stage }.close 4001
  | .unavailable => { socket with handshake := stage }.close 4503
  | _ => { socket with handshake := stage }

/-- The handler is waiting for a command of its own. -/
def awaitsCommand (socket : Socket) : Bool :=
  match socket.handshake with
  | .readToken (.done _) | .readToken .failed | .bind => false
  | .finished | .unauthorized | .unavailable => false
  | _ => true

/-! ## handleDisconnect -/

/-- The loop of `offline` over the projects that are still members. -/
def nextRemoval : List ProjectId → DisconnectStage
  | [] => .markOffline
  | projectId :: remaining => .removeMember projectId remaining

/-- Effect of the awaited command on the stores. -/
def disconnectCommand (socket : Socket) (sessionToken : SessionToken) (store : Store) : Store :=
  match socket.disconnect with
  | .unregister => store.compareAndDelete socket.clientId sessionToken
  | .delPresence => store.delPresence socket.clientId
  | .delMaxInFlight => store.delMaxInFlight socket.clientId
  | .delInFlight => store.resetInFlight socket.clientId
  | .removeMember projectId _ => store.srem projectId socket.clientId
  | .markOffline => store.markOffline socket.clientId
  | _ => store

/-- Where `handleDisconnect` goes on when the command has answered. -/
def disconnectNext (socket : Socket) (sessionToken : SessionToken) (store : Store) :
    DisconnectStage :=
  match socket.disconnect with
  | .unregister =>
      if store.ownsSession socket.clientId sessionToken then .delPresence else .done
  | .delPresence => .delMaxInFlight
  | .delMaxInFlight => .delInFlight
  | .delInFlight => nextRemoval socket.projectIds
  | .removeMember _ remaining => nextRemoval remaining
  | .markOffline => .done
  | stage => stage

/-- The synchronous head of `handleDisconnect`: the timer is cleared if there is
one, and a socket that was never attached has nothing to clean up. -/
def closed (socket : Socket) : Socket :=
  { socket with
    readyState := .closed
    pingTimer := if socket.pingTimer = .running then .cleared else socket.pingTimer
    disconnect := if socket.projects.isSome then .unregister else .done }

end Socket

/-! ## Heartbeats -/

/-- The await at which one `handleHeartbeat` call stands. -/
inductive HeartbeatStage where
  | refresh
  | setMaxInFlight
  | refreshSession
  | done
deriving DecidableEq, Repr

/-- A `handleHeartbeat` call on a bound socket. -/
structure Heartbeat where
  socket : SocketId
  clientId : ClientId
  maxInFlight : Nat
  stage : HeartbeatStage
deriving DecidableEq, Repr

namespace Heartbeat

/-- Effect of the awaited command; the two `EXPIRE`s leave the values alone. -/
def command (heartbeat : Heartbeat) (store : Store) : Store :=
  match heartbeat.stage with
  | .setMaxInFlight => store.setMaxInFlight heartbeat.clientId heartbeat.maxInFlight
  | _ => store

/-- Where the call goes on; an exception ends it. -/
def next (heartbeat : Heartbeat) (fault : Fault) : HeartbeatStage :=
  if fault.throws then .done
  else
    match heartbeat.stage with
    | .refresh => .setMaxInFlight
    | .setMaxInFlight => .refreshSession
    | .refreshSession => .done
    | .done => .done

end Heartbeat

end Gateway
end R2RPC
