import R2RPC.Gateway.System

/-!
# What one step can do

Every step is a command of one handler, an event or a synchronous stretch.  This
module says once what a step can do to the stores, to one socket and to the
invocations; invariants are proved from these lemmas and unfold no handler.

Main results:

- Inductive {lit}`GatewayStep` and theorem {lit}`GatewayStep.of_step`: the effect of a
  step on the whole cluster.
- Inductive {lit}`StoreStep` and theorem {lit}`step_store`: the effect of a step on
  the stores.
- Inductive {lit}`SocketStep` and theorem {lit}`step_socket`: the effect of a step
  on one socket.
- Theorem {lit}`step_invocations`: only {lit}`dispatch` moves an invocation.
- Inductive {lit}`ClusterStep` and theorem {lit}`step_cluster`: the effect of a step
  on the local maps, the administrative writes and the processes.

Current gaps:

- None.
-/

namespace R2RPC
namespace Gateway

open Interleaving DeviceToken

variable {s t : State} {a : Action} {k : SocketId} {socket socket' : Socket}

/-! ## The whole cluster -/

/-- The effects of an action, with the guards under which it has them. -/
inductive GatewayStep (s : State) : Action → State → Prop where
  | accept (id : SocketId) (instanceId : InstanceId) (request : ConnectRequest)
      (hfree : s.sockets id = none) :
      GatewayStep s (.accept id instanceId request) (s.setSocket id (.accept instanceId request))
  | handshake (id : SocketId) (fault : Fault) (socket : Socket)
      (hlive : s.liveSocket id = some socket) (hawaits : socket.awaitsCommand = true) :
      GatewayStep s (.handshake id fault) ({ s with
        store := fault.apply (socket.handshakeCommand (State.sessionToken socket id)) s.store
        }.setSocket id (socket.moveHandshake
          (if fault.throws then socket.handshakeThrown else socket.handshakeNext s.store)))
  | refused (id : SocketId) (socket : Socket) (record : Option CachedDeviceToken)
      (hlive : s.liveSocket id = some socket)
      (hstage : socket.handshake = .readToken (.done record)) :
      GatewayStep s (.attach id) (s.setSocket id (socket.moveHandshake .unauthorized))
  | attached (id : SocketId) (socket : Socket) (record : Option CachedDeviceToken)
      (token : TokenId) (projectIds : List ProjectId) (hlive : s.liveSocket id = some socket)
      (hstage : socket.handshake = .readToken (.done record))
      (hvalid : validateForConnect record = some (token, projectIds)) :
      GatewayStep s (.attach id)
        ((s.setLocal socket.instanceId socket.clientId id).setSocket id { socket with
          projects := some projectIds
          handshake := .setSession })
  | bound (id : SocketId) (socket : Socket) (hlive : s.liveSocket id = some socket)
      (hstage : socket.handshake = .bind) :
      GatewayStep s (.bind id) (s.setSocket id { socket with
        pingTimer := .running
        handshake := .finished })
  | closed (id : SocketId) (socket : Socket) (hlive : s.liveSocket id = some socket)
      (hidle : socket.disconnect = .idle) (hscope : socket.projects.isSome = true) :
      GatewayStep s (.closeEvent id)
        ((s.deleteLocal socket.instanceId socket.clientId id).setSocket id socket.closed)
  /-- The socket closes before it is in the local map. -/
  | closedEarly (id : SocketId) (socket : Socket) (hlive : s.liveSocket id = some socket)
      (hidle : socket.disconnect = .idle) :
      GatewayStep s (.closeEvent id) (s.setSocket id socket.closed)
  | disconnect (id : SocketId) (fault : Fault) (socket : Socket)
      (hlive : s.liveSocket id = some socket) (hactive : socket.disconnect ≠ .idle)
      (hundone : socket.disconnect ≠ .done) :
      GatewayStep s (.disconnect id fault) ({ s with
        store := fault.apply (socket.disconnectCommand (State.sessionToken socket id)) s.store
        }.setSocket id { socket with
          disconnect :=
            if fault.throws then .done
            else socket.disconnectNext (State.sessionToken socket id) s.store })
  | heartbeat (id : HeartbeatId) (socketId : SocketId)
      (heartbeats : HeartbeatId → Option Heartbeat) :
      GatewayStep s (.heartbeat id socketId) { s with heartbeats }
  | refresh (id : HeartbeatId) (fault : Fault) (heartbeat : Heartbeat)
      (hheartbeat : s.heartbeats id = some heartbeat) :
      GatewayStep s (.refresh id fault) { s with
        store := fault.apply heartbeat.command s.store
        heartbeats := Function.update s.heartbeats id
          (some { heartbeat with stage := heartbeat.next fault }) }
  | administer (id : AdministrationId) (token : TokenId) (write : TokenWrite)
      (deviceTokens : DeviceTokenTable) (hfree : s.administrations id = none)
      (hwrite : write.apply token s.store.deviceTokens = some deviceTokens) :
      GatewayStep s (.administer id token write) { s with
        store := { s.store with deviceTokens }
        administrations := Function.update s.administrations id
          (some ⟨token, write, .invalidate⟩) }
  | administration (id : AdministrationId) (administration : Administration)
      (hget : s.administrations id = some administration)
      (hundone : administration.stage ≠ .done) :
      GatewayStep s (.administration id) { s with
        store :=
          if administration.stage = .invalidate then s.store.delTokenCache administration.token
          else s.store
        administrations := Function.update s.administrations id
          (some { administration with stage := administration.next }) }
  | delivered (id : AdministrationId) (instanceId : InstanceId) (token : TokenId)
      (projectIds : List ProjectId)
      (hget : s.administrations id = some ⟨token, .updateProjects projectIds, .done⟩) :
      GatewayStep s (.deliverScopeChange id instanceId) { s with
        sockets := s.disconnectLocalDeviceTokenSessions instanceId token
        handled := Function.update s.handled id
          (Function.update (s.handled id) instanceId true) }
  | expireSession (clientId : ClientId) :
      GatewayStep s (.expireSession clientId) { s with store := { s.store with
        session := Function.update s.store.session clientId none } }
  | expirePresence (clientId : ClientId) :
      GatewayStep s (.expirePresence clientId) { s with store := s.store.delPresence clientId }
  | expireMaxInFlight (clientId : ClientId) :
      GatewayStep s (.expireMaxInFlight clientId)
        { s with store := s.store.delMaxInFlight clientId }
  | expireTokenCache (token : TokenId) :
      GatewayStep s (.expireTokenCache token) { s with store := s.store.delTokenCache token }
  | crashed (instanceId : InstanceId) : GatewayStep s (.crash instanceId) (s.crash instanceId)
  | invoked (projectId : ProjectId) (requested : Option ClientId) :
      GatewayStep s (.invoke projectId requested)
        { s with invocations := s.invocations ++ [.start projectId requested] }
  | dispatched (id : Nat) (fault : Fault) (order : List ClientId) (invocation : Invocation)
      (hget : s.invocations[id]? = some invocation) :
      GatewayStep s (.dispatch id fault order) { s with
        store := fault.apply invocation.command s.store
        invocations := s.invocations.set id (invocation.advance s.store fault order) }

/-- Every step is one of these. -/
theorem GatewayStep.of_step (hstep : step s a = some t) : GatewayStep s a t := by
  cases a with
  | accept id instanceId request =>
      simp only [step, State.accept] at hstep
      split at hstep
      · contradiction
      next hfree =>
        rw [not_or, Option.not_isSome_iff_eq_none] at hfree
        exact Option.some.inj hstep ▸ .accept id instanceId request hfree.1
  | handshake id fault =>
      rcases State.handshake_eq_some hstep with ⟨socket, hlive, hawaits, rfl⟩
      exact .handshake id fault socket hlive hawaits
  | attach id =>
      rcases State.attach_eq_some hstep with
        ⟨socket, record, hlive, hstage, ⟨-, rfl⟩ | ⟨token, projectIds, hvalid, rfl⟩⟩
      · exact .refused id socket record hlive hstage
      · exact .attached id socket record token projectIds hlive hstage hvalid
  | bind id =>
      rcases State.bind_eq_some hstep with ⟨socket, hlive, hstage, rfl⟩
      exact .bound id socket hlive hstage
  | closeEvent id =>
      rcases State.closeEvent_eq_some hstep with ⟨socket, hlive, hidle, rfl⟩
      split
      next hscope => exact .closed id socket hlive hidle hscope
      next => exact .closedEarly id socket hlive hidle
  | disconnect id fault =>
      rcases State.disconnect_eq_some hstep with ⟨socket, hlive, hactive, hundone, rfl⟩
      exact .disconnect id fault socket hlive hactive hundone
  | heartbeat id socketId =>
      simp only [step, State.heartbeat] at hstep
      split at hstep
      · split at hstep
        · exact Option.some.inj hstep ▸ .heartbeat id socketId _
        · contradiction
      · contradiction
  | refresh id fault =>
      rcases State.refresh_eq_some hstep with ⟨heartbeat, hheartbeat, rfl⟩
      exact .refresh id fault heartbeat hheartbeat
  | administer id token write =>
      simp only [step, State.administer] at hstep
      split at hstep
      next deviceTokens hfree hwrite =>
        exact Option.some.inj hstep ▸ .administer id token write deviceTokens hfree hwrite
      · contradiction
  | administration id =>
      simp only [step, State.administration] at hstep
      split at hstep
      · contradiction
      next administration hget =>
        split at hstep
        · contradiction
        next hundone =>
          exact Option.some.inj hstep ▸ .administration id administration hget hundone
  | deliverScopeChange id instanceId =>
      simp only [step, State.deliverScopeChange] at hstep
      split at hstep
      next token projectIds hget =>
        split at hstep
        · contradiction
        · exact Option.some.inj hstep ▸ .delivered id instanceId token projectIds hget
      · contradiction
  | expireSession clientId => exact Option.some.inj hstep ▸ .expireSession clientId
  | expirePresence clientId => exact Option.some.inj hstep ▸ .expirePresence clientId
  | expireMaxInFlight clientId => exact Option.some.inj hstep ▸ .expireMaxInFlight clientId
  | expireTokenCache token => exact Option.some.inj hstep ▸ .expireTokenCache token
  | crash instanceId => exact Option.some.inj hstep ▸ .crashed instanceId
  | invoke projectId requested => exact Option.some.inj hstep ▸ .invoked projectId requested
  | dispatch id fault order =>
      rcases State.dispatch_eq_some hstep with ⟨invocation, hget, -, -, rfl⟩
      exact .dispatched id fault order invocation hget

/-- `deleteLocal` changes the local maps only. -/
theorem State.deleteLocal_eq (s : State) (instanceId : InstanceId) (clientId : ClientId)
    (id : SocketId) : ∃ localSockets,
      s.deleteLocal instanceId clientId id = { s with localSockets } := by
  unfold deleteLocal
  split
  · exact ⟨_, rfl⟩
  · exact ⟨s.localSockets, rfl⟩

/-! ## The stores -/

/-- The stores after a step: unchanged, or changed by one executed command. -/
inductive StoreStep (s : State) (a : Action) : Store → Prop where
  | same : StoreStep s a s.store
  | handshake (id : SocketId) (fault : Fault) (socket : Socket) (ha : a = .handshake id fault)
      (hlive : s.liveSocket id = some socket) (hawaits : socket.awaitsCommand = true)
      (hrun : fault.executes = true) :
      StoreStep s a (socket.handshakeCommand (State.sessionToken socket id) s.store)
  | disconnect (id : SocketId) (fault : Fault) (socket : Socket) (ha : a = .disconnect id fault)
      (hlive : s.liveSocket id = some socket) (hrun : fault.executes = true) :
      StoreStep s a (socket.disconnectCommand (State.sessionToken socket id) s.store)
  | heartbeat (id : HeartbeatId) (fault : Fault) (heartbeat : Heartbeat)
      (ha : a = .refresh id fault) (hheartbeat : s.heartbeats id = some heartbeat) :
      StoreStep s a (heartbeat.command s.store)
  | administer (id : AdministrationId) (token : TokenId) (write : TokenWrite)
      (deviceTokens : DeviceTokenTable) (ha : a = .administer id token write)
      (hwrite : write.apply token s.store.deviceTokens = some deviceTokens) :
      StoreStep s a { s.store with deviceTokens }
  | delTokenCache (token : TokenId) : StoreStep s a (s.store.delTokenCache token)
  | expireSession (clientId : ClientId) (ha : a = .expireSession clientId) :
      StoreStep s a { s.store with
        session := Function.update s.store.session clientId none }
  | expirePresence (clientId : ClientId) (ha : a = .expirePresence clientId) :
      StoreStep s a (s.store.delPresence clientId)
  | expireMaxInFlight (clientId : ClientId) (ha : a = .expireMaxInFlight clientId) :
      StoreStep s a (s.store.delMaxInFlight clientId)
  | dispatch (id : Nat) (fault : Fault) (order : List ClientId) (invocation : Invocation)
      (ha : a = .dispatch id fault order) (hget : s.invocations[id]? = some invocation)
      (hrun : fault.executes = true) : StoreStep s a (invocation.command s.store)

theorem step_store (hstep : step s a = some t) : StoreStep s a t.store := by
  cases GatewayStep.of_step hstep with
  | accept | refused | attached | bound | closedEarly | heartbeat | delivered | crashed | invoked =>
      exact .same
  | handshake id fault socket hlive hawaits =>
      rcases fault.apply_cases (socket.handshakeCommand (State.sessionToken socket id)) s.store
        with hskip | ⟨hrun, happly⟩
      · simp only [State.setSocket, hskip]
        exact .same
      · simp only [State.setSocket, happly]
        exact .handshake id fault socket rfl hlive hawaits hrun
  | closed id socket =>
      rcases s.deleteLocal_eq socket.instanceId socket.clientId id with ⟨_, heq⟩
      rw [heq]
      exact .same
  | disconnect id fault socket hlive =>
      rcases fault.apply_cases (socket.disconnectCommand (State.sessionToken socket id)) s.store
        with hskip | ⟨hrun, happly⟩
      · simp only [State.setSocket, hskip]
        exact .same
      · simp only [State.setSocket, happly]
        exact .disconnect id fault socket rfl hlive hrun
  | refresh id fault heartbeat hheartbeat =>
      rcases fault.apply_cases heartbeat.command s.store with hskip | ⟨-, happly⟩
      · simp only [hskip]
        exact .same
      · simp only [happly]
        exact .heartbeat id fault heartbeat rfl hheartbeat
  | administer id token write deviceTokens hfree hwrite =>
      exact .administer id token write deviceTokens rfl hwrite
  | administration id administration =>
      simp only
      split
      · exact .delTokenCache _
      · exact .same
  | expireSession clientId => exact .expireSession clientId rfl
  | expirePresence clientId => exact .expirePresence clientId rfl
  | expireMaxInFlight clientId => exact .expireMaxInFlight clientId rfl
  | expireTokenCache token => exact .delTokenCache token
  | dispatched id fault order invocation hget =>
      rcases fault.apply_cases invocation.command s.store with hskip | ⟨hrun, happly⟩
      · simp only [hskip]
        exact .same
      · simp only [happly]
        exact .dispatch id fault order invocation rfl hget hrun

/-! ## Invocations -/

/-- Outside dispatch a step leaves the invocations alone or starts a new one. -/
theorem step_invocations (hdispatch : ∀ id fault order, a ≠ .dispatch id fault order)
    (hstep : step s a = some t) :
    t.invocations = s.invocations ∨
      ∃ projectId requested, t.invocations = s.invocations ++ [.start projectId requested] := by
  cases GatewayStep.of_step hstep with
  | invoked projectId requested => exact Or.inr ⟨projectId, requested, rfl⟩
  | dispatched id fault order => exact absurd rfl (hdispatch id fault order)
  | closed id socket =>
      rcases s.deleteLocal_eq socket.instanceId socket.clientId id with ⟨_, heq⟩
      rw [heq]
      exact Or.inl rfl
  | _ => exact Or.inl rfl

/-! ## The rest of the cluster -/

/-- The local maps, the administrative writes and the processes after a step. -/
inductive ClusterStep (s : State) (a : Action) : State → Prop where
  | same (store : Store) (sockets : SocketId → Option Socket)
      (heartbeats : HeartbeatId → Option Heartbeat) (invocations : List Invocation) :
      ClusterStep s a { s with store, sockets, heartbeats, invocations }
  | attached (id : SocketId) (socket : Socket) (projectIds : List ProjectId)
      (ha : a = .attach id) (hlive : s.liveSocket id = some socket) :
      ClusterStep s a ((s.setLocal socket.instanceId socket.clientId id).setSocket id
        { socket with
          projects := some projectIds
          handshake := .setSession })
  | closed (id : SocketId) (socket : Socket) (ha : a = .closeEvent id)
      (hlive : s.liveSocket id = some socket) (hscope : socket.projects.isSome = true) :
      ClusterStep s a
        ((s.deleteLocal socket.instanceId socket.clientId id).setSocket id socket.closed)
  | administered (id : AdministrationId) (token : TokenId) (write : TokenWrite)
      (ha : a = .administer id token write) (hfree : s.administrations id = none)
      (store : Store) :
      ClusterStep s a { s with
        store
        administrations := Function.update s.administrations id
          (some ⟨token, write, .invalidate⟩) }
  | administration (id : AdministrationId) (administration : Administration)
      (ha : a = .administration id) (hget : s.administrations id = some administration)
      (hundone : administration.stage ≠ .done) (store : Store) :
      ClusterStep s a { s with
        store
        administrations := Function.update s.administrations id
          (some { administration with stage := administration.next }) }
  | delivered (id : AdministrationId) (instanceId : InstanceId) (token : TokenId)
      (projectIds : List ProjectId) (ha : a = .deliverScopeChange id instanceId)
      (hget : s.administrations id = some ⟨token, .updateProjects projectIds, .done⟩) :
      ClusterStep s a { s with
        sockets := s.disconnectLocalDeviceTokenSessions instanceId token
        handled := Function.update s.handled id
          (Function.update (s.handled id) instanceId true) }
  | crashed (instanceId : InstanceId) (ha : a = .crash instanceId) :
      ClusterStep s a (s.crash instanceId)

theorem step_cluster (hstep : step s a = some t) : ClusterStep s a t := by
  cases GatewayStep.of_step hstep with
  | attached id socket record token projectIds hlive =>
      exact .attached id socket projectIds rfl hlive
  | closed id socket hlive hidle hscope => exact .closed id socket rfl hlive hscope
  | administer id token write deviceTokens hfree =>
      exact .administered id token write rfl hfree _
  | administration id administration hget hundone =>
      exact .administration id administration rfl hget hundone _
  | delivered id instanceId token projectIds hget =>
      exact .delivered id instanceId token projectIds rfl hget
  | crashed instanceId => exact .crashed instanceId rfl
  | _ => exact .same _ _ _ _

@[simp]
theorem State.deleteLocal_crashed (s : State) (instanceId : InstanceId) (clientId : ClientId)
    (id : SocketId) : (s.deleteLocal instanceId clientId id).crashed = s.crashed := by
  unfold deleteLocal
  split <;> rfl

/-- A process that runs after a step has run before it. -/
theorem step_crashed {instanceId : InstanceId} (hstep : step s a = some t)
    (hrunning : t.crashed instanceId = false) : s.crashed instanceId = false := by
  cases step_cluster hstep with
  | same store sockets heartbeats invocations => exact hrunning
  | attached id socket projectIds ha hlive => exact hrunning
  | closed id socket ha hlive hscope => simpa [State.setSocket] using hrunning
  | administered id token write ha hfree store => exact hrunning
  | administration id administration ha hget hundone store => exact hrunning
  | delivered id instanceId token projectIds ha hget => exact hrunning
  | crashed other ha =>
      by_cases hsame : instanceId = other
      · simp [State.crash, hsame] at hrunning
      · simpa [State.crash, hsame] using hrunning

/-! ## One socket -/

/-- The ways in which a step changes a socket that exists before it. -/
inductive SocketStep (s : State) (a : Action) (k : SocketId) (socket : Socket) :
    Socket → Prop where
  | same : SocketStep s a k socket socket
  | handshake (fault : Fault) (ha : a = .handshake k fault)
      (hlive : s.liveSocket k = some socket) (hawaits : socket.awaitsCommand = true) :
      SocketStep s a k socket (socket.moveHandshake
        (if fault.throws then socket.handshakeThrown else socket.handshakeNext s.store))
  | refused (ha : a = .attach k) (hlive : s.liveSocket k = some socket)
      (record : Option CachedDeviceToken) (hstage : socket.handshake = .readToken (.done record)) :
      SocketStep s a k socket (socket.moveHandshake .unauthorized)
  | attached (ha : a = .attach k) (hlive : s.liveSocket k = some socket)
      (record : Option CachedDeviceToken) (hstage : socket.handshake = .readToken (.done record))
      (token : TokenId) (projectIds : List ProjectId)
      (hvalid : validateForConnect record = some (token, projectIds)) :
      SocketStep s a k socket { socket with
        projects := some projectIds
        handshake := .setSession }
  | bound (ha : a = .bind k) (hlive : s.liveSocket k = some socket)
      (hstage : socket.handshake = .bind) :
      SocketStep s a k socket { socket with
        pingTimer := .running
        handshake := .finished }
  | closed (ha : a = .closeEvent k) (hlive : s.liveSocket k = some socket)
      (hidle : socket.disconnect = .idle) : SocketStep s a k socket socket.closed
  | disconnect (fault : Fault) (ha : a = .disconnect k fault)
      (hlive : s.liveSocket k = some socket) (hactive : socket.disconnect ≠ .idle)
      (hundone : socket.disconnect ≠ .done) :
      SocketStep s a k socket { socket with
        disconnect :=
          if fault.throws then .done
          else socket.disconnectNext (State.sessionToken socket k) s.store }
  | scopeChanged (id : AdministrationId) (instanceId : InstanceId)
      (ha : a = .deliverScopeChange id instanceId) : SocketStep s a k socket (socket.close 4002)

theorem Socket.close_request (socket : Socket) (code : Nat) :
    (socket.close code).request = socket.request ∧
      (socket.close code).instanceId = socket.instanceId ∧
      (socket.close code).projects = socket.projects ∧
      (socket.close code).handshake = socket.handshake ∧
      (socket.close code).disconnect = socket.disconnect ∧
      (socket.close code).pingTimer = socket.pingTimer := by
  unfold close
  split <;> exact ⟨rfl, rfl, rfl, rfl, rfl, rfl⟩

theorem Socket.moveHandshake_request (socket : Socket) (stage : HandshakeStage) :
    (socket.moveHandshake stage).request = socket.request ∧
      (socket.moveHandshake stage).instanceId = socket.instanceId ∧
      (socket.moveHandshake stage).projects = socket.projects ∧
      (socket.moveHandshake stage).handshake = stage ∧
      (socket.moveHandshake stage).disconnect = socket.disconnect ∧
      (socket.moveHandshake stage).pingTimer = socket.pingTimer := by
  unfold moveHandshake
  split
  · exact close_request _ 4001
  · exact close_request _ 4503
  · exact ⟨rfl, rfl, rfl, rfl, rfl, rfl⟩

/-- Changing one socket changes that socket only. -/
theorem State.setSocket_sockets (s : State) (id : SocketId) (socket : Socket) (k : SocketId) :
    (s.setSocket id socket).sockets k = if k = id then some socket else s.sockets k := by
  simp [setSocket, Function.update_apply]

theorem State.setSocket_self (s : State) (id : SocketId) (socket : Socket) :
    (s.setSocket id socket).sockets id = some socket := by
  rw [setSocket_sockets, if_pos rfl]

theorem State.setSocket_of_ne (s : State) {id k : SocketId} (socket : Socket) (hne : k ≠ id) :
    (s.setSocket id socket).sockets k = s.sockets k := by
  rw [setSocket_sockets, if_neg hne]

/-- What a step leaves under one socket id. -/
inductive SocketAfter (s : State) (a : Action) (t : State) (k : SocketId) : Prop where
  | same (hsame : t.sockets k = s.sockets k)
  | accepted (instanceId : InstanceId) (request : ConnectRequest)
      (ha : a = .accept k instanceId request) (hfree : s.sockets k = none)
      (hk : t.sockets k = some (.accept instanceId request))
  | changed (socket socket' : Socket) (hs : s.sockets k = some socket)
      (hk : t.sockets k = some socket') (hchange : SocketStep s a k socket socket')

/-- A step that changes one live socket. -/
theorem SocketAfter.set {u : State} {id : SocketId} {old new : Socket}
    (hlive : s.liveSocket id = some old) (hsame : u.sockets = s.sockets)
    (hchange : SocketStep s a id old new) (k : SocketId) :
    SocketAfter s a (u.setSocket id new) k := by
  by_cases hkid : k = id
  · subst hkid
    exact .changed old new (State.liveSocket_eq_some.mp hlive).1 (u.setSocket_self k new) hchange
  · exact .same ((u.setSocket_of_ne new hkid).trans (congrFun hsame k))

theorem SocketAfter.of_step (hstep : step s a = some t) (k : SocketId) : SocketAfter s a t k := by
  cases GatewayStep.of_step hstep with
  | accept id instanceId request hfree =>
      by_cases hkid : k = id
      · subst hkid
        exact .accepted instanceId request rfl hfree (s.setSocket_self k _)
      · exact .same (s.setSocket_of_ne _ hkid)
  | handshake id fault socket hlive hawaits =>
      exact .set hlive (by rfl) (.handshake fault rfl hlive hawaits) k
  | refused id socket record hlive hstage =>
      exact .set hlive (by rfl) (.refused rfl hlive record hstage) k
  | attached id socket record token projectIds hlive hstage hvalid =>
      exact .set hlive (by rfl) (.attached rfl hlive record hstage token projectIds hvalid) k
  | bound id socket hlive hstage => exact .set hlive (by rfl) (.bound rfl hlive hstage) k
  | closed id socket hlive hidle hscope =>
      refine .set hlive ?_ (.closed rfl hlive hidle) k
      rcases s.deleteLocal_eq socket.instanceId socket.clientId id with ⟨_, heq⟩
      rw [heq]
  | closedEarly id socket hlive hidle => exact .set hlive (by rfl) (.closed rfl hlive hidle) k
  | disconnect id fault socket hlive hactive hundone =>
      exact .set hlive (by rfl) (.disconnect fault rfl hlive hactive hundone) k
  | delivered id instanceId token projectIds hget =>
      cases hk : s.sockets k with
      | none =>
          refine .same ?_
          simp only [State.disconnectLocalDeviceTokenSessions, hk, Option.map_none]
      | some socket =>
          have hafter : s.disconnectLocalDeviceTokenSessions instanceId token k = _ :=
            congrArg (Option.map _) hk
          rw [Option.map_some] at hafter
          split at hafter
          · exact .changed socket _ hk hafter (.scopeChanged id instanceId rfl)
          · exact .same (hafter.trans hk.symm)
  | heartbeat | refresh | administer | administration | expireSession | expirePresence
  | expireMaxInFlight | expireTokenCache | crashed | invoked | dispatched => exact .same rfl

/-- A socket that exists before a step exists after it, changed in one of the ways
of `SocketStep`. -/
theorem step_socket (hstep : step s a = some t) (hk : s.sockets k = some socket) :
    ∃ socket', t.sockets k = some socket' ∧ SocketStep s a k socket socket' := by
  cases SocketAfter.of_step hstep k with
  | same hsame => exact ⟨socket, hsame.trans hk, .same⟩
  | accepted instanceId request ha hfree hk' =>
      rw [hk] at hfree
      contradiction
  | changed before socket' hs hk' hchange =>
      obtain rfl : before = socket := Option.some.inj (hs.symm.trans hk)
      exact ⟨socket', hk', hchange⟩

/-- A socket never changes its request or its process, nor a scope once granted. -/
theorem SocketStep.keeps (h : SocketStep s a k socket socket') :
    socket'.request = socket.request ∧ socket'.instanceId = socket.instanceId ∧
      (socket'.projects = socket.projects ∨
        ∃ record, socket.handshake = .readToken (.done record)) := by
  cases h with
  | same => exact ⟨rfl, rfl, Or.inl rfl⟩
  | handshake fault ha hlive hawaits =>
      rcases socket.moveHandshake_request _ with ⟨hreq, hinst, hproj, -⟩
      exact ⟨hreq, hinst, Or.inl hproj⟩
  | refused ha hlive record hstage =>
      rcases socket.moveHandshake_request .unauthorized with ⟨hreq, hinst, hproj, -⟩
      exact ⟨hreq, hinst, Or.inl hproj⟩
  | attached ha hlive record hstage token projectIds hvalid =>
      exact ⟨rfl, rfl, Or.inr ⟨record, hstage⟩⟩
  | bound ha hlive hstage => exact ⟨rfl, rfl, Or.inl rfl⟩
  | closed ha hlive hidle => exact ⟨rfl, rfl, Or.inl rfl⟩
  | disconnect fault ha hlive hactive hundone => exact ⟨rfl, rfl, Or.inl rfl⟩
  | scopeChanged id instanceId ha =>
      rcases socket.close_request 4002 with ⟨hreq, hinst, hproj, -⟩
      exact ⟨hreq, hinst, Or.inl hproj⟩

theorem Socket.accept_fresh (instanceId : InstanceId) (request : ConnectRequest) :
    (Socket.accept instanceId request).projects = none ∧
      ((Socket.accept instanceId request).handshake = .readToken .get ∨
        (Socket.accept instanceId request).handshake = .unauthorized) ∧
      (Socket.accept instanceId request).request = request ∧
      (Socket.accept instanceId request).instanceId = instanceId ∧
      (Socket.accept instanceId request).disconnect = .idle ∧
      (Socket.accept instanceId request).pingTimer = .unset := by
  unfold accept
  split
  · rcases Socket.close_request _ 4001 with ⟨hreq, hinst, hproj, hstage, hdis, htimer⟩
    exact ⟨hproj, Or.inr hstage, hreq, hinst, hdis, htimer⟩
  · exact ⟨rfl, Or.inl rfl, rfl, rfl, rfl, rfl⟩

/-- A socket after a step was there before it, or has just been accepted. -/
theorem socket_origin (hstep : step s a = some t) (hk : t.sockets k = some socket') :
    (∃ instanceId request, a = .accept k instanceId request ∧
        socket' = .accept instanceId request ∧ s.sockets k = none) ∨
      ∃ socket, s.sockets k = some socket ∧ SocketStep s a k socket socket' := by
  cases SocketAfter.of_step hstep k with
  | same hsame => exact Or.inr ⟨socket', hsame.symm.trans hk, .same⟩
  | accepted instanceId request ha hfree hk' =>
      exact Or.inl ⟨instanceId, request, ha, Option.some.inj (hk.symm.trans hk'), hfree⟩
  | changed socket after hs hk' hchange =>
      obtain rfl : socket' = after := Option.some.inj (hk.symm.trans hk')
      exact Or.inr ⟨socket, hs, hchange⟩

/-- A socket at the end of a run was there at its start, or the run has accepted it. -/
theorem run_sockets {as : List Action} (hrun : machine.run s as = some t)
    (hk : t.sockets k = some socket') :
    (∃ socket, s.sockets k = some socket ∧ socket'.request = socket.request ∧
        socket'.instanceId = socket.instanceId) ∨
      .accept k socket'.instanceId socket'.request ∈ as := by
  induction as generalizing s with
  | nil =>
      rw [Machine.run_nil, Option.some.injEq] at hrun
      exact Or.inl ⟨socket', hrun ▸ hk, rfl, rfl⟩
  | cons a as ih =>
      rcases Machine.run_cons_eq_some.mp hrun with ⟨u, hstep, hrest⟩
      rcases ih hrest with ⟨socket, hu, hreq, hinst⟩ | hmem
      · rcases socket_origin hstep hu with ⟨instanceId, request, rfl, rfl, -⟩ | ⟨before, hs, hchange⟩
        · rcases Socket.accept_fresh instanceId request with ⟨-, -, hreq', hinst', -⟩
          rw [hreq, hinst, hreq', hinst']
          exact Or.inr List.mem_cons_self
        · rcases hchange.keeps with ⟨hreq', hinst', -⟩
          exact Or.inl ⟨before, hs, hreq.trans hreq', hinst.trans hinst'⟩
      · exact Or.inr (List.mem_cons_of_mem _ hmem)

/-- Every socket of a run of the sample cluster is one of its connections. -/
theorem sample_sockets {as : List Action} (hrun : machine.run sampleState as = some t)
    (hlive : t.liveSocket k = some socket) : .accept k socket.instanceId socket.request ∈ as := by
  rcases run_sockets hrun (State.liveSocket_eq_some.mp hlive).1 with ⟨before, hnone, -⟩ | hmem
  · simp [sampleState, State.start] at hnone
  · exact hmem

end Gateway
end R2RPC
