import R2RPC.Gateway.DeadSocket

/-!
# Reconnecting while the old connection is cleaned up

The compare-and-delete of {lit}`unregister` protects the new session, but a cleanup
that has passed it goes on without looking again.  Its last command,
{lit}`markOffline`, and the first shared write of the new registration after the
session, the device row, decide the outcome: the device is consistent when the row is
written while no cleanup is under way, and has an offline row when it is.

Main results:

- Structure {lit}`Consistent`: session, presence, memberships and row of the new socket.
- Definition {lit}`WritesAfterCleanup`: the row is not written during a cleanup.
- Theorem {lit}`reconnect_consistent_iff`: a reconnect is consistent exactly along the
  runs that meet it.
- Theorem {lit}`reconnect_overtaken`: a cleanup that has passed its check.

Current gaps:

- None.
-/

namespace R2RPC
namespace Gateway

open Interleaving DeviceToken

variable {s t : State} {a : Action} {as : List Action} {old new : SocketId}
  {socket socket' former : Socket} {c : ClientId} {stage : DisconnectStage}
  {view : ClientView} {token : SessionToken} {store : Store}

/-! ## The property and its condition -/

/-- The stores describe the device as the socket has registered it. -/
structure Consistent (c : ClientId) (id : SocketId) (socket : Socket) (s : State) : Prop where
  session : s.store.session c = some (State.sessionToken socket id)
  presence : s.store.presence c = some socket.projectIds
  members : ∀ projectId ∈ socket.projectIds, c ∈ s.store.members projectId
  online : ∃ row, (s.store.devices c).alive = some row ∧ row.online = true

/-- The steps of `handleConnection` for the new socket and of `handleDisconnect` for the
old one, without errors, and of heartbeats of both. -/
def Reconnects (old new : SocketId) (c : ClientId) : Action → Prop
  | .accept id _ request => id = new ∧ request.clientId = c
  | .handshake id fault => id = new ∧ fault = .none
  | .attach id | .bind id => id = new
  | .closeEvent id => id = old
  | .disconnect id fault => id = old ∧ fault = .none
  | .heartbeat _ id => id = old ∨ id = new
  | .refresh .. => True
  | _ => False

/-- `handleDisconnect` has passed `unregister` as the owner and has not ended. -/
def DisconnectStage.cleaning : DisconnectStage → Bool
  | .idle | .unregister | .done => false
  | _ => true

/-- The awaited command is the write of `registerOnline`. -/
def Socket.writesDevice (socket : Socket) : Bool :=
  match socket.handshake with
  | .writeDevice _ => true
  | _ => false

/-- `registerOnline` of the new socket does not write while the cleanup of the old one
is under way. -/
def WritesAfterCleanup (old new : SocketId) (s : State) : Action → Prop
  | .handshake id _ =>
      id = new → ∀ socket ∈ s.liveSocket new, socket.writesDevice = true →
        ∀ former ∈ s.sockets old, former.disconnect.cleaning = false
  | _ => True

instance (old new : SocketId) (c : ClientId) (a : Action) : Decidable (Reconnects old new c a) :=
  match a with
  | .accept id _ request => inferInstanceAs (Decidable (id = new ∧ request.clientId = c))
  | .handshake id fault => inferInstanceAs (Decidable (id = new ∧ fault = .none))
  | .attach id | .bind id => inferInstanceAs (Decidable (id = new))
  | .closeEvent id => inferInstanceAs (Decidable (id = old))
  | .disconnect id fault => inferInstanceAs (Decidable (id = old ∧ fault = .none))
  | .heartbeat _ id => inferInstanceAs (Decidable (id = old ∨ id = new))
  | .refresh .. => isTrue trivial
  | .administer .. | .administration _ | .deliverScopeChange .. | .expireSession _
  | .expirePresence _ | .expireMaxInFlight _ | .expireTokenCache _ | .crash _ | .invoke ..
  | .dispatch .. => isFalse id

instance (old new : SocketId) (s : State) (a : Action) :
    Decidable (WritesAfterCleanup old new s a) :=
  match a with
  | .handshake id _ => inferInstanceAs (Decidable (id = new → ∀ socket ∈ s.liveSocket new,
      socket.writesDevice = true → ∀ former ∈ s.sockets old, former.disconnect.cleaning = false))
  | .accept .. | .attach _ | .bind _ | .closeEvent _ | .disconnect .. | .heartbeat .. | .refresh ..
  | .administer .. | .administration _ | .deliverScopeChange .. | .expireSession _
  | .expirePresence _ | .expireMaxInFlight _ | .expireTokenCache _ | .crash _ | .invoke ..
  | .dispatch .. => isTrue trivial

/-! ## Steps of a reconnect -/

/-- How far the registration has got: the session, the row, the presence. -/
def HandshakeStage.rank : HandshakeStage → Nat
  | .selectDevice | .writeDevice _ => 1
  | .setPresence => 2
  | .addMember .. | .setMaxInFlight | .resetInFlight | .bind | .finished => 3
  | _ => 0

theorem HandshakeStage.rank_of_not_attached {stage : HandshakeStage}
    (h : stage.attached = false) : stage.rank = 0 := by
  cases stage <;> first | rfl | contradiction

theorem Socket.nextMember_rank (remaining : List ProjectId) : (nextMember remaining).rank = 3 := by
  cases remaining <;> rfl

/-- Both sockets belong to the client id. -/
structure Reconnecting (old new : SocketId) (c : ClientId) (s : State) : Prop where
  newcomer : ∀ socket, s.sockets new = some socket → socket.clientId = c
  former : ∃ former, s.sockets old = some former ∧ former.clientId = c

theorem Reconnecting.step (h : Reconnecting old new c s) (ha : Reconnects old new c a)
    (hstep : Gateway.step s a = some t) : Reconnecting old new c t := by
  refine ⟨fun socket' hk => ?_, ?_⟩
  · rcases socket_origin hstep hk with ⟨instanceId, request, rfl, rfl, -⟩ | ⟨socket, hs, hchange⟩
    · rw [Socket.clientId, (Socket.accept_fresh instanceId request).2.2.1]
      exact ha.2
    · rw [Socket.clientId, hchange.keeps.1]
      exact h.newcomer socket hs
  · rcases h.former with ⟨former, hs, hclient⟩
    rcases step_socket hstep hs with ⟨former', hk, hchange⟩
    refine ⟨former', hk, ?_⟩
    rw [Socket.clientId, hchange.keeps.1]
    exact hclient

/-- The two sockets and the view of their client id after a step. -/
inductive ReconnectStep (old new : SocketId) (c : ClientId) (s : State) (a : Action) (t : State) :
    Prop where
  | same (hnew : t.sockets new = s.sockets new) (hold : t.sockets old = s.sockets old)
      (hview : t.store.view c = s.store.view c)
  | fresh (socket : Socket) (hnew : t.sockets new = some socket)
      (hrank : socket.handshake.rank = 0) (hold : t.sockets old = s.sockets old)
      (hbefore : ∀ before, s.sockets new = some before →
        before.handshake.rank = 0 ∧ before.handshake ≠ .unavailable)
      (hview : t.store.view c = s.store.view c)
  | command (socket : Socket) (ha : a = .handshake new .none)
      (hlive : s.liveSocket new = some socket) (hawaits : socket.awaitsCommand = true)
      (hnew : t.sockets new = some (socket.moveHandshake (socket.handshakeNext s.store)))
      (hold : t.sockets old = s.sockets old)
      (hview : t.store.view c =
        socket.handshakeView (State.sessionToken socket new) (s.store.view c))
  | bound (socket : Socket) (hs : s.sockets new = some socket) (hstage : socket.handshake = .bind)
      (hnew : t.sockets new = some { socket with
        pingTimer := .running
        handshake := .finished })
      (hold : t.sockets old = s.sockets old) (hview : t.store.view c = s.store.view c)
  | closed (former : Socket) (hs : s.sockets old = some former) (hidle : former.disconnect = .idle)
      (hold : t.sockets old = some former.closed) (hnew : t.sockets new = s.sockets new)
      (hview : t.store.view c = s.store.view c)
  | cleanup (former : Socket) (hs : s.sockets old = some former)
      (hactive : former.disconnect ≠ .idle) (hundone : former.disconnect ≠ .done)
      (hold : t.sockets old = some { former with
        disconnect := former.disconnectNext (State.sessionToken former old) s.store })
      (hnew : t.sockets new = s.sockets new)
      (hview : t.store.view c =
        former.disconnectView (State.sessionToken former old) (s.store.view c))

theorem rank_before_attach {socket : Socket} {record : Option CachedDeviceToken}
    (hlive : s.liveSocket new = some socket)
    (hstage : socket.handshake = .readToken (.done record)) :
    ∀ before, s.sockets new = some before →
      before.handshake.rank = 0 ∧ before.handshake ≠ .unavailable := by
  intro before hs
  rw [(State.liveSocket_eq_some.mp hlive).1, Option.some.injEq] at hs
  rw [← hs, hstage]
  exact ⟨rfl, by simp⟩

theorem reconnect_step (h : Reconnecting old new c s) (hne : new ≠ old)
    (ha : Reconnects old new c a) (hstep : step s a = some t) :
    ReconnectStep old new c s a t := by
  cases GatewayStep.of_step hstep with
  | accept id instanceId request hfree =>
      rcases ha with ⟨rfl, -⟩
      refine .fresh _ (s.setSocket_self id _) ?_ (s.setSocket_of_ne _ hne.symm) ?_ rfl
      · rcases (Socket.accept_fresh instanceId request).2.1 with hstage | hstage <;>
          · rw [hstage]
            rfl
      · intro before hbefore
        rw [hfree] at hbefore
        contradiction
  | handshake id fault socket hlive hawaits =>
      rcases ha with ⟨rfl, rfl⟩
      have hclient := h.newcomer socket (State.liveSocket_eq_some.mp hlive).1
      refine .command socket rfl hlive hawaits (State.setSocket_self ..)
        (State.setSocket_of_ne _ _ hne.symm) ?_
      rw [← hclient]
      exact socket.view_handshakeCommand _ _
  | refused id socket record hlive hstage =>
      obtain rfl : id = new := ha
      refine .fresh _ (s.setSocket_self id _) ?_ (s.setSocket_of_ne _ hne.symm)
        (rank_before_attach hlive hstage) rfl
      rw [(socket.moveHandshake_request .unauthorized).2.2.2.1]
      rfl
  | attached id socket record token projectIds hlive hstage =>
      obtain rfl : id = new := ha
      exact .fresh _ (State.setSocket_self ..) rfl (State.setSocket_of_ne _ _ hne.symm)
        (rank_before_attach hlive hstage) rfl
  | bound id socket hlive hstage =>
      obtain rfl : id = new := ha
      exact .bound socket (State.liveSocket_eq_some.mp hlive).1 hstage (s.setSocket_self id _)
        (s.setSocket_of_ne _ hne.symm) rfl
  | closed id former hlive hidle =>
      obtain rfl : id = old := ha
      rcases s.deleteLocal_eq former.instanceId former.clientId id with ⟨localSockets, heq⟩
      rw [heq]
      exact .closed former (State.liveSocket_eq_some.mp hlive).1 hidle (State.setSocket_self ..)
        (State.setSocket_of_ne _ _ hne) rfl
  | closedEarly id former hlive hidle =>
      obtain rfl : id = old := ha
      exact .closed former (State.liveSocket_eq_some.mp hlive).1 hidle (s.setSocket_self id _)
        (s.setSocket_of_ne _ hne) rfl
  | disconnect id fault former hlive hactive hundone =>
      rcases ha with ⟨rfl, rfl⟩
      have hs := (State.liveSocket_eq_some.mp hlive).1
      rcases h.former with ⟨former', hs', hclient⟩
      obtain rfl : former' = former := Option.some.inj (hs'.symm.trans hs)
      refine .cleanup former' hs hactive hundone (State.setSocket_self ..)
        (State.setSocket_of_ne _ _ hne) ?_
      rw [← hclient]
      exact former'.view_disconnectCommand _ _
  | heartbeat id socketId heartbeats => exact .same rfl rfl rfl
  | refresh id fault heartbeat =>
      refine .same rfl rfl ?_
      rcases fault.apply_cases heartbeat.command s.store with hskip | ⟨-, happly⟩
      · simp [hskip]
      · simp [happly, heartbeat.view_command]
  | _ => exact absurd ha id

/-! ## A registration that stands -/

/-- What the new socket has registered is in the view, and once its row is written no
cleanup is under way. -/
structure Registered (token : SessionToken) (socket : Socket) (stage : DisconnectStage)
    (view : ClientView) : Prop where
  existing : ∀ existing, socket.handshake = .writeDevice existing →
    existing = view.devices.selectExisting
  session : 1 ≤ socket.handshake.rank → view.session = some token
  row : 2 ≤ socket.handshake.rank →
    stage.cleaning = false ∧ ∃ row, view.devices.alive = some row ∧ row.online = true
  presence : 3 ≤ socket.handshake.rank → view.presence = some socket.projectIds
  members : 3 ≤ socket.handshake.rank → ∀ q ∈ socket.projectIds,
    q ∉ socket.pendingProjects → view.memberOf q = true

namespace Registered

theorem of_rank_zero (h : socket.handshake.rank = 0) : Registered token socket stage view := by
  refine ⟨fun existing hstage => ?_, ?_, ?_, ?_, ?_⟩
  · rw [hstage] at h
    contradiction
  all_goals
    intro hrank
    omega

/-- Only the stage and the scope of the socket count. -/
theorem of_eq (h : Registered token socket stage view)
    (hhandshake : socket'.handshake = socket.handshake)
    (hprojects : socket'.projects = socket.projects) : Registered token socket' stage view := by
  refine ⟨?_, ?_, ?_, ?_, ?_⟩
  all_goals simp only [Socket.pendingProjects, Socket.projectIds, hhandshake, hprojects]
  · exact h.existing
  · exact h.session
  · exact h.row
  · exact h.presence
  · exact h.members

theorem of_rank_one (h : socket.handshake.rank = 1)
    (hexisting : ∀ existing, socket.handshake = .writeDevice existing →
      existing = view.devices.selectExisting)
    (hsession : view.session = some token) : Registered token socket stage view := by
  refine ⟨hexisting, fun _ => hsession, ?_, ?_, ?_⟩
  all_goals
    intro hrank
    omega

theorem of_rank_two (h : socket.handshake.rank = 2) (hsession : view.session = some token)
    (hrow : stage.cleaning = false ∧ ∃ row, view.devices.alive = some row ∧ row.online = true) :
    Registered token socket stage view := by
  refine ⟨fun existing hstage => ?_, fun _ => hsession, fun _ => hrow, ?_, ?_⟩
  · rw [hstage] at h
    simp [HandshakeStage.rank] at h
  all_goals
    intro hrank
    omega

theorem of_rank_three (h : socket.handshake.rank = 3) (hsession : view.session = some token)
    (hrow : stage.cleaning = false ∧ ∃ row, view.devices.alive = some row ∧ row.online = true)
    (hpresence : view.presence = some socket.projectIds)
    (hmembers : ∀ q ∈ socket.projectIds, q ∉ socket.pendingProjects → view.memberOf q = true) :
    Registered token socket stage view := by
  refine ⟨fun existing hstage => ?_, fun _ => hsession, fun _ => hrow, fun _ => hpresence,
    fun _ => hmembers⟩
  rw [hstage] at h
  simp [HandshakeStage.rank] at h

/-- One command of the new handshake. -/
theorem command (h : Registered token socket stage view) (store : Store)
    (hawaits : socket.awaitsCommand = true)
    (hdevices : store.devices socket.clientId = view.devices)
    (hwrites : socket.writesDevice = true → stage.cleaning = false) :
    Registered token (socket.moveHandshake (socket.handshakeNext store)) stage
      (socket.handshakeView token view) := by
  rcases socket.moveHandshake_request (socket.handshakeNext store) with
    ⟨-, -, hprojects, hhandshake, -⟩
  refine (?_ : Registered token { socket with handshake := socket.handshakeNext store } stage
    (socket.handshakeView token view)).of_eq hhandshake hprojects
  cases hstage : socket.handshake with
  | readToken reading =>
      refine of_rank_zero (HandshakeStage.rank_of_not_attached ?_)
      rw [socket.handshakeNext_attached, hstage]
      rfl
  | loadProjects record =>
      refine of_rank_zero (HandshakeStage.rank_of_not_attached ?_)
      rw [socket.handshakeNext_attached, hstage]
      rfl
  | setSession =>
      rw [Socket.handshakeNext, Socket.handshakeView, hstage]
      refine of_rank_one rfl (fun existing hexisting => ?_) rfl
      contradiction
  | selectDevice =>
      rw [Socket.handshakeNext, Socket.handshakeView, hstage]
      refine of_rank_one rfl (fun existing hexisting => ?_) (h.session ?_)
      · rw [← hdevices]
        exact (HandshakeStage.writeDevice.inj hexisting).symm
      · rw [hstage]
        exact Nat.le_refl 1
  | writeDevice existing =>
      rcases Option.isSome_iff_exists.mp (view.devices.writeDevice_isSome socket.request.token
        socket.request.metadata) with ⟨written, hwritten⟩
      have hcurrent := h.existing existing hstage
      subst hcurrent
      rw [Socket.handshakeNext, Socket.handshakeView, hstage]
      simp only [Store.writeDevice, hdevices, hwritten, Option.map_some, Option.getD_some]
      refine of_rank_two rfl (h.session ?_) ⟨?_, ?_⟩
      · rw [hstage]
        exact Nat.le_refl 1
      · exact hwrites (by rw [Socket.writesDevice, hstage])
      · exact ClientDevices.writeDevice_online hwritten
  | setPresence =>
      have hrank : 2 ≤ socket.handshake.rank := by rw [hstage]; exact Nat.le_refl 2
      rw [Socket.handshakeNext, Socket.handshakeView, hstage]
      refine of_rank_three (Socket.nextMember_rank _) (h.session (by omega)) (h.row hrank) rfl ?_
      intro q hq hwritten
      rw [Socket.pendingProjects, Socket.nextMember_pending] at hwritten
      exact (hwritten hq).elim
  | addMember projectId remaining =>
      have hrank : 3 ≤ socket.handshake.rank := by rw [hstage]; exact Nat.le_refl 3
      rw [Socket.handshakeNext, Socket.handshakeView, hstage]
      refine of_rank_three (Socket.nextMember_rank _) (h.session (by omega)) (h.row (by omega))
        (h.presence hrank) ?_
      intro q hq hwritten
      rw [Socket.pendingProjects, Socket.nextMember_pending] at hwritten
      by_cases hqp : q = projectId
      · simp [hqp]
      · have hpending : q ∉ socket.pendingProjects := by
          rw [Socket.pendingProjects, hstage]
          simp [HandshakeStage.pending, hqp, hwritten]
        simpa [hqp] using h.members hrank q hq hpending
  | setMaxInFlight =>
      have hrank : 3 ≤ socket.handshake.rank := by rw [hstage]; exact Nat.le_refl 3
      rw [Socket.handshakeNext, Socket.handshakeView, hstage]
      refine of_rank_three rfl (h.session (by omega)) (h.row (by omega)) (h.presence hrank) ?_
      intro q hq _
      exact h.members hrank q hq (by rw [Socket.pendingProjects, hstage]; exact List.not_mem_nil)
  | resetInFlight =>
      have hrank : 3 ≤ socket.handshake.rank := by rw [hstage]; exact Nat.le_refl 3
      rw [Socket.handshakeNext, Socket.handshakeView, hstage]
      refine of_rank_three rfl (h.session (by omega)) (h.row (by omega)) (h.presence hrank) ?_
      intro q hq _
      exact h.members hrank q hq (by rw [Socket.pendingProjects, hstage]; exact List.not_mem_nil)
  | _ => simp [Socket.awaitsCommand, hstage] at hawaits

/-- `startHeartbeat`. -/
theorem bind (h : Registered token socket stage view) (hstage : socket.handshake = .bind) :
    Registered token { socket with
      pingTimer := .running
      handshake := .finished } stage view := by
  have hrank : socket.handshake.rank = 3 := by
    rw [hstage]
    rfl
  refine of_rank_three rfl (h.session (by omega)) (h.row (by omega)) (h.presence (by omega))
    fun q hq _ => h.members (by omega) q hq ?_
  rw [Socket.pendingProjects, hstage]
  exact List.not_mem_nil

/-- The close event of the old socket. -/
theorem closed (h : Registered token socket former.disconnect view) :
    Registered token socket former.closed.disconnect view := by
  refine { h with row := fun hrank => ⟨?_, (h.row hrank).2⟩ }
  unfold Socket.closed
  cases former.projects <;> rfl

/-- One command of the old `handleDisconnect`: once the new session is set, its check
fails. -/
theorem cleanup {other : SessionToken} (h : Registered token socket former.disconnect view)
    (store : Store) (hother : token ≠ other) (hactive : former.disconnect ≠ .idle)
    (hundone : former.disconnect ≠ .done)
    (hstore : store.view former.clientId = view) :
    Registered token socket (former.disconnectNext other store)
      (former.disconnectView other view) := by
  have hrows : (former.disconnectView other view).devices.selectExisting =
      view.devices.selectExisting := by
    unfold Socket.disconnectView
    split
    case h_4 => exact view.devices.selectExisting_markOffline
    all_goals rfl
  have hsession : view.session = some token →
      (former.disconnectView other view).session = some token := by
    intro htoken
    unfold Socket.disconnectView
    split
    case h_1 => simp [htoken, hother]
    all_goals exact htoken
  have hfails : 2 ≤ socket.handshake.rank →
      former.disconnectView other view = view ∧ former.disconnectNext other store = .done := by
    intro hrank
    have htoken := h.session (by omega)
    have hunregister : former.disconnect = .unregister := by
      have hquiet := (h.row hrank).1
      cases hstage : former.disconnect with
      | unregister => rfl
      | idle => exact (hactive hstage).elim
      | done => exact (hundone hstage).elim
      | _ =>
          rw [hstage] at hquiet
          contradiction
    have howns : store.ownsSession former.clientId other = false := by
      have hstored : store.session former.clientId = some token := by
        rw [← htoken, ← hstore]
        rfl
      simp [Store.ownsSession, hstored, hother]
    have hall : ¬view.session.all (· = other) = true := by simp [htoken, hother]
    constructor
    · rw [Socket.disconnectView, hunregister]
      simp only [if_neg hall]
    · rw [Socket.disconnectNext, hunregister]
      simp [howns]
  refine ⟨fun existing hstage => ?_, fun hrank => hsession (h.session hrank), fun hrank => ?_,
    fun hrank => ?_, fun hrank => ?_⟩
  · rw [hrows]
    exact h.existing existing hstage
  · rw [(hfails hrank).1, (hfails hrank).2]
    exact ⟨rfl, (h.row hrank).2⟩
  · rw [(hfails (by omega)).1]
    exact h.presence hrank
  · rw [(hfails (by omega)).1]
    exact h.members hrank

end Registered

/-! ## A registration that is overtaken -/

/-- The row of the new socket is written and a cleanup under way is going to mark it
offline, or has done so; or the registration has failed. -/
def Overtaken (socket : Socket) (stage : DisconnectStage) (view : ClientView) : Prop :=
  socket.handshake = .unavailable ∨
    (2 ≤ socket.handshake.rank ∧
      (stage.cleaning = true ∨
        (stage = .done ∧ ∀ row, view.devices.alive = some row → row.online = false)))

namespace Overtaken

/-- The write during a cleanup. -/
theorem of_write (hwrites : socket.writesDevice = true) (hcleaning : stage.cleaning = true) :
    Overtaken (socket.moveHandshake (socket.handshakeNext store)) stage view := by
  unfold Overtaken
  rw [(socket.moveHandshake_request _).2.2.2.1]
  cases hstage : socket.handshake with
  | writeDevice existing =>
      rw [Socket.handshakeNext, hstage]
      simp only
      split
      · exact Or.inr ⟨Nat.le_refl 2, Or.inl hcleaning⟩
      · exact Or.inl rfl
  | _ => simp [Socket.writesDevice, hstage] at hwrites

/-- After its row is written, a handshake goes on and writes no other row. -/
theorem command (h : Overtaken socket stage view) (hawaits : socket.awaitsCommand = true) :
    Overtaken (socket.moveHandshake (socket.handshakeNext store)) stage
      (socket.handshakeView token view) := by
  rcases h with hfailed | ⟨hrank, houtcome⟩
  · simp [Socket.awaitsCommand, hfailed] at hawaits
  · have hgoes : 2 ≤ (socket.handshakeNext store).rank ∧
        (socket.handshakeView token view).devices = view.devices := by
      have hnext : ∀ remaining, 2 ≤ (Socket.nextMember remaining).rank := by
        intro remaining
        rw [Socket.nextMember_rank]
        omega
      rw [Socket.handshakeNext, Socket.handshakeView]
      cases hstage : socket.handshake with
      | setPresence => exact ⟨hnext _, rfl⟩
      | addMember projectId remaining => exact ⟨hnext remaining, rfl⟩
      | setMaxInFlight => exact ⟨Nat.le_succ 2, rfl⟩
      | resetInFlight => exact ⟨Nat.le_succ 2, rfl⟩
      | bind | finished => simp [Socket.awaitsCommand, hstage] at hawaits
      | _ =>
          rw [hstage] at hrank
          simp [HandshakeStage.rank] at hrank
    unfold Overtaken
    rw [(socket.moveHandshake_request _).2.2.2.1, hgoes.2]
    exact Or.inr ⟨hgoes.1, houtcome⟩

/-- A cleanup goes on until it has marked the row offline. -/
theorem cleanup (h : Overtaken socket former.disconnect view)
    (hundone : former.disconnect ≠ .done) :
    Overtaken socket (former.disconnectNext token store) (former.disconnectView token view) := by
  rcases h with hfailed | ⟨hrank, hcleaning | ⟨hdone, -⟩⟩
  · exact Or.inl hfailed
  · refine Or.inr ⟨hrank, ?_⟩
    cases hstage : former.disconnect with
    | markOffline =>
        rw [Socket.disconnectNext, Socket.disconnectView, hstage]
        refine Or.inr ⟨rfl, fun row hrow => ?_⟩
        simp only [ClientDevices.markOffline, Option.map_eq_some_iff] at hrow
        rcases hrow with ⟨before, -, rfl⟩
        rfl
    | delInFlight =>
        rw [Socket.disconnectNext, hstage]
        exact Or.inl (by cases former.projectIds <;> rfl)
    | removeMember projectId remaining =>
        rw [Socket.disconnectNext, hstage]
        exact Or.inl (by cases remaining <;> rfl)
    | delPresence =>
        rw [Socket.disconnectNext, hstage]
        exact Or.inl rfl
    | delMaxInFlight =>
        rw [Socket.disconnectNext, hstage]
        exact Or.inl rfl
    | _ =>
        rw [hstage] at hcleaning
        contradiction
  · exact (hundone hdone).elim

end Overtaken

/-! ## Runs -/

/-- The new socket, if it is there, has registered what its stage says. -/
def Standing (old new : SocketId) (c : ClientId) (s : State) : Prop :=
  ∀ socket former, s.sockets new = some socket → s.sockets old = some former →
    Registered (State.sessionToken socket new) socket former.disconnect (s.store.view c)

/-- The new socket is overtaken by the cleanup of the old one. -/
def Falling (old new : SocketId) (c : ClientId) (s : State) : Prop :=
  ∃ socket former, s.sockets new = some socket ∧ s.sockets old = some former ∧
    Overtaken socket former.disconnect (s.store.view c)

theorem Standing.step (h : Standing old new c s) (hclients : Reconnecting old new c s)
    (hne : new ≠ old) (ha : Reconnects old new c a) (hwrites : WritesAfterCleanup old new s a)
    (hstep : Gateway.step s a = some t) : Standing old new c t := by
  intro socket' former' hnew' hold'
  cases reconnect_step hclients hne ha hstep with
  | same hnew hold hview =>
      rw [hview]
      exact h socket' former' (hnew ▸ hnew') (hold ▸ hold')
  | fresh socket hnew hrank hold hbefore hview =>
      rw [hnew, Option.some.injEq] at hnew'
      exact .of_rank_zero (hnew' ▸ hrank)
  | command socket ha hlive hawaits hnew hold hview =>
      have hs := (State.liveSocket_eq_some.mp hlive).1
      rw [hnew, Option.some.injEq] at hnew'
      rw [hold] at hold'
      subst hnew'
      subst ha
      have hinst := (socket.moveHandshake_request (socket.handshakeNext s.store)).2.1
      rw [hview, State.sessionToken, hinst]
      refine (h socket former' hs hold').command s.store hawaits ?_ ?_
      · rw [hclients.newcomer socket hs]
        rfl
      · exact fun hwritten => hwrites rfl socket hlive hwritten former' hold'
  | bound socket hs hstage hnew hold hview =>
      rw [hnew, Option.some.injEq] at hnew'
      rw [hold] at hold'
      subst hnew'
      rw [hview]
      exact (h socket former' hs hold').bind hstage
  | closed former hs hidle hold hnew hview =>
      rw [hold, Option.some.injEq] at hold'
      rw [hnew] at hnew'
      subst hold'
      rw [hview]
      exact (h socket' former hnew' hs).closed
  | cleanup former hs hactive hundone hold hnew hview =>
      rw [hold, Option.some.injEq] at hold'
      rw [hnew] at hnew'
      subst hold'
      rw [hview]
      refine (h socket' former hnew' hs).cleanup s.store ?_ hactive hundone ?_
      · exact fun htoken => hne (congrArg SessionToken.uuid htoken)
      · rcases hclients.former with ⟨former', hs', hclient⟩
        rw [Option.some.inj (hs.symm.trans hs'), hclient]

theorem Falling.step (h : Falling old new c s) (hclients : Reconnecting old new c s)
    (hne : new ≠ old) (ha : Reconnects old new c a) (hstep : Gateway.step s a = some t) :
    Falling old new c t := by
  rcases h with ⟨socket, former, hnew', hold', hovertaken⟩
  cases reconnect_step hclients hne ha hstep with
  | same hnew hold hview =>
      exact ⟨socket, former, hnew.trans hnew', hold.trans hold', hview ▸ hovertaken⟩
  | fresh other hnew hrank hold hbefore hview =>
      rcases hbefore socket hnew' with ⟨hzero, havailable⟩
      rcases hovertaken with hfailed | ⟨htwo, -⟩
      · exact (havailable hfailed).elim
      · omega
  | command other ha hlive hawaits hnew hold hview =>
      have hsame : other = socket :=
        Option.some.inj ((State.liveSocket_eq_some.mp hlive).1.symm.trans hnew')
      subst hsame
      refine ⟨_, former, hnew, hold.trans hold', ?_⟩
      rw [hview]
      exact hovertaken.command hawaits
  | bound other hs hstage hnew hold hview =>
      have hsame : other = socket := Option.some.inj (hs.symm.trans hnew')
      subst hsame
      refine ⟨_, former, hnew, hold.trans hold', ?_⟩
      rw [hview]
      rcases hovertaken with hfailed | ⟨-, houtcome⟩
      · rw [hstage] at hfailed
        contradiction
      · exact Or.inr ⟨Nat.le_succ 2, houtcome⟩
  | closed other hs hidle hold hnew hview =>
      have hsame : other = former := Option.some.inj (hs.symm.trans hold')
      subst hsame
      rcases hovertaken with hfailed | ⟨htwo, houtcome⟩
      · exact ⟨socket, _, hnew.trans hnew', hold, Or.inl hfailed⟩
      · rw [hidle] at houtcome
        rcases houtcome with hcleaning | ⟨hdone, -⟩ <;> contradiction
  | cleanup other hs hactive hundone hold hnew hview =>
      have hsame : other = former := Option.some.inj (hs.symm.trans hold')
      subst hsame
      refine ⟨socket, _, hnew.trans hnew', hold, ?_⟩
      rw [hview]
      exact hovertaken.cleanup hundone

/-- A row that is written during a cleanup. -/
theorem falling_of_write (hne : new ≠ old) (hstep : step s (.handshake new .none) = some t)
    (hlive : s.liveSocket new = some socket) (hwrites : socket.writesDevice = true)
    (hold : s.sockets old = some former) (hcleaning : former.disconnect.cleaning = true) :
    Falling old new c t := by
  rcases State.handshake_eq_some hstep with ⟨before, hbefore, -, rfl⟩
  have hsame : before = socket := Option.some.inj (hbefore.symm.trans hlive)
  subst hsame
  refine ⟨before.moveHandshake (before.handshakeNext s.store), former, ?_, ?_,
    .of_write hwrites hcleaning⟩
  · rw [State.setSocket_sockets, if_pos rfl]
    rfl
  · rw [State.setSocket_sockets, if_neg hne.symm]
    exact hold

/-- A finished registration that stands is consistent. -/
theorem Registered.consistent
    (h : Registered (State.sessionToken socket new) socket stage (s.store.view c))
    (hfinished : socket.handshake = .finished) : Consistent c new socket s := by
  have hrank : socket.handshake.rank = 3 := by
    rw [hfinished]
    rfl
  refine ⟨h.session (by omega), h.presence (by omega), fun q hq => ?_, (h.row (by omega)).2⟩
  rw [← Store.view_memberOf]
  refine h.members (by omega) q hq ?_
  rw [Socket.pendingProjects, hfinished]
  exact List.not_mem_nil

/-- A registration that is overtaken by a completed cleanup is not consistent. -/
theorem Overtaken.not_consistent (h : Overtaken socket stage (s.store.view c))
    (hfinished : socket.handshake = .finished) (hdone : stage = .done) :
    ¬Consistent c new socket s := by
  rintro ⟨-, -, -, row, halive, honline⟩
  rcases h with hfailed | ⟨-, hcleaning | ⟨-, hoffline⟩⟩
  · rw [hfinished] at hfailed
    contradiction
  · rw [hdone] at hcleaning
    contradiction
  · rw [hoffline row halive] at honline
    contradiction

/-- Reconnecting leaves a consistent device exactly when the new `registerOnline` does not
write its row while the cleanup of the old connection is under way.  For every
interleaving of the two handlers and of heartbeats, from any state, at whose end both
have completed. -/
theorem reconnect_consistent_iff (hold : s.sockets old = some former)
    (hclient : former.clientId = c) (hnew : s.sockets new = none)
    (hactions : ∀ a ∈ as, Reconnects old new c a) (hrun : machine.run s as = some t)
    (hnew' : t.sockets new = some socket) (hfinished : socket.handshake = .finished)
    (hold' : t.sockets old = some socket') (hdone : socket'.disconnect = .done) :
    Consistent c new socket t ↔ machine.Meets (WritesAfterCleanup old new) s as := by
  have hne : new ≠ old := by
    rintro rfl
    rw [hold] at hnew
    contradiction
  have hreconnects : machine.Meets (fun _ a => Reconnects old new c a) s as :=
    Machine.meets_of_forall_mem fun a ha _ => hactions a ha
  have hclients : Reconnecting old new c s :=
    ⟨fun other hother => by rw [hnew] at hother; contradiction, former, hold, hclient⟩
  constructor
  · intro hconsistent
    refine Machine.meets_iff.mpr fun pre b post u has hpre => ?_
    cases b with
    | handshake id fault =>
        rintro rfl newcomer hlive hwrites other hother
        by_contra hcleaning
        rw [Bool.not_eq_false] at hcleaning
        subst has
        rw [Machine.run_append] at hrun
        rcases hrun with ⟨u', hpre', hpost⟩
        rw [← Option.some.inj (hpre.symm.trans hpre')] at hpost
        rcases Machine.run_cons_eq_some.mp hpost with ⟨v, hstep, hrest⟩
        have hbefore : Reconnecting old id c u :=
          (Machine.meets_append.mp hreconnects).1.invariant
            (fun hI hC hstep => hI.step hC hstep) hclients hpre
        have hfalling : Reconnecting old id c v ∧ Falling old id c v := by
          have haction := hactions (.handshake id fault) (by simp)
          rw [show fault = .none from haction.2] at hstep haction
          exact ⟨hbefore.step haction hstep,
            falling_of_write hne hstep hlive hwrites hother hcleaning⟩
        have hafter : machine.Meets (fun _ a => Reconnects old id c a) v post :=
          Machine.meets_of_forall_mem fun a ha _ => hactions a (by simp [ha])
        rcases (hafter.invariant
          (I := fun s => Reconnecting old id c s ∧ Falling old id c s)
          (fun hI hC hstep => ⟨hI.1.step hC hstep, hI.2.step hI.1 hne hC hstep⟩) hfalling hrest).2
          with ⟨last, lastFormer, hlast, hlastFormer, hovertaken⟩
        rw [hnew', Option.some.injEq] at hlast
        rw [hold', Option.some.injEq] at hlastFormer
        subst hlast
        exact hovertaken.not_consistent hfinished (hlastFormer ▸ hdone) hconsistent
    | _ => trivial
  · intro hwrites
    have hstanding : Standing old new c t :=
      ((hreconnects.and hwrites).invariant
        (I := fun s => Reconnecting old new c s ∧ Standing old new c s)
        (fun hI hC hstep => ⟨hI.1.step hC.1 hstep, hI.2.step hI.1 hne hC.1 hC.2 hstep⟩)
        ⟨hclients, fun other _ hother => by rw [hnew] at hother; contradiction⟩ hrun).2
    exact (hstanding socket socket' hnew' hold').consistent hfinished

/-! ### A reconnect that is consistent -/

/-- The device is connected with token 0. -/
def formerState : State := (machine.run sampleState (connectTrace 0 0 (sampleRequest 0 1))).getD
  sampleState

/-- The new session is set before the old connection checks its own. -/
def orderlyTrace : List Action :=
  (connectTrace 1 1 (sampleRequest 1 1)).take 8 ++ [.closeEvent 0, .disconnect 0 .none] ++
    (connectTrace 1 1 (sampleRequest 1 1)).drop 8

/-- The old connection passes its check, and the rest of its cleanup follows the whole
registration of the new one. -/
def overtakenTrace : List Action :=
  [.closeEvent 0, .disconnect 0 .none] ++ connectTrace 1 1 (sampleRequest 1 1) ++
    List.replicate 5 (.disconnect 0 .none)

/-- The cluster after one of the two runs. -/
def reconnectedState (as : List Action) : State := (machine.run formerState as).getD formerState

/-- The new socket at the end of both runs. -/
def reconnectedSocket : Socket :=
  ⟨1, sampleRequest 1 1, some [2], .running, .open, none, .finished, .idle⟩

/-- The theorem for a reconnect whose session is set in time. -/
theorem reconnect_consistent_iff_orderly :
    Consistent "device-a" 1 reconnectedSocket (reconnectedState orderlyTrace) := by
  have hiff : Consistent "device-a" 1 reconnectedSocket (reconnectedState orderlyTrace) ↔
      machine.Meets (WritesAfterCleanup 0 1) formerState orderlyTrace :=
    reconnect_consistent_iff rfl rfl rfl (by decide) rfl rfl rfl rfl rfl
  exact hiff.mpr (by decide)

/-! ### A reconnect that is overtaken -/

/-- Both handlers complete without error and the new socket is open with its session, but
its presence is gone and its row is offline. -/
theorem reconnect_overtaken :
    machine.run formerState overtakenTrace = some (reconnectedState overtakenTrace) ∧
      (∀ a ∈ overtakenTrace, Reconnects 0 1 "device-a" a) ∧
      (reconnectedState overtakenTrace).liveSocket 1 = some reconnectedSocket ∧
      ((reconnectedState overtakenTrace).liveSocket 0).map (·.disconnect) = some .done ∧
      (reconnectedState overtakenTrace).store.session "device-a" = some ⟨1, 1⟩ ∧
      (reconnectedState overtakenTrace).store.presence "device-a" = none ∧
      ((reconnectedState overtakenTrace).store.devices "device-a").alive.map (·.online) =
        some false ∧
      ¬Consistent "device-a" 1 reconnectedSocket (reconnectedState overtakenTrace) :=
  ⟨rfl, by decide, rfl, rfl, rfl, rfl, rfl, fun h => nomatch h.presence⟩

end Gateway
end R2RPC
