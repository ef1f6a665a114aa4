import R2RPC.Gateway.Memberships

/-!
# What a dead socket leaves behind

{lit}`handleDisconnect` removes what {lit}`handleConnection` has written so far, and
{lit}`handleConnection` never asks whether its socket is still open.  For the only
socket of a client id the outcome depends on one order alone: when
{lit}`startHeartbeat` runs before the close event, nothing is left; when it runs after,
the timer at least is left.

Main results:

- Structure {lit}`LeavesNothing`: no trace of a socket.
- Definition {lit}`BindsOpen`: the close event has not come before
  {lit}`startHeartbeat`.
- Theorem {lit}`dead_socket_leaves_nothing_iff`: a completed socket leaves nothing
  exactly along the runs that meet it.
- Theorem {lit}`closed_handshake_leaves_everything`: a socket that closes while its
  token is read.

Current gaps:

- None.
-/

namespace R2RPC
namespace Gateway

open Interleaving DeviceToken

variable {s t : State} {a : Action} {as : List Action} {k : SocketId} {socket socket' : Socket}
  {c : ClientId} {view view' : ClientView} {token : SessionToken} {store : Store}

/-! ## The property and its condition -/

/-- No session, no presence, no membership, and no row that is online. -/
structure ClientView.Blank (view : ClientView) : Prop where
  session : view.session = none
  presence : view.presence = none
  memberOf : ∀ projectId, view.memberOf projectId = false
  offline : ∀ row, view.devices.alive = some row → row.online = false

/-- No local map has the socket, the stores have nothing about its client id, and its
timer is not running. -/
structure LeavesNothing (k : SocketId) (c : ClientId) (s : State) : Prop where
  unlisted : ∀ instanceId clientId, s.localSockets instanceId clientId ≠ some k
  blank : (s.store.view c).Blank
  timer : ∀ socket, s.sockets k = some socket → socket.pingTimer ≠ .running

/-- Socket `k`, and no other, connects under the client id, and the commands of its
two handlers are answered. -/
def SoleConnection (k : SocketId) (c : ClientId) : Action → Prop
  | .accept id _ request => request.clientId = c ↔ id = k
  | .handshake id fault | .disconnect id fault => id = k → fault = .none
  | _ => True

instance (k : SocketId) (c : ClientId) (a : Action) : Decidable (SoleConnection k c a) :=
  match a with
  | .accept id _ request => inferInstanceAs (Decidable (request.clientId = c ↔ id = k))
  | .handshake id fault | .disconnect id fault =>
      inferInstanceAs (Decidable (id = k → fault = .none))
  | .attach _ | .bind _ | .closeEvent _ | .heartbeat .. | .refresh .. | .administer ..
  | .administration _ | .deliverScopeChange .. | .expireSession _ | .expirePresence _
  | .expireMaxInFlight _ | .expireTokenCache _ | .crash _ | .invoke .. | .dispatch .. =>
      isTrue trivial

/-- `startHeartbeat` of the socket runs before its close event. -/
def BindsOpen (k : SocketId) (s : State) : Action → Prop
  | .bind id => id = k → ∀ socket ∈ s.liveSocket k, socket.disconnect = .idle
  | _ => True

instance (k : SocketId) (s : State) (a : Action) : Decidable (BindsOpen k s a) :=
  match a with
  | .bind id => inferInstanceAs (Decidable (id = k →
      ∀ socket ∈ s.liveSocket k, socket.disconnect = .idle))
  | .accept .. | .handshake .. | .attach _ | .closeEvent _ | .disconnect .. | .heartbeat ..
  | .refresh .. | .administer .. | .administration _ | .deliverScopeChange .. | .expireSession _
  | .expirePresence _ | .expireMaxInFlight _ | .expireTokenCache _ | .crash _ | .invoke ..
  | .dispatch .. => isTrue trivial

/-- `handleConnection` has ended. -/
def HandshakeStage.ended : HandshakeStage → Bool
  | .finished | .unauthorized | .unavailable => true
  | _ => false

/-! ## A timer that nobody clears -/

/-- The timer of the socket runs although its close event has been handled. -/
def TimerLeaked (k : SocketId) (s : State) : Prop :=
  ∃ socket, s.sockets k = some socket ∧ socket.pingTimer = .running ∧ socket.disconnect ≠ .idle

theorem Socket.disconnectNext_ne_idle {socket : Socket} (hactive : socket.disconnect ≠ .idle) :
    socket.disconnectNext token store ≠ .idle := by
  unfold disconnectNext
  split
  · split <;> simp
  · simp
  · simp
  · cases socket.projectIds <;> simp [nextRemoval]
  · rename_i remaining hstage
    cases remaining <;> simp [nextRemoval]
  · simp
  · exact hactive

theorem TimerLeaked.step (h : TimerLeaked k s) (hstep : Gateway.step s a = some t) :
    TimerLeaked k t := by
  rcases h with ⟨socket, hk, htimer, hactive⟩
  rcases step_socket hstep hk with ⟨socket', hk', hchange⟩
  refine ⟨socket', hk', ?_⟩
  cases hchange with
  | same => exact ⟨htimer, hactive⟩
  | handshake fault ha hlive hawaits =>
      rcases socket.moveHandshake_request _ with ⟨-, -, -, -, hdisconnect, hping⟩
      exact ⟨hping.trans htimer, hdisconnect ▸ hactive⟩
  | refused ha hlive record hstage =>
      rcases socket.moveHandshake_request .unauthorized with ⟨-, -, -, -, hdisconnect, hping⟩
      exact ⟨hping.trans htimer, hdisconnect ▸ hactive⟩
  | attached ha hlive record hstage token projectIds hvalid => exact ⟨htimer, hactive⟩
  | bound ha hlive hstage => exact ⟨rfl, hactive⟩
  | closed ha hlive hidle => exact (hactive hidle).elim
  | disconnect fault ha hlive hbefore hundone =>
      refine ⟨htimer, ?_⟩
      split
      · simp
      · exact Socket.disconnectNext_ne_idle hactive
  | scopeChanged id instanceId ha =>
      rcases socket.close_request 4002 with ⟨-, -, -, -, hdisconnect, hping⟩
      exact ⟨hping.trans htimer, hdisconnect ▸ hactive⟩

/-! ## The socket and its view -/

/-- What `handleDisconnect` has removed at a stage. -/
def DisconnectStage.Removed : DisconnectStage → ClientView → Prop
  | .idle, _ | .unregister, _ => True
  | .delPresence, view => view.session = none
  | .delMaxInFlight, view | .delInFlight, view => view.session = none ∧ view.presence = none
  | .removeMember projectId remaining, view =>
      view.session = none ∧ view.presence = none ∧
        ∀ q, view.memberOf q = true → q ∈ projectId :: remaining
  | .markOffline, view =>
      view.session = none ∧ view.presence = none ∧ ∀ q, view.memberOf q = true → q ∈ []
  | .done, view => view.Blank

theorem removed_nextRemoval {projectIds : List ProjectId} :
    (Socket.nextRemoval projectIds).Removed view ↔
      view.session = none ∧ view.presence = none ∧
        ∀ q, view.memberOf q = true → q ∈ projectIds := by
  cases projectIds <;> rfl

/-- A socket agrees with the view of its client id: before it is attached there is
nothing, later there are memberships of its scope only, and a finished handshake is
followed by the removals of its `handleDisconnect`. -/
structure Tidy (socket : Socket) (view : ClientView) : Prop where
  fresh : socket.projects = none →
    view.Blank ∧ (socket.disconnect = .idle ∨ socket.disconnect = .done)
  memberOf : ∀ q, view.memberOf q = true → q ∈ socket.projectIds
  available : socket.handshake ≠ .unavailable
  existing : ∀ existing, socket.handshake = .writeDevice existing →
    existing = view.devices.selectExisting
  timer : socket.pingTimer = .running → socket.handshake = .finished
  removed : socket.disconnect ≠ .idle → socket.handshake = .finished →
    socket.disconnect.Removed view ∧ socket.pingTimer ≠ .running

theorem ClientView.Blank.removes (h : view.Blank) (hremoves : view.Removes view') :
    view'.Blank := by
  refine ⟨?_, ?_, fun q => ?_, ?_⟩
  · rcases hremoves.session with hsame | hnone
    · rw [hsame, h.session]
    · exact hnone
  · rcases hremoves.presence with hsame | hnone
    · rw [hsame, h.presence]
    · exact hnone
  · by_contra hmember
    rw [Bool.not_eq_false] at hmember
    have hbefore := hremoves.memberOf q hmember
    rw [h.memberOf q] at hbefore
    contradiction
  · rw [hremoves.devices]
    exact h.offline

theorem DisconnectStage.Removed.removes {stage : DisconnectStage} (h : stage.Removed view)
    (hremoves : view.Removes view') : stage.Removed view' := by
  have hsession : view.session = none → view'.session = none := by
    intro hnone
    rcases hremoves.session with hsame | hgone
    · rw [hsame, hnone]
    · exact hgone
  have hpresence : view.presence = none → view'.presence = none := by
    intro hnone
    rcases hremoves.presence with hsame | hgone
    · rw [hsame, hnone]
    · exact hgone
  cases stage with
  | idle => trivial
  | unregister => trivial
  | delPresence => exact hsession h
  | delMaxInFlight => exact ⟨hsession h.1, hpresence h.2⟩
  | delInFlight => exact ⟨hsession h.1, hpresence h.2⟩
  | removeMember projectId remaining =>
      exact ⟨hsession h.1, hpresence h.2.1, fun q hq => h.2.2 q (hremoves.memberOf q hq)⟩
  | markOffline =>
      exact ⟨hsession h.1, hpresence h.2.1, fun q hq => h.2.2 q (hremoves.memberOf q hq)⟩
  | done => exact ClientView.Blank.removes h hremoves

theorem Socket.not_ended_of_awaits (h : socket.awaitsCommand = true) :
    socket.handshake.ended = false := by
  unfold awaitsCommand at h
  cases hstage : socket.handshake with
  | finished | unauthorized | unavailable => simp [hstage] at h
  | _ => rfl

/-- One command neither finishes a handshake nor makes it unavailable, as long as
`registerOnline` writes the rows it has selected. -/
theorem Socket.handshakeNext_not_ended (hawaits : socket.awaitsCommand = true)
    (hexisting : ∀ existing, socket.handshake = .writeDevice existing →
      existing = (store.devices socket.clientId).selectExisting) :
    (socket.handshakeNext store).ended = false := by
  have hended := not_ended_of_awaits hawaits
  unfold handshakeNext
  split
  case h_2 => split <;> rfl
  case h_7 existing hstage =>
    have hsome := (store.devices socket.clientId).writeDevice_isSome socket.request.token
      socket.request.metadata
    rcases Option.isSome_iff_exists.mp hsome with ⟨written, hwritten⟩
    simp only [Store.writeDevice, hexisting existing hstage, hwritten, Option.map_some]
    rfl
  case h_8 => cases socket.projectIds <;> rfl
  case h_9 remaining _ => cases remaining <;> rfl
  case h_12 => exact hended
  all_goals rfl

/-- The rows to be written are the ones selected just before. -/
theorem Socket.handshakeNext_writeDevice {existing : Option (DeviceId × Bool)}
    (h : socket.handshakeNext store = .writeDevice existing) :
    socket.handshake = .selectDevice ∧
      existing = (store.devices socket.clientId).selectExisting := by
  unfold handshakeNext at h
  split at h
  case h_2 => split at h <;> contradiction
  case h_6 hstage =>
    rw [HandshakeStage.writeDevice.injEq] at h
    exact ⟨hstage, h.symm⟩
  case h_7 => split at h <;> contradiction
  case h_8 => cases hscope : socket.projectIds <;> simp [hscope, nextMember] at h
  case h_9 remaining _ => cases remaining <;> contradiction
  case h_12 hother _ _ _ _ => exact (hother existing h).elim
  all_goals contradiction

/-- A handshake adds the memberships it has pending. -/
theorem Socket.handshakeView_memberOf {q : ProjectId}
    (h : (socket.handshakeView token view).memberOf q = true) :
    view.memberOf q = true ∨ q ∈ socket.pendingProjects := by
  unfold handshakeView at h
  unfold pendingProjects
  split at h
  case h_4 p remaining hstage =>
    rw [hstage]
    by_cases hq : q = p
    · exact Or.inr (hq ▸ List.mem_cons_self)
    · exact Or.inl (by simpa [hq] using h)
  all_goals exact Or.inl h

/-- A handshake that is not attached changes nothing in the view. -/
theorem Socket.handshakeView_of_not_attached (h : socket.handshake.attached = false) :
    socket.handshakeView token view = view := by
  unfold handshakeView
  split
  all_goals first
    | rfl
    | (rename_i hstage; rw [hstage] at h; contradiction)

namespace Tidy

theorem removes (h : Tidy socket view) (hremoves : view.Removes view') : Tidy socket view' where
  fresh hnone := ⟨(h.fresh hnone).1.removes hremoves, (h.fresh hnone).2⟩
  memberOf q hq := h.memberOf q (hremoves.memberOf q hq)
  available := h.available
  existing := by
    rw [hremoves.devices]
    exact h.existing
  timer := h.timer
  removed hactive hfinished :=
    ⟨(h.removed hactive hfinished).1.removes hremoves, (h.removed hactive hfinished).2⟩

/-- Nothing else of the socket matters. -/
theorem of_eq (h : Tidy socket view) (hprojects : socket'.projects = socket.projects)
    (hhandshake : socket'.handshake = socket.handshake)
    (hdisconnect : socket'.disconnect = socket.disconnect)
    (htimer : socket'.pingTimer = socket.pingTimer) : Tidy socket' view where
  fresh := by
    rw [hprojects, hdisconnect]
    exact h.fresh
  memberOf := by
    rw [Socket.projectIds, hprojects]
    exact h.memberOf
  available := by
    rw [hhandshake]
    exact h.available
  existing := by
    rw [hhandshake]
    exact h.existing
  timer := by
    rw [htimer, hhandshake]
    exact h.timer
  removed := by
    rw [hdisconnect, hhandshake, htimer]
    exact h.removed

/-! ### handleConnection -/

/-- One command of the handshake. -/
theorem handshake (h : Tidy socket view) (store : Store) (token : SessionToken)
    (hawaits : socket.awaitsCommand = true)
    (hattached : socket.projects.isSome = socket.handshake.attached)
    (hpending : ∀ q ∈ socket.pendingProjects, q ∈ socket.projectIds)
    (hdevices : store.devices socket.clientId = view.devices) :
    Tidy (socket.moveHandshake (socket.handshakeNext store)) (socket.handshakeView token view) := by
  have hended : (socket.handshakeNext store).ended = false := by
    refine Socket.handshakeNext_not_ended hawaits ?_
    rw [hdevices]
    exact h.existing
  have hmoved : Tidy { socket with handshake := socket.handshakeNext store }
      (socket.handshakeView token view) := by
    refine ⟨?_, ?_, ?_, ?_, ?_, ?_⟩
    · intro hnone
      rw [hnone] at hattached
      rw [Socket.handshakeView_of_not_attached hattached.symm]
      exact h.fresh hnone
    · intro q hq
      rcases Socket.handshakeView_memberOf hq with hbefore | hbefore
      · exact h.memberOf q hbefore
      · exact hpending q hbefore
    · intro hstage
      rw [show socket.handshakeNext store = .unavailable from hstage] at hended
      contradiction
    · intro existing hstage
      rcases Socket.handshakeNext_writeDevice hstage with ⟨hselect, hexisting⟩
      rw [hexisting, hdevices, Socket.handshakeView, hselect]
    · intro hrunning
      have hfinished := Socket.not_ended_of_awaits hawaits
      rw [h.timer hrunning] at hfinished
      contradiction
    · intro _ hstage
      rw [show socket.handshakeNext store = .finished from hstage] at hended
      contradiction
  rcases socket.moveHandshake_request (socket.handshakeNext store) with
    ⟨-, -, hprojects, hhandshake, hdisconnect, htimer⟩
  exact hmoved.of_eq hprojects hhandshake hdisconnect htimer

/-! ### handleDisconnect -/

/-- One command of the cleanup, when the session is the socket's own or gone. -/
theorem disconnect (h : Tidy socket view) (store : Store) (hactive : socket.disconnect ≠ .idle)
    (hundone : socket.disconnect ≠ .done)
    (hsession : ∀ other, view.session = some other → other = token)
    (hstore : store.view socket.clientId = view) :
    Tidy { socket with disconnect := socket.disconnectNext token store }
      (socket.disconnectView token view) := by
  have hmember : ∀ q, (socket.disconnectView token view).memberOf q = true →
      view.memberOf q = true := by
    intro q hq
    unfold Socket.disconnectView at hq
    split at hq
    case h_3 p remaining hstage =>
      by_cases hqp : q = p
      · simp [hqp] at hq
      · simpa [hqp] using hq
    all_goals exact hq
  have hrows : (socket.disconnectView token view).devices.selectExisting =
      view.devices.selectExisting := by
    unfold Socket.disconnectView
    split
    case h_4 => exact view.devices.selectExisting_markOffline
    all_goals rfl
  refine ⟨?_, fun q hq => h.memberOf q (hmember q hq), h.available, ?_, h.timer, ?_⟩
  · intro hnone
    rcases (h.fresh hnone).2 with hidle | hdone
    · exact (hactive hidle).elim
    · exact (hundone hdone).elim
  · intro existing hstage
    rw [hrows]
    exact h.existing existing hstage
  · intro _ hfinished
    rcases h.removed hactive hfinished with ⟨hremoved, htimer⟩
    refine ⟨?_, htimer⟩
    unfold Socket.disconnectNext Socket.disconnectView
    cases hstage : socket.disconnect with
    | idle => exact (hactive hstage).elim
    | unregister =>
        have hall : view.session.all (· = token) = true := by
          rw [Option.all_eq_true]
          exact fun other hother => decide_eq_true (hsession other hother)
        have howns : store.ownsSession socket.clientId token = true := by
          rw [← hstore] at hall
          exact hall
        simp only [howns, hall, if_true]
        rfl
    | delPresence =>
        rw [hstage] at hremoved
        exact ⟨hremoved, rfl⟩
    | delMaxInFlight =>
        rw [hstage] at hremoved
        exact hremoved
    | delInFlight =>
        rw [hstage] at hremoved
        exact removed_nextRemoval.mpr ⟨hremoved.1, hremoved.2, h.memberOf⟩
    | removeMember projectId remaining =>
        rw [hstage] at hremoved
        refine removed_nextRemoval.mpr ⟨hremoved.1, hremoved.2.1, fun q hq => ?_⟩
        by_cases hqp : q = projectId
        · simp [hqp] at hq
        · have hbefore := hremoved.2.2 q (by simpa [hqp] using hq)
          exact (List.mem_cons.mp hbefore).resolve_left hqp
    | markOffline =>
        rw [hstage] at hremoved
        refine ⟨hremoved.1, hremoved.2.1, fun q => ?_, ?_⟩
        · by_contra hmember'
          exact absurd (hremoved.2.2 q (by simpa using hmember')) List.not_mem_nil
        · intro row hrow
          simp only [ClientDevices.markOffline, Option.map_eq_some_iff] at hrow
          rcases hrow with ⟨before, -, rfl⟩
          rfl
    | done => exact (hundone hstage).elim

/-! ### The synchronous stretches -/

/-- `attachConnectionContext`, before or after the close event. -/
theorem attach (h : Tidy socket view) {record : Option CachedDeviceToken}
    (hstage : socket.handshake = .readToken (.done record)) (hnone : socket.projects = none)
    (projectIds : List ProjectId) :
    Tidy { socket with
      projects := some projectIds
      handshake := .setSession } view where
  fresh := nofun
  memberOf q hq := by
    rw [(h.fresh hnone).1.memberOf q] at hq
    contradiction
  available := nofun
  existing := nofun
  timer hrunning := by
    have hfinished := h.timer hrunning
    rw [hstage] at hfinished
    contradiction
  removed := nofun

theorem refuse (h : Tidy socket view) {record : Option CachedDeviceToken}
    (hstage : socket.handshake = .readToken (.done record)) :
    Tidy (socket.moveHandshake .unauthorized) view := by
  have hmoved : Tidy { socket with handshake := .unauthorized } view := by
    refine ⟨h.fresh, h.memberOf, nofun, nofun, ?_, nofun⟩
    intro hrunning
    have hfinished := h.timer hrunning
    rw [hstage] at hfinished
    contradiction
  rcases socket.moveHandshake_request .unauthorized with
    ⟨-, -, hprojects, hhandshake, hdisconnect, htimer⟩
  exact hmoved.of_eq hprojects hhandshake hdisconnect htimer

/-- `startHeartbeat` before the close event. -/
theorem bind (h : Tidy socket view) (hidle : socket.disconnect = .idle) :
    Tidy { socket with
      pingTimer := .running
      handshake := .finished } view :=
  ⟨h.fresh, h.memberOf, nofun, nofun, fun _ => rfl, fun hactive _ => (hactive hidle).elim⟩

/-- The close event. -/
theorem closed (h : Tidy socket view) : Tidy socket.closed view := by
  have hcleared : socket.closed.pingTimer ≠ .running := by
    unfold Socket.closed
    split
    · simp
    · assumption
  refine ⟨fun hnone => ?_, h.memberOf, h.available, h.existing, ?_, fun _ _ => ?_⟩
  · have hprojects : socket.projects = none := hnone
    refine ⟨(h.fresh hprojects).1, Or.inr ?_⟩
    simp [Socket.closed, hprojects]
  · exact fun hrunning => (hcleared hrunning).elim
  · refine ⟨?_, hcleared⟩
    cases hprojects : socket.projects with
    | some projectIds => simp [Socket.closed, hprojects, DisconnectStage.Removed]
    | none =>
        simp only [Socket.closed, hprojects, Option.isSome_none, Bool.false_eq_true, if_false]
        exact (h.fresh hprojects).1

end Tidy

/-- A socket that has just been accepted. -/
theorem ClientView.Blank.tidy (h : view.Blank) (instanceId : InstanceId)
    (request : ConnectRequest) : Tidy (.accept instanceId request) view := by
  rcases Socket.accept_fresh instanceId request with
    ⟨hprojects, hstage, -, -, hdisconnect, htimer⟩
  refine ⟨fun _ => ⟨h, Or.inl hdisconnect⟩, fun q hq => ?_, ?_, ?_, fun hrunning => ?_,
    fun hactive => (hactive hdisconnect).elim⟩
  · rw [h.memberOf q] at hq
    contradiction
  · rcases hstage with hstage | hstage <;> simp [hstage]
  · rcases hstage with hstage | hstage <;> simp [hstage]
  · rw [htimer] at hrunning
    contradiction

/-! ## The local maps -/

/-- A socket enters a local map when it is attached. -/
theorem step_listed {instanceId : InstanceId} {clientId : ClientId}
    (hstep : step s a = some t) (hlisted : t.localSockets instanceId clientId = some k) :
    s.localSockets instanceId clientId = some k ∨
      ∃ socket, t.sockets k = some socket ∧ socket.instanceId = instanceId ∧
        socket.clientId = clientId ∧ socket.projects.isSome = true ∧
          socket.handshake = .setSession := by
  cases step_cluster hstep with
  | same store sockets heartbeats invocations => exact Or.inl hlisted
  | attached id socket projectIds ha hlive =>
      by_cases hinst : instanceId = socket.instanceId
      · subst hinst
        by_cases hclient : clientId = socket.clientId
        · subst hclient
          have hid : id = k := by
            simpa [State.setLocal, State.setSocket] using hlisted
          subst hid
          exact Or.inr ⟨{ socket with
            projects := some projectIds
            handshake := .setSession }, by simp [State.setSocket], rfl, rfl, rfl, rfl⟩
        · exact Or.inl (by simpa [State.setLocal, State.setSocket, hclient] using hlisted)
      · exact Or.inl (by simpa [State.setLocal, State.setSocket, hinst] using hlisted)
  | closed id socket ha hlive hscope =>
      simp only [State.setSocket, State.deleteLocal] at hlisted
      split at hlisted
      · by_cases hinst : instanceId = socket.instanceId
        · subst hinst
          by_cases hclient : clientId = socket.clientId
          · simp [hclient] at hlisted
          · exact Or.inl (by simpa [hclient] using hlisted)
        · exact Or.inl (by simpa [hinst] using hlisted)
      · exact Or.inl hlisted
  | administered id token write ha hfree store => exact Or.inl hlisted
  | administration id administration ha hget hundone store => exact Or.inl hlisted
  | delivered id other token projectIds ha hget => exact Or.inl hlisted
  | crashed other ha =>
      by_cases hinst : instanceId = other
      · simp [State.crash, hinst] at hlisted
      · exact Or.inl (by simpa [State.crash, hinst] using hlisted)

/-- The close event takes the socket out of the map. -/
theorem closeEvent_unlists (hstep : step s (.closeEvent k) = some t)
    (hk : s.sockets k = some socket) (hscope : socket.projects.isSome = true) :
    t.localSockets socket.instanceId socket.clientId ≠ some k := by
  rcases State.closeEvent_eq_some hstep with ⟨before, hlive, -, rfl⟩
  have hsame : before = socket :=
    Option.some.inj ((State.liveSocket_eq_some.mp hlive).1.symm.trans hk)
  subst hsame
  simp only [hscope, if_true, State.setSocket, State.deleteLocal]
  split
  · simp
  · assumption

/-! ## The invariant -/

/-- The only socket of a client id agrees with the view of it and with the maps. -/
structure SoleInvariant (k : SocketId) (c : ClientId) (s : State) : Prop where
  attached : AttachedSockets s
  owned : SessionOwned s
  granted : PendingGranted s
  sole : ∀ id socket, s.sockets id = some socket → (socket.clientId = c ↔ id = k)
  absent : s.sockets k = none → (s.store.view c).Blank
  tidy : ∀ socket, s.sockets k = some socket → Tidy socket (s.store.view c)
  listed : ∀ instanceId clientId, s.localSockets instanceId clientId = some k →
    ∃ socket, s.sockets k = some socket ∧ socket.instanceId = instanceId ∧
      socket.clientId = clientId ∧ socket.projects.isSome = true
  unlisted : ∀ socket, s.sockets k = some socket → socket.disconnect ≠ .idle →
    socket.handshake = .finished →
      ∀ instanceId clientId, s.localSockets instanceId clientId ≠ some k

namespace SoleInvariant

theorem initial (h : machine.initial s)
    (hoffline : ∀ row, (s.store.devices c).alive = some row → row.online = false) :
    SoleInvariant k c s := by
  have hreach := Machine.Reachable.initial h
  refine ⟨attachedSockets_of_reachable hreach, SessionOwned.of_reachable hreach,
    PendingGranted.of_reachable hreach, ?_, ?_, ?_, ?_, ?_⟩ <;>
    rcases h with ⟨deviceTokens, devices, rfl⟩
  · intro id socket hid
    simp [State.start] at hid
  · intro _
    refine ⟨rfl, rfl, fun q => ?_, hoffline⟩
    simp [Store.view, State.start, Store.start]
  · intro socket hk
    simp [State.start] at hk
  · intro instanceId clientId hlisted
    simp [State.start] at hlisted
  · intro socket hk
    simp [State.start] at hk

theorem step_sole (h : SoleInvariant k c s) (hconnection : SoleConnection k c a)
    (hstep : Gateway.step s a = some t) :
    ∀ id socket, t.sockets id = some socket → (socket.clientId = c ↔ id = k) := by
  intro id socket' hid
  rcases socket_origin hstep hid with ⟨instanceId, request, rfl, rfl, -⟩ | ⟨socket, hs, hchange⟩
  · rw [Socket.clientId, (Socket.accept_fresh instanceId request).2.2.1]
    exact hconnection
  · rw [Socket.clientId, hchange.keeps.1]
    exact h.sole id socket hs

/-- Steps that are not commands of the socket's handlers only remove from its view. -/
theorem step_removes (h : SoleInvariant k c s)
    (hhandshake : ∀ fault, a ≠ .handshake k fault) (hdisconnect : ∀ fault, a ≠ .disconnect k fault)
    (hstep : Gateway.step s a = some t) : (s.store.view c).Removes (t.store.view c) := by
  have hview := step_view c hstep
  revert hview
  generalize t.store.view c = view
  intro hview
  cases hview with
  | removed view hremoves hcause => exact hremoves
  | handshake id fault socket ha hlive hclient hrun =>
      have hid := (h.sole id socket (State.liveSocket_eq_some.mp hlive).1).mp hclient
      exact (hhandshake fault (hid ▸ ha)).elim
  | disconnect id fault socket ha hlive hclient hrun =>
      have hid := (h.sole id socket (State.liveSocket_eq_some.mp hlive).1).mp hclient
      exact (hdisconnect fault (hid ▸ ha)).elim

/-- A command of the socket's `handleConnection`. -/
theorem step_handshake (h : SoleInvariant k c s)
    (hstep : Gateway.step s (.handshake k .none) = some t) (hk : t.sockets k = some socket') :
    Tidy socket' (t.store.view c) := by
  rcases State.handshake_eq_some hstep with ⟨socket, hlive, hawaits, rfl⟩
  have hs := (State.liveSocket_eq_some.mp hlive).1
  have hclient := (h.sole k socket hs).mpr rfl
  rw [State.setSocket_sockets, if_pos rfl, Option.some.injEq] at hk
  subst hk
  have hmoved := (h.tidy socket hs).handshake s.store (State.sessionToken socket k) hawaits
    (h.attached k socket hs) (h.granted k socket hs) (by rw [hclient]; rfl)
  rw [← hclient] at hmoved ⊢
  rw [← socket.view_handshakeCommand] at hmoved
  exact hmoved

/-- The session of the client id is the socket's own or gone. -/
theorem session_own (h : SoleInvariant k c s) (hk : s.sockets k = some socket)
    (other : SessionToken) (hsession : (s.store.view c).session = some other) :
    other = State.sessionToken socket k := by
  rcases h.owned c other hsession with ⟨owner, hother, hclient, htoken, -⟩
  have hid := (h.sole other.uuid owner hother).mp hclient
  rw [hid] at hother htoken
  rw [htoken, Option.some.inj (hother.symm.trans hk)]

/-- A command of the socket's `handleDisconnect`. -/
theorem step_disconnect (h : SoleInvariant k c s)
    (hstep : Gateway.step s (.disconnect k .none) = some t) (hk : t.sockets k = some socket') :
    Tidy socket' (t.store.view c) := by
  rcases State.disconnect_eq_some hstep with ⟨socket, hlive, hactive, hundone, rfl⟩
  have hs := (State.liveSocket_eq_some.mp hlive).1
  have hclient := (h.sole k socket hs).mpr rfl
  rw [State.setSocket_sockets, if_pos rfl, Option.some.injEq] at hk
  subst hk
  have hmoved := (h.tidy socket hs).disconnect s.store hactive hundone
    (h.session_own hs) (by rw [hclient])
  rw [← hclient] at hmoved ⊢
  rw [← socket.view_disconnectCommand] at hmoved
  exact hmoved

/-- The socket after a step that is not a command of its handlers. -/
theorem step_other (h : SoleInvariant k c s) (hbinds : BindsOpen k s a)
    (hhandshake : ∀ fault, a ≠ .handshake k fault) (hdisconnect : ∀ fault, a ≠ .disconnect k fault)
    (hstep : Gateway.step s a = some t) (hk : t.sockets k = some socket') :
    Tidy socket' (t.store.view c) := by
  have hremoves := h.step_removes hhandshake hdisconnect hstep
  rcases socket_origin hstep hk with ⟨instanceId, request, -, rfl, hnone⟩ | ⟨socket, hs, hchange⟩
  · exact ((h.absent hnone).removes hremoves).tidy instanceId request
  · have htidy := (h.tidy socket hs).removes hremoves
    cases hchange with
    | same => exact htidy
    | handshake fault ha hlive hawaits => exact (hhandshake fault ha).elim
    | refused ha hlive record hstage => exact htidy.refuse hstage
    | attached ha hlive record hstage token projectIds hvalid =>
        exact htidy.attach hstage (h.attached.projects_none hs (by rw [hstage]; rfl)) projectIds
    | bound ha hlive hstage =>
        subst ha
        exact htidy.bind (hbinds rfl socket hlive)
    | closed ha hlive hidle => exact htidy.closed
    | disconnect fault ha hlive hactive hundone => exact (hdisconnect fault ha).elim
    | scopeChanged id instanceId ha =>
        rcases socket.close_request 4002 with
          ⟨-, -, hprojects, hstage, hdisconnect', htimer⟩
        exact htidy.of_eq hprojects hstage hdisconnect' htimer

theorem step_tidy (h : SoleInvariant k c s) (hconnection : SoleConnection k c a)
    (hbinds : BindsOpen k s a) (hstep : Gateway.step s a = some t)
    (hk : t.sockets k = some socket') : Tidy socket' (t.store.view c) := by
  by_cases hhandshake : ∃ fault, a = .handshake k fault
  · rcases hhandshake with ⟨fault, rfl⟩
    rw [show fault = .none from hconnection rfl] at hstep
    exact h.step_handshake hstep hk
  · by_cases hdisconnect : ∃ fault, a = .disconnect k fault
    · rcases hdisconnect with ⟨fault, rfl⟩
      rw [show fault = .none from hconnection rfl] at hstep
      exact h.step_disconnect hstep hk
    · exact h.step_other hbinds (fun fault ha => hhandshake ⟨fault, ha⟩)
        (fun fault ha => hdisconnect ⟨fault, ha⟩) hstep hk

theorem step_absent (h : SoleInvariant k c s) (hstep : Gateway.step s a = some t)
    (hk : t.sockets k = none) : (t.store.view c).Blank := by
  have hs : s.sockets k = none := by
    cases hs : s.sockets k with
    | none => rfl
    | some socket =>
        rcases step_socket hstep hs with ⟨socket', hk', -⟩
        rw [hk] at hk'
        contradiction
  refine (h.absent hs).removes (h.step_removes ?_ ?_ hstep)
  · rintro fault rfl
    rcases State.handshake_eq_some hstep with ⟨socket, hlive, -⟩
    rw [(State.liveSocket_eq_some.mp hlive).1] at hs
    contradiction
  · rintro fault rfl
    rcases State.disconnect_eq_some hstep with ⟨socket, hlive, -⟩
    rw [(State.liveSocket_eq_some.mp hlive).1] at hs
    contradiction

theorem step_listed (h : SoleInvariant k c s) (hstep : Gateway.step s a = some t)
    {instanceId : InstanceId} {clientId : ClientId}
    (hlisted : t.localSockets instanceId clientId = some k) :
    ∃ socket, t.sockets k = some socket ∧ socket.instanceId = instanceId ∧
      socket.clientId = clientId ∧ socket.projects.isSome = true := by
  rcases Gateway.step_listed hstep hlisted with
    hbefore | ⟨socket, hk, hinst, hclient, hscope, -⟩
  · rcases h.listed instanceId clientId hbefore with ⟨socket, hs, hinst, hclient, hscope⟩
    rcases step_attached h.attached hstep hs hscope with ⟨socket', hk, hreq, hinst', hsame⟩
    refine ⟨socket', hk, hinst'.trans hinst, ?_, hsame ▸ hscope⟩
    rw [Socket.clientId, hreq]
    exact hclient
  · exact ⟨socket, hk, hinst, hclient, hscope⟩

theorem step_unlisted (h : SoleInvariant k c s) (hconnection : SoleConnection k c a)
    (hbinds : BindsOpen k s a) (hstep : Gateway.step s a = some t)
    (hk : t.sockets k = some socket') (hactive : socket'.disconnect ≠ .idle)
    (hfinished : socket'.handshake = .finished) (instanceId : InstanceId) (clientId : ClientId) :
    t.localSockets instanceId clientId ≠ some k := by
  intro hlisted
  rcases Gateway.step_listed hstep hlisted with hbefore | ⟨socket, hk', -, -, -, hstage⟩
  · rcases h.listed instanceId clientId hbefore with ⟨socket, hs, rfl, rfl, hscope⟩
    rcases step_socket hstep hs with ⟨socket'', hk'', hchange⟩
    rw [hk, Option.some.injEq] at hk''
    subst hk''
    cases hchange with
    | same => exact h.unlisted socket' hs hactive hfinished _ _ hbefore
    | handshake fault ha hlive hawaits =>
        subst ha
        rw [show fault = .none from hconnection rfl, (socket.moveHandshake_request _).2.2.2.1]
          at hfinished
        have hended : (socket.handshakeNext s.store).ended = false := by
          refine Socket.handshakeNext_not_ended hawaits ?_
          rw [(h.sole k socket hs).mpr rfl]
          exact (h.tidy socket hs).existing
        rw [show socket.handshakeNext s.store = .finished from hfinished] at hended
        contradiction
    | refused ha hlive record hstage =>
        rw [(socket.moveHandshake_request _).2.2.2.1] at hfinished
        contradiction
    | attached ha hlive record hstage token projectIds hvalid => contradiction
    | bound ha hlive hstage =>
        subst ha
        exact hactive (hbinds rfl socket hlive)
    | closed ha hlive hidle =>
        subst ha
        exact closeEvent_unlists hstep hs hscope hlisted
    | disconnect fault ha hlive hactive' hundone =>
        exact h.unlisted socket hs hactive' hfinished _ _ hbefore
    | scopeChanged id instanceId ha =>
        rcases socket.close_request 4002 with ⟨-, -, -, hstage, hdisconnect, -⟩
        exact h.unlisted socket hs (hdisconnect ▸ hactive) (hstage ▸ hfinished) _ _ hbefore
  · rw [hk, Option.some.injEq] at hk'
    rw [hk', hstage] at hfinished
    contradiction

theorem step (h : SoleInvariant k c s) (hconnection : SoleConnection k c a)
    (hbinds : BindsOpen k s a) (hstep : Gateway.step s a = some t) : SoleInvariant k c t where
  attached := attachedSockets_step h.attached hstep
  owned := h.owned.step h.attached hstep
  granted := h.granted.step hstep
  sole := h.step_sole hconnection hstep
  absent := h.step_absent hstep
  tidy _ hk := h.step_tidy hconnection hbinds hstep hk
  listed _ _ hlisted := h.step_listed hstep hlisted
  unlisted _ hk hactive hfinished := h.step_unlisted hconnection hbinds hstep hk hactive hfinished

/-- A socket whose handlers have ended leaves nothing. -/
theorem leavesNothing (h : SoleInvariant k c s) (hk : s.sockets k = some socket)
    (hdone : socket.disconnect = .done) (hended : socket.handshake.ended = true) :
    LeavesNothing k c s := by
  have htidy := h.tidy socket hk
  have hactive : socket.disconnect ≠ .idle := by simp [hdone]
  have hsame : ∀ other, s.sockets k = some other → other = socket :=
    fun other hother => Option.some.inj (hother.symm.trans hk)
  by_cases hfinished : socket.handshake = .finished
  · rcases htidy.removed hactive hfinished with ⟨hblank, htimer⟩
    rw [hdone] at hblank
    refine ⟨h.unlisted socket hk hactive hfinished, hblank, fun other hother => ?_⟩
    rw [hsame other hother]
    exact htimer
  · have hrefused : socket.projects = none := by
      cases hstage : socket.handshake with
      | unauthorized => exact h.attached.projects_none hk (by rw [hstage]; rfl)
      | unavailable => exact (htidy.available hstage).elim
      | finished => exact (hfinished hstage).elim
      | _ =>
          rw [hstage] at hended
          contradiction
    refine ⟨fun instanceId clientId hlisted => ?_, (htidy.fresh hrefused).1, ?_⟩
    · rcases h.listed instanceId clientId hlisted with ⟨other, hother, -, -, hscope⟩
      rw [hsame other hother, hrefused] at hscope
      contradiction
    · intro other hother hrunning
      rw [hsame other hother] at hrunning
      exact hfinished (htidy.timer hrunning)

end SoleInvariant

/-! ## The theorem -/

/-- A dead socket leaves nothing behind exactly when its close event does not come
before `startHeartbeat`.  For the only socket of a client id, whose row was not online
before it, along every run in which the commands of its handlers are answered and at
whose end both have completed. -/
theorem dead_socket_leaves_nothing_iff (hinit : machine.initial s)
    (hoffline : ∀ row, (s.store.devices c).alive = some row → row.online = false)
    (hsole : ∀ a ∈ as, SoleConnection k c a) (hrun : machine.run s as = some t)
    (hlive : t.liveSocket k = some socket) (hdone : socket.disconnect = .done)
    (hended : socket.handshake.ended = true) :
    LeavesNothing k c t ↔ machine.Meets (BindsOpen k) s as := by
  have hk := (State.liveSocket_eq_some.mp hlive).1
  constructor
  · intro hnothing
    refine Machine.meets_iff.mpr fun pre b post u has hpre => ?_
    cases b with
    | bind id =>
        rintro rfl before hbefore
        by_contra hactive
        rw [has, Machine.run_append] at hrun
        rcases hrun with ⟨u', hpre', hpost⟩
        rw [← Option.some.inj (hpre.symm.trans hpre')] at hpost
        rcases Machine.run_cons_eq_some.mp hpost with ⟨v, hstep, hrest⟩
        have hleaked : TimerLeaked id v := by
          rcases State.bind_eq_some hstep with ⟨bound, hbound, -, rfl⟩
          have hsame : bound = before := Option.some.inj (hbound.symm.trans hbefore)
          exact ⟨{ bound with
            pingTimer := .running
            handshake := .finished }, by rw [State.setSocket_sockets, if_pos rfl], rfl,
              hsame ▸ hactive⟩
        rcases Machine.run_invariant (I := TimerLeaked id) (fun hI hstep => hI.step hstep) hleaked
          hrest with ⟨last, hlast, hrunning, -⟩
        exact hnothing.timer last hlast hrunning
    | _ => trivial
  · intro hbinds
    have hconnections : machine.Meets (fun _ a => SoleConnection k c a) s as :=
      Machine.meets_of_forall_mem fun a ha _ => hsole a ha
    have hinv : SoleInvariant k c t :=
      (hconnections.and hbinds).invariant (fun hI hC hstep => hI.step hC.1 hC.2 hstep)
        (SoleInvariant.initial hinit hoffline) hrun
    exact hinv.leavesNothing hk hdone hended

/-! ### A socket that leaves nothing -/

/-- A device connects and leaves; the cleanup has six commands. -/
def visitTrace : List Action :=
  connectTrace 0 0 (sampleRequest 0 1) ++ .closeEvent 0 :: List.replicate 6 (.disconnect 0 .none)

/-- The cluster after the visit. -/
def visitedState : State := (machine.run sampleState visitTrace).getD sampleState

/-- The theorem for a device that connects and leaves. -/
theorem dead_socket_leaves_nothing_iff_visited : LeavesNothing 0 "device-a" visitedState := by
  rcases Option.isSome_iff_exists.mp
    (by decide : (visitedState.liveSocket 0).isSome = true) with ⟨socket, hlive⟩
  have hdone : (visitedState.liveSocket 0).map (·.disconnect) = some .done := by decide
  have hended : (visitedState.liveSocket 0).map (·.handshake) = some .finished := by decide
  rw [hlive, Option.map_some, Option.some.injEq] at hdone hended
  have hoffline : ∀ row, (sampleState.store.devices "device-a").alive = some row →
      row.online = false := nofun
  have hbinds : machine.Meets (BindsOpen 0) sampleState visitTrace := by decide
  exact (dead_socket_leaves_nothing_iff ⟨sampleTokens, noDevices, rfl⟩ hoffline (by decide) rfl
    hlive hdone (by rw [hended]; rfl)).mpr hbinds

/-! ### A socket that leaves everything -/

/-- The socket closes while its token is read from the cache, and
`handleConnection` goes on. -/
def closedTrace : List Action :=
  (connectTrace 0 0 (sampleRequest 0 1)).take 2 ++ .closeEvent 0 ::
    (connectTrace 0 0 (sampleRequest 0 1)).drop 2

/-- The cluster when both handlers have completed. -/
def closedState : State := (machine.run sampleState closedTrace).getD sampleState

/-- The local map, the session, the presence, the membership, the row and the timer of
a socket that closes while its token is read are all left behind. -/
theorem closed_handshake_leaves_everything :
    machine.run sampleState closedTrace = some closedState ∧
      ((closedState.liveSocket 0).map fun socket =>
        (socket.readyState, socket.handshake, socket.disconnect, socket.pingTimer)) =
          some (.closed, .finished, .done, .running) ∧
      closedState.localSockets 0 "device-a" = some 0 ∧
      closedState.store.session "device-a" = some ⟨0, 0⟩ ∧
      closedState.store.presence "device-a" = some [1] ∧
      closedState.store.members 1 = ["device-a"] ∧
      (closedState.store.devices "device-a").alive.map (·.online) = some true ∧
      ¬LeavesNothing 0 "device-a" closedState :=
  ⟨rfl, rfl, rfl, rfl, rfl, rfl, rfl, fun h => h.unlisted 0 "device-a" rfl⟩

end Gateway
end R2RPC
