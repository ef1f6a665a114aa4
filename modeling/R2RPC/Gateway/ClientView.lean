import R2RPC.Gateway.Steps

/-!
# What the stores say about one client id

Everything that decides whether a device is connected and routable is kept by client
id: its session, its presence, its memberships and its device rows.  A view collects
them.  The handlers of its own sockets are transformations of the view, all other
handlers leave it alone, and the environment only removes from it.

Main results:

- Structure {lit}`ClientView`: the entries of one client id.
- Definitions {lit}`Socket.handshakeView` and {lit}`Socket.disconnectView`: the commands
  of a socket on its own view.
- Theorem {lit}`step_view`: every step is one of these commands or removes something.

Current gaps:

- The capacity and the in-flight counter of a client id are not part of its view.
-/

namespace R2RPC
namespace Gateway

open DeviceToken

variable {s t : State} {a : Action} {clientId : ClientId} {store : Store}

/-! ## Views -/

/-- The entries of one client id. -/
structure ClientView where
  session : Option SessionToken
  presence : Option (List ProjectId)
  memberOf : ProjectId → Bool
  devices : ClientDevices

/-- The entries of a client id in the stores. -/
def Store.view (store : Store) (clientId : ClientId) : ClientView where
  session := store.session clientId
  presence := store.presence clientId
  memberOf projectId := clientId ∈ store.members projectId
  devices := store.devices clientId

/-- One view has no more than another: its keys may be gone, its rows are the same. -/
structure ClientView.Removes (before after : ClientView) : Prop where
  session : after.session = before.session ∨ after.session = none
  presence : after.presence = before.presence ∨ after.presence = none
  memberOf : ∀ projectId, after.memberOf projectId = true → before.memberOf projectId = true
  devices : after.devices = before.devices

theorem ClientView.Removes.refl (view : ClientView) : view.Removes view :=
  ⟨Or.inl rfl, Or.inl rfl, fun _ => id, rfl⟩

namespace Socket

variable (socket : Socket) (sessionToken : SessionToken)

/-- The awaited command of `handleConnection` on the view of its client id. -/
def handshakeView (view : ClientView) : ClientView :=
  match socket.handshake with
  | .setSession => { view with session := some sessionToken }
  | .writeDevice existing =>
      { view with
        devices := (view.devices.writeDevice existing socket.request.token
          socket.request.metadata).getD view.devices }
  | .setPresence => { view with presence := some socket.projectIds }
  | .addMember projectId _ =>
      { view with memberOf := Function.update view.memberOf projectId true }
  | _ => view

/-- The awaited command of `handleDisconnect` on the view of its client id. -/
def disconnectView (view : ClientView) : ClientView :=
  match socket.disconnect with
  | .unregister =>
      { view with
        session := if view.session.all (· = sessionToken) then none else view.session }
  | .delPresence => { view with presence := none }
  | .removeMember projectId _ =>
      { view with memberOf := Function.update view.memberOf projectId false }
  | .markOffline => { view with devices := view.devices.markOffline }
  | _ => view

end Socket

/-! ## Commands of the stores -/

/-- A view is determined by its four entries. -/
theorem Store.view_eq {view : ClientView} (hsession : store.session clientId = view.session)
    (hpresence : store.presence clientId = view.presence)
    (hmembers : ∀ projectId, clientId ∈ store.members projectId ↔ view.memberOf projectId = true)
    (hdevices : store.devices clientId = view.devices) : store.view clientId = view := by
  cases view
  simp only [Store.view, ClientView.mk.injEq]
  refine ⟨hsession, hpresence, ?_, hdevices⟩
  funext projectId
  exact Bool.eq_iff_iff.mpr (by simpa using hmembers projectId)

theorem Store.view_sadd (projectId : ProjectId) :
    (store.sadd projectId clientId).view clientId =
      { store.view clientId with
        memberOf := Function.update (store.view clientId).memberOf projectId true } := by
  refine Store.view_eq rfl rfl (fun q => ?_) rfl
  by_cases hq : q = projectId
  · subst hq
    by_cases hmember : clientId ∈ store.members q <;> simp [sadd, hmember]
  · simp [sadd, view, hq]

theorem Store.view_srem (projectId : ProjectId) :
    (store.srem projectId clientId).view clientId =
      { store.view clientId with
        memberOf := Function.update (store.view clientId).memberOf projectId false } := by
  refine Store.view_eq rfl rfl (fun q => ?_) rfl
  by_cases hq : q = projectId
  · subst hq
    simp [srem]
  · simp [srem, view, hq]

theorem Store.view_sadd_of_ne {projectId : ProjectId} {c : ClientId} (hne : clientId ≠ c) :
    (store.sadd projectId c).view clientId = store.view clientId := by
  refine Store.view_eq rfl rfl (fun q => ?_) rfl
  by_cases hq : q = projectId
  · subst hq
    by_cases hmember : c ∈ store.members q <;> simp [sadd, view, hmember, hne]
  · simp [sadd, view, hq]

theorem Store.view_srem_of_ne {projectId : ProjectId} {c : ClientId} (hne : clientId ≠ c) :
    (store.srem projectId c).view clientId = store.view clientId := by
  refine Store.view_eq rfl rfl (fun q => ?_) rfl
  by_cases hq : q = projectId
  · subst hq
    simp [srem, view, hne]
  · simp [srem, view, hq]

/-- A membership of the view is a membership in the store. -/
@[simp]
theorem Store.view_memberOf (projectId : ProjectId) :
    (store.view clientId).memberOf projectId = true ↔ clientId ∈ store.members projectId := by
  simp [view]

/-- A command of a handshake acts on the view of its own client id. -/
theorem Socket.view_handshakeCommand (socket : Socket) (token : SessionToken) (store : Store) :
    (socket.handshakeCommand token store).view socket.clientId =
      socket.handshakeView token (store.view socket.clientId) := by
  unfold handshakeCommand handshakeView
  cases socket.handshake with
  | readToken stage => cases stage <;> rfl
  | setSession =>
      exact Store.view_eq (by simp [Store.setSession]) rfl
        (fun q => (Store.view_memberOf q).symm) rfl
  | writeDevice existing =>
      cases hwrite : (store.devices socket.clientId).writeDevice existing socket.request.token
        socket.request.metadata with
      | none => simp [Store.writeDevice, Store.view, hwrite]
      | some written =>
          refine Store.view_eq ?_ ?_ ?_ ?_ <;> simp [Store.writeDevice, Store.view, hwrite]
  | setPresence =>
      exact Store.view_eq rfl (by simp [Store.setPresence])
        (fun q => (Store.view_memberOf q).symm) rfl
  | addMember projectId remaining => exact Store.view_sadd projectId
  | _ => rfl

theorem Socket.view_handshakeCommand_of_ne {socket : Socket} {token : SessionToken}
    (hne : clientId ≠ socket.clientId) :
    (socket.handshakeCommand token store).view clientId = store.view clientId := by
  unfold handshakeCommand
  cases socket.handshake with
  | readToken stage => cases stage <;> rfl
  | setSession =>
      exact Store.view_eq (by simp [Store.view, Store.setSession, hne]) rfl
        (fun q => (Store.view_memberOf q).symm) rfl
  | writeDevice existing =>
      cases hwrite : (store.devices socket.clientId).writeDevice existing socket.request.token
        socket.request.metadata with
      | none => simp [Store.writeDevice, hwrite]
      | some written =>
          refine Store.view_eq ?_ ?_ ?_ ?_ <;> simp [Store.writeDevice, Store.view, hwrite, hne]
  | setPresence =>
      exact Store.view_eq rfl (by simp [Store.view, Store.setPresence, hne])
        (fun q => (Store.view_memberOf q).symm) rfl
  | addMember projectId remaining => exact Store.view_sadd_of_ne hne
  | _ => rfl

/-- A command of `handleDisconnect` acts on the view of its own client id. -/
theorem Socket.view_disconnectCommand (socket : Socket) (token : SessionToken) (store : Store) :
    (socket.disconnectCommand token store).view socket.clientId =
      socket.disconnectView token (store.view socket.clientId) := by
  unfold disconnectCommand disconnectView
  cases socket.disconnect with
  | unregister =>
      by_cases howns : store.ownsSession socket.clientId token = true
      · have hall : (store.view socket.clientId).session.all (· = token) = true := howns
        simp only [Store.compareAndDelete, howns, hall, if_true]
        exact Store.view_eq (by simp) rfl (fun q => (Store.view_memberOf q).symm) rfl
      · have hall : ¬(store.view socket.clientId).session.all (· = token) = true := howns
        simp only [Store.compareAndDelete, if_neg howns, if_neg hall]
  | delPresence =>
      exact Store.view_eq rfl (by simp [Store.delPresence])
        (fun q => (Store.view_memberOf q).symm) rfl
  | removeMember projectId remaining => exact Store.view_srem projectId
  | markOffline =>
      exact Store.view_eq rfl rfl (fun q => (Store.view_memberOf q).symm)
        (by simp [Store.view, Store.markOffline])
  | _ => rfl

theorem Socket.view_disconnectCommand_of_ne {socket : Socket} {token : SessionToken}
    (hne : clientId ≠ socket.clientId) :
    (socket.disconnectCommand token store).view clientId = store.view clientId := by
  unfold disconnectCommand
  cases socket.disconnect with
  | unregister =>
      simp only [Store.compareAndDelete]
      split
      · exact Store.view_eq (by simp [Store.view, hne]) rfl
          (fun q => (Store.view_memberOf q).symm) rfl
      · rfl
  | delPresence =>
      exact Store.view_eq rfl (by simp [Store.view, Store.delPresence, hne])
        (fun q => (Store.view_memberOf q).symm) rfl
  | removeMember projectId remaining => exact Store.view_srem_of_ne hne
  | markOffline =>
      exact Store.view_eq rfl rfl (fun q => (Store.view_memberOf q).symm)
        (by simp [Store.view, Store.markOffline, hne])
  | _ => rfl

theorem Heartbeat.view_command (heartbeat : Heartbeat) (store : Store) :
    (heartbeat.command store).view clientId = store.view clientId := by
  unfold command
  split <;> rfl

/-- A command of an invocation removes a membership at most. -/
theorem Invocation.view_command (invocation : Invocation) (store : Store) :
    (store.view clientId).Removes ((invocation.command store).view clientId) := by
  unfold command
  split
  · rename_i c remaining online hstage
    by_cases hclient : clientId = c
    · subst hclient
      rw [Store.view_srem]
      refine ⟨Or.inl rfl, Or.inl rfl, fun projectId h => ?_, rfl⟩
      by_cases hp : projectId = invocation.projectId
      · simp [hp] at h
      · simpa [hp] using h
    · rw [Store.view_srem_of_ne hclient]
      exact .refl _
  all_goals exact .refl _

/-! ## Steps -/

/-- The view of a client id after a step. -/
inductive ViewStep (s : State) (a : Action) (clientId : ClientId) : ClientView → Prop where
  | removed (view : ClientView) (hremoves : (s.store.view clientId).Removes view)
      (hcause : view = s.store.view clientId ∨ a = .expireSession clientId ∨
        a = .expirePresence clientId ∨ ∃ id fault order, a = .dispatch id fault order) :
      ViewStep s a clientId view
  | handshake (id : SocketId) (fault : Fault) (socket : Socket) (ha : a = .handshake id fault)
      (hlive : s.liveSocket id = some socket) (hclient : socket.clientId = clientId)
      (hrun : fault.executes = true) :
      ViewStep s a clientId
        (socket.handshakeView (State.sessionToken socket id) (s.store.view clientId))
  | disconnect (id : SocketId) (fault : Fault) (socket : Socket) (ha : a = .disconnect id fault)
      (hlive : s.liveSocket id = some socket) (hclient : socket.clientId = clientId)
      (hrun : fault.executes = true) :
      ViewStep s a clientId
        (socket.disconnectView (State.sessionToken socket id) (s.store.view clientId))

theorem step_view (clientId : ClientId) (hstep : step s a = some t) :
    ViewStep s a clientId (t.store.view clientId) := by
  have kept : ∀ {store : Store}, store.view clientId = s.store.view clientId →
      ViewStep s a clientId (store.view clientId) := by
    intro store hsame
    rw [hsame]
    exact .removed _ (.refl _) (Or.inl rfl)
  have hstore := step_store hstep
  revert hstore
  generalize t.store = store
  intro hstore
  cases hstore with
  | same => exact kept rfl
  | handshake id fault socket ha hlive hawaits hrun =>
      by_cases hclient : clientId = socket.clientId
      · subst hclient
        rw [socket.view_handshakeCommand]
        exact .handshake id fault socket ha hlive rfl hrun
      · exact kept (Socket.view_handshakeCommand_of_ne hclient)
  | disconnect id fault socket ha hlive hrun =>
      by_cases hclient : clientId = socket.clientId
      · subst hclient
        rw [socket.view_disconnectCommand]
        exact .disconnect id fault socket ha hlive rfl hrun
      · exact kept (Socket.view_disconnectCommand_of_ne hclient)
  | heartbeat id fault heartbeat ha hheartbeat => exact kept (heartbeat.view_command s.store)
  | administer id token write deviceTokens ha hwrite => exact kept rfl
  | delTokenCache token => exact kept rfl
  | expireSession c ha =>
      by_cases hclient : clientId = c
      · subst hclient
        exact .removed _ ⟨Or.inr (by simp [Store.view]), Or.inl rfl, fun _ => id, rfl⟩
          (Or.inr (Or.inl ha))
      · exact kept (by simp [Store.view, hclient])
  | expirePresence c ha =>
      by_cases hclient : clientId = c
      · subst hclient
        exact .removed _ ⟨Or.inl rfl, Or.inr (by simp [Store.view, Store.delPresence]),
          fun _ => id, rfl⟩ (Or.inr (Or.inr (Or.inl ha)))
      · exact kept (Store.view_eq rfl (by simp [Store.view, Store.delPresence, hclient])
          (fun q => (Store.view_memberOf q).symm) rfl)
  | expireMaxInFlight c ha => exact kept rfl
  | dispatch id fault order invocation ha hget hrun =>
      exact .removed _ (invocation.view_command s.store)
        (Or.inr (Or.inr (Or.inr ⟨id, fault, order, ha⟩)))

end Gateway
end R2RPC
