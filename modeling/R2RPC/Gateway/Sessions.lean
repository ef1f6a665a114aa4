import R2RPC.Gateway.ClientView

/-!
# Sockets and sessions

The context of a socket appears with the stage that follows
{lit}`attachConnectionContext`, and a session is always held by an attached socket
under the token drawn for it.

Main results:

- Theorem {lit}`attachedSockets_of_reachable`: contexts and stages agree.
- Theorem {lit}`step_session`: a session is set by its owner's handshake only.
- Theorem {lit}`SessionOwned.of_reachable`: every session has its socket.

Current gaps:

- None.
-/

namespace R2RPC
namespace Gateway

open Interleaving DeviceToken

variable {s t : State} {a : Action} {k : SocketId} {socket socket' : Socket}
  {clientId : ClientId}

/-! ## Attached sockets -/

/-- The stages of `handleConnection` after `attachConnectionContext`. -/
def HandshakeStage.attached : HandshakeStage → Bool
  | .readToken _ | .loadProjects _ | .unauthorized => false
  | _ => true

theorem Socket.nextMember_attached (projectIds : List ProjectId) :
    (Socket.nextMember projectIds).attached = true := by
  cases projectIds <;> rfl

theorem Socket.handshakeNext_attached (socket : Socket) (store : Store) :
    (socket.handshakeNext store).attached = socket.handshake.attached := by
  unfold handshakeNext
  split
  all_goals rename_i hstage
  all_goals first
    | rw [hstage]; rfl
    | (rw [hstage]; split <;> rfl)
    | (rw [hstage]; exact nextMember_attached _)
    | rfl

theorem Socket.handshakeThrown_attached {socket : Socket}
    (hawaits : socket.awaitsCommand = true) :
    socket.handshakeThrown.attached = socket.handshake.attached := by
  unfold handshakeThrown
  cases hstage : socket.handshake with
  | readToken stage => cases stage <;> rfl
  | unauthorized => simp [awaitsCommand, hstage] at hawaits
  | _ => rfl

/-- The context of a socket is set exactly in the stages after it is attached. -/
def AttachedSockets (s : State) : Prop :=
  ∀ k socket, s.sockets k = some socket →
    socket.projects.isSome = socket.handshake.attached

theorem AttachedSockets.projects_none (h : AttachedSockets s) (hk : s.sockets k = some socket)
    (hstage : socket.handshake.attached = false) : socket.projects = none := by
  have hscope := h k socket hk
  rw [hstage] at hscope
  exact Option.not_isSome_iff_eq_none.mp (by simp [hscope])

theorem SocketStep.attached_iff (h : SocketStep s a k socket socket')
    (hbefore : socket.projects.isSome = socket.handshake.attached) :
    socket'.projects.isSome = socket'.handshake.attached := by
  cases h with
  | same => exact hbefore
  | handshake fault ha hlive hawaits =>
      rcases socket.moveHandshake_request _ with ⟨-, -, hproj, hstage, -⟩
      rw [hproj, hstage, hbefore]
      split
      · exact (Socket.handshakeThrown_attached hawaits).symm
      · exact (socket.handshakeNext_attached s.store).symm
  | refused ha hlive record hstage =>
      rcases socket.moveHandshake_request .unauthorized with ⟨-, -, hproj, hstage', -⟩
      rw [hproj, hstage', hbefore, hstage]
      rfl
  | attached ha hlive record hstage token projectIds hvalid => rfl
  | bound ha hlive hstage =>
      rw [hstage] at hbefore
      exact hbefore
  | closed ha hlive hidle => exact hbefore
  | disconnect fault ha hlive hactive hundone => exact hbefore
  | scopeChanged id instanceId ha =>
      rcases socket.close_request 4002 with ⟨-, -, hproj, hstage, -⟩
      rw [hproj, hstage]
      exact hbefore

theorem attachedSockets_step (h : AttachedSockets s) (hstep : step s a = some t) :
    AttachedSockets t := by
  intro k socket' hk
  rcases socket_origin hstep hk with ⟨instanceId, request, -, rfl, -⟩ | ⟨socket, hs, hsocket⟩
  · rcases Socket.accept_fresh instanceId request with ⟨hproj, hstage | hstage, -⟩ <;>
      · rw [hproj, hstage]
        rfl
  · exact hsocket.attached_iff (h k socket hs)

/-- In every reachable state, contexts and stages agree. -/
theorem attachedSockets_of_reachable (h : machine.Reachable s) : AttachedSockets s := by
  refine h.invariant (I := AttachedSockets) ?_ fun hI hstep => attachedSockets_step hI hstep
  rintro s ⟨deviceTokens, devices, rfl⟩ k socket hk
  simp [State.start] at hk

/-! ## One session -/

theorem Invocation.command_session (invocation : Invocation) (store : Store) :
    (invocation.command store).session = store.session := by
  unfold command
  split <;> rfl

/-- The step is the `SET client:session` of a socket of this client id. -/
def SetsSession (clientId : ClientId) (s : State) (a : Action) (id : SocketId)
    (socket : Socket) : Prop :=
  s.liveSocket id = some socket ∧ socket.handshake = .setSession ∧ socket.clientId = clientId ∧
    ∃ fault, a = .handshake id fault ∧ fault.executes = true

/-- A step leaves a session alone, removes it, or is the `SET` of its new owner. -/
theorem step_session (clientId : ClientId) (hstep : step s a = some t) :
    t.store.session clientId = s.store.session clientId ∨
      t.store.session clientId = none ∨
      ∃ id socket, SetsSession clientId s a id socket ∧
        t.store.session clientId = some (State.sessionToken socket id) := by
  have hview := step_view clientId hstep
  have hsession : t.store.session clientId = (t.store.view clientId).session := rfl
  rw [hsession]
  revert hview
  generalize t.store.view clientId = view
  intro hview
  cases hview with
  | removed view hremoves hcause => exact hremoves.session.imp_right Or.inl
  | handshake id fault socket ha hlive hclient hrun =>
      unfold Socket.handshakeView
      split
      · rename_i hstage
        exact Or.inr (Or.inr ⟨id, socket, ⟨hlive, hstage, hclient, fault, ha, hrun⟩, rfl⟩)
      all_goals exact Or.inl rfl
  | disconnect id fault socket ha hlive hclient hrun =>
      unfold Socket.disconnectView
      split
      · split
        · exact Or.inr (Or.inl rfl)
        · exact Or.inl rfl
      all_goals exact Or.inl rfl

/-- The socket named by a session: attached, and of the session's client id. -/
def OwnsSession (s : State) (clientId : ClientId) (token : SessionToken) (socket : Socket) :
    Prop :=
  s.sockets token.uuid = some socket ∧ socket.clientId = clientId ∧
    token = State.sessionToken socket token.uuid ∧ socket.projects.isSome = true

/-- Every session has its socket. -/
def SessionOwned (s : State) : Prop :=
  ∀ clientId token, s.store.session clientId = some token →
    ∃ socket, OwnsSession s clientId token socket

/-- An attached socket stays, with its request, its process and its scope. -/
theorem step_attached (hattached : AttachedSockets s) (hstep : step s a = some t)
    (hk : s.sockets k = some socket) (hscope : socket.projects.isSome = true) :
    ∃ socket', t.sockets k = some socket' ∧ socket'.request = socket.request ∧
      socket'.instanceId = socket.instanceId ∧ socket'.projects = socket.projects := by
  rcases step_socket hstep hk with ⟨socket', hk', hsocket⟩
  rcases hsocket.keeps with ⟨hreq, hinst, hsame | ⟨record, hstage⟩⟩
  · exact ⟨socket', hk', hreq, hinst, hsame⟩
  · have hstages := hattached _ _ hk
    rw [hscope, hstage] at hstages
    contradiction

/-- An owner stays an owner: its request, its process and its scope are fixed. -/
theorem OwnsSession.step {token : SessionToken} (h : OwnsSession s clientId token socket)
    (hattached : AttachedSockets s) (hstep : step s a = some t) :
    ∃ socket', OwnsSession t clientId token socket' ∧ socket'.request = socket.request ∧
      socket'.projects = socket.projects := by
  rcases h with ⟨hk, hclient, htoken, hscope⟩
  rcases step_attached hattached hstep hk hscope with ⟨socket', hk', hreq, hinst, hsame⟩
  refine ⟨socket', ⟨hk', ?_, ?_, hsame ▸ hscope⟩, hreq, hsame⟩
  · rw [← hclient, Socket.clientId, hreq, Socket.clientId]
  · rw [htoken]
    simp [State.sessionToken, hinst]

theorem SessionOwned.step (h : SessionOwned s) (hattached : AttachedSockets s)
    (hstep : Gateway.step s a = some t) : SessionOwned t := by
  intro c token hsession
  rcases step_session c hstep with hsame | hnone | ⟨id, socket, hsets, hset⟩
  · rcases h c token (hsame ▸ hsession) with ⟨socket, howns⟩
    rcases howns.step hattached hstep with ⟨socket', howns', -⟩
    exact ⟨socket', howns'⟩
  · rw [hnone] at hsession
    contradiction
  · rw [hset, Option.some.injEq] at hsession
    rcases hsets with ⟨hlive, hstage, hclient, -⟩
    rcases State.liveSocket_eq_some.mp hlive with ⟨hk, -⟩
    have howns : OwnsSession s c token socket := by
      subst hsession
      refine ⟨hk, hclient, rfl, ?_⟩
      rw [hattached id socket hk, hstage]
      rfl
    rcases howns.step hattached hstep with ⟨socket', howns', -⟩
    exact ⟨socket', howns'⟩

/-- In every reachable state, every session has its socket. -/
theorem SessionOwned.of_reachable (h : machine.Reachable s) : SessionOwned s := by
  have hboth : AttachedSockets s ∧ SessionOwned s := by
    refine h.invariant (I := fun s => AttachedSockets s ∧ SessionOwned s) ?_ fun hI hstep =>
      ⟨attachedSockets_step hI.1 hstep, hI.2.step hI.1 hstep⟩
    rintro s ⟨deviceTokens, devices, rfl⟩
    refine ⟨?_, ?_⟩
    · intro k socket hk
      simp [State.start] at hk
    · intro c token hsession
      simp [State.start, Store.start] at hsession
  exact hboth.2

end Gateway
end R2RPC
