import R2RPC.Gateway.Sessions

/-!
# Memberships of handshakes

A handshake adds its client id to the projects of its scope one by one, once it has
set its session.  What it still has to add is pending.

Main results:

- Theorem {lit}`step_members`: a member is added by the {lit}`SADD` of its own handshake.
- Definition {lit}`Socket.pendingProjects`: the memberships still to be written.
- Theorem {lit}`PendingGranted.of_reachable`: they are within the granted scope.

Current gaps:

- None.
-/

namespace R2RPC
namespace Gateway

open Interleaving DeviceToken

variable {s t : State} {a : Action} {k : SocketId} {socket socket' : Socket}
  {clientId : ClientId} {q : ProjectId}

/-! ## Memberships -/

/-- A step adds a member only by the `SADD` of its own handshake. -/
theorem step_members (hstep : step s a = some t) (h : clientId ∈ t.store.members q) :
    clientId ∈ s.store.members q ∨
      ∃ id socket remaining, s.liveSocket id = some socket ∧ socket.clientId = clientId ∧
        socket.handshake = .addMember q remaining := by
  rw [← Store.view_memberOf] at h ⊢
  have hview := step_view clientId hstep
  revert hview h
  generalize t.store.view clientId = view
  intro h hview
  cases hview with
  | removed view hremoves hcause => exact Or.inl (hremoves.memberOf q h)
  | handshake id fault socket ha hlive hclient hrun =>
      unfold Socket.handshakeView at h
      split at h
      case h_4 p remaining hstage =>
        by_cases hq : q = p
        · subst hq
          exact Or.inr ⟨id, socket, remaining, hlive, hclient, hstage⟩
        · exact Or.inl (by simpa [hq] using h)
      all_goals exact Or.inl h
  | disconnect id fault socket ha hlive hclient hrun =>
      unfold Socket.disconnectView at h
      split at h
      case h_3 p remaining hstage =>
        by_cases hq : q = p
        · simp [hq] at h
        · exact Or.inl (by simpa [hq] using h)
      all_goals exact Or.inl h

/-! ## Pending memberships -/

/-- The projects that a handshake at this stage still adds to. -/
def HandshakeStage.pending (projectIds : List ProjectId) : HandshakeStage → List ProjectId
  | .selectDevice | .writeDevice _ | .setPresence => projectIds
  | .addMember projectId remaining => projectId :: remaining
  | _ => []

/-- The memberships that a registered handshake has not written yet. -/
def Socket.pendingProjects (socket : Socket) : List ProjectId :=
  socket.handshake.pending socket.projectIds

theorem Socket.nextMember_pending (projectIds remaining : List ProjectId) :
    (nextMember remaining).pending projectIds = remaining := by
  cases remaining <;> rfl

/-- A handshake that has thrown writes nothing more. -/
theorem Socket.handshakeThrown_pending (socket : Socket) (projectIds : List ProjectId) :
    socket.handshakeThrown.pending projectIds = [] := by
  unfold handshakeThrown
  split <;> rfl

/-- A handshake goes on with what it has pending; it starts when the session is set. -/
theorem Socket.handshakeNext_pending {store : Store}
    (hq : q ∈ (socket.handshakeNext store).pending socket.projectIds) :
    q ∈ socket.pendingProjects ∨
      (socket.handshake = .setSession ∧ q ∈ socket.projectIds) := by
  unfold pendingProjects
  unfold handshakeNext at hq
  split at hq
  case h_12 => exact Or.inl hq
  all_goals rename_i hstage
  case h_2 => split at hq <;> contradiction
  case h_5 => exact Or.inr ⟨hstage, hq⟩
  case h_6 => exact Or.inl (hstage ▸ hq)
  case h_7 =>
    split at hq
    · exact Or.inl (hstage ▸ hq)
    · contradiction
  case h_8 =>
    rw [nextMember_pending] at hq
    exact Or.inl (hstage ▸ hq)
  case h_9 =>
    rw [nextMember_pending] at hq
    exact Or.inl (hstage ▸ List.mem_cons_of_mem _ hq)
  all_goals contradiction

/-- A socket gets pending memberships by setting its session only. -/
theorem SocketStep.pendingProjects (h : SocketStep s a k socket socket')
    (hq : q ∈ socket'.pendingProjects) :
    (q ∈ socket.pendingProjects ∧ socket'.projectIds = socket.projectIds) ∨
      (SetsSession socket.clientId s a k socket ∧ q ∈ socket.projectIds ∧
        socket'.projectIds = socket.projectIds) := by
  cases h with
  | same => exact Or.inl ⟨hq, rfl⟩
  | handshake fault ha hlive hawaits =>
      rcases socket.moveHandshake_request
        (if fault.throws then socket.handshakeThrown else socket.handshakeNext s.store) with
        ⟨-, -, hproj, hstage, -⟩
      have hscope : (socket.moveHandshake (if fault.throws then socket.handshakeThrown
          else socket.handshakeNext s.store)).projectIds = socket.projectIds := by
        rw [Socket.projectIds, hproj, Socket.projectIds]
      rw [Socket.pendingProjects, hstage, hscope] at hq
      cases hthrows : fault.throws with
      | true =>
          rw [hthrows, if_pos rfl, socket.handshakeThrown_pending] at hq
          contradiction
      | false =>
          rw [hthrows, if_neg Bool.false_ne_true] at hq
          rw [hthrows] at hscope
          rcases socket.handshakeNext_pending hq with hbefore | ⟨hset, hscoped⟩
          · exact Or.inl ⟨hbefore, hscope⟩
          · have hrun : fault.executes = true := by
              cases fault <;> first | rfl | contradiction
            exact Or.inr ⟨⟨hlive, hset, rfl, fault, ha, hrun⟩, hscoped, hscope⟩
  | refused ha hlive record hstage =>
      rcases socket.moveHandshake_request .unauthorized with ⟨-, -, -, hstage', -⟩
      rw [Socket.pendingProjects, hstage'] at hq
      contradiction
  | attached ha hlive record hstage token projectIds hvalid => contradiction
  | bound ha hlive hstage => contradiction
  | closed ha hlive hidle => exact Or.inl ⟨hq, rfl⟩
  | disconnect fault ha hlive hactive hundone => exact Or.inl ⟨hq, rfl⟩
  | scopeChanged id instanceId ha =>
      rcases socket.close_request 4002 with ⟨-, -, hproj, hstage, -⟩
      have hscope : (socket.close 4002).projectIds = socket.projectIds := by
        rw [Socket.projectIds, hproj, Socket.projectIds]
      rw [Socket.pendingProjects, hstage, hscope] at hq
      exact Or.inl ⟨hq, hscope⟩

/-- Handshakes add memberships of their own scope only. -/
def PendingGranted (s : State) : Prop :=
  ∀ k socket, s.sockets k = some socket → ∀ q ∈ socket.pendingProjects, q ∈ socket.projectIds

theorem PendingGranted.step (h : PendingGranted s) (hstep : Gateway.step s a = some t) :
    PendingGranted t := by
  intro k socket' hk q hq
  rcases socket_origin hstep hk with ⟨instanceId, request, -, rfl, -⟩ | ⟨socket, hs, hchange⟩
  · rcases Socket.accept_fresh instanceId request with ⟨-, hstage | hstage, -⟩ <;>
      · rw [Socket.pendingProjects, hstage] at hq
        contradiction
  · rcases hchange.pendingProjects hq with ⟨hbefore, hscope⟩ | ⟨-, hscoped, hscope⟩
    · exact hscope ▸ h k socket hs q hbefore
    · exact hscope ▸ hscoped

/-- In every reachable state, pending memberships are within the granted scope. -/
theorem PendingGranted.of_reachable (h : machine.Reachable s) : PendingGranted s := by
  refine h.invariant (I := PendingGranted) ?_ fun hI hstep => hI.step hstep
  rintro s ⟨deviceTokens, devices, rfl⟩ k socket hk
  simp [State.start] at hk

end Gateway
end R2RPC
