import Mathlib.Data.List.Rotate
import R2RPC.Gateway.Memberships

/-!
# Routing within the scope of the session

{lit}`pickOnlineAcquire` trusts the membership sets, but a membership outlives the
connection that wrote it when nobody cleans up.  A new session of the same client
id revives it: presence is one key for all projects.  As long as a session starts
only when no stale membership, no pending {lit}`SADD` of another connection and no
selection in progress names its client id outside its scope, every picked device
is within the scope of its session.

Main results:

- Definition {lit}`CleanFor`: nothing names a client id outside a scope.
- Theorem {lit}`CleanFor.step`: a session keeps it clean.
- Theorem {lit}`pick_within_scope`: automatic routing stays inside the scope along
  every run whose sessions start clean.
- Theorem {lit}`crashed_membership_routes`: a membership left by a crash routes
  calls to a device of another scope.

Current gaps:

- None.
-/

namespace R2RPC
namespace Gateway

open Interleaving DeviceToken

variable {s t : State} {a : Action} {as : List Action} {k : SocketId} {socket socket' : Socket}
  {clientId : ClientId} {scope : List ProjectId} {q : ProjectId}

/-! ## Selections in progress -/

/-- The devices that a selection at this stage still considers. -/
def InvocationStage.candidates : InvocationStage → List ClientId
  | .checkRequested clientId => [clientId]
  | .checkCandidate clientId remaining online => clientId :: (remaining ++ online)
  | .dropCandidate _ remaining online => remaining ++ online
  | .advanceCursor online => online
  | .readLimit clientId remaining | .acquire clientId _ remaining => clientId :: remaining
  | _ => []

theorem mem_rotation {online : List ClientId} {cursor : Nat} :
    clientId ∈ rotation online cursor ↔ clientId ∈ online := by
  rw [rotation, List.mem_rotate, List.mem_insertionSort]

theorem Invocation.nextCandidate_candidates (remaining online : List ClientId) :
    (nextCandidate remaining online).candidates = remaining ++ online := by
  unfold nextCandidate
  split <;> rfl

theorem Invocation.nextDevice_candidates (remaining : List ClientId) :
    (nextDevice remaining).candidates = remaining := by
  cases remaining <;> rfl

/-- A selection considers what it has considered before, or what `SMEMBERS` lists. -/
theorem Invocation.next_candidates {invocation : Invocation} {store : Store}
    {order : List ClientId} (h : clientId ∈ (invocation.next store order).candidates) :
    clientId ∈ invocation.stage.candidates ∨
      (invocation.stage = .listMembers ∧ clientId ∈ order) := by
  unfold next at h
  split at h
  all_goals rename_i hstage
  · rw [hstage]
    split at h
    · exact Or.inl h
    · contradiction
  · rw [nextCandidate_candidates, List.append_nil] at h
    exact Or.inr ⟨hstage, h⟩
  · rename_i c remaining online
    rw [hstage]
    split at h
    · rw [nextCandidate_candidates] at h
      simp only [InvocationStage.candidates, List.mem_append, List.mem_cons, List.not_mem_nil,
        or_false] at h ⊢
      tauto
    · exact Or.inl (List.mem_cons_of_mem _ h)
  · rw [nextCandidate_candidates] at h
    exact Or.inl (hstage ▸ h)
  · rw [nextDevice_candidates, mem_rotation] at h
    exact Or.inl (hstage ▸ h)
  · exact Or.inl (hstage ▸ h)
  · rw [hstage]
    split at h
    · contradiction
    · rw [nextDevice_candidates] at h
      exact Or.inl (List.mem_cons_of_mem _ h)
  · split at h <;> contradiction
  · contradiction
  · contradiction

/-- An automatic selection starts without candidates. -/
theorem Invocation.start_candidates {projectId : ProjectId} {requested : Option ClientId}
    (hauto : (start projectId requested).requested = none) :
    (start projectId requested).stage.candidates = [] := by
  unfold start at hauto ⊢
  cases hfilter : requested.filter (· ≠ "") with
  | none => rfl
  | some c =>
      rw [hfilter] at hauto
      contradiction

/-- The candidates of an automatic selection after a step were candidates before it,
or are members of its project. -/
theorem step_candidates (hstep : step s a = some t) {invocation : Invocation}
    (hmem : invocation ∈ t.invocations) (hauto : invocation.requested = none)
    (h : clientId ∈ invocation.stage.candidates) :
    (∃ before ∈ s.invocations, before.projectId = invocation.projectId ∧
        before.requested = none ∧ clientId ∈ before.stage.candidates) ∨
      clientId ∈ s.store.members invocation.projectId := by
  by_cases hdispatch : ∃ id fault order, a = .dispatch id fault order
  · rcases hdispatch with ⟨id, fault, order, rfl⟩
    rcases State.dispatch_eq_some hstep with ⟨before, hget, -, hperm, rfl⟩
    rcases List.mem_or_eq_of_mem_set hmem with hold | rfl
    · exact Or.inl ⟨invocation, hold, rfl, hauto, h⟩
    · have hbefore := List.mem_of_getElem? hget
      simp only [Invocation.advance] at h hauto ⊢
      split at h
      · contradiction
      · rcases Invocation.next_candidates h with hcand | ⟨hstage, horder⟩
        · exact Or.inl ⟨before, hbefore, rfl, hauto, hcand⟩
        · exact Or.inr ((hperm hstage).mem_iff.mp horder)
  · have hother : ∀ id fault order, a ≠ .dispatch id fault order :=
      fun id fault order ha => hdispatch ⟨id, fault, order, ha⟩
    rcases step_invocations hother hstep with hsame | ⟨projectId, requested, hstart⟩
    · exact Or.inl ⟨invocation, hsame ▸ hmem, rfl, hauto, h⟩
    · rw [hstart, List.mem_append, List.mem_singleton] at hmem
      rcases hmem with hold | rfl
      · exact Or.inl ⟨invocation, hold, rfl, hauto, h⟩
      · rw [Invocation.start_candidates hauto] at h
        contradiction

/-! ## A clean client id -/

/-- Outside the scope no membership set, no other running handshake and no automatic
selection names the client id. -/
structure CleanFor (s : State) (clientId : ClientId) (scope : List ProjectId) (id : SocketId) :
    Prop where
  members : ∀ q ∉ scope, clientId ∉ s.store.members q
  pending : ∀ q ∉ scope, ∀ k socket, k ≠ id → s.liveSocket k = some socket →
    socket.clientId = clientId → q ∉ socket.pendingProjects
  candidates : ∀ invocation ∈ s.invocations, invocation.projectId ∉ scope →
    invocation.requested = none → clientId ∉ invocation.stage.candidates

/-- No membership set and no other running handshake names the client id outside the
scope. -/
structure MembershipClean (s : State) (clientId : ClientId) (scope : List ProjectId)
    (id : SocketId) : Prop where
  members : ∀ q ∉ scope, clientId ∉ s.store.members q
  pending : ∀ q ∉ scope, ∀ k socket, k ≠ id → s.liveSocket k = some socket →
    socket.clientId = clientId → q ∉ socket.pendingProjects

/-- Memberships stay clean for the owner of a session. -/
theorem MembershipClean.step {id : SocketId} (h : MembershipClean s clientId scope id)
    (hown : ∀ socket, s.liveSocket id = some socket → socket.clientId = clientId →
      ∀ q ∈ socket.pendingProjects, q ∈ scope)
    (hnew : ∀ k socket, k ≠ id → ¬SetsSession clientId s a k socket)
    (hstep : Gateway.step s a = some t) : MembershipClean t clientId scope id := by
  refine ⟨?_, ?_⟩
  · intro q hq hmem
    rcases step_members hstep hmem with hold | ⟨k, socket, remaining, hlive, hclient, hstage⟩
    · exact h.members q hq hold
    · have hpending : q ∈ socket.pendingProjects := by
        rw [Socket.pendingProjects, hstage]
        exact List.mem_cons_self
      by_cases hk : k = id
      · exact hq (hown socket (hk ▸ hlive) hclient q hpending)
      · exact h.pending q hq k socket hk hlive hclient hpending
  · intro q hq k socket' hk hlive' hclient hpending
    rcases State.liveSocket_eq_some.mp hlive' with ⟨hsocket', hrunning⟩
    rcases socket_origin hstep hsocket' with ⟨instanceId, request, -, rfl, -⟩ | ⟨socket, hs, hchange⟩
    · rcases Socket.accept_fresh instanceId request with ⟨-, hstage | hstage, -⟩ <;>
        · rw [Socket.pendingProjects, hstage] at hpending
          contradiction
    · rcases hchange.keeps with ⟨hreq, hinst, -⟩
      have hclient' : socket.clientId = clientId := by
        rw [← hclient, Socket.clientId, Socket.clientId, hreq]
      rcases hchange.pendingProjects hpending with ⟨hbefore, -⟩ | ⟨hsets, -⟩
      · have hlive : s.liveSocket k = some socket :=
          State.liveSocket_eq_some.mpr ⟨hs, hinst ▸ step_crashed hstep hrunning⟩
        exact h.pending q hq k socket hk hlive hclient' hbefore
      · exact hnew k socket hk (hclient' ▸ hsets)

/-- A client id stays clean for the owner of its session. -/
theorem CleanFor.step {id : SocketId} (h : CleanFor s clientId scope id)
    (hown : ∀ socket, s.liveSocket id = some socket → socket.clientId = clientId →
      ∀ q ∈ socket.pendingProjects, q ∈ scope)
    (hnew : ∀ k socket, k ≠ id → ¬SetsSession clientId s a k socket)
    (hstep : Gateway.step s a = some t) : CleanFor t clientId scope id := by
  have hkept : MembershipClean t clientId scope id :=
    MembershipClean.step ⟨h.members, h.pending⟩ hown hnew hstep
  refine ⟨hkept.members, hkept.pending, ?_⟩
  intro invocation hmem hq hauto hcand
  rcases step_candidates hstep hmem hauto hcand with ⟨before, hold, hproj, hauto', hcand'⟩ | hmember
  · exact h.candidates before hold (hproj ▸ hq) hauto' hcand'
  · exact h.members _ hq hmember

/-! ## The property and its condition -/

/-- An automatic selection returns a device: its slot is taken and the reply arrives.
The session of the device is then held by a socket that was granted the project. -/
def PickInScope (s : State) : Action → Prop
  | .dispatch id fault _ =>
      ∀ invocation clientId maximumInFlight remaining, s.invocations[id]? = some invocation →
        invocation.requested = none → fault.throws = false →
        invocation.stage = .acquire clientId maximumInFlight remaining →
        s.store.slotFree clientId maximumInFlight = true →
        ∀ token socket, s.store.session clientId = some token →
          s.sockets token.uuid = some socket → invocation.projectId ∈ socket.projectIds
  | _ => True

/-- A session starts only when its client id is clean for the granted scope. -/
def ScopeClean (s : State) (a : Action) : Prop :=
  ∀ id socket, SetsSession socket.clientId s a id socket →
    CleanFor s socket.clientId socket.projectIds id

/-! ## The invariant -/

/-- Handshakes add memberships of their own scope, and every session is clean. -/
structure ScopeInvariant (s : State) : Prop where
  attached : AttachedSockets s
  owned : SessionOwned s
  granted : PendingGranted s
  clean : ∀ clientId token socket, s.store.session clientId = some token →
    s.sockets token.uuid = some socket → CleanFor s clientId socket.projectIds token.uuid

theorem ScopeInvariant.initial (h : machine.initial s) : ScopeInvariant s := by
  have hreach := Machine.Reachable.initial h
  refine ⟨attachedSockets_of_reachable hreach, SessionOwned.of_reachable hreach,
    PendingGranted.of_reachable hreach, ?_⟩
  rcases h with ⟨deviceTokens, devices, rfl⟩
  intro c token socket hsession
  simp [State.start, Store.start] at hsession

/-- The `SET` of a session is the one that is current after it. -/
theorem SetsSession.session {id : SocketId} (h : SetsSession clientId s a id socket)
    (hstep : step s a = some t) :
    t.store.session clientId = some (State.sessionToken socket id) := by
  rcases h with ⟨hlive, hstage, hclient, fault, rfl, hrun⟩
  rcases State.handshake_eq_some hstep with ⟨socket', hlive', -, rfl⟩
  have hsame : socket' = socket := Option.some.inj (hlive'.symm.trans hlive)
  subst hsame
  simp [State.setSocket, Fault.apply, hrun, Socket.handshakeCommand, hstage, Store.setSession,
    ← hclient]

/-- Between two states only the `SET` of a session brings a session that was not current;
its socket has its scope already. -/
theorem session_origin (hattached : AttachedSockets s) (howned : SessionOwned s)
    (hstep : step s a = some t) {token : SessionToken}
    (htoken : t.store.session clientId = some token)
    (hsocket' : t.sockets token.uuid = some socket') :
    ∃ socket, s.sockets token.uuid = some socket ∧ socket'.projectIds = socket.projectIds ∧
      (s.store.session clientId = some token ∨
        SetsSession clientId s a token.uuid socket) := by
  rcases step_session clientId hstep with hsame | hnone | ⟨id, owner, hsets, hset⟩
  · rw [hsame] at htoken
    rcases howned clientId token htoken with ⟨socket, howns⟩
    rcases howns.step hattached hstep with ⟨socket'', ⟨hk'', -⟩, -, hscope⟩
    rw [hsocket', Option.some.injEq] at hk''
    subst hk''
    refine ⟨socket, howns.1, ?_, Or.inl htoken⟩
    rw [Socket.projectIds, hscope, Socket.projectIds]
  · rw [hnone] at htoken
    contradiction
  · rw [hset, Option.some.injEq] at htoken
    subst htoken
    have hk := (State.liveSocket_eq_some.mp hsets.1).1
    rcases step_socket hstep hk with ⟨socket'', hk'', hchange⟩
    rw [State.sessionToken, hk'', Option.some.injEq] at hsocket'
    subst hsocket'
    refine ⟨owner, hk, ?_, Or.inr hsets⟩
    rcases hchange.keeps with ⟨-, -, hscope | ⟨record, hstage⟩⟩
    · rw [Socket.projectIds, hscope, Socket.projectIds]
    · rw [hsets.2.1] at hstage
      contradiction

/-- What a step keeps for the owner of a session, and what holds when a session starts,
holds of every current session after the step. -/
theorem sessions_keep {Clean : State → ClientId → List ProjectId → SocketId → Prop}
    (hattached : AttachedSockets s) (howned : SessionOwned s) (hgranted : PendingGranted s)
    (hclean : ∀ clientId token socket, s.store.session clientId = some token →
      s.sockets token.uuid = some socket → Clean s clientId socket.projectIds token.uuid)
    (hstart : ∀ id socket, SetsSession socket.clientId s a id socket →
      Clean s socket.clientId socket.projectIds id)
    (hkeep : ∀ {clientId scope id}, Clean s clientId scope id →
      (∀ socket, s.liveSocket id = some socket → socket.clientId = clientId →
        ∀ q ∈ socket.pendingProjects, q ∈ scope) →
      (∀ k socket, k ≠ id → ¬SetsSession clientId s a k socket) → Clean t clientId scope id)
    (hstep : step s a = some t) (clientId : ClientId) (token : SessionToken) (socket' : Socket)
    (htoken : t.store.session clientId = some token)
    (hsocket' : t.sockets token.uuid = some socket') :
    Clean t clientId socket'.projectIds token.uuid := by
  rcases session_origin hattached howned hstep htoken hsocket' with ⟨socket, hk, hscope, horigin⟩
  have hbefore : Clean s clientId socket.projectIds token.uuid := by
    rcases horigin with hsession | hsets
    · exact hclean clientId token socket hsession hk
    · have hclient := hsets.2.2.1
      exact hclient ▸ hstart token.uuid socket (hclient.symm ▸ hsets)
  rw [hscope]
  refine hkeep hbefore ?_ ?_
  · intro owner hlive _ q hq
    have hsame : owner = socket :=
      Option.some.inj ((State.liveSocket_eq_some.mp hlive).1.symm.trans hk)
    exact hsame ▸ hgranted _ owner (hsame ▸ hk) q hq
  · intro k other hk' hsets
    have hset := hsets.session hstep
    rw [htoken, Option.some.injEq] at hset
    exact hk' (hset ▸ rfl)

theorem ScopeInvariant.step (h : ScopeInvariant s) (hclean : ScopeClean s a)
    (hstep : Gateway.step s a = some t) : ScopeInvariant t :=
  ⟨attachedSockets_step h.attached hstep, h.owned.step h.attached hstep, h.granted.step hstep,
    sessions_keep h.attached h.owned h.granted h.clean hclean
      (fun hbefore hown hnew => hbefore.step hown hnew hstep) hstep⟩

/-- Under the invariant a returned device is within the scope of its session. -/
theorem ScopeInvariant.pick (h : ScopeInvariant s) : PickInScope s a := by
  unfold PickInScope
  split
  · intro invocation c limit remaining hget hauto _ hstage _ token socket hsession hsocket
    by_contra hout
    refine (h.clean c token socket hsession hsocket).candidates invocation
      (List.mem_of_getElem? hget) hout hauto ?_
    rw [hstage]
    exact List.mem_cons_self
  · trivial

/-- Automatic routing stays inside the scope.  Along every run whose sessions start
only when no stale membership, no other running handshake and no automatic selection
names the client id outside the granted scope, every device that is picked has been
granted the project on the connection whose session is current. -/
theorem pick_within_scope (hinit : machine.initial s)
    (hclean : machine.Meets ScopeClean s as) : machine.Meets PickInScope s as :=
  hclean.transfer (fun hI hC hstep => hI.step hC hstep) (fun hI _ => hI.pick)
    (ScopeInvariant.initial hinit)

/-! ### A device that is picked -/

/-- Presence, cursor, limit and slot of an automatic selection, number `id`, that
finds `"device-a"` alone. -/
def pickTrace (id : Nat) (projectId : ProjectId) : List Action :=
  [.invoke projectId none, .dispatch id .none ["device-a"]] ++
    List.replicate 4 (.dispatch id .none [])

/-- The connection up to the `SET` of its session. -/
def beforeSession : List Action := (connectTrace 0 0 (sampleRequest 0 1)).take 6

/-- The rest of the connection and a selection for its project. -/
def afterSession : List Action :=
  (connectTrace 0 0 (sampleRequest 0 1)).drop 7 ++ pickTrace 0 1

/-- The step does not run the `SET` of a session. -/
def KeepsSession (s : State) : Action → Bool
  | .handshake id _ => (s.liveSocket id).all (·.handshake ≠ .setSession)
  | _ => true

theorem ScopeClean.of_keepsSession (h : KeepsSession s a = true) : ScopeClean s a := by
  rintro id socket ⟨hlive, hstage, -, fault, rfl, -⟩
  simp [KeepsSession, hlive, hstage] at h

/-- Nothing names a client id yet when the first session starts. -/
theorem scopeClean_beforeSession (hrun : machine.run sampleState beforeSession = some t) :
    ScopeClean t (.handshake 0 .none) := by
  rintro id socket ⟨-, -, -, fault, ha, -⟩
  rw [Action.handshake.injEq] at ha
  have hmembers : t.store.members = fun _ => [] := by
    rw [← Option.some.inj hrun]
    rfl
  have hinvocations : t.invocations = [] := by
    rw [← Option.some.inj hrun]
    rfl
  refine ⟨?_, ?_, ?_⟩
  · simp [hmembers]
  · intro q hq k other hk hlive
    have haccepted : k = 0 ∧ other.instanceId = 0 ∧ other.request = sampleRequest 0 1 := by
      simpa [beforeSession, connectTrace] using sample_sockets hrun hlive
    exact (hk (haccepted.1.trans ha.1)).elim
  · simp [hinvocations]

/-- The routing theorem for a device that connects and is picked. -/
theorem pick_within_scope_connected :
    (machine.run sampleState (beforeSession ++ .handshake 0 .none :: afterSession)).map
        (fun t => (t.store.session "device-a", t.invocations.map (·.stage))) =
      some (some ⟨0, 0⟩, [.dispatching "device-a"]) ∧
    machine.Meets PickInScope sampleState
      (beforeSession ++ .handshake 0 .none :: afterSession) := by
  refine ⟨by decide, pick_within_scope ⟨sampleTokens, noDevices, rfl⟩ ?_⟩
  have hbefore : machine.Meets (fun s a => KeepsSession s a = true) sampleState
      beforeSession := by decide
  refine Machine.meets_append.mpr
    ⟨hbefore.mono fun s a h => .of_keepsSession h, fun t ht => ⟨scopeClean_beforeSession ht,
      fun u hu => ?_⟩⟩
  have hafter : machine.Meets (fun s a => KeepsSession s a = true) u afterSession := by
    rw [← Option.some.inj ht] at hu
    rw [← Option.some.inj hu]
    decide
  exact hafter.mono fun s a h => .of_keepsSession h

/-! ### A stale membership -/

/-- The device is connected with token 0 when its instance crashes; it connects to
another instance with token 1, and project 1 is invoked. -/
def crashTrace : List Action :=
  connectTrace 0 0 (sampleRequest 0 1) ++ [.crash 0] ++
    connectTrace 1 1 (sampleRequest 1 1) ++ pickTrace 0 1

/-- The state in which the last command of {lit}`crashTrace` takes the slot. -/
def crashedState : State := (machine.run sampleState crashTrace.dropLast).getD sampleState

/-- A membership left by a crash routes a call for project 1 to a device whose
session has been granted project 2 only. -/
theorem crashed_membership_routes : ¬machine.Meets PickInScope sampleState crashTrace := by
  intro h
  have hpick := Machine.meets_iff.mp h crashTrace.dropLast (.dispatch 0 .none []) [] crashedState
    rfl rfl
  have hscope := hpick ⟨1, none, .acquire "device-a" 1 [], none, 0⟩ "device-a" 1 [] (by decide)
    rfl rfl rfl (by decide) ⟨1, 1⟩ _ (by decide) rfl
  revert hscope
  decide

end Gateway
end R2RPC
