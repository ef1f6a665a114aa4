import R2RPC.Gateway.Steps

/-!
# Scope changes of a device token

{lit}`updateProjects` commits the new scope, deletes the cached token and publishes
one event; every instance that receives it closes the sessions of the token that
its local map holds.  A socket that another connection of its client id has
displaced is no longer in the map, and a handshake that has read the old scope may
attach after the event.  When neither happens, the event reaches every session.

Main results:

- Definitions {lit}`AttachesWithin` and {lit}`FindsSessions`: these two conditions on
  one step.
- Theorem {lit}`scope_change_reaches_sessions`: no open session keeps an old scope
  along every run that meets them.
- Theorem {lit}`scope_change_missed`: both are needed.

Current gaps:

- The {lit}`PUBLISH` succeeds; its failure is swallowed by the source.
-/

namespace R2RPC
namespace Gateway

open Interleaving DeviceToken

variable {s t : State} {a : Action} {as : List Action} {k : SocketId} {socket socket' : Socket}
  {q : ProjectId} {u : AdministrationId} {token : TokenId} {projectIds : List ProjectId}

/-! ## The property and its condition -/

/-- The sockets of the token that are still open were granted nothing outside the
scope. -/
def WithinScope (token : TokenId) (projectIds : List ProjectId) (s : State) : Prop :=
  ∀ k socket, s.liveSocket k = some socket → socket.request.token = token →
    socket.readyState = .open → ∀ q ∈ socket.projectIds, q ∈ projectIds

/-- `updateProjects` has returned and every instance with a socket has handled its
event. -/
def AnnouncedEverywhere (u : AdministrationId) (token : TokenId) (projectIds : List ProjectId)
    (s : State) : Prop :=
  s.administrations u = some ⟨token, .updateProjects projectIds, .done⟩ ∧
    ∀ k socket, s.liveSocket k = some socket → s.handled u socket.instanceId = true

/-- What `authenticate` has found, once the token has been read. -/
def Socket.grant (socket : Socket) : Option (TokenId × List ProjectId) :=
  match socket.handshake with
  | .readToken (.done record) => validateForConnect record
  | _ => none

/-- No handshake attaches a scope outside the new one where the event has been
handled. -/
def AttachesWithin (u : AdministrationId) (token : TokenId) (projectIds : List ProjectId)
    (s : State) : Action → Prop
  | .attach k =>
      ∀ socket ∈ s.liveSocket k, socket.request.token = token →
        s.handled u socket.instanceId = true → ∀ grant ∈ socket.grant,
          ∀ q ∈ grant.2, q ∈ projectIds
  | _ => True

/-- The event finds every open session with a scope outside the new one in the local
map. -/
def FindsSessions (u : AdministrationId) (token : TokenId) (projectIds : List ProjectId)
    (s : State) : Action → Prop
  | .deliverScopeChange u' instanceId =>
      u' = u → ∀ k socket, s.liveSocket k = some socket → socket.instanceId = instanceId →
        socket.request.token = token → socket.readyState = .open →
        (∃ q ∈ socket.projectIds, q ∉ projectIds) →
          s.localSockets instanceId socket.clientId = some k
  | _ => True

instance (u : AdministrationId) (token : TokenId) (projectIds : List ProjectId) (s : State)
    (a : Action) : Decidable (AttachesWithin u token projectIds s a) :=
  match a with
  | .attach k => inferInstanceAs (Decidable (∀ socket ∈ s.liveSocket k,
      socket.request.token = token → s.handled u socket.instanceId = true →
        ∀ grant ∈ socket.grant, ∀ q ∈ grant.2, q ∈ projectIds))
  | .accept .. | .handshake .. | .bind _ | .closeEvent _ | .disconnect .. | .heartbeat ..
  | .refresh .. | .administer .. | .administration _ | .deliverScopeChange .. | .expireSession _
  | .expirePresence _ | .expireMaxInFlight _ | .expireTokenCache _ | .crash _ | .invoke ..
  | .dispatch .. => isTrue trivial

/-! ## Sockets -/

theorem Socket.close_not_open (socket : Socket) (code : Nat) :
    (socket.close code).readyState ≠ .open := by
  unfold close
  split
  · simp
  · assumption

/-- A socket that has left the open state does not return to it. -/
theorem SocketStep.open_before (h : SocketStep s a k socket socket')
    (hopen : socket'.readyState = .open) : socket.readyState = .open := by
  cases h with
  | same => exact hopen
  | handshake fault ha hlive hawaits =>
      unfold Socket.moveHandshake at hopen
      split at hopen
      · exact (Socket.close_not_open _ _ hopen).elim
      · exact (Socket.close_not_open _ _ hopen).elim
      · exact hopen
  | refused ha hlive record hstage => exact (Socket.close_not_open _ _ hopen).elim
  | attached ha hlive record hstage token projectIds hvalid => exact hopen
  | bound ha hlive hstage => exact hopen
  | closed ha hlive hidle => contradiction
  | disconnect fault ha hlive hactive hundone => exact hopen
  | scopeChanged id instanceId ha => exact (Socket.close_not_open _ _ hopen).elim

/-- A project in the scope of a socket was there before, or is granted by `attach`. -/
theorem SocketStep.granted (h : SocketStep s a k socket socket') (hq : q ∈ socket'.projectIds) :
    q ∈ socket.projectIds ∨
      (a = .attach k ∧ s.liveSocket k = some socket ∧
        ∃ grant, socket.grant = some grant ∧ q ∈ grant.2) := by
  cases h with
  | same => exact Or.inl hq
  | handshake fault ha hlive hawaits =>
      rcases socket.moveHandshake_request
        (if fault.throws then socket.handshakeThrown else socket.handshakeNext s.store) with
        ⟨-, -, hproj, -⟩
      rw [Socket.projectIds, hproj] at hq
      exact Or.inl hq
  | refused ha hlive record hstage =>
      rcases socket.moveHandshake_request .unauthorized with ⟨-, -, hproj, -⟩
      rw [Socket.projectIds, hproj] at hq
      exact Or.inl hq
  | attached ha hlive record hstage token projectIds hvalid =>
      have hgrant : socket.grant = some (token, projectIds) := by
        rw [Socket.grant, hstage]
        exact hvalid
      exact Or.inr ⟨ha, hlive, _, hgrant, hq⟩
  | bound ha hlive hstage => exact Or.inl hq
  | closed ha hlive hidle => exact Or.inl hq
  | disconnect fault ha hlive hactive hundone => exact Or.inl hq
  | scopeChanged id instanceId ha =>
      rcases socket.close_request 4002 with ⟨-, -, hproj, -⟩
      rw [Socket.projectIds, hproj] at hq
      exact Or.inl hq

/-! ## Administrative writes -/

/-- A write that is done stays as it is. -/
theorem step_administration_done {administration : Administration}
    (hstep : step s a = some t) (hget : s.administrations u = some administration)
    (hdone : administration.stage = .done) : t.administrations u = some administration := by
  cases step_cluster hstep with
  | same store sockets heartbeats invocations => exact hget
  | attached id socket projectIds ha hlive => exact hget
  | closed id socket ha hlive hscope =>
      simp only [State.setSocket, State.deleteLocal]
      split <;> exact hget
  | administered id token write ha hfree store =>
      have hne : u ≠ id := by
        rintro rfl
        rw [hget] at hfree
        contradiction
      simpa [hne] using hget
  | administration id other ha hother hundone store =>
      have hne : u ≠ id := by
        rintro rfl
        rw [hget, Option.some.injEq] at hother
        exact hundone (hother ▸ hdone)
      simpa [hne] using hget
  | delivered id instanceId token projectIds ha hother => exact hget
  | crashed instanceId ha => exact hget

/-- An event is handled once, when it is delivered. -/
theorem step_handled {instanceId : InstanceId} (hstep : step s a = some t)
    (hhandled : t.handled u instanceId = true) :
    s.handled u instanceId = true ∨
      (a = .deliverScopeChange u instanceId ∧ t.administrations = s.administrations ∧
        ∃ token projectIds,
          s.administrations u = some ⟨token, .updateProjects projectIds, .done⟩ ∧
            t.sockets = s.disconnectLocalDeviceTokenSessions instanceId token) := by
  cases step_cluster hstep with
  | same store sockets heartbeats invocations => exact Or.inl hhandled
  | attached id socket projectIds ha hlive => exact Or.inl hhandled
  | closed id socket ha hlive hscope =>
      simp only [State.setSocket, State.deleteLocal] at hhandled
      split at hhandled <;> exact Or.inl hhandled
  | administered id token write ha hfree store => exact Or.inl hhandled
  | administration id other ha hother hundone store => exact Or.inl hhandled
  | delivered id other token projectIds ha hget =>
      by_cases hid : u = id
      · subst hid
        by_cases hother : instanceId = other
        · subst hother
          exact Or.inr ⟨ha, rfl, token, projectIds, hget, rfl⟩
        · exact Or.inl (by simpa [hother] using hhandled)
      · exact Or.inl (by simpa [hid] using hhandled)
  | crashed other ha => exact Or.inl hhandled

/-! ## The invariant -/

/-- An event that has been handled is published, and where it has been handled no
open session of the token exceeds the new scope. -/
structure ScopeChangeInvariant (u : AdministrationId) (token : TokenId)
    (projectIds : List ProjectId) (s : State) : Prop where
  published : ∀ instanceId, s.handled u instanceId = true → ∃ token, s.published u token
  within : s.administrations u = some ⟨token, .updateProjects projectIds, .done⟩ →
    ∀ k socket, s.liveSocket k = some socket → s.handled u socket.instanceId = true →
      socket.request.token = token → socket.readyState = .open →
        ∀ q ∈ socket.projectIds, q ∈ projectIds

theorem ScopeChangeInvariant.initial (h : machine.initial s) :
    ScopeChangeInvariant u token projectIds s := by
  rcases h with ⟨deviceTokens, devices, rfl⟩
  refine ⟨?_, ?_⟩
  · intro instanceId hhandled
    simp [State.start] at hhandled
  · intro hdone k socket hlive
    simp [State.start, State.liveSocket] at hlive

/-- The event closes every session that the map holds. -/
theorem closed_by_delivery {instanceId : InstanceId}
    (hs : s.sockets k = some socket)
    (hsocket : s.disconnectLocalDeviceTokenSessions instanceId token k = some socket')
    (hinst : socket.instanceId = instanceId) (htoken : socket.request.token = token)
    (hlocal : s.localSockets instanceId socket.clientId = some k) :
    socket'.readyState ≠ .open := by
  rw [State.disconnectLocalDeviceTokenSessions, hs, Option.map_some,
    if_pos ⟨hinst, hlocal, htoken⟩, Option.some.injEq] at hsocket
  exact hsocket ▸ socket.close_not_open 4002

theorem ScopeChangeInvariant.step (h : ScopeChangeInvariant u token projectIds s)
    (hattaches : AttachesWithin u token projectIds s a)
    (hfinds : FindsSessions u token projectIds s a) (hstep : Gateway.step s a = some t) :
    ScopeChangeInvariant u token projectIds t := by
  refine ⟨?_, ?_⟩
  · intro instanceId hhandled
    rcases step_handled hstep hhandled with hbefore | ⟨-, -, token', projectIds', hget, -⟩
    · rcases h.published instanceId hbefore with ⟨token', projectIds', hget⟩
      exact ⟨token', projectIds', step_administration_done hstep hget rfl⟩
    · exact ⟨token', projectIds', step_administration_done hstep hget rfl⟩
  · intro hdone k socket' hlive' hhandled htoken hopen q hq
    rcases State.liveSocket_eq_some.mp hlive' with ⟨hsocket', hrunning⟩
    rcases socket_origin hstep hsocket' with ⟨instanceId, request, -, rfl, -⟩ | ⟨socket, hs, hchange⟩
    · rw [Socket.projectIds, (Socket.accept_fresh instanceId request).1] at hq
      contradiction
    · rcases hchange.keeps with ⟨hreq, hinst, -⟩
      rw [hreq] at htoken
      rw [hinst] at hhandled hrunning
      have hlive : s.liveSocket k = some socket :=
        State.liveSocket_eq_some.mpr ⟨hs, step_crashed hstep hrunning⟩
      have hbefore := hchange.open_before hopen
      rcases step_handled hstep hhandled with
        hold | ⟨rfl, hsame, token', projectIds', hget, hsockets⟩
      · rcases h.published _ hold with ⟨token', projectIds', hget⟩
        have hdone' : s.administrations u = some ⟨token, .updateProjects projectIds, .done⟩ := by
          rw [hget, ← step_administration_done hstep hget rfl, hdone]
        rcases hchange.granted hq with hscope | ⟨rfl, -, grant, hgrant, hq'⟩
        · exact h.within hdone' k socket hlive hold htoken hbefore q hscope
        · exact hattaches socket hlive htoken hold grant hgrant q hq'
      · rw [hsame, hget, Option.some.injEq, Administration.mk.injEq] at hdone
        by_contra hout
        rcases hchange.granted hq with hscope | ⟨ha, -⟩
        · have hlocal := hfinds rfl k socket hlive rfl htoken hbefore ⟨q, hscope, hout⟩
          rw [hsockets] at hsocket'
          exact closed_by_delivery hs hsocket' rfl (htoken.trans hdone.1.symm) hlocal hopen
        · contradiction

/-- A scope change reaches every session.  Along every run in which no handshake
attaches a scope outside the new one where the event has been handled, and the event
finds every open session with such a scope in the local map, no socket of the token
is open with a project outside the new scope once the event has been handled
everywhere. -/
theorem scope_change_reaches_sessions (hinit : machine.initial s)
    (hattaches : machine.Meets (AttachesWithin u token projectIds) s as)
    (hfinds : machine.Meets (FindsSessions u token projectIds) s as)
    (hrun : machine.run s as = some t)
    (hannounced : AnnouncedEverywhere u token projectIds t) :
    WithinScope token projectIds t := by
  have hinv : ScopeChangeInvariant u token projectIds t :=
    (hattaches.and hfinds).invariant (fun hI hC hstep => hI.step hC.1 hC.2 hstep)
      (ScopeChangeInvariant.initial hinit) hrun
  intro k socket hlive
  exact hinv.within hannounced.1 k socket hlive (hannounced.2 k socket hlive)

/-! ### A scope change that reaches its session -/

/-- Token 0 is moved to project 2; transaction, `DEL` and `PUBLISH`. -/
def updateTrace : List Action :=
  [.administer 0 0 (.updateProjects [2]), .administration 0, .administration 0]

/-- A device is connected with token 0 when its scope changes. -/
def beforeDelivery : List Action := connectTrace 0 0 (sampleRequest 0 1) ++ updateTrace

/-- It connects again after the event. -/
def afterDelivery : List Action := connectTrace 1 0 (sampleRequest 0 1)

/-- The cluster at the end. -/
def announcedState : State :=
  (machine.run sampleState (beforeDelivery ++ .deliverScopeChange 0 0 :: afterDelivery)).getD
    sampleState

/-- The action is the arrival of an event. -/
def Action.delivers : Action → Bool
  | .deliverScopeChange .. => true
  | _ => false

theorem FindsSessions.of_not_delivers (h : a.delivers = false) :
    FindsSessions u token projectIds s a := by
  unfold FindsSessions
  split
  · contradiction
  · trivial

/-- The action accepts connections on instance 0 only. -/
def Action.onFirst : Action → Bool
  | .accept _ instanceId _ => instanceId = 0
  | _ => true

/-- A run on instance 0 is announced everywhere when instance 0 has handled the event. -/
theorem announced_of_first (hrun : machine.run sampleState as = some t)
    (hfirst : ∀ a ∈ as, a.onFirst = true)
    (hdone : t.administrations u = some ⟨token, .updateProjects projectIds, .done⟩)
    (hhandled : t.handled u 0 = true) : AnnouncedEverywhere u token projectIds t := by
  refine ⟨hdone, fun k socket hlive => ?_⟩
  have hinst : socket.instanceId = 0 := by
    simpa [Action.onFirst] using hfirst _ (sample_sockets hrun hlive)
  rw [hinst, hhandled]

/-- The event finds the only session of the device. -/
theorem findsSessions_beforeDelivery (hrun : machine.run sampleState beforeDelivery = some t) :
    FindsSessions 0 0 [2] t (.deliverScopeChange 0 0) := by
  intro _ k socket hlive _ _ _ _
  have haccepted : k = 0 ∧ socket.instanceId = 0 ∧ socket.request = sampleRequest 0 1 := by
    simpa [beforeDelivery, updateTrace, connectTrace] using sample_sockets hrun hlive
  rw [haccepted.1, Socket.clientId, haccepted.2.2, ← Option.some.inj hrun]
  rfl

/-- The theorem for a device that is asked to leave and connects with its new scope. -/
theorem scope_change_reaches_sessions_reconnected :
    (announcedState.sockets 0).map (fun socket => (socket.closeCode, socket.projectIds)) =
        some (some 4002, [1]) ∧
      (announcedState.sockets 1).map (fun socket => (socket.readyState, socket.projectIds)) =
        some (.open, [2]) ∧
      WithinScope 0 [2] announcedState := by
  have hrun : machine.run sampleState (beforeDelivery ++ .deliverScopeChange 0 0 :: afterDelivery) =
      some announcedState := rfl
  have hfinds : machine.Meets (FindsSessions 0 0 [2]) sampleState
      (beforeDelivery ++ .deliverScopeChange 0 0 :: afterDelivery) := by
    have hbefore : ∀ a ∈ beforeDelivery, a.delivers = false := by decide
    have hafter : ∀ a ∈ afterDelivery, a.delivers = false := by decide
    refine Machine.meets_append.mpr ⟨?_, fun t ht => ⟨findsSessions_beforeDelivery ht, ?_⟩⟩
    · exact Machine.meets_of_forall_mem fun a ha _ => .of_not_delivers (hbefore a ha)
    · exact fun u _ => Machine.meets_of_forall_mem fun a ha _ => .of_not_delivers (hafter a ha)
  refine ⟨by decide, by decide, ?_⟩
  exact scope_change_reaches_sessions ⟨sampleTokens, noDevices, rfl⟩ (by decide) hfinds hrun
    (announced_of_first hrun (by decide) rfl rfl)

/-! ### Sessions that the event misses -/

/-- The device connects with token 0 and again with token 1, which takes its place in
the local map. -/
def displacedTrace : List Action :=
  connectTrace 0 0 (sampleRequest 0 1) ++ connectTrace 1 0 (sampleRequest 1 1) ++ updateTrace ++
    [.deliverScopeChange 0 0]

/-- A handshake has read the old scope when the event arrives. -/
def staleTrace : List Action :=
  (connectTrace 0 0 (sampleRequest 0 1)).take 5 ++ updateTrace ++ [.deliverScopeChange 0 0] ++
    (connectTrace 0 0 (sampleRequest 0 1)).drop 5

/-- No handshake is in flight. -/
def HandshakesFinished (s : State) : Prop :=
  ∀ k socket, s.liveSocket k = some socket → socket.handshake = .finished

/-- The action accepts the sockets 0 and 1 only. -/
def Action.ofTwo : Action → Bool
  | .accept id _ _ => id = 0 ∨ id = 1
  | _ => true

/-- Readiness, token and scope of socket 0 at the end of a run, with the progress of the
event and of both handshakes. -/
def missedAfter (as : List Action) :
    Option (Option (ReadyState × TokenId × List ProjectId) × Option Administration × Bool × Bool) :=
  (machine.run sampleState as).map fun t =>
    ((t.liveSocket 0).map fun socket =>
      (socket.readyState, socket.request.token, socket.projectIds),
    t.administrations 0, t.handled 0 0,
    [0, 1].all fun k => (t.liveSocket k).all (·.handshake = .finished))

theorem missed_of_missedAfter (hfirst : ∀ a ∈ as, a.onFirst = true)
    (htwo : ∀ a ∈ as, a.ofTwo = true)
    (h : missedAfter as = some (some (.open, 0, [1]),
      some ⟨0, .updateProjects [2], .done⟩, true, true)) :
    ∃ t, machine.run sampleState as = some t ∧ AnnouncedEverywhere 0 0 [2] t ∧
      HandshakesFinished t ∧ ¬WithinScope 0 [2] t := by
  simp only [missedAfter, Option.map_eq_some_iff, Prod.mk.injEq, List.all_cons, List.all_nil,
    Bool.and_true, Bool.and_eq_true, Option.all_eq_true, decide_eq_true_eq] at h
  rcases h with ⟨t, hrun, ⟨socket, hlive, hopen, htoken, hscope⟩, hdone, hhandled, hzero, hone⟩
  refine ⟨t, hrun, announced_of_first hrun hfirst hdone hhandled, ?_, fun hwithin => ?_⟩
  · intro k other hother
    have hk : k = 0 ∨ k = 1 := by
      simpa [Action.ofTwo] using htwo _ (sample_sockets hrun hother)
    rcases hk with rfl | rfl
    · exact hzero other hother
    · exact hone other hother
  · have hmem := hwithin 0 socket hlive htoken hopen 1 (by simp [hscope])
    contradiction

/-- A displaced socket and a handshake that has read the old scope both stay open with
project 1, after token 0 has been moved to project 2 and the event has been handled. -/
theorem scope_change_missed :
    (∃ t, machine.run sampleState displacedTrace = some t ∧ AnnouncedEverywhere 0 0 [2] t ∧
        HandshakesFinished t ∧ ¬WithinScope 0 [2] t) ∧
      ∃ t, machine.run sampleState staleTrace = some t ∧ AnnouncedEverywhere 0 0 [2] t ∧
        HandshakesFinished t ∧ ¬WithinScope 0 [2] t :=
  ⟨missed_of_missedAfter (by decide) (by decide) rfl,
    missed_of_missedAfter (by decide) (by decide) rfl⟩

end Gateway
end R2RPC
