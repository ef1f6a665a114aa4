import R2RPC.Ws.RelaySteps

/-!
# Integrity of the result relay

The invariant ties every local waiter to the invocation that registered it,
every armed timer to a waiter, and every bus message to the {lit}`handleResult`
call that published it.  Each primitive update of the state preserves it, hence
so does every action; integrity of the settled results follows.

Main results:

- Structure {lit}`Invariant`: what holds in every reachable state of the relay.
- Theorem {lit}`Invariant.step`: every action preserves it.
- Theorem {lit}`settled_once_and_authentic`: a waiter is settled at most once,
  only by its authenticated device, and never again.

Current gaps:

- None for the safety of the relay.
-/

namespace R2RPC
namespace Relay

open Interleaving

variable {Payload : Type}

/-! ## The invariant -/

/-- What ties waiters, timers, bus messages and settlements together. -/
structure Invariant (s : State Payload) : Prop where
  socket_named : ∀ k d, s.sockets k = some d → d.clientId ≠ ""
  expected_named : ∀ r v, s.invocations r = some v → v.expectedClientId ≠ ""
  waiter_registered : ∀ i r w, s.waiters i r = some w →
    ∃ v, s.invocations r = some v ∧ v.instanceId = i ∧ v.expectedClientId = w.clientId
  waiter_unsettled : ∀ i r w, s.waiters i r = some w → s.settled r = []
  timer_waiter : ∀ r v, s.timers r = true → s.invocations r = some v →
    (s.waiters v.instanceId r).isSome
  unregistered_unsettled : ∀ r, s.invocations r = none → s.settled r = []
  settled_once : ∀ r, (s.settled r).length ≤ 1
  call_sender : ∀ f c, s.calls f = some c →
    ∃ d, s.sockets c.socket = some d ∧ d.clientId = c.fromClientId
  bus_sent : ∀ f m, s.bus f = some m →
    ∃ c, s.calls f = some c ∧ c.message = m.result ∧ c.message.requestKey = m.requestId ∧
      c.fromClientId = m.fromClientId
  resolved_sent : ∀ r m, .resolved m ∈ s.settled r →
    m.requestKey = .text r ∧
      ∃ v f c, s.invocations r = some v ∧ s.calls f = some c ∧ c.message = m ∧
        c.fromClientId = v.expectedClientId
  waiterKey_owner : ∀ r i, s.waiterKey r = some i →
    ∃ v, s.invocations r = some v ∧ v.instanceId = i

/-- The empty cluster satisfies the invariant. -/
theorem Invariant.empty : Invariant (State.empty Payload) where
  socket_named := by simp [State.empty]
  expected_named := by simp [State.empty]
  waiter_registered := by simp [State.empty]
  waiter_unsettled := by simp [State.empty]
  timer_waiter := by simp [State.empty]
  unregistered_unsettled := by simp [State.empty]
  settled_once := by simp [State.empty]
  call_sender := by simp [State.empty]
  bus_sent := by simp [State.empty]
  resolved_sent := by simp [State.empty]
  waiterKey_owner := by simp [State.empty]

namespace Invariant

variable {s t : State Payload}

/-! ## Primitive updates -/

/-- The deduplication keys and the pending subscriber deletes are free: the
invariant never mentions them. -/
theorem of_keys (h : Invariant s) (completed : String → Bool)
    (deletes : CallId → Option String) :
    Invariant { s with completedKey := completed, subscriberDeletes := deletes } :=
  { h with }

/-- Two waiters under one request id are the same entry of the same map. -/
theorem waiter_instance (h : Invariant s) {i j : InstanceId} {r : String} {v w : Waiter}
    (hv : s.waiters i r = some v) (hw : s.waiters j r = some w) : i = j := by
  rcases h.waiter_registered i r v hv with ⟨x, hx, hi, -⟩
  rcases h.waiter_registered j r w hw with ⟨y, hy, hj, -⟩
  have hxy : x = y := Option.some.inj (hx.symm.trans hy)
  rw [← hi, ← hj, hxy]

/-- A settled request has left every local map. -/
theorem waiters_of_settled (h : Invariant s) {r : String} (hr : s.settled r ≠ [])
    (i : InstanceId) : s.waiters i r = none := by
  cases hw : s.waiters i r with
  | none => rfl
  | some w => exact (hr (h.waiter_unsettled i r w hw)).elim

/-- A settled request has no armed timer. -/
theorem timer_of_settled (h : Invariant s) {r : String} (hr : s.settled r ≠ []) :
    s.timers r = false := by
  by_contra harmed
  rw [Bool.not_eq_false] at harmed
  cases hv : s.invocations r with
  | none => exact hr (h.unregistered_unsettled r hv)
  | some v =>
      have hwait := h.timer_waiter r v harmed hv
      rw [h.waiters_of_settled hr] at hwait
      contradiction

theorem connect (h : Invariant s) {k : SocketId} {d : DeviceSocket} (hd : d.clientId ≠ "")
    (hfree : s.sockets k = none) :
    Invariant { s with sockets := Function.update s.sockets k (some d) } :=
  { h with
    socket_named := by
      intro k' d' hk'
      by_cases hkk : k' = k
      · subst hkk
        simp only [Function.update_self, Option.some.injEq] at hk'
        exact hk' ▸ hd
      · exact h.socket_named k' d' (by simpa [hkk] using hk')
    call_sender := by
      intro f c hc
      rcases h.call_sender f c hc with ⟨e, he, hname⟩
      have hne : c.socket ≠ k := by
        intro heq
        rw [heq, hfree] at he
        contradiction
      exact ⟨e, by simpa [hne] using he, hname⟩ }

/-- Moving an invocation to another stage. -/
theorem moveInvocation (h : Invariant s) {r : String} {v : Invocation}
    (hv : s.invocations r = some v) (stage : DispatchStage) :
    Invariant (s.setInvocation r { v with stage }) := by
  have key : ∀ r' v', s.invocations r' = some v' →
      ∃ v'', (s.setInvocation r { v with stage }).invocations r' = some v'' ∧
        v''.instanceId = v'.instanceId ∧ v''.expectedClientId = v'.expectedClientId := by
    intro r' v' hv'
    by_cases hr : r' = r
    · subst hr
      have hvv : v = v' := Option.some.inj (hv.symm.trans hv')
      exact ⟨{ v with stage }, by simp [State.setInvocation], by rw [← hvv], by rw [← hvv]⟩
    · exact ⟨v', by simpa [State.setInvocation, hr] using hv', rfl, rfl⟩
  have back : ∀ r' v'', (s.setInvocation r { v with stage }).invocations r' = some v'' →
      ∃ v', s.invocations r' = some v' ∧ v''.instanceId = v'.instanceId ∧
        v''.expectedClientId = v'.expectedClientId := by
    intro r' v'' hv''
    by_cases hr : r' = r
    · subst hr
      simp only [State.setInvocation, Function.update_self, Option.some.injEq] at hv''
      exact ⟨v, hv, by rw [← hv''], by rw [← hv'']⟩
    · exact ⟨v'', by simpa [State.setInvocation, hr] using hv'', rfl, rfl⟩
  exact
  { h with
    expected_named := by
      intro r' v'' hv''
      rcases back r' v'' hv'' with ⟨v', hv', -, hname⟩
      rw [hname]
      exact h.expected_named r' v' hv'
    waiter_registered := by
      intro i r' w hw
      rcases h.waiter_registered i r' w hw with ⟨v', hv', hi, hname⟩
      rcases key r' v' hv' with ⟨v'', hv'', hi', hname'⟩
      exact ⟨v'', hv'', hi'.trans hi, hname'.trans hname⟩
    timer_waiter := by
      intro r' v'' ht hv''
      rcases back r' v'' hv'' with ⟨v', hv', hi, -⟩
      rw [hi]
      exact h.timer_waiter r' v' ht hv'
    unregistered_unsettled := by
      intro r' hnone
      refine h.unregistered_unsettled r' ?_
      cases hr' : s.invocations r' with
      | none => rfl
      | some v' =>
          rcases key r' v' hr' with ⟨v'', hv'', -⟩
          rw [hnone] at hv''
          contradiction
    resolved_sent := by
      intro r' m hm
      rcases h.resolved_sent r' m hm with ⟨hreq, v', f, c, hv', hc, hmsg, hname⟩
      rcases key r' v' hv' with ⟨v'', hv'', -, hname'⟩
      exact ⟨hreq, v'', f, c, hv'', hc, hmsg, hname.trans hname'.symm⟩
    waiterKey_owner := by
      intro r' i hi
      rcases h.waiterKey_owner r' i hi with ⟨v', hv', hinst⟩
      rcases key r' v' hv' with ⟨v'', hv'', hinst', -⟩
      exact ⟨v'', hv'', hinst'.trans hinst⟩ }

/-- Registering a fresh request id with its waiter. -/
theorem register (h : Invariant s) {i : InstanceId} {r : String} {clientId : ClientId}
    (hfresh : s.invocations r = none) (hname : clientId ≠ "") (stage : DispatchStage) :
    Invariant ((s.setInvocation r ⟨i, clientId, stage⟩).setWaiter i r ⟨clientId⟩) := by
  have hnowait : ∀ j, s.waiters j r = none := by
    intro j
    cases hw : s.waiters j r with
    | none => rfl
    | some w =>
        rcases h.waiter_registered j r w hw with ⟨v, hv, -⟩
        rw [hfresh] at hv
        contradiction
  have hwaiters : ∀ j r' w,
      ((s.setInvocation r ⟨i, clientId, stage⟩).setWaiter i r ⟨clientId⟩).waiters j r' = some w →
      (j = i ∧ r' = r ∧ w = ⟨clientId⟩) ∨ (r' ≠ r ∧ s.waiters j r' = some w) := by
    intro j r' w hw
    simp only [State.setWaiter, State.setInvocation] at hw
    by_cases hj : j = i
    · subst hj
      by_cases hr : r' = r
      · subst hr
        simp only [Function.update_self, Option.some.injEq] at hw
        exact Or.inl ⟨rfl, rfl, hw.symm⟩
      · exact Or.inr ⟨hr, by simpa [hr] using hw⟩
    · have hw' : s.waiters j r' = some w := by simpa [hj] using hw
      refine Or.inr ⟨?_, hw'⟩
      intro hr
      rw [hr, hnowait j] at hw'
      contradiction
  have hne : ∀ r' v, s.invocations r' = some v → r' ≠ r := by
    intro r' v hv hr
    rw [hr, hfresh] at hv
    contradiction
  have keep : ∀ r' v, s.invocations r' = some v →
      Function.update s.invocations r (some ⟨i, clientId, stage⟩) r' = some v := by
    intro r' v hv
    simpa [hne r' v hv] using hv
  exact
  { h with
    expected_named := by
      intro r' v hv
      by_cases hr : r' = r
      · subst hr
        simp only [State.setWaiter, State.setInvocation, Function.update_self,
          Option.some.injEq] at hv
        rw [← hv]
        exact hname
      · exact h.expected_named r' v (by simpa [State.setWaiter, State.setInvocation, hr] using hv)
    waiter_registered := by
      intro j r' w hw
      rcases hwaiters j r' w hw with ⟨rfl, rfl, rfl⟩ | ⟨hr, hw'⟩
      · exact ⟨⟨j, clientId, stage⟩, by simp [State.setWaiter, State.setInvocation], rfl, rfl⟩
      · rcases h.waiter_registered j r' w hw' with ⟨v, hv, hi, hcl⟩
        exact ⟨v, keep r' v hv, hi, hcl⟩
    waiter_unsettled := by
      intro j r' w hw
      rcases hwaiters j r' w hw with ⟨rfl, rfl, rfl⟩ | ⟨hr, hw'⟩
      · exact h.unregistered_unsettled r' hfresh
      · exact h.waiter_unsettled j r' w hw'
    timer_waiter := by
      intro r' v ht hv
      by_cases hr : r' = r
      · subst hr
        simp only [State.setWaiter, State.setInvocation, Function.update_self,
          Option.some.injEq] at hv
        subst hv
        simp [State.setWaiter, State.setInvocation]
      · have hv' : s.invocations r' = some v := by
          simpa [State.setWaiter, State.setInvocation, hr] using hv
        have ht' : s.timers r' = true := by
          simpa [State.setWaiter, State.setInvocation, hr] using ht
        have hwait := h.timer_waiter r' v ht' hv'
        by_cases hi : v.instanceId = i
        · simpa [State.setWaiter, State.setInvocation, hi, hr] using hi ▸ hwait
        · simpa [State.setWaiter, State.setInvocation, hi] using hwait
    unregistered_unsettled := by
      intro r' hnone
      refine h.unregistered_unsettled r' ?_
      by_cases hr : r' = r
      · rw [hr]
        exact hfresh
      · simpa [State.setWaiter, State.setInvocation, hr] using hnone
    resolved_sent := by
      intro r' m hm
      rcases h.resolved_sent r' m hm with ⟨hreq, v, f, c, hv, hc, hmsg, hfrom⟩
      exact ⟨hreq, v, f, c, keep r' v hv, hc, hmsg, hfrom⟩
    waiterKey_owner := by
      intro r' j hj
      rcases h.waiterKey_owner r' j hj with ⟨v, hv, hinst⟩
      exact ⟨v, keep r' v hv, hinst⟩ }

/-- Taking the waiter out of its map and calling `resolve` or `reject` once. -/
theorem settle (h : Invariant s) {r : String} {v : Invocation} {w : Waiter}
    (hv : s.invocations r = some v) (hw : s.waiters v.instanceId r = some w)
    {settlement : Settlement Payload}
    (hsent : ∀ m, settlement = .resolved m → m.requestKey = .text r ∧
      ∃ f c, s.calls f = some c ∧ c.message = m ∧ c.fromClientId = v.expectedClientId) :
    Invariant (s.settle v.instanceId r settlement) := by
  have hempty : s.settled r = [] := h.waiter_unsettled _ r w hw
  have hwaiters : ∀ j r' w', (s.settle v.instanceId r settlement).waiters j r' = some w' →
      r' ≠ r ∧ s.waiters j r' = some w' := by
    intro j r' w' hw'
    simp only [State.settle] at hw'
    by_cases hj : j = v.instanceId
    · subst hj
      by_cases hr : r' = r
      · subst hr
        simp at hw'
      · exact ⟨hr, by simpa [hr] using hw'⟩
    · have hold : s.waiters j r' = some w' := by simpa [hj] using hw'
      refine ⟨?_, hold⟩
      intro hr
      subst hr
      exact hj (h.waiter_instance hold hw)
  have hother : ∀ r', r' ≠ r →
      (s.settle v.instanceId r settlement).settled r' = s.settled r' := by
    intro r' hr
    simp [State.settle, hr]
  have hself : (s.settle v.instanceId r settlement).settled r = [settlement] := by
    simp [State.settle, hempty]
  exact
  { h with
    waiter_registered := by
      intro j r' w' hw'
      exact h.waiter_registered j r' w' (hwaiters j r' w' hw').2
    waiter_unsettled := by
      intro j r' w' hw'
      rcases hwaiters j r' w' hw' with ⟨hr, hold⟩
      rw [hother r' hr]
      exact h.waiter_unsettled j r' w' hold
    timer_waiter := by
      intro r' v' ht hv'
      have hr : r' ≠ r := by
        rintro rfl
        simp [State.settle] at ht
      have ht' : s.timers r' = true := by simpa [State.settle, hr] using ht
      have hwait := h.timer_waiter r' v' ht' hv'
      by_cases hi : v'.instanceId = v.instanceId
      · simpa [State.settle, hi, hr] using hi ▸ hwait
      · simpa [State.settle, hi] using hwait
    unregistered_unsettled := by
      intro r' hnone
      have hr : r' ≠ r := by
        rintro rfl
        exact absurd (hv.symm.trans hnone) (by simp)
      rw [hother r' hr]
      exact h.unregistered_unsettled r' hnone
    settled_once := by
      intro r'
      by_cases hr : r' = r
      · rw [hr, hself]
        simp
      · rw [hother r' hr]
        exact h.settled_once r'
    resolved_sent := by
      intro r' m hm
      by_cases hr : r' = r
      · subst hr
        rw [hself, List.mem_singleton] at hm
        rcases hsent m hm.symm with ⟨hreq, f, c, hc, hmsg, hfrom⟩
        exact ⟨hreq, v, f, c, hv, hc, hmsg, hfrom⟩
      · rw [hother r' hr] at hm
        exact h.resolved_sent r' m hm }

/-- The waiter that accepts a result belongs to an invocation bound to its sender. -/
theorem accepts_registered (h : Invariant s) {i : InstanceId} {key : RequestKey}
    {fromClientId : ClientId} {r : String} {w : Waiter}
    (haccepts : Accepts s i key fromClientId r w) :
    ∃ v, s.invocations r = some v ∧ v.instanceId = i ∧ v.expectedClientId = fromClientId := by
  rcases h.waiter_registered i r w haccepts.waiter with ⟨v, hv, hi, hname⟩
  have hnamed : w.clientId ≠ "" := hname ▸ h.expected_named r v hv
  exact ⟨v, hv, hi, hname.trans (haccepts.sender hnamed).symm⟩

/-- Accepting a frame that some call has received for this request id. -/
theorem accept (h : Invariant s) {i : InstanceId} {key : RequestKey}
    {result : ResultMessage Payload} {fromClientId : ClientId} {r : String} {w : Waiter}
    (haccepts : Accepts s i key fromClientId r w) (hreq : result.requestKey = key)
    (hsent : ∃ f c, s.calls f = some c ∧ c.message = result ∧ c.fromClientId = fromClientId) :
    Invariant (s.settle i r (.resolved result)) := by
  rcases h.accepts_registered haccepts with ⟨v, hv, hi, hfrom⟩
  subst hi
  refine h.settle hv haccepts.waiter ?_
  intro m hm
  rcases hsent with ⟨f, c, hc, hmsg, hcfrom⟩
  rw [Settlement.resolved.injEq] at hm
  exact ⟨hm ▸ hreq.trans haccepts.request, f, c, hc, hmsg.trans hm, hcfrom.trans hfrom.symm⟩

/-- Moving a `handleResult` call to another stage. -/
theorem moveCall (h : Invariant s) {f : CallId} {c : HandleResultCall Payload}
    (hc : s.calls f = some c) (stage : HandleResultStage) :
    Invariant (s.setCall f { c with stage }) := by
  have key : ∀ f' c', s.calls f' = some c' →
      ∃ c'', (s.setCall f { c with stage }).calls f' = some c'' ∧ c''.message = c'.message ∧
        c''.fromClientId = c'.fromClientId := by
    intro f' c' hc'
    by_cases hf : f' = f
    · subst hf
      have hcc : c = c' := Option.some.inj (hc.symm.trans hc')
      exact ⟨{ c with stage }, by simp [State.setCall], by rw [← hcc], by rw [← hcc]⟩
    · exact ⟨c', by simpa [State.setCall, hf] using hc', rfl, rfl⟩
  exact
  { h with
    call_sender := by
      intro f' c' hc'
      by_cases hf : f' = f
      · subst hf
        simp only [State.setCall, Function.update_self, Option.some.injEq] at hc'
        rw [← hc']
        exact h.call_sender f' c hc
      · exact h.call_sender f' c' (by simpa [State.setCall, hf] using hc')
    bus_sent := by
      intro f' m hm
      rcases h.bus_sent f' m hm with ⟨c', hc', hmsg, hreq, hfrom⟩
      rcases key f' c' hc' with ⟨c'', hc'', hmsg', hfrom'⟩
      exact ⟨c'', hc'', hmsg'.trans hmsg, by rw [hmsg']; exact hreq, hfrom'.trans hfrom⟩
    resolved_sent := by
      intro r m hm
      rcases h.resolved_sent r m hm with ⟨hreq, v, f', c', hv, hc', hmsg, hfrom⟩
      rcases key f' c' hc' with ⟨c'', hc'', hmsg', hfrom'⟩
      exact ⟨hreq, v, f', c'', hv, hc'', hmsg'.trans hmsg, hfrom'.trans hfrom⟩ }

/-- A new call enters with the authenticated id of its socket. -/
theorem newCall (h : Invariant s) {f : CallId} {k : SocketId} {d : DeviceSocket}
    (hfree : s.calls f = none) (hd : s.sockets k = some d) (message : ResultMessage Payload) :
    Invariant (s.setCall f ⟨k, d.instanceId, d.clientId, message, .readWaiter⟩) := by
  have hne : ∀ f' c', s.calls f' = some c' → f' ≠ f := by
    intro f' c' hc' hf
    rw [hf, hfree] at hc'
    contradiction
  have keep : ∀ f' c', s.calls f' = some c' →
      (s.setCall f ⟨k, d.instanceId, d.clientId, message, .readWaiter⟩).calls f' = some c' := by
    intro f' c' hc'
    simpa [State.setCall, hne f' c' hc'] using hc'
  exact
  { h with
    call_sender := by
      intro f' c' hc'
      by_cases hf : f' = f
      · subst hf
        simp only [State.setCall, Function.update_self, Option.some.injEq] at hc'
        rw [← hc']
        exact ⟨d, hd, rfl⟩
      · exact h.call_sender f' c' (by simpa [State.setCall, hf] using hc')
    bus_sent := by
      intro f' m hm
      rcases h.bus_sent f' m hm with ⟨c', hc', hrest⟩
      exact ⟨c', keep f' c' hc', hrest⟩
    resolved_sent := by
      intro r m hm
      rcases h.resolved_sent r m hm with ⟨hreq, v, f', c', hv, hc', hrest⟩
      exact ⟨hreq, v, f', c', hv, keep f' c' hc', hrest⟩ }

/-- Publishing the frame of a call on the bus. -/
theorem publish (h : Invariant s) {f : CallId} {c : HandleResultCall Payload}
    (hc : s.calls f = some c) (channel : InstanceId) :
    Invariant (s.publish f ⟨channel, c.message.requestKey, c.message, c.fromClientId⟩) :=
  { h with
    bus_sent := by
      intro f' m hm
      by_cases hf : f' = f
      · subst hf
        simp only [State.publish, Function.update_self, Option.some.injEq] at hm
        subst hm
        exact ⟨c, hc, rfl, rfl, rfl⟩
      · exact h.bus_sent f' m (by simpa [State.publish, hf] using hm) }

/-- Taking a message off the bus. -/
theorem takeBus (h : Invariant s) (f : CallId) :
    Invariant { s with bus := Function.update s.bus f none } :=
  { h with
    bus_sent := by
      intro f' m hm
      by_cases hf : f' = f
      · subst hf
        simp at hm
      · exact h.bus_sent f' m (by simpa [hf] using hm) }

/-- `rpc:waiter:<id>` only ever names the instance that registered the id. -/
theorem setWaiterKey (h : Invariant s) {r : String} {v : Invocation}
    (hv : s.invocations r = some v) : Invariant (s.setWaiterKey r v.instanceId) :=
  { h with
    waiterKey_owner := by
      intro r' i hi
      by_cases hr : r' = r
      · subst hr
        simp only [State.setWaiterKey, Function.update_self, Option.some.injEq] at hi
        exact ⟨v, hv, hi⟩
      · exact h.waiterKey_owner r' i (by simpa [State.setWaiterKey, hr] using hi) }

theorem expireWaiterKey (h : Invariant s) (r : String) :
    Invariant { s with waiterKey := Function.update s.waiterKey r none } :=
  { h with
    waiterKey_owner := by
      intro r' i hi
      by_cases hr : r' = r
      · subst hr
        simp at hi
      · exact h.waiterKey_owner r' i (by simpa [hr] using hi) }

/-! ## Actions -/

/-- The id handed to `registerWaiter` is never empty. -/
theorem selectDevice_named (h : Invariant s) {selection : State.DeviceSelection}
    {clientId : ClientId} (hsel : s.selectDevice selection = some clientId) :
    clientId ≠ "" := by
  cases selection with
  | requested requested =>
      simp only [State.selectDevice] at hsel
      split at hsel
      · contradiction
      · rename_i hne
        exact (Option.some.inj hsel) ▸ hne
  | picked socket =>
      simp only [State.selectDevice, Option.map_eq_some_iff] at hsel
      rcases hsel with ⟨d, hd, hname⟩
      exact hname ▸ h.socket_named socket d hd

/-- Every action of the cluster and of its environment preserves the invariant. -/
theorem step (h : Invariant s) {a : Action Payload} (hstep : Relay.step s a = some t) :
    Invariant t := by
  cases RelayStep.of_step hstep with
  | connect hnamed hfree => exact h.connect hnamed hfree
  | register hfresh hsel => exact h.register hfresh (h.selectDevice_named hsel) .marking
  | @mark r v fault stage hv =>
      cases fault with
      | none => exact (h.setWaiterKey hv).moveInvocation hv stage
      | rejected => exact h.moveInvocation hv stage
      | lost => exact (h.setWaiterKey hv).moveInvocation hv stage
  | dispatch hv => exact h.moveInvocation hv _
  | cancelAbsent hv => exact h.moveInvocation hv _
  | @cancel r v w reason hv hw =>
      have hset : Invariant (s.settle v.instanceId r (.cancelled reason)) :=
        h.settle hv hw (by simp)
      exact hset.moveInvocation hv _
  | @timeout r v hv harmed =>
      rcases Option.isSome_iff_exists.mp (h.timer_waiter r v harmed hv) with ⟨w, hw⟩
      exact h.settle hv hw (by simp)
  | receive hfree hd => exact h.newCall hfree hd _
  | advance completed stage hc hopen => exact (h.of_keys completed _).moveCall hc stage
  | resolve hc hopen haccepts =>
      have hset := h.accept haccepts rfl ⟨_, _, hc, rfl, rfl⟩
      exact hset.moveCall hc _
  | publish channel hc hopen => exact (h.publish hc channel).moveCall hc _
  | @deliver f m r w hm haccepts =>
      rcases h.bus_sent f m hm with ⟨c, hc, hmsg, hreq, hfrom⟩
      exact (h.takeBus f).accept ⟨haccepts.request, haccepts.waiter, haccepts.sender⟩
        (hmsg ▸ hreq) ⟨f, c, hc, hmsg, hfrom⟩
  | bounce deletes hm => exact (h.takeBus _).of_keys _ deletes
  | subscriberDelete completed deletes => exact h.of_keys completed deletes
  | expireWaiterKey r => exact h.expireWaiterKey r
  | expireCompletedKey key completed => exact h.of_keys completed _

/-- Every reachable state of the relay satisfies the invariant. -/
theorem of_reachable (h : (machine Payload).Reachable s) : Invariant s :=
  h.invariant (fun hinit => hinit ▸ Invariant.empty) fun hinv hstep => hinv.step hstep

/-! ## What a step can do to one waiter -/

/-- The map entries and the settlements of one request id are the same in two states. -/
structure SameWaiter (s t : State Payload) (r : String) : Prop where
  settled : t.settled r = s.settled r
  waiters : ∀ i, t.waiters i r = s.waiters i r

/-- The actions that may settle a registered request: its timer, its own failed
dispatch, or a call that carries a frame of its expected device. -/
def MaySettle (s : State Payload) (a : Action Payload) (r : String) (v : Invocation) : Prop :=
  a = .timeout r ∨ a = .cancelDispatch r ∨
    ∃ f c, s.calls f = some c ∧ c.message.requestKey = .text r ∧
      c.fromClientId = v.expectedClientId ∧ (a = .handleResult f ∨ a = .deliver f)

theorem sameWaiter_settle {i : InstanceId} {r r' : String} (hne : r ≠ r')
    (o : Settlement Payload) : SameWaiter s (s.settle i r' o) r where
  settled := by simp [State.settle, hne]
  waiters := by
    intro j
    by_cases hj : j = i
    · subst hj
      simp [State.settle, hne]
    · simp [State.settle, hj]

/-- A result that is accepted either belongs to another request or was sent by
the expected device while the waiter was there. -/
theorem accepts_cases (h : Invariant s) {r : String} {v : Invocation}
    (hv : s.invocations r = some v) {i : InstanceId} {key : RequestKey}
    {fromClientId : ClientId} {r' : String} {w : Waiter}
    (haccepts : Accepts s i key fromClientId r' w) :
    r ≠ r' ∨ (key = .text r ∧ fromClientId = v.expectedClientId ∧
      ∃ w, s.waiters v.instanceId r = some w) := by
  by_cases hr : r = r'
  · subst hr
    rcases h.accepts_registered haccepts with ⟨v', hv', hi, hfrom⟩
    have hvv : v = v' := Option.some.inj (hv.symm.trans hv')
    subst hvv
    exact Or.inr ⟨haccepts.request, hfrom.symm, w, hi ▸ haccepts.waiter⟩
  · exact Or.inl hr

/-- One step leaves a registered waiter alone unless it may settle it. -/
theorem step_waiter (h : Invariant s) {r : String} {v : Invocation}
    (hv : s.invocations r = some v) {a : Action Payload} (hstep : Relay.step s a = some t) :
    SameWaiter s t r ∨ (MaySettle s a r v ∧ ∃ w, s.waiters v.instanceId r = some w) := by
  cases RelayStep.of_step hstep with
  | @register i r' selection clientId hfresh hsel =>
      have hne : r ≠ r' := by
        rintro rfl
        rw [hfresh] at hv
        contradiction
      refine Or.inl ⟨rfl, fun j => ?_⟩
      by_cases hj : j = i
      · subst hj
        simp [State.setWaiter, State.setInvocation, hne]
      · simp [State.setWaiter, State.setInvocation, hj]
  | @mark r' v' fault stage hv' => cases fault <;> exact Or.inl ⟨rfl, fun _ => rfl⟩
  | @cancel r' v' w reason hv' hw =>
      by_cases hr : r = r'
      · subst hr
        have hvv : v = v' := Option.some.inj (hv.symm.trans hv')
        exact Or.inr ⟨Or.inr (Or.inl rfl), w, hvv ▸ hw⟩
      · have hsame := sameWaiter_settle (s := s) (i := v'.instanceId) hr (.cancelled reason)
        exact Or.inl ⟨hsame.settled, hsame.waiters⟩
  | @timeout r' v' hv' harmed =>
      by_cases hr : r = r'
      · subst hr
        exact Or.inr ⟨Or.inl rfl, Option.isSome_iff_exists.mp (h.timer_waiter r v harmed hv)⟩
      · exact Or.inl (sameWaiter_settle hr _)
  | @resolve f c r' w hc hopen haccepts =>
      rcases h.accepts_cases hv haccepts with hr | ⟨hreq, hfrom, hw⟩
      · have hsame := sameWaiter_settle (s := s) (i := c.instanceId) hr (.resolved c.message)
        exact Or.inl ⟨hsame.settled, hsame.waiters⟩
      · exact Or.inr ⟨Or.inr (Or.inr ⟨f, c, hc, hreq, hfrom, Or.inl rfl⟩), hw⟩
  | @deliver f m r' w hm haccepts =>
      rcases h.accepts_cases hv haccepts with hr | ⟨hreq, hfrom, hw⟩
      · have hsame := sameWaiter_settle (s := s) (i := m.channel) hr (.resolved m.result)
        exact Or.inl ⟨hsame.settled, hsame.waiters⟩
      · rcases h.bus_sent f m hm with ⟨c, hc, -, hkey, hcfrom⟩
        exact Or.inr ⟨Or.inr (Or.inr
          ⟨f, c, hc, hkey.trans hreq, hcfrom.trans hfrom, Or.inr rfl⟩), hw⟩
  | _ => exact Or.inl ⟨rfl, fun _ => rfl⟩

/-- The settlement recorded for a request never changes once there is one. -/
theorem settled_stable_step (h : Invariant s) {r : String} {o : Settlement Payload}
    (hr : s.settled r = [o]) {a : Action Payload} (hstep : Relay.step s a = some t) :
    t.settled r = [o] := by
  have hne : s.settled r ≠ [] := by simp [hr]
  cases hv : s.invocations r with
  | none => exact (hne (h.unregistered_unsettled r hv)).elim
  | some v =>
      rcases h.step_waiter hv hstep with hsame | ⟨-, w, hw⟩
      · rw [hsame.settled, hr]
      · rw [h.waiters_of_settled hne] at hw
        contradiction

/-- A settled request keeps its one settlement along every continuation. -/
theorem settled_stable (h : Invariant s) {r : String} {o : Settlement Payload}
    (hr : s.settled r = [o]) {as : List (Action Payload)}
    (hrun : (machine Payload).run s as = some t) :
    Invariant t ∧ t.settled r = [o] :=
  Machine.run_invariant (I := fun u => Invariant u ∧ u.settled r = [o])
    (fun hI hstep => ⟨hI.1.step hstep, hI.1.settled_stable_step hI.2 hstep⟩) ⟨h, hr⟩ hrun

end Invariant

/-! ## Integrity -/

/-- Result integrity over every interleaving.  A registered waiter is settled at
most once; a result that resolves it was a frame for its request id received on
a socket authenticated as the expected client; and after any settlement every
continuation leaves it settled that way, out of every local map, with its timer
disarmed, so that no later result is accepted for it on any instance. -/
theorem settled_once_and_authentic {s : State Payload} (h : (machine Payload).Reachable s)
    {r : String} {v : Invocation} (hv : s.invocations r = some v) :
    (s.settled r).length ≤ 1 ∧
    (∀ m, .resolved m ∈ s.settled r →
      m.requestKey = .text r ∧ ∃ f c d, s.calls f = some c ∧ c.message = m ∧
        s.sockets c.socket = some d ∧ d.clientId = v.expectedClientId) ∧
    ∀ o ∈ s.settled r, ∀ as t, (machine Payload).run s as = some t →
      t.settled r = [o] ∧ t.timers r = false ∧ (∀ i, t.waiters i r = none) ∧
        ∀ i m fromClientId, t.resolveLocalWaiter i (.text r) m fromClientId = none := by
  have hinv : Invariant s := Invariant.of_reachable h
  refine ⟨hinv.settled_once r, ?_, ?_⟩
  · intro m hm
    rcases hinv.resolved_sent r m hm with ⟨hreq, v', f, c, hv', hc, hmsg, hfrom⟩
    have hvv : v = v' := Option.some.inj (hv.symm.trans hv')
    rcases hinv.call_sender f c hc with ⟨d, hd, hname⟩
    exact ⟨hreq, f, c, d, hc, hmsg, hd, by rw [hname, hfrom, hvv]⟩
  · intro o ho as t hrun
    have hone : s.settled r = [o] := by
      have hlen := hinv.settled_once r
      cases hlist : s.settled r with
      | nil => simp [hlist] at ho
      | cons x xs =>
          cases xs with
          | nil =>
              rw [hlist, List.mem_singleton] at ho
              rw [ho]
          | cons y ys => simp [hlist] at hlen
    rcases hinv.settled_stable hone hrun with ⟨htinv, htone⟩
    have hne : t.settled r ≠ [] := by simp [htone]
    have hnowait := htinv.waiters_of_settled hne
    refine ⟨htone, htinv.timer_of_settled hne, hnowait, ?_⟩
    intro i m fromClientId
    simp [State.resolveLocalWaiter, hnowait i]

/-! ### A routed result -/

/-- A device on instance 1 answers an invocation of instance 0. -/
def routedTrace : List (Action Nat) :=
  [.connect 0 1 "device-a", .registerWaiter 0 "request" (.picked 0),
    .markWaiting "request" .none, .dispatchJob "request" .dispatched,
    .receive 0 0 ⟨some (.text "request"), some "device-a", 7⟩,
    .handleResult 0, .handleResult 0, .handleResult 0, .deliver 0]

/-- The cluster after {lit}`routedTrace`. -/
def routedState : State Nat :=
  ((machine Nat).run (State.empty Nat) routedTrace).getD (State.empty Nat)

theorem routedState_reachable : (machine Nat).Reachable routedState :=
  ⟨State.empty Nat, routedTrace, rfl, rfl⟩

/-- The integrity theorem at the routed result, which does resolve its waiter. -/
theorem settled_once_and_authentic_routed :
    routedState.settled "request" =
        [.resolved ⟨some (.text "request"), some "device-a", 7⟩] ∧
      (routedState.settled "request").length ≤ 1 ∧
      ∀ as t, (machine Nat).run routedState as = some t →
        t.settled "request" =
          [.resolved ⟨some (.text "request"), some "device-a", 7⟩] := by
  have hsettled : routedState.settled "request" =
      [.resolved ⟨some (.text "request"), some "device-a", 7⟩] := by decide
  have hmain := settled_once_and_authentic routedState_reachable (r := "request")
    (v := ⟨0, "device-a", .awaiting⟩) (by decide)
  exact ⟨hsettled, hmain.1, fun as t hrun =>
    (hmain.2.2 _ (by rw [hsettled]; exact List.mem_singleton_self _) as t hrun).1⟩

end Relay
end R2RPC
