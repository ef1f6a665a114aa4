import R2RPC.Gateway.Sessions
import R2RPC.Gateway.Slots

/-!
# The declared capacity of a device

The counter bounds the holders of slots as long as it is not deleted under them,
and the limit of an acquisition bounds the counter.  The declared capacity of the
current session is therefore respected as long as the counter is deleted only
while nobody holds a slot, no acquisition uses a larger limit, and no session
starts with more holders than its device has declared.

Main results:

- Definition {lit}`CapacityKept`: these three conditions on one step.
- Theorem {lit}`in_flight_within_capacity`: the capacity is respected along every
  run that meets them.
- Theorem {lit}`capacity_exceeded`: each of them is needed.

Current gaps:

- None.
-/

namespace R2RPC
namespace Gateway

open Interleaving

variable {s t : State} {a : Action} {as : List Action} {clientId : ClientId}

/-! ## The property and its conditions -/

/-- The invocations that hold a slot are at most as many as the device has
declared on the connection whose session is current. -/
def WithinCapacity (clientId : ClientId) (s : State) : Prop :=
  ∀ token socket, s.store.session clientId = some token →
    s.sockets token.uuid = some socket → s.holders clientId ≤ socket.maxInFlight

/-- The limit with which the next command of an invocation tries to take a slot of
the device. -/
def Invocation.limitFor (clientId : ClientId) (invocation : Invocation) : Option Nat :=
  match invocation.stage with
  | .acquire c maximumInFlight _ => if c = clientId then some maximumInFlight else none
  | _ => none

/-- The counter is deleted only while nobody holds a slot, an acquisition uses no
larger limit than the current session has declared, and a session starts with no
more holders than its device declares. -/
def CapacityKept (clientId : ClientId) (s : State) : Action → Prop
  | .handshake id fault =>
      ∀ socket ∈ s.liveSocket id, socket.clientId = clientId → fault.executes = true →
        (socket.handshake = .setSession → s.holders clientId ≤ socket.maxInFlight) ∧
          (socket.handshake = .resetInFlight → s.holders clientId = 0)
  | .disconnect id fault =>
      ∀ socket ∈ s.liveSocket id, socket.clientId = clientId → fault.executes = true →
        socket.disconnect = .delInFlight → s.holders clientId = 0
  | .dispatch id _ _ =>
      ∀ invocation ∈ s.invocations[id]?, ∀ maximumInFlight ∈ invocation.limitFor clientId,
        ∀ token ∈ s.store.session clientId, ∀ socket ∈ s.sockets token.uuid,
          maximumInFlight ≤ socket.maxInFlight
  | _ => True

instance (clientId : ClientId) (s : State) (a : Action) :
    Decidable (CapacityKept clientId s a) :=
  match a with
  | .handshake id fault => inferInstanceAs (Decidable (∀ socket ∈ s.liveSocket id,
      socket.clientId = clientId → fault.executes = true →
        (socket.handshake = .setSession → s.holders clientId ≤ socket.maxInFlight) ∧
          (socket.handshake = .resetInFlight → s.holders clientId = 0)))
  | .disconnect id fault => inferInstanceAs (Decidable (∀ socket ∈ s.liveSocket id,
      socket.clientId = clientId → fault.executes = true →
        socket.disconnect = .delInFlight → s.holders clientId = 0))
  | .dispatch id _ _ => inferInstanceAs (Decidable (∀ invocation ∈ s.invocations[id]?,
      ∀ maximumInFlight ∈ invocation.limitFor clientId,
        ∀ token ∈ s.store.session clientId, ∀ socket ∈ s.sockets token.uuid,
          maximumInFlight ≤ socket.maxInFlight))
  | .accept .. | .attach _ | .bind _ | .closeEvent _ | .heartbeat .. | .refresh ..
  | .administer .. | .administration _ | .deliverScopeChange .. | .expireSession _
  | .expirePresence _ | .expireMaxInFlight _ | .expireTokenCache _ | .crash _
  | .invoke .. => isTrue trivial

theorem CapacityKept.resets (h : CapacityKept clientId s a)
    (hreset : ResetsInFlight clientId s a) : s.holders clientId = 0 := by
  rcases hreset with ⟨id, fault, socket, hlive, hclient, hrun, ⟨rfl, hstage⟩ | ⟨rfl, hstage⟩⟩
  · exact (h socket hlive hclient hrun).2 hstage
  · exact h socket hlive hclient hrun hstage

theorem CapacityKept.sessions (h : CapacityKept clientId s a) {id : SocketId} {socket : Socket}
    (hsets : SetsSession clientId s a id socket) :
    s.holders clientId ≤ socket.maxInFlight := by
  rcases hsets with ⟨hlive, hstage, hclient, fault, rfl, hrun⟩
  exact (h socket hlive hclient hrun).1 hstage

/-! ## The invariant -/

/-- The counter bounds the holders, no floor is pending, and the current session
respects its capacity. -/
structure CapacityInvariant (clientId : ClientId) (s : State) : Prop where
  attached : AttachedSockets s
  owned : SessionOwned s
  counted : (s.holders clientId : Int) ≤ s.store.inFlightCount clientId
  unfloored : s.floors clientId = 0
  respected : WithinCapacity clientId s

theorem CapacityInvariant.initial (h : machine.initial s) : CapacityInvariant clientId s := by
  have hreach := Machine.Reachable.initial h
  refine ⟨attachedSockets_of_reachable hreach, SessionOwned.of_reachable hreach, ?_, ?_, ?_⟩ <;>
    rcases h with ⟨deviceTokens, devices, rfl⟩
  · simp [State.start, State.holders, Store.inFlightCount, Store.start]
  · simp [State.start, State.floors]
  · intro token socket hsession
    simp [State.start, Store.start] at hsession

/-- The counter part of one step. -/
theorem CapacityInvariant.counter (h : CapacityInvariant clientId s)
    (hkept : CapacityKept clientId s a) (hstep : step s a = some t) :
    (t.holders clientId : Int) ≤ t.store.inFlightCount clientId ∧ t.floors clientId = 0 := by
  have hcounted := h.counted
  have hunfloored := h.unfloored
  by_cases hdispatch : ∃ id fault order, a = .dispatch id fault order
  · rcases hdispatch with ⟨id, fault, order, rfl⟩
    rcases State.dispatch_eq_some hstep with ⟨invocation, hget, -, -, -⟩
    cases dispatch_slotEffect clientId hget hstep with
    | idle hcount hholders hfloors => exact ⟨by omega, by omega⟩
    | acquired limit rest hstage hfree hrun hcount hholders hfloors =>
        refine ⟨?_, by omega⟩
        cases hthrows : fault.throws <;> simp [hthrows] at hholders <;> omega
    | released hstage hcount hholders hfloors =>
        refine ⟨?_, ?_⟩
        · cases hrun : fault.executes <;> simp [hrun] at hcount <;> omega
        · have hlow : ¬s.store.inFlightCount clientId - 1 < 0 := by omega
          simp only [hlow, and_false, if_false] at hfloors
          omega
    | floored hstage hcount hholders hfloors => omega
  · have hother : ∀ id fault order, a ≠ .dispatch id fault order :=
      fun id fault order ha => hdispatch ⟨id, fault, order, ha⟩
    rcases step_holders clientId hother hstep with ⟨hholders, hfloors⟩
    refine ⟨?_, by omega⟩
    rcases step_inFlight clientId hother hstep with hsame | ⟨hreset, hnone⟩
    · have hcount : t.store.inFlightCount clientId = s.store.inFlightCount clientId := by
        simp [Store.inFlightCount, hsame]
      omega
    · have hzero := hkept.resets hreset
      have hcount : t.store.inFlightCount clientId = 0 := by simp [Store.inFlightCount, hnone]
      omega

/-- An invocation that takes a slot does so within the declared capacity. -/
theorem CapacityInvariant.dispatch (h : CapacityInvariant clientId s) {id : Nat} {fault : Fault}
    {order : List ClientId} (hkept : CapacityKept clientId s (.dispatch id fault order))
    (hstep : step s (.dispatch id fault order) = some t) : WithinCapacity clientId t := by
  rcases State.dispatch_eq_some hstep with ⟨invocation, hget, -, -, ht⟩
  have hsockets : t.sockets = s.sockets := by rw [ht]
  have hsession : t.store.session = s.store.session := by
    rw [ht]
    rcases fault.apply_cases invocation.command s.store with hskip | ⟨-, happly⟩
    · simp [hskip]
    · simp [happly, invocation.command_session]
  intro token socket htoken hsocket
  rw [hsession] at htoken
  rw [hsockets] at hsocket
  have hbefore := h.respected token socket htoken hsocket
  have hafter := (h.counter hkept hstep).1
  cases dispatch_slotEffect clientId hget hstep with
  | idle hcount hholders hfloors => omega
  | acquired limit rest hstage hfree hrun hcount hholders hfloors =>
      have hlimit := hkept invocation hget limit (by simp [Invocation.limitFor, hstage]) token
        htoken socket hsocket
      have hfree' : s.store.inFlightCount clientId + 1 ≤ limit := by
        simpa [Store.slotFree] using hfree
      omega
  | released hstage hcount hholders hfloors => omega
  | floored hstage hcount hholders hfloors => omega

/-- Outside dispatch the holders stay, and a new session can bear them. -/
theorem CapacityInvariant.other (h : CapacityInvariant clientId s)
    (hother : ∀ id fault order, a ≠ .dispatch id fault order)
    (hkept : CapacityKept clientId s a) (hstep : step s a = some t) :
    WithinCapacity clientId t := by
  intro token socket' htoken hsocket'
  rw [(step_holders clientId hother hstep).1]
  rcases step_session clientId hstep with hsame | hnone | ⟨id, owner, hsets, hset⟩
  · rw [hsame] at htoken
    rcases h.owned clientId token htoken with ⟨socket, hk, hclient, huuid, hscope⟩
    rcases step_socket hstep hk with ⟨socket'', hk'', hchange⟩
    rw [hsocket', Option.some.injEq] at hk''
    have hreq : socket'.request = socket.request := hk'' ▸ hchange.keeps.1
    have hbefore := h.respected token socket htoken hk
    rwa [Socket.maxInFlight, hreq]
  · rw [hnone] at htoken
    contradiction
  · rw [hset, Option.some.injEq] at htoken
    subst htoken
    have hbefore := hkept.sessions hsets
    rcases step_socket hstep (State.liveSocket_eq_some.mp hsets.1).1 with ⟨socket'', hk'', hchange⟩
    rw [State.sessionToken, hk'', Option.some.injEq] at hsocket'
    have hreq : socket'.request = owner.request := hsocket' ▸ hchange.keeps.1
    rwa [Socket.maxInFlight, hreq]

theorem CapacityInvariant.step (h : CapacityInvariant clientId s)
    (hkept : CapacityKept clientId s a) (hstep : Gateway.step s a = some t) :
    CapacityInvariant clientId t := by
  rcases h.counter hkept hstep with ⟨hcounted, hunfloored⟩
  refine ⟨attachedSockets_step h.attached hstep, h.owned.step h.attached hstep, hcounted,
    hunfloored, ?_⟩
  by_cases hdispatch : ∃ id fault order, a = .dispatch id fault order
  · rcases hdispatch with ⟨id, fault, order, rfl⟩
    exact h.dispatch hkept hstep
  · exact h.other (fun id fault order ha => hdispatch ⟨id, fault, order, ha⟩) hkept hstep

/-- In-flight capacity is respected.  Along every run in which the counter of a
device is deleted only while no invocation holds one of its slots, no acquisition
uses a larger limit than its current session has declared, and no session starts
with more holders than it declares, the invocations that hold a slot are never
more than the current session has declared. -/
theorem in_flight_within_capacity (hinit : machine.initial s)
    (hkept : machine.Meets (CapacityKept clientId) s as) (hrun : machine.run s as = some t) :
    WithinCapacity clientId t := by
  have hinv : CapacityInvariant clientId t :=
    hkept.invariant (fun hI hC hstep => hI.step hC hstep) (CapacityInvariant.initial hinit) hrun
  exact hinv.respected

/-! ### A full device -/

/-- The device connects with capacity 1 and one invocation takes its slot. -/
def fullTrace : List Action := connectTrace 0 0 (sampleRequest 0 1) ++ acquireTrace 0

/-- The cluster after {lit}`fullTrace`. -/
def fullState : State := (machine.run sampleState fullTrace).getD sampleState

/-- The capacity theorem at a device whose only slot is taken. -/
theorem in_flight_within_capacity_full :
    fullState.holders "device-a" = 1 ∧
      fullState.store.session "device-a" = some ⟨0, 0⟩ ∧
      WithinCapacity "device-a" fullState :=
  ⟨by decide, by decide, in_flight_within_capacity ⟨sampleTokens, noDevices, rfl⟩
    (by decide : machine.Meets (CapacityKept "device-a") sampleState fullTrace) rfl⟩

/-! ### Exceeding the capacity -/

/-- The device reconnects and the counter is reset under its holder. -/
def resetTrace : List Action :=
  fullTrace ++ reconnectTrace 1 0 (sampleRequest 0 1) ++ acquireTrace 1

/-- The declared limit expires, and the next acquisition uses the default. -/
def defaultTrace : List Action :=
  fullTrace ++ [.expireMaxInFlight "device-a"] ++ acquireTrace 1

/-- A device of capacity 2 with two holders reconnects with capacity 1; the run
ends with the `SET` of its new session. -/
def lowerTrace : List Action :=
  connectTrace 0 0 (sampleRequest 0 2) ++ acquireTrace 0 ++ acquireTrace 1 ++
    (reconnectTrace 1 0 (sampleRequest 0 1)).take 4

/-- The session, its declared capacity and the holders at the end of a run. -/
def capacityAfter (as : List Action) : Option (SessionToken × Nat × Nat) :=
  (machine.run sampleState as).bind fun s =>
    (s.store.session "device-a").bind fun token =>
      (s.sockets token.uuid).map fun socket =>
        (token, socket.maxInFlight, s.holders "device-a")

theorem exceeded_of_capacityAfter {token : SessionToken} {declared held : Nat}
    (h : capacityAfter as = some (token, declared, held)) (hlt : declared < held) :
    ∃ t, machine.run sampleState as = some t ∧ ¬WithinCapacity "device-a" t := by
  simp only [capacityAfter, Option.bind_eq_some_iff, Option.map_eq_some_iff, Prod.mk.injEq] at h
  rcases h with ⟨t, hrun, token', hsession, socket, hsocket, -, hdeclared, hheld⟩
  refine ⟨t, hrun, fun hwithin => ?_⟩
  have hle := hwithin token' socket hsession hsocket
  omega

/-- In each of the three runs two invocations hold slots of a device whose current
session has declared one. -/
theorem capacity_exceeded :
    (∃ t, machine.run sampleState resetTrace = some t ∧ ¬WithinCapacity "device-a" t) ∧
      (∃ t, machine.run sampleState defaultTrace = some t ∧ ¬WithinCapacity "device-a" t) ∧
      ∃ t, machine.run sampleState lowerTrace = some t ∧ ¬WithinCapacity "device-a" t := by
  have hreset : capacityAfter resetTrace = some (⟨0, 1⟩, 1, 2) := by decide
  have hdefault : capacityAfter defaultTrace = some (⟨0, 0⟩, 1, 2) := by decide
  have hlower : capacityAfter lowerTrace = some (⟨0, 1⟩, 1, 2) := by decide
  exact ⟨exceeded_of_capacityAfter hreset (by decide),
    exceeded_of_capacityAfter hdefault (by decide), exceeded_of_capacityAfter hlower (by decide)⟩

end Gateway
end R2RPC
