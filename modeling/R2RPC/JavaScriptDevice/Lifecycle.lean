import R2RPC.JavaScriptDevice.Connection

/-!
# The lifecycle of the JavaScript device

A running device has one socket or one pending reconnect, a stopped one has nothing; this
holds as long as no callback stops the device in the middle of connecting.

Main results:

- Definition {lit}`Device.Lifecycle`: what an observer may expect between two events.
- Definition {lit}`Event.Undisturbed`: the events whose callbacks and factory do not break it.
- Theorem {lit}`Device.Owned.handle`: one event.
- Theorem {lit}`lifecycle_kept`: runs of undisturbed events.
- Theorem {lit}`stopped_while_connecting`: a callback that stops the device too early.
-/

namespace R2RPC
namespace JavaScriptDevice

open Interleaving

/-! ## What is expected -/

/-- A running device has one open socket or one pending reconnect; a stopped one has no
socket, no timer, and nothing left open. -/
structure Device.Lifecycle (device : Device) : Prop where
  running : device.shouldRun = true →
    (∃ socket, device.webSocket = some socket ∧ socket ∉ device.closeDelivered ∧
      device.timeouts = []) ∨ device.webSocket = none ∧ ∃ timer, device.timeouts = [timer]
  stopped : device.shouldRun = false →
    device.webSocket = none ∧ device.intervals = [] ∧ device.timeouts = [] ∧
      ∀ socket < device.sockets, socket ∈ device.closeCalled ∨ socket ∈ device.closeDelivered

/-- A callback that calls `stop` itself. -/
def Calls.stops : Calls → Bool
  | .done => false
  | .start _ _ _ rest => rest.stops
  | .stop _ _ => true

/-- Whether the device runs after a callback, from whether it ran before. -/
def Calls.leaves : Calls → Bool → Bool
  | .done, running => running
  | .start _ _ _ rest, _ => rest.leaves true
  | .stop onStateChange rest, _ => rest.leaves (onStateChange.leaves false)

/-- The calls of a callback open what they open, and are not stopped meanwhile. -/
def Calls.Undisturbed : Calls → Bool → Prop
  | .done, _ => True
  | .start onStateChange opens _ rest, running =>
      (running = false → opens = true ∧ onStateChange.stops = false) ∧ rest.Undisturbed true
  | .stop onStateChange rest, _ =>
      onStateChange.Undisturbed false ∧ rest.Undisturbed (onStateChange.leaves false)

/-- An event that opens what it opens, while no callback stops the device, and after which a
device that is told it is online still runs. -/
def Event.Undisturbed (device : Device) : Event → Prop
  | .start onStateChange opens =>
      device.shouldRun = false → opens = true ∧ onStateChange.stops = false
  | .stop onStateChange => onStateChange.Undisturbed false
  | .welcome socket sameClient callback =>
      device.webSocket = some socket → callback.Undisturbed device.shouldRun ∧
        (sameClient = true → callback.leaves device.shouldRun = true)
  | .reportError onError => onError.Undisturbed device.shouldRun
  | .heartbeat _ writable onError =>
      writable = false → onError.Undisturbed device.shouldRun
  | .close socket code onStateChange onError =>
      device.webSocket = some socket →
        if code = 4001 then
          onStateChange.Undisturbed false ∧ onError.Undisturbed (onStateChange.leaves false)
        else onStateChange.stops = false
  | .reconnect _ onStateChange opens => opens = true ∧ onStateChange.stops = false

instance Calls.decidableUndisturbed :
    ∀ (calls : Calls) (running : Bool), Decidable (calls.Undisturbed running)
  | .done, _ => isTrue trivial
  | .start onStateChange opens _ rest, running =>
      have := decidableUndisturbed rest true
      inferInstanceAs (Decidable
        ((running = false → opens = true ∧ onStateChange.stops = false) ∧ rest.Undisturbed true))
  | .stop onStateChange rest, _ =>
      have := decidableUndisturbed onStateChange false
      have := decidableUndisturbed rest (onStateChange.leaves false)
      inferInstanceAs (Decidable
        (onStateChange.Undisturbed false ∧ rest.Undisturbed (onStateChange.leaves false)))

instance Event.decidableUndisturbed (device : Device) :
    ∀ event : Event, Decidable (event.Undisturbed device) := by
  intro event
  cases event <;> unfold Event.Undisturbed <;> infer_instance

/-- No callback calls `start`. -/
def Calls.NeverStarts : Calls → Prop
  | .done => True
  | .start _ _ _ _ => False
  | .stop onStateChange rest => onStateChange.NeverStarts ∧ rest.NeverStarts

/-- `start` is not called, neither by the host nor by a callback. -/
def Event.NeverStarts : Event → Prop
  | .start _ _ => False
  | .stop onStateChange => onStateChange.NeverStarts
  | .welcome _ _ callback => callback.NeverStarts
  | .reportError onError => onError.NeverStarts
  | .heartbeat _ _ onError => onError.NeverStarts
  | .close _ _ onStateChange onError => onStateChange.NeverStarts ∧ onError.NeverStarts
  | .reconnect _ onStateChange _ => onStateChange.NeverStarts

/-! ## The invariant -/

/-- What the fields say about the host, also in the middle of an event. -/
structure Device.Sound (device : Device) : Prop where
  current : ∀ socket, device.webSocket = some socket →
    socket < device.sockets ∧ socket ∉ device.closeDelivered
  delivered : ∀ socket ∈ device.closeDelivered, socket < device.sockets
  heartbeat : device.intervals = device.heartbeatTimer.toList
  pending : ∀ timer ∈ device.timeouts, device.reconnectTimer = some timer
  closed : ∀ socket < device.sockets, device.webSocket = some socket ∨
    socket ∈ device.closeCalled ∨ socket ∈ device.closeDelivered

/-- Between two events, and whenever a callback may call `start` or `stop`. -/
structure Device.Owned (device : Device) : Prop extends device.Sound where
  running : device.shouldRun = true →
    device.webSocket.toList.length + device.timeouts.length = 1
  stopped : device.shouldRun = false →
    device.webSocket = none ∧ device.heartbeatTimer = none ∧ device.timeouts = []

namespace Device

variable {device : Device}

theorem idle_owned : idle.Owned where
  current := by simp [idle]
  delivered := by simp [idle]
  heartbeat := rfl
  pending := by simp [idle]
  closed := by simp [idle]
  running := by simp [idle]
  stopped := by simp [idle]

theorem Owned.lifecycle (h : device.Owned) : device.Lifecycle where
  running := by
    intro hrun
    have hone := h.running hrun
    cases hsocket : device.webSocket with
    | some socket =>
        rw [hsocket, Option.toList_some, List.length_singleton] at hone
        exact .inl ⟨socket, rfl, (h.current socket hsocket).2,
          List.length_eq_zero_iff.mp (by omega)⟩
    | none =>
        rw [hsocket, Option.toList_none, List.length_nil, Nat.zero_add] at hone
        exact .inr ⟨rfl, List.length_eq_one_iff.mp hone⟩
  stopped := by
    intro hstop
    rcases h.stopped hstop with ⟨hsocket, hheartbeat, htimeouts⟩
    refine ⟨hsocket, by rw [h.heartbeat, hheartbeat]; rfl, htimeouts, fun socket hlt => ?_⟩
    have hclosed := h.closed socket hlt
    rw [hsocket] at hclosed
    simpa using hclosed

/-! ## Pieces of a transition -/

/-- The heartbeat timer is the only interval. -/
theorem Sound.clearHeartbeat_intervals (h : device.Sound) :
    device.clearHeartbeat.intervals = [] := by
  have hall : ∀ timer ∈ device.intervals, some timer = device.heartbeatTimer := by
    intro timer hmem
    rw [h.heartbeat, Option.mem_toList] at hmem
    exact hmem.symm
  rw [clearHeartbeat, List.filter_eq_nil_iff]
  intro timer hmem
  simpa using hall timer hmem

/-- The reconnect timer is the only timeout. -/
theorem Sound.clearTimers_timeouts (h : device.Sound) : device.clearTimers.timeouts = [] := by
  rw [clearTimers, List.filter_eq_nil_iff]
  intro timer hmem
  simpa using (h.pending timer hmem).symm

/-- The fields after `stop`, before its callback. -/
theorem Owned.stop (h : device.Owned) :
    { { device with shouldRun := false }.clearTimers.closeSocket with
      webSocket := none, connectionState := .stopped }.Owned where
  current := by
    intro socket hsocket
    cases hsocket
  delivered := h.delivered
  heartbeat := h.clearHeartbeat_intervals
  pending := by
    intro timer hmem
    have hnone : timer ∈ device.clearTimers.timeouts := hmem
    rw [h.clearTimers_timeouts] at hnone
    exact absurd hnone List.not_mem_nil
  closed := by
    intro socket hlt
    rcases h.closed socket hlt with hcurrent | hcalled | hdelivered
    · refine .inr (.inl (List.mem_append_left _ ?_))
      rw [Option.mem_toList]
      exact hcurrent
    · exact .inr (.inl (List.mem_append_right _ hcalled))
    · exact .inr (.inr hdelivered)
  running := by
    intro hrun
    cases hrun
  stopped := fun _ => ⟨rfl, rfl, h.clearTimers_timeouts⟩

/-- A running device with no socket and no timer gets a socket. -/
theorem Sound.attach_owned (h : device.Sound) (hrun : device.shouldRun = true)
    (hsocket : device.webSocket = none) (htimeouts : device.timeouts = []) :
    device.attach.Owned where
  current := by
    intro socket hcurrent
    obtain rfl : device.sockets = socket := Option.some.inj hcurrent
    exact ⟨Nat.lt_succ_self _, fun hmem => absurd (h.delivered _ hmem) (Nat.lt_irrefl _)⟩
  delivered := fun socket hmem => Nat.lt_succ_of_lt (h.delivered socket hmem)
  heartbeat := h.heartbeat
  pending := h.pending
  closed := by
    intro socket hlt
    rcases Nat.lt_succ_iff_lt_or_eq.mp hlt with hold | rfl
    · have hclosed := h.closed socket hold
      rw [hsocket] at hclosed
      exact .inr (hclosed.resolve_left (by simp))
    · exact .inl rfl
  running := by
    intro _
    simp [attach, htimeouts]
  stopped := by
    intro hstop
    exact absurd (hrun.symm.trans hstop) (by decide)

/-- A running device with no socket and no timer gets a timer. -/
theorem Sound.reconnect_owned (h : device.Sound) (hrun : device.shouldRun = true)
    (hsocket : device.webSocket = none) (htimeouts : device.timeouts = []) :
    { device with
      reconnectTimer := some device.nextTimer
      timeouts := device.nextTimer :: device.timeouts
      nextTimer := device.nextTimer + 1 }.Owned where
  current := h.current
  delivered := h.delivered
  heartbeat := h.heartbeat
  pending := by
    intro timer hmem
    rw [htimeouts, List.mem_singleton] at hmem
    rw [hmem]
  closed := h.closed
  running := by
    intro _
    simp [hsocket, htimeouts]
  stopped := by
    intro hstop
    exact absurd (hrun.symm.trans hstop) (by decide)

/-- A running device gets a new heartbeat. -/
theorem Owned.startHeartbeat (h : device.Owned) (hrun : device.shouldRun = true) :
    device.startHeartbeat.Owned where
  current := h.current
  delivered := h.delivered
  heartbeat := by
    show device.nextTimer :: device.clearHeartbeat.intervals = _
    rw [h.clearHeartbeat_intervals]
    rfl
  pending := h.pending
  closed := h.closed
  running := h.running
  stopped := by
    intro hstop
    exact absurd (hrun.symm.trans hstop) (by decide)

theorem Owned.closeSocket (h : device.Owned) : device.closeSocket.Owned where
  current := h.current
  delivered := h.delivered
  heartbeat := h.heartbeat
  pending := h.pending
  closed := by
    intro socket hlt
    rcases h.closed socket hlt with hcurrent | hcalled | hdelivered
    · exact .inl hcurrent
    · exact .inr (.inl (List.mem_append_right _ hcalled))
    · exact .inr (.inr hdelivered)
  running := h.running
  stopped := h.stopped

end Device

/-! ## Callbacks -/

/-- A callback that does not stop a running device does nothing. -/
theorem Calls.run_of_running {calls : Calls} {device : Device} (h : calls.stops = false)
    (hrun : device.shouldRun = true) : calls.run device = ⟨device, true⟩ := by
  induction calls with
  | done => rfl
  | start onStateChange opens caught rest _ ih =>
      have hstart : device.start onStateChange.run opens = ⟨device, true⟩ := if_pos hrun
      rw [Calls.run, hstart]
      exact ih h
  | stop onStateChange rest => cases h

/-- What opens a connection, if its callback and the factory let it. -/
theorem Device.openConnection_eq {device : Device} {state : ConnectionState} {calls : Calls}
    (hrun : device.shouldRun = true) (hcalls : calls.stops = false) :
    device.openConnection state calls.run true =
      ⟨{ device with connectionState := state }.attach, true⟩ := by
  have hcallback : calls.run { device with connectionState := state } =
      ⟨{ device with connectionState := state }, true⟩ := Calls.run_of_running hcalls hrun
  rw [openConnection, setState, hcallback]
  rfl

/-- `start` on a stopped device. -/
theorem Device.Owned.start {device : Device} {calls : Calls} (h : device.Owned)
    (hstopped : device.shouldRun = false) (hcalls : calls.stops = false) :
    ∃ device', device.start calls.run true = ⟨device', true⟩ ∧ device'.Owned ∧
      device'.shouldRun = true := by
  rcases h.stopped hstopped with ⟨hsocket, -, htimeouts⟩
  have hsound : { device with
      shouldRun := true, reconnectAttempt := 0, connectionState := .connecting }.Sound :=
    ⟨h.current, h.delivered, h.heartbeat, h.pending, h.closed⟩
  refine ⟨_, ?_, hsound.attach_owned rfl hsocket htimeouts, rfl⟩
  rw [Device.start, if_neg (by simp [hstopped]), Device.openConnection_eq rfl hcalls]

/-- A callback leaves the device in order, and running or not as its calls say. -/
theorem Calls.run_owned {calls : Calls} {device : Device} (h : device.Owned)
    (hcalls : calls.Undisturbed device.shouldRun) :
    ∃ device', calls.run device = ⟨device', true⟩ ∧ device'.Owned ∧
      device'.shouldRun = calls.leaves device.shouldRun := by
  induction calls generalizing device with
  | done => exact ⟨device, rfl, h, rfl⟩
  | start onStateChange opens caught rest _ ih =>
      rcases hcalls with ⟨hopens, hrest⟩
      have hstart : ∃ device', device.start onStateChange.run opens = ⟨device', true⟩ ∧
          device'.Owned ∧ device'.shouldRun = true := by
        cases hrun : device.shouldRun with
        | true => exact ⟨device, if_pos hrun, h, hrun⟩
        | false =>
            rcases hopens hrun with ⟨rfl, hquiet⟩
            exact h.start hrun hquiet
      rcases hstart with ⟨device', heq, howned, hrun⟩
      rcases ih howned (by rw [hrun]; exact hrest) with ⟨last, hlast, hlastOwned, hleaves⟩
      refine ⟨last, ?_, hlastOwned, by rw [hleaves, hrun]; rfl⟩
      rw [Calls.run, heq]
      exact hlast
  | stop onStateChange rest ihcallback ihrest =>
      rcases hcalls with ⟨hcallback, hrest⟩
      rcases ihcallback h.stop hcallback with ⟨device', heq, howned, hrun⟩
      rcases ihrest howned (by rw [hrun]; exact hrest) with ⟨last, hlast, hlastOwned, hleaves⟩
      refine ⟨last, ?_, hlastOwned, by rw [hleaves, hrun]; rfl⟩
      rw [Calls.run, Device.stop, Device.setState, heq]
      exact hlast

/-! ## Events -/

namespace Device

variable {device : Device}

/-- The device while a close event of its socket is handled. -/
theorem Owned.closing {socket : Nat} (h : device.Owned)
    (hcurrent : device.webSocket = some socket) (running : Bool) (attempt : Nat)
    (state : ConnectionState) :
    { (device.deliverClose socket).clearHeartbeat with
      webSocket := none, shouldRun := running, reconnectAttempt := attempt,
      connectionState := state }.Sound where
  current := by
    intro other hother
    cases hother
  delivered := by
    intro other hmem
    rcases List.mem_cons.mp hmem with rfl | hold
    · exact (h.current other hcurrent).1
    · exact h.delivered other hold
  heartbeat := h.clearHeartbeat_intervals
  pending := h.pending
  closed := by
    intro other hlt
    rcases h.closed other hlt with hother | hcalled | hdelivered
    · obtain rfl : socket = other := Option.some.inj (hcurrent.symm.trans hother)
      exact .inr (.inr List.mem_cons_self)
    · exact .inr (.inl hcalled)
    · exact .inr (.inr (List.mem_cons_of_mem _ hdelivered))

/-- A connected device runs, and no reconnect is pending. -/
theorem Owned.of_connected {socket : Nat} (h : device.Owned)
    (hcurrent : device.webSocket = some socket) :
    device.shouldRun = true ∧ device.timeouts = [] := by
  have hrun : device.shouldRun = true := by
    by_contra hstop
    have hnone := (h.stopped (Bool.eq_false_iff.mpr hstop)).1
    rw [hcurrent] at hnone
    cases hnone
  have hone := h.running hrun
  rw [hcurrent, Option.toList_some, List.length_singleton] at hone
  exact ⟨hrun, List.length_eq_zero_iff.mp (by omega)⟩

/-- A close event of a socket that has been replaced. -/
theorem Owned.deliverClose {socket : Nat} (h : device.Owned) (hlt : socket < device.sockets)
    (hold : device.webSocket ≠ some socket) : (device.deliverClose socket).Owned where
  current := by
    intro other hother
    rcases h.current other hother with ⟨hsockets, hmem⟩
    refine ⟨hsockets, fun hcons => ?_⟩
    rcases List.mem_cons.mp hcons with rfl | hrest
    · exact hold hother
    · exact hmem hrest
  delivered := by
    intro other hmem
    rcases List.mem_cons.mp hmem with rfl | hrest
    · exact hlt
    · exact h.delivered other hrest
  heartbeat := h.heartbeat
  pending := h.pending
  closed := by
    intro other hother
    rcases h.closed other hother with hcurrent | hcalled | hdelivered
    · exact .inl hcurrent
    · exact .inr (.inl hcalled)
    · exact .inr (.inr (List.mem_cons_of_mem _ hdelivered))
  running := h.running
  stopped := h.stopped

/-- The reconnect timer fires: the device is about to open a connection. -/
theorem Owned.fire {timer : Nat} (h : device.Owned) (hmem : timer ∈ device.timeouts) :
    device.shouldRun = true ∧ device.webSocket = none ∧ (device.fire timer).timeouts = [] ∧
      (device.fire timer).Sound := by
  have hrun : device.shouldRun = true := by
    by_contra hstop
    have hnone := (h.stopped (Bool.eq_false_iff.mpr hstop)).2.2
    rw [hnone] at hmem
    exact absurd hmem List.not_mem_nil
  have hone := h.running hrun
  have hlength : 0 < device.timeouts.length := List.length_pos_of_mem hmem
  have hsocket : device.webSocket = none := by
    rw [← Option.toList_eq_nil_iff, ← List.length_eq_zero_iff]
    omega
  refine ⟨hrun, hsocket, ?_, h.current, h.delivered, h.heartbeat, ?_, h.closed⟩
  · rw [Device.fire, List.filter_eq_nil_iff]
    intro other hother
    have hsame := (h.pending timer hmem).symm.trans (h.pending other hother)
    simpa using (Option.some.inj hsame).symm
  · exact fun other hother => h.pending other (List.mem_of_mem_filter hother)

/-- A close event of the current socket. -/
theorem Owned.handleClose {socket code : Nat} {onStateChange onError : Calls}
    (h : device.Owned) (hcurrent : device.webSocket = some socket)
    (hevent : (Event.close socket code onStateChange onError).Undisturbed device) :
    ∃ device', (device.deliverClose socket).handleClose socket code onStateChange.run
      onError.run = ⟨device', true⟩ ∧ device'.Owned := by
  rcases h.of_connected hcurrent with ⟨hrun, htimeouts⟩
  have hcurrent' : (device.deliverClose socket).webSocket = some socket := hcurrent
  have hrun' : ({ device.deliverClose socket with webSocket := none }.clearHeartbeat).shouldRun =
      true := hrun
  have hcallbacks := hevent hcurrent
  rw [Device.handleClose, if_neg (by simp [hcurrent'])]
  simp only [hrun', Bool.true_eq_false, if_false]
  split at hcallbacks
  · -- the device stops, and the callbacks run on a stopped device
    rename_i hcode
    rcases hcallbacks with ⟨hfirst, hsecond⟩
    have hstopped : { { { device.deliverClose socket with webSocket := none }.clearHeartbeat with
        shouldRun := false } with connectionState := .stopped }.Owned :=
      { h.closing hcurrent false device.reconnectAttempt .stopped with
        running := fun hfalse => by cases hfalse
        stopped := fun _ => ⟨rfl, rfl, htimeouts⟩ }
    rcases Calls.run_owned hstopped hfirst with ⟨device', heq, howned, hleaves⟩
    rcases Calls.run_owned howned (by rw [hleaves]; exact hsecond) with ⟨last, hlast, hend, -⟩
    refine ⟨last, ?_, hend⟩
    rw [if_pos hcode, setState, heq]
    exact hlast
  · -- the device waits for its reconnect timer
    rename_i hcode
    have hwaiting := (h.closing hcurrent device.shouldRun (device.reconnectAttempt + 1)
      .reconnecting).reconnect_owned hrun rfl htimeouts
    let waiting : Device :=
      { { { device.deliverClose socket with webSocket := none }.clearHeartbeat with
        reconnectAttempt := device.reconnectAttempt + 1 } with connectionState := .reconnecting }
    have hcallback : onStateChange.run waiting = ⟨waiting, true⟩ :=
      Calls.run_of_running hcallbacks hrun
    refine ⟨_, ?_, hwaiting⟩
    rw [if_neg hcode, scheduleReconnect, setState]
    exact congrArg (fun outcome => Outcome.andThen outcome _) hcallback

/-- An event keeps the invariant. -/
theorem Owned.handle {event : Event} {outcome : Outcome} (h : device.Owned)
    (hevent : event.Undisturbed device) (hhandle : device.handle event = some outcome) :
    outcome.device.Owned := by
  cases event with
  | start onStateChange opens =>
      obtain rfl := Option.some.inj hhandle
      cases hrun : device.shouldRun with
      | true =>
          rw [Device.start, if_pos hrun]
          exact h
      | false =>
          rcases hevent hrun with ⟨rfl, hquiet⟩
          rcases h.start hrun hquiet with ⟨device', heq, howned, -⟩
          rw [heq]
          exact howned
  | stop onStateChange =>
      obtain rfl := Option.some.inj hhandle
      rcases Calls.run_owned h.stop hevent with ⟨device', heq, howned, -⟩
      rw [Device.stop, setState, heq]
      exact howned
  | welcome socket sameClient callback =>
      rw [Device.handle] at hhandle
      split at hhandle
      · rename_i hcurrent
        obtain rfl := Option.some.inj hhandle
        rcases hevent hcurrent with ⟨hcallback, hleaves⟩
        cases sameClient with
        | true =>
            have honline : { { device with reconnectAttempt := 0 } with
                connectionState := .online }.Owned :=
              ⟨⟨h.current, h.delivered, h.heartbeat, h.pending, h.closed⟩, h.running, h.stopped⟩
            rcases Calls.run_owned honline hcallback with ⟨device', heq, howned, hrun⟩
            rw [handleWelcome, if_pos rfl, setState, heq]
            exact howned.startHeartbeat (hrun.trans (hleaves rfl))
        | false =>
            rcases Calls.run_owned h hcallback with ⟨device', heq, howned, -⟩
            rw [handleWelcome, if_neg (by simp), heq]
            exact howned.closeSocket
      · split at hhandle
        · obtain rfl := Option.some.inj hhandle
          exact h
        · cases hhandle
  | reportError onError =>
      obtain rfl := Option.some.inj hhandle
      rcases Calls.run_owned h hevent with ⟨device', heq, howned, -⟩
      rw [heq]
      exact howned
  | heartbeat timer writable onError =>
      rw [Device.handle] at hhandle
      split at hhandle
      · cases writable with
        | true =>
            obtain rfl := Option.some.inj hhandle
            exact h
        | false =>
            obtain rfl := Option.some.inj hhandle
            rcases Calls.run_owned h (hevent rfl) with ⟨device', heq, howned, -⟩
            rw [heq]
            exact howned
      · cases hhandle
  | close socket code onStateChange onError =>
      rw [Device.handle] at hhandle
      split at hhandle
      · rename_i hlt
        obtain rfl := Option.some.inj hhandle
        by_cases hcurrent : device.webSocket = some socket
        · rcases h.handleClose hcurrent hevent with ⟨device', heq, howned⟩
          rw [heq]
          exact howned
        · have hold : (device.deliverClose socket).webSocket ≠ some socket := hcurrent
          rw [Device.handleClose, if_pos hold]
          exact h.deliverClose hlt hcurrent
      · cases hhandle
  | reconnect timer onStateChange opens =>
      rw [Device.handle] at hhandle
      split at hhandle
      · rename_i hmem
        obtain rfl := Option.some.inj hhandle
        rcases hevent with ⟨rfl, hquiet⟩
        rcases h.fire hmem with ⟨hrun, hsocket, htimeouts, hsound⟩
        have hopening : { device.fire timer with connectionState := .reconnecting }.Sound :=
          ⟨hsound.current, hsound.delivered, hsound.heartbeat, hsound.pending, hsound.closed⟩
        have hrunning : (device.fire timer).shouldRun = true := hrun
        rw [openConnection_eq hrunning hquiet]
        exact hopening.attach_owned hrun hsocket htimeouts
      · cases hhandle

end Device

/-! ## A stopped device -/

/-- Without `start`, a stopped device stays stopped, and nothing can go wrong. -/
theorem Calls.leaves_of_neverStarts {calls : Calls} (h : calls.NeverStarts) :
    calls.Undisturbed false ∧ calls.leaves false = false := by
  induction calls with
  | done => exact ⟨trivial, rfl⟩
  | start onStateChange opens caught rest => cases h
  | stop onStateChange rest ihcallback ihrest =>
      rcases ihcallback h.1 with ⟨hcallback, hleaves⟩
      rcases ihrest h.2 with ⟨hrest, hlast⟩
      refine ⟨⟨hcallback, ?_⟩, ?_⟩
      · rw [hleaves]
        exact hrest
      · rw [leaves, hleaves, hlast]

theorem Calls.run_sockets {calls : Calls} (h : calls.NeverStarts) (device : Device) :
    (calls.run device).device.sockets = device.sockets := by
  induction calls generalizing device with
  | done => rfl
  | start onStateChange opens caught rest => cases h
  | stop onStateChange rest ihcallback ihrest =>
      rw [Calls.run, Outcome.andThen]
      have hstop : (device.stop onStateChange.run).device.sockets = device.sockets :=
        ihcallback h.1 _
      split
      · rw [ihrest h.2, hstop]
      · exact hstop

namespace Device

variable {device : Device}

/-- A stopped device in order, with so many sockets created. -/
def Resting (created : Nat) (device : Device) : Prop :=
  device.Owned ∧ device.shouldRun = false ∧ device.sockets = created

/-- Callbacks that never call `start` leave a stopped device at rest. -/
theorem Resting.run {created : Nat} {calls : Calls} (h : device.Resting created)
    (hcalls : calls.NeverStarts) : (calls.run device).device.Resting created := by
  rcases h with ⟨howned, hstopped, hsockets⟩
  rcases Calls.leaves_of_neverStarts hcalls with ⟨hundisturbed, hleaves⟩
  rcases Calls.run_owned howned (by rw [hstopped]; exact hundisturbed) with
    ⟨device', heq, howned', hrun⟩
  have hcount := Calls.run_sockets hcalls device
  rw [heq] at hcount ⊢
  exact ⟨howned', by rw [hrun, hstopped, hleaves], hcount.trans hsockets⟩

/-- An event without `start` opens nothing on a stopped device. -/
theorem Resting.handle {created : Nat} {event : Event} {outcome : Outcome}
    (h : device.Resting created) (hevent : event.NeverStarts)
    (hhandle : device.handle event = some outcome) : outcome.device.Resting created := by
  have hnone : device.webSocket = none := (h.1.stopped h.2.1).1
  have htimeouts : device.timeouts = [] := (h.1.stopped h.2.1).2.2
  cases event with
  | start onStateChange opens => cases hevent
  | stop onStateChange =>
      obtain rfl := Option.some.inj hhandle
      have hstop : { { device with shouldRun := false }.clearTimers.closeSocket with
          webSocket := none, connectionState := .stopped }.Resting created :=
        ⟨h.1.stop, rfl, h.2.2⟩
      exact hstop.run hevent
  | welcome socket sameClient callback =>
      rw [Device.handle, hnone, if_neg (by simp)] at hhandle
      split at hhandle
      · obtain rfl := Option.some.inj hhandle
        exact h
      · cases hhandle
  | reportError onError =>
      obtain rfl := Option.some.inj hhandle
      exact h.run hevent
  | heartbeat timer writable onError =>
      rw [Device.handle] at hhandle
      split at hhandle
      · cases writable with
        | true =>
            obtain rfl := Option.some.inj hhandle
            exact h
        | false =>
            obtain rfl := Option.some.inj hhandle
            exact h.run hevent
      · cases hhandle
  | close socket code onStateChange onError =>
      rw [Device.handle] at hhandle
      split at hhandle
      · rename_i hlt
        obtain rfl := Option.some.inj hhandle
        have hold : (device.deliverClose socket).webSocket ≠ some socket := by
          show device.webSocket ≠ some socket
          simp [hnone]
        rw [handleClose, if_pos hold]
        exact ⟨h.1.deliverClose hlt hold, h.2⟩
      · cases hhandle
  | reconnect timer onStateChange opens =>
      rw [Device.handle, htimeouts, if_neg List.not_mem_nil] at hhandle
      cases hhandle

end Device

/-! ## Runs -/

theorem owned_of_run {events : List Event} {device : Device}
    (hrun : machine.run idle events = some device)
    (hundisturbed : machine.Meets (fun device event => event.Undisturbed device) idle events) :
    device.Owned := by
  refine hundisturbed.invariant (I := Device.Owned) ?_ Device.idle_owned hrun
  intro before event after howned hevent hstep
  simp only [machine, Option.map_eq_some_iff] at hstep
  rcases hstep with ⟨outcome, hhandle, rfl⟩
  exact howned.handle hevent hhandle

/-- Along every run of undisturbed events the device has what it should have; and a device
that is stopped opens no connection until `start` is called. -/
theorem lifecycle_kept {events : List Event} {device : Device}
    (hrun : machine.run idle events = some device)
    (hundisturbed : machine.Meets (fun device event => event.Undisturbed device) idle events) :
    device.Lifecycle ∧ ∀ (later : List Event) (last : Device), device.shouldRun = false →
      (∀ event ∈ later, event.NeverStarts) → machine.run device later = some last →
        last.sockets = device.sockets ∧ last.shouldRun = false := by
  have howned := owned_of_run hrun hundisturbed
  refine ⟨howned.lifecycle, fun later last hstopped hlater hlast => ?_⟩
  have hmeets : machine.Meets (fun _ event => event.NeverStarts) device later :=
    Machine.meets_of_forall_mem fun event hmem _ => hlater event hmem
  have hresting : last.Resting device.sockets := by
    refine hmeets.invariant ?_ ⟨howned, hstopped, rfl⟩ hlast
    intro before event after hbefore hevent hstep
    simp only [machine, Option.map_eq_some_iff] at hstep
    rcases hstep with ⟨outcome, hhandle, rfl⟩
    exact hbefore.handle hevent hhandle
  exact ⟨hresting.2.2, hresting.2.1⟩

/-- A device that is connected, loses its connection, reconnects and is refused. -/
def refusedRun : List Event :=
  [.start .done true, .welcome 0 true .done, .close 0 1006 .done .done, .reconnect 2 .done true,
    .close 1 4001 .done .done]

/-- The device at its end. -/
def refused : Device :=
  { idle with
    connectionState := .stopped, reconnectTimer := some 2, reconnectAttempt := 1, sockets := 2
    closeDelivered := [1, 0], nextTimer := 3 }

theorem lifecycle_kept_refused :
    refused.Lifecycle ∧ ∀ (later : List Event) (last : Device), refused.shouldRun = false →
      (∀ event ∈ later, event.NeverStarts) → machine.run refused later = some last →
        last.sockets = refused.sockets ∧ last.shouldRun = false :=
  lifecycle_kept (show machine.run idle refusedRun = some refused by decide) (by decide)

/-- A device that is stopped while it is told that it connects owns a socket nevertheless. -/
theorem stopped_while_connecting :
    ¬ ∀ (events : List Event) (device : Device), machine.run idle events = some device →
      device.Lifecycle := by
  intro h
  have hlifecycle := h [.start (.stop .done .done) true] _ rfl
  have hsocket := (hlifecycle.stopped rfl).1
  cases hsocket

end JavaScriptDevice
end R2RPC
