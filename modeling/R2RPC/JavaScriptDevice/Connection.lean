import R2RPC.Library.Machine
import R2RPC.Basic

/-!
# The connection of the JavaScript device

{lit}`start`, {lit}`stop`, the handlers of the socket and the two timers of {lit}`device.ts`,
with the callbacks that run in the middle of them.

Main results:

- Definition {lit}`Calls`: what one invocation of a callback calls, and what the callbacks do
  that those calls invoke in turn.
- Definition {lit}`machine`: the device under events of the host, in any order.

Current gaps:

- The delay of a reconnect is not modeled, nor what a job sends.
-/

namespace R2RPC
namespace JavaScriptDevice

open Interleaving

/-- {lit}`DeviceConnectionState`. -/
inductive ConnectionState where
  | idle
  | connecting
  | online
  | reconnecting
  | stopped
deriving DecidableEq, Repr

/-- The fields of {lit}`R2RpcDevice`, and what its host holds: the sockets by their number,
the timers that are not cleared. -/
structure Device where
  connectionState : ConnectionState
  webSocket : Option Nat
  heartbeatTimer : Option Nat
  reconnectTimer : Option Nat
  reconnectAttempt : Nat
  shouldRun : Bool
  sockets : Nat
  closeCalled : List Nat
  closeDelivered : List Nat
  intervals : List Nat
  timeouts : List Nat
  nextTimer : Nat
deriving DecidableEq, Repr

/-- A device as its constructor leaves it. -/
def idle : Device where
  connectionState := .idle
  webSocket := none
  heartbeatTimer := none
  reconnectTimer := none
  reconnectAttempt := 0
  shouldRun := false
  sockets := 0
  closeCalled := []
  closeDelivered := []
  intervals := []
  timeouts := []
  nextTimer := 1

/-- A device after some code, and whether the code has returned or thrown. -/
structure Outcome where
  device : Device
  returned : Bool
deriving DecidableEq, Repr

/-- What follows is skipped after a throw. -/
def Outcome.andThen (outcome : Outcome) (next : Device → Outcome) : Outcome :=
  if outcome.returned then next outcome.device else outcome

/-- What one invocation of `onStateChange` or `onError` calls, in order, with what
`onStateChange` does in each call. A `start` says whether the factory makes a socket, and
whether the callback catches what is thrown. -/
inductive Calls where
  | done
  | start (onStateChange : Calls) (opens caught : Bool) (rest : Calls)
  | stop (onStateChange : Calls) (rest : Calls)
deriving DecidableEq, Repr

namespace Device

variable (device : Device)

/-- `setState`. -/
def setState (state : ConnectionState) (onStateChange : Device → Outcome) : Outcome :=
  onStateChange { device with connectionState := state }

/-- A new socket becomes the current one. -/
def attach : Device :=
  { device with webSocket := some device.sockets, sockets := device.sockets + 1 }

/-- `openConnection`; the address or the factory may throw. -/
def openConnection (state : ConnectionState) (onStateChange : Device → Outcome)
    (opens : Bool) : Outcome :=
  (device.setState state onStateChange).andThen fun device =>
    if opens then ⟨device.attach, true⟩ else ⟨device, false⟩

/-- `start`. -/
def start (onStateChange : Device → Outcome) (opens : Bool) : Outcome :=
  if device.shouldRun then ⟨device, true⟩
  else { device with shouldRun := true, reconnectAttempt := 0 }.openConnection .connecting
    onStateChange opens

/-- The heartbeat timer is cleared if there is one. -/
def clearHeartbeat : Device :=
  { device with
    heartbeatTimer := none
    intervals := device.intervals.filter fun timer => some timer ≠ device.heartbeatTimer }

/-- `clearTimers`. -/
def clearTimers : Device :=
  { device.clearHeartbeat with
    reconnectTimer := none
    timeouts := device.timeouts.filter fun timer => some timer ≠ device.reconnectTimer }

/-- `this.webSocket?.close(...)`. -/
def closeSocket : Device :=
  { device with closeCalled := device.webSocket.toList ++ device.closeCalled }

/-- `stop`. -/
def stop (onStateChange : Device → Outcome) : Outcome :=
  { { device with shouldRun := false }.clearTimers.closeSocket with webSocket := none }.setState
    .stopped onStateChange

/-- `startHeartbeat`. -/
def startHeartbeat : Device :=
  { device.clearHeartbeat with
    heartbeatTimer := some device.nextTimer
    intervals := device.nextTimer :: device.clearHeartbeat.intervals
    nextTimer := device.nextTimer + 1 }

/-- `handleWelcome`; the callback is `onStateChange` or `onError`. -/
def handleWelcome (sameClient : Bool) (callback : Device → Outcome) : Outcome :=
  if sameClient then
    ({ device with reconnectAttempt := 0 }.setState .online callback).andThen fun device =>
      ⟨device.startHeartbeat, true⟩
  else (callback device).andThen fun device => ⟨device.closeSocket, true⟩

/-- `scheduleReconnect`. -/
def scheduleReconnect (onStateChange : Device → Outcome) : Outcome :=
  ({ device with reconnectAttempt := device.reconnectAttempt + 1 }.setState .reconnecting
    onStateChange).andThen fun device =>
      ⟨{ device with
          reconnectTimer := some device.nextTimer
          timeouts := device.nextTimer :: device.timeouts
          nextTimer := device.nextTimer + 1 }, true⟩

/-- `handleClose`, on a close event that the host delivers. -/
def handleClose (socket code : Nat) (onStateChange onError : Device → Outcome) : Outcome :=
  if device.webSocket ≠ some socket then ⟨device, true⟩
  else
    let device := { device with webSocket := none }.clearHeartbeat
    if device.shouldRun = false then device.setState .stopped onStateChange
    else if code = 4001 then
      ({ device with shouldRun := false }.setState .stopped onStateChange).andThen onError
    else device.scheduleReconnect onStateChange

end Device

/-- A callback runs its calls one after the other. -/
def Calls.run : Calls → Device → Outcome
  | .done, device => ⟨device, true⟩
  | .start onStateChange opens caught rest, device =>
      let outcome := device.start onStateChange.run opens
      if outcome.returned || caught then rest.run outcome.device else outcome
  | .stop onStateChange rest, device => (device.stop onStateChange.run).andThen rest.run

/-- What the host hands to the device. A socket's messages other than {lit}`welcome` do not
reach the connection; whatever may call `onError` alone is one event. -/
inductive Event where
  | start (onStateChange : Calls) (opens : Bool)
  | stop (onStateChange : Calls)
  | welcome (socket : Nat) (sameClient : Bool) (callback : Calls)
  | reportError (onError : Calls)
  | heartbeat (timer : Nat) (writable : Bool) (onError : Calls)
  | close (socket code : Nat) (onStateChange onError : Calls)
  | reconnect (timer : Nat) (onStateChange : Calls) (opens : Bool)
deriving DecidableEq, Repr

/-- A close event that is being delivered. -/
def Device.deliverClose (device : Device) (socket : Nat) : Device :=
  { device with closeDelivered := socket :: device.closeDelivered }

/-- A timeout that has fired. -/
def Device.fire (device : Device) (timer : Nat) : Device :=
  { device with timeouts := device.timeouts.filter (· ≠ timer) }

/-- One event, if the host can hand it out. -/
def Device.handle (device : Device) : Event → Option Outcome
  | .start onStateChange opens => some (device.start onStateChange.run opens)
  | .stop onStateChange => some (device.stop onStateChange.run)
  | .welcome socket sameClient callback =>
      if device.webSocket = some socket then some (device.handleWelcome sameClient callback.run)
      else if socket < device.sockets then some ⟨device, true⟩
      else none
  | .reportError onError => some (onError.run device)
  | .heartbeat timer writable onError =>
      if timer ∈ device.intervals then
        if writable then some ⟨device, true⟩ else some (onError.run device)
      else none
  | .close socket code onStateChange onError =>
      if socket < device.sockets then
        some ((device.deliverClose socket).handleClose socket code onStateChange.run onError.run)
      else none
  | .reconnect timer onStateChange opens =>
      if timer ∈ device.timeouts then
        some ((device.fire timer).openConnection .reconnecting onStateChange.run opens)
      else none

/-- A device under events; what it throws goes to the host. -/
def machine : Machine Device Event where
  initial := fun device => device = idle
  step := fun device event => (device.handle event).map Outcome.device

end JavaScriptDevice
end R2RPC
