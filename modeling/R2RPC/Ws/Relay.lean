import Mathlib.Logic.Function.Basic
import R2RPC.Basic
import R2RPC.Library.Machine

/-!
# The distributed result relay

This module embeds the part of {lit}`ConnectionRegistry` that carries a result
from a device socket to the waiting invocation: the local waiters of every API
instance, the shared keys {lit}`rpc:waiter:<id>` and {lit}`rpc:completed:<id>`,
the {lit}`rpc:result:<instance>` channels of the cluster bus, and the
{lit}`handleResult` calls in progress.  Every awaited command is one action, so
a list of actions is an interleaving of any number of instances, invocations,
frames and deliveries.

Main results:

- Definition {lit}`Relay.resolveLocalWaiter`: the identity check on the
  authenticated sender.
- Definition {lit}`Relay.handleResult`: one awaited command of the result path.
- Definition {lit}`Relay.machine`: the relay as an interleaving machine.

Current gaps:

- A parsed message crosses the bus unchanged: `JSON.stringify` followed by
  `JSON.parse` is taken as the identity on JSON data.
- TTLs are over-approximated: a key may expire at any moment.
-/

namespace R2RPC
namespace Relay

open Interleaving

/-- Identity of one `handleResult` call, and of the frame that started it. -/
abbrev CallId := Nat

/-! ## Frames -/

/-- The `requestId` field of a parsed frame.  A value that is not a string is
rendered by the Redis key template but never equals a key of the waiters map. -/
inductive RequestKey where
  | text (value : String)
  | other (rendered : String)
deriving DecidableEq, Repr

/-- The text that `rpc:waiter:${requestId}` interpolates. -/
def RequestKey.rendered : RequestKey → String
  | .text value => value
  | .other rendered => rendered

@[simp]
theorem RequestKey.rendered_text (value : String) :
    (RequestKey.text value).rendered = value := rfl

/-- A parsed `result` frame.  The sender writes every field, `clientId` included. -/
structure ResultMessage (Payload : Type) where
  requestId : Option RequestKey
  clientId : Option String
  payload : Payload
deriving DecidableEq, Repr

/-- `message.requestId ?? ''`. -/
def ResultMessage.requestKey {Payload : Type} (message : ResultMessage Payload) : RequestKey :=
  message.requestId.getD (.text "")

/-! ## State -/

/-- A socket whose handshake has been authenticated. -/
structure DeviceSocket where
  instanceId : InstanceId
  clientId : ClientId
deriving DecidableEq, Repr

/-- An entry of the local `waiters` map. -/
structure Waiter where
  clientId : ClientId
deriving DecidableEq, Repr

/-- Progress of `dispatchAndAwaitResult` after `registerWaiter`. -/
inductive DispatchStage where
  | marking
  | dispatching
  | cancelling (reason : String)
  | awaiting
  | failed
deriving DecidableEq, Repr

/-- One invocation; its `requestId` is the key it is stored under. -/
structure Invocation where
  instanceId : InstanceId
  expectedClientId : ClientId
  stage : DispatchStage
deriving DecidableEq, Repr

/-- How the promise returned by `registerWaiter` is settled. -/
inductive Settlement (Payload : Type) where
  | resolved (result : ResultMessage Payload)
  | timedOut
  | cancelled (reason : String)
deriving DecidableEq, Repr

/-- The outcome that `resultAck` reports. -/
inductive Outcome where
  | ok
  | late
  | routed
  | mismatch
deriving DecidableEq, Repr

/-- The await at which a `handleResult` call stands. -/
inductive HandleResultStage where
  | readWaiter
  | claimCompleted (waiterInstance : InstanceId)
  | resolveLocal
  | releaseCompleted
  | publish (waiterInstance : InstanceId)
  | acked (outcome : Outcome)
deriving DecidableEq, Repr

/-- A `handleResult` call: the socket its frame came from and its arguments. -/
structure HandleResultCall (Payload : Type) where
  socket : SocketId
  instanceId : InstanceId
  fromClientId : ClientId
  message : ResultMessage Payload
  stage : HandleResultStage
deriving DecidableEq, Repr

/-- The text under which the call addresses the two Redis keys. -/
def HandleResultCall.key {Payload : Type} (call : HandleResultCall Payload) : String :=
  call.message.requestKey.rendered

/-- A message in flight on `rpc:result:<instance>`. -/
structure BusMessage (Payload : Type) where
  channel : InstanceId
  requestId : RequestKey
  result : ResultMessage Payload
  fromClientId : ClientId
deriving DecidableEq, Repr

/-- Shared keys, local maps and work in progress of the whole cluster.  A call
publishes at most once, so a message in flight is indexed by its call. -/
structure State (Payload : Type) where
  sockets : SocketId → Option DeviceSocket
  invocations : String → Option Invocation
  waiters : InstanceId → String → Option Waiter
  timers : String → Bool
  waiterKey : String → Option InstanceId
  completedKey : String → Bool
  calls : CallId → Option (HandleResultCall Payload)
  bus : CallId → Option (BusMessage Payload)
  subscriberDeletes : CallId → Option String
  settled : String → List (Settlement Payload)

/-- Nothing is connected, registered or in flight. -/
def State.empty (Payload : Type) : State Payload where
  sockets _ := none
  invocations _ := none
  waiters _ _ := none
  timers _ := false
  waiterKey _ := none
  completedKey _ := false
  calls _ := none
  bus _ := none
  subscriberDeletes _ := none
  settled _ := []

variable {Payload : Type}

namespace State

/-! ## Local waiters -/

/-- `waiters.set` on one instance. -/
def setWaiter (s : State Payload) (instanceId : InstanceId) (requestId : String)
    (waiter : Waiter) : State Payload :=
  { s with
    waiters := Function.update s.waiters instanceId
      (Function.update (s.waiters instanceId) requestId (some waiter))
    timers := Function.update s.timers requestId true }

/-- `clearTimeout`, `waiters.delete` and the call of `resolve` or `reject`. -/
def settle (s : State Payload) (instanceId : InstanceId) (requestId : String)
    (settlement : Settlement Payload) : State Payload :=
  { s with
    waiters := Function.update s.waiters instanceId
      (Function.update (s.waiters instanceId) requestId none)
    timers := Function.update s.timers requestId false
    settled := Function.update s.settled requestId (s.settled requestId ++ [settlement]) }

/-- Settle the waiter whose authenticated owner sent the result.  `none` is the
`false` of the source: no waiter under this key, or another sender. -/
def resolveLocalWaiter (s : State Payload) (instanceId : InstanceId)
    (requestId : RequestKey) (result : ResultMessage Payload) (fromClientId : ClientId) :
    Option (State Payload) :=
  match requestId with
  | .other _ => none
  | .text value =>
      match s.waiters instanceId value with
      | none => none
      | some waiter =>
          -- the truthiness test on the stored id comes first, as in the source
          if waiter.clientId ≠ "" ∧ fromClientId ≠ waiter.clientId then none
          else some (s.settle instanceId value (.resolved result))

/-- An accepted result settles a local waiter whose owner sent it. -/
theorem resolveLocalWaiter_eq_some {s t : State Payload} {instanceId : InstanceId}
    {requestId : RequestKey} {result : ResultMessage Payload} {fromClientId : ClientId}
    (h : s.resolveLocalWaiter instanceId requestId result fromClientId = some t) :
    ∃ value waiter, requestId = .text value ∧ s.waiters instanceId value = some waiter ∧
      (waiter.clientId ≠ "" → fromClientId = waiter.clientId) ∧
      t = s.settle instanceId value (.resolved result) := by
  unfold resolveLocalWaiter at h
  cases requestId with
  | other rendered => contradiction
  | text value =>
      cases hw : s.waiters instanceId value with
      | none => simp [hw] at h
      | some waiter =>
          simp only [hw] at h
          split at h
          · contradiction
          · rename_i hcheck
            refine ⟨value, waiter, rfl, hw, ?_, (Option.some.inj h).symm⟩
            intro hnamed
            by_contra hne
            exact hcheck ⟨hnamed, hne⟩

/-- Reject the waiter, if it is still there. -/
def cancelWaiter (s : State Payload) (instanceId : InstanceId) (requestId : String)
    (reason : String) : State Payload :=
  match s.waiters instanceId requestId with
  | none => s
  | some _ => s.settle instanceId requestId (.cancelled reason)

/-! ## Work in progress -/

/-- Move an invocation to another stage. -/
def setInvocation (s : State Payload) (requestId : String) (invocation : Invocation) :
    State Payload :=
  { s with invocations := Function.update s.invocations requestId (some invocation) }

/-- Move a `handleResult` call to another stage. -/
def setCall (s : State Payload) (id : CallId) (call : HandleResultCall Payload) :
    State Payload :=
  { s with calls := Function.update s.calls id (some call) }

/-- `SET rpc:waiter:<id> <instance> PX ...`. -/
def setWaiterKey (requestId : String) (instanceId : InstanceId) (s : State Payload) :
    State Payload :=
  { s with waiterKey := Function.update s.waiterKey requestId (some instanceId) }

/-- `SET rpc:completed:<id> 1 EX 60 NX` when the key is absent. -/
def setCompleted (s : State Payload) (key : String) : State Payload :=
  { s with completedKey := Function.update s.completedKey key true }

/-- `DEL rpc:completed:<id>`. -/
def delCompleted (s : State Payload) (key : String) : State Payload :=
  { s with completedKey := Function.update s.completedKey key false }

/-- `PUBLISH rpc:result:<instance>`. -/
def publish (s : State Payload) (id : CallId) (message : BusMessage Payload) :
    State Payload :=
  { s with bus := Function.update s.bus id (some message) }

/-- The device an invocation is bound to: the truthy `clientId` of the request,
or a member of a project set, which only an authenticated socket puts there. -/
inductive DeviceSelection where
  | requested (clientId : String)
  | picked (socket : SocketId)
deriving DecidableEq, Repr

/-- The string that `selectDevice` hands to `registerWaiter`. -/
def selectDevice (s : State Payload) : DeviceSelection → Option ClientId
  | .requested clientId => if clientId = "" then none else some clientId
  | .picked socket => (s.sockets socket).map (·.clientId)

/-- What the await of `dispatchJob` brings back. -/
inductive DispatchOutcome where
  | dispatched
  | unavailable
  | error
deriving DecidableEq, Repr

/-- `WsGateway.authenticate` on the presented client id: an empty one is refused. -/
def connect (s : State Payload) (socket : SocketId) (instanceId : InstanceId)
    (clientId : String) : Option (State Payload) :=
  if clientId = "" ∨ (s.sockets socket).isSome then none
  else some { s with
    sockets := Function.update s.sockets socket (some ⟨instanceId, clientId⟩) }

/-- `invoke` up to `registerWaiter`; `randomUUID` never draws an id twice. -/
def registerWaiter (s : State Payload) (instanceId : InstanceId) (requestId : String)
    (selection : DeviceSelection) : Option (State Payload) :=
  match s.invocations requestId, s.selectDevice selection with
  | none, some expectedClientId =>
      some ((s.setInvocation requestId ⟨instanceId, expectedClientId, .marking⟩).setWaiter
        instanceId requestId ⟨expectedClientId⟩)
  | _, _ => none

/-- `markWaiting`: a rejected await sends the caller to its `catch` branch. -/
def markWaiting (s : State Payload) (requestId : String) (fault : Fault) :
    Option (State Payload) :=
  match s.invocations requestId with
  | some invocation =>
      if invocation.stage = .marking then
        let stage := if fault.throws then .cancelling "dispatch_error" else .dispatching
        some ((fault.apply (setWaiterKey requestId invocation.instanceId) s).setInvocation
          requestId { invocation with stage })
      else none
  | none => none

/-- The branch of `RpcService.dispatchJob` taken on each outcome. -/
def DispatchOutcome.next : DispatchOutcome → DispatchStage
  | .dispatched => .awaiting
  | .unavailable => .cancelling "unavailable"
  | .error => .cancelling "dispatch_error"

/-- `dispatchJob`: the job leaves for the device, or the dispatch fails. -/
def dispatchJob (s : State Payload) (requestId : String) (outcome : DispatchOutcome) :
    Option (State Payload) :=
  match s.invocations requestId with
  | some invocation =>
      if invocation.stage = .dispatching then
        some (s.setInvocation requestId { invocation with stage := outcome.next })
      else none
  | none => none

/-- `cancelWaiter` on the two failure branches of `RpcService.dispatchJob`. -/
def cancelDispatch (s : State Payload) (requestId : String) : Option (State Payload) :=
  match s.invocations requestId with
  | some invocation =>
      match invocation.stage with
      | .cancelling reason =>
          some ((s.cancelWaiter invocation.instanceId requestId reason).setInvocation
            requestId { invocation with stage := .failed })
      | _ => none
  | none => none

/-- The timer of `registerWaiter` fires. -/
def timeout (s : State Payload) (requestId : String) : Option (State Payload) :=
  match s.invocations requestId with
  | some invocation =>
      if s.timers requestId then some (s.settle invocation.instanceId requestId .timedOut)
      else none
  | none => none

/-- `onMessage` starts `handleResult` for a frame of an authenticated socket. -/
def receive (s : State Payload) (id : CallId) (socket : SocketId)
    (message : ResultMessage Payload) : Option (State Payload) :=
  match s.calls id, s.sockets socket with
  | none, some device =>
      some (s.setCall id ⟨socket, device.instanceId, device.clientId, message, .readWaiter⟩)
  | _, _ => none

/-- One awaited command of a `handleResult` call, with its continuation. -/
def handleResult (s : State Payload) (id : CallId) : Option (State Payload) :=
  match s.calls id with
  | none => none
  | some call =>
      match call.stage with
      | .readWaiter =>
          match s.waiterKey call.key with
          | none => some (s.setCall id { call with stage := .acked .late })
          | some waiterInstance =>
              some (s.setCall id { call with stage := .claimCompleted waiterInstance })
      | .claimCompleted waiterInstance =>
          if s.completedKey call.key then
            some (s.setCall id { call with stage := .acked .late })
          else
            let stage := if waiterInstance = call.instanceId then .resolveLocal
              else .publish waiterInstance
            some ((s.setCompleted call.key).setCall id { call with stage })
      | .resolveLocal =>
          match s.resolveLocalWaiter call.instanceId call.message.requestKey call.message
              call.fromClientId with
          | some resolved => some (resolved.setCall id { call with stage := .acked .ok })
          | none => some (s.setCall id { call with stage := .releaseCompleted })
      | .releaseCompleted =>
          some ((s.delCompleted call.key).setCall id { call with stage := .acked .mismatch })
      | .publish waiterInstance =>
          some ((s.publish id
            ⟨waiterInstance, call.message.requestKey, call.message, call.fromClientId⟩).setCall
              id { call with stage := .acked .routed })
      | .acked _ => none

/-- The `rpc:result` subscriber runs `resolveLocalWaiter` on one bus message. -/
def deliver (s : State Payload) (id : CallId) : Option (State Payload) :=
  match s.bus id with
  | none => none
  | some message =>
      let taken := { s with bus := Function.update s.bus id none }
      match taken.resolveLocalWaiter message.channel message.requestId message.result
          message.fromClientId with
      | some resolved => some resolved
      | none =>
          some { taken with
            subscriberDeletes :=
              Function.update taken.subscriberDeletes id (some message.requestId.rendered) }

/-- The `DEL rpc:completed:<id>` of a subscriber that resolved nothing. -/
def subscriberDelete (s : State Payload) (id : CallId) : Option (State Payload) :=
  match s.subscriberDeletes id with
  | none => none
  | some key =>
      some ({ s with
        subscriberDeletes := Function.update s.subscriberDeletes id none }.delCompleted key)

end State

/-! ## The machine -/

/-- One step of the cluster or of its environment. -/
inductive Action (Payload : Type) where
  | connect (socket : SocketId) (instanceId : InstanceId) (clientId : String)
  | registerWaiter (instanceId : InstanceId) (requestId : String)
      (selection : State.DeviceSelection)
  | markWaiting (requestId : String) (fault : Fault)
  | dispatchJob (requestId : String) (outcome : State.DispatchOutcome)
  | cancelDispatch (requestId : String)
  | timeout (requestId : String)
  | receive (id : CallId) (socket : SocketId) (message : ResultMessage Payload)
  | handleResult (id : CallId)
  | deliver (id : CallId)
  | subscriberDelete (id : CallId)
  | expireWaiterKey (requestId : String)
  | expireCompletedKey (key : String)

/-- Dispatch of an action to the function that runs it. -/
def step (s : State Payload) : Action Payload → Option (State Payload)
  | .connect socket instanceId clientId => s.connect socket instanceId clientId
  | .registerWaiter instanceId requestId selection =>
      s.registerWaiter instanceId requestId selection
  | .markWaiting requestId fault => s.markWaiting requestId fault
  | .dispatchJob requestId outcome => s.dispatchJob requestId outcome
  | .cancelDispatch requestId => s.cancelDispatch requestId
  | .timeout requestId => s.timeout requestId
  | .receive id socket message => s.receive id socket message
  | .handleResult id => s.handleResult id
  | .deliver id => s.deliver id
  | .subscriberDelete id => s.subscriberDelete id
  | .expireWaiterKey requestId =>
      some { s with waiterKey := Function.update s.waiterKey requestId none }
  | .expireCompletedKey key => some (s.delCompleted key)

/-- The relay of one cluster. -/
def machine (Payload : Type) : Machine (State Payload) (Action Payload) where
  initial s := s = State.empty Payload
  step := step

end Relay
end R2RPC
