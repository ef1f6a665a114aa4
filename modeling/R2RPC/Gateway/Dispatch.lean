import Mathlib.Data.List.Sort
import R2RPC.Gateway.Store

/-!
# Device selection and in-flight slots

One invocation from the choice of its device to the release of its slot:
{lit}`selectDevice` with {lit}`acquireRequestedDevice` and
{lit}`pickOnlineAcquire`, and the {lit}`releaseSlot` that
{lit}`RpcService.invoke` runs in its {lit}`finally` block.

Main results:

- Definition {lit}`Invocation.command`: the awaited command of an invocation.
- Definition {lit}`Invocation.next`: its continuation, with the {lit}`catch`
  branches of a command that throws.

Current gaps:

- Project lookup, the job and its result do not touch these stores; the wait
  between selection and release is one stage.
-/

namespace R2RPC
namespace Gateway

/-- The await at which an invocation stands.  Lists hold the candidates that have
not been looked at yet and the online ones found so far. -/
inductive InvocationStage where
  | checkRequested (clientId : ClientId)
  | listMembers
  | checkCandidate (clientId : ClientId) (remaining online : List ClientId)
  | dropCandidate (clientId : ClientId) (remaining online : List ClientId)
  | advanceCursor (online : List ClientId)
  | readLimit (clientId : ClientId) (remaining : List ClientId)
  | acquire (clientId : ClientId) (maximumInFlight : Nat) (remaining : List ClientId)
  | dispatching (clientId : ClientId)
  | floor (clientId : ClientId)
  | ended
deriving DecidableEq, Repr

/-- An invocation.  `acquired` and `released` record the slot it has taken on the
server and the `DECR`s it has executed. -/
structure Invocation where
  projectId : ProjectId
  requested : Option ClientId
  stage : InvocationStage
  acquired : Option ClientId
  released : Nat
deriving DecidableEq, Repr

/-! ## The order of candidates -/

/-- UTF-16 code units of a character. -/
def codeUnits (character : Char) : List Nat :=
  if character.toNat < 0x10000 then [character.toNat]
  else
    let offset := character.toNat - 0x10000
    [0xD800 + offset / 0x400, 0xDC00 + offset % 0x400]

/-- The order of `Array.prototype.sort` on strings: by their code units. -/
def sortsBefore (left right : String) : Bool :=
  !(right.toList.flatMap codeUnits).lex (left.toList.flatMap codeUnits) (· < ·)

/-- Candidates in sorted order, from the cursor on. -/
def rotation (online : List ClientId) (cursor : Nat) : List ClientId :=
  (online.insertionSort (sortsBefore · ·)).rotate (cursor % online.length)

namespace Invocation

/-- `selectDevice`: an empty client id is falsy. -/
def start (projectId : ProjectId) (requested : Option ClientId) : Invocation :=
  match requested.filter (· ≠ "") with
  | some clientId => ⟨projectId, some clientId, .checkRequested clientId, none, 0⟩
  | none => ⟨projectId, none, .listMembers, none, 0⟩

/-- The loop of `listOnline`. -/
def nextCandidate (remaining online : List ClientId) : InvocationStage :=
  match remaining, online with
  | clientId :: rest, _ => .checkCandidate clientId rest online
  | [], [] => .ended
  | [], _ :: _ => .advanceCursor online

/-- The loop of `pickOnlineAcquire` over the devices not tried yet. -/
def nextDevice : List ClientId → InvocationStage
  | [] => .ended
  | clientId :: remaining => .readLimit clientId remaining

/-- Effect of the awaited command on the stores. -/
def command (invocation : Invocation) (store : Store) : Store :=
  match invocation.stage with
  | .dropCandidate clientId _ _ => store.srem invocation.projectId clientId
  | .advanceCursor _ => store.incrCursor invocation.projectId
  | .acquire clientId maximumInFlight _ => store.tryAcquireSlot clientId maximumInFlight
  | .dispatching clientId => store.decrInFlight clientId
  | .floor clientId => store.setInFlight clientId 0
  | _ => store

/-- Where the invocation goes on when the command has answered.  `SMEMBERS` may
list the members in any order. -/
def next (invocation : Invocation) (store : Store) (order : List ClientId) : InvocationStage :=
  match invocation.stage with
  | .checkRequested clientId =>
      if store.isOnline clientId then .readLimit clientId [] else .ended
  | .listMembers => nextCandidate order []
  | .checkCandidate clientId remaining online =>
      if store.isOnline clientId then nextCandidate remaining (online ++ [clientId])
      else .dropCandidate clientId remaining online
  | .dropCandidate _ remaining online => nextCandidate remaining online
  | .advanceCursor online =>
      nextDevice (rotation online (store.cursor invocation.projectId + 1))
  | .readLimit clientId remaining => .acquire clientId (store.getMaxInFlight clientId) remaining
  | .acquire clientId maximumInFlight remaining =>
      if store.slotFree clientId maximumInFlight then .dispatching clientId
      else nextDevice remaining
  | .dispatching clientId =>
      if store.inFlightCount clientId - 1 < 0 then .floor clientId else .ended
  | .floor _ => .ended
  | .ended => .ended

/-- The slot taken by the command, if the server has run it. -/
def acquiredAfter (invocation : Invocation) (store : Store) : Option ClientId :=
  match invocation.stage with
  | .acquire clientId maximumInFlight _ =>
      if store.slotFree clientId maximumInFlight then some clientId else invocation.acquired
  | _ => invocation.acquired

/-- The number of executed `DECR`s after the command. -/
def releasedAfter (invocation : Invocation) : Nat :=
  match invocation.stage with
  | .dispatching _ => invocation.released + 1
  | _ => invocation.released

/-- One awaited command: an exception during selection answers 503, one during
the release is swallowed; both end the invocation. -/
def advance (invocation : Invocation) (store : Store) (fault : Fault) (order : List ClientId) :
    Invocation :=
  { invocation with
    stage := if fault.throws then .ended else invocation.next store order
    acquired :=
      if fault.executes then invocation.acquiredAfter store else invocation.acquired
    released := if fault.executes then invocation.releasedAfter else invocation.released }

end Invocation

end Gateway
end R2RPC
