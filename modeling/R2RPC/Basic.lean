/-!
# Identifiers and infrastructure faults

Names shared by the models of the back end.  Redis keys and the SQL tables are
indexed by these identifiers, and every command that a service awaits can be
hit by one of the faults that its callers handle.

Main results:

- Definition {lit}`SessionToken`: the value of {lit}`client:session:<id>`, which
  carries the instance that holds the socket.
- Definition {lit}`Fault`: how one awaited command can go wrong.

Current gaps:

- A `randomUUID` is represented by the identity of the call that draws it, so
  it never repeats; its text is not modelled.
-/

namespace R2RPC

/-- `INSTANCE_IDENTIFIER`: one per start of an API process. -/
abbrev InstanceId := Nat

/-- One accepted WebSocket. -/
abbrev SocketId := Nat

/-- Primary key of a row of `projects`. -/
abbrev ProjectId := Nat

/-- A device token: its plaintext and its row identify each other. -/
abbrev TokenId := Nat

/-- Self-generated device identity. -/
abbrev ClientId := String

/-- Milliseconds since the epoch, as `Date.now()` reads them. -/
abbrev Timestamp := Nat

/-- `${INSTANCE_IDENTIFIER}:${randomUUID()}`; the draw is made once per socket. -/
structure SessionToken where
  instanceId : InstanceId
  uuid : SocketId
deriving DecidableEq, Repr

/-- `status` of a row of `access_tokens` or `device_tokens`. -/
inductive TokenStatus where
  | active
  | revoked
deriving DecidableEq, Repr

/-- Fate of one awaited command: answered, rejected before the server runs it,
or run by the server with the reply lost (or later than `commandTimeout`). -/
inductive Fault where
  | none
  | rejected
  | lost
deriving DecidableEq, Repr

/-- The server runs the command. -/
def Fault.executes : Fault → Bool
  | .none | .lost => true
  | .rejected => false

/-- The awaiting caller sees an exception. -/
def Fault.throws : Fault → Bool
  | .none => false
  | .rejected | .lost => true

/-- Effect of a possibly faulty command on a store. -/
def Fault.apply {α : Type} (fault : Fault) (command : α → α) (store : α) : α :=
  if fault.executes then command store else store

@[simp]
theorem Fault.apply_none {α : Type} (command : α → α) (store : α) :
    Fault.none.apply command store = command store := rfl

@[simp]
theorem Fault.apply_lost {α : Type} (command : α → α) (store : α) :
    Fault.lost.apply command store = command store := rfl

@[simp]
theorem Fault.apply_rejected {α : Type} (command : α → α) (store : α) :
    Fault.rejected.apply command store = store := rfl

/-- A command has its effect or none. -/
theorem Fault.apply_cases {α : Type} (fault : Fault) (command : α → α) (store : α) :
    fault.apply command store = store ∨
      (fault.executes = true ∧ fault.apply command store = command store) := by
  cases fault with
  | none => exact Or.inr ⟨rfl, rfl⟩
  | rejected => exact Or.inl rfl
  | lost => exact Or.inr ⟨rfl, rfl⟩

end R2RPC
