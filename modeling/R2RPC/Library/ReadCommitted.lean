import Mathlib.Data.Finset.Basic
import Mathlib.Logic.Function.Basic

/-!
# Row locks under READ COMMITTED

A table holds, under every key, the committed version of a row and what an open
transaction has written over it.  A transaction sees its own writes and otherwise
what is committed; a row that another open transaction has written is locked, and a
writer waits for it.  {lit}`DELETE` fixes the rows it goes through when it starts: a
row that has been deleted in the meantime is skipped, also when another row has been
inserted under its key.  A version therefore remembers who inserted the row.

Main results:

- Definitions {lit}`Table.scan` and {lit}`Table.deleteRow`: a {lit}`DELETE`, row by
  row.
- Definition {lit}`Table.insertRow`: one row of an {lit}`INSERT`.
- Definition {lit}`Table.upsertRow`: {lit}`INSERT ... ON CONFLICT DO UPDATE`.
- Theorem {lit}`Cell.committed_commit`: a commit publishes what its transaction sees.
-/

namespace ReadCommitted

variable {κ τ ν : Type*}

/-! ## One key -/

/-- A version of a row; `creator` inserted the row, `none` before all transactions. -/
@[ext]
structure Version (τ ν : Type*) where
  creator : Option τ
  value : ν
deriving DecidableEq, Repr

/-- The version after `INSERT ... ON CONFLICT DO UPDATE`. -/
def Version.upserted (t : τ) (value : ν) (update : ν → ν) :
    Option (Version τ ν) → Version τ ν
  | none => ⟨some t, value⟩
  | some version => { version with value := update version.value }

/-- What is stored under a key. -/
@[ext]
structure Cell (τ ν : Type*) where
  committed : Option (Version τ ν)
  /-- The open transaction that has written here, and its version; `none` where it
  has deleted the row. -/
  pending : Option (τ × Option (Version τ ν))
deriving DecidableEq, Repr

namespace Cell

variable {t t' : τ} {c : Cell τ ν} {version : Option (Version τ ν)}

def empty : Cell τ ν := ⟨none, none⟩

def write (t : τ) (version : Option (Version τ ν)) (c : Cell τ ν) : Cell τ ν :=
  { c with pending := some (t, version) }

@[simp] theorem committed_write : (c.write t version).committed = c.committed := rfl
@[simp] theorem pending_write : (c.write t version).pending = some (t, version) := rfl

variable [DecidableEq τ]

/-- What a statement of `t` sees. -/
def view (t : τ) (c : Cell τ ν) : Option (Version τ ν) :=
  match c.pending with
  | none => c.committed
  | some (holder, version) => if holder = t then version else c.committed

/-- Writers of `t` wait for another transaction. -/
def locked (t : τ) (c : Cell τ ν) : Bool :=
  match c.pending with
  | none => false
  | some (holder, _) => decide (holder ≠ t)

def commit (t : τ) (c : Cell τ ν) : Cell τ ν :=
  match c.pending with
  | none => c
  | some (holder, version) => if holder = t then ⟨version, none⟩ else c

def rollback (t : τ) (c : Cell τ ν) : Cell τ ν :=
  match c.pending with
  | none => c
  | some (holder, _) => if holder = t then { c with pending := none } else c

@[simp]
theorem view_write : (c.write t version).view t = version := by
  simp [view]

theorem view_of_pending_none (h : c.pending = none) : c.view t = c.committed := by
  simp [view, h]

theorem view_of_pending (h : c.pending = some (t, version)) : c.view t = version := by
  simp [view, h]

/-- The writes of others are not seen. -/
theorem view_of_pending_other (h : c.pending = some (t', version)) (hne : t' ≠ t) :
    c.view t = c.committed := by
  simp [view, h, hne]

/-- A transaction that has not written here sees what is committed. -/
theorem view_eq_committed (h : ∀ version, c.pending ≠ some (t, version)) :
    c.view t = c.committed := by
  cases hpending : c.pending with
  | none => exact view_of_pending_none hpending
  | some held =>
      refine view_of_pending_other hpending fun heq => h held.2 ?_
      rw [hpending, ← heq]

/-- A row that is not locked is written by the transaction itself, if by any. -/
theorem locked_eq_false :
    c.locked t = false ↔ c.pending = none ∨ ∃ version, c.pending = some (t, version) := by
  cases hpending : c.pending with
  | none => simp [locked, hpending]
  | some held =>
      simp only [locked, hpending, ne_eq, decide_not, Bool.not_eq_false', decide_eq_true_eq,
        reduceCtorEq, Option.some.injEq, false_or]
      exact ⟨fun heq => ⟨held.2, heq ▸ rfl⟩, fun ⟨_, heq⟩ => congrArg Prod.fst heq⟩

theorem not_pending_other (h : c.locked t = false) (hpending : c.pending = some (t', version)) :
    t' = t := by
  simpa [locked, hpending] using h

/-- A commit publishes what its transaction sees. -/
theorem committed_commit (t : τ) (c : Cell τ ν) : (c.commit t).committed = c.view t := by
  unfold commit view
  cases c.pending with
  | none => rfl
  | some held => dsimp only; split <;> rfl

theorem commit_of_pending (h : c.pending = some (t, version)) : c.commit t = ⟨version, none⟩ := by
  simp [commit, h]

/-- A commit changes nothing for its own transaction. -/
theorem view_commit_self (t : τ) (c : Cell τ ν) : (c.commit t).view t = c.view t := by
  unfold commit
  cases hpending : c.pending with
  | none => rfl
  | some held =>
      dsimp only
      split
      next heq =>
        rw [view_of_pending_none rfl]
        have hheld : c.pending = some (t, held.2) := by rw [hpending, ← heq]
        exact (view_of_pending hheld).symm
      next => rfl

theorem commit_of_not_pending (h : ∀ version, c.pending ≠ some (t, version)) :
    c.commit t = c := by
  unfold commit
  cases hpending : c.pending with
  | none => rfl
  | some held =>
      refine if_neg fun heq => h held.2 ?_
      rw [hpending, ← heq]

@[simp]
theorem committed_rollback : (c.rollback t).committed = c.committed := by
  unfold rollback
  cases c.pending with
  | none => rfl
  | some held => dsimp only; split <;> rfl

/-- What is still held after a commit was held before, by another transaction. -/
theorem pending_commit : (c.commit t).pending = some (t', version) ↔
    c.pending = some (t', version) ∧ t' ≠ t := by
  unfold commit
  cases hpending : c.pending with
  | none => simp [hpending]
  | some held =>
      dsimp only
      split
      next heq =>
        simp only [reduceCtorEq, Option.some.injEq, false_iff, not_and, not_not]
        exact fun h => (congrArg Prod.fst h).symm.trans heq
      next hne =>
        rw [hpending, Option.some.injEq]
        exact ⟨fun h => ⟨h, fun heq => hne ((congrArg Prod.fst h).trans heq)⟩, And.left⟩

theorem pending_rollback : (c.rollback t).pending = some (t', version) ↔
    c.pending = some (t', version) ∧ t' ≠ t := by
  unfold rollback
  cases hpending : c.pending with
  | none => simp [hpending]
  | some held =>
      dsimp only
      split
      next heq =>
        simp only [reduceCtorEq, Option.some.injEq, false_iff, not_and, not_not]
        exact fun h => (congrArg Prod.fst h).symm.trans heq
      next hne =>
        rw [hpending, Option.some.injEq]
        exact ⟨fun h => ⟨h, fun heq => hne ((congrArg Prod.fst h).trans heq)⟩, And.left⟩

/-- A transaction keeps seeing the same while another one rolls back. -/
theorem view_rollback_of_ne (hne : t' ≠ t) : (c.rollback t').view t = c.view t := by
  unfold rollback
  cases hpending : c.pending with
  | none => rfl
  | some held =>
      dsimp only
      split
      next heq =>
        have hheld : c.pending = some (t', held.2) := by rw [hpending, ← heq]
        rw [view_of_pending_other hheld hne]
        rfl
      next => rfl

end Cell

/-! ## Tables -/

variable [DecidableEq κ]

/-- A table; outside of `keys` nothing is stored. -/
structure Table (κ τ ν : Type*) where
  keys : Finset κ
  cell : κ → Cell τ ν
  cell_of_notMem : ∀ k ∉ keys, cell k = .empty

/-- The rows that a `DELETE` goes through, as they were when it started. -/
structure DeleteScan (κ τ ν : Type*) where
  remaining : Finset κ
  seen : κ → Option (Version τ ν)

/-- What becomes of a row that is to be inserted. -/
inductive InsertOutcome (κ τ ν : Type*) where
  | waits
  /-- The key is taken. -/
  | violation
  | inserted (table : Table κ τ ν)

namespace Table

variable (table : Table κ τ ν) (t : τ) (k : κ)

/-- A table with committed rows only. -/
def ofRows (keys : Finset κ) (row : κ → Option ν) : Table κ τ ν where
  keys
  cell k := if k ∈ keys then ⟨(row k).map fun value => ⟨none, value⟩, none⟩ else .empty
  cell_of_notMem _ hk := if_neg hk

/-- Replace what is stored under a key. -/
def set (c : Cell τ ν) : Table κ τ ν where
  keys := insert k table.keys
  cell := Function.update table.cell k c
  cell_of_notMem k' hk' := by
    rw [Finset.mem_insert, not_or] at hk'
    rw [Function.update_of_ne hk'.1]
    exact table.cell_of_notMem k' hk'.2

/-- The rows that are committed. -/
def rows : Finset κ := table.keys.filter fun k => (table.cell k).committed.isSome

variable {table} {t k} {k' : κ} {c : Cell τ ν}

theorem cell_ofRows {keys : Finset κ} {row : κ → Option ν} :
    (ofRows keys row : Table κ τ ν).cell k =
      if k ∈ keys then ⟨(row k).map fun value => ⟨none, value⟩, none⟩ else .empty := rfl

@[simp]
theorem pending_ofRows {keys : Finset κ} {row : κ → Option ν} :
    ((ofRows keys row : Table κ τ ν).cell k).pending = none := by
  rw [cell_ofRows]
  split <;> rfl

/-- No row of a fresh table was inserted by a transaction. -/
theorem creator_ofRows {keys : Finset κ} {row : κ → Option ν} {version : Version τ ν}
    (h : ((ofRows keys row : Table κ τ ν).cell k).committed = some version) :
    version.creator = none := by
  rw [cell_ofRows] at h
  split at h
  · rcases Option.map_eq_some_iff.mp h with ⟨value, -, rfl⟩
    rfl
  · contradiction

@[simp] theorem cell_set_self : (table.set k c).cell k = c := Function.update_self ..

theorem cell_set_of_ne (hne : k' ≠ k) : (table.set k c).cell k' = table.cell k' :=
  Function.update_of_ne hne ..

theorem committed_set_write {version : Option (Version τ ν)} :
    ((table.set k ((table.cell k).write t version)).cell k').committed =
      (table.cell k').committed := by
  by_cases heq : k' = k
  · rw [heq, cell_set_self, Cell.committed_write]
  · rw [cell_set_of_ne heq]

omit [DecidableEq κ] in
theorem mem_rows : k ∈ table.rows ↔ (table.cell k).committed.isSome = true := by
  rw [rows, Finset.mem_filter]
  refine ⟨And.right, fun h => ⟨?_, h⟩⟩
  by_contra hk
  rw [table.cell_of_notMem k hk] at h
  contradiction

/-! ### Statements -/

variable [DecidableEq τ] (table) (t k)

def commit : Table κ τ ν where
  keys := table.keys
  cell k := (table.cell k).commit t
  cell_of_notMem k hk := by
    rw [table.cell_of_notMem k hk]
    rfl

def rollback : Table κ τ ν where
  keys := table.keys
  cell k := (table.cell k).rollback t
  cell_of_notMem k hk := by
    rw [table.cell_of_notMem k hk]
    rfl

/-- The rows that a statement of `t` sees. -/
def visible : Finset κ := table.keys.filter fun k => ((table.cell k).view t).isSome

/-- A `DELETE` starts. -/
def scan (condition : κ → Bool) : DeleteScan κ τ ν where
  remaining := (table.visible t).filter fun k => condition k
  seen k := (table.cell k).view t

/-- A `DELETE` reaches a row: it waits while the row is locked, and skips it when the
row it saw is gone. -/
def deleteRow (scan : DeleteScan κ τ ν) : Option (Table κ τ ν × DeleteScan κ τ ν) :=
  if k ∈ scan.remaining ∧ (table.cell k).locked t = false then
    some
      (if ((table.cell k).view t).map (·.creator) = (scan.seen k).map (·.creator) then
        table.set k ((table.cell k).write t none)
      else table, { scan with remaining := scan.remaining.erase k })
  else none

/-- An `INSERT` of a row. -/
def insertRow (value : ν) : InsertOutcome κ τ ν :=
  if (table.cell k).locked t then .waits
  else if ((table.cell k).view t).isSome then .violation
  else .inserted (table.set k ((table.cell k).write t (some ⟨some t, value⟩)))

/-- `INSERT ... ON CONFLICT DO UPDATE` of a row. -/
def upsertRow (value : ν) (update : ν → ν) : Option (Table κ τ ν) :=
  if (table.cell k).locked t then none
  else
    some (table.set k ((table.cell k).write t
      (some (.upserted t value update ((table.cell k).view t)))))

variable {table} {t t' : τ} {k k' : κ} {scan : DeleteScan κ τ ν}

omit [DecidableEq κ] in
@[simp] theorem cell_commit : (table.commit t).cell k = (table.cell k).commit t := rfl

omit [DecidableEq κ] in
theorem mem_visible : k ∈ table.visible t ↔ ((table.cell k).view t).isSome = true := by
  rw [visible, Finset.mem_filter]
  refine ⟨And.right, fun h => ⟨?_, h⟩⟩
  by_contra hk
  rw [table.cell_of_notMem k hk] at h
  contradiction

omit [DecidableEq κ] in
theorem mem_scan {condition : κ → Bool} :
    k ∈ (table.scan t condition).remaining ↔
      ((table.cell k).view t).isSome = true ∧ condition k = true := by
  rw [Table.scan, Finset.mem_filter, mem_visible]

/-- What a `DELETE` does at a row. -/
theorem deleteRow_eq_some {table' : Table κ τ ν} {scan' : DeleteScan κ τ ν}
    (h : table.deleteRow t k scan = some (table', scan')) :
    k ∈ scan.remaining ∧ (table.cell k).locked t = false ∧
      scan' = { scan with remaining := scan.remaining.erase k } ∧
      ((((table.cell k).view t).map (·.creator) = (scan.seen k).map (·.creator) ∧
          table' = table.set k ((table.cell k).write t none)) ∨
        (((table.cell k).view t).map (·.creator) ≠ (scan.seen k).map (·.creator) ∧
          table' = table)) := by
  unfold deleteRow at h
  split at h
  next hrow =>
    rw [Option.some.injEq, Prod.mk.injEq] at h
    refine ⟨hrow.1, hrow.2, h.2.symm, ?_⟩
    rw [← h.1]
    split
    next heq => exact Or.inl ⟨heq, rfl⟩
    next hne => exact Or.inr ⟨hne, rfl⟩
  next => contradiction

/-- A write to a row that is not locked leaves what other transactions hold. -/
theorem pending_set_write {version version' : Option (Version τ ν)}
    (hlocked : (table.cell k).locked t = false) (hne : t' ≠ t) :
    ((table.set k ((table.cell k).write t version)).cell k').pending = some (t', version') ↔
      (table.cell k').pending = some (t', version') := by
  by_cases heq : k' = k
  · subst heq
    rw [cell_set_self, Cell.pending_write, Option.some.injEq, Prod.mk.injEq]
    exact ⟨fun h => absurd h.1.symm hne, fun h => absurd (Cell.not_pending_other hlocked h) hne⟩
  · rw [cell_set_of_ne heq]

/-- Nor what they see. -/
theorem view_set_write {version : Option (Version τ ν)}
    (hlocked : (table.cell k).locked t = false) (hne : t' ≠ t) :
    ((table.set k ((table.cell k).write t version)).cell k').view t' = (table.cell k').view t' := by
  by_cases heq : k' = k
  · subst heq
    rw [cell_set_self, Cell.view_of_pending_other Cell.pending_write hne.symm, Cell.committed_write,
      Cell.view_eq_committed fun version h => hne (Cell.not_pending_other hlocked h)]
  · rw [cell_set_of_ne heq]

/-- What an `INSERT` of a row does. -/
theorem insertRow_inserted {value : ν} {table' : Table κ τ ν}
    (h : table.insertRow t k value = .inserted table') :
    (table.cell k).locked t = false ∧ (table.cell k).view t = none ∧
      table' = table.set k ((table.cell k).write t (some ⟨some t, value⟩)) := by
  unfold insertRow at h
  split at h
  · contradiction
  next hlocked =>
    split at h
    · contradiction
    next hview =>
      rw [InsertOutcome.inserted.injEq] at h
      exact ⟨by simpa using hlocked, by simpa using hview, h.symm⟩

theorem insertRow_violation {value : ν} (h : table.insertRow t k value = .violation) :
    (table.cell k).view t ≠ none := by
  unfold insertRow at h
  split at h
  · contradiction
  · split at h
    next hview => exact Option.ne_none_iff_isSome.mpr hview
    next => contradiction

/-- What `INSERT ... ON CONFLICT DO UPDATE` of a row does. -/
theorem upsertRow_eq_some {value : ν} {update : ν → ν} {table' : Table κ τ ν}
    (h : table.upsertRow t k value update = some table') :
    (table.cell k).locked t = false ∧ table' = table.set k ((table.cell k).write t
      (some (.upserted t value update ((table.cell k).view t)))) := by
  unfold upsertRow at h
  split at h
  · contradiction
  next hlocked => exact ⟨by simpa using hlocked, (Option.some.inj h).symm⟩

end Table

end ReadCommitted
