import R2RPC.Library.Machine
import R2RPC.Library.ReadCommitted
import R2RPC.Metrics.Deliveries

/-!
# A rebuild beside running workers

{lit}`WorkerBootstrap.onModuleInit` runs {lit}`rebuildRecent` while other workers
process jobs.  The rebuild is one transaction of two {lit}`DELETE`s and two
{lit}`INSERT ... SELECT`s; {lit}`process` commits the spine row first and then runs
the two upserts of {lit}`recordCompletion` in a transaction.  Statements start in any
order, their rows are reached in any order, and a row that another transaction has
written is waited for.

Main results:

- Definition {lit}`rebuildMachine`: the rebuild and any number of workers.
- Definition {lit}`RebuildCondition`: where the rebuild and the workers do not meet.
- Theorem {lit}`RebuildStep.of_step`: what a step does.

Current gaps:

- Every request is processed once; the steps of {lit}`process` after
  {lit}`recordCompletion` touch none of these columns.
-/

namespace R2RPC
namespace Metrics

open Interleaving Aggregates
open ReadCommitted (Cell Version DeleteScan)

/-! ## Participants -/

/-- The transactions. -/
inductive Participant where
  | rebuild
  | worker (requestId : RequestId)
deriving DecidableEq, Repr

/-- A daily table with its row locks. -/
abbrev LiveTable (κ : Type) := ReadCommitted.Table κ Participant Counters

/-- The statement of `rebuildRecent` that is running; it has finished when nothing
remains. -/
inductive RebuildStage where
  | start
  | deleteRpc (scan : DeleteScan RpcKey Participant Counters)
  | deleteDevice (scan : DeleteScan DeviceKey Participant Counters)
  | insertRpc (remaining : Table RpcKey Counters)
  | insertDevice (remaining : Table DeviceKey Counters)
  | committed
  | aborted

/-- The next statement of `process`. -/
inductive WorkerStage where
  | writeSpine
  | upsertRpc
  | upsertDevice
  | commit
  | done
  | aborted
deriving DecidableEq, Repr

/-- The spine row is committed and its completion is not. -/
def WorkerStage.uncounted : WorkerStage → Bool
  | .upsertRpc | .upsertDevice | .commit => true
  | _ => false

structure RebuildState where
  logs : RequestLogs
  rpc : LiveTable RpcKey
  device : LiveTable DeviceKey
  rebuild : RebuildStage
  stage : RequestId → WorkerStage

/-- A row that a statement of the rebuild reaches. -/
inductive RebuildRow where
  | rpc (key : RpcKey)
  | device (key : DeviceKey)
deriving DecidableEq, Repr

inductive RebuildAction where
  /-- The next statement of the rebuild starts, or it commits. -/
  | rebuild
  | rebuildRow (row : RebuildRow)
  /-- The next statement of a worker. -/
  | worker (requestId : RequestId)
  /-- PostgreSQL aborts one of two transactions that wait for each other. -/
  | deadlock (row : RebuildRow) (requestId : RequestId) (victim : Participant)
deriving DecidableEq, Repr

namespace RebuildState

variable (cutoff : Day) (jobs : RequestId → RequestLogJob) (s : RebuildState)
  (requestId : RequestId)

/-- Before the rebuild and all workers. -/
def start (logs : RequestLogs) (rpc : Table RpcKey Counters) (device : Table DeviceKey Counters) :
    RebuildState where
  logs
  rpc := .ofRows rpc.keys rpc.lookup
  device := .ofRows device.keys device.lookup
  rebuild := .start
  stage _ := .writeSpine

def setStage (stage : WorkerStage) : RebuildState :=
  { s with stage := Function.update s.stage requestId stage }

/-- A transaction is rolled back. -/
def abort : Participant → RebuildState
  | .rebuild =>
      { s with
        rpc := s.rpc.rollback .rebuild
        device := s.device.rollback .rebuild
        rebuild := .aborted }
  | .worker requestId =>
      { s with
        rpc := s.rpc.rollback (.worker requestId)
        device := s.device.rollback (.worker requestId) }.setStage requestId .aborted

/-! ### The rebuild -/

/-- The rows that the first query groups. -/
def recentRows : List RequestLogRow := inWindow cutoff s.logs.rows

/-- The rows that the second query groups. -/
def recentDeviceRows : List RequestLogRow := (s.recentRows cutoff).filter (·.clientId.isSome)

/-- The next statement of the rebuild starts when the one before has finished. -/
def advanceRebuild : Option RebuildState :=
  match s.rebuild with
  | .start =>
      some { s with
        rebuild := .deleteRpc (s.rpc.scan .rebuild fun key => decide (cutoff ≤ key.statDate)) }
  | .deleteRpc scan =>
      if scan.remaining = ∅ then
        some { s with
          rebuild := .deleteDevice
            (s.device.scan .rebuild fun key => decide (cutoff ≤ key.statDate)) }
      else none
  | .deleteDevice scan =>
      if scan.remaining = ∅ then
        some { s with
          rebuild := .insertRpc (groupBy RequestLogRow.rpcKey aggregate (s.recentRows cutoff)) }
      else none
  | .insertRpc remaining =>
      if remaining = ∅ then
        some { s with
          rebuild := .insertDevice
            (groupBy RequestLogRow.deviceKey aggregate (s.recentDeviceRows cutoff)) }
      else none
  | .insertDevice remaining =>
      if remaining = ∅ then
        some { s with
          rpc := s.rpc.commit .rebuild
          device := s.device.commit .rebuild
          rebuild := .committed }
      else none
  | .committed | .aborted => none

/-- A statement of the rebuild reaches a row. -/
def rebuildRow (row : RebuildRow) : Option RebuildState :=
  match s.rebuild, row with
  | .deleteRpc scan, .rpc key =>
      (s.rpc.deleteRow .rebuild key scan).map fun (rpc, scan) =>
        { s with rpc, rebuild := .deleteRpc scan }
  | .deleteDevice scan, .device key =>
      (s.device.deleteRow .rebuild key scan).map fun (device, scan) =>
        { s with device, rebuild := .deleteDevice scan }
  | .insertRpc remaining, .rpc key =>
      (remaining.lookup key).bind fun counters =>
        match s.rpc.insertRow .rebuild key counters with
        | .waits => none
        | .violation => some (s.abort .rebuild)
        | .inserted rpc => some { s with rpc, rebuild := .insertRpc (remaining.erase key) }
  | .insertDevice remaining, .device key =>
      (remaining.lookup key).bind fun counters =>
        match s.device.insertRow .rebuild key counters with
        | .waits => none
        | .violation => some (s.abort .rebuild)
        | .inserted device => some { s with device, rebuild := .insertDevice (remaining.erase key) }
  | _, _ => none

/-! ### The workers -/

/-- What `recordCompletion` counts for a request. -/
def completion : Option Completion := (jobOf jobs requestId).completion

/-- The next statement of `process`; without a device the transaction commits after
its first upsert. -/
def advanceWorker : Option RebuildState :=
  match s.stage requestId with
  | .writeSpine =>
      (s.logs.writeSpine (jobOf jobs requestId) .pending).map fun (newlyInserted, logs) =>
        { s with logs }.setStage requestId (if newlyInserted then .upsertRpc else .done)
  | .upsertRpc =>
      (completion jobs requestId).bind fun c =>
        (s.rpc.upsertRow (.worker requestId) c.key c.counters (· + c.counters)).map fun rpc =>
          { s with rpc }.setStage requestId (if c.device then .upsertDevice else .commit)
  | .upsertDevice =>
      (completion jobs requestId).bind fun c =>
        (s.device.upsertRow (.worker requestId) c.key.deviceKey c.counters (· + c.counters)).map
          fun device => { s with device }.setStage requestId .commit
  | .commit =>
      some ({ s with
        rpc := s.rpc.commit (.worker requestId)
        device := s.device.commit (.worker requestId) }.setStage requestId .done)
  | .done | .aborted => none

/-! ### Deadlocks -/

/-- A transaction has written the row. -/
def holds {κ : Type} (table : LiveTable κ) (key : κ) (t : Participant) : Bool :=
  (table.cell key).pending.any fun held => held.1 == t

/-- The rebuild waits at this row for a worker. -/
def rebuildWaits (row : RebuildRow) : Bool :=
  match s.rebuild, row with
  | .deleteRpc scan, .rpc key =>
      decide (key ∈ scan.remaining) && holds s.rpc key (.worker requestId)
  | .deleteDevice scan, .device key =>
      decide (key ∈ scan.remaining) && holds s.device key (.worker requestId)
  | .insertRpc remaining, .rpc key =>
      (remaining.lookup key).isSome && holds s.rpc key (.worker requestId)
  | .insertDevice remaining, .device key =>
      (remaining.lookup key).isSome && holds s.device key (.worker requestId)
  | _, _ => false

/-- A worker waits for the rebuild. -/
def workerWaits : Bool :=
  match s.stage requestId with
  | .upsertRpc => (completion jobs requestId).any fun c => holds s.rpc c.key .rebuild
  | .upsertDevice =>
      (completion jobs requestId).any fun c => holds s.device c.key.deviceKey .rebuild
  | _ => false

end RebuildState

/-- The rebuild and any number of workers, in any interleaving; every request in
`request_logs` has its own id. -/
def rebuildMachine (cutoff : Day) (jobs : RequestId → RequestLogJob) :
    Machine RebuildState RebuildAction where
  initial s := ∃ logs rpc device, (logs.rows.map (·.requestId)).Nodup ∧
    s = .start logs rpc device
  step s
    | .rebuild => s.advanceRebuild cutoff
    | .rebuildRow row => s.rebuildRow row
    | .worker requestId => s.advanceWorker jobs requestId
    | .deadlock row requestId victim =>
        if s.rebuildWaits requestId row = true ∧ s.workerWaits jobs requestId = true ∧
            (victim = .rebuild ∨ victim = .worker requestId) then
          some (s.abort victim)
        else none

/-! ## The condition -/

/-- The rebuild has read the device rows of `request_logs`. -/
def RebuildStage.devicesRead : RebuildStage → Bool
  | .insertDevice _ | .committed => true
  | _ => false

namespace RebuildState

variable (cutoff : Day) (jobs : RequestId → RequestLogJob) (s : RebuildState)

/-- What may be counted has been counted, and deleted: no recent request is
uncounted, and the rebuild sees no recent row. -/
def ReadyForRpc : Prop :=
  (∀ row ∈ s.recentRows cutoff, (s.stage row.requestId).uncounted = false) ∧
    ∀ key ∈ s.rpc.visible .rebuild, key.statDate < cutoff

/-- The same for the requests of devices. -/
def ReadyForDevices : Prop :=
  (∀ row ∈ s.recentDeviceRows cutoff, (s.stage row.requestId).uncounted = false) ∧
    ∀ key ∈ s.device.visible .rebuild, key.statDate < cutoff

instance : Decidable (s.ReadyForRpc cutoff) := by unfold ReadyForRpc; infer_instance
instance : Decidable (s.ReadyForDevices cutoff) := by unfold ReadyForDevices; infer_instance

/-- The rebuild may start its next statement. -/
def RebuildMayAdvance : Prop :=
  match s.rebuild with
  | .deleteDevice _ => s.ReadyForRpc cutoff
  | .insertRpc _ => s.ReadyForDevices cutoff
  | _ => True

/-- A worker may run its next statement: no request with the empty client id once
the rebuild has read the devices, and no upsert of a row that the rebuild has still
to insert. -/
def WorkerMayAdvance (requestId : RequestId) : Prop :=
  match s.stage requestId with
  | .writeSpine =>
      s.rebuild.devicesRead = true → (jobs requestId).clientId = some "" →
        utcDay (jobs requestId).createdAt < cutoff
  | .upsertRpc =>
      match s.rebuild with
      | .insertRpc remaining =>
          ∀ c ∈ completion jobs requestId, (remaining.lookup c.key).isSome = false
      | _ => True
  | .upsertDevice =>
      match s.rebuild with
      | .insertDevice remaining =>
          ∀ c ∈ completion jobs requestId, (remaining.lookup c.key.deviceKey).isSome = false
      | _ => True
  | _ => True

end RebuildState

/-- The condition on a step. -/
def RebuildCondition (cutoff : Day) (jobs : RequestId → RequestLogJob) (s : RebuildState) :
    RebuildAction → Prop
  | .rebuild => s.RebuildMayAdvance cutoff
  | .worker requestId => s.WorkerMayAdvance cutoff jobs requestId
  | .rebuildRow _ | .deadlock .. => True

instance (cutoff : Day) (jobs : RequestId → RequestLogJob) (s : RebuildState) (requestId : RequestId) :
    Decidable (s.WorkerMayAdvance cutoff jobs requestId) := by
  unfold RebuildState.WorkerMayAdvance
  split
  · infer_instance
  · split <;> infer_instance
  · split <;> infer_instance
  · infer_instance

instance (cutoff : Day) (s : RebuildState) : Decidable (s.RebuildMayAdvance cutoff) := by
  unfold RebuildState.RebuildMayAdvance
  split <;> infer_instance

instance (cutoff : Day) (jobs : RequestId → RequestLogJob) (s : RebuildState) :
    ∀ a, Decidable (RebuildCondition cutoff jobs s a)
  | .rebuild => inferInstanceAs (Decidable (s.RebuildMayAdvance cutoff))
  | .worker requestId => inferInstanceAs (Decidable (s.WorkerMayAdvance cutoff jobs requestId))
  | .rebuildRow _ | .deadlock .. => inferInstanceAs (Decidable True)

/-! ## What a step does -/

/-- The effects of an action, with the guards under which it has them. -/
inductive RebuildStep (cutoff : Day) (jobs : RequestId → RequestLogJob) (s : RebuildState) :
    RebuildAction → RebuildState → Prop where
  | startDeleteRpc (before : s.rebuild = .start) :
      RebuildStep cutoff jobs s .rebuild
        { s with
          rebuild := .deleteRpc (s.rpc.scan .rebuild fun key => decide (cutoff ≤ key.statDate)) }
  | startDeleteDevice (scan : DeleteScan RpcKey Participant Counters)
      (before : s.rebuild = .deleteRpc scan) (finished : scan.remaining = ∅) :
      RebuildStep cutoff jobs s .rebuild
        { s with
          rebuild := .deleteDevice
            (s.device.scan .rebuild fun key => decide (cutoff ≤ key.statDate)) }
  | startInsertRpc (scan : DeleteScan DeviceKey Participant Counters)
      (before : s.rebuild = .deleteDevice scan) (finished : scan.remaining = ∅) :
      RebuildStep cutoff jobs s .rebuild
        { s with
          rebuild := .insertRpc (groupBy RequestLogRow.rpcKey aggregate (s.recentRows cutoff)) }
  | startInsertDevice (remaining : Table RpcKey Counters) (before : s.rebuild = .insertRpc remaining)
      (finished : remaining = ∅) :
      RebuildStep cutoff jobs s .rebuild
        { s with
          rebuild := .insertDevice
            (groupBy RequestLogRow.deviceKey aggregate (s.recentDeviceRows cutoff)) }
  | commitRebuild (remaining : Table DeviceKey Counters)
      (before : s.rebuild = .insertDevice remaining) (finished : remaining = ∅) :
      RebuildStep cutoff jobs s .rebuild
        { s with
          rpc := s.rpc.commit .rebuild
          device := s.device.commit .rebuild
          rebuild := .committed }
  /-- A row is deleted, or it is gone. -/
  | deleteRpcRow (key : RpcKey) (scan : DeleteScan RpcKey Participant Counters)
      (rpc : LiveTable RpcKey) (before : s.rebuild = .deleteRpc scan)
      (unlocked : (s.rpc.cell key).locked .rebuild = false)
      (after : rpc = s.rpc.set key ((s.rpc.cell key).write .rebuild none) ∨ rpc = s.rpc) :
      RebuildStep cutoff jobs s (.rebuildRow (.rpc key))
        { s with
          rpc
          rebuild := .deleteRpc { scan with remaining := scan.remaining.erase key } }
  | deleteDeviceRow (key : DeviceKey) (scan : DeleteScan DeviceKey Participant Counters)
      (device : LiveTable DeviceKey) (before : s.rebuild = .deleteDevice scan)
      (unlocked : (s.device.cell key).locked .rebuild = false)
      (after : device = s.device.set key ((s.device.cell key).write .rebuild none) ∨
        device = s.device) :
      RebuildStep cutoff jobs s (.rebuildRow (.device key))
        { s with
          device
          rebuild := .deleteDevice { scan with remaining := scan.remaining.erase key } }
  | insertRpcRow (key : RpcKey) (counters : Counters) (remaining : Table RpcKey Counters)
      (before : s.rebuild = .insertRpc remaining) (found : remaining.lookup key = some counters)
      (unlocked : (s.rpc.cell key).locked .rebuild = false) :
      RebuildStep cutoff jobs s (.rebuildRow (.rpc key))
        { s with
          rpc := s.rpc.set key ((s.rpc.cell key).write .rebuild (some ⟨some .rebuild, counters⟩))
          rebuild := .insertRpc (remaining.erase key) }
  | insertDeviceRow (key : DeviceKey) (counters : Counters) (remaining : Table DeviceKey Counters)
      (before : s.rebuild = .insertDevice remaining) (found : remaining.lookup key = some counters)
      (unlocked : (s.device.cell key).locked .rebuild = false) :
      RebuildStep cutoff jobs s (.rebuildRow (.device key))
        { s with
          device :=
            s.device.set key ((s.device.cell key).write .rebuild (some ⟨some .rebuild, counters⟩))
          rebuild := .insertDevice (remaining.erase key) }
  /-- A row that is to be inserted is there. -/
  | violationRpc (key : RpcKey) (counters : Counters) (remaining : Table RpcKey Counters)
      (before : s.rebuild = .insertRpc remaining) (found : remaining.lookup key = some counters)
      (taken : (s.rpc.cell key).view .rebuild ≠ none) :
      RebuildStep cutoff jobs s (.rebuildRow (.rpc key)) (s.abort .rebuild)
  | violationDevice (key : DeviceKey) (counters : Counters) (remaining : Table DeviceKey Counters)
      (before : s.rebuild = .insertDevice remaining) (found : remaining.lookup key = some counters)
      (taken : (s.device.cell key).view .rebuild ≠ none) :
      RebuildStep cutoff jobs s (.rebuildRow (.device key)) (s.abort .rebuild)
  | writeSpine (requestId : RequestId) (row : RequestLogRow)
      (before : s.stage requestId = .writeSpine) (new : s.logs.contains requestId = false)
      (stored : StoredAs (jobOf jobs requestId) row) :
      RebuildStep cutoff jobs s (.worker requestId)
        ({ s with logs := ⟨s.logs.rows ++ [row], s.logs.nextId + 1⟩ }.setStage requestId .upsertRpc)
  | conflict (requestId : RequestId) (before : s.stage requestId = .writeSpine)
      (found : s.logs.contains requestId = true) :
      RebuildStep cutoff jobs s (.worker requestId)
        ({ s with logs := { s.logs with nextId := s.logs.nextId + 1 } }.setStage requestId .done)
  | upsertRpc (requestId : RequestId) (c : Completion) (before : s.stage requestId = .upsertRpc)
      (completed : RebuildState.completion jobs requestId = some c)
      (unlocked : (s.rpc.cell c.key).locked (.worker requestId) = false) :
      RebuildStep cutoff jobs s (.worker requestId)
        ({ s with
          rpc := s.rpc.set c.key ((s.rpc.cell c.key).write (.worker requestId)
            (some (.upserted (.worker requestId) c.counters (· + c.counters)
              ((s.rpc.cell c.key).view (.worker requestId))))) }.setStage requestId
                (if c.device then .upsertDevice else .commit))
  | upsertDevice (requestId : RequestId) (c : Completion)
      (before : s.stage requestId = .upsertDevice)
      (completed : RebuildState.completion jobs requestId = some c)
      (unlocked : (s.device.cell c.key.deviceKey).locked (.worker requestId) = false) :
      RebuildStep cutoff jobs s (.worker requestId)
        ({ s with
          device := s.device.set c.key.deviceKey
            ((s.device.cell c.key.deviceKey).write (.worker requestId)
              (some (.upserted (.worker requestId) c.counters (· + c.counters)
                ((s.device.cell c.key.deviceKey).view (.worker requestId))))) }.setStage requestId
                  .commit)
  | commitWorker (requestId : RequestId) (before : s.stage requestId = .commit) :
      RebuildStep cutoff jobs s (.worker requestId)
        ({ s with
          rpc := s.rpc.commit (.worker requestId)
          device := s.device.commit (.worker requestId) }.setStage requestId .done)
  | deadlock (row : RebuildRow) (requestId : RequestId) (victim : Participant)
      (rebuildWaits : s.rebuildWaits requestId row = true)
      (workerWaits : s.workerWaits jobs requestId = true) :
      RebuildStep cutoff jobs s (.deadlock row requestId victim) (s.abort victim)

namespace RebuildStep

variable {cutoff : Day} {jobs : RequestId → RequestLogJob} {s t : RebuildState}

theorem of_rebuild (h : s.advanceRebuild cutoff = some t) :
    RebuildStep cutoff jobs s .rebuild t := by
  unfold RebuildState.advanceRebuild at h
  cases hrebuild : s.rebuild with
  | start =>
      simp only [hrebuild, Option.some.injEq] at h
      exact h ▸ .startDeleteRpc hrebuild
  | deleteRpc scan =>
      simp only [hrebuild] at h
      split at h
      next hfinished => exact Option.some.inj h ▸ .startDeleteDevice scan hrebuild hfinished
      next => contradiction
  | deleteDevice scan =>
      simp only [hrebuild] at h
      split at h
      next hfinished => exact Option.some.inj h ▸ .startInsertRpc scan hrebuild hfinished
      next => contradiction
  | insertRpc remaining =>
      simp only [hrebuild] at h
      split at h
      next hfinished => exact Option.some.inj h ▸ .startInsertDevice remaining hrebuild hfinished
      next => contradiction
  | insertDevice remaining =>
      simp only [hrebuild] at h
      split at h
      next hfinished => exact Option.some.inj h ▸ .commitRebuild remaining hrebuild hfinished
      next => contradiction
  | committed => simp [hrebuild] at h
  | aborted => simp [hrebuild] at h

theorem of_rebuildRow {row : RebuildRow} (h : s.rebuildRow row = some t) :
    RebuildStep cutoff jobs s (.rebuildRow row) t := by
  unfold RebuildState.rebuildRow at h
  split at h
  next scan key hrebuild =>
    rcases Option.map_eq_some_iff.mp h with ⟨⟨rpc, scan'⟩, hrow, rfl⟩
    obtain ⟨-, hlocked, rfl, hafter⟩ := ReadCommitted.Table.deleteRow_eq_some hrow
    exact .deleteRpcRow key scan rpc hrebuild hlocked (hafter.imp And.right And.right)
  next scan key hrebuild =>
    rcases Option.map_eq_some_iff.mp h with ⟨⟨device, scan'⟩, hrow, rfl⟩
    obtain ⟨-, hlocked, rfl, hafter⟩ := ReadCommitted.Table.deleteRow_eq_some hrow
    exact .deleteDeviceRow key scan device hrebuild hlocked (hafter.imp And.right And.right)
  next remaining key hrebuild =>
    rcases Option.bind_eq_some_iff.mp h with ⟨counters, hfound, hrow⟩
    split at hrow
    next => contradiction
    next hviolation =>
      exact Option.some.inj hrow ▸ .violationRpc key counters remaining hrebuild hfound
        (ReadCommitted.Table.insertRow_violation hviolation)
    next rpc hinserted =>
      obtain ⟨hlocked, -, rfl⟩ := ReadCommitted.Table.insertRow_inserted hinserted
      exact Option.some.inj hrow ▸ .insertRpcRow key counters remaining hrebuild hfound hlocked
  next remaining key hrebuild =>
    rcases Option.bind_eq_some_iff.mp h with ⟨counters, hfound, hrow⟩
    split at hrow
    next => contradiction
    next hviolation =>
      exact Option.some.inj hrow ▸ .violationDevice key counters remaining hrebuild hfound
        (ReadCommitted.Table.insertRow_violation hviolation)
    next device hinserted =>
      obtain ⟨hlocked, -, rfl⟩ := ReadCommitted.Table.insertRow_inserted hinserted
      exact Option.some.inj hrow ▸ .insertDeviceRow key counters remaining hrebuild hfound hlocked
  next => contradiction

theorem of_worker {requestId : RequestId} (h : s.advanceWorker jobs requestId = some t) :
    RebuildStep cutoff jobs s (.worker requestId) t := by
  unfold RebuildState.advanceWorker at h
  cases hstage : s.stage requestId with
  | writeSpine =>
      simp only [hstage, Option.map_eq_some_iff] at h
      rcases h with ⟨written, hwritten, rfl⟩
      rcases writeSpine_cases s.logs (jobOf jobs requestId) .pending with
        hnone | ⟨hcontains, hconflict⟩ | ⟨hnew, row, hrow, hinserted⟩
      · rw [hnone] at hwritten
        contradiction
      · rw [hconflict, Option.some.injEq] at hwritten
        exact hwritten ▸ .conflict requestId hstage hcontains
      · rw [hinserted, Option.some.injEq] at hwritten
        exact hwritten ▸ .writeSpine requestId row hstage hnew hrow
  | upsertRpc =>
      simp only [hstage, Option.bind_eq_some_iff, Option.map_eq_some_iff] at h
      rcases h with ⟨c, hcompleted, rpc, hupsert, rfl⟩
      obtain ⟨hlocked, rfl⟩ := ReadCommitted.Table.upsertRow_eq_some hupsert
      exact .upsertRpc requestId c hstage hcompleted hlocked
  | upsertDevice =>
      simp only [hstage, Option.bind_eq_some_iff, Option.map_eq_some_iff] at h
      rcases h with ⟨c, hcompleted, device, hupsert, rfl⟩
      obtain ⟨hlocked, rfl⟩ := ReadCommitted.Table.upsertRow_eq_some hupsert
      exact .upsertDevice requestId c hstage hcompleted hlocked
  | commit =>
      simp only [hstage, Option.some.injEq] at h
      exact h ▸ .commitWorker requestId hstage
  | done => simp [hstage] at h
  | aborted => simp [hstage] at h

/-- Every step of the machine is one of these. -/
theorem of_step {a : RebuildAction} (h : (rebuildMachine cutoff jobs).step s a = some t) :
    RebuildStep cutoff jobs s a t := by
  cases a with
  | rebuild => exact .of_rebuild h
  | rebuildRow row => exact .of_rebuildRow h
  | worker requestId => exact .of_worker h
  | deadlock row requestId victim =>
      simp only [rebuildMachine] at h
      split at h
      next hwait => exact Option.some.inj h ▸ .deadlock row requestId victim hwait.1 hwait.2.1
      next => contradiction

end RebuildStep

end Metrics
end R2RPC
