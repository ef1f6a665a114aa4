import Mathlib.Data.List.Nodup
import Mathlib.Data.List.Perm.Subperm
import R2RPC.Library.Machine
import R2RPC.Metrics.Aggregation

/-!
# Retention, cleanup and restarts

A worker that runs by itself: jobs are processed, {lit}`retentionSweep` deletes
request logs by age and by number, {lit}`metricsCleanup` deletes aggregates by date,
and a restart recomputes the aggregates of its window from the request logs that
are left.  The counts survive all of this as long as what is left is everything.

Main results:

- Theorem {lit}`restart_counted_iff`: when a restart keeps the counts of every day.
- Theorem {lit}`counted_iff`: when a whole run keeps them.

Current gaps:

- The steps follow each other; a restart beside other workers is another module.
-/

namespace R2RPC
namespace Metrics

open Aggregates Interleaving

/-! ## Runs -/

/-- The tables, with what has happened to them so far. -/
structure RetentionState where
  logs : RequestLogs
  tables : DailyTables
  /-- Every job that was processed. -/
  processed : List RequestLogJob
  /-- The cutoff of every cleanup. -/
  cutoffs : List Day

inductive RetentionAction where
  | process (job : RequestLogJob)
  | retentionSweep (now : Timestamp) (rawRetentionDays keepLatestPerScope : Nat)
  | metricsCleanup (now : Timestamp) (aggregateRetentionDays : Nat)
  | restart (now : Timestamp) (rawRetentionDays : Nat)

/-- `RequestLogProcessor.process` without failures, as far as these tables go. -/
def processJob (logs : RequestLogs) (tables : DailyTables) (job : RequestLogJob) :
    Option (RequestLogs × DailyTables) :=
  (logs.writeSpine job .pending).bind fun written =>
    (if written.1 then tables.recordCompletion job else some tables).map fun counted =>
      (written.2.markState job.requestId .indexed, counted)

/-- `MaintenanceProcessor.retentionSweep`. -/
def RequestLogs.retentionSweep (logs : RequestLogs) (now : Timestamp)
    (rawRetentionDays keepLatestPerScope : Nat) : RequestLogs :=
  (logs.cleanupOldRequests now rawRetentionDays).trimScopes keepLatestPerScope

namespace RetentionState

def start : RetentionState := ⟨.empty, .empty, [], []⟩

variable (s : RetentionState)

/-- `WorkerBootstrap.onModuleInit`, which logs a rebuild that fails. -/
def restart (now : Timestamp) (rawRetentionDays : Nat) : RetentionState :=
  { s with tables := (s.tables.rebuildRecent s.logs.rows now rawRetentionDays).getD s.tables }

/-- `MaintenanceProcessor.metricsCleanup`. -/
def metricsCleanup (now : Timestamp) (aggregateRetentionDays : Nat) : RetentionState :=
  { s with
    tables := (s.tables.cleanupOldMetrics now aggregateRetentionDays).getD s.tables
    cutoffs := cutoffDate now aggregateRetentionDays :: s.cutoffs }

/-- A day that no cleanup has cut off. -/
def Retained (day : Day) : Prop := ∀ cutoff ∈ s.cutoffs, cutoff ≤ day

instance (day : Day) : Decidable (s.Retained day) :=
  inferInstanceAs (Decidable (∀ cutoff ∈ s.cutoffs, cutoff ≤ day))

/-- The requests processed of one day. -/
def processedOn (day : Day) : List RequestLogJob :=
  s.processed.filter fun job => utcDay job.createdAt == day

end RetentionState

/-- Processing, maintenance and restarts one after the other; every request is
processed once. -/
def retentionMachine : Machine RetentionState RetentionAction where
  initial s := s = .start
  step s
    | .process job =>
        if s.processed.any (·.requestId == job.requestId) then none
        else (processJob s.logs s.tables job).map fun after =>
          { s with logs := after.1, tables := after.2, processed := s.processed ++ [job] }
    | .retentionSweep now rawRetentionDays keepLatestPerScope =>
        some { s with logs := s.logs.retentionSweep now rawRetentionDays keepLatestPerScope }
    | .metricsCleanup now aggregateRetentionDays =>
        some (s.metricsCleanup now aggregateRetentionDays)
    | .restart now rawRetentionDays => some (s.restart now rawRetentionDays)

/-! ## Counts of a day -/

/-- The sum of `total_requests` over the rows of a day. -/
def requestsOn {κ : Type} [DecidableEq κ] (statDate : κ → Day) (t : Table κ Counters)
    (day : Day) : Nat :=
  (total (fun key => statDate key = day) t).totalRequests

section RequestsOn

variable {κ : Type} [DecidableEq κ] {statDate : κ → Day} {t : Table κ Counters} {day : Day}

theorem requestsOn_upsert (key : κ) (counters : Counters) :
    requestsOn statDate (upsert key counters t) day = requestsOn statDate t day +
      if statDate key = day then counters.totalRequests else 0 := by
  rw [requestsOn, requestsOn, total_upsert]
  split <;> rfl

/-- A deletion by date leaves the days that it does not match. -/
theorem requestsOn_deleteDates_of_kept (condition : Day → Bool) (hkept : condition day = false) :
    requestsOn statDate (deleteWhere (fun key => condition (statDate key)) t) day =
      requestsOn statDate t day := by
  rw [requestsOn, total_deleteWhere_of_kept fun key hdate => by rw [hdate, hkept]]
  rfl

theorem requestsOn_deleteDates_of_deleted (condition : Day → Bool)
    (hdeleted : condition day = true) :
    requestsOn statDate (deleteWhere (fun key => condition (statDate key)) t) day = 0 := by
  rw [requestsOn, total_deleteWhere_of_deleted fun key hdate => by rw [hdate, hdeleted]]
  rfl

end RequestsOn

namespace DailyTables

variable (t : DailyTables) (day : Day)

/-- The requests that the rpc rows of a day count. -/
def rpcRequestsOn : Nat := requestsOn RpcKey.statDate t.rpc day

/-- The requests that the device rows of a day count. -/
def deviceRequestsOn : Nat := requestsOn DeviceKey.statDate t.device day

variable {t day}

theorem rpcRequestsOn_add (c : Completion) :
    (t.add c).rpcRequestsOn day =
      t.rpcRequestsOn day + if c.key.statDate = day then c.counters.totalRequests else 0 :=
  requestsOn_upsert c.key c.counters

theorem deviceRequestsOn_add (c : Completion) :
    (t.add c).deviceRequestsOn day = t.deviceRequestsOn day +
      if c.device = true ∧ c.key.statDate = day then c.counters.totalRequests else 0 := by
  rw [deviceRequestsOn, DailyTables.add]
  cases c.device with
  | false => simp [deviceRequestsOn]
  | true =>
      simp only [true_and, if_true]
      exact requestsOn_upsert c.key.deviceKey c.counters

theorem requestsOn_dropFrom_of_lt {cutoff : Day} (hday : day < cutoff) :
    (t.dropFrom cutoff).rpcRequestsOn day = t.rpcRequestsOn day ∧
      (t.dropFrom cutoff).deviceRequestsOn day = t.deviceRequestsOn day := by
  have hkept : decide (cutoff ≤ day) = false := decide_eq_false (Int.not_le.mpr hday)
  exact ⟨requestsOn_deleteDates_of_kept (fun date => decide (cutoff ≤ date)) hkept,
    requestsOn_deleteDates_of_kept (fun date => decide (cutoff ≤ date)) hkept⟩

theorem requestsOn_dropFrom_of_le {cutoff : Day} (hday : cutoff ≤ day) :
    (t.dropFrom cutoff).rpcRequestsOn day = 0 ∧ (t.dropFrom cutoff).deviceRequestsOn day = 0 := by
  have hdeleted : decide (cutoff ≤ day) = true := decide_eq_true hday
  exact ⟨requestsOn_deleteDates_of_deleted (fun date => decide (cutoff ≤ date)) hdeleted,
    requestsOn_deleteDates_of_deleted (fun date => decide (cutoff ≤ date)) hdeleted⟩

/-- A cleanup deletes no row from its cutoff on. -/
theorem requestsOn_cleanupOldMetrics {now : Timestamp} {retentionDays : Nat}
    (hday : cutoffDate now retentionDays ≤ day) :
    ((t.cleanupOldMetrics now retentionDays).getD t).rpcRequestsOn day = t.rpcRequestsOn day ∧
      ((t.cleanupOldMetrics now retentionDays).getD t).deviceRequestsOn day =
        t.deviceRequestsOn day := by
  unfold cleanupOldMetrics
  dsimp only
  split
  · exact ⟨rfl, rfl⟩
  · generalize cutoffDate now retentionDays = cutoff at hday
    have hkept : decide (day < cutoff) = false := decide_eq_false (Int.not_lt.mpr hday)
    exact ⟨requestsOn_deleteDates_of_kept (fun date => decide (date < cutoff)) hkept,
      requestsOn_deleteDates_of_kept (fun date => decide (date < cutoff)) hkept⟩

/-- What the completions of some rows add to the counts of a day. -/
theorem requestsOn_foldl_add (day : Day) (rows : List RequestLogRow) (t : DailyTables) :
    ((rows.map (·.completion)).foldl add t).rpcRequestsOn day =
        t.rpcRequestsOn day + (rows.filter fun row => utcDay row.createdAt == day).length ∧
      ((rows.map (·.completion)).foldl add t).deviceRequestsOn day = t.deviceRequestsOn day +
        (rows.filter fun row => utcDay row.createdAt == day && row.clientId.isSome).length := by
  induction rows generalizing t with
  | nil => exact ⟨rfl, rfl⟩
  | cons row rows ih =>
      obtain ⟨hrpc, hdevice⟩ := ih (t.add row.completion)
      have hone : row.completion.counters.totalRequests = 1 := rfl
      rw [List.map_cons, List.foldl_cons, hrpc, hdevice, rpcRequestsOn_add, deviceRequestsOn_add,
        hone, List.filter_cons, List.filter_cons]
      simp only [RequestLogRow.completion, RequestLogRow.rpcKey]
      by_cases hday : utcDay row.createdAt = day
      · by_cases hclient : row.clientId.isSome = true
        · simp only [hday, hclient, if_true, and_self, beq_self_eq_true, Bool.and_self,
            List.length_cons]
          omega
        · simp only [hday, hclient, if_true, if_false, and_true, beq_self_eq_true, Bool.true_and,
            Bool.false_eq_true, List.length_cons]
          omega
      · simp [hday]

end DailyTables

/-! ## The invariant -/

/-- The job is counted as a request of a device. -/
def RequestLogJob.hasClient (job : RequestLogJob) : Bool := job.clientId.getD "" != ""

/-- Every request log belongs to one processed job. -/
structure RetentionState.Inv (s : RetentionState) : Prop where
  rows_distinct : (s.logs.rows.map (·.requestId)).Nodup
  processed_distinct : (s.processed.map (·.requestId)).Nodup
  stored : ∀ row ∈ s.logs.rows, ∃ job ∈ s.processed, StoredAs job row

/-- Every retained day counts the requests processed of it. -/
def RetentionState.Counted (s : RetentionState) : Prop :=
  ∀ day, s.Retained day →
    s.tables.rpcRequestsOn day = (s.processedOn day).length ∧
      s.tables.deviceRequestsOn day = ((s.processedOn day).filter (·.hasClient)).length

theorem StoredAs.markState {job : RequestLogJob} {row : RequestLogRow} (h : StoredAs job row)
    (payloadState : PayloadState) : StoredAs job { row with payloadState } :=
  ⟨h.requestId, h.projectName, h.actionName, h.clientId, h.status, h.latencyMs, h.createdAt⟩

theorem RequestLogs.markState_requestIds (logs : RequestLogs) (requestId : RequestId)
    (state : PayloadState) :
    (logs.markState requestId state).rows.map (·.requestId) = logs.rows.map (·.requestId) := by
  rw [RequestLogs.markState, List.map_map]
  refine List.map_congr_left fun row _ => ?_
  simp only [Function.comp]
  split <;> rfl

namespace RetentionState.Inv

variable {s t : RetentionState}

theorem start : RetentionState.start.Inv :=
  ⟨List.nodup_nil, List.nodup_nil, fun _ h => absurd h List.not_mem_nil⟩

/-- Fewer rows. -/
theorem shrink (h : s.Inv) {logs : RequestLogs} (hsub : logs.rows.Sublist s.logs.rows) :
    RetentionState.Inv { s with logs } where
  rows_distinct := h.rows_distinct.sublist (hsub.map _)
  processed_distinct := h.processed_distinct
  stored row hrow := h.stored row (hsub.subset hrow)

/-- A request that was not processed has no row. -/
theorem not_contains (h : s.Inv) {job : RequestLogJob}
    (hnew : s.processed.any (·.requestId == job.requestId) = false) :
    s.logs.contains job.requestId = false := by
  rw [RequestLogs.contains, List.any_eq_false]
  intro row hrow heq
  rcases h.stored row hrow with ⟨other, hother, hstored⟩
  refine List.any_eq_false.mp hnew other hother ?_
  rw [← hstored.requestId]
  exact heq

/-- What processing a job changes. -/
theorem process_cases (h : s.Inv) {job : RequestLogJob}
    (hstep : retentionMachine.step s (.process job) = some t) :
    ∃ row c, StoredAs job row ∧ job.completion = some c ∧
      job.requestId ∉ s.processed.map (·.requestId) ∧ t = { s with
        logs := (RequestLogs.mk (s.logs.rows ++ [row]) (s.logs.nextId + 1)).markState job.requestId
          .indexed
        tables := s.tables.add c
        processed := s.processed ++ [job] } := by
  simp only [retentionMachine] at hstep
  split at hstep
  · contradiction
  next hnew =>
    rw [Bool.not_eq_true] at hnew
    have hnot := h.not_contains hnew
    rcases Option.map_eq_some_iff.mp hstep with ⟨after, hafter, rfl⟩
    rcases Option.bind_eq_some_iff.mp hafter with ⟨written, hwritten, hcounted⟩
    rcases Option.map_eq_some_iff.mp hwritten with ⟨row, hrow, rfl⟩
    simp only [hnot, Bool.false_eq_true, if_false, if_true] at hcounted
    rcases Option.map_eq_some_iff.mp hcounted with ⟨tables, htables, rfl⟩
    rw [recordCompletion_eq] at htables
    rcases Option.map_eq_some_iff.mp htables with ⟨c, hc, rfl⟩
    refine ⟨row, c, storedAs_of_toRow hrow, hc, fun hmem => ?_, rfl⟩
    rcases List.mem_map.mp hmem with ⟨other, hother, heq⟩
    exact List.any_eq_false.mp hnew other hother (by simp [heq])

theorem process (h : s.Inv) {job : RequestLogJob}
    (hstep : retentionMachine.step s (.process job) = some t) : t.Inv := by
  rcases h.process_cases hstep with ⟨row, c, hrow, -, hfresh, rfl⟩
  refine ⟨?_, ?_, fun marked hmarked => ?_⟩
  · rw [RequestLogs.markState_requestIds, List.map_append]
    refine List.nodup_append.mpr ⟨h.rows_distinct, List.nodup_singleton _, ?_⟩
    intro requestId hold requestId' hnew
    rcases List.mem_map.mp hold with ⟨old, hmem, rfl⟩
    rw [List.map_singleton, List.mem_singleton] at hnew
    rcases h.stored old hmem with ⟨other, hother, hstored⟩
    rw [hnew, hrow.requestId, hstored.requestId]
    exact fun heq => hfresh (heq ▸ List.mem_map_of_mem hother)
  · rw [List.map_append]
    refine List.nodup_append.mpr ⟨h.processed_distinct, List.nodup_singleton _, ?_⟩
    intro requestId hold requestId' hnew
    rw [List.map_singleton, List.mem_singleton] at hnew
    exact fun heq => hfresh (hnew ▸ heq ▸ hold)
  · rcases List.mem_map.mp hmarked with ⟨old, hold, rfl⟩
    have hstored : ∃ job' ∈ s.processed ++ [job], StoredAs job' old := by
      rcases List.mem_append.mp hold with hmem | hmem
      · rcases h.stored old hmem with ⟨other, hother, hstored⟩
        exact ⟨other, List.mem_append_left _ hother, hstored⟩
      · rw [List.mem_singleton.mp hmem]
        exact ⟨job, List.mem_append_right _ (List.mem_singleton_self job), hrow⟩
    rcases hstored with ⟨other, hother, hstored⟩
    refine ⟨other, hother, ?_⟩
    split
    · exact hstored.markState _
    · exact hstored

theorem step (h : s.Inv) {a : RetentionAction} (hstep : retentionMachine.step s a = some t) :
    t.Inv := by
  cases a with
  | process job => exact h.process hstep
  | retentionSweep now rawRetentionDays keepLatestPerScope =>
      rw [← Option.some.inj hstep]
      exact h.shrink (List.filter_sublist.trans List.filter_sublist)
  | metricsCleanup now aggregateRetentionDays =>
      rw [← Option.some.inj hstep]
      exact ⟨h.rows_distinct, h.processed_distinct, h.stored⟩
  | restart now rawRetentionDays =>
      rw [← Option.some.inj hstep]
      exact ⟨h.rows_distinct, h.processed_distinct, h.stored⟩

end RetentionState.Inv

/-! ## What a restart finds -/

/-- Two lists keyed without duplicates, the keys of one among those of the other. -/
theorem length_eq_iff_keys_subset {α β κ : Type} {f : α → κ} {g : β → κ} {l₁ : List α}
    {l₂ : List β} (h₁ : (l₁.map f).Nodup) (hsub : l₁.map f ⊆ l₂.map g) (h₂ : (l₂.map g).Nodup) :
    l₁.length = l₂.length ↔ l₂.map g ⊆ l₁.map f := by
  have hle := (List.subperm_of_subset h₁ hsub).length_le
  rw [List.length_map, List.length_map] at hle
  constructor
  · intro hlength
    refine ((List.subperm_of_subset h₁ hsub).perm_of_length_le ?_).symm.subset
    rw [List.length_map, List.length_map]
    exact Nat.le_of_eq hlength.symm
  · intro hback
    have hge := (List.subperm_of_subset h₂ hback).length_le
    rw [List.length_map, List.length_map] at hge
    exact Nat.le_antisymm hle hge

namespace RetentionState.Inv

variable {s : RetentionState} {day : Day}

/-- The rows of a day that are left. -/
def rowsOn (s : RetentionState) (day : Day) : List RequestLogRow :=
  s.logs.rows.filter fun row => utcDay row.createdAt == day

/-- A row is the row of the processed job with its id. -/
theorem storedAs_of_requestId (h : s.Inv) {row : RequestLogRow} (hrow : row ∈ s.logs.rows)
    {job : RequestLogJob} (hjob : job ∈ s.processed) (hid : row.requestId = job.requestId) :
    StoredAs job row := by
  rcases h.stored row hrow with ⟨other, hother, hstored⟩
  have heq : other = job := List.inj_on_of_nodup_map h.processed_distinct hother hjob
    (hstored.requestId.symm.trans hid)
  exact heq ▸ hstored

theorem mem_processedOn {job : RequestLogJob} :
    job ∈ s.processedOn day ↔ job ∈ s.processed ∧ utcDay job.createdAt = day := by
  simp [RetentionState.processedOn]

theorem mem_rowsOn {row : RequestLogRow} :
    row ∈ rowsOn s day ↔ row ∈ s.logs.rows ∧ utcDay row.createdAt = day := by
  simp [rowsOn]

/-- The rows of a day are as many as its requests when each request has a row. -/
theorem rowsOn_length_iff (h : s.Inv) :
    (rowsOn s day).length = (s.processedOn day).length ↔
      ∀ job ∈ s.processedOn day, s.logs.contains job.requestId = true := by
  have hrows : ((rowsOn s day).map (·.requestId)).Nodup :=
    h.rows_distinct.sublist (List.filter_sublist.map _)
  have hjobs : ((s.processedOn day).map (·.requestId)).Nodup :=
    h.processed_distinct.sublist (List.filter_sublist.map _)
  have hsub : (rowsOn s day).map (·.requestId) ⊆ (s.processedOn day).map (·.requestId) := by
    intro requestId hmem
    rcases List.mem_map.mp hmem with ⟨row, hrow, rfl⟩
    rw [mem_rowsOn] at hrow
    rcases h.stored row hrow.1 with ⟨job, hjob, hstored⟩
    refine List.mem_map.mpr ⟨job, mem_processedOn.mpr ⟨hjob, ?_⟩, hstored.requestId.symm⟩
    rw [← hstored.createdAt]
    exact hrow.2
  rw [length_eq_iff_keys_subset hrows hsub hjobs]
  constructor
  · intro hback job hjob
    rcases List.mem_map.mp (hback (List.mem_map_of_mem hjob)) with ⟨row, hrow, hid⟩
    exact List.any_eq_true.mpr ⟨row, (mem_rowsOn.mp hrow).1, by simp [hid]⟩
  · intro hall requestId hmem
    rcases List.mem_map.mp hmem with ⟨job, hjob, rfl⟩
    rcases List.any_eq_true.mp (hall job hjob) with ⟨row, hrow, hid⟩
    rw [beq_iff_eq] at hid
    rw [mem_processedOn] at hjob
    have hstored := h.storedAs_of_requestId hrow hjob.1 hid
    refine List.mem_map.mpr ⟨row, mem_rowsOn.mpr ⟨hrow, ?_⟩, hid⟩
    rw [hstored.createdAt]
    exact hjob.2

/-- The client id of a stored row is `NULL` exactly when the job's is `null`. -/
theorem clientId_isSome {job : RequestLogJob} {row : RequestLogRow} (h : StoredAs job row) :
    row.clientId.isSome = job.clientId.isSome := by
  have hstored := h.clientId
  cases hjob : job.clientId with
  | none =>
      rw [hjob, nullable, Option.some.injEq] at hstored
      rw [← hstored]
  | some text =>
      rw [hjob, nullable, Option.map_eq_some_iff] at hstored
      rcases hstored with ⟨stored, -, heq⟩
      rw [← heq]
      rfl

theorem hasClient_iff {job : RequestLogJob} :
    job.hasClient = true ↔ job.clientId.isSome = true ∧ job.clientId ≠ some "" := by
  unfold RequestLogJob.hasClient
  cases job.clientId with
  | none => simp
  | some text => simp

/-- Where no request has lost its row, the rows with a client id are as many as
the requests of a device when none of them has the empty client id. -/
theorem clientRowsOn_length_iff (h : s.Inv)
    (hall : ∀ job ∈ s.processedOn day, s.logs.contains job.requestId = true) :
    ((rowsOn s day).filter (·.clientId.isSome)).length =
        ((s.processedOn day).filter (·.hasClient)).length ↔
      ∀ job ∈ s.processedOn day, job.clientId ≠ some "" := by
  have hrows : (((rowsOn s day).filter (·.clientId.isSome)).map (·.requestId)).Nodup :=
    h.rows_distinct.sublist ((List.filter_sublist.trans List.filter_sublist).map _)
  have hjobs : (((s.processedOn day).filter (·.hasClient)).map (·.requestId)).Nodup :=
    h.processed_distinct.sublist ((List.filter_sublist.trans List.filter_sublist).map _)
  have hsub : ((s.processedOn day).filter (·.hasClient)).map (·.requestId) ⊆
      ((rowsOn s day).filter (·.clientId.isSome)).map (·.requestId) := by
    intro requestId hmem
    rcases List.mem_map.mp hmem with ⟨job, hjob, rfl⟩
    rcases List.mem_filter.mp hjob with ⟨hjob, hclient⟩
    rcases List.any_eq_true.mp (hall job hjob) with ⟨row, hrow, hid⟩
    rw [beq_iff_eq] at hid
    have hmem := mem_processedOn.mp hjob
    have hstored := h.storedAs_of_requestId hrow hmem.1 hid
    refine List.mem_map.mpr ⟨row, List.mem_filter.mpr ⟨mem_rowsOn.mpr ⟨hrow, ?_⟩, ?_⟩, hid⟩
    · rw [hstored.createdAt]
      exact hmem.2
    · rw [clientId_isSome hstored]
      exact (hasClient_iff.mp hclient).1
  rw [eq_comm, length_eq_iff_keys_subset hjobs hsub hrows]
  constructor
  · intro hback job hjob hempty
    rcases List.any_eq_true.mp (hall job hjob) with ⟨row, hrow, hid⟩
    rw [beq_iff_eq] at hid
    have hmem := mem_processedOn.mp hjob
    have hstored := h.storedAs_of_requestId hrow hmem.1 hid
    have hrowOn : row ∈ (rowsOn s day).filter (·.clientId.isSome) := by
      refine List.mem_filter.mpr ⟨mem_rowsOn.mpr ⟨hrow, ?_⟩, ?_⟩
      · rw [hstored.createdAt]
        exact hmem.2
      · rw [clientId_isSome hstored, hempty]
        rfl
    rcases List.mem_map.mp (hback (List.mem_map_of_mem hrowOn)) with ⟨other, hother, hotherId⟩
    rcases List.mem_filter.mp hother with ⟨hother, hclient⟩
    have heq : other = job := List.inj_on_of_nodup_map h.processed_distinct
      (mem_processedOn.mp hother).1 hmem.1 (hotherId.trans hid)
    exact (hasClient_iff.mp hclient).2 (heq ▸ hempty)
  · intro hnone requestId hmem
    rcases List.mem_map.mp hmem with ⟨row, hrow, rfl⟩
    rcases List.mem_filter.mp hrow with ⟨hrow, hclient⟩
    rw [mem_rowsOn] at hrow
    rcases h.stored row hrow.1 with ⟨job, hjob, hstored⟩
    have hjobOn : job ∈ s.processedOn day := by
      refine mem_processedOn.mpr ⟨hjob, ?_⟩
      rw [← hstored.createdAt]
      exact hrow.2
    rw [clientId_isSome hstored] at hclient
    exact List.mem_map.mpr ⟨job, List.mem_filter.mpr ⟨hjobOn,
      hasClient_iff.mpr ⟨hclient, hnone job hjobOn⟩⟩, hstored.requestId.symm⟩

/-- The counts after a rebuild: as before on the days before the window, and the
rows that are left on the days inside it. -/
theorem requestsOn_rebuilt (s : RetentionState) (cutoff day : Day) :
    let rebuilt := ((inWindow cutoff s.logs.rows).map (·.completion)).foldl DailyTables.add
      (s.tables.dropFrom cutoff)
    (day < cutoff → rebuilt.rpcRequestsOn day = s.tables.rpcRequestsOn day ∧
        rebuilt.deviceRequestsOn day = s.tables.deviceRequestsOn day) ∧
      (cutoff ≤ day → rebuilt.rpcRequestsOn day = (rowsOn s day).length ∧
        rebuilt.deviceRequestsOn day = ((rowsOn s day).filter (·.clientId.isSome)).length) := by
  obtain ⟨hrpc, hdevice⟩ := DailyTables.requestsOn_foldl_add day
    (inWindow cutoff s.logs.rows) (s.tables.dropFrom cutoff)
  constructor
  · intro hday
    obtain ⟨hrpc₀, hdevice₀⟩ := DailyTables.requestsOn_dropFrom_of_lt (t := s.tables) hday
    have hnone : ∀ row ∈ inWindow cutoff s.logs.rows, ¬ utcDay row.createdAt = day :=
      fun row hrow heq => absurd (heq ▸ (mem_inWindow.mp hrow).2) (Int.not_le.mpr hday)
    rw [hrpc, hdevice, hrpc₀, hdevice₀, List.filter_eq_nil_iff.mpr, List.filter_eq_nil_iff.mpr]
    · exact ⟨rfl, rfl⟩
    · intro row hrow
      simp [hnone row hrow]
    · intro row hrow
      simp [hnone row hrow]
  · intro hday
    obtain ⟨hrpc₀, hdevice₀⟩ := DailyTables.requestsOn_dropFrom_of_le (t := s.tables) hday
    have hinside : ∀ P : RequestLogRow → Bool, (inWindow cutoff s.logs.rows).filter
        (fun row => utcDay row.createdAt == day && P row) = (rowsOn s day).filter P := by
      intro P
      rw [inWindow_eq, rowsOn, List.filter_filter, List.filter_filter]
      refine List.filter_congr fun row _ => ?_
      by_cases heq : utcDay row.createdAt = day
      · have hinWindow : decide (cutoff ≤ utcDay row.createdAt) = true := decide_eq_true (heq ▸ hday)
        rw [hinWindow, Bool.and_true, Bool.and_comm]
      · rw [beq_false_of_ne heq, Bool.false_and, Bool.false_and, Bool.and_false]
    have hall := hinside fun _ => true
    simp only [Bool.and_true, List.filter_true] at hall
    rw [hrpc, hdevice, hrpc₀, hdevice₀, hinside, hall, Nat.zero_add, Nat.zero_add]
    exact ⟨rfl, rfl⟩

end RetentionState.Inv

/-- What a restart needs: of every retained day in the window, the request logs
still hold the row of every request, and no request has the empty client id.  A
window that begins before the first date makes the rebuild fail. -/
def RetentionState.RestartComplete (s : RetentionState) (now : Timestamp)
    (rawRetentionDays : Nat) : Prop :=
  cutoffDate now rawRetentionDays < firstDate ∨
    ∀ job ∈ s.processed, cutoffDate now rawRetentionDays ≤ utcDay job.createdAt →
      s.Retained (utcDay job.createdAt) →
        s.logs.contains job.requestId = true ∧ job.clientId ≠ some ""

instance (s : RetentionState) (now : Timestamp) (rawRetentionDays : Nat) :
    Decidable (s.RestartComplete now rawRetentionDays) :=
  inferInstanceAs (Decidable (_ ∨ ∀ job ∈ s.processed, _ → _ → _ ∧ _))

/-- A restart keeps the counts exactly when it finds every request it recounts. -/
theorem restart_counted_iff {s : RetentionState} (h : s.Inv) (hcounted : s.Counted)
    (now : Timestamp) (rawRetentionDays : Nat) :
    (s.restart now rawRetentionDays).Counted ↔ s.RestartComplete now rawRetentionDays := by
  by_cases hdate : cutoffDate now rawRetentionDays < firstDate
  · have hnone : s.tables.rebuildRecent s.logs.rows now rawRetentionDays = none := by
      rw [DailyTables.rebuildRecent, if_pos hdate]
    have hsame : s.restart now rawRetentionDays = s := by
      rw [RetentionState.restart, hnone]
      rfl
    rw [hsame]
    exact iff_of_true hcounted (Or.inl hdate)
  · have hrebuilt := rebuildRecent_eq s.tables s.logs.rows now rawRetentionDays
      (Int.not_lt.mp hdate)
    rw [RetentionState.RestartComplete, or_iff_right hdate]
    generalize cutoffDate now rawRetentionDays = cutoff at hrebuilt
    have hcounts := RetentionState.Inv.requestsOn_rebuilt s cutoff
    have htables : (s.restart now rawRetentionDays).tables =
        ((inWindow cutoff s.logs.rows).map (·.completion)).foldl DailyTables.add
          (s.tables.dropFrom cutoff) := by
      rw [RetentionState.restart, hrebuilt]
      rfl
    simp only [← htables] at hcounts
    constructor
    · intro hafter job hjob hday hretained
      obtain ⟨hrpc, hdevice⟩ := hafter (utcDay job.createdAt) hretained
      rw [((hcounts _).2 hday).1] at hrpc
      rw [((hcounts _).2 hday).2] at hdevice
      have hjobOn : job ∈ s.processedOn (utcDay job.createdAt) :=
        RetentionState.Inv.mem_processedOn.mpr ⟨hjob, rfl⟩
      have hall := h.rowsOn_length_iff.mp hrpc
      exact ⟨hall job hjobOn, (h.clientRowsOn_length_iff hall).mp hdevice job hjobOn⟩
    · intro hcomplete day hretained
      rcases Int.lt_or_le day cutoff with hday | hday
      · rw [((hcounts day).1 hday).1, ((hcounts day).1 hday).2]
        exact hcounted day hretained
      · rw [((hcounts day).2 hday).1, ((hcounts day).2 hday).2]
        have hjobs : ∀ job ∈ s.processedOn day,
            s.logs.contains job.requestId = true ∧ job.clientId ≠ some "" := by
          intro job hjob
          rcases RetentionState.Inv.mem_processedOn.mp hjob with ⟨hmem, rfl⟩
          exact hcomplete job hmem hday hretained
        have hall : ∀ job ∈ s.processedOn day, s.logs.contains job.requestId = true :=
          fun job hjob => (hjobs job hjob).1
        exact ⟨h.rowsOn_length_iff.mpr hall,
          (h.clientRowsOn_length_iff hall).mpr fun job hjob => (hjobs job hjob).2⟩

/-! ## Whole runs -/

namespace RetentionState

variable {s t : RetentionState}

theorem counted_start : RetentionState.start.Counted := by
  intro day _
  exact ⟨rfl, rfl⟩

/-- A processed job is one more request of its day. -/
theorem Counted.process (hcounted : s.Counted) (h : s.Inv) {job : RequestLogJob}
    (hstep : retentionMachine.step s (.process job) = some t) : t.Counted := by
  rcases h.process_cases hstep with ⟨row, c, -, hc, -, rfl⟩
  intro day hretained
  obtain ⟨hrpc, hdevice⟩ := hcounted day hretained
  have hone : c.counters.totalRequests = 1 := completion_totalRequests hc
  have hkey : c.key.statDate = utcDay job.createdAt ∧ c.device = job.hasClient := by
    simp only [RequestLogJob.completion, Option.bind_eq_bind, Option.bind_eq_some_iff,
      Option.pure_def, Option.some.injEq] at hc
    obtain ⟨_, -, _, -, _, -, _, -, rfl⟩ := hc
    exact ⟨rfl, rfl⟩
  simp only [DailyTables.rpcRequestsOn_add, DailyTables.deviceRequestsOn_add, hrpc, hdevice, hone,
    hkey.1, hkey.2, processedOn, List.filter_append, List.filter_cons, List.filter_nil]
  by_cases hday : utcDay job.createdAt = day
  · cases hclient : job.hasClient with
    | false => simp [hday, hclient]
    | true => simp [hday, hclient]
  · simp [hday]

theorem Counted.metricsCleanup (hcounted : s.Counted) (now : Timestamp)
    (aggregateRetentionDays : Nat) : (s.metricsCleanup now aggregateRetentionDays).Counted := by
  intro day hretained
  have hday : cutoffDate now aggregateRetentionDays ≤ day := hretained _ List.mem_cons_self
  obtain ⟨hrpc, hdevice⟩ := DailyTables.requestsOn_cleanupOldMetrics (t := s.tables) hday
  rw [RetentionState.metricsCleanup, hrpc, hdevice]
  exact hcounted day fun cutoff hcutoff => hretained cutoff (List.mem_cons_of_mem _ hcutoff)

end RetentionState

/-- The condition on a step: a restart is complete. -/
def RetentionCondition (s : RetentionState) : RetentionAction → Prop
  | .restart now rawRetentionDays => s.RestartComplete now rawRetentionDays
  | _ => True

instance (s : RetentionState) : (a : RetentionAction) → Decidable (RetentionCondition s a)
  | .restart now rawRetentionDays =>
      inferInstanceAs (Decidable (s.RestartComplete now rawRetentionDays))
  | .process _ | .retentionSweep .. | .metricsCleanup .. => isTrue trivial

/-- Along a run, both tables count every request of every retained day at every
moment exactly when every restart is complete. -/
theorem counted_iff (as : List RetentionAction) (s : RetentionState)
    (hrun : retentionMachine.run .start as = some s) :
    (∀ pre post t, as = pre ++ post → retentionMachine.run .start pre = some t →
      ∀ day, t.Retained day →
        t.tables.rpcRequestsOn day = (t.processedOn day).length ∧
          t.tables.deviceRequestsOn day = ((t.processedOn day).filter (·.hasClient)).length) ↔
      retentionMachine.Meets RetentionCondition .start as := by
  refine (Machine.meets_iff_always (I := RetentionState.Inv) (G := RetentionState.Counted)
    (fun h hstep => h.step hstep) (fun {s a t} h hcounted hstep => ?_) .start
    RetentionState.counted_start hrun).symm
  cases a with
  | process job => exact iff_of_true (hcounted.process h hstep) trivial
  | retentionSweep now rawRetentionDays keepLatestPerScope =>
      rw [← Option.some.inj hstep]
      exact iff_of_true hcounted trivial
  | metricsCleanup now aggregateRetentionDays =>
      rw [← Option.some.inj hstep]
      exact iff_of_true (hcounted.metricsCleanup now aggregateRetentionDays) trivial
  | restart now rawRetentionDays =>
      rw [← Option.some.inj hstep]
      exact restart_counted_iff h hcounted now rawRetentionDays

/-- Two requests, a sweep that keeps both, a cleanup and a restart. -/
def sampleMaintenance : List RetentionAction :=
  [.process (sampleJob 1 (some "device-a") "ok" (some 10)),
    .process (sampleJob 2 none "timeout" none), .retentionSweep 5000 7 2,
    .metricsCleanup 5000 30, .restart 6000 7]

theorem counted_iff_sample :
    ∃ s, retentionMachine.run .start sampleMaintenance = some s ∧
      s.tables.rpcRequestsOn 0 = (s.processedOn 0).length := by
  refine ⟨_, rfl, ?_⟩
  have hcomplete : retentionMachine.Meets RetentionCondition .start sampleMaintenance := by decide
  exact (((counted_iff sampleMaintenance _ rfl).mpr hcomplete) sampleMaintenance [] _ rfl rfl 0
    (by decide)).1

/-- Three requests of one action and device on one day; the sweep keeps the latest
one, and the restart counts that one only. -/
theorem trimmed_requests_uncounted :
    ∃ s, retentionMachine.run .start
        [.process (sampleJob 1 (some "device-a") "ok" (some 10)),
          .process (sampleJob 2 (some "device-a") "ok" (some 20)),
          .process (sampleJob 3 (some "device-a") "ok" (some 30)),
          .retentionSweep 5000 7 1, .restart 6000 7] = some s ∧
      s.Retained 0 ∧ s.tables.rpcRequestsOn 0 = 1 ∧ (s.processedOn 0).length = 3 := by
  exact ⟨_, rfl, by decide, by decide, by decide⟩

end Metrics
end R2RPC
