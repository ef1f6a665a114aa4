import Mathlib.Data.List.Nodup
import R2RPC.Metrics.Tables

/-!
# Incremental aggregation and the rebuild

Both ways of filling the daily tables add up completions: {lit}`recordCompletion`
adds one, and {lit}`rebuildRecent` deletes the rows of a window and inserts groups
of request logs, which is the same as adding the completion of every row in the
window.  They part where a completion of one is not a completion of the other.

Main results:

- Theorem {lit}`recordCompletion_eq`: one completed request adds one completion.
- Theorem {lit}`rebuildRecent_eq`: a rebuild adds the completions of the rows left.
- Theorem {lit}`incremental_eq_rebuild_iff`: when the two agree.
-/

namespace R2RPC
namespace Metrics

open Aggregates

/-! ## Completions -/

/-- The device row that an rpc row counts towards. -/
def RpcKey.deviceKey (key : RpcKey) : DeviceKey := ⟨key.statDate, key.clientId, key.projectName⟩

/-- One request as the daily tables see it. -/
structure Completion where
  key : RpcKey
  counters : Counters
  /-- The request is counted in the device table too. -/
  device : Bool
deriving DecidableEq, Repr

/-- Count a completion. -/
def DailyTables.add (t : DailyTables) (c : Completion) : DailyTables where
  rpc := upsert c.key c.counters t.rpc
  device := if c.device then upsert c.key.deviceKey c.counters t.device else t.device

/-- Forget the days from a cutoff on. -/
def DailyTables.dropFrom (t : DailyTables) (cutoff : Day) : DailyTables where
  rpc := deleteWhere (fun key => decide (cutoff ≤ key.statDate)) t.rpc
  device := deleteWhere (fun key => decide (cutoff ≤ key.statDate)) t.device

/-- What the rebuild counts for a row. -/
def RequestLogRow.completion (row : RequestLogRow) : Completion where
  key := row.rpcKey
  counters := completedOnce row.status (row.latencyMs.getD 0)
  device := row.clientId.isSome

/-- What `recordCompletion` counts for a job. -/
def RequestLogJob.completion (job : RequestLogJob) : Option Completion := do
  let projectName ← varchar 128 job.project
  let actionName ← varchar 128 job.action
  let clientId ← varchar 128 (job.clientId.getD "")
  let latencyMilliseconds ← int4 (job.latencyMs.getD 0)
  return {
    key := ⟨utcDay job.createdAt, projectName, actionName, clientId⟩
    counters := completedOnce job.status latencyMilliseconds
    device := job.clientId.getD "" != "" }

theorem recordCompletion_eq (t : DailyTables) (job : RequestLogJob) :
    t.recordCompletion job = job.completion.map t.add := by
  unfold DailyTables.recordCompletion RequestLogJob.completion
  cases varchar 128 job.project with
  | none => rfl
  | some projectName =>
      cases varchar 128 job.action with
      | none => rfl
      | some actionName =>
          cases varchar 128 (job.clientId.getD "") with
          | none => rfl
          | some clientId =>
              cases int4 (job.latencyMs.getD 0) with
              | none => rfl
              | some latencyMilliseconds =>
                  by_cases hclient : job.clientId.getD "" = ""
                  · simp [DailyTables.add, hclient]
                  · simp [DailyTables.add, RpcKey.deviceKey, hclient]

/-! ## The two queries -/

/-- The filters of the queries count what `classify` says of a status. -/
theorem classify_eq (status : String) :
    (classify status).success = (if status == "ok" then 1 else 0) ∧
      (classify status).failed = (if status != "ok" && status != "timeout" then 1 else 0) ∧
      (classify status).timeout = (if status == "timeout" then 1 else 0) := by
  unfold classify
  by_cases hok : status = "ok"
  · simp [hok]
  · by_cases htimeout : status = "timeout"
    · simp [htimeout]
    · simp [hok, htimeout]

theorem aggregate_cons (row : RequestLogRow) (group : List RequestLogRow) :
    aggregate (row :: group) = row.completion.counters + aggregate group := by
  obtain ⟨hsuccess, hfailed, htimeout⟩ := classify_eq row.status
  ext
  · simp [aggregate, RequestLogRow.completion, completedOnce, Nat.add_comm]
  · simp only [aggregate, RequestLogRow.completion, completedOnce, Counters.successRequests_add,
      hsuccess, List.filter_cons]
    split <;> simp_all [Nat.add_comm]
  · simp only [aggregate, RequestLogRow.completion, completedOnce, Counters.failedRequests_add,
      hfailed, List.filter_cons]
    split <;> simp_all [Nat.add_comm]
  · simp only [aggregate, RequestLogRow.completion, completedOnce, Counters.timeoutRequests_add,
      htimeout, List.filter_cons]
    split <;> simp_all [Nat.add_comm]
  · cases hlatency : row.latencyMs with
    | none => simp [aggregate, RequestLogRow.completion, completedOnce, hlatency]
    | some latency => simp [aggregate, RequestLogRow.completion, completedOnce, hlatency]
  · cases hlatency : row.latencyMs with
    | none => simp [aggregate, RequestLogRow.completion, completedOnce, hlatency]
    | some latency =>
        cases hrest : (group.filterMap (·.latencyMs)).max? with
        | none => simp [aggregate, RequestLogRow.completion, completedOnce, hlatency, hrest,
            List.max?_cons]
        | some greatest => simp [aggregate, RequestLogRow.completion, completedOnce, hlatency,
            hrest, List.max?_cons]

/-- Every aggregate function of the queries is a sum over the rows. -/
theorem aggregate_eq_sum (group : List RequestLogRow) :
    aggregate group = (group.map (·.completion.counters)).sum := by
  induction group with
  | nil => rfl
  | cons row group ih => rw [aggregate_cons, ih, List.map_cons, List.sum_cons]

/-- The window is made of whole days. -/
theorem inWindow_eq (cutoff : Day) (rows : List RequestLogRow) :
    inWindow cutoff rows = rows.filter fun row => decide (cutoff ≤ utcDay row.createdAt) := by
  refine List.filter_congr fun row _ => ?_
  simp only [utcDay, Int.le_ediv_iff_mul_le (by decide : (0 : Int) < millisecondsPerDay)]

theorem mem_inWindow {cutoff : Day} {rows : List RequestLogRow} {row : RequestLogRow} :
    row ∈ inWindow cutoff rows ↔ row ∈ rows ∧ cutoff ≤ utcDay row.createdAt := by
  rw [inWindow_eq, List.mem_filter, decide_eq_true_eq]

theorem foldl_add_rpc (cs : List Completion) (t : DailyTables) :
    (cs.foldl DailyTables.add t).rpc =
      cs.foldl (fun rpc c => upsert c.key c.counters rpc) t.rpc := by
  induction cs generalizing t with
  | nil => rfl
  | cons c cs ih => exact ih (t.add c)

theorem foldl_add_device (cs : List Completion) (t : DailyTables) :
    (cs.foldl DailyTables.add t).device =
      (cs.filter (·.device)).foldl (fun device c => upsert c.key.deviceKey c.counters device)
        t.device := by
  induction cs generalizing t with
  | nil => rfl
  | cons c cs ih =>
      rw [List.foldl_cons, ih]
      cases hdevice : c.device with
      | true => simp [DailyTables.add, hdevice]
      | false => simp [DailyTables.add, hdevice]

/-- The deletions make room for the insertions, and these add the completions of
the rows in the window. -/
theorem rebuildRecent_eq (t : DailyTables) (rows : List RequestLogRow) (now : Timestamp)
    (days : Nat) (hdate : firstDate ≤ cutoffDate now days) :
    t.rebuildRecent rows now days =
      some (((inWindow (cutoffDate now days) rows).map (·.completion)).foldl DailyTables.add
        (t.dropFrom (cutoffDate now days))) := by
  generalize hcutoff : cutoffDate now days = cutoff at hdate
  have hrecent : ∀ row ∈ inWindow cutoff rows, cutoff ≤ utcDay row.createdAt :=
    fun row hrow => (mem_inWindow.mp hrow).2
  have hrpc : ∀ row ∈ inWindow cutoff rows, row.rpcKey ∉ (t.dropFrom cutoff).rpc := by
    intro row hrow
    rw [DailyTables.dropFrom, mem_deleteWhere]
    simp [RequestLogRow.rpcKey, hrecent row hrow]
  have hdevice : ∀ row ∈ (inWindow cutoff rows).filter (·.clientId.isSome),
      row.deviceKey ∉ (t.dropFrom cutoff).device := by
    intro row hrow
    rw [DailyTables.dropFrom, mem_deleteWhere]
    simp [RequestLogRow.deviceKey, hrecent row (List.mem_of_mem_filter hrow)]
  have hsum : ∀ group : List RequestLogRow, group ≠ [] →
      aggregate group = (group.map (·.completion.counters)).sum := fun group _ =>
    aggregate_eq_sum group
  unfold DailyTables.rebuildRecent
  rw [hcutoff, if_neg (Int.not_lt.mpr hdate)]
  change (insertSelect (t.dropFrom cutoff).rpc _).bind (fun rpc =>
    (insertSelect (t.dropFrom cutoff).device _).bind fun device =>
      some (DailyTables.mk rpc device)) = _
  rw [insertSelect_groupBy hsum hrpc, insertSelect_groupBy hsum hdevice, Option.bind_some,
    Option.bind_some, Option.some.injEq]
  generalize inWindow cutoff rows = recent
  have hfilter : (recent.map (·.completion)).filter (·.device) =
      (recent.filter (·.clientId.isSome)).map (·.completion) := by
    rw [List.filter_map]
    rfl
  ext1
  · rw [foldl_add_rpc, List.foldl_map]
    rfl
  · rw [foldl_add_device, hfilter, List.foldl_map]
    rfl

/-! ## What the columns do to a job -/

/-- A text is stored as it is, or cut to the width of its column. -/
theorem varchar_eq_some {limit : Nat} {text stored : String}
    (h : varchar limit text = some stored) :
    stored = text ∨ (limit < text.length ∧ stored.length = limit) := by
  unfold varchar at h
  split at h
  · contradiction
  · split at h
    · exact Or.inl (Option.some.inj h).symm
    next hlong =>
      split at h
      · right
        rw [← Option.some.inj h, String.length_ofList, List.length_take, String.length_toList]
        omega
      · contradiction

/-- A column does not turn a text into a shorter one that it was not. -/
theorem varchar_eq_iff {limit : Nat} {text stored word : String}
    (h : varchar limit text = some stored) (hword : word.length < limit) :
    stored = word ↔ text = word := by
  rcases varchar_eq_some h with rfl | ⟨hlong, hlength⟩
  · exact Iff.rfl
  · constructor
    · rintro rfl
      omega
    · rintro rfl
      omega

/-- The columns that `recordCompletion` writes accept the job. -/
def RequestLogJob.fitsDailyMetrics (job : RequestLogJob) : Bool :=
  (varchar 128 job.project).isSome && (varchar 128 job.action).isSome &&
    (varchar 128 (job.clientId.getD "")).isSome && (int4 (job.latencyMs.getD 0)).isSome

/-- The columns that `writeSpine` writes accept the job. -/
def RequestLogJob.fitsRequestLogs (job : RequestLogJob) : Bool :=
  job.fitsDailyMetrics && (nullable (varchar 128) job.clientRequestId).isSome &&
    (nullable signedInt4 job.requesterUserId).isSome &&
    (nullable signedInt4 job.accessTokenId).isSome && (varchar 32 job.status).isSome &&
    (nullable signedInt4 job.httpCode).isSome && (nullable (varchar 1024) job.error).isSome

theorem completion_isSome (job : RequestLogJob) :
    job.completion.isSome = job.fitsDailyMetrics := by
  unfold RequestLogJob.completion RequestLogJob.fitsDailyMetrics
  cases varchar 128 job.project with
  | none => rfl
  | some projectName =>
      cases varchar 128 job.action with
      | none => rfl
      | some actionName =>
          cases varchar 128 (job.clientId.getD "") with
          | none => rfl
          | some clientId => cases int4 (job.latencyMs.getD 0) <;> rfl

theorem varchar_nullable_client {clientId : Option String} :
    (varchar 128 (clientId.getD "")).isSome = (nullable (varchar 128) clientId).isSome := by
  cases clientId with
  | none => decide
  | some text => cases h : varchar 128 text <;> simp [nullable, h]

theorem int4_nullable_latency {latencyMs : Option Nat} :
    (int4 (latencyMs.getD 0)).isSome = (nullable int4 latencyMs).isSome := by
  cases latencyMs with
  | none => rfl
  | some latency => cases h : int4 latency <;> simp [nullable, h]

/-- The stored columns of a row that the rebuild reads. -/
structure StoredAs (job : RequestLogJob) (row : RequestLogRow) : Prop where
  requestId : row.requestId = job.requestId
  projectName : varchar 128 job.project = some row.projectName
  actionName : varchar 128 job.action = some row.actionName
  clientId : nullable (varchar 128) job.clientId = some row.clientId
  status : varchar 32 job.status = some row.status
  latencyMs : nullable int4 job.latencyMs = some row.latencyMs
  createdAt : row.createdAt = job.createdAt

/-- A row holds what its columns accept of the job. -/
theorem storedAs_and_fits_of_toRow {job : RequestLogJob} {id : Nat} {state : PayloadState}
    {row : RequestLogRow} (h : job.toRow id state = some row) :
    StoredAs job row ∧ job.fitsRequestLogs = true := by
  obtain ⟨_, hproject, h⟩ := Option.bind_eq_some_iff.mp h
  obtain ⟨_, haction, h⟩ := Option.bind_eq_some_iff.mp h
  obtain ⟨_, hclient, h⟩ := Option.bind_eq_some_iff.mp h
  obtain ⟨_, hrequest, h⟩ := Option.bind_eq_some_iff.mp h
  obtain ⟨_, huser, h⟩ := Option.bind_eq_some_iff.mp h
  obtain ⟨_, htoken, h⟩ := Option.bind_eq_some_iff.mp h
  obtain ⟨_, hstatus, h⟩ := Option.bind_eq_some_iff.mp h
  obtain ⟨_, hcode, h⟩ := Option.bind_eq_some_iff.mp h
  obtain ⟨_, hlatency, h⟩ := Option.bind_eq_some_iff.mp h
  obtain ⟨_, herror, h⟩ := Option.bind_eq_some_iff.mp h
  obtain rfl := Option.some.inj h
  refine ⟨⟨rfl, hproject, haction, hclient, hstatus, hlatency, rfl⟩, ?_⟩
  rw [RequestLogJob.fitsRequestLogs, RequestLogJob.fitsDailyMetrics, varchar_nullable_client,
    int4_nullable_latency, hproject, haction, hclient, hrequest, huser, htoken, hstatus, hcode,
    hlatency, herror]
  rfl

theorem storedAs_of_toRow {job : RequestLogJob} {id : Nat} {state : PayloadState}
    {row : RequestLogRow} (h : job.toRow id state = some row) : StoredAs job row :=
  (storedAs_and_fits_of_toRow h).1

theorem toRow_isSome (job : RequestLogJob) (id : Nat) (state : PayloadState) :
    (job.toRow id state).isSome = job.fitsRequestLogs := by
  rw [Bool.eq_iff_iff]
  constructor
  · intro h
    rcases Option.isSome_iff_exists.mp h with ⟨row, hrow⟩
    exact (storedAs_and_fits_of_toRow hrow).2
  · intro h
    simp only [RequestLogJob.fitsRequestLogs, RequestLogJob.fitsDailyMetrics,
      varchar_nullable_client, int4_nullable_latency, Bool.and_eq_true,
      Option.isSome_iff_exists] at h
    obtain ⟨⟨⟨⟨⟨⟨⟨⟨⟨⟨_, hproject⟩, _, haction⟩, _, hclient⟩, _, hlatency⟩, _, hrequest⟩, _, huser⟩,
      _, htoken⟩, _, hstatus⟩, _, hcode⟩, _, herror⟩ := h
    rw [RequestLogJob.toRow, hproject, haction, hclient, hrequest, huser, htoken, hstatus, hcode,
      hlatency, herror]
    rfl

/-- The stored status is counted as the reported one. -/
theorem completedOnce_stored {status stored : String} (h : varchar 32 status = some stored)
    (latency : Nat) : completedOnce stored latency = completedOnce status latency := by
  have hok : stored = "ok" ↔ status = "ok" := varchar_eq_iff h (by decide)
  have htimeout : stored = "timeout" ↔ status = "timeout" := varchar_eq_iff h (by decide)
  simp only [completedOnce, classify, hok, htimeout]

/-- A stored row is the completion that `recordCompletion` adds, except for the
empty client id, which the rebuild counts as a device. -/
theorem StoredAs.completion {job : RequestLogJob} {row : RequestLogRow} (h : StoredAs job row) :
    job.completion =
      some { row.completion with device := decide (job.clientId.getD "" ≠ "") } := by
  have hclient : varchar 128 (job.clientId.getD "") = some (row.clientId.getD "") := by
    have hstored := h.clientId
    cases hjob : job.clientId with
    | none =>
        rw [hjob, nullable, Option.some.injEq] at hstored
        rw [← hstored]
        decide
    | some text =>
        rw [hjob, nullable, Option.map_eq_some_iff] at hstored
        rcases hstored with ⟨stored, hvarchar, heq⟩
        rw [← heq]
        exact hvarchar
  have hlatency : int4 (job.latencyMs.getD 0) = some (row.latencyMs.getD 0) := by
    have hstored := h.latencyMs
    cases hjob : job.latencyMs with
    | none =>
        rw [hjob, nullable, Option.some.injEq] at hstored
        rw [← hstored]
        rfl
    | some latency =>
        rw [hjob, nullable, Option.map_eq_some_iff] at hstored
        rcases hstored with ⟨stored, hint4, heq⟩
        rw [← heq]
        exact hint4
  simp only [RequestLogJob.completion, h.projectName, h.actionName, hclient, hlatency,
    RequestLogRow.completion, RequestLogRow.rpcKey, h.createdAt, completedOnce_stored h.status]
  by_cases hempty : job.clientId.getD "" = "" <;> simp [hempty]

/-- For any other client id the two agree. -/
theorem StoredAs.completion_eq {job : RequestLogJob} {row : RequestLogRow} (h : StoredAs job row)
    (hclient : job.clientId ≠ some "") : job.completion = some row.completion := by
  rw [h.completion, Option.some.injEq]
  have hstored := h.clientId
  have hdevice : decide (job.clientId.getD "" ≠ "") = row.clientId.isSome := by
    cases hjob : job.clientId with
    | none =>
        rw [hjob, nullable, Option.some.injEq] at hstored
        rw [← hstored]
        rfl
    | some text =>
        rw [hjob, nullable, Option.map_eq_some_iff] at hstored
        rcases hstored with ⟨stored, -, heq⟩
        have hne : text ≠ "" := fun hempty => hclient (by rw [hjob, hempty])
        rw [← heq]
        simpa using hne
  rw [hdevice]
  rfl

/-! ## Every job once -/

/-- `recordCompletion` on each job; a call that is rejected rolls back. -/
def DailyTables.recordAll (t : DailyTables) (jobs : List RequestLogJob) : DailyTables :=
  jobs.foldl (fun t job => (t.recordCompletion job).getD t) t

/-- `writeSpine` on each job. -/
def RequestLogs.writeAll (logs : RequestLogs) (jobs : List RequestLogJob) : RequestLogs :=
  jobs.foldl (fun logs job => ((logs.writeSpine job .pending).map Prod.snd).getD logs) logs

theorem recordAll_eq (t : DailyTables) (jobs : List RequestLogJob) :
    t.recordAll jobs = (jobs.filterMap (·.completion)).foldl DailyTables.add t := by
  induction jobs generalizing t with
  | nil => rfl
  | cons job jobs ih =>
      rw [DailyTables.recordAll, List.foldl_cons, ← DailyTables.recordAll, ih,
        recordCompletion_eq]
      cases hcompletion : job.completion with
      | none => simp [hcompletion]
      | some c => simp [hcompletion]

/-- The completion of the row that a job leaves in `request_logs`. -/
def RequestLogJob.storedCompletion (job : RequestLogJob) : Option Completion :=
  (job.toRow 0 .pending).map (·.completion)

/-- The rebuild reads nothing of a row that the job does not determine. -/
theorem StoredAs.completion_unique {job : RequestLogJob} {row row' : RequestLogRow}
    (h : StoredAs job row) (h' : StoredAs job row') : row.completion = row'.completion := by
  have hproject := Option.some.inj (h.projectName.symm.trans h'.projectName)
  have haction := Option.some.inj (h.actionName.symm.trans h'.actionName)
  have hclient := Option.some.inj (h.clientId.symm.trans h'.clientId)
  have hstatus := Option.some.inj (h.status.symm.trans h'.status)
  have hlatency := Option.some.inj (h.latencyMs.symm.trans h'.latencyMs)
  have hcreated := h.createdAt.trans h'.createdAt.symm
  rw [RequestLogRow.completion, RequestLogRow.completion, RequestLogRow.rpcKey,
    RequestLogRow.rpcKey, hproject, haction, hclient, hstatus, hlatency, hcreated]

theorem map_completion_toRow (job : RequestLogJob) (id : Nat) (state : PayloadState) :
    (job.toRow id state).map (·.completion) = job.storedCompletion := by
  have hsome := (toRow_isSome job id state).trans (toRow_isSome job 0 .pending).symm
  unfold RequestLogJob.storedCompletion
  cases hrow : job.toRow id state with
  | none =>
      rw [hrow, Option.isSome_none, eq_comm, Option.isSome_eq_false_iff,
        Option.isNone_iff_eq_none] at hsome
      rw [hsome]
  | some row =>
      rw [hrow, Option.isSome_some, eq_comm] at hsome
      rcases Option.isSome_iff_exists.mp hsome with ⟨row', hrow'⟩
      rw [hrow', Option.map_some, Option.map_some,
        (storedAs_of_toRow hrow).completion_unique (storedAs_of_toRow hrow')]

/-- Rows of distinct requests are all new. -/
theorem writeAll_completions {logs : RequestLogs} {jobs : List RequestLogJob}
    (hdistinct : (jobs.map (·.requestId)).Nodup)
    (hnew : ∀ job ∈ jobs, logs.contains job.requestId = false) :
    (logs.writeAll jobs).rows.map (·.completion) =
      logs.rows.map (·.completion) ++ jobs.filterMap (·.storedCompletion) := by
  induction jobs generalizing logs with
  | nil => simp [RequestLogs.writeAll]
  | cons job jobs ih =>
      rw [List.map_cons, List.nodup_cons] at hdistinct
      obtain ⟨hjob, hrest⟩ := hdistinct
      have hstored := map_completion_toRow job logs.nextId .pending
      rw [RequestLogs.writeAll, List.foldl_cons, List.filterMap_cons]
      cases hrow : job.toRow logs.nextId .pending with
      | none =>
          rw [hrow, Option.map_none] at hstored
          rw [← hstored, RequestLogs.writeSpine, hrow]
          exact ih hrest fun other hother => hnew other (List.mem_cons_of_mem _ hother)
      | some row =>
          rw [hrow, Option.map_some] at hstored
          rw [← hstored, RequestLogs.writeSpine, hrow]
          simp only [Option.map_some, hnew job List.mem_cons_self, Bool.false_eq_true, if_false,
            Option.getD_some]
          rw [← RequestLogs.writeAll, ih hrest]
          · simp
          · intro other hother
            have hne : ¬ row.requestId = other.requestId := by
              rw [(storedAs_of_toRow hrow).requestId]
              exact fun heq => hjob (heq ▸ List.mem_map_of_mem hother)
            have hold := hnew other (List.mem_cons_of_mem _ hother)
            simp only [RequestLogs.contains, List.any_append, List.any_cons, List.any_nil] at hold ⊢
            simp [hold, hne]

/-! ## The two ways compared -/

theorem map_inWindow (cutoff : Day) (rows : List RequestLogRow) :
    (inWindow cutoff rows).map (·.completion) =
      (rows.map (·.completion)).filter fun c => decide (cutoff ≤ c.key.statDate) := by
  rw [inWindow_eq, List.filter_map]
  rfl

theorem dropFrom_empty (cutoff : Day) : DailyTables.empty.dropFrom cutoff = .empty := by
  ext1
  · exact Finmap.ext_lookup fun k => by simp [DailyTables.dropFrom, DailyTables.empty]
  · exact Finmap.ext_lookup fun k => by simp [DailyTables.dropFrom, DailyTables.empty]

theorem storedCompletion_eq_some {job : RequestLogJob} {c : Completion}
    (h : job.storedCompletion = some c) : ∃ row, StoredAs job row ∧ row.completion = c := by
  rcases Option.map_eq_some_iff.mp h with ⟨row, hrow, hc⟩
  exact ⟨row, storedAs_of_toRow hrow, hc⟩

/-- A rebuild over the spine of some jobs adds the completion of every job whose
day is in the window. -/
theorem rebuild_writeAll {jobs : List RequestLogJob} {now : Timestamp} {days : Nat}
    (hdistinct : (jobs.map (·.requestId)).Nodup) (hdate : firstDate ≤ cutoffDate now days)
    (hwindow : ∀ job ∈ jobs, cutoffDate now days ≤ utcDay job.createdAt) :
    DailyTables.empty.rebuildRecent (RequestLogs.empty.writeAll jobs).rows now days =
      some ((jobs.filterMap (·.storedCompletion)).foldl DailyTables.add .empty) := by
  rw [rebuildRecent_eq _ _ _ _ hdate, dropFrom_empty, map_inWindow,
    writeAll_completions hdistinct fun _ _ => rfl]
  refine congrArg (fun cs => some (List.foldl DailyTables.add DailyTables.empty cs)) ?_
  refine List.filter_eq_self.mpr fun c hc => ?_
  rcases List.mem_filterMap.mp hc with ⟨job, hjob, hstored⟩
  rcases storedCompletion_eq_some hstored with ⟨row, hrow, rfl⟩
  rw [decide_eq_true_eq]
  change cutoffDate now days ≤ utcDay row.createdAt
  rw [hrow.createdAt]
  exact hwindow job hjob

/-- The requests counted in both tables. -/
theorem totalRequests_foldl_add {cs : List Completion}
    (hcs : ∀ c ∈ cs, c.counters.totalRequests = 1) :
    (total (fun _ => True) (cs.foldl DailyTables.add .empty).rpc).totalRequests = cs.length := by
  rw [foldl_add_rpc, total_foldl_upsert]
  simp only [DailyTables.empty, total_empty, zero_add, decide_true, List.filter_true]
  change Counters.totalRequestsHom _ = _
  rw [map_list_sum, List.map_map]
  have hone : cs.map (Counters.totalRequestsHom ∘ Completion.counters) = cs.map fun _ => 1 :=
    List.map_congr_left hcs
  rw [hone, List.map_const', List.sum_replicate_nat, Nat.mul_one]

/-- A predicate that implies another and holds as often is the same. -/
theorem forall_of_countP_eq {α : Type} {p q : α → Bool} {l : List α}
    (himp : ∀ a ∈ l, q a = true → p a = true) (hcount : l.countP p = l.countP q) :
    ∀ a ∈ l, p a = true → q a = true := by
  induction l with
  | nil => simp
  | cons b l ih =>
      have hle : l.countP q ≤ l.countP p :=
        List.countP_mono_left fun a ha => himp a (List.mem_cons_of_mem _ ha)
      have hb := himp b List.mem_cons_self
      rw [List.countP_cons, List.countP_cons] at hcount
      intro a ha hp
      rcases List.mem_cons.mp ha with rfl | htail
      · by_contra hq
        rw [if_pos hp, if_neg hq] at hcount
        omega
      · refine ih (fun a ha => himp a (List.mem_cons_of_mem _ ha)) ?_ a htail hp
        by_cases hqb : q b = true
        · rw [if_pos hqb, if_pos (hb hqb)] at hcount
          omega
        · rw [if_neg hqb] at hcount
          omega

theorem completion_totalRequests {job : RequestLogJob} {c : Completion}
    (h : job.completion = some c) : c.counters.totalRequests = 1 := by
  simp only [RequestLogJob.completion, Option.bind_eq_bind, Option.bind_eq_some_iff,
    Option.pure_def, Option.some.injEq] at h
  obtain ⟨_, -, _, -, _, -, _, -, rfl⟩ := h
  rfl

/-- A job counts towards the device table under a client id that is not empty. -/
theorem completion_device {job : RequestLogJob} {c : Completion} (h : job.completion = some c)
    (hdevice : c.device = true) : c.key.clientId ≠ "" := by
  simp only [RequestLogJob.completion, Option.bind_eq_bind, Option.bind_eq_some_iff,
    Option.pure_def, Option.some.injEq] at h
  obtain ⟨_, -, _, -, clientId, hclient, _, -, rfl⟩ := h
  intro hempty
  rw [(varchar_eq_iff hclient (by decide)).mp hempty] at hdevice
  contradiction

/-- What has to be said of one job for the two to agree. -/
def RequestLogJob.CountedAlike (job : RequestLogJob) : Prop :=
  job.fitsDailyMetrics = true → job.clientId ≠ some "" ∧ job.fitsRequestLogs = true

instance (job : RequestLogJob) : Decidable job.CountedAlike :=
  inferInstanceAs (Decidable (job.fitsDailyMetrics = true →
    job.clientId ≠ some "" ∧ job.fitsRequestLogs = true))

theorem storedCompletion_isSome (job : RequestLogJob) :
    job.storedCompletion.isSome = job.fitsRequestLogs := by
  rw [RequestLogJob.storedCompletion, Option.isSome_map, toRow_isSome]

/-- The daily tables accept what the spine accepts. -/
theorem completion_isSome_of_stored {job : RequestLogJob}
    (h : job.storedCompletion.isSome = true) : job.completion.isSome = true := by
  rcases Option.isSome_iff_exists.mp h with ⟨c, hc⟩
  rcases storedCompletion_eq_some hc with ⟨row, hrow, -⟩
  rw [hrow.completion]
  rfl

/-- Equal tables count equally many requests, so the spine accepts every job that
the daily tables accept. -/
theorem stored_isSome_of_eq {jobs : List RequestLogJob}
    (heq : (jobs.filterMap (·.storedCompletion)).foldl DailyTables.add .empty =
      (jobs.filterMap (·.completion)).foldl DailyTables.add .empty)
    {job : RequestLogJob} (hjob : job ∈ jobs) (hcompletion : job.completion.isSome = true) :
    job.storedCompletion.isSome = true := by
  have hlength : (jobs.filterMap (·.storedCompletion)).length =
      (jobs.filterMap (·.completion)).length := by
    rw [← totalRequests_foldl_add, ← totalRequests_foldl_add, heq]
    · intro c hc
      rcases List.mem_filterMap.mp hc with ⟨other, -, hother⟩
      exact completion_totalRequests hother
    · intro c hc
      rcases List.mem_filterMap.mp hc with ⟨other, -, hother⟩
      rcases storedCompletion_eq_some hother with ⟨row, -, rfl⟩
      rfl
  rw [List.length_filterMap_eq_countP, List.length_filterMap_eq_countP] at hlength
  exact forall_of_countP_eq (fun other _ => completion_isSome_of_stored) hlength.symm job hjob
    hcompletion

/-- A completion never makes a device row of the empty client id, and the rebuild
makes one of every stored one. -/
theorem clientId_ne_empty_of_eq {jobs : List RequestLogJob}
    (heq : (jobs.filterMap (·.storedCompletion)).foldl DailyTables.add .empty =
      (jobs.filterMap (·.completion)).foldl DailyTables.add .empty)
    {job : RequestLogJob} (hjob : job ∈ jobs) (hstored : job.storedCompletion.isSome = true) :
    job.clientId ≠ some "" := by
  intro hclient
  rcases Option.isSome_iff_exists.mp hstored with ⟨c, hc⟩
  rcases storedCompletion_eq_some hc with ⟨row, hrow, rfl⟩
  have hempty : row.clientId = some "" := by
    have hcolumn := hrow.clientId
    rw [hclient] at hcolumn
    exact (Option.some.inj hcolumn).symm
  have hmem : row.completion.key.deviceKey ∈
      ((jobs.filterMap (·.completion)).foldl DailyTables.add .empty).device := by
    rw [← heq, foldl_add_device, mem_foldl_upsert]
    refine Or.inr ⟨row.completion, List.mem_filter.mpr ⟨?_, by simp [RequestLogRow.completion,
      hempty]⟩, rfl⟩
    exact List.mem_filterMap.mpr ⟨job, hjob, hc⟩
  rw [foldl_add_device, mem_foldl_upsert] at hmem
  rcases hmem with hnone | ⟨c, hc', hkey⟩
  · exact Finmap.notMem_empty hnone
  · rcases List.mem_filter.mp hc' with ⟨hc', hdevice⟩
    rcases List.mem_filterMap.mp hc' with ⟨other, -, hother⟩
    refine completion_device hother hdevice ?_
    have hid := congrArg DeviceKey.clientId hkey
    simpa [RpcKey.deviceKey, RequestLogRow.completion, RequestLogRow.rpcKey, hempty] using hid

theorem RequestLogJob.CountedAlike.completion_eq {job : RequestLogJob} (h : job.CountedAlike) :
    job.storedCompletion = job.completion := by
  cases hspine : job.storedCompletion with
  | some c =>
      have hfits : job.fitsDailyMetrics = true :=
        (completion_isSome job).symm.trans (completion_isSome_of_stored (by rw [hspine]; rfl))
      rcases storedCompletion_eq_some hspine with ⟨row, hrow, rfl⟩
      exact (hrow.completion_eq (h hfits).1).symm
  | none =>
      have hnot : ¬ job.fitsDailyMetrics = true := fun hfits => by
        have hsome := (storedCompletion_isSome job).trans (h hfits).2
        rw [hspine] at hsome
        contradiction
      rw [← completion_isSome, Option.not_isSome_iff_eq_none] at hnot
      exact hnot.symm

/-- Starting from empty tables, counting each job as it completes and rebuilding
the window from the spine of all of them give the same tables exactly when every
job that the daily tables accept is accepted by the spine and does not carry the
empty client id. -/
theorem incremental_eq_rebuild_iff (jobs : List RequestLogJob) (now : Timestamp) (days : Nat)
    (hdistinct : (jobs.map (·.requestId)).Nodup) (hdate : firstDate ≤ cutoffDate now days)
    (hwindow : ∀ job ∈ jobs, cutoffDate now days ≤ utcDay job.createdAt) :
    DailyTables.empty.rebuildRecent (RequestLogs.empty.writeAll jobs).rows now days =
        some (DailyTables.empty.recordAll jobs) ↔
      ∀ job ∈ jobs, job.CountedAlike := by
  rw [rebuild_writeAll hdistinct hdate hwindow, recordAll_eq, Option.some.injEq]
  constructor
  · intro heq job hjob hfits
    have hspine := stored_isSome_of_eq heq hjob ((completion_isSome job).trans hfits)
    exact ⟨clientId_ne_empty_of_eq heq hjob hspine,
      (storedCompletion_isSome job).symm.trans hspine⟩
  · intro hall
    refine congrArg (List.foldl DailyTables.add DailyTables.empty) ?_
    exact List.filterMap_congr fun job hjob => (hall job hjob).completion_eq

/-- A job of one project and action on the first day of the epoch. -/
def sampleJob (requestId : RequestId) (clientId : Option String) (status : String)
    (latencyMs : Option Nat) : RequestLogJob where
  requestId
  project := "billing"
  action := "quote"
  clientId
  clientRequestId := none
  requesterUserId := none
  accessTokenId := none
  status
  httpCode := some 200
  latencyMs
  error := none
  createdAt := 1000
  finishedAt := 2000

/-- Two requests of a device and one that found no device. -/
theorem incremental_eq_rebuild_iff_sample :
    DailyTables.empty.rebuildRecent (RequestLogs.empty.writeAll
        [sampleJob 1 (some "device-a") "ok" (some 10), sampleJob 2 none "timeout" none,
          sampleJob 3 (some "device-a") "error" (some 30)]).rows 5000 2 =
      some (DailyTables.empty.recordAll
        [sampleJob 1 (some "device-a") "ok" (some 10), sampleJob 2 none "timeout" none,
          sampleJob 3 (some "device-a") "error" (some 30)]) :=
  (incremental_eq_rebuild_iff _ 5000 2 (by decide) (by decide) (by decide)).mpr (by decide)

/-- A request with the empty client id is counted as a device by the rebuild and
by no completion. -/
theorem empty_client_drifts :
    cutoffDate 5000 2 ≤ utcDay (sampleJob 1 (some "") "error" (some 10)).createdAt ∧
      DailyTables.empty.rebuildRecent
          (RequestLogs.empty.writeAll [sampleJob 1 (some "") "error" (some 10)]).rows 5000 2 ≠
        some (DailyTables.empty.recordAll [sampleJob 1 (some "") "error" (some 10)]) := by
  decide

end Metrics
end R2RPC
