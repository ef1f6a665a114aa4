import Mathlib.Algebra.Ring.Nat
import R2RPC.Basic
import R2RPC.Library.AggregateTable

/-!
# Request logs and their daily aggregates

The table {lit}`request_logs` with the operations of {lit}`RequestLogsService` that
write or trim it, and the tables {lit}`rpc_daily_metrics` and
{lit}`device_daily_metrics` with {lit}`recordCompletion`, {lit}`rebuildRecent` and
{lit}`cleanupOldMetrics` of {lit}`MetricsService`.  A statement that PostgreSQL
rejects answers {lit}`none` and changes nothing.

Main results:

- Definition {lit}`DailyTables.recordCompletion`: one completed request.
- Definition {lit}`DailyTables.rebuildRecent`: the aggregates of the last days from
  what is left of {lit}`request_logs`.
- Definitions {lit}`RequestLogs.cleanupOldRequests` and
  {lit}`RequestLogs.trimScopes`: what retention takes away.

Current gaps:

- {lit}`updated_at` is not modelled.
- A job is created between the years 1970 and 9999, and {lit}`bigint` sums do not
  overflow.
- A device-reported {lit}`httpCode` is an integer.
-/

namespace R2RPC
namespace Metrics

open Aggregates

/-! ## Columns -/

/-- Days since the epoch, in UTC. -/
abbrev Day := Int

def millisecondsPerDay : Int := 86400000

/-- The UTC date of a moment. -/
def utcDay (time : Int) : Day := time / millisecondsPerDay

/-- The earliest date that `YYYY-MM-DD` can write for PostgreSQL: `0001-01-01`. -/
def firstDate : Day := -719162

/-- Assignment to `varchar(limit)`: a text that is too long is rejected unless only
blanks are cut off, and a NUL character always is. -/
def varchar (limit : Nat) (text : String) : Option String :=
  if text.toList.any (·.toNat == 0) then none
  else if text.length ≤ limit then some text
  else if (text.toList.drop limit).all (· == ' ') then
    some (String.ofList (text.toList.take limit))
  else none

/-- Assignment of a count to `integer`. -/
def int4 (n : Nat) : Option Nat := if n ≤ 2147483647 then some n else none

/-- Assignment of a number to `integer`. -/
def signedInt4 (n : Int) : Option Int :=
  if -2147483648 ≤ n ∧ n ≤ 2147483647 then some n else none

/-- A column without `NOT NULL`. -/
def nullable {α β : Type} (column : α → Option β) : Option α → Option (Option β)
  | none => some none
  | some value => (column value).map some

/-! ## Request logs -/

/-- A `randomUUID` of `invoke`. -/
abbrev RequestId := Nat

/-- What `enqueueRequestLog` hands to the queue; `requesterUserId` is `none` when
it is no number. -/
structure RequestLogJob where
  requestId : RequestId
  project : String
  action : String
  clientId : Option String
  clientRequestId : Option String
  requesterUserId : Option Int
  accessTokenId : Option Int
  status : String
  httpCode : Option Int
  latencyMs : Option Nat
  error : Option String
  createdAt : Timestamp
  finishedAt : Timestamp
deriving DecidableEq, Repr

/-- `payload_state`. -/
inductive PayloadState where
  | pending
  | indexed
  | failed
  | unavailable
deriving DecidableEq, Repr

/-- A row of `request_logs`. -/
structure RequestLogRow where
  id : Nat
  requestId : RequestId
  projectName : String
  actionName : String
  clientId : Option String
  clientRequestId : Option String
  requesterUserId : Option Int
  accessTokenId : Option Int
  status : String
  httpCode : Option Int
  latencyMs : Option Nat
  errorMessage : Option String
  payloadState : PayloadState
  createdAt : Int
  finishedAt : Option Int
deriving DecidableEq, Repr

/-- The row that `writeSpine` inserts. -/
def RequestLogJob.toRow (job : RequestLogJob) (id : Nat) (payloadState : PayloadState) :
    Option RequestLogRow := do
  let projectName ← varchar 128 job.project
  let actionName ← varchar 128 job.action
  let clientId ← nullable (varchar 128) job.clientId
  let clientRequestId ← nullable (varchar 128) job.clientRequestId
  let requesterUserId ← nullable signedInt4 job.requesterUserId
  let accessTokenId ← nullable signedInt4 job.accessTokenId
  let status ← varchar 32 job.status
  let httpCode ← nullable signedInt4 job.httpCode
  let latencyMs ← nullable int4 job.latencyMs
  let errorMessage ← nullable (varchar 1024) job.error
  return {
    id
    requestId := job.requestId
    projectName
    actionName
    clientId
    clientRequestId
    requesterUserId
    accessTokenId
    status
    httpCode
    latencyMs
    errorMessage
    payloadState
    createdAt := job.createdAt
    finishedAt := some job.finishedAt }

/-- The table `request_logs` with its sequence. -/
structure RequestLogs where
  rows : List RequestLogRow
  nextId : Nat
deriving DecidableEq, Repr

namespace RequestLogs

def empty : RequestLogs := ⟨[], 1⟩

variable (logs : RequestLogs)

/-- The unique index on `request_id` holds this id. -/
def contains (requestId : RequestId) : Bool := logs.rows.any (·.requestId == requestId)

/-- `writeSpine`: whether the row is new, and the table; a conflict has drawn an
id all the same. -/
def writeSpine (job : RequestLogJob) (payloadState : PayloadState) :
    Option (Bool × RequestLogs) :=
  (job.toRow logs.nextId payloadState).map fun row =>
    if logs.contains job.requestId then (false, { logs with nextId := logs.nextId + 1 })
    else (true, ⟨logs.rows ++ [row], logs.nextId + 1⟩)

/-- `markState`. -/
def markState (requestId : RequestId) (state : PayloadState) : RequestLogs :=
  { logs with
    rows := logs.rows.map fun row =>
      if row.requestId == requestId then { row with payloadState := state } else row }

/-- `cleanupOldRequests`. -/
def cleanupOldRequests (now : Timestamp) (retentionDays : Nat) : RequestLogs :=
  { logs with
    rows := logs.rows.filter fun row =>
      !decide (row.createdAt < (now : Int) - retentionDays * millisecondsPerDay) }

end RequestLogs

/-- `PARTITION BY project_name, action_name, client_id`; rows without a client are
one partition. -/
def RequestLogRow.sameScope (row other : RequestLogRow) : Bool :=
  row.projectName == other.projectName && row.actionName == other.actionName &&
    row.clientId == other.clientId

/-- `ORDER BY created_at DESC, id DESC` puts this row before another. -/
def RequestLogRow.newerThan (row other : RequestLogRow) : Bool :=
  decide (other.createdAt < row.createdAt) ||
    (row.createdAt == other.createdAt && decide (other.id < row.id))

/-- `ROW_NUMBER()` of a row. -/
def rowNumber (rows : List RequestLogRow) (row : RequestLogRow) : Nat :=
  (rows.filter fun other => other.sameScope row && other.newerThan row).length + 1

/-- `trimScopes`. -/
def RequestLogs.trimScopes (logs : RequestLogs) (keep : Nat) : RequestLogs :=
  { logs with rows := logs.rows.filter fun row => !decide (keep < rowNumber logs.rows row) }

/-! ## Daily aggregates -/

/-- The counters of a row of either table. -/
@[ext]
structure Counters where
  totalRequests : Nat
  successRequests : Nat
  failedRequests : Nat
  timeoutRequests : Nat
  totalLatencyMs : Nat
  maxLatencyMs : Nat
deriving DecidableEq, Repr

namespace Counters

instance : Zero Counters := ⟨⟨0, 0, 0, 0, 0, 0⟩⟩

/-- The `SET` of both upserts: sums, and `GREATEST` for the maximum. -/
instance : Add Counters :=
  ⟨fun a b =>
    ⟨a.totalRequests + b.totalRequests, a.successRequests + b.successRequests,
      a.failedRequests + b.failedRequests, a.timeoutRequests + b.timeoutRequests,
      a.totalLatencyMs + b.totalLatencyMs, max a.maxLatencyMs b.maxLatencyMs⟩⟩

variable (a b : Counters)

@[simp] theorem totalRequests_zero : (0 : Counters).totalRequests = 0 := rfl
@[simp] theorem successRequests_zero : (0 : Counters).successRequests = 0 := rfl
@[simp] theorem failedRequests_zero : (0 : Counters).failedRequests = 0 := rfl
@[simp] theorem timeoutRequests_zero : (0 : Counters).timeoutRequests = 0 := rfl
@[simp] theorem totalLatencyMs_zero : (0 : Counters).totalLatencyMs = 0 := rfl
@[simp] theorem maxLatencyMs_zero : (0 : Counters).maxLatencyMs = 0 := rfl

@[simp] theorem totalRequests_add :
    (a + b).totalRequests = a.totalRequests + b.totalRequests := rfl
@[simp] theorem successRequests_add :
    (a + b).successRequests = a.successRequests + b.successRequests := rfl
@[simp] theorem failedRequests_add :
    (a + b).failedRequests = a.failedRequests + b.failedRequests := rfl
@[simp] theorem timeoutRequests_add :
    (a + b).timeoutRequests = a.timeoutRequests + b.timeoutRequests := rfl
@[simp] theorem totalLatencyMs_add :
    (a + b).totalLatencyMs = a.totalLatencyMs + b.totalLatencyMs := rfl
@[simp] theorem maxLatencyMs_add :
    (a + b).maxLatencyMs = max a.maxLatencyMs b.maxLatencyMs := rfl

instance : AddCommMonoid Counters where
  add_assoc a b c := by ext <;> simp [Nat.add_assoc, Nat.max_assoc]
  zero_add a := by ext <;> simp
  add_zero a := by ext <;> simp
  add_comm a b := by ext <;> simp [Nat.add_comm, Nat.max_comm]
  nsmul := nsmulRec

/-! The columns that a sum of counters adds up. -/

def totalRequestsHom : Counters →+ Nat := ⟨⟨totalRequests, rfl⟩, fun _ _ => rfl⟩
def successRequestsHom : Counters →+ Nat := ⟨⟨successRequests, rfl⟩, fun _ _ => rfl⟩
def failedRequestsHom : Counters →+ Nat := ⟨⟨failedRequests, rfl⟩, fun _ _ => rfl⟩
def timeoutRequestsHom : Counters →+ Nat := ⟨⟨timeoutRequests, rfl⟩, fun _ _ => rfl⟩
def totalLatencyMsHom : Counters →+ Nat := ⟨⟨totalLatencyMs, rfl⟩, fun _ _ => rfl⟩

end Counters

/-- Primary key of `rpc_daily_metrics`; a request without a device has the empty
client id. -/
structure RpcKey where
  statDate : Day
  projectName : String
  actionName : String
  clientId : String
deriving DecidableEq, Repr

/-- Primary key of `device_daily_metrics`. -/
structure DeviceKey where
  statDate : Day
  clientId : String
  projectName : String
deriving DecidableEq, Repr

/-- Both tables. -/
@[ext]
structure DailyTables where
  rpc : Table RpcKey Counters
  device : Table DeviceKey Counters
deriving DecidableEq

def DailyTables.empty : DailyTables := ⟨∅, ∅⟩

/-- What `classify` answers. -/
structure Classification where
  success : Nat
  timeout : Nat
  failed : Nat
deriving DecidableEq, Repr

/-- `classify`. -/
def classify (status : String) : Classification :=
  if status = "ok" then ⟨1, 0, 0⟩
  else if status = "timeout" then ⟨0, 1, 0⟩
  else ⟨0, 0, 1⟩

/-- The `VALUES` of both upserts. -/
def completedOnce (status : String) (latencyMilliseconds : Nat) : Counters where
  totalRequests := 1
  successRequests := (classify status).success
  failedRequests := (classify status).failed
  timeoutRequests := (classify status).timeout
  totalLatencyMs := latencyMilliseconds
  maxLatencyMs := latencyMilliseconds

/-- `recordCompletion`: the two upserts of one transaction; the second only for a
client id that is neither `null` nor empty. -/
def DailyTables.recordCompletion (t : DailyTables) (job : RequestLogJob) : Option DailyTables := do
  let statDate := utcDay job.createdAt
  let projectName ← varchar 128 job.project
  let actionName ← varchar 128 job.action
  let clientId ← varchar 128 (job.clientId.getD "")
  let latencyMilliseconds ← int4 (job.latencyMs.getD 0)
  let completed := completedOnce job.status latencyMilliseconds
  return {
    rpc := upsert ⟨statDate, projectName, actionName, clientId⟩ completed t.rpc
    device :=
      if job.clientId.getD "" = "" then t.device
      else upsert ⟨statDate, clientId, projectName⟩ completed t.device }

/-! ## Rebuild and cleanup -/

namespace RequestLogRow

variable (row : RequestLogRow)

/-- The `GROUP BY` of the first query. -/
def rpcKey : RpcKey :=
  ⟨utcDay row.createdAt, row.projectName, row.actionName, row.clientId.getD ""⟩

/-- The `GROUP BY` of the second query, over rows that have a client id. -/
def deviceKey : DeviceKey :=
  ⟨utcDay row.createdAt, row.clientId.getD "", row.projectName⟩

end RequestLogRow

/-- The aggregate functions of both queries; they skip a `NULL` latency. -/
def aggregate (group : List RequestLogRow) : Counters where
  totalRequests := group.length
  successRequests := (group.filter fun row => row.status == "ok").length
  failedRequests :=
    (group.filter fun row => row.status != "ok" && row.status != "timeout").length
  timeoutRequests := (group.filter fun row => row.status == "timeout").length
  totalLatencyMs := (group.filterMap (·.latencyMs)).sum
  maxLatencyMs := (group.filterMap (·.latencyMs)).max?.getD 0

/-- The first day of the last `days` days. -/
def cutoffDate (now : Timestamp) (days : Nat) : Day := utcDay now - ((days : Int) - 1)

/-- `created_at >= cutoffTime`, where `cutoffTime` is the midnight that begins the
cutoff date. -/
def inWindow (cutoff : Day) (rows : List RequestLogRow) : List RequestLogRow :=
  rows.filter fun row => decide (cutoff * millisecondsPerDay ≤ row.createdAt)

namespace DailyTables

variable (t : DailyTables)

/-- `rebuildRecent`: two deletions and two insertions in one transaction. -/
def rebuildRecent (rows : List RequestLogRow) (now : Timestamp) (days : Nat) :
    Option DailyTables :=
  let cutoff := cutoffDate now days
  if cutoff < firstDate then none
  else do
    let recent := inWindow cutoff rows
    let rpc ← insertSelect (deleteWhere (fun key => decide (cutoff ≤ key.statDate)) t.rpc)
      (groupBy RequestLogRow.rpcKey aggregate recent)
    let device ← insertSelect (deleteWhere (fun key => decide (cutoff ≤ key.statDate)) t.device)
      (groupBy RequestLogRow.deviceKey aggregate (recent.filter (·.clientId.isSome)))
    return ⟨rpc, device⟩

/-- `cleanupOldMetrics`. -/
def cleanupOldMetrics (now : Timestamp) (retentionDays : Nat) : Option DailyTables :=
  let cutoff := cutoffDate now retentionDays
  if cutoff < firstDate then none
  else some
    ⟨deleteWhere (fun key => decide (key.statDate < cutoff)) t.rpc,
      deleteWhere (fun key => decide (key.statDate < cutoff)) t.device⟩

end DailyTables

end Metrics
end R2RPC
