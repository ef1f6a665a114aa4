import Mathlib.Data.Finset.Lattice.Fold
import Mathlib.Order.Lattice.Nat
import R2RPC.Library.Machine
import R2RPC.Metrics.Aggregation

/-!
# The two daily tables agree

A device row sums up the rpc rows of its date, project and client over all
actions.  Every completion is counted in both tables or has no client, and every
deletion looks at the date alone, so the one table stays the projection of the
other through completions, rebuilds and cleanups in any order.

Main results:

- Structure {lit}`DailyTables.Agree`: the projection, and what holds of every row.
- Theorem {lit}`daily_tables_agree`: the tables agree after every run.

Current gaps:

- A rebuild counts a request with the empty client id as a device; the rows of
  that client id are outside the projection.
-/

namespace R2RPC
namespace Metrics

open Aggregates Interleaving

/-! ## Runs -/

/-- A call that has completed; a completion may fail at any of its statements. -/
inductive MetricsAction where
  | recordCompletion (job : RequestLogJob) (fails : Bool)
  | rebuildRecent (rows : List RequestLogRow) (now : Timestamp) (days : Nat)
  | cleanupOldMetrics (now : Timestamp) (retentionDays : Nat)

/-- Calls that follow each other, starting from empty tables. -/
def metricsMachine : Machine DailyTables MetricsAction where
  initial t := t = .empty
  step t
    | .recordCompletion job fails =>
        some (if fails then t else (t.recordCompletion job).getD t)
    | .rebuildRecent rows now days => some ((t.rebuildRecent rows now days).getD t)
    | .cleanupOldMetrics now retentionDays =>
        some ((t.cleanupOldMetrics now retentionDays).getD t)

/-! ## The invariant -/

/-- Every request of a row is in one class, and a row counts at least one. -/
structure Counters.WellFormed (c : Counters) : Prop where
  classes : c.totalRequests = c.successRequests + c.failedRequests + c.timeoutRequests
  counted : 1 ≤ c.totalRequests

/-- A completion with a client is counted in the device table. -/
structure Completion.Proper (c : Completion) : Prop where
  device : c.key.clientId ≠ "" → c.device = true
  counters : c.counters.WellFormed

/-- The tables agree. -/
structure DailyTables.Agree (t : DailyTables) : Prop where
  projection : IsProjection RpcKey.deviceKey (fun key => key.clientId ≠ "") t.rpc t.device
  rpc_rows : ∀ key row, t.rpc.lookup key = some row → row.WellFormed
  device_rows : ∀ key row, t.device.lookup key = some row → row.WellFormed

theorem Counters.WellFormed.add {a b : Counters} (ha : a.WellFormed) (hb : b.WellFormed) :
    (a + b).WellFormed where
  classes := by
    simp only [totalRequests_add, successRequests_add, failedRequests_add, timeoutRequests_add,
      ha.classes, hb.classes]
    omega
  counted := Nat.le_trans ha.counted (Nat.le_add_right _ _)

theorem completedOnce_wellFormed (status : String) (latency : Nat) :
    (completedOnce status latency).WellFormed := by
  refine ⟨?_, Nat.le_refl 1⟩
  simp only [completedOnce, classify]
  split
  · rfl
  · split <;> rfl

theorem RequestLogRow.completion_proper (row : RequestLogRow) : row.completion.Proper where
  device hclient := by
    simp only [RequestLogRow.completion, RequestLogRow.rpcKey] at hclient ⊢
    cases h : row.clientId with
    | none => simp [h] at hclient
    | some clientId => rfl
  counters := completedOnce_wellFormed _ _

theorem RequestLogJob.completion_proper {job : RequestLogJob} {c : Completion}
    (h : job.completion = some c) : c.Proper := by
  simp only [RequestLogJob.completion, Option.bind_eq_bind, Option.bind_eq_some_iff,
    Option.pure_def, Option.some.injEq] at h
  obtain ⟨_, -, _, -, clientId, hclient, _, -, rfl⟩ := h
  refine ⟨fun hstored => ?_, completedOnce_wellFormed _ _⟩
  have hraw : job.clientId.getD "" ≠ "" := fun hempty =>
    hstored ((varchar_eq_iff hclient (by decide)).mpr hempty)
  simpa using hraw

namespace DailyTables.Agree

variable {t : DailyTables}

theorem empty : DailyTables.empty.Agree where
  projection := IsProjection.empty
  rpc_rows key row h := by simp [DailyTables.empty] at h
  device_rows key row h := by simp [DailyTables.empty] at h

theorem add (h : t.Agree) {c : Completion} (hc : c.Proper) : (t.add c).Agree := by
  have hrows : ∀ {κ : Type} [DecidableEq κ] {u : Table κ Counters} {key : κ},
      (∀ k row, u.lookup k = some row → row.WellFormed) →
      ∀ k row, (upsert key c.counters u).lookup k = some row → row.WellFormed :=
    fun hu => forall_lookup_upsert hu hc.counters fun w hw => hw.add hc.counters
  cases hdevice : c.device with
  | true =>
      rw [DailyTables.add, hdevice, if_pos rfl]
      exact ⟨h.projection.upsert, hrows h.rpc_rows, hrows h.device_rows⟩
  | false =>
      rw [DailyTables.add, hdevice, if_neg Bool.false_ne_true]
      refine ⟨h.projection.upsert_outside fun hclient => ?_, hrows h.rpc_rows, h.device_rows⟩
      rw [hc.device hclient] at hdevice
      contradiction

theorem foldl_add (h : t.Agree) {cs : List Completion} (hcs : ∀ c ∈ cs, c.Proper) :
    (cs.foldl DailyTables.add t).Agree := by
  induction cs generalizing t with
  | nil => exact h
  | cons c cs ih =>
      exact ih (h.add (hcs c List.mem_cons_self)) fun c' hc' =>
        hcs c' (List.mem_cons_of_mem _ hc')

/-- A deletion by date. -/
theorem deleteDates (h : t.Agree) (condition : Day → Bool) :
    DailyTables.Agree ⟨deleteWhere (fun key => condition key.statDate) t.rpc,
      deleteWhere (fun key => condition key.statDate) t.device⟩ where
  projection := h.projection.deleteWhere fun _ => rfl
  rpc_rows := forall_lookup_deleteWhere h.rpc_rows
  device_rows := forall_lookup_deleteWhere h.device_rows

theorem recordCompletion (h : t.Agree) (job : RequestLogJob) :
    ((t.recordCompletion job).getD t).Agree := by
  rw [recordCompletion_eq]
  cases hc : job.completion with
  | none => exact h
  | some c => exact h.add (RequestLogJob.completion_proper hc)

theorem rebuildRecent (h : t.Agree) (rows : List RequestLogRow) (now : Timestamp) (days : Nat) :
    ((t.rebuildRecent rows now days).getD t).Agree := by
  by_cases hdate : firstDate ≤ cutoffDate now days
  · rw [rebuildRecent_eq t rows now days hdate, Option.getD_some]
    refine (h.deleteDates fun date => decide (cutoffDate now days ≤ date)).foldl_add fun c hc => ?_
    rcases List.mem_map.mp hc with ⟨row, -, rfl⟩
    exact row.completion_proper
  · rw [DailyTables.rebuildRecent, if_pos (Int.not_le.mp hdate)]
    exact h

theorem cleanupOldMetrics (h : t.Agree) (now : Timestamp) (retentionDays : Nat) :
    ((t.cleanupOldMetrics now retentionDays).getD t).Agree := by
  unfold DailyTables.cleanupOldMetrics
  dsimp only
  split
  · exact h
  · exact h.deleteDates fun date => decide (date < cutoffDate now retentionDays)

end DailyTables.Agree

theorem metricsMachine_agree {t : DailyTables} (h : metricsMachine.Reachable t) : t.Agree := by
  refine h.invariant (fun {t} hinit => ?_) (fun {t a u} ht hstep => ?_)
  · rw [show t = .empty from hinit]
    exact .empty
  · cases a with
    | recordCompletion job fails =>
        cases fails with
        | true => exact Option.some.inj hstep ▸ ht
        | false => exact Option.some.inj hstep ▸ ht.recordCompletion job
    | rebuildRecent rows now days => exact Option.some.inj hstep ▸ ht.rebuildRecent rows now days
    | cleanupOldMetrics now retentionDays =>
        exact Option.some.inj hstep ▸ ht.cleanupOldMetrics now retentionDays

/-! ## What the invariant says of a row -/

/-- The rpc rows of a date, a project and a client. -/
def DailyTables.rpcKeysOf (t : DailyTables) (statDate : Day) (projectName clientId : String) :
    Finset RpcKey :=
  t.rpc.keys.filter fun key =>
    key.statDate = statDate ∧ key.projectName = projectName ∧ key.clientId = clientId

theorem deviceKey_eq_iff {key : RpcKey} {statDate : Day} {projectName clientId : String} :
    key.deviceKey = ⟨statDate, clientId, projectName⟩ ↔
      key.statDate = statDate ∧ key.projectName = projectName ∧ key.clientId = clientId := by
  rw [RpcKey.deviceKey, DeviceKey.mk.injEq]
  exact and_congr_right fun _ => and_comm

/-- The maximum of a sum of counters. -/
theorem maxLatencyMs_sum {κ : Type} (keys : Finset κ) (value : κ → Counters) :
    (∑ key ∈ keys, value key).maxLatencyMs = keys.sup fun key => (value key).maxLatencyMs := by
  classical
  induction keys using Finset.induction_on with
  | empty => rfl
  | insert key keys hnot ih =>
      rw [Finset.sum_insert hnot, Finset.sup_insert, Counters.maxLatencyMs_add, ih]

/-- Every row of every reachable pair of tables counts at least one request and
puts each in one class; a device row exists exactly when its client has an rpc row
that day in that project, and holds the sums and the maximum of these rows. -/
theorem daily_tables_agree (t : DailyTables) (h : metricsMachine.Reachable t) :
    (∀ key row, t.rpc.lookup key = some row → row.totalRequests =
        row.successRequests + row.failedRequests + row.timeoutRequests ∧ 1 ≤ row.totalRequests) ∧
      (∀ key row, t.device.lookup key = some row → row.totalRequests =
        row.successRequests + row.failedRequests + row.timeoutRequests ∧ 1 ≤ row.totalRequests) ∧
      ∀ statDate projectName clientId, clientId ≠ "" →
        ((∃ row, t.device.lookup ⟨statDate, clientId, projectName⟩ = some row) ↔
          ∃ actionName row,
            t.rpc.lookup ⟨statDate, projectName, actionName, clientId⟩ = some row) ∧
        ∀ row, t.device.lookup ⟨statDate, clientId, projectName⟩ = some row →
          row.totalRequests = ∑ key ∈ t.rpcKeysOf statDate projectName clientId,
              (valueAt t.rpc key).totalRequests ∧
            row.successRequests = ∑ key ∈ t.rpcKeysOf statDate projectName clientId,
              (valueAt t.rpc key).successRequests ∧
            row.failedRequests = ∑ key ∈ t.rpcKeysOf statDate projectName clientId,
              (valueAt t.rpc key).failedRequests ∧
            row.timeoutRequests = ∑ key ∈ t.rpcKeysOf statDate projectName clientId,
              (valueAt t.rpc key).timeoutRequests ∧
            row.totalLatencyMs = ∑ key ∈ t.rpcKeysOf statDate projectName clientId,
              (valueAt t.rpc key).totalLatencyMs ∧
            row.maxLatencyMs = (t.rpcKeysOf statDate projectName clientId).sup
              fun key => (valueAt t.rpc key).maxLatencyMs := by
  have hagree := metricsMachine_agree h
  refine ⟨fun key row hrow => ⟨(hagree.rpc_rows key row hrow).classes,
    (hagree.rpc_rows key row hrow).counted⟩, fun key row hrow =>
    ⟨(hagree.device_rows key row hrow).classes, (hagree.device_rows key row hrow).counted⟩,
    fun statDate projectName clientId hclient => ?_⟩
  obtain ⟨hmem, hvalue⟩ := hagree.projection ⟨statDate, clientId, projectName⟩ hclient
  constructor
  · rw [← mem_iff_lookup, hmem]
    constructor
    · rintro ⟨key, hkey, heq⟩
      obtain ⟨hdate, hproject, hid⟩ := deviceKey_eq_iff.mp heq
      refine ⟨key.actionName, mem_iff_lookup.mp ?_⟩
      rw [← hdate, ← hproject, ← hid]
      exact hkey
    · rintro ⟨actionName, row, hrow⟩
      exact ⟨⟨statDate, projectName, actionName, clientId⟩, Finmap.mem_of_lookup_eq_some hrow, rfl⟩
  · intro row hrow
    have hsum : row = ∑ key ∈ t.rpcKeysOf statDate projectName clientId, valueAt t.rpc key := by
      rw [valueAt, hrow, Option.getD_some, total] at hvalue
      rw [hvalue, DailyTables.rpcKeysOf]
      exact Finset.sum_congr (Finset.filter_congr fun key _ => deviceKey_eq_iff) fun _ _ => rfl
    have hcolumn : ∀ column : Counters →+ Nat, column row =
        ∑ key ∈ t.rpcKeysOf statDate projectName clientId, column (valueAt t.rpc key) :=
      fun column => by rw [hsum, map_sum]
    refine ⟨hcolumn Counters.totalRequestsHom, hcolumn Counters.successRequestsHom,
      hcolumn Counters.failedRequestsHom, hcolumn Counters.timeoutRequestsHom,
      hcolumn Counters.totalLatencyMsHom, ?_⟩
    rw [hsum, maxLatencyMs_sum]

/-- Two actions of one device, a call that fails, and a cleanup. -/
def sampleCalls : List MetricsAction :=
  [.recordCompletion (sampleJob 1 (some "device-a") "ok" (some 10)) false,
    .recordCompletion { sampleJob 2 (some "device-a") "error" (some 30) with action := "order" }
      false,
    .recordCompletion (sampleJob 3 (some "device-a") "ok" none) true,
    .cleanupOldMetrics 5000 2]

theorem daily_tables_agree_sample :
    ∃ t, metricsMachine.run .empty sampleCalls = some t ∧
      ∃ row, t.device.lookup ⟨0, "device-a", "billing"⟩ = some row ∧
        row.totalRequests = ∑ key ∈ t.rpcKeysOf 0 "billing" "device-a",
          (valueAt t.rpc key).totalRequests := by
  refine ⟨_, rfl, ⟨2, 1, 1, 0, 40, 30⟩, by decide, ?_⟩
  have hreach : metricsMachine.Reachable _ := ⟨.empty, sampleCalls, rfl, rfl⟩
  exact (((daily_tables_agree _ hreach).2.2 0 "billing" "device-a" (by decide)).2
    ⟨2, 1, 1, 0, 40, 30⟩ (by decide)).1

end Metrics
end R2RPC
