import R2RPC.Metrics.RebuildRace

/-!
# The rebuild counts every request once

A table is looked at as the rebuild sees it, with the rows that it has still to
insert already there.  From the moment the rebuild has read {lit}`request_logs` on,
that table is the grouping of the requests whose completion is committed, and a
worker that commits adds its request on both sides.

Main results:

- Definition {lit}`HeldBy`: what the workers have written and not committed.
- Definition {lit}`Accounts`: the table with the rows that remain is a grouping.
- Theorem {lit}`RebuildState.Inv.step`: both are kept where the condition holds.
- Theorem {lit}`rebuild_counts_once`: the tables when everything has finished.
-/

namespace R2RPC
namespace Metrics

open Interleaving Aggregates
open ReadCommitted (Cell Version DeleteScan)

/-! ## The rows of the workers -/

section LiveTables

variable {κ : Type} {table : LiveTable κ} {key : κ} {requestId : RequestId}
  {counters : Counters} {held held' : RequestId → Option (κ × Counters)}

/-- The version that a worker writes over a row. -/
def countedOver (requestId : RequestId) (counters : Counters)
    (row : Option (Version Participant Counters)) : Version Participant Counters :=
  .upserted (.worker requestId) counters (· + counters) row

theorem value_countedOver (row : Option (Version Participant Counters)) :
    (countedOver requestId counters row).value = (row.map (·.value)).getD 0 + counters := by
  cases row with
  | none => exact (zero_add counters).symm
  | some version => rfl

/-- Every worker has written the row that it holds, and no other. -/
def HeldBy (table : LiveTable κ) (held : RequestId → Option (κ × Counters)) : Prop :=
  ∀ key requestId version, (table.cell key).pending = some (.worker requestId, version) ↔
    ∃ counters, held requestId = some (key, counters) ∧
      version = some (countedOver requestId counters (table.cell key).committed)

namespace HeldBy

theorem congr (h : HeldBy table held) (heq : ∀ requestId, held' requestId = held requestId) :
    HeldBy table held' :=
  (funext heq : held' = held) ▸ h

/-- A worker that holds no row sees the committed ones. -/
theorem view_eq (h : HeldBy table held) (hnone : held requestId = none) :
    (table.cell key).view (.worker requestId) = (table.cell key).committed := by
  refine Cell.view_eq_committed fun version hpending => ?_
  rcases (h key requestId version).mp hpending with ⟨counters, hheld, -⟩
  rw [hnone] at hheld
  contradiction

/-- A transaction commits; if it is a worker, it holds no row any more. -/
theorem commit (h : HeldBy table held) (t : Participant)
    (hself : ∀ requestId, t = .worker requestId → held' requestId = none)
    (hother : ∀ requestId, t ≠ .worker requestId → held' requestId = held requestId) :
    HeldBy (table.commit t) held' := by
  intro k other version
  rw [ReadCommitted.Table.cell_commit, Cell.pending_commit]
  by_cases heq : t = .worker other
  · rw [hself other heq]
    constructor
    · exact fun hpending => absurd heq.symm hpending.2
    · rintro ⟨_, hheld, -⟩
      contradiction
  · have hkept : ∀ written, (table.cell k).pending = some (.worker other, written) →
        (table.cell k).commit t = table.cell k := by
      intro written hpending
      refine Cell.commit_of_not_pending fun version hcommit => heq ?_
      rw [hpending, Option.some.injEq, Prod.mk.injEq] at hcommit
      exact hcommit.1.symm
    rw [hother other heq]
    constructor
    · rintro ⟨hpending, -⟩
      rw [hkept version hpending]
      exact (h k other version).mp hpending
    · rintro ⟨counters, hheld, hversion⟩
      have hpending := (h k other _).mpr ⟨counters, hheld, rfl⟩
      rw [hkept _ hpending] at hversion
      exact ⟨hversion ▸ hpending, fun h => heq h.symm⟩

variable [DecidableEq κ]

/-- A worker writes its row. -/
theorem upsert (h : HeldBy table held) (counters : Counters) (hnone : held requestId = none)
    (hlocked : (table.cell key).locked (.worker requestId) = false)
    (hself : held' requestId = some (key, counters))
    (hother : ∀ other ≠ requestId, held' other = held other) :
    HeldBy (table.set key ((table.cell key).write (.worker requestId)
      (some (countedOver requestId counters ((table.cell key).view (.worker requestId)))))) held' := by
  intro k other version
  rw [ReadCommitted.Table.committed_set_write]
  by_cases heq : other = requestId
  · subst heq
    by_cases hk : k = key
    · subst hk
      rw [ReadCommitted.Table.cell_set_self, Cell.pending_write, Option.some.injEq, Prod.mk.injEq,
        h.view_eq hnone]
      constructor
      · rintro ⟨-, rfl⟩
        exact ⟨counters, hself, rfl⟩
      · rintro ⟨written, hheld, rfl⟩
        rw [hself, Option.some.injEq, Prod.mk.injEq] at hheld
        exact ⟨rfl, by rw [hheld.2]⟩
    · rw [ReadCommitted.Table.cell_set_of_ne hk, h k other version, hnone, hself]
      constructor
      · rintro ⟨_, hheld, -⟩
        contradiction
      · rintro ⟨_, hheld, -⟩
        exact absurd (congrArg Prod.fst (Option.some.inj hheld)).symm hk
  · rw [ReadCommitted.Table.pending_set_write hlocked (by simpa using heq), h k other version,
      hother other heq]

/-- The rebuild writes a row that no worker holds. -/
theorem rebuildWrite (h : HeldBy table held) {version : Option (Version Participant Counters)}
    (hlocked : (table.cell key).locked .rebuild = false) :
    HeldBy (table.set key ((table.cell key).write .rebuild version)) held := by
  intro k other written
  rw [ReadCommitted.Table.committed_set_write,
    ReadCommitted.Table.pending_set_write hlocked (by simp), h k other written]

end HeldBy

/-! ## The table as the rebuild leaves it -/

variable [DecidableEq κ]

/-- Inside the window, the table with the rows that the rebuild has still to insert
is the expected one; nobody has taken the place of these rows. -/
structure Accounts (window : κ → Prop) (table : LiveTable κ) (remaining : Table κ Counters)
    (expected : κ → Option Counters) : Prop where
  remains : ∀ key counters, remaining.lookup key = some counters →
    window key ∧ (table.cell key).view .rebuild = none ∧
      (∀ requestId version, (table.cell key).pending ≠ some (.worker requestId, version)) ∧
      expected key = some counters
  present : ∀ key, window key → remaining.lookup key = none →
    ((table.cell key).view .rebuild).map (·.value) = expected key

namespace Accounts

variable {window : κ → Prop} {remaining : Table κ Counters} {expected expected' : κ → Option Counters}

/-- The rebuild has read what it is to insert. -/
theorem start (hwindow : ∀ key counters, remaining.lookup key = some counters → window key)
    (hvisible : ∀ key ∈ table.visible .rebuild, ¬ window key)
    (hfree : ∀ key, window key → ∀ requestId version,
      (table.cell key).pending ≠ some (.worker requestId, version)) :
    Accounts window table remaining fun key => remaining.lookup key := by
  have hnone : ∀ key, window key → (table.cell key).view .rebuild = none := by
    intro key hkey
    rw [← Option.not_isSome_iff_eq_none]
    exact fun hview => hvisible key (ReadCommitted.Table.mem_visible.mpr hview) hkey
  constructor
  · intro key counters hfound
    have hkey := hwindow key counters hfound
    exact ⟨hkey, hnone key hkey, hfree key hkey, hfound⟩
  · intro key hkey hfound
    rw [hnone key hkey, hfound]
    rfl

theorem congr (h : Accounts window table remaining expected)
    (heq : ∀ key, expected' key = expected key) : Accounts window table remaining expected' :=
  (funext heq : expected' = expected) ▸ h

/-- The rebuild inserts a row. -/
theorem insertRow (h : Accounts window table remaining expected)
    (hfound : remaining.lookup key = some counters) :
    Accounts window
      (table.set key ((table.cell key).write .rebuild (some ⟨some .rebuild, counters⟩)))
      (remaining.erase key) expected := by
  constructor
  · intro k written hk
    have hne : k ≠ key := by
      rintro rfl
      rw [Finmap.lookup_erase] at hk
      contradiction
    rw [Finmap.lookup_erase_ne hne] at hk
    rw [ReadCommitted.Table.cell_set_of_ne hne]
    exact h.remains k written hk
  · intro k hwindow hk
    by_cases heq : k = key
    · rw [heq, ReadCommitted.Table.cell_set_self, Cell.view_write]
      exact (h.remains key counters hfound).2.2.2.symm
    · rw [Finmap.lookup_erase_ne heq] at hk
      rw [ReadCommitted.Table.cell_set_of_ne heq]
      exact h.present k hwindow hk

/-- A worker writes a row that the rebuild does not insert; the rebuild does not see
it. -/
theorem upsert (h : Accounts window table remaining expected)
    {version : Option (Version Participant Counters)}
    (hlocked : (table.cell key).locked (.worker requestId) = false)
    (hfree : remaining.lookup key = none) :
    Accounts window (table.set key ((table.cell key).write (.worker requestId) version)) remaining
      expected := by
  constructor
  · intro k counters hk
    have hne : k ≠ key := by
      rintro rfl
      rw [hfree] at hk
      contradiction
    rw [ReadCommitted.Table.cell_set_of_ne hne]
    exact h.remains k counters hk
  · intro k hwindow hk
    rw [ReadCommitted.Table.view_set_write hlocked (by simp)]
    exact h.present k hwindow hk

/-- A worker that holds no row commits. -/
theorem commit_none (h : Accounts window table remaining expected) (hheld : HeldBy table held)
    (hnone : held requestId = none) :
    Accounts window (table.commit (.worker requestId)) remaining expected := by
  have hcell : ∀ k, (table.commit (.worker requestId)).cell k = table.cell k := by
    intro k
    refine Cell.commit_of_not_pending fun version hpending => ?_
    rcases (hheld k requestId version).mp hpending with ⟨_, hsome, -⟩
    rw [hnone] at hsome
    contradiction
  constructor
  · intro k counters hk
    rw [hcell]
    exact h.remains k counters hk
  · intro k hwindow hk
    rw [hcell]
    exact h.present k hwindow hk

/-- A worker commits the row that it holds. -/
theorem commit_some (h : Accounts window table remaining expected) (hheld : HeldBy table held)
    (hsome : held requestId = some (key, counters))
    (hexpected : ∀ k, window k → expected' k =
      if k = key then some ((expected key).getD 0 + counters) else expected k) :
    Accounts window (table.commit (.worker requestId)) remaining expected' := by
  have hpending := (hheld key requestId _).mpr ⟨counters, hsome, rfl⟩
  have hcell : ∀ k ≠ key, (table.commit (.worker requestId)).cell k = table.cell k := by
    intro k hne
    refine Cell.commit_of_not_pending fun version hcommit => ?_
    rcases (hheld k requestId version).mp hcommit with ⟨_, hk, -⟩
    rw [hsome, Option.some.injEq, Prod.mk.injEq] at hk
    exact hne hk.1.symm
  constructor
  · intro k written hk
    obtain ⟨hwindow, hview, hfree, hwritten⟩ := h.remains k written hk
    have hne : k ≠ key := by
      rintro rfl
      exact hfree requestId _ hpending
    rw [hcell k hne, hexpected k hwindow, if_neg hne]
    exact ⟨hwindow, hview, hfree, hwritten⟩
  · intro k hwindow hk
    rw [hexpected k hwindow]
    by_cases heq : k = key
    · subst heq
      rw [if_pos rfl, ReadCommitted.Table.cell_commit, Cell.commit_of_pending hpending,
        Cell.view_of_pending_none rfl, Option.map_some, value_countedOver, ← h.present k hwindow hk,
        Cell.view_of_pending_other hpending (by simp)]
    · rw [hcell k heq, if_neg heq]
      exact h.present k hwindow hk

/-- The rebuild commits when no row remains. -/
theorem commitRebuild (h : Accounts window table ∅ expected) :
    Accounts window (table.commit .rebuild) ∅ expected := by
  constructor
  · intro k counters hk
    rw [Finmap.lookup_empty] at hk
    contradiction
  · intro k hwindow hk
    rw [ReadCommitted.Table.cell_commit, Cell.view_commit_self]
    exact h.present k hwindow hk

end Accounts

end LiveTables

/-! ## The requests that are counted -/

namespace RebuildState

variable (cutoff : Day) (jobs : RequestId → RequestLogJob) (s : RebuildState)

/-- The recent requests whose completion is not about to be committed. -/
def settledRows : List RequestLogRow :=
  (s.recentRows cutoff).filter fun row => !(s.stage row.requestId).uncounted

/-- What the rpc table should hold. -/
def expectedRpc (key : RpcKey) : Option Counters :=
  (groupBy RequestLogRow.rpcKey aggregate (s.settledRows cutoff)).lookup key

/-- What the device table should hold. -/
def expectedDevice (key : DeviceKey) : Option Counters :=
  (groupBy RequestLogRow.deviceKey aggregate
    ((s.settledRows cutoff).filter (·.clientId.isSome))).lookup key

/-- The row of the rpc table that a worker holds. -/
def rpcHeld (requestId : RequestId) : Option (RpcKey × Counters) :=
  match s.stage requestId with
  | .upsertDevice | .commit =>
      (completion jobs requestId).map fun c => (c.key, c.counters)
  | _ => none

/-- The row of the device table that a worker holds. -/
def deviceHeld (requestId : RequestId) : Option (DeviceKey × Counters) :=
  match s.stage requestId with
  | .commit =>
      (completion jobs requestId).bind fun c =>
        if c.device then some (c.key.deviceKey, c.counters) else none
  | _ => none

end RebuildState

namespace RebuildStage

/-- The rebuild has written rows of the rpc table. -/
def writesRpc : RebuildStage → Bool
  | .deleteRpc _ | .deleteDevice _ | .insertRpc _ | .insertDevice _ => true
  | _ => false

/-- The rebuild has written rows of the device table. -/
def writesDevice : RebuildStage → Bool
  | .deleteDevice _ | .insertRpc _ | .insertDevice _ => true
  | _ => false

/-- The rebuild has read `request_logs` for the rpc table. -/
def requestsRead : RebuildStage → Bool
  | .insertRpc _ | .insertDevice _ | .committed => true
  | _ => false

/-- The rows of the rpc table that remain to be inserted. -/
def remainingRpc : RebuildStage → Table RpcKey Counters
  | .insertRpc remaining => remaining
  | _ => ∅

/-- The rows of the device table that remain to be inserted. -/
def remainingDevice : RebuildStage → Table DeviceKey Counters
  | .insertDevice remaining => remaining
  | _ => ∅

end RebuildStage

/-- What the rebuild and the workers keep to while the condition holds. -/
structure RebuildState.Inv (cutoff : Day) (jobs : RequestId → RequestLogJob) (s : RebuildState) :
    Prop where
  nodup : (s.logs.rows.map (·.requestId)).Nodup
  recorded : ∀ requestId, (s.stage requestId).uncounted = true →
    ∃ row ∈ s.logs.rows, StoredAs (jobOf jobs requestId) row
  /-- Only the request of a device is on its way to the device table. -/
  device : ∀ requestId, s.stage requestId = .upsertDevice →
    ∃ c, completion jobs requestId = some c ∧ c.device = true
  heldRpc : HeldBy s.rpc (s.rpcHeld jobs)
  heldDevice : HeldBy s.device (s.deviceHeld jobs)
  writesRpc : ∀ key version, (s.rpc.cell key).pending = some (.rebuild, version) →
    s.rebuild.writesRpc = true
  writesDevice : ∀ key version, (s.device.cell key).pending = some (.rebuild, version) →
    s.rebuild.writesDevice = true
  accountsRpc : s.rebuild.requestsRead = true →
    Accounts (fun key => cutoff ≤ key.statDate) s.rpc s.rebuild.remainingRpc (s.expectedRpc cutoff)
  accountsDevice : s.rebuild.devicesRead = true →
    Accounts (fun key => cutoff ≤ key.statDate) s.device s.rebuild.remainingDevice
      (s.expectedDevice cutoff)
  /-- No request with the empty client id comes after the rebuild has read the devices. -/
  clients : s.rebuild.devicesRead = true → ∀ requestId, (s.stage requestId).uncounted = true →
    cutoff ≤ utcDay (jobs requestId).createdAt → (jobs requestId).clientId ≠ some ""
  rebuildRuns : s.rebuild ≠ .aborted
  workersRun : ∀ requestId, s.stage requestId ≠ .aborted

/-! ## Changes of the expected rows -/

theorem filter_perm_cons {α : Type} [DecidableEq α] {p q : α → Bool} {a : α} {l : List α}
    (hnodup : l.Nodup) (ha : a ∈ l) (hp : p a = false) (hq : q a = true)
    (heq : ∀ b ∈ l, b ≠ a → q b = p b) : (l.filter q).Perm (a :: l.filter p) := by
  have herase : (l.erase a).filter q = (l.erase a).filter p :=
    List.filter_congr fun b hb =>
      heq b (List.mem_of_mem_erase hb) ((List.Nodup.mem_erase_iff hnodup).mp hb).1
  have hsplit := List.perm_cons_erase ha
  have hq' : (a :: l.erase a).filter q = a :: (l.erase a).filter p := by
    rw [List.filter_cons_of_pos hq, herase]
  have hp' : (a :: l.erase a).filter p = (l.erase a).filter p :=
    List.filter_cons_of_neg (by simp [hp])
  have hrest : (l.filter p).Perm ((l.erase a).filter p) := hp' ▸ hsplit.filter p
  exact (hq' ▸ hsplit.filter q).trans (hrest.symm.cons a)

namespace RebuildState

variable {cutoff : Day} {jobs : RequestId → RequestLogJob} {s t : RebuildState}
  {requestId : RequestId}

@[simp]
theorem setStage_self (stage : WorkerStage) : (s.setStage requestId stage).stage requestId = stage :=
  Function.update_self ..

theorem setStage_of_ne (stage : WorkerStage) {other : RequestId} (hne : other ≠ requestId) :
    (s.setStage requestId stage).stage other = s.stage other :=
  Function.update_of_ne hne ..

theorem holds_eq_true {κ : Type} {table : LiveTable κ} {key : κ} {p : Participant} :
    holds table key p = true ↔ ∃ version, (table.cell key).pending = some (p, version) := by
  unfold holds
  cases (table.cell key).pending with
  | none => simp
  | some held =>
      simp only [Option.any_some, beq_iff_eq, Option.some.injEq]
      exact ⟨fun h => ⟨held.2, h ▸ rfl⟩, fun ⟨_, h⟩ => congrArg Prod.fst h⟩

theorem settledRows_congr (hrows : t.logs.rows = s.logs.rows)
    (hstage : ∀ requestId, (t.stage requestId).uncounted = (s.stage requestId).uncounted) :
    t.settledRows cutoff = s.settledRows cutoff := by
  simp only [settledRows, recentRows, hrows, hstage]

/-- A request that has just been recorded is not counted. -/
theorem settledRows_append (cutoff : Day) (nextId : Nat) {row : RequestLogRow}
    (hid : row.requestId = requestId) (hnew : s.logs.contains requestId = false) :
    (({ s with logs := ⟨s.logs.rows ++ [row], nextId⟩ } : RebuildState).setStage requestId
      .upsertRpc).settledRows cutoff = s.settledRows cutoff := by
  have hstage : ∀ other : RequestLogRow, other.requestId ≠ requestId →
      Function.update s.stage requestId .upsertRpc other.requestId = s.stage other.requestId :=
    fun other hne => Function.update_of_ne hne ..
  change List.filter (fun other => !(Function.update s.stage requestId .upsertRpc
    other.requestId).uncounted) (inWindow cutoff (s.logs.rows ++ [row])) = _
  rw [inWindow, List.filter_append, List.filter_append]
  have hrow : List.filter (fun other => !(Function.update s.stage requestId .upsertRpc
      other.requestId).uncounted) (List.filter (fun other => decide
        (cutoff * millisecondsPerDay ≤ other.createdAt)) [row]) = [] := by
    refine List.filter_eq_nil_iff.mpr fun other hother => ?_
    rw [List.mem_singleton.mp (List.mem_of_mem_filter hother), hid, Function.update_self]
    simp [WorkerStage.uncounted]
  rw [hrow, List.append_nil]
  refine List.filter_congr fun other hother => ?_
  rw [hstage other]
  rintro rfl
  rw [RequestLogs.contains, List.any_eq_false] at hnew
  exact hnew other (List.mem_of_mem_filter hother) (beq_self_eq_true _)

/-- A worker that commits has its row counted, if it is recent. -/
theorem Inv.settledRows_commit (h : s.Inv cutoff jobs)
    (huncounted : (s.stage requestId).uncounted = true) {row : RequestLogRow}
    (hrow : row ∈ s.logs.rows) (hid : row.requestId = requestId) :
    (cutoff ≤ utcDay row.createdAt ∧ ((s.setStage requestId .done).settledRows cutoff).Perm
        (row :: s.settledRows cutoff)) ∨
      (¬ cutoff ≤ utcDay row.createdAt ∧
        (s.setStage requestId .done).settledRows cutoff = s.settledRows cutoff) := by
  have hsame : ∀ other ∈ s.recentRows cutoff, other.requestId = requestId → other = row :=
    fun other hmem heq => List.inj_on_of_nodup_map h.nodup (mem_inWindow.mp hmem).1 hrow
      (heq.trans hid.symm)
  have hother : ∀ other : RequestLogRow, other.requestId ≠ requestId →
      ((s.setStage requestId .done).stage other.requestId).uncounted =
        (s.stage other.requestId).uncounted := by
    intro other hne
    rw [setStage_of_ne _ hne]
  by_cases hwindow : cutoff ≤ utcDay row.createdAt
  · refine Or.inl ⟨hwindow, filter_perm_cons ((List.Nodup.of_map _ h.nodup).filter _)
      (mem_inWindow.mpr ⟨hrow, hwindow⟩) (by rw [hid, huncounted]; rfl)
      (by rw [hid, setStage_self]; rfl) fun other hmem hne => ?_⟩
    rw [hother other fun heq => hne (hsame other hmem heq)]
  · refine Or.inr ⟨hwindow, List.filter_congr fun other hmem => ?_⟩
    rw [hother other fun heq => hwindow (hsame other hmem heq ▸ (mem_inWindow.mp hmem).2)]

/-- What a request whose row is recorded counts. -/
theorem Inv.completion_recorded (h : s.Inv cutoff jobs)
    (huncounted : (s.stage requestId).uncounted = true) {c : Completion}
    (hc : completion jobs requestId = some c) :
    ∃ row ∈ s.logs.rows, row.requestId = requestId ∧
      row.createdAt = (jobs requestId).createdAt ∧ c.key = row.rpcKey ∧
      c.counters = row.completion.counters ∧
      (c.device = true ↔ row.clientId.isSome = true ∧ (jobs requestId).clientId ≠ some "") := by
  rcases h.recorded requestId huncounted with ⟨row, hrow, hstored⟩
  have hcompletion := hc.symm.trans hstored.completion
  rw [Option.some.injEq] at hcompletion
  have hcolumn := hstored.clientId
  change nullable (varchar 128) (jobs requestId).clientId = _ at hcolumn
  refine ⟨row, hrow, hstored.requestId, hstored.createdAt, by rw [hcompletion]; rfl,
    by rw [hcompletion], ?_⟩
  rw [hcompletion]
  change decide ((jobs requestId).clientId.getD "" ≠ "") = true ↔ _
  cases hjob : (jobs requestId).clientId with
  | none =>
      rw [hjob, nullable, Option.some.injEq] at hcolumn
      rw [← hcolumn]
      simp
  | some text =>
      rw [hjob, nullable, Option.map_eq_some_iff] at hcolumn
      rcases hcolumn with ⟨stored, -, heq⟩
      rw [← heq]
      simp

theorem Inv.expectedRpc_commit (h : s.Inv cutoff jobs)
    (huncounted : (s.stage requestId).uncounted = true) {c : Completion}
    (hc : completion jobs requestId = some c) (key : RpcKey) (hkey : cutoff ≤ key.statDate) :
    (s.setStage requestId .done).expectedRpc cutoff key =
      if key = c.key then some ((s.expectedRpc cutoff c.key).getD 0 + c.counters)
      else s.expectedRpc cutoff key := by
  obtain ⟨row, hrow, hid, -, hrpcKey, hcounters, -⟩ := h.completion_recorded huncounted hc
  rw [hrpcKey, hcounters]
  rcases h.settledRows_commit huncounted hrow hid with
    ⟨-, hperm⟩ | ⟨hwindow, hsame⟩
  · rw [expectedRpc, groupBy_perm aggregate_eq_sum hperm, lookup_groupBy_cons aggregate_eq_sum]
    by_cases heq : key = row.rpcKey
    · rw [if_pos heq, if_pos heq, heq]
      rfl
    · rw [if_neg heq, if_neg heq]
      rfl
  · rw [expectedRpc, hsame, if_neg]
    · rfl
    · rintro rfl
      exact hwindow hkey

/-- The request of a device is counted in both tables. -/
theorem Inv.expectedDevice_commit (h : s.Inv cutoff jobs)
    (huncounted : (s.stage requestId).uncounted = true) {c : Completion}
    (hc : completion jobs requestId = some c) (hdevice : c.device = true) (key : DeviceKey)
    (hkey : cutoff ≤ key.statDate) :
    (s.setStage requestId .done).expectedDevice cutoff key =
      if key = c.key.deviceKey then
        some ((s.expectedDevice cutoff c.key.deviceKey).getD 0 + c.counters)
      else s.expectedDevice cutoff key := by
  obtain ⟨row, hrow, hid, -, hrpcKey, hcounters, hclient⟩ := h.completion_recorded huncounted hc
  have hdeviceKey : c.key.deviceKey = row.deviceKey := by rw [hrpcKey]; rfl
  rw [hdeviceKey, hcounters]
  rcases h.settledRows_commit huncounted hrow hid with
    ⟨-, hperm⟩ | ⟨hwindow, hsame⟩
  · have hfilter := hperm.filter fun row => row.clientId.isSome
    rw [List.filter_cons_of_pos (p := fun row : RequestLogRow => row.clientId.isSome)
      (hclient.mp hdevice).1] at hfilter
    rw [expectedDevice, groupBy_perm aggregate_eq_sum hfilter,
      lookup_groupBy_cons aggregate_eq_sum]
    by_cases heq : key = row.deviceKey
    · rw [if_pos heq, if_pos heq, heq]
      rfl
    · rw [if_neg heq, if_neg heq]
      rfl
  · rw [expectedDevice, hsame, if_neg]
    · rfl
    · rintro rfl
      exact hwindow hkey

/-- A request without a device changes no device row. -/
theorem Inv.expectedDevice_commit_none (h : s.Inv cutoff jobs)
    (hread : s.rebuild.devicesRead = true)
    (huncounted : (s.stage requestId).uncounted = true) {c : Completion}
    (hc : completion jobs requestId = some c) (hdevice : c.device ≠ true) (key : DeviceKey) :
    (s.setStage requestId .done).expectedDevice cutoff key = s.expectedDevice cutoff key := by
  obtain ⟨row, hrow, hid, hcreated, -, -, hclient⟩ := h.completion_recorded huncounted hc
  rcases h.settledRows_commit huncounted hrow hid with
    ⟨hwindow, hperm⟩ | ⟨-, hsame⟩
  · have hnotEmpty := h.clients hread requestId huncounted (hcreated ▸ hwindow)
    have hfilter := hperm.filter fun row => row.clientId.isSome
    rw [List.filter_cons_of_neg (p := fun row : RequestLogRow => row.clientId.isSome)
      fun hsome => hdevice (hclient.mpr ⟨hsome, hnotEmpty⟩)] at hfilter
    rw [expectedDevice, groupBy_perm aggregate_eq_sum hfilter]
    rfl
  · rw [expectedDevice, hsame]
    rfl

/-! ## Steps of the rebuild -/

namespace Inv

theorem start (logs : RequestLogs) (rpc : Table RpcKey Counters) (device : Table DeviceKey Counters)
    (hnodup : (logs.rows.map (·.requestId)).Nodup) :
    (RebuildState.start logs rpc device).Inv cutoff jobs where
  nodup := hnodup
  recorded _ h := by contradiction
  device _ h := by contradiction
  heldRpc key requestId version := by
    simp [RebuildState.start, rpcHeld]
  heldDevice key requestId version := by
    simp [RebuildState.start, deviceHeld]
  writesRpc key version h := by simp [RebuildState.start] at h
  writesDevice key version h := by simp [RebuildState.start] at h
  accountsRpc h := by contradiction
  accountsDevice h := by contradiction
  clients h := by contradiction
  rebuildRuns h := by contradiction
  workersRun _ h := by contradiction

/-- A worker that holds a row of the rpc table has a recorded request. -/
theorem uncounted_of_rpc (h : s.Inv cutoff jobs) {key : RpcKey}
    {version : Option (Version Participant Counters)}
    (hpending : (s.rpc.cell key).pending = some (.worker requestId, version)) :
    (s.stage requestId = .upsertDevice ∨ s.stage requestId = .commit) ∧
      ∃ c, completion jobs requestId = some c ∧ c.key = key := by
  rcases (h.heldRpc key requestId version).mp hpending with ⟨counters, hheld, -⟩
  unfold rpcHeld at hheld
  split at hheld
  next hstage =>
    rcases Option.map_eq_some_iff.mp hheld with ⟨c, hc, heq⟩
    exact ⟨Or.inl hstage, c, hc, congrArg Prod.fst heq⟩
  next hstage =>
    rcases Option.map_eq_some_iff.mp hheld with ⟨c, hc, heq⟩
    exact ⟨Or.inr hstage, c, hc, congrArg Prod.fst heq⟩
  next => contradiction

/-- A worker that holds a row of the device table is about to commit. -/
theorem commit_of_device (h : s.Inv cutoff jobs) {key : DeviceKey}
    {version : Option (Version Participant Counters)}
    (hpending : (s.device.cell key).pending = some (.worker requestId, version)) :
    s.stage requestId = .commit ∧
      ∃ c, completion jobs requestId = some c ∧ c.device = true ∧ c.key.deviceKey = key := by
  rcases (h.heldDevice key requestId version).mp hpending with ⟨counters, hheld, -⟩
  unfold deviceHeld at hheld
  split at hheld
  next hstage =>
    rcases Option.bind_eq_some_iff.mp hheld with ⟨c, hc, hdevice⟩
    split at hdevice
    next hcounts =>
      exact ⟨hstage, c, hc, hcounts, congrArg Prod.fst (Option.some.inj hdevice)⟩
    next => contradiction
  next => contradiction

/-- The rebuild reads the requests when all recent ones are counted. -/
theorem startInsertRpc (h : s.Inv cutoff jobs) (hready : s.ReadyForRpc cutoff) :
    ({ s with
      rebuild := .insertRpc (groupBy RequestLogRow.rpcKey aggregate (s.recentRows cutoff)) } :
        RebuildState).Inv cutoff jobs := by
  obtain ⟨hcounted, hvisible⟩ := hready
  have hsettled : s.settledRows cutoff = s.recentRows cutoff :=
    List.filter_eq_self.mpr fun row hrow => by rw [hcounted row hrow]; rfl
  refine ⟨h.nodup, h.recorded, h.device, h.heldRpc, h.heldDevice, fun _ _ _ => rfl,
    fun _ _ _ => rfl, fun _ => ?_, fun hread => by contradiction, fun hread => by contradiction,
    by simp, h.workersRun⟩
  change Accounts _ s.rpc _ (s.expectedRpc cutoff)
  unfold expectedRpc
  rw [hsettled]
  refine Accounts.start (fun key counters hfound => ?_) (fun key hkey => ?_)
    fun key hkey requestId version hpending => ?_
  · rcases exists_of_lookup_groupBy hfound with ⟨row, hrow, rfl⟩
    exact (mem_inWindow.mp hrow).2
  · exact Int.not_le.mpr (hvisible key hkey)
  · obtain ⟨hstage, c, hc, rfl⟩ := h.uncounted_of_rpc hpending
    have huncounted : (s.stage requestId).uncounted = true := by
      rcases hstage with hstage | hstage <;> rw [hstage] <;> rfl
    obtain ⟨row, hrow, hid, -, hrpcKey, -⟩ := h.completion_recorded huncounted hc
    have hwindow : cutoff ≤ utcDay row.createdAt := by rw [hrpcKey] at hkey; exact hkey
    have hfalse := hcounted row (mem_inWindow.mpr ⟨hrow, hwindow⟩)
    rw [hid, huncounted] at hfalse
    contradiction

/-- The rebuild reads the requests of devices when all recent ones are counted. -/
theorem startInsertDevice (h : s.Inv cutoff jobs) {remaining : Table RpcKey Counters}
    (hready : s.ReadyForDevices cutoff) (before : s.rebuild = .insertRpc remaining)
    (finished : remaining = ∅) :
    ({ s with
      rebuild := .insertDevice
        (groupBy RequestLogRow.deviceKey aggregate (s.recentDeviceRows cutoff)) } :
          RebuildState).Inv cutoff jobs := by
  obtain ⟨hcounted, hvisible⟩ := hready
  have hsettled : (s.settledRows cutoff).filter (·.clientId.isSome) = s.recentDeviceRows cutoff := by
    unfold settledRows recentDeviceRows
    rw [List.filter_filter]
    refine List.filter_congr fun row hrow => ?_
    cases hclient : row.clientId.isSome with
    | false => rfl
    | true => rw [hcounted row (List.mem_filter.mpr ⟨hrow, hclient⟩)]; rfl
  -- A recent request that is uncounted has no client id.
  have hclientless : ∀ requestId, (s.stage requestId).uncounted = true →
      ∀ row ∈ s.logs.rows, row.requestId = requestId → cutoff ≤ utcDay row.createdAt →
        ¬ row.clientId.isSome = true := by
    intro requestId huncounted row hrow hid hwindow hclient
    have hfalse := hcounted row (List.mem_filter.mpr ⟨mem_inWindow.mpr ⟨hrow, hwindow⟩, hclient⟩)
    rw [hid, huncounted] at hfalse
    contradiction
  refine ⟨h.nodup, h.recorded, h.device, h.heldRpc, h.heldDevice, fun _ _ _ => rfl,
    fun _ _ _ => rfl, fun _ => ?_, fun _ => ?_, fun _ requestId huncounted hwindow hempty => ?_,
    by simp, h.workersRun⟩
  · have haccounts := h.accountsRpc (by rw [before]; rfl)
    rw [before, finished] at haccounts
    exact haccounts
  · change Accounts _ s.device _ (s.expectedDevice cutoff)
    unfold expectedDevice
    rw [hsettled]
    refine Accounts.start (fun key counters hfound => ?_) (fun key hkey => ?_)
      fun key hkey requestId version hpending => ?_
    · rcases exists_of_lookup_groupBy hfound with ⟨row, hrow, rfl⟩
      exact (mem_inWindow.mp (List.mem_of_mem_filter hrow)).2
    · exact Int.not_le.mpr (hvisible key hkey)
    · obtain ⟨hstage, c, hc, hdevice, rfl⟩ := h.commit_of_device hpending
      have huncounted : (s.stage requestId).uncounted = true := by rw [hstage]; rfl
      obtain ⟨row, hrow, hid, hcreated, hrpcKey, -, hclient⟩ := h.completion_recorded huncounted hc
      have hwindow : cutoff ≤ utcDay row.createdAt := by rw [hrpcKey] at hkey; exact hkey
      exact hclientless requestId huncounted row hrow hid hwindow (hclient.mp hdevice).1
  · rcases h.recorded requestId huncounted with ⟨row, hrow, hstored⟩
    refine hclientless requestId huncounted row hrow hstored.requestId
      (hstored.createdAt ▸ hwindow) ?_
    have hcolumn := hstored.clientId
    change nullable (varchar 128) (jobs requestId).clientId = _ at hcolumn
    rw [hempty, nullable, Option.map_eq_some_iff] at hcolumn
    rcases hcolumn with ⟨stored, -, heq⟩
    rw [← heq]
    rfl

/-- The rebuild commits. -/
theorem commitRebuild (h : s.Inv cutoff jobs) {remaining : Table DeviceKey Counters}
    (before : s.rebuild = .insertDevice remaining) (finished : remaining = ∅) :
    ({ s with
      rpc := s.rpc.commit .rebuild
      device := s.device.commit .rebuild
      rebuild := .committed } : RebuildState).Inv cutoff jobs := by
  have hrpc := h.accountsRpc (by rw [before]; rfl)
  have hdevice := h.accountsDevice (by rw [before]; rfl)
  rw [before] at hrpc
  rw [before, RebuildStage.remainingDevice, finished] at hdevice
  refine ⟨h.nodup, h.recorded, h.device, h.heldRpc.commit .rebuild (fun _ h => by contradiction)
    fun _ _ => rfl, h.heldDevice.commit .rebuild (fun _ h => by contradiction) fun _ _ => rfl,
    fun key version hpending => absurd rfl (Cell.pending_commit.mp hpending).2,
    fun key version hpending => absurd rfl (Cell.pending_commit.mp hpending).2,
    fun _ => hrpc.commitRebuild, fun _ => hdevice.commitRebuild, fun _ => ?_, by simp,
    h.workersRun⟩
  exact h.clients (by rw [before]; rfl)

/-- Both sides of a deadlock hold a row that the other one waits for; where the
condition holds, the rebuild waits for no worker that waits. -/
theorem not_deadlock (h : s.Inv cutoff jobs) {row : RebuildRow}
    (hrebuild : s.rebuildWaits requestId row = true)
    (hworker : s.workerWaits jobs requestId = true) : False := by
  unfold rebuildWaits at hrebuild
  split at hrebuild
  next scan key hstage =>
    rw [Bool.and_eq_true, holds_eq_true] at hrebuild
    rcases hrebuild.2 with ⟨version, hpending⟩
    rcases (h.uncounted_of_rpc hpending).1 with hdevice | hcommit
    · simp only [workerWaits, hdevice, Option.any_eq_true, holds_eq_true] at hworker
      rcases hworker with ⟨c, -, version, hheld⟩
      have hwrites := h.writesDevice _ _ hheld
      rw [hstage] at hwrites
      contradiction
    · simp [workerWaits, hcommit] at hworker
  next scan key hstage =>
    rw [Bool.and_eq_true, holds_eq_true] at hrebuild
    rcases hrebuild.2 with ⟨version, hpending⟩
    simp [workerWaits, (h.commit_of_device hpending).1] at hworker
  next remaining key hstage =>
    rw [Bool.and_eq_true, holds_eq_true, Option.isSome_iff_exists] at hrebuild
    rcases hrebuild with ⟨⟨counters, hfound⟩, version, hpending⟩
    have haccounts := h.accountsRpc (by rw [hstage]; rfl)
    rw [hstage] at haccounts
    exact (haccounts.remains key counters hfound).2.2.1 requestId version hpending
  next remaining key hstage =>
    rw [Bool.and_eq_true, holds_eq_true, Option.isSome_iff_exists] at hrebuild
    rcases hrebuild with ⟨⟨counters, hfound⟩, version, hpending⟩
    have haccounts := h.accountsDevice (by rw [hstage]; rfl)
    rw [hstage] at haccounts
    exact (haccounts.remains key counters hfound).2.2.1 requestId version hpending
  next => contradiction

/-! ## Steps of the workers -/

/-- A worker reaches a stage that leaves every other worker and every row alone. -/
theorem rpcHeld_setStage (stage : WorkerStage) {other : RequestId} (hne : other ≠ requestId) :
    (s.setStage requestId stage).rpcHeld jobs other = s.rpcHeld jobs other := by
  rw [rpcHeld, setStage_of_ne _ hne]
  rfl

theorem deviceHeld_setStage (stage : WorkerStage) {other : RequestId} (hne : other ≠ requestId) :
    (s.setStage requestId stage).deviceHeld jobs other = s.deviceHeld jobs other := by
  rw [deviceHeld, setStage_of_ne _ hne]
  rfl

/-- A worker that holds no row keeps to that. -/
theorem heldRpc_setStage (h : s.Inv cutoff jobs) {stage : WorkerStage}
    (hheld : (s.setStage requestId stage).rpcHeld jobs requestId = s.rpcHeld jobs requestId) :
    HeldBy s.rpc ((s.setStage requestId stage).rpcHeld jobs) := by
  refine h.heldRpc.congr fun other => ?_
  by_cases heq : other = requestId
  · exact heq ▸ hheld
  · exact rpcHeld_setStage stage heq

theorem heldDevice_setStage (h : s.Inv cutoff jobs) {stage : WorkerStage}
    (hheld : (s.setStage requestId stage).deviceHeld jobs requestId =
      s.deviceHeld jobs requestId) :
    HeldBy s.device ((s.setStage requestId stage).deviceHeld jobs) := by
  refine h.heldDevice.congr fun other => ?_
  by_cases heq : other = requestId
  · exact heq ▸ hheld
  · exact deviceHeld_setStage stage heq

/-- A worker records its request. -/
theorem writeSpine (h : s.Inv cutoff jobs) {row : RequestLogRow} {nextId : Nat}
    (hmay : s.WorkerMayAdvance cutoff jobs requestId) (before : s.stage requestId = .writeSpine)
    (new : s.logs.contains requestId = false) (stored : StoredAs (jobOf jobs requestId) row) :
    (({ s with logs := ⟨s.logs.rows ++ [row], nextId⟩ } : RebuildState).setStage requestId
      .upsertRpc).Inv cutoff jobs := by
  have hid : row.requestId = requestId := stored.requestId
  have hsettled := settledRows_append cutoff nextId hid new
  have hrpc : ∀ key, (({ s with logs := ⟨s.logs.rows ++ [row], nextId⟩ } : RebuildState).setStage
      requestId .upsertRpc).expectedRpc cutoff key = s.expectedRpc cutoff key := by
    intro key
    rw [expectedRpc, hsettled, expectedRpc]
  have hdevice : ∀ key, (({ s with logs := ⟨s.logs.rows ++ [row], nextId⟩ } :
      RebuildState).setStage requestId .upsertRpc).expectedDevice cutoff key =
        s.expectedDevice cutoff key := by
    intro key
    rw [expectedDevice, hsettled, expectedDevice]
  refine ⟨?_, fun other hother => ?_, fun other hother => ?_, ?_, ?_, h.writesRpc, h.writesDevice,
    fun hread => (h.accountsRpc hread).congr hrpc,
    fun hread => (h.accountsDevice hread).congr hdevice, fun hread other hother hwindow => ?_,
    h.rebuildRuns, fun other => ?_⟩
  · change ((s.logs.rows ++ [row]).map (·.requestId)).Nodup
    rw [List.map_append, List.nodup_append]
    refine ⟨h.nodup, List.nodup_singleton _, ?_⟩
    intro id hmem id' hmem' heq
    rcases List.mem_map.mp hmem with ⟨old, hold, rfl⟩
    have hold' : old.requestId = requestId := by
      rw [heq, List.mem_singleton.mp hmem']
      exact hid
    rw [RequestLogs.contains, List.any_eq_false] at new
    exact new old hold (by simp [hold'])
  · by_cases heq : other = requestId
    · exact ⟨row, List.mem_append_right _ List.mem_cons_self, heq ▸ stored⟩
    · rw [setStage_of_ne _ heq] at hother
      rcases h.recorded other hother with ⟨old, hold, hstored⟩
      exact ⟨old, List.mem_append_left _ hold, hstored⟩
  · have heq : other ≠ requestId := by
      rintro rfl
      simp at hother
    rw [setStage_of_ne _ heq] at hother
    exact h.device other hother
  · exact h.heldRpc_setStage (by simp [rpcHeld, before])
  · exact h.heldDevice_setStage (by simp [deviceHeld, before])
  · by_cases heq : other = requestId
    · subst heq
      intro hempty
      simp only [WorkerMayAdvance, before] at hmay
      exact Int.not_lt.mpr hwindow (hmay hread hempty)
    · rw [setStage_of_ne _ heq] at hother
      exact h.clients hread other hother hwindow
  · by_cases heq : other = requestId
    · rw [heq, setStage_self]
      simp
    · rw [setStage_of_ne _ heq]
      exact h.workersRun other

/-- A worker goes on, and as many requests are counted as before. -/
theorem moveWorker (stage : WorkerStage) (h : s.Inv cutoff jobs) {logs : RequestLogs}
    {rpc : LiveTable RpcKey} {device : LiveTable DeviceKey} (hlogs : logs.rows = s.logs.rows)
    (hsame : stage.uncounted = (s.stage requestId).uncounted) (hruns : stage ≠ .aborted)
    (hdevice : stage = .upsertDevice →
      ∃ c, completion jobs requestId = some c ∧ c.device = true)
    (hheldRpc : HeldBy rpc ((s.setStage requestId stage).rpcHeld jobs))
    (hheldDevice : HeldBy device ((s.setStage requestId stage).deviceHeld jobs))
    (hwritesRpc : ∀ key version, (rpc.cell key).pending = some (.rebuild, version) →
      (s.rpc.cell key).pending = some (.rebuild, version))
    (hwritesDevice : ∀ key version, (device.cell key).pending = some (.rebuild, version) →
      (s.device.cell key).pending = some (.rebuild, version))
    (haccountsRpc : s.rebuild.requestsRead = true → Accounts (fun key => cutoff ≤ key.statDate) rpc
      s.rebuild.remainingRpc (s.expectedRpc cutoff))
    (haccountsDevice : s.rebuild.devicesRead = true →
      Accounts (fun key => cutoff ≤ key.statDate) device s.rebuild.remainingDevice
        (s.expectedDevice cutoff)) :
    (({ s with logs, rpc, device } : RebuildState).setStage requestId stage).Inv cutoff jobs := by
  have huncounted : ∀ other, ((s.setStage requestId stage).stage other).uncounted =
      (s.stage other).uncounted := by
    intro other
    by_cases heq : other = requestId
    · rw [heq, setStage_self, hsame]
    · rw [setStage_of_ne _ heq]
  have hsettled : (({ s with logs, rpc, device } : RebuildState).setStage requestId
      stage).settledRows cutoff = s.settledRows cutoff := settledRows_congr hlogs huncounted
  refine ⟨by change (logs.rows.map _).Nodup; rw [hlogs]; exact h.nodup, fun other hother => ?_,
    fun other hother => ?_, hheldRpc, hheldDevice,
    fun key version hpending => h.writesRpc key version (hwritesRpc key version hpending),
    fun key version hpending => h.writesDevice key version (hwritesDevice key version hpending),
    fun hread => (haccountsRpc hread).congr fun key => ?_,
    fun hread => (haccountsDevice hread).congr fun key => ?_,
    fun hread other hother => h.clients hread other ((huncounted other).symm.trans hother),
    h.rebuildRuns, fun other => ?_⟩
  · rcases h.recorded other ((huncounted other).symm.trans hother) with ⟨row, hrow, hstored⟩
    exact ⟨row, hlogs.symm ▸ hrow, hstored⟩
  · by_cases heq : other = requestId
    · rw [heq, setStage_self] at hother
      exact heq ▸ hdevice hother
    · rw [setStage_of_ne _ heq] at hother
      exact h.device other hother
  · rw [expectedRpc, hsettled, expectedRpc]
  · rw [expectedDevice, hsettled, expectedDevice]
  · by_cases heq : other = requestId
    · rw [heq, setStage_self]
      exact hruns
    · rw [setStage_of_ne _ heq]
      exact h.workersRun other

/-- The request has been recorded before. -/
theorem conflict (h : s.Inv cutoff jobs) {nextId : Nat} (before : s.stage requestId = .writeSpine) :
    (({ s with logs := { s.logs with nextId } } : RebuildState).setStage requestId .done).Inv
      cutoff jobs :=
  h.moveWorker _ rfl (by rw [before]; rfl) (by simp) (fun h => by contradiction)
    (h.heldRpc_setStage (by simp [rpcHeld, before]))
    (h.heldDevice_setStage (by simp [deviceHeld, before])) (fun _ _ h => h) (fun _ _ h => h)
    h.accountsRpc h.accountsDevice

/-- A worker counts its request in the rpc table. -/
theorem upsertRpc (h : s.Inv cutoff jobs) {c : Completion}
    (hmay : s.WorkerMayAdvance cutoff jobs requestId) (before : s.stage requestId = .upsertRpc)
    (completed : completion jobs requestId = some c)
    (unlocked : (s.rpc.cell c.key).locked (.worker requestId) = false) :
    (({ s with
      rpc := s.rpc.set c.key ((s.rpc.cell c.key).write (.worker requestId)
        (some (countedOver requestId c.counters
          ((s.rpc.cell c.key).view (.worker requestId))))) } : RebuildState).setStage requestId
            (if c.device then .upsertDevice else .commit)).Inv cutoff jobs := by
  have hfree : s.rebuild.remainingRpc.lookup c.key = none := by
    simp only [WorkerMayAdvance, before] at hmay
    cases hrebuild : s.rebuild with
    | insertRpc remaining =>
        simp only [hrebuild] at hmay
        simpa [RebuildStage.remainingRpc] using hmay c completed
    | _ => exact Finmap.lookup_empty _
  refine h.moveWorker (if c.device then .upsertDevice else .commit) rfl
    (by rw [before]; split <;> rfl) (by split <;> simp) (fun hstage => ?_)
    (h.heldRpc.upsert c.counters (by simp [rpcHeld, before]) unlocked ?_
      fun other hne => rpcHeld_setStage _ hne) (h.heldDevice_setStage ?_)
    (fun key version hpending =>
      (ReadCommitted.Table.pending_set_write unlocked (by simp)).mp hpending)
    (fun _ _ h => h) (fun hread => (h.accountsRpc hread).upsert unlocked hfree) h.accountsDevice
  · split at hstage
    next hdevice => exact ⟨c, completed, hdevice⟩
    next => contradiction
  · rw [rpcHeld, setStage_self]
    split <;> simp_all
  · rw [deviceHeld, setStage_self, deviceHeld, before]
    cases hdevice : c.device <;> simp [completed, hdevice]

/-- A worker counts its request in the device table. -/
theorem upsertDevice (h : s.Inv cutoff jobs) {c : Completion}
    (hmay : s.WorkerMayAdvance cutoff jobs requestId) (before : s.stage requestId = .upsertDevice)
    (completed : completion jobs requestId = some c)
    (unlocked : (s.device.cell c.key.deviceKey).locked (.worker requestId) = false) :
    (({ s with
      device := s.device.set c.key.deviceKey
        ((s.device.cell c.key.deviceKey).write (.worker requestId)
          (some (countedOver requestId c.counters
            ((s.device.cell c.key.deviceKey).view (.worker requestId))))) } :
              RebuildState).setStage requestId .commit).Inv cutoff jobs := by
  have hdevice : c.device = true := by
    rcases h.device requestId before with ⟨c', hc', hdevice⟩
    exact Option.some.inj (completed.symm.trans hc') ▸ hdevice
  have hfree : s.rebuild.remainingDevice.lookup c.key.deviceKey = none := by
    simp only [WorkerMayAdvance, before] at hmay
    cases hrebuild : s.rebuild with
    | insertDevice remaining =>
        simp only [hrebuild] at hmay
        simpa [RebuildStage.remainingDevice] using hmay c completed
    | _ => exact Finmap.lookup_empty _
  exact h.moveWorker .commit rfl (by rw [before]; rfl) (by simp)
    (fun h => by contradiction) (h.heldRpc_setStage (by simp [rpcHeld, before]))
    (h.heldDevice.upsert c.counters (by simp [deviceHeld, before]) unlocked
      (by simp [deviceHeld, completed, hdevice]) fun other hne => deviceHeld_setStage _ hne)
    (fun _ _ h => h)
    (fun key version hpending =>
      (ReadCommitted.Table.pending_set_write unlocked (by simp)).mp hpending)
    h.accountsRpc fun hread => (h.accountsDevice hread).upsert unlocked hfree

/-- A worker commits. -/
theorem commitWorker (h : s.Inv cutoff jobs) (before : s.stage requestId = .commit) :
    (({ s with
      rpc := s.rpc.commit (.worker requestId)
      device := s.device.commit (.worker requestId) } : RebuildState).setStage requestId
        .done).Inv cutoff jobs := by
  have huncounted : (s.stage requestId).uncounted = true := by rw [before]; rfl
  obtain ⟨c, hc⟩ : ∃ c, completion jobs requestId = some c := by
    rcases h.recorded requestId huncounted with ⟨row, -, hstored⟩
    exact ⟨_, hstored.completion⟩
  have hopen : ∀ other, ((s.setStage requestId .done).stage other).uncounted = true →
      other ≠ requestId := by
    rintro other hother rfl
    rw [setStage_self] at hother
    contradiction
  have hother : ∀ other ≠ requestId, (s.setStage requestId .done).stage other = s.stage other :=
    fun other hne => setStage_of_ne _ hne
  refine ⟨h.nodup, fun other hstage => h.recorded other (hother other (hopen other hstage) ▸ hstage),
    fun other hstage => ?_, h.heldRpc.commit (.worker requestId) (fun other heq => ?_)
      fun other hne => rpcHeld_setStage _ fun heq => hne (heq ▸ rfl),
    h.heldDevice.commit (.worker requestId) (fun other heq => ?_)
      fun other hne => deviceHeld_setStage _ fun heq => hne (heq ▸ rfl),
    fun key version hpending => h.writesRpc key version (Cell.pending_commit.mp hpending).1,
    fun key version hpending => h.writesDevice key version (Cell.pending_commit.mp hpending).1,
    fun hread => ?_, fun hread => ?_,
    fun hread other hstage => h.clients hread other (hother other (hopen other hstage) ▸ hstage),
    h.rebuildRuns, fun other => ?_⟩
  · have hne : other ≠ requestId := by
      rintro rfl
      simp at hstage
    exact h.device other ((hother other hne).symm.trans hstage)
  · rw [Participant.worker.injEq] at heq
    rw [← heq, rpcHeld, setStage_self]
  · rw [Participant.worker.injEq] at heq
    rw [← heq, deviceHeld, setStage_self]
  · exact (h.accountsRpc hread).commit_some h.heldRpc (by rw [rpcHeld, before, hc]; rfl)
      fun key hkey => h.expectedRpc_commit huncounted hc key hkey
  · by_cases hdevice : c.device = true
    · exact (h.accountsDevice hread).commit_some h.heldDevice
        (by simp [deviceHeld, before, hc, hdevice])
        fun key hkey => h.expectedDevice_commit huncounted hc hdevice key hkey
    · exact ((h.accountsDevice hread).commit_none h.heldDevice
        (by simp [deviceHeld, before, hc, hdevice])).congr
        fun key => h.expectedDevice_commit_none hread huncounted hc hdevice key
  · by_cases heq : other = requestId
    · rw [heq, setStage_self]
      simp
    · rw [setStage_of_ne _ heq]
      exact h.workersRun other

/-- Where the condition holds, a step keeps to the counts, and nobody is aborted. -/
theorem step (h : s.Inv cutoff jobs) {a : RebuildAction}
    (hcondition : RebuildCondition cutoff jobs s a) (hstep : RebuildStep cutoff jobs s a t) :
    t.Inv cutoff jobs := by
  cases hstep with
  | startDeleteRpc before =>
      refine ⟨h.nodup, h.recorded, h.device, h.heldRpc, h.heldDevice, fun _ _ _ => rfl,
        fun key version hpending => ?_, fun h => by contradiction, fun h => by contradiction,
        fun h => by contradiction, by simp, h.workersRun⟩
      have hwrites := h.writesDevice key version hpending
      rw [before] at hwrites
      contradiction
  | startDeleteDevice scan before finished =>
      exact ⟨h.nodup, h.recorded, h.device, h.heldRpc, h.heldDevice, fun _ _ _ => rfl,
        fun _ _ _ => rfl, fun h => by contradiction, fun h => by contradiction,
        fun h => by contradiction, by simp, h.workersRun⟩
  | startInsertRpc scan before finished =>
      simp only [RebuildCondition, RebuildMayAdvance, before] at hcondition
      exact h.startInsertRpc hcondition
  | startInsertDevice remaining before finished =>
      simp only [RebuildCondition, RebuildMayAdvance, before] at hcondition
      exact h.startInsertDevice hcondition before finished
  | commitRebuild remaining before finished => exact h.commitRebuild before finished
  | deleteRpcRow key scan rpc before unlocked after =>
      refine ⟨h.nodup, h.recorded, h.device, ?_, h.heldDevice, fun _ _ _ => rfl,
        fun key version hpending => ?_, fun h => by contradiction, fun h => by contradiction,
        fun h => by contradiction, by simp, h.workersRun⟩
      · rcases after with rfl | rfl
        · exact h.heldRpc.rebuildWrite unlocked
        · exact h.heldRpc
      · have hwrites := h.writesDevice key version hpending
        rw [before] at hwrites
        contradiction
  | deleteDeviceRow key scan device before unlocked after =>
      refine ⟨h.nodup, h.recorded, h.device, h.heldRpc, ?_, fun _ _ _ => rfl, fun _ _ _ => rfl,
        fun h => by contradiction, fun h => by contradiction, fun h => by contradiction, by simp,
        h.workersRun⟩
      rcases after with rfl | rfl
      · exact h.heldDevice.rebuildWrite unlocked
      · exact h.heldDevice
  | insertRpcRow key counters remaining before found unlocked =>
      have haccounts := h.accountsRpc (by rw [before]; rfl)
      rw [before] at haccounts
      exact ⟨h.nodup, h.recorded, h.device, h.heldRpc.rebuildWrite unlocked, h.heldDevice,
        fun _ _ _ => rfl, fun _ _ _ => rfl, fun _ => haccounts.insertRow found,
        fun h => by contradiction, fun h => by contradiction, by simp, h.workersRun⟩
  | insertDeviceRow key counters remaining before found unlocked =>
      have haccountsRpc := h.accountsRpc (by rw [before]; rfl)
      have haccounts := h.accountsDevice (by rw [before]; rfl)
      rw [before] at haccountsRpc haccounts
      exact ⟨h.nodup, h.recorded, h.device, h.heldRpc, h.heldDevice.rebuildWrite unlocked,
        fun _ _ _ => rfl, fun _ _ _ => rfl, fun _ => haccountsRpc,
        fun _ => haccounts.insertRow found, fun _ => h.clients (by rw [before]; rfl), by simp,
        h.workersRun⟩
  | violationRpc key counters remaining before found taken =>
      have haccounts := h.accountsRpc (by rw [before]; rfl)
      rw [before] at haccounts
      exact absurd (haccounts.remains key counters found).2.1 taken
  | violationDevice key counters remaining before found taken =>
      have haccounts := h.accountsDevice (by rw [before]; rfl)
      rw [before] at haccounts
      exact absurd (haccounts.remains key counters found).2.1 taken
  | writeSpine requestId row before new stored => exact h.writeSpine hcondition before new stored
  | conflict requestId before found => exact h.conflict before
  | upsertRpc requestId c before completed unlocked =>
      exact h.upsertRpc hcondition before completed unlocked
  | upsertDevice requestId c before completed unlocked =>
      exact h.upsertDevice hcondition before completed unlocked
  | commitWorker requestId before => exact h.commitWorker before
  | deadlock row requestId victim rebuildWaits workerWaits =>
      exact (h.not_deadlock rebuildWaits workerWaits).elim

end Inv

end RebuildState

/-! ## The tables in the end -/

/-- What is committed under a key. -/
def LiveTable.value {κ : Type} (table : LiveTable κ) (key : κ) : Option Counters :=
  (table.cell key).committed.map (·.value)

/-- In every run whose steps meet the condition nobody is aborted, and when the
rebuild has committed and no worker is under way, both tables hold inside the window
the groups of `request_logs`. -/
theorem rebuild_counts_once (cutoff : Day) (jobs : RequestId → RequestLogJob) (logs : RequestLogs)
    (rpc : Table RpcKey Counters) (device : Table DeviceKey Counters) (as : List RebuildAction)
    (s : RebuildState) (hnodup : (logs.rows.map (·.requestId)).Nodup)
    (hrun : (rebuildMachine cutoff jobs).run (.start logs rpc device) as = some s)
    (hmeets : (rebuildMachine cutoff jobs).Meets (RebuildCondition cutoff jobs)
      (.start logs rpc device) as) :
    s.rebuild ≠ .aborted ∧ (∀ requestId, s.stage requestId ≠ .aborted) ∧
      (s.rebuild = .committed → (∀ requestId, (s.stage requestId).uncounted = false) →
        (∀ key : RpcKey, cutoff ≤ key.statDate → LiveTable.value s.rpc key =
          (groupBy RequestLogRow.rpcKey aggregate (s.recentRows cutoff)).lookup key) ∧
        ∀ key : DeviceKey, cutoff ≤ key.statDate → LiveTable.value s.device key =
          (groupBy RequestLogRow.deviceKey aggregate (s.recentDeviceRows cutoff)).lookup key) := by
  have h : s.Inv cutoff jobs := hmeets.invariant
    (fun h hcondition hstep => h.step hcondition (.of_step hstep))
    (.start logs rpc device hnodup) hrun
  refine ⟨h.rebuildRuns, h.workersRun, fun hcommitted hcounted => ?_⟩
  have hsettled : s.settledRows cutoff = s.recentRows cutoff :=
    List.filter_eq_self.mpr fun row _ => by rw [hcounted]; rfl
  have hrpc := h.accountsRpc (by rw [hcommitted]; rfl)
  have hdevice := h.accountsDevice (by rw [hcommitted]; rfl)
  rw [hcommitted] at hrpc hdevice
  constructor
  · intro key hkey
    have hpresent := hrpc.present key hkey (Finmap.lookup_empty _)
    rw [RebuildState.expectedRpc, hsettled, Cell.view_eq_committed fun version hpending => ?_]
      at hpresent
    · exact hpresent
    · have hwrites := h.writesRpc key version hpending
      rw [hcommitted] at hwrites
      contradiction
  · intro key hkey
    have hpresent := hdevice.present key hkey (Finmap.lookup_empty _)
    rw [RebuildState.expectedDevice, hsettled, Cell.view_eq_committed fun version hpending => ?_]
      at hpresent
    · exact hpresent
    · have hwrites := h.writesDevice key version hpending
      rw [hcommitted] at hwrites
      contradiction

/-- One request of a device, the others without. -/
def sampleRaceJobs (requestId : RequestId) : RequestLogJob :=
  if requestId = 1 then sampleJob 1 (some "device-a") "ok" (some 10)
  else sampleJob requestId none "timeout" none

/-- The rebuild deletes and inserts the rows of the first request, while the second
one is processed. -/
def sampleRace : List RebuildAction :=
  [.worker 1, .worker 1, .worker 1, .worker 1,
    .rebuild, .rebuildRow (.rpc ⟨0, "billing", "quote", "device-a"⟩),
    .rebuild, .rebuildRow (.device ⟨0, "device-a", "billing"⟩),
    .rebuild, .worker 2, .rebuildRow (.rpc ⟨0, "billing", "quote", "device-a"⟩), .worker 2,
    .rebuild, .rebuildRow (.device ⟨0, "device-a", "billing"⟩), .rebuild, .worker 2]

theorem rebuild_counts_once_sample :
    ∃ s, (rebuildMachine 0 sampleRaceJobs).run (.start .empty ∅ ∅) sampleRace = some s ∧
      s.rebuild ≠ .aborted ∧
      LiveTable.value s.rpc ⟨0, "billing", "quote", "device-a"⟩ = some ⟨1, 1, 0, 0, 10, 10⟩ ∧
      LiveTable.value s.rpc ⟨0, "billing", "quote", ""⟩ = some ⟨1, 0, 0, 1, 0, 0⟩ := by
  have hmeets : (rebuildMachine 0 sampleRaceJobs).Meets (RebuildCondition 0 sampleRaceJobs)
      (.start .empty ∅ ∅) sampleRace := by decide
  obtain ⟨s, hrun, hcommitted, hcounted, hdevice, hother⟩ :
      ∃ s, (rebuildMachine 0 sampleRaceJobs).run (.start .empty ∅ ∅) sampleRace = some s ∧
        s.rebuild = .committed ∧ (∀ requestId, (s.stage requestId).uncounted = false) ∧
        (groupBy RequestLogRow.rpcKey aggregate (s.recentRows 0)).lookup
          ⟨0, "billing", "quote", "device-a"⟩ = some ⟨1, 1, 0, 0, 10, 10⟩ ∧
        (groupBy RequestLogRow.rpcKey aggregate (s.recentRows 0)).lookup
          ⟨0, "billing", "quote", ""⟩ = some ⟨1, 0, 0, 1, 0, 0⟩ := by
    refine ⟨_, rfl, rfl, fun requestId => ?_, by decide, by decide⟩
    match requestId with
    | 0 => rfl
    | 1 => rfl
    | 2 => rfl
    | _ + 3 => rfl
  have h := rebuild_counts_once 0 sampleRaceJobs .empty ∅ ∅ sampleRace s (by decide) hrun hmeets
  obtain ⟨hrpc, -⟩ := h.2.2 hcommitted hcounted
  exact ⟨s, hrun, h.1, (hrpc _ (by decide)).trans hdevice, (hrpc _ (by decide)).trans hother⟩

/-- The spine row is there before the rebuild starts, and its completion is recorded
after the rebuild has committed. -/
theorem request_counted_twice :
    ∃ s, (rebuildMachine 0 sampleRaceJobs).run (.start .empty ∅ ∅)
        [.worker 1, .rebuild, .rebuild, .rebuild,
          .rebuildRow (.rpc ⟨0, "billing", "quote", "device-a"⟩), .rebuild,
          .rebuildRow (.device ⟨0, "device-a", "billing"⟩), .rebuild,
          .worker 1, .worker 1, .worker 1] = some s ∧
      s.rebuild = .committed ∧ s.stage 1 = .done ∧ s.logs.rows.length = 1 ∧
      LiveTable.value s.rpc ⟨0, "billing", "quote", "device-a"⟩ = some ⟨2, 2, 0, 0, 20, 10⟩ ∧
      LiveTable.value s.device ⟨0, "device-a", "billing"⟩ = some ⟨2, 2, 0, 0, 20, 10⟩ := by
  refine ⟨_, rfl, rfl, rfl, rfl, ?_, ?_⟩
  · decide
  · decide

end Metrics
end R2RPC
