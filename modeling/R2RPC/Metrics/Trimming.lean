import Mathlib.Data.Prod.Lex
import R2RPC.Library.Ranking
import R2RPC.Metrics.Tables

/-!
# Trimming request logs by scope

{lit}`trimScopes` numbers the rows of every scope by time and id and deletes the ones behind
a number.

Main results:

- Theorem {lit}`trimScopes_rows`: the rows that are left are the first ones of a ranking.
- Theorem {lit}`trimScopes_keeps_newest`: what is left and deleted of every scope, and what
  trimming and cleaning up several times leave.
-/

namespace R2RPC
namespace Metrics

open Ranking

/-- `PARTITION BY`: a row without a client has a scope of its own. -/
def RequestLogRow.scope (row : RequestLogRow) : String × String × Option String :=
  (row.projectName, row.actionName, row.clientId)

/-- `ORDER BY`, from the last row on. -/
def RequestLogRow.recency (row : RequestLogRow) : Int ×ₗ Nat := toLex (row.createdAt, row.id)

/-- What `trimScopes` returns, and the table it leaves. -/
def RequestLogs.trimScopesResult (logs : RequestLogs) (keep : Nat) : Nat × RequestLogs :=
  ((logs.rows.filter fun row => decide (keep < rowNumber logs.rows row)).length,
    logs.trimScopes keep)

theorem sameScope_eq (row other : RequestLogRow) :
    row.sameScope other = decide (row.scope = other.scope) := by
  rw [Bool.eq_iff_iff, decide_eq_true_eq]
  simp [RequestLogRow.sameScope, RequestLogRow.scope, Prod.ext_iff, and_assoc]

theorem newerThan_eq (row other : RequestLogRow) :
    row.newerThan other = decide (other.recency < row.recency) := by
  rw [Bool.eq_iff_iff, decide_eq_true_eq, RequestLogRow.recency, RequestLogRow.recency,
    Prod.Lex.toLex_lt_toLex, RequestLogRow.newerThan, Bool.or_eq_true, Bool.and_eq_true,
    decide_eq_true_eq, decide_eq_true_eq, beq_iff_eq, eq_comm (a := row.createdAt)]

theorem rowNumber_eq (rows : List RequestLogRow) (row : RequestLogRow) :
    rowNumber rows row = rank RequestLogRow.scope RequestLogRow.recency rows row + 1 := by
  have hgreater : rows.filter (fun other => other.sameScope row && other.newerThan row) =
      rows.filter fun other =>
        decide (other.scope = row.scope ∧ row.recency < other.recency) := by
    refine List.filter_congr fun other _ => ?_
    rw [sameScope_eq, newerThan_eq, Bool.decide_and]
  rw [rowNumber, rank, hgreater]

/-- The rows left are the first ones of every scope. -/
theorem trimScopes_rows (logs : RequestLogs) (keep : Nat) :
    (logs.trimScopes keep).rows =
      newest RequestLogRow.scope RequestLogRow.recency keep logs.rows := by
  rw [RequestLogs.trimScopes, newest]
  refine List.filter_congr fun row _ => ?_
  rw [rowNumber_eq, ← decide_not, decide_eq_decide]
  omega

theorem recency_nodup {rows : List RequestLogRow} (hids : (rows.map (·.id)).Nodup) :
    (rows.map RequestLogRow.recency).Nodup := by
  refine List.Nodup.of_map (fun key => (ofLex key).2) ?_
  rw [List.map_map]
  exact hids

theorem trimScopesResult_count (logs : RequestLogs) (keep : Nat) :
    (logs.trimScopesResult keep).1 + (logs.trimScopes keep).rows.length = logs.rows.length := by
  rw [RequestLogs.trimScopesResult, RequestLogs.trimScopes]
  have hsplit := List.length_eq_length_filter_add (l := logs.rows)
    fun row => decide (keep < rowNumber logs.rows row)
  exact hsplit.symm

theorem trimScopes_trimScopes (logs : RequestLogs) (few many : Nat) :
    (logs.trimScopes many).trimScopes few = logs.trimScopes (min few many) := by
  have hrows : ((logs.trimScopes many).trimScopes few).rows =
      (logs.trimScopes (min few many)).rows := by
    rw [trimScopes_rows, trimScopes_rows, trimScopes_rows, newest_newest]
  exact congrArg (RequestLogs.mk · logs.nextId) hrows

/-- A cleanup leaves the rows that are newer than one that it leaves. -/
theorem trimScopes_cleanupOldRequests (logs : RequestLogs) (now : Timestamp)
    (retentionDays keep : Nat) :
    (logs.cleanupOldRequests now retentionDays).trimScopes keep =
      (logs.trimScopes keep).cleanupOldRequests now retentionDays := by
  have hrows : ((logs.cleanupOldRequests now retentionDays).trimScopes keep).rows =
      ((logs.trimScopes keep).cleanupOldRequests now retentionDays).rows := by
    rw [trimScopes_rows, RequestLogs.cleanupOldRequests, RequestLogs.cleanupOldRequests,
      trimScopes_rows]
    refine newest_filter keep fun row _ other _ _ hnewer hleft => ?_
    rw [RequestLogRow.recency, RequestLogRow.recency, Prod.Lex.toLex_lt_toLex] at hnewer
    simp only [Bool.not_eq_true', decide_eq_false_iff_not, not_lt] at hleft ⊢
    rcases hnewer with hlater | ⟨hsame, -⟩
    · exact hleft.trans hlater.le
    · exact hleft.trans hsame.le
  exact congrArg (RequestLogs.mk · logs.nextId) hrows

/-- Of every scope the newest rows are left, as many as asked for or all of them; trimming is
idempotent, composes to the smaller number and commutes with a cleanup. -/
theorem trimScopes_keeps_newest {logs : RequestLogs} (hids : (logs.rows.map (·.id)).Nodup)
    (keep : Nat) :
    (logs.trimScopes keep).rows.Sublist logs.rows ∧
    (∀ scope, ((logs.trimScopes keep).rows.filter fun row => decide (row.scope = scope)).length =
      min keep (logs.rows.filter fun row => decide (row.scope = scope)).length) ∧
    (∀ row ∈ (logs.trimScopes keep).rows, ∀ other ∈ logs.rows,
      other ∉ (logs.trimScopes keep).rows → other.scope = row.scope → other.recency < row.recency) ∧
    (logs.trimScopesResult keep).2 = logs.trimScopes keep ∧
    (logs.trimScopesResult keep).1 + (logs.trimScopes keep).rows.length = logs.rows.length ∧
    (logs.trimScopes keep).trimScopes keep = logs.trimScopes keep ∧
    (∀ many, (logs.trimScopes many).trimScopes keep = logs.trimScopes (min keep many)) ∧
    ∀ now retentionDays, (logs.cleanupOldRequests now retentionDays).trimScopes keep =
      (logs.trimScopes keep).cleanupOldRequests now retentionDays := by
  have hdistinct := recency_nodup hids
  refine ⟨?_, fun scope => ?_, fun row hrow other hother hdropped hscope => ?_, rfl,
    trimScopesResult_count logs keep, ?_, trimScopes_trimScopes logs keep,
    fun now retentionDays => trimScopes_cleanupOldRequests logs now retentionDays keep⟩
  · exact List.filter_sublist
  · rw [trimScopes_rows]
    exact length_newest hdistinct keep scope
  · rw [trimScopes_rows] at hrow hdropped
    exact newest_greater hdistinct hrow hother hdropped hscope
  · rw [trimScopes_trimScopes, min_self]

/-- A row of a client, or of none. -/
def trimmedRow (id : Nat) (clientId : Option String) (createdAt : Int) : RequestLogRow :=
  ⟨id, id, "billing", "quote", clientId, none, none, none, "ok", none, none, none, .indexed,
    createdAt, none⟩

/-- Two rows of one moment, and rows without a client and with the empty one. -/
def sampleLogs : RequestLogs :=
  ⟨[trimmedRow 1 (some "device-a") 1000, trimmedRow 2 (some "device-a") 1000,
    trimmedRow 3 none 500, trimmedRow 4 (some "") 400, trimmedRow 5 none 600], 6⟩

theorem trimScopes_keeps_newest_sample :
    (sampleLogs.trimScopesResult 1).1 + 3 = sampleLogs.rows.length ∧
      ((sampleLogs.trimScopes 1).rows.filter fun row =>
        decide (row.scope = ("billing", "quote", none))).length = 1 := by
  have hnewest := trimScopes_keeps_newest (show (sampleLogs.rows.map (·.id)).Nodup by decide) 1
  exact ⟨hnewest.2.2.2.2.1, hnewest.2.1 _⟩

example : (sampleLogs.trimScopes 1).rows.map (·.id) = [2, 4, 5] := by decide

end Metrics
end R2RPC
