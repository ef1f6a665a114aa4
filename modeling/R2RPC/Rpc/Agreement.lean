import R2RPC.Metrics.Aggregation
import R2RPC.Rpc.CallLog

/-!
# What a caller, the log and the metrics call a success

A result frame has two fields for it, {lit}`is_ok` and {lit}`status`, and either may be missing
or anything.  The caller is told the one, completed from the other; the row of the call keeps
the other, completed from the one, and all counters look at the row's status.

Main results:

- Structure {lit}`Agree`: caller, row and both ways of counting say the same.
- Theorem {lit}`agree_iff`: they do exactly for frames that report no status, or a text that
  goes with their {lit}`is_ok`.

Current gaps:

- A status that is no text breaks the agreement by itself; what the driver would write for it
  is left out.
-/

namespace R2RPC
namespace Rpc

open Utf16 JavaScript

/-- The job of a response, for its status: the queue keeps the text. -/
def Keeps (job : Metrics.RequestLogJob) (response : InvokeResponse) : Prop :=
  ∃ text, response.status = .string text ∧ job.status = toText text

/-- The successes counted in a table. -/
def successes (t : Metrics.DailyTables) : Nat :=
  (Aggregates.total (fun _ => True) t.rpc).successRequests

/-- The status is a text, and it is `ok` in every row written for the response, and counted as a
success when it is completed and when the row is aggregated again, exactly when the caller is
told so. -/
structure Agree (response : InvokeResponse) : Prop where
  text : ∃ text, response.status = .string text
  written : ∀ job, Keeps job response → ∀ id state row, job.toRow id state = some row →
    (row.status = "ok" ↔ response.isOk = true)
  completed : ∀ job, Keeps job response → ∀ t t', t.recordCompletion job = some t' →
    successes t' = successes t + if response.isOk then 1 else 0
  rebuilt : ∀ job, Keeps job response → ∀ id state row, job.toRow id state = some row →
    ∀ group, (Metrics.aggregate (row :: group)).successRequests =
      (Metrics.aggregate group).successRequests + if response.isOk then 1 else 0

/-- A frame without a status, or with a text that goes with its `is_ok`. -/
def Consistent (frame : Value) : Prop :=
  truthy (frame.get (lit "status")) = false ∨
    ∃ text, frame.get (lit "status") = .string text ∧
      (frame.get (lit "is_ok") = .undefined ∨ frame.get (lit "is_ok") = .null ∨
        (truthy (frame.get (lit "is_ok")) = true ↔ text = lit "ok"))

/-! ## What is counted -/

/-- The successes of one status. -/
theorem success_eq (status : String) :
    (Metrics.classify status).success = if status = "ok" then 1 else 0 := by
  rw [(Metrics.classify_eq status).1]
  simp only [beq_iff_eq]

theorem successes_recordCompletion {job : Metrics.RequestLogJob} {t t' : Metrics.DailyTables}
    (h : t.recordCompletion job = some t') :
    successes t' = successes t + if job.status = "ok" then 1 else 0 := by
  rw [Metrics.recordCompletion_eq, Option.map_eq_some_iff] at h
  rcases h with ⟨completion, hcompletion, rfl⟩
  have hcounters : completion.counters.successRequests = if job.status = "ok" then 1 else 0 := by
    simp only [Metrics.RequestLogJob.completion, Option.bind_eq_bind, Option.bind_eq_some_iff,
      Option.pure_def, Option.some.injEq] at hcompletion
    obtain ⟨_, -, _, -, _, -, _, -, rfl⟩ := hcompletion
    exact success_eq job.status
  rw [successes, Metrics.DailyTables.add, Aggregates.total_upsert, if_pos trivial,
    Metrics.Counters.successRequests_add, hcounters]
  rfl

theorem successes_aggregate (row : Metrics.RequestLogRow) (group : List Metrics.RequestLogRow) :
    (Metrics.aggregate (row :: group)).successRequests =
      (Metrics.aggregate group).successRequests + if row.status = "ok" then 1 else 0 := by
  rw [Metrics.aggregate_cons, Metrics.Counters.successRequests_add, Nat.add_comm,
    ← success_eq row.status]
  rfl

/-- A row is `ok` where its job is. -/
theorem status_toRow {job : Metrics.RequestLogJob} {id : Nat} {state : Metrics.PayloadState}
    {row : Metrics.RequestLogRow} (h : job.toRow id state = some row) :
    row.status = "ok" ↔ job.status = "ok" :=
  Metrics.varchar_eq_iff (Metrics.storedAs_of_toRow h).status (by decide)

/-! ## Agreement -/

theorem keeps_ok {job : Metrics.RequestLogJob} {response : InvokeResponse} {text : JsString}
    (h : Keeps job response) (htext : response.status = .string text) :
    job.status = "ok" ↔ text = lit "ok" := by
  rcases h with ⟨kept, hkept, hstatus⟩
  obtain rfl : text = kept := Value.string.inj (htext.symm.trans hkept)
  rw [hstatus]
  exact toText_eq_iff (by simp)

/-- All that counts is whether the text goes with what the caller is told. -/
theorem agree_iff_status (response : InvokeResponse) :
    Agree response ↔ ∃ text, response.status = .string text ∧
      (text = lit "ok" ↔ response.isOk = true) := by
  constructor
  · intro h
    rcases h.text with ⟨text, htext⟩
    refine ⟨text, htext, ?_⟩
    -- a call whose other fields are taken by every column
    obtain ⟨job, hjob⟩ : ∃ job : Metrics.RequestLogJob, job =
      ⟨0, "", "", none, none, none, none, toText text, none, none, none, 0, 0⟩ := ⟨_, rfl⟩
    have hkeeps : Keeps job response := ⟨text, htext, by rw [hjob]⟩
    obtain ⟨t, ht⟩ : ∃ t, Metrics.DailyTables.empty.recordCompletion job = some t := by
      rw [hjob]
      exact ⟨_, rfl⟩
    have hcounted := successes_recordCompletion ht
    rw [h.completed job hkeeps _ t ht, Nat.add_left_cancel_iff] at hcounted
    rw [← keeps_ok hkeeps htext]
    by_cases hok : job.status = "ok" <;> by_cases hisOk : response.isOk = true <;>
      simp [hok, hisOk] at hcounted ⊢
  · rintro ⟨text, htext, hok⟩
    refine ⟨⟨text, htext⟩, fun job hkeeps id state row hrow => ?_, fun job hkeeps t t' ht => ?_,
      fun job hkeeps id state row hrow group => ?_⟩
    · rw [status_toRow hrow, keeps_ok hkeeps htext, hok]
    · rw [successes_recordCompletion ht]
      simp only [keeps_ok hkeeps htext, hok]
    · rw [successes_aggregate]
      simp only [status_toRow hrow, keeps_ok hkeeps htext, hok]

/-- Of every frame: caller, row and counters agree exactly where the frame itself does. -/
theorem agree_iff (requestId : JsString) (startedAt now : Int) (clientId : JsString)
    (frame : Value) :
    Agree (success requestId startedAt now clientId frame) ↔ Consistent frame := by
  rw [agree_iff_status]
  obtain ⟨status, hstatus⟩ : ∃ status, frame.get (lit "status") = status := ⟨_, rfl⟩
  obtain ⟨isOk, hisOk⟩ : ∃ isOk, frame.get (lit "is_ok") = isOk := ⟨_, rfl⟩
  simp only [success, Consistent, resultStatus, hstatus, hisOk]
  cases htruthy : truthy status with
  | false =>
      refine iff_of_true ⟨_, rfl, ?_⟩ (.inl rfl)
      have hdifferent : lit "error" ≠ lit "ok" := by decide
      by_cases hok : truthy (nullish isOk (.boolean (isText status (lit "ok")))) = true
      · simp [hok]
      · simp [hok, hdifferent]
  | true =>
      simp only [if_true, Bool.true_eq_false, false_or]
      refine exists_congr fun text => and_congr_right fun htext => ?_
      subst htext
      have hisText : isText (.string text) (lit "ok") = true ↔ text = lit "ok" := by
        simp [isText]
      cases isOk with
      | undefined => exact iff_of_true hisText.symm (.inl rfl)
      | null => exact iff_of_true hisText.symm (.inr (.inl rfl))
      | _ => simp [nullish, iff_comm]

/-- A device that reports a success and an error at once. -/
def mixedFrame : Value :=
  .object true [(lit "is_ok", .boolean true), (lit "status", .string (lit "error"))]

/-- The caller is told of a success that is in no log and no counter. -/
theorem mixedFrame_disagrees : ¬ ∀ requestId startedAt now clientId frame,
    Agree (success requestId startedAt now clientId frame) := by
  intro h
  rcases (agree_iff_status _).mp (h (lit "r") 0 10 (lit "device-a") mixedFrame) with
    ⟨text, htext, hok⟩
  have hstatus : (success (lit "r") 0 10 (lit "device-a") mixedFrame).status =
    .string (lit "error") := rfl
  obtain rfl := Value.string.inj (hstatus.symm.trans htext)
  exact absurd (hok.mpr rfl) (by decide)

end Rpc
end R2RPC
