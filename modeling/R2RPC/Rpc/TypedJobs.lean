import R2RPC.Rpc.Agreement

/-!
# Jobs with types

The tables and the counters of the metrics are modelled over jobs whose fields have the types that
the source declares for them; the answer to a call puts whatever a frame holds into the job.  Where
the fields of an answer have those types, both models speak of the same row.

Main results:

- Theorem {lit}`varchar_isSome_iff`: both models of a text column take the same texts.
- Structure {lit}`Typed`: a job with types, and the job of an answer that it stands for.
- Theorem {lit}`toRow_isSome_iff`: the row of the one is taken when the other can be logged.
- Theorem {lit}`typed_fail`: what the service says itself has types.

Current gaps:

- The dates of a job.
-/

namespace R2RPC
namespace Rpc

open Utf16 Binary JavaScript Varchar

/-! ## Columns -/

/-- Both models of a text column take the same texts. -/
theorem varchar_isSome_iff (limit : Nat) (text : JsString) :
    (Metrics.varchar limit (toText text)).isSome = true ↔ Fits limit text := by
  have hscalar : ∀ c ∈ codePoints text, (scalar c = ' ' ↔ c = 32) ∧
      ((scalar c).toNat = 0 ↔ c = 0) := by
    intro c hc
    have hzero : (scalar c).toNat = 0 ↔ scalar c = '\x00' := by
      rw [← Char.toNat_inj]
      rfl
    exact ⟨scalar_eq_iff (codePoints_lt c hc) (by decide),
      hzero.trans (scalar_eq_iff (codePoints_lt c hc) (by decide))⟩
  have hnul : (toText text).toList.any (·.toNat == 0) = false ↔ nulFree text = true := by
    rw [toText, String.toList_ofList, List.any_eq_false, nulFree_codePoints, List.forall_mem_map]
    exact forall₂_congr fun c hc => by simp [(hscalar c hc).2]
  have hblanks : ((toText text).toList.drop limit).all (· == ' ') = true ↔
      ∀ c ∈ (codePoints text).drop limit, c = 32 := by
    rw [toText, String.toList_ofList, ← List.map_drop, List.all_eq_true, List.forall_mem_map]
    exact forall₂_congr fun c hc => by simp [(hscalar c (List.mem_of_mem_drop hc)).1]
  have hlength : (toText text).length = (codePoints text).length := by
    rw [toText, String.length_ofList, List.length_map]
  rw [Fits, ← hnul, ← hblanks, Metrics.varchar, hlength]
  cases (toText text).toList.any (·.toNat == 0) with
  | true => simp
  | false =>
      by_cases hshort : (codePoints text).length ≤ limit
      · have hnothing : ((toText text).toList.drop limit).all (· == ' ') = true :=
          hblanks.mpr (by rw [List.drop_eq_nil_of_le hshort]; simp)
        simp [hshort, hnothing]
      · cases ((toText text).toList.drop limit).all (· == ' ') <;> simp [hshort]

theorem nullable_varchar_iff (limit : Nat) (text : Option JsString) :
    (Metrics.nullable (Metrics.varchar limit) (text.map toText)).isSome = true ↔
      FitsNullable limit text := by
  cases text with
  | none => simp [Metrics.nullable, FitsNullable]
  | some text =>
      rw [fitsNullable_some, ← varchar_isSome_iff]
      simp [Metrics.nullable]

theorem nullable_signedInt4_iff (id : Option Int) :
    (Metrics.nullable Metrics.signedInt4 id).isSome = true ↔ ∀ value ∈ id, IsInteger value := by
  cases id with
  | none => simp [Metrics.nullable]
  | some id => simp [Metrics.nullable, Metrics.signedInt4, IsInteger, apply_ite Option.isSome]

/-! ## Jobs -/

/-- A job with types stands for the job of an answer: its texts and numbers are what arrives of the
other one's. -/
structure Typed (delivery : Delivery) (sent : RequestLogJob) (job : Metrics.RequestLogJob) :
    Prop where
  project : job.project = toText sent.project
  action : job.action = toText sent.action
  clientId : job.clientId = sent.clientId.map toText
  clientRequestId : job.clientRequestId = sent.clientRequestId.map toText
  requesterUserId : job.requesterUserId = sent.requesterUserId
  accessTokenId : job.accessTokenId = sent.accessTokenId
  status : (delivery.field sent.status).prepareValue.map toText = some job.status
  noCode : job.httpCode = none → (delivery.field sent.httpCode).prepareValue = none
  code : ∀ code ∈ job.httpCode, ∃ number : JsNumber, number.toInt = some code ∧
    (delivery.field sent.httpCode).prepareValue = some number.text
  latencyMs : job.latencyMs.map Int.ofNat = some sent.latencyMs
  error : (delivery.field sent.error).prepareValue.map toText = job.error

variable {delivery : Delivery} {sent : RequestLogJob} {job : Metrics.RequestLogJob}

/-- The code of a typed job fits as it arrives. -/
theorem Typed.code_iff (h : Typed delivery sent job) :
    (∀ code ∈ job.httpCode, IsInteger code) ↔ IntegerFits (delivery.field sent.httpCode) := by
  cases hcode : job.httpCode with
  | none => simp [IntegerFits, h.noCode hcode]
  | some code =>
      rcases h.code code hcode with ⟨number, hint, htext⟩
      rw [IntegerFits, htext]
      simp only [Option.mem_def, Option.some.injEq, forall_eq', Numerals.int4in_text, hint,
        IsInteger]
      simp

/-- The row of a typed job is taken when the job that it stands for can be logged. -/
theorem toRow_isSome_iff (h : Typed delivery sent job) (id : Nat) (state : Metrics.PayloadState) :
    (job.toRow id state).isSome = true ↔ Loggable delivery sent := by
  have hstatus : (Metrics.varchar 32 job.status).isSome = true ↔
      TextFitsNotNull 32 (delivery.field sent.status) := by
    rcases Option.map_eq_some_iff.mp h.status with ⟨text, htext, hstatus⟩
    rw [← hstatus, varchar_isSome_iff, TextFitsNotNull, FitsNotNull, htext, fitsNullable_some]
    simp
  have herror := nullable_varchar_iff 1024 (delivery.field sent.error).prepareValue
  rw [h.error] at herror
  have hlatency : (Metrics.int4 (job.latencyMs.getD 0)).isSome = true ↔ IsInteger sent.latencyMs := by
    rcases Option.map_eq_some_iff.mp h.latencyMs with ⟨n, hn, hlatency⟩
    rw [hn, ← hlatency, Metrics.int4, IsInteger, apply_ite Option.isSome]
    simp only [Option.getD_some, Option.isSome_some, Option.isSome_none, Bool.ite_eq_true_distrib,
      Int.ofNat_eq_natCast]
    split <;> simp <;> omega
  have hcode := (nullable_signedInt4_iff job.httpCode).trans h.code_iff
  rw [Metrics.toRow_isSome, Metrics.RequestLogJob.fitsRequestLogs,
    Metrics.RequestLogJob.fitsDailyMetrics, Metrics.varchar_nullable_client]
  simp only [Bool.and_eq_true, hstatus, hlatency, hcode, herror, h.project, h.action, h.clientId,
    h.clientRequestId, h.requesterUserId, h.accessTokenId, varchar_isSome_iff,
    nullable_varchar_iff, nullable_signedInt4_iff]
  constructor
  · rintro ⟨⟨⟨⟨⟨⟨⟨⟨⟨hproject, haction⟩, hclient⟩, hlatency⟩, hrequest⟩, huser⟩, htoken⟩, hstatus⟩,
      hcode⟩, herror⟩
    exact ⟨hproject, haction, hclient, hrequest, huser, htoken, hstatus,
      integerFits_nullish.mpr hcode, hlatency, textFits_nullish.mpr herror⟩
  · intro hlog
    exact ⟨⟨⟨⟨⟨⟨⟨⟨⟨hlog.projectName, hlog.actionName⟩, hlog.clientId⟩, hlog.latencyMs⟩,
      hlog.clientRequestId⟩, hlog.requesterUserId⟩, hlog.accessTokenId⟩, hlog.status⟩,
      integerFits_nullish.mp hlog.httpCode⟩, textFits_nullish.mp hlog.errorMessage⟩

variable (input : InvokeParams) (requestId : JsString) (startedAt now : Int)

/-- An integer arrives as an integer. -/
theorem field_integer (delivery : Delivery) {x : JsNumber} {k : Int} (h : x.toInt = some k) :
    ∃ number : JsNumber, number.toInt = some k ∧
      (delivery.field (.number x)).prepareValue = some number.text := by
  cases delivery with
  | fallback => exact ⟨x, h, rfl⟩
  | queued =>
      refine ⟨x.settled, (Number.toInt_settled x).trans h, ?_⟩
      rw [field_queued (show (Value.number x).IsJson from trivial)]
      rcases Number.finite_of_toInt h with ⟨negative, m, rfl, -⟩
      rfl

/-- What the service says itself has types. -/
theorem typed_fail (delivery : Delivery) {clientId : Option JsString} {status error : JsString}
    {httpCode : Nat} (hcode : httpCode ≤ 2147483647) (hclock : startedAt ≤ now) :
    Typed delivery
      (requestLogJob input (fail requestId startedAt now clientId status httpCode error))
      { requestId := 0
        project := toText input.project
        action := toText input.action
        clientId := clientId.map toText
        clientRequestId := input.clientRequestId.map toText
        requesterUserId := input.requesterUserId
        accessTokenId := input.accessTokenId
        status := toText status
        httpCode := some (httpCode : Int)
        latencyMs := some (now - startedAt).toNat
        error := some (toText error)
        createdAt := 0
        finishedAt := 0 } where
  project := rfl
  action := rfl
  clientId := rfl
  clientRequestId := rfl
  requesterUserId := rfl
  accessTokenId := rfl
  status := by rw [requestLogJob, fail, field_string, Value.prepareValue_string, Option.map_some]
  noCode := nofun
  code := by
    rintro code hmem
    obtain rfl := Option.some.inj hmem
    have hprecision : (2 : Nat) ^ binary64.precision = 9007199254740992 := by decide
    exact field_integer delivery (toInt_ofDecimal (by omega) (by decide))
  latencyMs := by
    rw [requestLogJob, fail, Option.map_some, Int.ofNat_eq_natCast, Int.toNat_of_nonneg (by omega)]
  error := by
    change Option.map toText (delivery.field (.string error)).prepareValue = some (toText error)
    rw [field_string, Value.prepareValue_string, Option.map_some]

/-- A typed job keeps the text of its answer's status. -/
theorem Typed.keeps {response : InvokeResponse} {text : JsString}
    (h : Typed delivery (requestLogJob input response) job) (htext : response.status = .string text) :
    Keeps job response := by
  have hstatus := h.status
  rw [requestLogJob, htext, field_string, Value.prepareValue_string, Option.map_some,
    Option.some.injEq] at hstatus
  exact ⟨text, htext, hstatus.symm⟩

end Rpc
end R2RPC
