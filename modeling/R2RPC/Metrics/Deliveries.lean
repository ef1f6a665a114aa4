import R2RPC.Library.Machine
import R2RPC.Metrics.Aggregation

/-!
# Deliveries of request-log jobs

A request-log job is delivered to {lit}`RequestLogProcessor.process` until one
delivery succeeds; the dead-letter processor and the fallback of
{lit}`enqueueRequestLog` write its spine row as well.  Every await can fail before
or after its statement has committed, and a worker can die between two of them.

Main results:

- Definition {lit}`accountingMachine`: any number of deliveries of any jobs.
- Theorem {lit}`writeSpine_cases`: what the insert of the spine row answers.
- Theorem {lit}`AccountingState.advance_tokens`: what an await does to the tokens.

Current gaps:

- Manticore is a step without effect on these tables.
- Retention and rebuilds are not part of these runs.
-/

namespace R2RPC
namespace Metrics

open Interleaving

/-! ## Deliveries -/

abbrev DeliveryId := Nat

/-- Who writes the spine row. -/
inductive DeliveryKind where
  /-- `RequestLogProcessor.process`. -/
  | process
  /-- `DeadLetterProcessor.process`. -/
  | deadLetter
  /-- The fallback of `enqueueRequestLog`. -/
  | fallback
deriving DecidableEq, Repr

/-- The await at which a delivery stands. -/
inductive DeliveryStage where
  | writeSpine
  | recordCompletion
  | recordMonthlyUsage
  | indexPayload
  | markState
  | done
  | failed
deriving DecidableEq, Repr

structure Delivery where
  kind : DeliveryKind
  requestId : RequestId
  stage : DeliveryStage
deriving DecidableEq, Repr

/-- The `payloadState` that a writer inserts. -/
def DeliveryKind.payloadState : DeliveryKind → PayloadState
  | .process => .pending
  | .deadLetter => .failed
  | .fallback => .unavailable

/-- Where a writer goes on after its insert. -/
def DeliveryKind.afterSpine : DeliveryKind → Bool → DeliveryStage
  | .process, true => .recordCompletion
  | .process, false => .indexPayload
  | .deadLetter, _ => .indexPayload
  | .fallback, _ => .done

/-- The columns of `access_tokens` that `recordMonthlyUsage` reads and writes. -/
structure TokenUsage where
  monthlyUsageCount : Nat
  usagePeriod : Nat
deriving DecidableEq, Repr

/-- The `SET` of `recordMonthlyUsage`. -/
def TokenUsage.increment (currentPeriod : Nat) (row : TokenUsage) : TokenUsage where
  monthlyUsageCount := if row.usagePeriod = currentPeriod then row.monthlyUsageCount + 1 else 1
  usagePeriod := currentPeriod

/-- The tables and the deliveries, with the log of what was counted. -/
structure AccountingState where
  logs : RequestLogs
  tables : DailyTables
  /-- The tokens that are not deleted. -/
  tokens : Int → Option TokenUsage
  currentPeriod : Nat
  deliveries : DeliveryId → Option Delivery
  /-- Every committed `recordCompletion`. -/
  counted : List RequestId
  /-- Every `recordMonthlyUsage` that has updated a token, with its period. -/
  used : List (RequestId × Nat)

inductive AccountingAction where
  | start (d : DeliveryId) (kind : DeliveryKind) (requestId : RequestId)
  | advance (d : DeliveryId) (fault : Fault)
  | crash (d : DeliveryId)
  | deleteToken (accessTokenId : Int)
  | nextPeriod
deriving DecidableEq, Repr

/-- The job of a request. -/
def jobOf (jobs : RequestId → RequestLogJob) (requestId : RequestId) : RequestLogJob :=
  { jobs requestId with requestId }

namespace AccountingState

variable (jobs : RequestId → RequestLogJob) (s : AccountingState) (d : DeliveryId)
  (delivery : Delivery) (fault : Fault)

def start (tokens : Int → Option TokenUsage) : AccountingState where
  logs := .empty
  tables := .empty
  tokens
  currentPeriod := 0
  deliveries _ := none
  counted := []
  used := []

/-- A delivery reaches its next await. -/
def setStage (stage : DeliveryStage) : AccountingState :=
  { s with deliveries := Function.update s.deliveries d (some { delivery with stage }) }

/-- Its next await, unless this one throws. -/
def continueAt (stage : DeliveryStage) : AccountingState :=
  s.setStage d delivery (if fault.throws then .failed else stage)

@[simp]
theorem setStage_deliveries (stage : DeliveryStage) :
    (s.setStage d delivery stage).deliveries =
      Function.update s.deliveries d (some { delivery with stage }) := rfl

/-- How often the usage of a request was recorded. -/
def usedCount (requestId : RequestId) : Nat :=
  (s.used.map Prod.fst).count requestId

/-- The periods in which a usage was recorded on a token. -/
def periodsOf (accessTokenId : Int) : List Nat :=
  s.used.filterMap fun (requestId, period) =>
    if (jobs requestId).accessTokenId = some accessTokenId then some period else none

/-- The token of a request that its usage is recorded on. -/
def usedToken (requestId : RequestId) : Option (Int × TokenUsage) :=
  (jobs requestId).accessTokenId.bind fun accessTokenId =>
    (s.tokens accessTokenId).map fun row => (accessTokenId, row)

/-- `writeSpine`; PostgreSQL rejects a job that its columns do not take. -/
def atWriteSpine : AccountingState :=
  match s.logs.writeSpine (jobOf jobs delivery.requestId) delivery.kind.payloadState with
  | none => s.setStage d delivery .failed
  | some (newlyInserted, logs) =>
      { s with logs := fault.apply (fun _ => logs) s.logs }.continueAt d delivery fault
        (delivery.kind.afterSpine newlyInserted)

/-- `recordCompletion`, one transaction. -/
def atRecordCompletion : AccountingState :=
  match s.tables.recordCompletion (jobOf jobs delivery.requestId) with
  | none => s.setStage d delivery .failed
  | some tables =>
      { s with
        tables := fault.apply (fun _ => tables) s.tables
        counted := fault.apply (· ++ [delivery.requestId]) s.counted }.continueAt d delivery fault
          (if (jobs delivery.requestId).accessTokenId.isSome then .recordMonthlyUsage
          else .indexPayload)

/-- `recordMonthlyUsage`; a deleted token is skipped. -/
def atRecordMonthlyUsage : AccountingState :=
  match s.usedToken jobs delivery.requestId with
  | none => s.continueAt d delivery fault .indexPayload
  | some (accessTokenId, row) =>
      { s with
        tokens := fault.apply
          (fun tokens => Function.update tokens accessTokenId (some (row.increment s.currentPeriod)))
          s.tokens
        used := fault.apply (· ++ [(delivery.requestId, s.currentPeriod)]) s.used }.continueAt d
          delivery fault .indexPayload

/-- `markState`. -/
def atMarkState : AccountingState :=
  { s with
    logs := fault.apply (fun logs => logs.markState delivery.requestId .indexed) s.logs }.continueAt
      d delivery fault .done

/-- The await of a delivery ends. -/
def advance : Option AccountingState :=
  match delivery.stage with
  | .writeSpine => some (s.atWriteSpine jobs d delivery fault)
  | .recordCompletion => some (s.atRecordCompletion jobs d delivery fault)
  | .recordMonthlyUsage => some (s.atRecordMonthlyUsage jobs d delivery fault)
  | .indexPayload => some (s.continueAt d delivery fault .markState)
  | .markState => some (s.atMarkState d delivery fault)
  | .done | .failed => none

end AccountingState

/-- Deliveries of the given jobs in any interleaving. -/
def accountingMachine (jobs : RequestId → RequestLogJob) :
    Machine AccountingState AccountingAction where
  initial s := ∃ tokens, s = .start tokens
  step s
    | .start d kind requestId =>
        match s.deliveries d with
        | some _ => none
        | none => some { s with
            deliveries := Function.update s.deliveries d (some ⟨kind, requestId, .writeSpine⟩) }
    | .advance d fault => (s.deliveries d).bind fun delivery => s.advance jobs d delivery fault
    | .crash d => (s.deliveries d).map fun delivery => s.setStage d delivery .failed
    | .deleteToken accessTokenId =>
        some { s with tokens := Function.update s.tokens accessTokenId none }
    | .nextPeriod => some { s with currentPeriod := s.currentPeriod + 1 }

/-! ## What the statements do -/

theorem contains_append (logs : RequestLogs) (row : RequestLogRow) (nextId : Nat)
    (requestId : RequestId) :
    (RequestLogs.mk (logs.rows ++ [row]) nextId).contains requestId =
      (logs.contains requestId || row.requestId == requestId) := by
  simp [RequestLogs.contains]

theorem contains_markState (logs : RequestLogs) (requestId : RequestId) (state : PayloadState)
    (other : RequestId) : (logs.markState requestId state).contains other = logs.contains other := by
  rw [RequestLogs.contains, RequestLogs.contains, RequestLogs.markState, List.any_map]
  refine congrArg (fun p => logs.rows.any p) (funext fun row => ?_)
  simp only [Function.comp]
  split <;> rfl

/-- What `writeSpine` answers. -/
theorem writeSpine_cases (logs : RequestLogs) (job : RequestLogJob) (state : PayloadState) :
    logs.writeSpine job state = none ∨
      (logs.contains job.requestId = true ∧
        logs.writeSpine job state = some (false, { logs with nextId := logs.nextId + 1 })) ∨
      (logs.contains job.requestId = false ∧ ∃ row, StoredAs job row ∧
        logs.writeSpine job state = some (true, ⟨logs.rows ++ [row], logs.nextId + 1⟩)) := by
  unfold RequestLogs.writeSpine
  cases hrow : job.toRow logs.nextId state with
  | none => exact Or.inl rfl
  | some row =>
      cases hcontains : logs.contains job.requestId with
      | true => exact Or.inr (Or.inl ⟨rfl, rfl⟩)
      | false => exact Or.inr (Or.inr ⟨rfl, row, storedAs_of_toRow hrow, rfl⟩)

namespace AccountingState

variable {jobs : RequestId → RequestLogJob} {s t : AccountingState} {d : DeliveryId}
  {delivery : Delivery} {fault : Fault}

theorem usedToken_eq_some {requestId : RequestId} {accessTokenId : Int} {row : TokenUsage} :
    s.usedToken jobs requestId = some (accessTokenId, row) ↔
      (jobs requestId).accessTokenId = some accessTokenId ∧ s.tokens accessTokenId = some row := by
  simp only [usedToken, Option.bind_eq_some_iff, Option.map_eq_some_iff, Prod.mk.injEq]
  constructor
  · rintro ⟨_, hid, _, hrow, rfl, rfl⟩
    exact ⟨hid, hrow⟩
  · rintro ⟨hid, hrow⟩
    exact ⟨accessTokenId, hid, row, hrow, rfl, rfl⟩

theorem usedToken_ne_none {requestId : RequestId} :
    s.usedToken jobs requestId ≠ none ↔
      ∃ accessTokenId, (jobs requestId).accessTokenId = some accessTokenId ∧
        s.tokens accessTokenId ≠ none := by
  simp only [Option.ne_none_iff_exists', Prod.exists, usedToken_eq_some, exists_and_left]

/-- An await leaves the tokens alone, or records one usage on the token of its job. -/
theorem advance_tokens (h : s.advance jobs d delivery fault = some t) :
    (t.tokens = s.tokens ∧ t.used = s.used) ∨
      ∃ accessTokenId row, s.usedToken jobs delivery.requestId = some (accessTokenId, row) ∧
        t.tokens = Function.update s.tokens accessTokenId (some (row.increment s.currentPeriod)) ∧
        t.used = s.used ++ [(delivery.requestId, s.currentPeriod)] := by
  unfold advance at h
  cases hstage : delivery.stage with
  | writeSpine =>
      simp only [hstage, Option.some.injEq] at h
      subst h
      unfold atWriteSpine
      split <;> exact Or.inl ⟨rfl, rfl⟩
  | recordCompletion =>
      simp only [hstage, Option.some.injEq] at h
      subst h
      unfold atRecordCompletion
      split <;> exact Or.inl ⟨rfl, rfl⟩
  | recordMonthlyUsage =>
      simp only [hstage, Option.some.injEq] at h
      subst h
      unfold atRecordMonthlyUsage
      cases htoken : s.usedToken jobs delivery.requestId with
      | none => exact Or.inl ⟨rfl, rfl⟩
      | some found =>
          cases fault with
          | rejected => exact Or.inl ⟨rfl, rfl⟩
          | none => exact Or.inr ⟨found.1, found.2, rfl, rfl, rfl⟩
          | lost => exact Or.inr ⟨found.1, found.2, rfl, rfl, rfl⟩
  | indexPayload | markState =>
      simp only [hstage, Option.some.injEq] at h
      exact Or.inl (h ▸ ⟨rfl, rfl⟩)
  | done | failed => simp [hstage] at h

end AccountingState

end Metrics
end R2RPC
