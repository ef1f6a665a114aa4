import R2RPC.Metrics.Deliveries

/-!
# The state of a payload

The payload of a request is stored in Manticore, and the column {lit}`payload_state` of
its row says whether it is there.  Four writers set the column without looking at it: the
attempts of {lit}`RequestLogProcessor` and of {lit}`DeadLetterProcessor`, the handler of
the failed event, and the repair of stale rows.

Main results:

- Definition {lit}`payloadMachine`: attempts, failed events and repairs in any order, with
  lost answers and crashes.
- Theorem {lit}`Consistent.step`: what holds in every run.
- Theorem {lit}`truthful_iff`: the exact condition for the column to tell the truth all
  along a run.

Current gaps:

- The fallback of {lit}`enqueueRequestLog` and retention are not part of these runs.
- A failed event may come at any moment, not only after a last attempt.
-/

namespace R2RPC
namespace RequestLog

open Interleaving Metrics

/-! ## The machine -/

/-- A failed event or a maintenance run that is being handled. -/
abbrev TaskId := Nat

/-- The jobs of the requests, their ids in Manticore, and `job.opts.attempts`. -/
structure Setup where
  jobs : RequestId → RequestLogJob
  docId : RequestId → Nat
  requests : List RequestId
  maximumAttempts : Nat

/-- Both stores, and everyone who writes to them. -/
structure Payloads where
  logs : RequestLogs
  /-- The documents of Manticore by their id. -/
  documents : Nat → Option RequestId
  deliveries : DeliveryId → Option Delivery
  /-- Handlers of the failed event in front of their mark. -/
  failures : TaskId → Option RequestId
  /-- Maintenance runs with the rows that they still have to mark. -/
  repairs : TaskId → List RequestId
  /-- Some attempt has stored the document and has marked the row. -/
  marked : RequestId → Bool

inductive PayloadAction where
  | start (d : DeliveryId) (kind : DeliveryKind) (requestId : RequestId)
  | advance (d : DeliveryId) (fault : Fault)
  | crash (d : DeliveryId)
  | onFailed (task : TaskId) (requestId : RequestId) (attemptsMade : Nat)
  | markFailed (task : TaskId) (fault : Fault)
  | findStalePending (task : TaskId) (found : List RequestId)
  | markUnavailable (task : TaskId) (fault : Fault)
deriving DecidableEq, Repr

/-- `payload_state` of the row of a request. -/
def payloadState (logs : RequestLogs) (requestId : RequestId) : Option PayloadState :=
  (logs.rows.find? (·.requestId == requestId)).map (·.payloadState)

namespace Payloads

variable (setup : Setup) (s : Payloads) (d : DeliveryId) (delivery : Delivery) (fault : Fault)

def empty : Payloads where
  logs := .empty
  documents _ := none
  deliveries _ := none
  failures _ := none
  repairs _ := []
  marked _ := false

/-- A delivery reaches its next await. -/
def setStage (stage : DeliveryStage) : Payloads :=
  { s with deliveries := Function.update s.deliveries d (some { delivery with stage }) }

/-- Its next await, unless this one throws. -/
def continueAt (stage : DeliveryStage) : Payloads :=
  s.setStage d delivery (if fault.throws then .failed else stage)

/-- `writeSpine`. -/
def atWriteSpine : Payloads :=
  match s.logs.writeSpine (jobOf setup.jobs delivery.requestId) delivery.kind.payloadState with
  | none => s.setStage d delivery .failed
  | some (newlyInserted, logs) =>
      { s with logs := fault.apply (fun _ => logs) s.logs }.continueAt d delivery fault
        (delivery.kind.afterSpine newlyInserted)

/-- `indexPayload`, an upsert by the document id. -/
def atIndexPayload : Payloads :=
  { s with
    documents := fault.apply
      (fun documents =>
        Function.update documents (setup.docId delivery.requestId) (some delivery.requestId))
      s.documents }.continueAt d delivery fault .markState

/-- `markState(requestId, 'indexed')`. -/
def atMarkState : Payloads :=
  { s with
    logs := fault.apply (·.markState delivery.requestId .indexed) s.logs
    marked := fault.apply (Function.update · delivery.requestId true) s.marked }.continueAt
      d delivery fault .done

/-- The await of an attempt ends. -/
def advance : Option Payloads :=
  match delivery.stage with
  | .writeSpine => some (s.atWriteSpine setup d delivery fault)
  | .recordCompletion => some (s.continueAt d delivery fault
      (if (setup.jobs delivery.requestId).accessTokenId.isSome then .recordMonthlyUsage
      else .indexPayload))
  | .recordMonthlyUsage => some (s.continueAt d delivery fault .indexPayload)
  | .indexPayload => some (s.atIndexPayload setup d delivery fault)
  | .markState => some (s.atMarkState d delivery fault)
  | .done | .failed => none

/-- An unconditional mark of the row. -/
def mark (requestId : RequestId) (state : PayloadState) : Payloads :=
  { s with logs := fault.apply (·.markState requestId state) s.logs }

end Payloads

/-- Attempts, failed events and maintenance runs in any order. -/
def payloadMachine (setup : Setup) : Machine Payloads PayloadAction where
  initial s := s = .empty
  step s
    | .start d kind requestId =>
        if kind ≠ .fallback ∧ requestId ∈ setup.requests ∧ s.deliveries d = none then
          some { s with
            deliveries := Function.update s.deliveries d (some ⟨kind, requestId, .writeSpine⟩) }
        else none
    | .advance d fault => (s.deliveries d).bind fun delivery => s.advance setup d delivery fault
    | .crash d => (s.deliveries d).map fun delivery => s.setStage d delivery .failed
    | .onFailed task requestId attemptsMade =>
        if attemptsMade < setup.maximumAttempts then some s
        else some { s with failures := Function.update s.failures task (some requestId) }
    | .markFailed task fault => (s.failures task).map fun requestId =>
        { s.mark fault requestId .failed with
          failures := Function.update s.failures task none }
    | .findStalePending task found =>
        if found.length ≤ 500 ∧ ∀ requestId ∈ found,
            payloadState s.logs requestId = some .pending then
          some { s with repairs := Function.update s.repairs task found }
        else none
    | .markUnavailable task fault =>
        match s.repairs task with
        | [] => none
        | requestId :: rest =>
            some { s.mark fault requestId .unavailable with
              repairs := Function.update s.repairs task (if fault.throws then [] else rest) }

/-! ## What the column and the documents say -/

theorem contains_eq (logs : RequestLogs) (requestId : RequestId) :
    logs.contains requestId = (payloadState logs requestId).isSome := by
  rw [RequestLogs.contains, payloadState, Option.isSome_map, List.isSome_find?]

/-- A mark reaches the row of its request, if there is one. -/
theorem payloadState_markState (logs : RequestLogs) (requestId : RequestId) (state : PayloadState)
    (other : RequestId) :
    payloadState (logs.markState requestId state) other =
      if other = requestId then (payloadState logs other).map fun _ => state
      else payloadState logs other := by
  have hsame : ((fun row : RequestLogRow => row.requestId == other) ∘ fun row =>
      if row.requestId == requestId then { row with payloadState := state } else row) =
        fun row => row.requestId == other := by
    funext row
    simp only [Function.comp]
    split <;> rfl
  rw [payloadState, RequestLogs.markState, List.find?_map, hsame, payloadState]
  cases hfound : logs.rows.find? (·.requestId == other) with
  | none => simp
  | some row =>
      have hrow : row.requestId = other := by
        have := List.find?_some hfound
        simpa using this
      by_cases heq : other = requestId
      · simp [hrow, heq]
      · simp [hrow, heq]

theorem toRow_payloadState {job : RequestLogJob} {id : Nat} {state : PayloadState}
    {row : RequestLogRow} (h : job.toRow id state = some row) :
    row.requestId = job.requestId ∧ row.payloadState = state := by
  simp only [RequestLogJob.toRow, Option.bind_eq_bind, Option.bind_eq_some_iff] at h
  rcases h with ⟨_, -, _, -, _, -, _, -, _, -, _, -, _, -, _, -, _, -, _, -, h⟩
  rw [Option.pure_def, Option.some.injEq] at h
  subst h
  exact ⟨rfl, rfl⟩

/-- An insert reaches the row of its request, if there is none. -/
theorem payloadState_writeSpine {logs logs' : RequestLogs} {job : RequestLogJob}
    {state : PayloadState} {newlyInserted : Bool}
    (h : logs.writeSpine job state = some (newlyInserted, logs')) (other : RequestId) :
    payloadState logs' other =
      if other = job.requestId then some ((payloadState logs other).getD state)
      else payloadState logs other := by
  rw [RequestLogs.writeSpine, Option.map_eq_some_iff] at h
  rcases h with ⟨row, hrow, h⟩
  have hfields := toRow_payloadState hrow
  rw [contains_eq] at h
  cases hold : payloadState logs job.requestId with
  | some state' =>
      simp only [hold, Option.isSome_some, if_true, Prod.mk.injEq] at h
      rw [← h.2]
      by_cases heq : other = job.requestId
      · rw [if_pos heq, heq, hold]
        exact hold
      · rw [if_neg heq]
        rfl
  | none =>
      simp only [hold, Option.isSome_none, Bool.false_eq_true, if_false, Prod.mk.injEq] at h
      rw [← h.2]
      by_cases heq : other = job.requestId
      · have hnone : logs.rows.find? (·.requestId == job.requestId) = none := by
          simpa [payloadState] using hold
        simp [payloadState, List.find?_append, heq, hnone, hfields.1, hfields.2]
      · have hrow' : (row.requestId == other) = false := by
          rw [hfields.1]
          simpa using Ne.symm heq
        simp [payloadState, List.find?_append, hrow', heq]

/-- A delivery that has neither returned nor thrown. -/
def running (delivery : Delivery) : Bool :=
  match delivery.stage with
  | .done | .failed => false
  | _ => true

namespace Payloads

variable (setup : Setup) (s : Payloads) (d : DeliveryId) (delivery : Delivery) (fault : Fault)

/-- The column of a request. -/
def column (requestId : RequestId) : Option PayloadState := payloadState s.logs requestId

/-- Manticore holds a document for a request. -/
def Holds (requestId : RequestId) : Prop :=
  s.documents (setup.docId requestId) = some requestId

/-- No attempt of a request is running, but for this delivery. -/
def Alone (requestId : RequestId) : Prop :=
  ∀ d' delivery, d' ≠ d → s.deliveries d' = some delivery → delivery.requestId = requestId →
    running delivery = false

/-- No attempt of a request is running. -/
def Idle (requestId : RequestId) : Prop :=
  ∀ d delivery, s.deliveries d = some delivery → delivery.requestId = requestId →
    running delivery = false

/-- What a marked row says stays true, and without a running attempt the column says
whether there is a document. -/
structure Truthful (requestId : RequestId) : Prop where
  stays : s.marked requestId = true → s.column requestId = some .indexed
  tells : s.Idle requestId → (s.column requestId = some .indexed ↔ s.Holds setup requestId)

/-- The attempt is over after this await: the await throws, or it is the last one. -/
def EndsAttempt : Prop :=
  fault.throws = true ∨ delivery.stage = .markState ∨
    delivery.stage = .writeSpine ∧
      s.logs.writeSpine (jobOf setup.jobs delivery.requestId) delivery.kind.payloadState = none

/-- The document of the request is stored when this await is over. -/
def Stored : Prop :=
  s.Holds setup delivery.requestId ∨ delivery.stage = .indexPayload ∧ fault.executes = true

/-- Its row says so when this await is over. -/
def Marked : Prop :=
  s.column delivery.requestId = some .indexed ∨
    delivery.stage = .markState ∧ fault.executes = true

/-- The last running attempt of a request does not end between storing the document and
marking the row, and no other mark reaches a row that is indexed. -/
def Orderly : PayloadAction → Prop
  | .advance d fault => ∀ delivery, s.deliveries d = some delivery →
      s.EndsAttempt setup delivery fault → s.Alone d delivery.requestId →
        s.Stored setup delivery fault → s.Marked delivery fault
  | .crash d => ∀ delivery, s.deliveries d = some delivery → s.Alone d delivery.requestId →
      s.Holds setup delivery.requestId → s.column delivery.requestId = some .indexed
  | .markFailed task fault => ∀ requestId, s.failures task = some requestId →
      fault.executes = true → s.column requestId ≠ some .indexed
  | .markUnavailable task fault => ∀ requestId rest, s.repairs task = requestId :: rest →
      fault.executes = true → s.column requestId ≠ some .indexed
  | _ => True

/-! ## What holds in every run -/

/-- Documents are found under their own ids, an attempt marks what it has stored, and a row
is indexed only by an attempt. -/
structure Consistent : Prop where
  keyed : ∀ n requestId, s.documents n = some requestId →
    requestId ∈ setup.requests ∧ setup.docId requestId = n
  delivery : ∀ d delivery, s.deliveries d = some delivery →
    delivery.requestId ∈ setup.requests ∧ delivery.kind ≠ .fallback
  stored : ∀ d delivery, s.deliveries d = some delivery → delivery.stage = .markState →
    s.Holds setup delivery.requestId
  spine : ∀ d delivery, s.deliveries d = some delivery → running delivery = true →
    delivery.stage ≠ .writeSpine → s.column delivery.requestId ≠ none
  indexed : ∀ requestId, s.column requestId = some .indexed → s.marked requestId = true
  marked : ∀ requestId, s.marked requestId = true →
    s.Holds setup requestId ∧ s.column requestId ≠ none

variable {setup} {s} {d} {delivery} {fault} {t : Payloads}

/-- What the await of an attempt does: it moves the attempt, and touches the column, the
document and the mark of its own request only. -/
structure Advanced (setup : Setup) (s : Payloads) (d : DeliveryId) (delivery : Delivery)
    (fault : Fault) (t : Payloads) (stage : DeliveryStage) : Prop where
  deliveries : t.deliveries = Function.update s.deliveries d (some { delivery with stage })
  ends : running { delivery with stage } = false ↔ s.EndsAttempt setup delivery fault
  column : ∀ other, other ≠ delivery.requestId → t.column other = s.column other
  holds : ∀ other, other ≠ delivery.requestId → (t.Holds setup other ↔ s.Holds setup other)
  marked : ∀ other, other ≠ delivery.requestId → t.marked other = s.marked other
  isIndexed : t.column delivery.requestId = some .indexed ↔ s.Marked delivery fault
  isStored : t.Holds setup delivery.requestId ↔ s.Stored setup delivery fault
  isMarked : t.marked delivery.requestId = true ↔ s.marked delivery.requestId = true ∨
    delivery.stage = .markState ∧ fault.executes = true
  present : s.column delivery.requestId ≠ none → t.column delivery.requestId ≠ none
  spine : running { delivery with stage } = true → t.column delivery.requestId ≠ none
  markState : stage = .markState → t.Holds setup delivery.requestId
  keyed : ∀ n requestId, t.documents n = some requestId →
    s.documents n = some requestId ∨
      requestId = delivery.requestId ∧ n = setup.docId delivery.requestId

/-- A stage that follows an await is reached unless the await throws. -/
theorem running_continue (stage : DeliveryStage) :
    running { delivery with stage := if fault.throws then .failed else stage } = false ↔
      fault.throws = true ∨ running { delivery with stage } = false := by
  cases hthrows : fault.throws <;> simp [running]

/-- An await that touches neither store. -/
theorem advanced_of_continueAt {stage : DeliveryStage}
    (hstage : running { delivery with stage } = true) (hspine : stage ≠ .markState)
    (hnow : delivery.stage = .recordCompletion ∨ delivery.stage = .recordMonthlyUsage)
    (hcolumn : s.column delivery.requestId ≠ none) :
    Advanced setup s d delivery fault (s.continueAt d delivery fault stage)
      (if fault.throws then .failed else stage) where
  deliveries := rfl
  ends := by
    rw [running_continue, EndsAttempt, hstage]
    rcases hnow with hnow | hnow <;> simp [hnow]
  column _ _ := rfl
  holds _ _ := Iff.rfl
  marked _ _ := rfl
  isIndexed := by
    rw [Marked]
    rcases hnow with hnow | hnow <;> simp [hnow, column, continueAt, setStage]
  isStored := by
    rw [Stored]
    rcases hnow with hnow | hnow <;> simp [hnow, Holds, continueAt, setStage]
  isMarked := by
    rcases hnow with hnow | hnow <;> simp [hnow, continueAt, setStage]
  present h := h
  spine _ := hcolumn
  markState h := by
    split at h
    · exact absurd h (by simp)
    · exact absurd h hspine
  keyed _ _ h := Or.inl h

theorem advanced_of_writeSpine (hnow : delivery.stage = .writeSpine)
    (hkind : delivery.kind ≠ .fallback) :
    ∃ stage, Advanced setup s d delivery fault (s.atWriteSpine setup d delivery fault) stage := by
  rw [atWriteSpine]
  cases hspine : s.logs.writeSpine (jobOf setup.jobs delivery.requestId)
      delivery.kind.payloadState with
  | none =>
      exact ⟨.failed,
        { deliveries := rfl
          ends := by simp [running, EndsAttempt, hnow, hspine]
          column := fun _ _ => rfl
          holds := fun _ _ => Iff.rfl
          marked := fun _ _ => rfl
          isIndexed := by simp [Marked, hnow, column, setStage]
          isStored := by simp [Stored, hnow, Holds, setStage]
          isMarked := by simp [hnow, setStage]
          present := id
          spine := fun h => absurd h (by simp [running])
          markState := fun h => absurd h (by simp)
          keyed := fun _ _ h => Or.inl h }⟩
  | some inserted =>
      have hafter : running { delivery with
          stage := delivery.kind.afterSpine inserted.1 } = true := by
        cases hk : delivery.kind with
        | process => cases inserted.1 <;> rfl
        | deadLetter => rfl
        | fallback => exact absurd hk hkind
      have hmark : delivery.kind.afterSpine inserted.1 ≠ .markState := by
        cases delivery.kind <;> cases inserted.1 <;> simp [DeliveryKind.afterSpine]
      have hinitial : delivery.kind.payloadState ≠ .indexed := by
        cases delivery.kind <;> simp [DeliveryKind.payloadState]
      have hcolumn : ∀ other, payloadState inserted.2 other =
          if other = delivery.requestId then
            some ((s.column other).getD delivery.kind.payloadState)
          else s.column other := payloadState_writeSpine hspine
      have hself : payloadState (fault.apply (fun _ => inserted.2) s.logs) delivery.requestId =
          if fault.executes then
            some ((s.column delivery.requestId).getD delivery.kind.payloadState)
          else s.column delivery.requestId := by
        cases fault with
        | rejected => rfl
        | none => simpa [Fault.executes] using hcolumn delivery.requestId
        | lost => simpa [Fault.executes] using hcolumn delivery.requestId
      exact ⟨if fault.throws then .failed else delivery.kind.afterSpine inserted.1,
        { deliveries := rfl
          ends := by
            rw [running_continue, hafter, EndsAttempt]
            simp [hnow, hspine]
          column := by
            intro other hother
            change payloadState (fault.apply (fun _ => inserted.2) s.logs) other = _
            cases fault with
            | rejected => rfl
            | none => simpa [hother] using hcolumn other
            | lost => simpa [hother] using hcolumn other
          holds := fun _ _ => Iff.rfl
          marked := fun _ _ => rfl
          isIndexed := by
            change payloadState (fault.apply (fun _ => inserted.2) s.logs) _ = _ ↔ _
            rw [hself, Marked]
            cases hold : s.column delivery.requestId with
            | none => cases fault.executes <;> simp [hnow, hinitial]
            | some state => cases fault.executes <;> simp [hnow]
          isStored := by simp [Stored, hnow, Holds, continueAt, setStage]
          isMarked := by simp [hnow, continueAt, setStage]
          present := by
            intro hpresent
            change payloadState (fault.apply (fun _ => inserted.2) s.logs) _ ≠ _
            rw [hself]
            split
            · simp
            · exact hpresent
          spine := by
            intro hrunning
            change payloadState (fault.apply (fun _ => inserted.2) s.logs) _ ≠ _
            rw [hself]
            cases fault with
            | none => simp [Fault.executes]
            | rejected => exact absurd hrunning (by simp [running, Fault.throws])
            | lost => exact absurd hrunning (by simp [running, Fault.throws])
          markState := by
            intro hstage
            split at hstage
            · exact absurd hstage (by simp)
            · exact absurd hstage hmark
          keyed := fun _ _ h => Or.inl h }⟩

theorem documents_atIndexPayload :
    (s.atIndexPayload setup d delivery fault).documents = fault.apply
      (fun documents =>
        Function.update documents (setup.docId delivery.requestId) (some delivery.requestId))
      s.documents := rfl

theorem advanced_of_indexPayload (hI : Consistent setup s)
    (hdistinct : Set.InjOn setup.docId {requestId | requestId ∈ setup.requests})
    (hd : s.deliveries d = some delivery) (hnow : delivery.stage = .indexPayload) :
    Advanced setup s d delivery fault (s.atIndexPayload setup d delivery fault)
      (if fault.throws then .failed else .markState) where
  deliveries := rfl
  ends := by
    rw [running_continue, EndsAttempt]
    simp [running, hnow]
  column _ _ := rfl
  holds := by
    intro other hother
    rw [Holds, documents_atIndexPayload, Holds]
    cases fault with
    | rejected => rfl
    | none | lost =>
        simp only [Fault.apply_none, Fault.apply_lost, Function.update_apply]
        split
        · next hsame =>
          refine ⟨fun h => absurd (Option.some.inj h) (Ne.symm hother), fun h => ?_⟩
          exact absurd (hdistinct (hI.keyed _ _ h).1 (hI.delivery d delivery hd).1 hsame) hother
        · rfl
  marked _ _ := rfl
  isIndexed := by simp [Marked, hnow, column, atIndexPayload, continueAt, setStage]
  isStored := by
    rw [Holds, documents_atIndexPayload, Stored]
    cases fault <;> simp [hnow, Fault.executes, Holds]
  isMarked := by simp [hnow, atIndexPayload, continueAt, setStage]
  present h := h
  spine _ := hI.spine d delivery hd (by simp [running, hnow]) (by simp [hnow])
  markState := by
    intro hstage
    rw [Holds, documents_atIndexPayload]
    cases fault <;> simp [Fault.throws] at hstage ⊢
  keyed := by
    intro n requestId h
    rw [documents_atIndexPayload] at h
    cases fault with
    | rejected => exact Or.inl h
    | none | lost =>
        simp only [Fault.apply_none, Fault.apply_lost, Function.update_apply] at h
        split at h
        · next hsame => exact Or.inr ⟨(Option.some.inj h).symm, hsame⟩
        · exact Or.inl h

theorem advanced_of_markState (hI : Consistent setup s) (hd : s.deliveries d = some delivery)
    (hnow : delivery.stage = .markState) :
    Advanced setup s d delivery fault (s.atMarkState d delivery fault)
      (if fault.throws then .failed else .done) := by
  have hcolumn : s.column delivery.requestId ≠ none :=
    hI.spine d delivery hd (by simp [running, hnow]) (by simp [hnow])
  have hself : payloadState (fault.apply (·.markState delivery.requestId .indexed) s.logs)
      delivery.requestId =
        if fault.executes then some .indexed else s.column delivery.requestId := by
    rcases Option.ne_none_iff_exists'.mp hcolumn with ⟨state, hstate⟩
    rw [column] at hstate
    cases fault with
    | rejected => rfl
    | none | lost => simp [payloadState_markState, hstate, Fault.executes]
  exact
    { deliveries := rfl
      ends := by
        rw [running_continue, EndsAttempt]
        simp [running, hnow]
      column := by
        intro other hother
        change payloadState (fault.apply (·.markState delivery.requestId .indexed) s.logs) other = _
        cases fault with
        | rejected => rfl
        | none | lost => simp [payloadState_markState, hother, column]
      holds := fun _ _ => Iff.rfl
      marked := by
        intro other hother
        change fault.apply (Function.update · delivery.requestId true) s.marked other = _
        cases fault <;> simp [hother]
      isIndexed := by
        change payloadState (fault.apply (·.markState delivery.requestId .indexed) s.logs) _ = _ ↔ _
        rw [hself, Marked]
        cases fault.executes <;> simp [hnow]
      isStored := by simp [Stored, hnow, Holds, atMarkState, continueAt, setStage]
      isMarked := by
        change fault.apply (Function.update · delivery.requestId true) s.marked _ = true ↔ _
        cases fault <;> simp [hnow, Fault.executes]
      present := by
        intro hpresent
        change payloadState (fault.apply (·.markState delivery.requestId .indexed) s.logs) _ ≠ _
        rw [hself]
        split
        · simp
        · exact hpresent
      spine := by
        intro hrunning
        cases hthrows : fault.throws <;> simp [hthrows, running] at hrunning
      markState := by
        intro hstage
        cases hthrows : fault.throws <;> simp [hthrows] at hstage
      keyed := fun _ _ h => Or.inl h }

/-- What the await of an attempt does. -/
theorem advance_cases (hI : Consistent setup s)
    (hdistinct : Set.InjOn setup.docId {requestId | requestId ∈ setup.requests})
    (hd : s.deliveries d = some delivery) (h : s.advance setup d delivery fault = some t) :
    ∃ stage, Advanced setup s d delivery fault t stage := by
  unfold advance at h
  cases hnow : delivery.stage with
  | done | failed => simp [hnow] at h
  | writeSpine =>
      simp only [hnow, Option.some.injEq] at h
      subst h
      exact advanced_of_writeSpine hnow (hI.delivery d delivery hd).2
  | recordCompletion =>
      simp only [hnow, Option.some.injEq] at h
      subst h
      refine ⟨_, advanced_of_continueAt ?_ ?_ (Or.inl hnow)
        (hI.spine d delivery hd (by simp [running, hnow]) (by simp [hnow]))⟩
      · split <;> rfl
      · split <;> simp
  | recordMonthlyUsage =>
      simp only [hnow, Option.some.injEq] at h
      subst h
      exact ⟨_, advanced_of_continueAt rfl (by simp) (Or.inr hnow)
        (hI.spine d delivery hd (by simp [running, hnow]) (by simp [hnow]))⟩
  | indexPayload =>
      simp only [hnow, Option.some.injEq] at h
      subst h
      exact ⟨_, advanced_of_indexPayload hI hdistinct hd hnow⟩
  | markState =>
      simp only [hnow, Option.some.injEq] at h
      subst h
      exact ⟨_, advanced_of_markState hI hd hnow⟩

/-- A mark changes the column of its row, if there is one. -/
theorem column_mark (requestId : RequestId) (state : PayloadState) (other : RequestId) :
    (s.mark fault requestId state).column other =
      if other = requestId ∧ fault.executes = true then (s.column other).map fun _ => state
      else s.column other := by
  change payloadState (fault.apply (·.markState requestId state) s.logs) other = _
  cases fault with
  | rejected => simp [Fault.executes, column]
  | none | lost => simp [payloadState_markState, Fault.executes, column]

/-! ### Preservation -/

theorem Consistent.advanced {stage : DeliveryStage} (hI : Consistent setup s)
    (hd : s.deliveries d = some delivery) (h : Advanced setup s d delivery fault t stage) :
    Consistent setup t := by
  have hmem := hI.delivery d delivery hd
  have hholds : ∀ other, s.Holds setup other → t.Holds setup other := by
    intro other hold
    by_cases heq : other = delivery.requestId
    · subst heq
      exact h.isStored.mpr (Or.inl hold)
    · exact (h.holds other heq).mpr hold
  have hpresent : ∀ other, s.column other ≠ none → t.column other ≠ none := by
    intro other hold
    by_cases heq : other = delivery.requestId
    · subst heq
      exact h.present hold
    · rwa [h.column other heq]
  have hdeliveries : ∀ d' delivery', t.deliveries d' = some delivery' →
      (d' = d ∧ delivery' = { delivery with stage }) ∨ s.deliveries d' = some delivery' := by
    intro d' delivery' hd'
    rw [h.deliveries, Function.update_apply] at hd'
    split at hd'
    · next heq => exact Or.inl ⟨heq, (Option.some.inj hd').symm⟩
    · exact Or.inr hd'
  exact
    { keyed := by
        intro n requestId hdocument
        rcases h.keyed n requestId hdocument with hold | ⟨rfl, rfl⟩
        · exact hI.keyed n requestId hold
        · exact ⟨hmem.1, rfl⟩
      delivery := by
        intro d' delivery' hd'
        rcases hdeliveries d' delivery' hd' with ⟨-, rfl⟩ | hold
        · exact hmem
        · exact hI.delivery d' delivery' hold
      stored := by
        intro d' delivery' hd' hstage
        rcases hdeliveries d' delivery' hd' with ⟨-, rfl⟩ | hold
        · exact h.markState hstage
        · exact hholds _ (hI.stored d' delivery' hold hstage)
      spine := by
        intro d' delivery' hd' hrunning hstage
        rcases hdeliveries d' delivery' hd' with ⟨-, rfl⟩ | hold
        · exact h.spine hrunning
        · exact hpresent _ (hI.spine d' delivery' hold hrunning hstage)
      indexed := by
        intro requestId hindexed
        by_cases heq : requestId = delivery.requestId
        · subst heq
          rcases h.isIndexed.mp hindexed with hold | hnow
          · exact h.isMarked.mpr (Or.inl (hI.indexed _ hold))
          · exact h.isMarked.mpr (Or.inr hnow)
        · rw [h.column requestId heq] at hindexed
          rw [h.marked requestId heq]
          exact hI.indexed requestId hindexed
      marked := by
        intro requestId hmarked
        by_cases heq : requestId = delivery.requestId
        · subst heq
          rcases h.isMarked.mp hmarked with hold | hnow
          · exact ⟨hholds _ (hI.marked _ hold).1, hpresent _ (hI.marked _ hold).2⟩
          · refine ⟨hholds _ (hI.stored d delivery hd hnow.1), ?_⟩
            rw [h.isIndexed.mpr (Or.inr hnow)]
            simp
        · rw [h.marked requestId heq] at hmarked
          exact ⟨hholds _ (hI.marked _ hmarked).1, hpresent _ (hI.marked _ hmarked).2⟩ }

/-- A delivery that starts or dies changes nothing but itself. -/
theorem Consistent.update {delivery' : Delivery} (hI : Consistent setup s)
    (hmem : delivery'.requestId ∈ setup.requests ∧ delivery'.kind ≠ .fallback)
    (hstage : delivery'.stage = .writeSpine ∨ delivery'.stage = .failed) :
    Consistent setup
      { s with deliveries := Function.update s.deliveries d (some delivery') } := by
  have hdeliveries : ∀ d' delivery,
      Function.update s.deliveries d (some delivery') d' = some delivery →
        delivery = delivery' ∨ s.deliveries d' = some delivery := by
    intro d' delivery hd'
    rw [Function.update_apply] at hd'
    split at hd'
    · exact Or.inl (Option.some.inj hd').symm
    · exact Or.inr hd'
  exact
    { keyed := hI.keyed
      delivery := by
        intro d' delivery hd'
        rcases hdeliveries d' delivery hd' with rfl | hold
        · exact hmem
        · exact hI.delivery d' delivery hold
      stored := by
        intro d' delivery hd' hmark
        rcases hdeliveries d' delivery hd' with rfl | hold
        · rcases hstage with hstage | hstage <;> simp [hstage] at hmark
        · exact hI.stored d' delivery hold hmark
      spine := by
        intro d' delivery hd' hrunning hspine
        rcases hdeliveries d' delivery hd' with rfl | hold
        · rcases hstage with hstage | hstage
          · exact absurd hstage hspine
          · simp [running, hstage] at hrunning
        · exact hI.spine d' delivery hold hrunning hspine
      indexed := hI.indexed
      marked := hI.marked }

theorem Consistent.mark {requestId : RequestId} {state : PayloadState}
    (hI : Consistent setup s) (hstate : state ≠ .indexed) :
    Consistent setup (s.mark fault requestId state) where
  keyed := hI.keyed
  delivery := hI.delivery
  stored := hI.stored
  spine d' delivery' hd' hrunning hstage := by
    rw [column_mark]
    split
    · simpa using hI.spine d' delivery' hd' hrunning hstage
    · exact hI.spine d' delivery' hd' hrunning hstage
  indexed other hindexed := by
    rw [column_mark] at hindexed
    split at hindexed
    · simp [hstate] at hindexed
    · exact hI.indexed other hindexed
  marked other hmarked := by
    refine ⟨(hI.marked other hmarked).1, ?_⟩
    rw [column_mark]
    split
    · simpa using (hI.marked other hmarked).2
    · exact (hI.marked other hmarked).2

/-- Tasks hold no part of the invariant. -/
theorem Consistent.tasks (hI : Consistent setup s) (failures : TaskId → Option RequestId)
    (repairs : TaskId → List RequestId) : Consistent setup { s with failures, repairs } :=
  ⟨hI.keyed, hI.delivery, hI.stored, hI.spine, hI.indexed, hI.marked⟩

theorem Consistent.empty : Consistent setup empty where
  keyed _ _ h := absurd h (by simp [Payloads.empty])
  delivery _ _ h := absurd h (by simp [Payloads.empty])
  stored _ _ h := absurd h (by simp [Payloads.empty])
  spine _ _ h := absurd h (by simp [Payloads.empty])
  indexed _ h := absurd h (by simp [Payloads.empty, column, payloadState, RequestLogs.empty])
  marked _ h := absurd h (by simp [Payloads.empty])

/-- What holds in every run. -/
theorem Consistent.step {a : PayloadAction}
    (hdistinct : Set.InjOn setup.docId {requestId | requestId ∈ setup.requests})
    (hI : Consistent setup s) (h : (payloadMachine setup).step s a = some t) :
    Consistent setup t := by
  cases a with
  | start d kind requestId =>
      simp only [payloadMachine, Option.ite_none_right_eq_some, Option.some.injEq] at h
      rcases h with ⟨⟨hkind, hmem, -⟩, rfl⟩
      exact hI.update ⟨hmem, hkind⟩ (Or.inl rfl)
  | advance d fault =>
      simp only [payloadMachine, Option.bind_eq_some_iff] at h
      rcases h with ⟨delivery, hd, h⟩
      rcases advance_cases hI hdistinct hd h with ⟨stage, hadvanced⟩
      exact hI.advanced hd hadvanced
  | crash d =>
      simp only [payloadMachine, Option.map_eq_some_iff] at h
      rcases h with ⟨delivery, hd, rfl⟩
      exact hI.update (hI.delivery d delivery hd) (Or.inr rfl)
  | onFailed task requestId attemptsMade =>
      simp only [payloadMachine] at h
      split at h
      · exact Option.some.inj h ▸ hI
      · exact Option.some.inj h ▸ hI.tasks _ _
  | markFailed task fault =>
      simp only [payloadMachine, Option.map_eq_some_iff] at h
      rcases h with ⟨requestId, -, rfl⟩
      exact (hI.mark (by simp)).tasks _ _
  | findStalePending task found =>
      simp only [payloadMachine, Option.ite_none_right_eq_some, Option.some.injEq] at h
      exact h.2 ▸ hI.tasks _ _
  | markUnavailable task fault =>
      simp only [payloadMachine] at h
      split at h
      · exact absurd h (by simp)
      · exact Option.some.inj h ▸ (hI.mark (by simp)).tasks _ _

/-! ## When the column tells the truth -/

/-- Who is running, after one delivery has changed. -/
theorem idle_update {delivery' : Delivery}
    (h : t.deliveries = Function.update s.deliveries d (some delivery')) (requestId : RequestId) :
    t.Idle requestId ↔
      (delivery'.requestId = requestId → running delivery' = false) ∧ s.Alone d requestId := by
  rw [Idle, h]
  constructor
  · intro hidle
    refine ⟨hidle d delivery' (Function.update_self ..), ?_⟩
    intro d' delivery hne hd' hrequest
    exact hidle d' delivery (by rw [Function.update_of_ne hne]; exact hd') hrequest
  · rintro ⟨hself, halone⟩ d' delivery hd' hrequest
    by_cases hne : d' = d
    · subst hne
      rw [Function.update_self, Option.some.injEq] at hd'
      subst hd'
      exact hself hrequest
    · rw [Function.update_of_ne hne] at hd'
      exact halone d' delivery hne hd' hrequest

theorem idle_iff (hd : s.deliveries d = some delivery) (requestId : RequestId) :
    s.Idle requestId ↔
      (delivery.requestId = requestId → running delivery = false) ∧ s.Alone d requestId :=
  idle_update (by rw [← hd, Function.update_eq_self]) requestId

/-- Only the stores and the running attempts of a request matter. -/
theorem truthful_congr {requestId : RequestId} (hcolumn : t.column requestId = s.column requestId)
    (hholds : t.Holds setup requestId ↔ s.Holds setup requestId)
    (hmarked : t.marked requestId = s.marked requestId)
    (hidle : t.Idle requestId ↔ s.Idle requestId) :
    t.Truthful setup requestId ↔ s.Truthful setup requestId := by
  constructor
  · intro h
    exact ⟨hmarked ▸ hcolumn ▸ h.stays, fun hi => hcolumn ▸ (h.tells (hidle.mpr hi)).trans hholds⟩
  · intro h
    exact ⟨hmarked ▸ hcolumn ▸ h.stays,
      fun hi => hcolumn ▸ (h.tells (hidle.mp hi)).trans hholds.symm⟩

/-- An await keeps the truth about its request exactly when the attempt is not the last one
to leave a document behind without a mark. -/
theorem truthful_advanced {stage : DeliveryStage} (hI : Consistent setup s)
    (hG : ∀ requestId, s.Truthful setup requestId) (hd : s.deliveries d = some delivery)
    (h : Advanced setup s d delivery fault t stage) :
    (∀ requestId, t.Truthful setup requestId) ↔
      (s.EndsAttempt setup delivery fault → s.Alone d delivery.requestId →
        s.Stored setup delivery fault → s.Marked delivery fault) := by
  have hidle := idle_update h.deliveries
  constructor
  · intro htruthful hends halone hstored
    have hnow : t.Idle delivery.requestId :=
      (hidle delivery.requestId).mpr ⟨fun _ => h.ends.mpr hends, halone⟩
    exact h.isIndexed.mp (((htruthful delivery.requestId).tells hnow).mpr (h.isStored.mpr hstored))
  · intro hC requestId
    by_cases heq : requestId = delivery.requestId
    · subst heq
      constructor
      · intro hmarked
        rw [h.isIndexed]
        rcases h.isMarked.mp hmarked with hold | hnow
        · exact Or.inl ((hG _).stays hold)
        · exact Or.inr hnow
      · intro hnow
        rw [h.isIndexed, h.isStored]
        constructor
        · rintro (hindexed | hmark)
          · exact Or.inl (hI.marked _ (hI.indexed _ hindexed)).1
          · exact Or.inl (hI.stored d delivery hd hmark.1)
        · have hparts := (hidle delivery.requestId).mp hnow
          exact hC (h.ends.mp (hparts.1 rfl)) hparts.2
    · apply (truthful_congr (h.column _ heq) (h.holds _ heq) (h.marked _ heq) _).mpr (hG requestId)
      rw [hidle, idle_iff hd]
      simp [Ne.symm heq]

/-- So does a crash. -/
theorem truthful_crash (hI : Consistent setup s) (hG : ∀ requestId, s.Truthful setup requestId)
    (hd : s.deliveries d = some delivery) :
    (∀ requestId, (s.setStage d delivery .failed).Truthful setup requestId) ↔
      (s.Alone d delivery.requestId → s.Holds setup delivery.requestId →
        s.column delivery.requestId = some .indexed) := by
  have hidle := idle_update (s := s) (t := s.setStage d delivery .failed) rfl
  constructor
  · intro htruthful halone hholds
    have hnow := (hidle delivery.requestId).mpr ⟨fun _ => rfl, halone⟩
    exact ((htruthful delivery.requestId).tells hnow).mpr hholds
  · intro hC requestId
    by_cases heq : requestId = delivery.requestId
    · subst heq
      refine ⟨(hG _).stays, fun hnow => ⟨fun hindexed => ?_, ?_⟩⟩
      · exact (hI.marked _ (hI.indexed _ hindexed)).1
      · exact hC ((hidle delivery.requestId).mp hnow).2
    · apply (truthful_congr (s := s) (t := s.setStage d delivery .failed) rfl Iff.rfl rfl _).mpr
        (hG requestId)
      rw [hidle, idle_iff hd]
      simp [Ne.symm heq]

/-- A mark that does not come from an attempt keeps the truth exactly when it does not reach
a row that is indexed. -/
theorem truthful_mark {requestId : RequestId} {state : PayloadState} (hstate : state ≠ .indexed)
    (hI : Consistent setup s) (hG : ∀ requestId, s.Truthful setup requestId) :
    (∀ other, (s.mark fault requestId state).Truthful setup other) ↔
      (fault.executes = true → s.column requestId ≠ some .indexed) := by
  constructor
  · intro htruthful hexecutes hindexed
    have hstays := (htruthful requestId).stays (hI.indexed _ hindexed)
    rw [column_mark, if_pos ⟨rfl, hexecutes⟩, hindexed] at hstays
    exact hstate (Option.some.inj hstays)
  · intro hC other
    by_cases hreached : other = requestId ∧ fault.executes = true
    · have hold : s.column other ≠ some .indexed := hreached.1 ▸ hC hreached.2
      have hnew : (s.mark fault requestId state).column other ≠ some .indexed := by
        rw [column_mark, if_pos hreached]
        cases s.column other <;> simp [hstate]
      refine ⟨fun hmarked => absurd ((hG other).stays hmarked) hold, fun hnow => ?_⟩
      exact ⟨fun hindexed => absurd hindexed hnew,
        fun hholds => absurd (((hG other).tells hnow).mpr hholds) hold⟩
    · apply (truthful_congr (s := s) (t := s.mark fault requestId state) _ Iff.rfl rfl Iff.rfl).mpr
        (hG other)
      rw [column_mark, if_neg hreached]

/-- A step keeps the column truthful exactly when it is orderly. -/
theorem truthful_step {a : PayloadAction}
    (hdistinct : Set.InjOn setup.docId {requestId | requestId ∈ setup.requests})
    (hI : Consistent setup s) (hG : ∀ requestId, s.Truthful setup requestId)
    (h : (payloadMachine setup).step s a = some t) :
    (∀ requestId, t.Truthful setup requestId) ↔ s.Orderly setup a := by
  cases a with
  | start d kind requestId =>
      simp only [payloadMachine, Option.ite_none_right_eq_some, Option.some.injEq] at h
      rcases h with ⟨⟨-, -, hnone⟩, rfl⟩
      refine iff_of_true (fun other => ?_) trivial
      have hidle := idle_update (s := s) (t := { s with
        deliveries := Function.update s.deliveries d (some ⟨kind, requestId, .writeSpine⟩) }) rfl
      refine ⟨(hG other).stays, fun hnow => (hG other).tells ?_⟩
      intro d' delivery hd' hrequest
      have hne : d' ≠ d := by
        rintro rfl
        rw [hnone] at hd'
        exact absurd hd' (by simp)
      exact ((hidle other).mp hnow).2 d' delivery hne hd' hrequest
  | advance d fault =>
      simp only [payloadMachine, Option.bind_eq_some_iff] at h
      rcases h with ⟨delivery, hd, h⟩
      rcases advance_cases hI hdistinct hd h with ⟨stage, hadvanced⟩
      rw [truthful_advanced hI hG hd hadvanced, Orderly]
      simp [hd]
  | crash d =>
      simp only [payloadMachine, Option.map_eq_some_iff] at h
      rcases h with ⟨delivery, hd, rfl⟩
      rw [truthful_crash hI hG hd, Orderly]
      simp [hd]
  | onFailed task requestId attemptsMade =>
      simp only [payloadMachine] at h
      refine iff_of_true (fun other => ?_) trivial
      split at h
      · exact Option.some.inj h ▸ hG other
      · exact Option.some.inj h ▸ ⟨(hG other).stays, (hG other).tells⟩
  | markFailed task fault =>
      simp only [payloadMachine, Option.map_eq_some_iff] at h
      rcases h with ⟨requestId, htask, rfl⟩
      have hmark : (∀ other, (s.mark fault requestId .failed).Truthful setup other) ↔
          (fault.executes = true → s.column requestId ≠ some .indexed) :=
        truthful_mark (by simp) hI hG
      rw [Orderly]
      simp only [htask, Option.some.injEq, forall_eq']
      rw [← hmark]
      exact forall_congr' fun other => truthful_congr rfl Iff.rfl rfl Iff.rfl
  | findStalePending task found =>
      simp only [payloadMachine, Option.ite_none_right_eq_some, Option.some.injEq] at h
      refine iff_of_true (fun other => ?_) trivial
      exact h.2 ▸ ⟨(hG other).stays, (hG other).tells⟩
  | markUnavailable task fault =>
      simp only [payloadMachine] at h
      cases htask : s.repairs task with
      | nil => simp [htask] at h
      | cons requestId rest =>
          simp only [htask, Option.some.injEq] at h
          subst h
          have hmark : (∀ other, (s.mark fault requestId .unavailable).Truthful setup other) ↔
              (fault.executes = true → s.column requestId ≠ some .indexed) :=
            truthful_mark (by simp) hI hG
          have horderly : s.Orderly setup (.markUnavailable task fault) ↔
              (fault.executes = true → s.column requestId ≠ some .indexed) := by
            simp [Orderly, htask]
          rw [horderly, ← hmark]
          exact forall_congr' fun other => truthful_congr rfl Iff.rfl rfl Iff.rfl

end Payloads

/-- The column tells the truth all along a run exactly when every step is orderly. -/
theorem truthful_iff (setup : Setup)
    (hdistinct : Set.InjOn setup.docId {requestId | requestId ∈ setup.requests})
    (actions : List PayloadAction) (final : Payloads)
    (hrun : (payloadMachine setup).run .empty actions = some final) :
    (payloadMachine setup).Meets (fun s a => s.Orderly setup a) .empty actions ↔
      ∀ pre post s, actions = pre ++ post → (payloadMachine setup).run .empty pre = some s →
        ∀ requestId, s.Truthful setup requestId := by
  apply Machine.meets_iff_always (I := Payloads.Consistent setup)
    (G := fun s => ∀ requestId, s.Truthful setup requestId)
  · intro s a t hI hstep
    exact hI.step hdistinct hstep
  · intro s a t hI hG hstep
    exact Payloads.truthful_step hdistinct hI hG hstep
  · exact .empty
  · intro requestId
    constructor
    · intro hmarked
      exact absurd hmarked (by simp [Payloads.empty])
    · intro _
      simp [Payloads.empty, Payloads.column, Payloads.Holds, payloadState, RequestLogs.empty]
  · exact hrun

/-- Three attempts for one request. -/
def sampleSetup : Setup where
  jobs requestId := sampleJob requestId none "ok" (some 10)
  docId requestId := requestId
  requests := [1]
  maximumAttempts := 3

/-- A repair reads the row as pending, and marks it after the attempt has indexed it. -/
def staleRepair : List PayloadAction :=
  [.start 0 .process 1, .advance 0 .none, .findStalePending 0 [1], .advance 0 .none,
    .advance 0 .none, .advance 0 .none, .markUnavailable 0 .none]

theorem sampleSetup_injOn :
    Set.InjOn sampleSetup.docId {requestId | requestId ∈ sampleSetup.requests} :=
  fun _ _ _ _ heq => heq

/-- The rule for this run. -/
theorem truthful_iff_staleRepair :
    ¬ (payloadMachine sampleSetup).Meets (fun s a => s.Orderly sampleSetup a) .empty
      staleRepair := by
  intro hmeets
  have htruthful := (truthful_iff sampleSetup sampleSetup_injOn staleRepair _ rfl).mp hmeets
    staleRepair [] _ (List.append_nil _).symm rfl 1
  exact absurd (htruthful.stays rfl) (by decide)

/-- A repair with a stale scan takes an indexed row back. -/
theorem staleRepair_lies :
    ¬ ∀ setup : Setup, Set.InjOn setup.docId {requestId | requestId ∈ setup.requests} →
      ∀ actions s, (payloadMachine setup).run .empty actions = some s →
        ∀ requestId, s.Truthful setup requestId := by
  intro h
  have hstays := (h sampleSetup sampleSetup_injOn staleRepair _ rfl 1).stays rfl
  exact absurd hstays (by decide)

end RequestLog
end R2RPC
