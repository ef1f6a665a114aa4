import R2RPC.Metrics.Deliveries

/-!
# Accounting of completed requests

The first insertion of the spine row decides who counts the request, so it is
counted once when that delivery also gets through the two counters.

Main results:

- Inductive {lit}`RequestPhase`: how far the accounting of one request is.
- Theorem {lit}`accounted_exactly_once`: what holds of every successful delivery in
  runs that lose no count.
-/

namespace R2RPC
namespace Metrics

open Interleaving

/-! ## The condition -/

/-- The delivery has inserted the row and not finished counting. -/
def DeliveryStage.counting : DeliveryStage → Bool
  | .recordCompletion | .recordMonthlyUsage => true
  | _ => false

/-- A delivery of the request stands between its insert and its counters. -/
def AccountingState.Counting (s : AccountingState) (requestId : RequestId) : Prop :=
  ∃ d delivery, s.deliveries d = some delivery ∧ delivery.requestId = requestId ∧
    delivery.stage.counting = true

/-- Nothing is lost by this await: the row of a request is inserted by a delivery
of `process` that sees it; its completion is committed and answered, or the answer
is lost when there is no usage left to record; its usage is committed, or there is
no token; and another delivery succeeds when the counting is over. -/
def AccountingState.KeepsCount (s : AccountingState) (jobs : RequestId → RequestLogJob)
    (delivery : Delivery) (fault : Fault) : Prop :=
  match delivery.stage with
  | .writeSpine =>
      s.logs.contains delivery.requestId = false → fault.executes = true →
        delivery.kind = .process ∧ fault = .none
  | .recordCompletion =>
      fault = .none ∨ (fault = .lost ∧ s.usedToken jobs delivery.requestId = none)
  | .recordMonthlyUsage =>
      fault.executes = true ∨ s.usedToken jobs delivery.requestId = none
  | .markState => delivery.kind = .process → fault = .none → ¬ s.Counting delivery.requestId
  | .indexPayload | .done | .failed => True

/-- Nothing is lost by the death of this delivery. -/
def AccountingState.KeepsCountOnCrash (s : AccountingState) (jobs : RequestId → RequestLogJob)
    (delivery : Delivery) : Prop :=
  match delivery.stage with
  | .recordCompletion => False
  | .recordMonthlyUsage => s.usedToken jobs delivery.requestId = none
  | _ => True

/-- The condition on a step. -/
def AccountingCondition (jobs : RequestId → RequestLogJob) (s : AccountingState) :
    AccountingAction → Prop
  | .advance d fault => ∀ delivery, s.deliveries d = some delivery →
      s.KeepsCount jobs delivery fault
  | .crash d => ∀ delivery, s.deliveries d = some delivery → s.KeepsCountOnCrash jobs delivery
  | .start .. | .deleteToken _ | .nextPeriod => True

/-! ## One request -/

namespace AccountingState

variable (jobs : RequestId → RequestLogJob) (s : AccountingState) (requestId : RequestId)

/-- What the counters hold for a request: its completion once, and its usage once
when its token is not deleted. -/
structure Settled : Prop where
  recorded : s.logs.contains requestId = true
  counted : s.counted.count requestId = 1
  used : s.usedToken jobs requestId ≠ none → s.usedCount requestId = 1

/-- A delivery of `process` for the request stands at one of these awaits. -/
def ProcessAt (stages : List DeliveryStage) : Prop :=
  ∃ d stage, s.deliveries d = some ⟨.process, requestId, stage⟩ ∧ stage ∈ stages

end AccountingState

/-- How far the accounting of one request is. -/
inductive RequestPhase (jobs : RequestId → RequestLogJob) (s : AccountingState)
    (requestId : RequestId) : Prop where
  /-- Nobody has inserted its row. -/
  | absent (recorded : s.logs.contains requestId = false)
      (counted : s.counted.count requestId = 0) (used : s.usedCount requestId = 0)
      (idle : ¬ s.Counting requestId)
      (notPast : ¬ s.ProcessAt requestId [.indexPayload, .markState, .done])
  /-- The delivery that inserted its row has not counted it. -/
  | inserted (d : DeliveryId) (recorded : s.logs.contains requestId = true)
      (owner : s.deliveries d = some ⟨.process, requestId, .recordCompletion⟩)
      (single : ∀ d' delivery, s.deliveries d' = some delivery → delivery.requestId = requestId →
        delivery.stage.counting = true → d' = d)
      (counted : s.counted.count requestId = 0) (used : s.usedCount requestId = 0)
      (notDone : ¬ s.ProcessAt requestId [.done])
  /-- That delivery has its usage left. -/
  | completed (d : DeliveryId) (recorded : s.logs.contains requestId = true)
      (owner : s.deliveries d = some ⟨.process, requestId, .recordMonthlyUsage⟩)
      (single : ∀ d' delivery, s.deliveries d' = some delivery → delivery.requestId = requestId →
        delivery.stage.counting = true → d' = d)
      (counted : s.counted.count requestId = 1) (used : s.usedCount requestId = 0)
      (notDone : ¬ s.ProcessAt requestId [.done])
  /-- Its counting is over. -/
  | settled (settled : s.Settled jobs requestId) (idle : ¬ s.Counting requestId)

namespace RequestPhase

variable {jobs : RequestId → RequestLogJob} {s t : AccountingState} {requestId : RequestId}

/-- A phase is kept by a step that leaves the row and the counts of the request,
adds no token, moves no delivery of it in or out of the counting, and lets a
delivery of it get on only when its row is there. -/
theorem frame (h : RequestPhase jobs s requestId)
    (recorded : t.logs.contains requestId = s.logs.contains requestId)
    (counted : t.counted.count requestId = s.counted.count requestId)
    (used : t.usedCount requestId = s.usedCount requestId)
    (token : t.usedToken jobs requestId ≠ none → s.usedToken jobs requestId ≠ none)
    (kept : ∀ d delivery, s.deliveries d = some delivery → delivery.requestId = requestId →
      delivery.stage.counting = true → t.deliveries d = some delivery)
    (moved : ∀ d delivery, t.deliveries d = some delivery → delivery.requestId = requestId →
      delivery.stage.counting = true → s.deliveries d = some delivery)
    (past : t.ProcessAt requestId [.indexPayload, .markState, .done] →
      s.ProcessAt requestId [.indexPayload, .markState, .done] ∨
        s.logs.contains requestId = true)
    (done : t.ProcessAt requestId [.done] →
      s.ProcessAt requestId [.done] ∨ ¬ s.Counting requestId) :
    RequestPhase jobs t requestId := by
  have idle : ¬ s.Counting requestId → ¬ t.Counting requestId := by
    rintro hidle ⟨d, delivery, hd, hid, hcounting⟩
    exact hidle ⟨d, delivery, moved d delivery hd hid hcounting, hid, hcounting⟩
  cases h with
  | absent hrecorded hcounted hused hidle hnotPast =>
      refine .absent (recorded.trans hrecorded) (counted.trans hcounted) (used.trans hused)
        (idle hidle) fun hpast => ?_
      rcases past hpast with hold | hrow
      · exact hnotPast hold
      · rw [hrecorded] at hrow
        contradiction
  | inserted d hrecorded howner hsingle hcounted hused hnotDone =>
      refine .inserted d (recorded.trans hrecorded) (kept d _ howner rfl rfl)
        (fun d' delivery hd' hid hcounting =>
          hsingle d' delivery (moved d' delivery hd' hid hcounting) hid hcounting)
        (counted.trans hcounted) (used.trans hused) fun hdone => ?_
      rcases done hdone with hold | hidle
      · exact hnotDone hold
      · exact hidle ⟨d, _, howner, rfl, rfl⟩
  | completed d hrecorded howner hsingle hcounted hused hnotDone =>
      refine .completed d (recorded.trans hrecorded) (kept d _ howner rfl rfl)
        (fun d' delivery hd' hid hcounting =>
          hsingle d' delivery (moved d' delivery hd' hid hcounting) hid hcounting)
        (counted.trans hcounted) (used.trans hused) fun hdone => ?_
      rcases done hdone with hold | hidle
      · exact hnotDone hold
      · exact hidle ⟨d, _, howner, rfl, rfl⟩
  | settled hsettled hidle =>
      exact .settled ⟨recorded.trans hsettled.recorded, counted.trans hsettled.counted,
        fun htoken => used.trans (hsettled.used (token htoken))⟩ (idle hidle)

/-- A delivery that neither begins nor ends the counting of its request. -/
theorem move (h : RequestPhase jobs s requestId) {d : DeliveryId} {delivery : Delivery}
    {stage : DeliveryStage} (hd : s.deliveries d = some delivery)
    (hmove : t.deliveries = Function.update s.deliveries d (some { delivery with stage }))
    (recorded : t.logs.contains requestId = s.logs.contains requestId)
    (counted : t.counted.count requestId = s.counted.count requestId)
    (used : t.usedCount requestId = s.usedCount requestId)
    (token : t.usedToken jobs requestId ≠ none → s.usedToken jobs requestId ≠ none)
    (own : delivery.requestId = requestId →
      delivery.stage.counting = false ∧ stage.counting = false ∧
        (delivery.kind = .process → stage ∈ [.indexPayload, .markState, .done] →
          delivery.stage ∈ [.indexPayload, .markState, .done] ∨
            s.logs.contains requestId = true) ∧
        (delivery.kind = .process → stage = .done → ¬ s.Counting requestId)) :
    RequestPhase jobs t requestId := by
  have hself : t.deliveries d = some { delivery with stage } := by
    rw [hmove, Function.update_self]
  have hother : ∀ d', d' ≠ d → t.deliveries d' = s.deliveries d' := fun d' hne => by
    rw [hmove, Function.update_of_ne hne]
  refine h.frame recorded counted used token (fun d' delivery' hd' hid hcounting => ?_)
    (fun d' delivery' hd' hid hcounting => ?_) ?_ ?_
  · by_cases heq : d' = d
    · subst heq
      rw [hd, Option.some.injEq] at hd'
      subst hd'
      rw [(own hid).1] at hcounting
      contradiction
    · exact (hother d' heq).trans hd'
  · by_cases heq : d' = d
    · subst heq
      rw [hself, Option.some.injEq] at hd'
      subst hd'
      rw [(own hid).2.1] at hcounting
      contradiction
    · exact (hother d' heq).symm.trans hd'
  · rintro ⟨d', stage', hd', hstage⟩
    by_cases heq : d' = d
    · subst heq
      rw [hself, Option.some.injEq] at hd'
      obtain ⟨kind, id, old⟩ := delivery
      simp only [Delivery.mk.injEq] at hd'
      obtain ⟨rfl, rfl, rfl⟩ := hd'
      rcases (own rfl).2.2.1 rfl hstage with hold | hrow
      · exact Or.inl ⟨d', old, hd, hold⟩
      · exact Or.inr hrow
    · exact Or.inl ⟨d', stage', (hother d' heq).symm.trans hd', hstage⟩
  · rintro ⟨d', stage', hd', hstage⟩
    by_cases heq : d' = d
    · subst heq
      rw [hself, Option.some.injEq] at hd'
      obtain ⟨kind, id, old⟩ := delivery
      simp only [Delivery.mk.injEq] at hd'
      obtain ⟨rfl, rfl, rfl⟩ := hd'
      exact Or.inr ((own rfl).2.2.2 rfl (List.mem_singleton.mp hstage))
    · exact Or.inl ⟨d', stage', (hother d' heq).symm.trans hd', hstage⟩

/-- A delivery of another request. -/
theorem move_other (h : RequestPhase jobs s requestId) {d : DeliveryId} {delivery : Delivery}
    {stage : DeliveryStage} (hd : s.deliveries d = some delivery)
    (hne : requestId ≠ delivery.requestId)
    (hmove : t.deliveries = Function.update s.deliveries d (some { delivery with stage }))
    (recorded : t.logs.contains requestId = s.logs.contains requestId)
    (counted : t.counted.count requestId = s.counted.count requestId)
    (used : t.usedCount requestId = s.usedCount requestId)
    (token : t.usedToken jobs requestId ≠ none → s.usedToken jobs requestId ≠ none) :
    RequestPhase jobs t requestId :=
  h.move hd hmove recorded counted used token fun hsame => absurd hsame.symm hne

/-- The delivery that stands at the first counter has inserted the row. -/
theorem owner_recordCompletion (h : RequestPhase jobs s requestId) {d : DeliveryId}
    {kind : DeliveryKind} (hd : s.deliveries d = some ⟨kind, requestId, .recordCompletion⟩) :
    kind = .process ∧ s.logs.contains requestId = true ∧ s.counted.count requestId = 0 ∧
      s.usedCount requestId = 0 := by
  cases h with
  | absent hrecorded hcounted hused hidle hnotPast => exact absurd ⟨d, _, hd, rfl, rfl⟩ hidle
  | inserted owner hrecorded howner hsingle hcounted hused hnotDone =>
      rw [← hsingle d _ hd rfl rfl, hd, Option.some.injEq, Delivery.mk.injEq] at howner
      exact ⟨howner.1, hrecorded, hcounted, hused⟩
  | completed owner hrecorded howner hsingle hcounted hused hnotDone =>
      rw [← hsingle d _ hd rfl rfl, hd, Option.some.injEq, Delivery.mk.injEq] at howner
      exact absurd howner.2.2 (by decide)
  | settled hsettled hidle => exact absurd ⟨d, _, hd, rfl, rfl⟩ hidle

/-- The delivery that stands at the second counter has been through the first. -/
theorem owner_recordMonthlyUsage (h : RequestPhase jobs s requestId) {d : DeliveryId}
    {kind : DeliveryKind} (hd : s.deliveries d = some ⟨kind, requestId, .recordMonthlyUsage⟩) :
    kind = .process ∧ s.logs.contains requestId = true ∧ s.counted.count requestId = 1 ∧
      s.usedCount requestId = 0 := by
  cases h with
  | absent hrecorded hcounted hused hidle hnotPast => exact absurd ⟨d, _, hd, rfl, rfl⟩ hidle
  | inserted owner hrecorded howner hsingle hcounted hused hnotDone =>
      rw [← hsingle d _ hd rfl rfl, hd, Option.some.injEq, Delivery.mk.injEq] at howner
      exact absurd howner.2.2 (by decide)
  | completed owner hrecorded howner hsingle hcounted hused hnotDone =>
      rw [← hsingle d _ hd rfl rfl, hd, Option.some.injEq, Delivery.mk.injEq] at howner
      exact ⟨howner.1, hrecorded, hcounted, hused⟩
  | settled hsettled hidle => exact absurd ⟨d, _, hd, rfl, rfl⟩ hidle

/-- Nothing has been done for a request without a row. -/
theorem absent_of_not_recorded (h : RequestPhase jobs s requestId)
    (hnot : s.logs.contains requestId = false) :
    s.counted.count requestId = 0 ∧ s.usedCount requestId = 0 ∧ ¬ s.Counting requestId ∧
      ¬ s.ProcessAt requestId [.indexPayload, .markState, .done] := by
  cases h with
  | absent hrecorded hcounted hused hidle hnotPast => exact ⟨hcounted, hused, hidle, hnotPast⟩
  | inserted owner hrecorded howner hsingle hcounted hused hnotDone =>
      rw [hnot] at hrecorded
      contradiction
  | completed owner hrecorded howner hsingle hcounted hused hnotDone =>
      rw [hnot] at hrecorded
      contradiction
  | settled hsettled hidle =>
      have hrecorded := hsettled.recorded
      rw [hnot] at hrecorded
      contradiction

/-- Nobody else stands at the counters. -/
theorem single_of_counting (h : RequestPhase jobs s requestId) {d d' : DeliveryId}
    {delivery delivery' : Delivery} (hd : s.deliveries d = some delivery)
    (hid : delivery.requestId = requestId) (hcounting : delivery.stage.counting = true)
    (hd' : s.deliveries d' = some delivery') (hid' : delivery'.requestId = requestId)
    (hcounting' : delivery'.stage.counting = true) : d' = d := by
  cases h with
  | absent hrecorded hcounted hused hidle hnotPast =>
      exact absurd ⟨d, delivery, hd, hid, hcounting⟩ hidle
  | inserted owner hrecorded howner hsingle hcounted hused hnotDone =>
      exact (hsingle d' delivery' hd' hid' hcounting').trans
        (hsingle d delivery hd hid hcounting).symm
  | completed owner hrecorded howner hsingle hcounted hused hnotDone =>
      exact (hsingle d' delivery' hd' hid' hcounting').trans
        (hsingle d delivery hd hid hcounting).symm
  | settled hsettled hidle => exact absurd ⟨d, delivery, hd, hid, hcounting⟩ hidle

theorem notDone_of_counting (h : RequestPhase jobs s requestId)
    (hcounting : s.Counting requestId) : ¬ s.ProcessAt requestId [.done] := by
  cases h with
  | absent hrecorded hcounted hused hidle hnotPast => exact absurd hcounting hidle
  | inserted owner hrecorded howner hsingle hcounted hused hnotDone => exact hnotDone
  | completed owner hrecorded howner hsingle hcounted hused hnotDone => exact hnotDone
  | settled hsettled hidle => exact absurd hcounting hidle

/-- When the delivery at the counters leaves them, nobody stands there. -/
theorem idle_of_leave (h : RequestPhase jobs s requestId) {d : DeliveryId}
    {delivery : Delivery} {stage : DeliveryStage} (hd : s.deliveries d = some delivery)
    (hid : delivery.requestId = requestId) (hcounting : delivery.stage.counting = true)
    (hmove : t.deliveries = Function.update s.deliveries d (some { delivery with stage }))
    (hstage : stage.counting = false) : ¬ t.Counting requestId := by
  rintro ⟨d', delivery', hd', hid', hcounting'⟩
  rw [hmove] at hd'
  by_cases heq : d' = d
  · rw [heq, Function.update_self, Option.some.injEq] at hd'
    rw [← hd', hstage] at hcounting'
    contradiction
  · rw [Function.update_of_ne heq] at hd'
    exact heq (h.single_of_counting hd hid hcounting hd' hid' hcounting')

/-- The delivery at the counters leaves them with nothing left to count. -/
theorem settled_of_leave (h : RequestPhase jobs s requestId) {d : DeliveryId}
    {delivery : Delivery} {stage : DeliveryStage} (hd : s.deliveries d = some delivery)
    (hid : delivery.requestId = requestId) (hcounting : delivery.stage.counting = true)
    (hmove : t.deliveries = Function.update s.deliveries d (some { delivery with stage }))
    (hstage : stage.counting = false) (hsettled : t.Settled jobs requestId) :
    RequestPhase jobs t requestId :=
  .settled hsettled (h.idle_of_leave hd hid hcounting hmove hstage)

/-- The delivery at the first counter goes on to the second. -/
theorem completed_of_record (h : RequestPhase jobs s requestId) {d : DeliveryId}
    (hd : s.deliveries d = some ⟨.process, requestId, .recordCompletion⟩)
    (hmove : t.deliveries = Function.update s.deliveries d
      (some ⟨.process, requestId, .recordMonthlyUsage⟩))
    (recorded : t.logs.contains requestId = true) (counted : t.counted.count requestId = 1)
    (used : t.usedCount requestId = 0) : RequestPhase jobs t requestId := by
  refine .completed d recorded (by rw [hmove, Function.update_self])
    (fun d' delivery hd' hid' hcounting' => ?_) counted used ?_
  · by_contra hne
    rw [hmove, Function.update_of_ne hne] at hd'
    exact hne (h.single_of_counting hd rfl rfl hd' hid' hcounting')
  · rintro ⟨d', stage, hd', hstage⟩
    rw [hmove] at hd'
    by_cases heq : d' = d
    · rw [heq, Function.update_self, Option.some.injEq, Delivery.mk.injEq] at hd'
      rw [← hd'.2.2] at hstage
      simp at hstage
    · rw [Function.update_of_ne heq] at hd'
      exact h.notDone_of_counting ⟨d, _, hd, rfl, rfl⟩ ⟨d', stage, hd', hstage⟩

end RequestPhase

/-! ## Whole runs -/

/-- Every request is in a phase, a recorded request can be counted, and the daily
tables hold what was counted. -/
structure AccountingState.Inv (jobs : RequestId → RequestLogJob) (s : AccountingState) :
    Prop where
  phase : ∀ requestId, RequestPhase jobs s requestId
  fits : ∀ requestId, s.logs.contains requestId = true →
    (jobOf jobs requestId).completion.isSome = true
  tables : s.tables = DailyTables.empty.recordAll (s.counted.map (jobOf jobs))

namespace AccountingState.Inv

variable {jobs : RequestId → RequestLogJob} {s t : AccountingState} {d : DeliveryId}
  {delivery : Delivery} {fault : Fault}

theorem start (tokens : Int → Option TokenUsage) : (AccountingState.start tokens).Inv jobs where
  phase _ := .absent rfl rfl rfl (fun ⟨_, _, h, _⟩ => nomatch h)
    fun ⟨_, _, h, _⟩ => nomatch h
  fits _ h := nomatch h
  tables := rfl

/-- A delivery that fails where it has nothing to count. -/
theorem fail (h : s.Inv jobs) (hd : s.deliveries d = some delivery)
    (hstage : delivery.stage.counting = false) : (s.setStage d delivery .failed).Inv jobs where
  phase requestId := (h.phase requestId).move hd rfl rfl rfl rfl id fun _ =>
    ⟨hstage, rfl, fun _ hmem => by simp at hmem, fun _ hdone => by contradiction⟩
  fits := h.fits
  tables := h.tables

/-- The first insert of a request, by a delivery that goes on to count it. -/
theorem insertRow (h : s.Inv jobs) {requestId : RequestId} {row : RequestLogRow} {nextId : Nat}
    (hd : s.deliveries d = some ⟨.process, requestId, .writeSpine⟩)
    (hnew : s.logs.contains requestId = false) (hrow : StoredAs (jobOf jobs requestId) row) :
    ({ s with logs := ⟨s.logs.rows ++ [row], nextId⟩ }.setStage d
      ⟨.process, requestId, .writeSpine⟩ .recordCompletion).Inv jobs := by
  have hid : row.requestId = requestId := hrow.requestId
  refine ⟨fun other => ?_, fun other hrec => ?_, h.tables⟩
  · by_cases heq : other = requestId
    · subst heq
      obtain ⟨hcounted, hused, hidle, hnotPast⟩ := (h.phase other).absent_of_not_recorded hnew
      refine .inserted d ?_ (Function.update_self ..) (fun d' delivery hd' hid' hcounting => ?_)
        hcounted hused ?_
      · change RequestLogs.contains ⟨s.logs.rows ++ [row], nextId⟩ other = true
        rw [contains_append, hid, beq_self_eq_true, Bool.or_true]
      · by_contra hne
        rw [setStage_deliveries, Function.update_of_ne hne] at hd'
        exact hidle ⟨d', delivery, hd', hid', hcounting⟩
      · rintro ⟨d', stage, hd', hstage⟩
        rw [setStage_deliveries] at hd'
        by_cases heq : d' = d
        · rw [heq, Function.update_self, Option.some.injEq, Delivery.mk.injEq] at hd'
          rw [← hd'.2.2] at hstage
          simp at hstage
        · rw [Function.update_of_ne heq] at hd'
          exact hnotPast ⟨d', stage, hd', by simp [List.mem_singleton.mp hstage]⟩
    · refine (h.phase other).move hd rfl ?_ rfl rfl id fun hsame => absurd hsame.symm heq
      change RequestLogs.contains ⟨s.logs.rows ++ [row], nextId⟩ other = _
      rw [contains_append, hid, beq_false_of_ne fun h => heq h.symm, Bool.or_false]
  · change RequestLogs.contains ⟨s.logs.rows ++ [row], nextId⟩ other = true at hrec
    rw [contains_append, Bool.or_eq_true, beq_iff_eq, hid] at hrec
    rcases hrec with hold | rfl
    · exact h.fits other hold
    · rw [hrow.completion]
      rfl

/-- The insert finds the row, or inserts it for a delivery that goes on to count. -/
theorem atWriteSpine (h : s.Inv jobs) (hd : s.deliveries d = some delivery)
    (hstage : delivery.stage = .writeSpine) (hkeeps : s.KeepsCount jobs delivery fault) :
    (s.atWriteSpine jobs d delivery fault).Inv jobs := by
  have hidle : delivery.stage.counting = false := by rw [hstage]; rfl
  unfold AccountingState.atWriteSpine
  rcases writeSpine_cases s.logs (jobOf jobs delivery.requestId) delivery.kind.payloadState with
    hnone | ⟨hcontains, hwritten⟩ | ⟨hnew, row, hrow, hwritten⟩
  · rw [hnone]
    exact h.fail hd hidle
  · rw [hwritten]
    have hlogs : ∀ requestId, (fault.apply (fun _ => { s.logs with
        nextId := s.logs.nextId + 1 }) s.logs).contains requestId =
          s.logs.contains requestId := by
      intro requestId
      cases fault <;> rfl
    refine ⟨fun requestId => ?_, fun requestId hrec => h.fits requestId
      ((hlogs requestId).symm.trans hrec), h.tables⟩
    refine (h.phase requestId).move hd rfl (hlogs requestId) rfl rfl id fun heq => ?_
    refine ⟨hidle, ?_, fun _ _ => Or.inr (heq ▸ hcontains), fun hkind hdone => ?_⟩
    · cases delivery.kind <;> cases fault <;> rfl
    · rw [hkind] at hdone
      cases fault <;> contradiction
  · rw [hwritten]
    simp only [AccountingState.KeepsCount, hstage] at hkeeps
    cases fault with
    | rejected => exact h.fail hd hidle
    | lost => exact absurd (hkeeps hnew rfl).2 (by simp)
    | none =>
        have hkind := (hkeeps hnew rfl).1
        obtain ⟨kind, requestId, stage⟩ := delivery
        simp only at hkind hstage
        subst hkind hstage
        exact h.insertRow hd hnew hrow

/-- `recordCompletion` of a recorded request commits under `KeepsCount`. -/
theorem atRecordCompletion_eq {requestId : RequestId} {c : Completion}
    (hc : (jobOf jobs requestId).completion = some c) (hexecutes : fault.executes = true) :
    s.atRecordCompletion jobs d ⟨.process, requestId, .recordCompletion⟩ fault =
      { s with tables := s.tables.add c, counted := s.counted ++ [requestId] }.continueAt d
        ⟨.process, requestId, .recordCompletion⟩ fault
        (if (jobs requestId).accessTokenId.isSome then .recordMonthlyUsage
        else .indexPayload) := by
  rw [AccountingState.atRecordCompletion, recordCompletion_eq, hc]
  simp only [Option.map_some, Fault.apply, if_pos hexecutes]

/-- The request whose completion is recorded has its usage left, or nothing. -/
theorem phase_of_record {requestId : RequestId} {c : Completion} (h : s.Inv jobs)
    (hd : s.deliveries d = some ⟨.process, requestId, .recordCompletion⟩)
    (hkeeps : fault = .none ∨ (fault = .lost ∧ s.usedToken jobs requestId = none)) :
    RequestPhase jobs
      ({ s with tables := s.tables.add c, counted := s.counted ++ [requestId] }.continueAt d
        ⟨.process, requestId, .recordCompletion⟩ fault
        (if (jobs requestId).accessTokenId.isSome then .recordMonthlyUsage
        else .indexPayload)) requestId := by
  have hphase := h.phase requestId
  obtain ⟨-, hrecorded, hcounted, hused⟩ := hphase.owner_recordCompletion hd
  have hone : (s.counted ++ [requestId]).count requestId = 1 := by
    rw [List.count_append, hcounted, List.count_singleton_self]
  rcases hkeeps with rfl | ⟨rfl, htoken⟩
  · cases htoken : (jobs requestId).accessTokenId with
    | none =>
        refine hphase.settled_of_leave hd rfl rfl rfl rfl ⟨hrecorded, hone, fun hsome => ?_⟩
        refine absurd ?_ hsome
        rw [AccountingState.usedToken, htoken]
        rfl
    | some accessTokenId => exact hphase.completed_of_record hd rfl hrecorded hone hused
  · exact hphase.settled_of_leave hd rfl rfl rfl rfl
      ⟨hrecorded, hone, fun hsome => absurd htoken hsome⟩

/-- A completion is counted once, by the delivery that inserted the row. -/
theorem atRecordCompletion (h : s.Inv jobs) (hd : s.deliveries d = some delivery)
    (hstage : delivery.stage = .recordCompletion) (hkeeps : s.KeepsCount jobs delivery fault) :
    (s.atRecordCompletion jobs d delivery fault).Inv jobs := by
  obtain ⟨kind, requestId, stage⟩ := delivery
  subst hstage
  obtain ⟨rfl, hrecorded, -⟩ := (h.phase requestId).owner_recordCompletion hd
  rcases Option.isSome_iff_exists.mp (h.fits requestId hrecorded) with ⟨c, hc⟩
  simp only [AccountingState.KeepsCount] at hkeeps
  have hexecutes : fault.executes = true := by
    rcases hkeeps with rfl | ⟨rfl, -⟩ <;> rfl
  rw [atRecordCompletion_eq hc hexecutes]
  refine ⟨fun other => ?_, h.fits, ?_⟩
  · by_cases heq : other = requestId
    · subst heq
      exact h.phase_of_record hd hkeeps
    · refine (h.phase other).move_other hd heq rfl rfl ?_ rfl id
      change (s.counted ++ [requestId]).count other = s.counted.count other
      rw [List.count_append, List.count_singleton, beq_false_of_ne fun h => heq h.symm]
      rfl
  · change s.tables.add c = _
    rw [h.tables, recordAll_eq, recordAll_eq]
    change _ = (((s.counted ++ [requestId]).map (jobOf jobs)).filterMap (·.completion)).foldl _ _
    rw [List.map_append, List.filterMap_append, List.foldl_append]
    simp [hc]

/-- The usage of a request is recorded on its token. -/
theorem recordUsage {requestId : RequestId} {accessTokenId : Int} {row : TokenUsage}
    {stage : DeliveryStage} (h : s.Inv jobs)
    (hd : s.deliveries d = some ⟨.process, requestId, .recordMonthlyUsage⟩)
    (htoken : s.usedToken jobs requestId = some (accessTokenId, row))
    (hstage : stage.counting = false) :
    ({ s with
      tokens := Function.update s.tokens accessTokenId (some (row.increment s.currentPeriod))
      used := s.used ++ [(requestId, s.currentPeriod)] }.setStage d
        ⟨.process, requestId, .recordMonthlyUsage⟩ stage).Inv jobs := by
  obtain ⟨-, hrecorded, hcounted, hused⟩ := (h.phase requestId).owner_recordMonthlyUsage hd
  refine ⟨fun other => ?_, h.fits, h.tables⟩
  have hcount : ((s.used ++ [(requestId, s.currentPeriod)]).map Prod.fst).count other =
      s.usedCount other + [requestId].count other := by
    rw [List.map_append, List.count_append]
    rfl
  by_cases heq : other = requestId
  · subst heq
    refine (h.phase other).settled_of_leave hd rfl rfl rfl hstage
      ⟨hrecorded, hcounted, fun _ => hcount.trans ?_⟩
    rw [hused, List.count_singleton_self]
  · refine (h.phase other).move_other hd heq rfl rfl rfl (hcount.trans ?_) fun hsome => ?_
    · rw [List.count_singleton, beq_false_of_ne fun h => heq h.symm]
      rfl
    · rw [usedToken_ne_none] at hsome ⊢
      rcases hsome with ⟨otherId, hid, hrow⟩
      refine ⟨otherId, hid, fun hnone => hrow ?_⟩
      have hne : otherId ≠ accessTokenId := fun heq => by
        rw [heq, (usedToken_eq_some.mp htoken).2] at hnone
        contradiction
      exact (Function.update_of_ne hne ..).trans hnone

/-- The usage is recorded once, by the delivery that counted the completion. -/
theorem atRecordMonthlyUsage (h : s.Inv jobs) (hd : s.deliveries d = some delivery)
    (hstage : delivery.stage = .recordMonthlyUsage) (hkeeps : s.KeepsCount jobs delivery fault) :
    (s.atRecordMonthlyUsage jobs d delivery fault).Inv jobs := by
  obtain ⟨kind, requestId, stage⟩ := delivery
  subst hstage
  obtain ⟨rfl, hrecorded, hcounted, -⟩ := (h.phase requestId).owner_recordMonthlyUsage hd
  simp only [AccountingState.KeepsCount] at hkeeps
  have hidle : (if fault.throws then DeliveryStage.failed else .indexPayload).counting = false := by
    cases fault <;> rfl
  unfold AccountingState.atRecordMonthlyUsage
  cases htoken : s.usedToken jobs requestId with
  | none =>
      refine ⟨fun other => ?_, h.fits, h.tables⟩
      by_cases heq : other = requestId
      · subst heq
        exact (h.phase other).settled_of_leave hd rfl rfl rfl hidle
          ⟨hrecorded, hcounted, fun hsome => absurd htoken hsome⟩
      · exact (h.phase other).move_other hd heq rfl rfl rfl rfl id
  | some found =>
      have hexecutes : fault.executes = true := by
        rcases hkeeps with hexecutes | hnone
        · exact hexecutes
        · rw [htoken] at hnone
          contradiction
      simp only [Fault.apply, if_pos hexecutes]
      exact h.recordUsage hd htoken hidle

/-- Manticore leaves the tables alone. -/
theorem atIndexPayload (h : s.Inv jobs) (hd : s.deliveries d = some delivery)
    (hstage : delivery.stage = .indexPayload) :
    (s.continueAt d delivery fault .markState).Inv jobs := by
  refine ⟨fun requestId => ?_, h.fits, h.tables⟩
  refine (h.phase requestId).move hd rfl rfl rfl rfl id fun _ => ?_
  refine ⟨by rw [hstage]; rfl, by cases fault <;> rfl, fun _ _ => ?_, fun _ hdone => ?_⟩
  · exact Or.inl (by simp [hstage])
  · cases fault <;> contradiction

/-- A delivery succeeds when the counting of its request is over. -/
theorem atMarkState (h : s.Inv jobs) (hd : s.deliveries d = some delivery)
    (hstage : delivery.stage = .markState) (hkeeps : s.KeepsCount jobs delivery fault) :
    (s.atMarkState d delivery fault).Inv jobs := by
  simp only [AccountingState.KeepsCount, hstage] at hkeeps
  have hlogs : ∀ requestId, (s.atMarkState d delivery fault).logs.contains requestId =
      s.logs.contains requestId := by
    intro requestId
    cases fault with
    | rejected => rfl
    | none => exact contains_markState _ _ _ _
    | lost => exact contains_markState _ _ _ _
  refine ⟨fun requestId => ?_, fun requestId hrec => h.fits requestId
    ((hlogs requestId).symm.trans hrec), h.tables⟩
  refine (h.phase requestId).move hd rfl (hlogs requestId) rfl rfl id fun hid => ?_
  refine ⟨by rw [hstage]; rfl, by cases fault <;> rfl, fun _ _ => ?_, fun hkind hdone => ?_⟩
  · exact Or.inl (by simp [hstage])
  · cases fault with
    | none => exact hid ▸ hkeeps hkind rfl
    | rejected => contradiction
    | lost => contradiction

theorem advance (h : s.Inv jobs) (hd : s.deliveries d = some delivery)
    (hkeeps : s.KeepsCount jobs delivery fault)
    (hstep : s.advance jobs d delivery fault = some t) : t.Inv jobs := by
  unfold AccountingState.advance at hstep
  cases hstage : delivery.stage with
  | writeSpine =>
      simp only [hstage, Option.some.injEq] at hstep
      exact hstep ▸ h.atWriteSpine hd hstage hkeeps
  | recordCompletion =>
      simp only [hstage, Option.some.injEq] at hstep
      exact hstep ▸ h.atRecordCompletion hd hstage hkeeps
  | recordMonthlyUsage =>
      simp only [hstage, Option.some.injEq] at hstep
      exact hstep ▸ h.atRecordMonthlyUsage hd hstage hkeeps
  | indexPayload =>
      simp only [hstage, Option.some.injEq] at hstep
      exact hstep ▸ h.atIndexPayload hd hstage
  | markState =>
      simp only [hstage, Option.some.injEq] at hstep
      exact hstep ▸ h.atMarkState hd hstage hkeeps
  | done => simp [hstage] at hstep
  | failed => simp [hstage] at hstep

/-- A worker dies. -/
theorem crash (h : s.Inv jobs) (hd : s.deliveries d = some delivery)
    (hkeeps : s.KeepsCountOnCrash jobs delivery) : (s.setStage d delivery .failed).Inv jobs := by
  obtain ⟨kind, requestId, stage⟩ := delivery
  cases stage with
  | recordCompletion => exact absurd hkeeps id
  | recordMonthlyUsage =>
      obtain ⟨rfl, hrecorded, hcounted, -⟩ := (h.phase requestId).owner_recordMonthlyUsage hd
      refine ⟨fun other => ?_, h.fits, h.tables⟩
      by_cases heq : other = requestId
      · subst heq
        exact (h.phase other).settled_of_leave hd rfl rfl rfl rfl
          ⟨hrecorded, hcounted, fun hsome => absurd hkeeps hsome⟩
      · exact (h.phase other).move_other hd heq rfl rfl rfl rfl id
  | writeSpine | indexPayload | markState | done | failed => exact h.fail hd rfl

/-- A new delivery starts before the insert of its row. -/
theorem startDelivery {kind : DeliveryKind} {requestId : RequestId} (h : s.Inv jobs)
    (hd : s.deliveries d = none) :
    ({ s with
      deliveries := Function.update s.deliveries d
        (some ⟨kind, requestId, .writeSpine⟩) } : AccountingState).Inv jobs := by
  have hother : ∀ d' delivery, Function.update s.deliveries d
      (some ⟨kind, requestId, .writeSpine⟩) d' = some delivery →
      delivery.stage ≠ .writeSpine → s.deliveries d' = some delivery := by
    intro d' delivery hd' hstage
    by_cases heq : d' = d
    · rw [heq, Function.update_self, Option.some.injEq] at hd'
      exact absurd (congrArg Delivery.stage hd').symm hstage
    · rwa [Function.update_of_ne heq] at hd'
  refine ⟨fun other => ?_, h.fits, h.tables⟩
  refine (h.phase other).frame rfl rfl rfl id (fun d' delivery hd' _ _ => ?_)
    (fun d' delivery hd' _ hcounting => hother d' delivery hd' ?_) ?_ ?_
  · have hne : d' ≠ d := fun heq => by
      rw [heq, hd] at hd'
      contradiction
    exact (Function.update_of_ne hne ..).trans hd'
  · intro hstage
    rw [hstage] at hcounting
    contradiction
  · rintro ⟨d', stage, hd', hstage⟩
    refine Or.inl ⟨d', stage, hother d' _ hd' fun heq => ?_, hstage⟩
    change stage = .writeSpine at heq
    simp [heq] at hstage
  · rintro ⟨d', stage, hd', hstage⟩
    refine Or.inl ⟨d', stage, hother d' _ hd' fun heq => ?_, hstage⟩
    change stage = .writeSpine at heq
    simp [heq] at hstage

/-- A deleted token has no usage left to record. -/
theorem deleteToken (h : s.Inv jobs) (accessTokenId : Int) :
    ({ s with tokens := Function.update s.tokens accessTokenId none } :
      AccountingState).Inv jobs := by
  refine ⟨fun other => ?_, h.fits, h.tables⟩
  refine (h.phase other).frame rfl rfl rfl (fun hsome => ?_) (fun _ _ hd _ _ => hd)
    (fun _ _ hd _ _ => hd) Or.inl Or.inl
  rw [usedToken_ne_none] at hsome ⊢
  rcases hsome with ⟨otherId, hid, hrow⟩
  refine ⟨otherId, hid, fun hnone => hrow ?_⟩
  change Function.update s.tokens accessTokenId none otherId = none
  by_cases heq : otherId = accessTokenId
  · rw [heq, Function.update_self]
  · rw [Function.update_of_ne heq]
    exact hnone

theorem step (h : s.Inv jobs) {a : AccountingAction} (hcondition : AccountingCondition jobs s a)
    (hstep : (accountingMachine jobs).step s a = some t) : t.Inv jobs := by
  cases a with
  | start d kind requestId =>
      simp only [accountingMachine] at hstep
      split at hstep
      · contradiction
      next hd => exact Option.some.inj hstep ▸ h.startDelivery hd
  | advance d fault =>
      rcases Option.bind_eq_some_iff.mp hstep with ⟨delivery, hd, hadvance⟩
      exact h.advance hd (hcondition delivery hd) hadvance
  | crash d =>
      rcases Option.map_eq_some_iff.mp hstep with ⟨delivery, hd, rfl⟩
      exact h.crash hd (hcondition delivery hd)
  | deleteToken accessTokenId => exact Option.some.inj hstep ▸ h.deleteToken accessTokenId
  | nextPeriod =>
      rw [← Option.some.inj hstep]
      exact ⟨fun other => (h.phase other).frame rfl rfl rfl id (fun _ _ hd _ _ => hd)
        (fun _ _ hd _ _ => hd) Or.inl Or.inl, h.fits, h.tables⟩

end AccountingState.Inv

/-! ## The usage of a token -/

namespace AccountingState

variable {jobs : RequestId → RequestLogJob} {s t : AccountingState} {d : DeliveryId}
  {delivery : Delivery} {fault : Fault} {tokens : Int → Option TokenUsage}

/-- A token that is not deleted has the usages recorded on it since the start. -/
def UsageRecorded (jobs : RequestId → RequestLogJob) (tokens : Int → Option TokenUsage)
    (s : AccountingState) : Prop :=
  ∀ accessTokenId, s.tokens accessTokenId = none ∨
    s.tokens accessTokenId = (tokens accessTokenId).map fun row =>
      (s.periodsOf jobs accessTokenId).foldl (fun row period => row.increment period) row

/-- A usage is recorded on the token of its job. -/
theorem UsageRecorded.record (h : s.UsageRecorded jobs tokens) {requestId : RequestId}
    {accessTokenId : Int} {row : TokenUsage}
    (htoken : s.usedToken jobs requestId = some (accessTokenId, row))
    (htokens : t.tokens =
      Function.update s.tokens accessTokenId (some (row.increment s.currentPeriod)))
    (hused : t.used = s.used ++ [(requestId, s.currentPeriod)]) : t.UsageRecorded jobs tokens := by
  obtain ⟨hid, hrow⟩ := usedToken_eq_some.mp htoken
  intro otherId
  have hperiods : t.periodsOf jobs otherId = s.periodsOf jobs otherId ++
      if otherId = accessTokenId then [s.currentPeriod] else [] := by
    simp only [periodsOf, hused, List.filterMap_append, List.filterMap_cons, List.filterMap_nil,
      hid, Option.some.injEq, eq_comm (a := accessTokenId)]
    by_cases heq : otherId = accessTokenId <;> simp [heq]
  rw [hperiods, htokens]
  by_cases heq : otherId = accessTokenId
  · subst heq
    refine Or.inr ?_
    rcases h otherId with hnone | hold
    · rw [hnone] at hrow
      contradiction
    · rw [hrow, eq_comm, Option.map_eq_some_iff] at hold
      rcases hold with ⟨first, hfirst, hrow⟩
      rw [Function.update_self, hfirst, if_pos rfl, Option.map_some, List.foldl_append, hrow]
      rfl
  · rw [Function.update_of_ne heq, if_neg heq, List.append_nil]
    exact h otherId

theorem UsageRecorded.step (h : s.UsageRecorded jobs tokens) {a : AccountingAction}
    (hstep : (accountingMachine jobs).step s a = some t) : t.UsageRecorded jobs tokens := by
  cases a with
  | start d kind requestId =>
      simp only [accountingMachine] at hstep
      split at hstep
      · contradiction
      · exact Option.some.inj hstep ▸ h
  | advance d fault =>
      rcases Option.bind_eq_some_iff.mp hstep with ⟨delivery, -, hadvance⟩
      rcases advance_tokens hadvance with ⟨htokens, hused⟩ | ⟨_, _, htoken, htokens, hused⟩
      · intro accessTokenId
        rw [htokens, periodsOf, hused]
        exact h accessTokenId
      · exact h.record htoken htokens hused
  | crash d =>
      rcases Option.map_eq_some_iff.mp hstep with ⟨delivery, -, rfl⟩
      exact h
  | deleteToken accessTokenId =>
      rw [← Option.some.inj hstep]
      intro otherId
      change Function.update s.tokens accessTokenId none otherId = none ∨
        Function.update s.tokens accessTokenId none otherId = _
      by_cases heq : otherId = accessTokenId
      · rw [heq, Function.update_self]
        exact Or.inl rfl
      · rw [Function.update_of_ne heq]
        exact h otherId
  | nextPeriod => exact Option.some.inj hstep ▸ h

/-- Every run keeps the tokens in step with the log of usages. -/
theorem usageRecorded_of_run {as : List AccountingAction}
    (hrun : (accountingMachine jobs).run (.start tokens) as = some s) :
    s.UsageRecorded jobs tokens :=
  Machine.run_invariant (fun h hstep => UsageRecorded.step h hstep)
    (fun accessTokenId => Or.inr (by simp [periodsOf, start])) hrun

end AccountingState

/-- In every run whose steps lose no count, when some delivery of a request has
succeeded, its completion has been counted once in the daily tables, and its usage
once on its token unless that has been deleted. -/
theorem accounted_exactly_once (jobs : RequestId → RequestLogJob)
    (tokens : Int → Option TokenUsage) (as : List AccountingAction) (s : AccountingState)
    (hrun : (accountingMachine jobs).run (.start tokens) as = some s)
    (hmeets : (accountingMachine jobs).Meets (AccountingCondition jobs) (.start tokens) as) :
    s.tables = DailyTables.empty.recordAll (s.counted.map (jobOf jobs)) ∧
      s.UsageRecorded jobs tokens ∧
      ∀ d requestId, s.deliveries d = some ⟨.process, requestId, .done⟩ →
        s.counted.count requestId = 1 ∧
          ∀ accessTokenId, (jobs requestId).accessTokenId = some accessTokenId →
            s.tokens accessTokenId ≠ none → s.usedCount requestId = 1 := by
  have hinv : s.Inv jobs :=
    hmeets.invariant (fun h hcondition hstep => h.step hcondition hstep) (.start tokens) hrun
  refine ⟨hinv.tables, AccountingState.usageRecorded_of_run hrun, fun d requestId hdone => ?_⟩
  cases hinv.phase requestId with
  | absent hrecorded hcounted hused hidle hnotPast =>
      exact absurd ⟨d, .done, hdone, by simp⟩ hnotPast
  | inserted owner hrecorded howner hsingle hcounted hused hnotDone =>
      exact absurd ⟨d, .done, hdone, by simp⟩ hnotDone
  | completed owner hrecorded howner hsingle hcounted hused hnotDone =>
      exact absurd ⟨d, .done, hdone, by simp⟩ hnotDone
  | settled hsettled hidle =>
      exact ⟨hsettled.counted, fun accessTokenId hid halive => hsettled.used
        (AccountingState.usedToken_ne_none.mpr ⟨accessTokenId, hid, halive⟩)⟩

/-- Every request is of one device and one token. -/
def sampleJobs (requestId : RequestId) : RequestLogJob :=
  { sampleJob requestId (some "device-a") "ok" (some 10) with accessTokenId := some 5 }

def sampleTokens (accessTokenId : Int) : Option TokenUsage :=
  if accessTokenId = 5 then some ⟨7, 0⟩ else none

/-- A job is delivered again when Manticore has failed. -/
def sampleDeliveries : List AccountingAction :=
  [.start 0 .process 1, .advance 0 .none, .advance 0 .none, .advance 0 .none,
    .advance 0 .rejected, .start 1 .process 1, .advance 1 .none, .advance 1 .none,
    .advance 1 .none]

theorem accounted_exactly_once_sample :
    ∃ s, (accountingMachine sampleJobs).run (.start sampleTokens) sampleDeliveries = some s ∧
      s.counted.count 1 = 1 ∧ s.usedCount 1 = 1 ∧ s.tokens 5 = some ⟨8, 0⟩ := by
  refine ⟨_, rfl, ?_⟩
  have hmeets : (accountingMachine sampleJobs).Meets (AccountingCondition sampleJobs)
      (.start sampleTokens) sampleDeliveries := by
    have hof : ∀ {P : Delivery → Prop} {found : Delivery}, P found →
        ∀ delivery, some found = some delivery → P delivery :=
      fun h _ heq => Option.some.inj heq ▸ h
    refine ⟨trivial, fun _ hstep => Option.some.inj hstep ▸ ?_⟩
    refine ⟨hof fun _ _ => ⟨rfl, rfl⟩, fun _ hstep => Option.some.inj hstep ▸ ?_⟩
    refine ⟨hof (Or.inl rfl), fun _ hstep => Option.some.inj hstep ▸ ?_⟩
    refine ⟨hof (Or.inl rfl), fun _ hstep => Option.some.inj hstep ▸ ?_⟩
    refine ⟨hof trivial, fun _ hstep => Option.some.inj hstep ▸ ?_⟩
    refine ⟨trivial, fun _ hstep => Option.some.inj hstep ▸ ?_⟩
    refine ⟨hof (fun hnew => nomatch hnew), fun _ hstep => Option.some.inj hstep ▸ ?_⟩
    refine ⟨hof trivial, fun _ hstep => Option.some.inj hstep ▸ ?_⟩
    refine ⟨hof fun _ _ => ?_, fun _ _ => trivial⟩
    -- Neither delivery stands at a counter.
    rintro ⟨d, delivery, hd, -, hcounting⟩
    match d with
    | 0 => exact absurd hcounting (Option.some.inj hd ▸ by decide)
    | 1 => exact absurd hcounting (Option.some.inj hd ▸ by decide)
    | d + 2 => contradiction
  have h := (accounted_exactly_once sampleJobs sampleTokens sampleDeliveries _ rfl hmeets).2.2 1 1
    rfl
  exact ⟨h.1, h.2 5 rfl (Option.some_ne_none _), rfl⟩

/-- The completion of a request is rejected after its row has been inserted; the next
delivery finds the row, counts nothing and succeeds. -/
theorem completed_uncounted :
    ∃ s, (accountingMachine sampleJobs).run (.start sampleTokens)
        [.start 0 .process 1, .advance 0 .none, .advance 0 .rejected,
          .start 1 .process 1, .advance 1 .none, .advance 1 .none, .advance 1 .none] = some s ∧
      s.deliveries 1 = some ⟨.process, 1, .done⟩ ∧ s.tables = .empty ∧
      s.tokens 5 = some ⟨7, 0⟩ :=
  ⟨_, rfl, rfl, rfl, rfl⟩

end Metrics
end R2RPC
