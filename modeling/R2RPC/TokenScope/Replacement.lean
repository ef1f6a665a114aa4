import R2RPC.TokenScope.Transactions

/-!
# Replacing the projects of a token

Two calls replace the project rows of one token in the transactions of
{lit}`R2RPC.TokenScope.Transactions`. A {lit}`DELETE` that starts while the other call
replaces rows does not see the rows of that call, so the rows of both stay.

Main results:

- Theorem {lit}`ReplacementState.Inv.step`: what holds of their rows in every run.
- Theorem {lit}`scope_replaced_iff`: when the final scope is that of one call.
- Theorem {lit}`policy_updates_replace`: the row lock of an {lit}`UPDATE` is enough.
-/

namespace R2RPC
namespace TokenScope

open Interleaving ReadCommitted
open AccessToken (HttpError)

/-! ## What the calls have written -/

section Invariants

variable {calls : CallId → ScopeCall} {s t : ReplacementState} {call : CallId}
  {a : ReplacementAction}

/-- What a call has written, by its stage. -/
inductive CallPhase (calls : CallId → ScopeCall) (s : ReplacementState) (call : CallId) : Prop where
  | idle (stage : (s.stage call).replacing = false)
      (writes : ∀ k version, (s.projects.cell k).pending ≠ some (call, version))
  /-- It has only deleted, and saw no row of a call that is still open. -/
  | deleting (scan : DeleteScan ProjectId CallId Unit) (stage : s.stage call = .deleting scan)
      (writes : ∀ k version, (s.projects.cell k).pending = some (call, version) → version = none)
      (seen : ∀ k version creator, scan.seen k = some version → version.creator = some creator →
        s.stage creator = .committed)
  /-- It holds the rows that it has inserted. -/
  | inserting (remaining inserted : List ProjectId) (stage : s.stage call = .inserting remaining)
      (ids : (calls call).projectIds = inserted ++ remaining)
      (writes : ∀ k version, (s.projects.cell k).pending = some (call, some version) →
        version.creator = some call)
      (held : ∀ k ∈ inserted, (s.projects.cell k).pending = some (call, some ⟨some call, ()⟩))

theorem CallPhase.of_idle (h : CallPhase calls s call)
    (hidle : (s.stage call).replacing = false) (k : ProjectId)
    (version : Option (Version CallId Unit)) :
    (s.projects.cell k).pending ≠ some (call, version) := by
  cases h with
  | idle stage writes => exact writes k version
  | deleting scan stage => simp [stage, CallStage.replacing] at hidle
  | inserting remaining inserted stage => simp [stage, CallStage.replacing] at hidle

theorem CallPhase.of_deleting {scan : DeleteScan ProjectId CallId Unit}
    (h : CallPhase calls s call) (hscan : s.stage call = .deleting scan) :
    (∀ k version, (s.projects.cell k).pending = some (call, version) → version = none) ∧
    ∀ k version creator, scan.seen k = some version → version.creator = some creator →
      s.stage creator = .committed := by
  cases h with
  | idle stage => simp [hscan, CallStage.replacing] at stage
  | deleting scan' stage writes seen =>
      obtain rfl : scan = scan' := by simpa [hscan] using stage
      exact ⟨writes, seen⟩
  | inserting remaining inserted stage => simp [hscan] at stage

theorem CallPhase.of_inserting {remaining : List ProjectId} (h : CallPhase calls s call)
    (hremaining : s.stage call = .inserting remaining) :
    ∃ inserted, (calls call).projectIds = inserted ++ remaining ∧
      (∀ k version, (s.projects.cell k).pending = some (call, some version) →
        version.creator = some call) ∧
      ∀ k ∈ inserted, (s.projects.cell k).pending = some (call, some ⟨some call, ()⟩) := by
  cases h with
  | idle stage => simp [hremaining, CallStage.replacing] at stage
  | deleting scan stage => simp [hremaining] at stage
  | inserting remaining' inserted stage ids writes held =>
      obtain rfl : remaining = remaining' := by simpa [hremaining] using stage
      exact ⟨inserted, ids, writes, held⟩

/-- What a call has written is kept by the steps of the other. -/
theorem CallPhase.frame (h : CallPhase calls s call) (hstage : t.stage call = s.stage call)
    (hpending : ∀ k version, (t.projects.cell k).pending = some (call, version) ↔
      (s.projects.cell k).pending = some (call, version))
    (hcommitted : ∀ c, s.stage c = .committed → t.stage c = .committed) :
    CallPhase calls t call := by
  cases h with
  | idle stage writes =>
      exact .idle (hstage ▸ stage) fun k version hk => writes k version ((hpending ..).mp hk)
  | deleting scan stage writes seen =>
      exact .deleting scan (hstage ▸ stage)
        (fun k version hk => writes k version ((hpending ..).mp hk))
        fun k version creator hseen hcreator => hcommitted _ (seen k version creator hseen hcreator)
  | inserting remaining inserted stage ids writes held =>
      exact .inserting remaining inserted (hstage ▸ stage) ids
        (fun k version hk => writes k version ((hpending ..).mp hk))
        fun k hk => (hpending ..).mpr (held k hk)

namespace ReplacementState

@[simp]
theorem setStage_self (stage : CallStage) : (s.setStage call stage).stage call = stage :=
  Function.update_self ..

theorem setStage_of_ne (stage : CallStage) {c : CallId} (hne : c ≠ call) :
    (s.setStage call stage).stage c = s.stage c :=
  Function.update_of_ne hne ..

/-- Every call holds what its stage says, and a committed row was there before both
calls or is of a call that has committed. -/
structure Inv (calls : CallId → ScopeCall) (s : ReplacementState) : Prop where
  phase : ∀ call, CallPhase calls s call
  creator : ∀ k version creator, (s.projects.cell k).committed = some version →
    version.creator = some creator → s.stage creator = .committed

namespace Inv

theorem start (policy : TokenPolicy) (projectIds : Finset ProjectId) :
    (ReplacementState.start policy projectIds).Inv calls where
  phase call := .idle rfl fun k version hk => by
    rw [ReplacementState.start, Table.pending_ofRows] at hk
    contradiction
  creator k version creator hk hcreator := by
    rw [Table.creator_ofRows hk] at hcreator
    contradiction

/-- A call that has not committed moves, and the other one keeps what it holds. -/
theorem move (call : CallId) (h : s.Inv calls) (hopen : s.stage call ≠ .committed)
    (hstage : ∀ c ≠ call, t.stage c = s.stage c)
    (hpending : ∀ c ≠ call, ∀ k version, (t.projects.cell k).pending = some (c, version) ↔
      (s.projects.cell k).pending = some (c, version))
    (hcreator : ∀ k version creator, (t.projects.cell k).committed = some version →
      version.creator = some creator →
        (s.projects.cell k).committed = some version ∨ t.stage creator = .committed)
    (hphase : CallPhase calls t call) : t.Inv calls := by
  have hcommitted : ∀ c, s.stage c = .committed → t.stage c = .committed := by
    intro c hc
    rw [hstage c fun heq => hopen (heq ▸ hc)]
    exact hc
  constructor
  · intro c
    by_cases heq : c = call
    · exact heq ▸ hphase
    · exact (h.phase c).frame (hstage c heq) (hpending c heq) hcommitted
  · intro k version creator hk hversion
    rcases hcreator k version creator hk hversion with hold | hnew
    · exact hcommitted creator (h.creator k version creator hold hversion)
    · exact hnew

/-- A call goes on without a write to the project rows. -/
theorem stay {token : Cell CallId TokenPolicy} {stage : CallStage} (h : s.Inv calls)
    (hopen : s.stage call ≠ .committed)
    (hphase : CallPhase calls ({ s with token }.setStage call stage) call) :
    ({ s with token }.setStage call stage).Inv calls :=
  h.move call hopen (fun _ hne => setStage_of_ne _ hne) (fun _ _ _ _ => Iff.rfl)
    (fun _ _ _ hk _ => Or.inl hk) hphase

/-- A call goes on with a write to a row that no other call holds. -/
theorem write {projectId : ProjectId} {version : Option (Version CallId Unit)}
    {stage : CallStage} (h : s.Inv calls) (hopen : s.stage call ≠ .committed)
    (unlocked : (s.projects.cell projectId).locked call = false)
    (hphase : CallPhase calls ({ s with
      projects := s.projects.set projectId
        ((s.projects.cell projectId).write call version) }.setStage call stage) call) :
    ({ s with
      projects := s.projects.set projectId
        ((s.projects.cell projectId).write call version) }.setStage call stage).Inv calls := by
  refine h.move call hopen (fun _ hne => setStage_of_ne _ hne)
    (fun _ hne _ _ => Table.pending_set_write unlocked hne) (fun _ _ _ hk _ => ?_) hphase
  exact Or.inl (Table.committed_set_write.symm.trans hk)

theorem beforeDelete {token : Cell CallId TokenPolicy} {stage : CallStage} (h : s.Inv calls)
    (hidle : (s.stage call).replacing = false) (hopen : s.stage call ≠ .committed)
    (hstage : stage.replacing = false) : ({ s with token }.setStage call stage).Inv calls :=
  h.stay hopen (.idle (by rw [setStage_self]; exact hstage) ((h.phase call).of_idle hidle))

/-- The creators of the rows that a `DELETE` sees stay committed when the call goes on. -/
theorem seen_setStage {stage : CallStage} {creator : CallId}
    (hopen : s.stage call ≠ .committed) (hcommitted : s.stage creator = .committed) :
    (s.setStage call stage).stage creator = .committed :=
  (setStage_of_ne stage fun heq : creator = call => hopen (heq ▸ hcommitted)).trans hcommitted

theorem startDelete (h : s.Inv calls) (before : s.stage call = .deleteProjects) :
    (s.setStage call (.deleting (s.projects.scan call fun _ => true))).Inv calls := by
  have hwrites := (h.phase call).of_idle (by rw [before]; rfl)
  have hopen : s.stage call ≠ .committed := by simp [before]
  refine h.stay hopen (.deleting _ (setStage_self _)
    (fun k version hk => absurd hk (hwrites k version)) fun k version creator hseen hcreator => ?_)
  change (s.projects.cell k).view call = some version at hseen
  rw [Cell.view_eq_committed (hwrites k)] at hseen
  exact seen_setStage hopen (h.creator k version creator hseen hcreator)

theorem deleteRow {projectId : ProjectId} {scan scan' : DeleteScan ProjectId CallId Unit}
    (h : s.Inv calls) (before : s.stage call = .deleting scan) (hseen : scan'.seen = scan.seen)
    (unlocked : (s.projects.cell projectId).locked call = false) :
    ({ s with
      projects := s.projects.set projectId
        ((s.projects.cell projectId).write call none) }.setStage call
          (.deleting scan')).Inv calls := by
  have hopen : s.stage call ≠ .committed := by simp [before]
  obtain ⟨hwrites, hcommitted⟩ := (h.phase call).of_deleting before
  refine h.write hopen unlocked (.deleting _ (setStage_self _) (fun k version hk => ?_)
    fun k version creator hk hcreator => ?_)
  · by_cases heq : k = projectId
    · subst heq
      change ((s.projects.set k _).cell k).pending = _ at hk
      rw [Table.cell_set_self, Cell.pending_write, Option.some.injEq, Prod.mk.injEq] at hk
      exact hk.2.symm
    · exact hwrites k version (by rwa [← Table.cell_set_of_ne heq])
  · exact seen_setStage hopen (hcommitted k version creator (hseen ▸ hk) hcreator)

theorem skipRow {scan scan' : DeleteScan ProjectId CallId Unit} (h : s.Inv calls)
    (before : s.stage call = .deleting scan) (hseen : scan'.seen = scan.seen) :
    (s.setStage call (.deleting scan')).Inv calls := by
  have hopen : s.stage call ≠ .committed := by simp [before]
  obtain ⟨hwrites, hcommitted⟩ := (h.phase call).of_deleting before
  refine h.stay hopen
    (.deleting _ (setStage_self _) hwrites fun k version creator hk hcreator => ?_)
  exact seen_setStage hopen (hcommitted k version creator (hseen ▸ hk) hcreator)

theorem endDelete {scan : DeleteScan ProjectId CallId Unit} (h : s.Inv calls)
    (before : s.stage call = .deleting scan) :
    (s.setStage call (.inserting (calls call).projectIds)).Inv calls := by
  obtain ⟨hwrites, -⟩ := (h.phase call).of_deleting before
  refine h.stay (by simp [before]) (.inserting _ [] (setStage_self _) rfl (fun k version hk => ?_)
    fun k hk => absurd hk List.not_mem_nil)
  exact absurd (hwrites k _ hk) (Option.some_ne_none version)

theorem insertRow {projectId : ProjectId} {remaining : List ProjectId} (h : s.Inv calls)
    (before : s.stage call = .inserting (projectId :: remaining))
    (unlocked : (s.projects.cell projectId).locked call = false) :
    ({ s with
      projects := s.projects.set projectId ((s.projects.cell projectId).write call
        (some ⟨some call, ()⟩)) }.setStage call (.inserting remaining)).Inv calls := by
  obtain ⟨inserted, hids, hwrites, hheld⟩ := (h.phase call).of_inserting before
  refine h.write (by simp [before]) unlocked (.inserting remaining (inserted ++ [projectId])
    (setStage_self _) (by simp [hids]) (fun k version hk => ?_) fun k hk => ?_)
  · by_cases heq : k = projectId
    · subst heq
      change ((s.projects.set k _).cell k).pending = _ at hk
      rw [Table.cell_set_self, Cell.pending_write, Option.some.injEq, Prod.mk.injEq,
        Option.some.injEq] at hk
      exact hk.2 ▸ rfl
    · exact hwrites k version (by rwa [← Table.cell_set_of_ne heq])
  · change ((s.projects.set projectId _).cell k).pending = _
    by_cases heq : k = projectId
    · rw [heq, Table.cell_set_self, Cell.pending_write]
    · rw [Table.cell_set_of_ne heq]
      exact hheld k (by simpa [heq] using hk)

/-- A call publishes what it has inserted. -/
theorem commit (h : s.Inv calls) (before : s.stage call = .inserting []) :
    (s.commit call).Inv calls := by
  obtain ⟨inserted, -, hwrites, -⟩ := (h.phase call).of_inserting before
  refine h.move call (by simp [before]) (fun c hne => setStage_of_ne _ hne)
    (fun c hne k version => Cell.pending_commit.trans (and_iff_left hne))
    (fun k version creator hk hcreator => ?_) ?_
  · change ((s.projects.cell k).commit call).committed = some version at hk
    rw [Cell.committed_commit] at hk
    by_cases hheld : ∃ written, (s.projects.cell k).pending = some (call, written)
    · rcases hheld with ⟨written, hheld⟩
      rw [Cell.view_of_pending hheld] at hk
      have hown := hwrites k version (hk ▸ hheld)
      obtain rfl : call = creator := Option.some.inj (hown.symm.trans hcreator)
      exact Or.inr (setStage_self _)
    · rw [Cell.view_eq_committed fun version hp => hheld ⟨version, hp⟩] at hk
      exact Or.inl hk
  · exact .idle (by rw [ReplacementState.commit, setStage_self]; rfl)
      fun k version hk => (Cell.pending_commit.mp hk).2 rfl

theorem rollback {error : Option HttpError} (h : s.Inv calls)
    (before : s.stage call ≠ .committed) : (s.rollback call error).Inv calls := by
  refine h.move call before (fun c hne => setStage_of_ne _ hne)
    (fun c hne k version => Cell.pending_rollback.trans (and_iff_left hne))
    (fun k version _ hk _ => ?_) ?_
  · exact Or.inl (Cell.committed_rollback.symm.trans hk)
  · exact .idle (by rw [ReplacementState.rollback, setStage_self]; rfl)
      fun k version hk => (Cell.pending_rollback.mp hk).2 rfl

theorem step (h : s.Inv calls) (hstep : ReplacementStep calls s a t) : t.Inv calls := by
  cases hstep with
  | selectToken call before =>
      exact h.beforeDelete (by rw [before]; rfl) (by simp [before]) (by split <;> rfl)
  | updatePolicy call row input before =>
      exact h.beforeDelete (by rw [before]; rfl) (by simp [before]) rfl
  | startDelete call before => exact h.startDelete before
  | deleteRow call projectId scan before remaining unlocked same =>
      exact h.deleteRow before rfl unlocked
  | skipRow call projectId scan before => exact h.skipRow before rfl
  | endDelete call scan before => exact h.endDelete before
  | insertRow call projectId remaining before unlocked free => exact h.insertRow before unlocked
  | commit call before => exact h.commit before
  | rollback call a error before => exact h.rollback before

end Inv

/-! ## One call after the other -/

/-- Only one call replaces rows at a time, and it replaces all of them. -/
structure Isolated (calls : CallId → ScopeCall) (s : ReplacementState) : Prop where
  single : ∀ call, (s.stage call).replacing = true → (s.stage call.other).replacing = false
  settled : (∀ call, s.stage call ≠ .committed) ∨ ∃ call, s.stage call = .committed ∧
    ∀ k, (s.projects.cell k).committed.isSome = true ↔ k ∈ (calls call).projectIds
  deleting : ∀ call scan, s.stage call = .deleting scan →
    ∀ k, (s.projects.cell k).committed = scan.seen k ∧
      (k ∉ scan.remaining → (s.projects.cell k).view call = none)
  inserting : ∀ call remaining, s.stage call = .inserting remaining →
    ∃ inserted, (calls call).projectIds = inserted ++ remaining ∧
      ∀ k, ((s.projects.cell k).view call).isSome = true ↔ k ∈ inserted

namespace Isolated

theorem start (policy : TokenPolicy) (projectIds : Finset ProjectId) :
    (ReplacementState.start policy projectIds).Isolated calls where
  single _ h := by contradiction
  settled := Or.inl fun _ h => by contradiction
  deleting _ _ h := by contradiction
  inserting _ _ h := by contradiction

/-- A call moves and publishes nothing. -/
theorem move (call : CallId) (h : s.Isolated calls) (hopen : s.stage call ≠ .committed)
    (hnot : t.stage call ≠ .committed) (hstage : ∀ c ≠ call, t.stage c = s.stage c)
    (hcommitted : ∀ k, (t.projects.cell k).committed = (s.projects.cell k).committed)
    (hview : ∀ c ≠ call, ∀ k, (t.projects.cell k).view c = (s.projects.cell k).view c)
    (hsingle : (t.stage call).replacing = true → (s.stage call.other).replacing = false)
    (hdeleting : ∀ scan, t.stage call = .deleting scan →
      ∀ k, (t.projects.cell k).committed = scan.seen k ∧
        (k ∉ scan.remaining → (t.projects.cell k).view call = none))
    (hinserting : ∀ remaining, t.stage call = .inserting remaining →
      ∃ inserted, (calls call).projectIds = inserted ++ remaining ∧
        ∀ k, ((t.projects.cell k).view call).isSome = true ↔ k ∈ inserted) :
    t.Isolated calls := by
  refine ⟨fun c hc => ?_, ?_, fun c scan hc k => ?_, fun c remaining hc => ?_⟩
  · by_cases heq : c = call
    · subst heq
      rw [hstage _ c.other_ne]
      exact hsingle hc
    · rw [hstage c heq] at hc
      rw [CallId.eq_other (Ne.symm heq)] at hsingle
      cases hreplacing : (t.stage c.other).replacing with
      | false => rfl
      | true =>
          have hother : c.other.other = c := by cases c <;> rfl
          rw [hother, hc] at hsingle
          exact hsingle hreplacing
  · rcases h.settled with hnone | ⟨c, hc, hscope⟩
    · refine Or.inl fun c hc => ?_
      by_cases heq : c = call
      · exact hnot (heq ▸ hc)
      · exact hnone c (hstage c heq ▸ hc)
    · have heq : c ≠ call := fun heq => hopen (heq ▸ hc)
      exact Or.inr ⟨c, (hstage c heq).trans hc, fun k => by rw [hcommitted]; exact hscope k⟩
  · by_cases heq : c = call
    · subst heq
      exact hdeleting scan hc k
    · rw [hcommitted, hview c heq]
      exact h.deleting c scan (hstage c heq ▸ hc) k
  · by_cases heq : c = call
    · subst heq
      exact hinserting remaining hc
    · simp only [hview c heq]
      exact h.inserting c remaining (hstage c heq ▸ hc)

/-- A call moves to a stage in which it replaces no rows, and publishes nothing. -/
theorem toIdle (call : CallId) (h : s.Isolated calls) (hopen : s.stage call ≠ .committed)
    (hnot : t.stage call ≠ .committed) (hstage : ∀ c ≠ call, t.stage c = s.stage c)
    (hcommitted : ∀ k, (t.projects.cell k).committed = (s.projects.cell k).committed)
    (hview : ∀ c ≠ call, ∀ k, (t.projects.cell k).view c = (s.projects.cell k).view c)
    (hidle : (t.stage call).replacing = false) : t.Isolated calls := by
  refine h.move call hopen hnot hstage hcommitted hview (fun hreplacing => ?_)
    (fun scan hscan => ?_) fun remaining hremaining => ?_
  · rw [hidle] at hreplacing
    contradiction
  · rw [hscan] at hidle
    contradiction
  · rw [hremaining] at hidle
    contradiction

/-- A call moves on in its `DELETE`. -/
theorem toDeleting (call : CallId) (scan : DeleteScan ProjectId CallId Unit)
    (h : s.Isolated calls) (hopen : s.stage call ≠ .committed)
    (hscan : t.stage call = .deleting scan) (hstage : ∀ c ≠ call, t.stage c = s.stage c)
    (hcommitted : ∀ k, (t.projects.cell k).committed = (s.projects.cell k).committed)
    (hview : ∀ c ≠ call, ∀ k, (t.projects.cell k).view c = (s.projects.cell k).view c)
    (hother : (s.stage call.other).replacing = false)
    (hrows : ∀ k, (t.projects.cell k).committed = scan.seen k ∧
      (k ∉ scan.remaining → (t.projects.cell k).view call = none)) : t.Isolated calls := by
  refine h.move call hopen (by simp [hscan]) hstage hcommitted hview (fun _ => hother)
    (fun scan' hscan' => ?_) fun remaining hremaining => ?_
  · rw [hscan, CallStage.deleting.injEq] at hscan'
    exact hscan' ▸ hrows
  · rw [hscan] at hremaining
    contradiction

/-- A call moves on in its `INSERT`. -/
theorem toInserting (call : CallId) (remaining inserted : List ProjectId)
    (h : s.Isolated calls) (hopen : s.stage call ≠ .committed)
    (hremaining : t.stage call = .inserting remaining)
    (hstage : ∀ c ≠ call, t.stage c = s.stage c)
    (hcommitted : ∀ k, (t.projects.cell k).committed = (s.projects.cell k).committed)
    (hview : ∀ c ≠ call, ∀ k, (t.projects.cell k).view c = (s.projects.cell k).view c)
    (hother : (s.stage call.other).replacing = false)
    (hids : (calls call).projectIds = inserted ++ remaining)
    (hrows : ∀ k, ((t.projects.cell k).view call).isSome = true ↔ k ∈ inserted) :
    t.Isolated calls := by
  refine h.move call hopen (by simp [hremaining]) hstage hcommitted hview (fun _ => hother)
    (fun scan hscan => ?_) fun remaining' hremaining' => ?_
  · rw [hremaining] at hscan
    contradiction
  · rw [hremaining, CallStage.inserting.injEq] at hremaining'
    exact ⟨inserted, hremaining' ▸ hids, hrows⟩

/-- While no other call replaces rows, a call that has written nothing sees what is
committed. -/
theorem startDelete (h : s.Isolated calls) (hinv : s.Inv calls)
    (before : s.stage call = .deleteProjects)
    (hother : (s.stage call.other).replacing = false) :
    (s.setStage call (.deleting (s.projects.scan call fun _ => true))).Isolated calls := by
  have hwrites := (hinv.phase call).of_idle (by rw [before]; rfl)
  refine h.toDeleting call _ (by simp [before]) (setStage_self _)
    (fun c hne => setStage_of_ne _ hne) (fun _ => rfl) (fun _ _ _ => rfl) hother fun k => ?_
  refine ⟨(Cell.view_eq_committed (hwrites k)).symm, fun hk => ?_⟩
  change (s.projects.cell k).view call = none
  simpa [Table.mem_scan] using hk

theorem deleteRow {projectId : ProjectId} {scan : DeleteScan ProjectId CallId Unit}
    (h : s.Isolated calls) (before : s.stage call = .deleting scan)
    (unlocked : (s.projects.cell projectId).locked call = false) :
    ({ s with
      projects := s.projects.set projectId
        ((s.projects.cell projectId).write call none) }.setStage call
          (.deleting { scan with remaining := scan.remaining.erase projectId })).Isolated
            calls := by
  refine h.toDeleting call _ (by simp [before]) (setStage_self _)
    (fun c hne => setStage_of_ne _ hne) (fun k => Table.committed_set_write)
    (fun c hne k => Table.view_set_write unlocked hne)
    (h.single call (by rw [before]; rfl)) fun k => ?_
  obtain ⟨hseen, hgone⟩ := h.deleting call scan before k
  refine ⟨Table.committed_set_write.trans hseen, fun hk => ?_⟩
  change ((s.projects.set projectId _).cell k).view call = none
  by_cases heq : k = projectId
  · rw [heq, Table.cell_set_self, Cell.view_write]
  · rw [Table.cell_set_of_ne heq]
    exact hgone fun hmem => hk (Finset.mem_erase.mpr ⟨heq, hmem⟩)

/-- Nothing but the call itself can have removed a row that it has seen. -/
theorem view_of_gone {projectId : ProjectId} {scan : DeleteScan ProjectId CallId Unit}
    (h : s.Isolated calls) (hinv : s.Inv calls) (before : s.stage call = .deleting scan)
    (unlocked : (s.projects.cell projectId).locked call = false)
    (gone : ((s.projects.cell projectId).view call).map (·.creator) ≠
      (scan.seen projectId).map (·.creator)) :
    (s.projects.cell projectId).view call = none := by
  have hseen := (h.deleting call scan before projectId).1
  rcases Cell.locked_eq_false.mp unlocked with hpending | ⟨version, hpending⟩
  · exact absurd (by rw [Cell.view_of_pending_none hpending, hseen]) gone
  · rw [Cell.view_of_pending hpending]
    exact ((hinv.phase call).of_deleting before).1 projectId version hpending

theorem skipRow {projectId : ProjectId} {scan : DeleteScan ProjectId CallId Unit}
    (h : s.Isolated calls) (before : s.stage call = .deleting scan)
    (hgone : (s.projects.cell projectId).view call = none) :
    (s.setStage call
      (.deleting { scan with remaining := scan.remaining.erase projectId })).Isolated calls := by
  refine h.toDeleting call _ (by simp [before]) (setStage_self _)
    (fun c hne => setStage_of_ne _ hne) (fun _ => rfl) (fun _ _ _ => rfl)
    (h.single call (by rw [before]; rfl)) fun k => ?_
  obtain ⟨hseen, hrest⟩ := h.deleting call scan before k
  refine ⟨hseen, fun hk => ?_⟩
  by_cases heq : k = projectId
  · exact heq ▸ hgone
  · exact hrest fun hmem => hk (Finset.mem_erase.mpr ⟨heq, hmem⟩)

theorem endDelete {scan : DeleteScan ProjectId CallId Unit} (h : s.Isolated calls)
    (before : s.stage call = .deleting scan) (finished : scan.remaining = ∅) :
    (s.setStage call (.inserting (calls call).projectIds)).Isolated calls := by
  refine h.toInserting call _ [] (by simp [before]) (setStage_self _)
    (fun c hne => setStage_of_ne _ hne) (fun _ => rfl) (fun _ _ _ => rfl)
    (h.single call (by rw [before]; rfl)) rfl fun k => ?_
  have hgone := (h.deleting call scan before k).2 (by simp [finished])
  change ((s.projects.cell k).view call).isSome = true ↔ _
  simp [hgone]

theorem insertRow {projectId : ProjectId} {remaining : List ProjectId} (h : s.Isolated calls)
    (before : s.stage call = .inserting (projectId :: remaining))
    (unlocked : (s.projects.cell projectId).locked call = false) :
    ({ s with
      projects := s.projects.set projectId ((s.projects.cell projectId).write call
        (some ⟨some call, ()⟩)) }.setStage call (.inserting remaining)).Isolated calls := by
  obtain ⟨inserted, hids, hview⟩ := h.inserting call _ before
  refine h.toInserting call _ (inserted ++ [projectId]) (by simp [before]) (setStage_self _)
    (fun c hne => setStage_of_ne _ hne) (fun k => Table.committed_set_write)
    (fun c hne k => Table.view_set_write unlocked hne)
    (h.single call (by rw [before]; rfl)) (by simp [hids]) fun k => ?_
  change (((s.projects.set projectId _).cell k).view call).isSome = true ↔ _
  by_cases heq : k = projectId
  · rw [heq, Table.cell_set_self, Cell.view_write]
    simp
  · rw [Table.cell_set_of_ne heq, hview k]
    simp [heq]

/-- The scope is that of the call which commits. -/
theorem commit (h : s.Isolated calls) (before : s.stage call = .inserting []) :
    (s.commit call).Isolated calls := by
  have hidle : ∀ c, ((s.commit call).stage c).replacing = false := by
    intro c
    by_cases heq : c = call
    · rw [heq, ReplacementState.commit, setStage_self]
      rfl
    · rw [ReplacementState.commit, setStage_of_ne _ heq]
      exact CallId.eq_other heq ▸ h.single call (by rw [before]; rfl)
  obtain ⟨inserted, hids, hview⟩ := h.inserting call [] before
  refine ⟨fun c _ => hidle c.other, Or.inr ⟨call, setStage_self _, fun k => ?_⟩,
    fun c scan hc => ?_, fun c remaining hc => ?_⟩
  · change ((s.projects.cell k).commit call).committed.isSome = true ↔ _
    rw [Cell.committed_commit, hids, List.append_nil]
    exact hview k
  · have hnot := hidle c
    rw [hc] at hnot
    contradiction
  · have hnot := hidle c
    rw [hc] at hnot
    contradiction

theorem step (h : s.Isolated calls) (hinv : s.Inv calls) (hcondition : ReplacementCondition s a)
    (hstep : ReplacementStep calls s a t) : t.Isolated calls := by
  cases hstep with
  | selectToken call before =>
      exact h.toIdle call (by simp [before]) (by rw [setStage_self]; split <;> simp)
        (fun c hne => setStage_of_ne _ hne) (fun _ => rfl) (fun _ _ _ => rfl)
        (by rw [setStage_self]; split <;> rfl)
  | updatePolicy call row input before =>
      exact h.toIdle call (by simp [before]) (by simp)
        (fun c hne => setStage_of_ne _ hne) (fun _ => rfl) (fun _ _ _ => rfl)
        (by rw [setStage_self]; rfl)
  | startDelete call before =>
      exact h.startDelete hinv before (hcondition (by rw [before]; rfl))
  | deleteRow call projectId scan before remaining unlocked same =>
      exact h.deleteRow before unlocked
  | skipRow call projectId scan before remaining unlocked gone =>
      exact h.skipRow before (h.view_of_gone hinv before unlocked gone)
  | endDelete call scan before finished => exact h.endDelete before finished
  | insertRow call projectId remaining before unlocked free => exact h.insertRow before unlocked
  | commit call before => exact h.commit before
  | rollback call a error before =>
      exact h.toIdle call before (by rw [ReplacementState.rollback, setStage_self]; simp)
        (fun c hne => setStage_of_ne _ hne) (fun k => Cell.committed_rollback)
        (fun c hne k => Cell.view_rollback_of_ne hne.symm)
        (by rw [ReplacementState.rollback, setStage_self]; rfl)

end Isolated

/-! ## Two calls at a time -/

/-- Both calls have started their `DELETE` before the other one ended: neither sees
the rows of the other, and both keep theirs. -/
structure Overlapped (calls : CallId → ScopeCall) (s : ReplacementState) : Prop where
  past : ∀ call, (s.stage call).replacing = true ∨ s.stage call = .committed
  seen : ∀ call scan, s.stage call = .deleting scan →
    ∀ k version, scan.seen k = some version → version.creator = none
  kept : ∀ call, s.stage call = .committed → ∀ k ∈ (calls call).projectIds,
    (s.projects.cell k).committed = some ⟨some call, ()⟩ ∧ (s.projects.cell k).pending = none

namespace Overlapped

/-- A call starts its `DELETE` while the other one replaces rows. -/
theorem startDelete (hinv : s.Inv calls) (before : s.stage call = .deleteProjects)
    (hother : (s.stage call.other).replacing = true) :
    (s.setStage call (.deleting (s.projects.scan call fun _ => true))).Overlapped calls := by
  have hnone : ∀ c, s.stage c ≠ .committed := by
    intro c hc
    by_cases heq : c = call
    · rw [heq, before] at hc
      contradiction
    · rw [← CallId.eq_other heq, hc] at hother
      contradiction
  refine ⟨fun c => ?_, fun c scan hc k version hseen => ?_, fun c hc => ?_⟩
  · by_cases heq : c = call
    · rw [heq, setStage_self]
      exact Or.inl rfl
    · rw [setStage_of_ne _ heq, CallId.eq_other heq]
      exact Or.inl hother
  · cases hcreator : version.creator with
    | none => rfl
    | some creator =>
        exfalso
        by_cases heq : c = call
        · subst heq
          rw [setStage_self, CallStage.deleting.injEq] at hc
          subst hc
          change (s.projects.cell k).view c = some version at hseen
          have hwrites := (hinv.phase c).of_idle (by rw [before]; rfl)
          rw [Cell.view_eq_committed (hwrites k)] at hseen
          exact hnone creator (hinv.creator k version creator hseen hcreator)
        · rw [setStage_of_ne _ heq] at hc
          exact hnone creator (((hinv.phase c).of_deleting hc).2 k version creator hseen hcreator)
  · by_cases heq : c = call
    · rw [heq, setStage_self] at hc
      contradiction
    · rw [setStage_of_ne _ heq] at hc
      exact absurd hc (hnone c)

/-- A step that breaks the condition starts the second `DELETE`. -/
theorem of_step (hinv : s.Inv calls) (hcondition : ¬ReplacementCondition s a)
    (hstep : (replacementMachine calls).step s a = some t) : t.Overlapped calls := by
  cases a with
  | advance call =>
      simp only [ReplacementCondition, not_forall, Bool.not_eq_false] at hcondition
      rcases hcondition with ⟨hstart, hother⟩
      have hstage : s.stage call = .deleteProjects := by
        cases hc : s.stage call <;> first | rfl | simp [hc, CallStage.startsDelete] at hstart
      have hnext : t = s.setStage call (.deleting (s.projects.scan call fun _ => true)) := by
        simp only [replacementMachine, ReplacementState.advance, hstage, Option.some.injEq] at hstep
        exact hstep.symm
      exact hnext ▸ .startDelete hinv hstage hother
  | deleteRow call projectId => exact absurd trivial hcondition
  | fail call => exact absurd trivial hcondition

/-- A call goes on without losing a row of the other. -/
theorem move (call : CallId) (h : s.Overlapped calls) (hopen : s.stage call ≠ .committed)
    (hstage : ∀ c ≠ call, t.stage c = s.stage c)
    (hpast : (t.stage call).replacing = true)
    (hseen : ∀ scan, t.stage call = .deleting scan →
      ∀ k version, scan.seen k = some version → version.creator = none)
    (hkept : ∀ c ≠ call, ∀ k, (s.projects.cell k).committed = some ⟨some c, ()⟩ →
      (s.projects.cell k).pending = none → t.projects.cell k = s.projects.cell k) :
    t.Overlapped calls := by
  refine ⟨fun c => ?_, fun c scan hc => ?_, fun c hc k hk => ?_⟩
  · by_cases heq : c = call
    · exact Or.inl (heq ▸ hpast)
    · rw [hstage c heq]
      exact h.past c
  · by_cases heq : c = call
    · subst heq
      exact hseen scan hc
    · exact h.seen c scan (hstage c heq ▸ hc)
  · have heq : c ≠ call := by
      rintro rfl
      rw [hc] at hpast
      contradiction
    obtain ⟨hcommitted, hpending⟩ := h.kept c (hstage c heq ▸ hc) k hk
    rw [hkept c heq k hcommitted hpending]
    exact ⟨hcommitted, hpending⟩

/-- A call commits what it has inserted, and the rows of the other stay. -/
theorem commit (h : s.Overlapped calls) (hinv : s.Inv calls)
    (before : s.stage call = .inserting []) : (s.commit call).Overlapped calls := by
  refine ⟨fun c => ?_, fun c scan hc => ?_, fun c hc k hk => ?_⟩
  · by_cases heq : c = call
    · exact Or.inr (heq ▸ setStage_self _)
    · rw [ReplacementState.commit, setStage_of_ne _ heq]
      exact h.past c
  · by_cases heq : c = call
    · rw [heq, ReplacementState.commit, setStage_self] at hc
      contradiction
    · rw [ReplacementState.commit, setStage_of_ne _ heq] at hc
      exact h.seen c scan hc
  · change ((s.projects.cell k).commit call).committed = _ ∧
      ((s.projects.cell k).commit call).pending = none
    by_cases heq : c = call
    · subst heq
      obtain ⟨inserted, hids, -, hheld⟩ := (hinv.phase c).of_inserting before
      rw [hids, List.append_nil] at hk
      rw [Cell.commit_of_pending (hheld k hk)]
      exact ⟨rfl, rfl⟩
    · rw [ReplacementState.commit, setStage_of_ne _ heq] at hc
      obtain ⟨hcommitted, hpending⟩ := h.kept c hc k hk
      rw [Cell.commit_of_not_pending fun version hp => by rw [hpending] at hp; contradiction]
      exact ⟨hcommitted, hpending⟩

/-- A row of the other call is none that this `DELETE` has seen. -/
theorem ne_of_same (h : s.Overlapped calls) {projectId : ProjectId}
    {scan : DeleteScan ProjectId CallId Unit} (before : s.stage call = .deleting scan)
    (same : ((s.projects.cell projectId).view call).map (·.creator) =
      (scan.seen projectId).map (·.creator)) {c k}
    (hcommitted : (s.projects.cell k).committed = some ⟨some c, ()⟩)
    (hpending : (s.projects.cell k).pending = none) : k ≠ projectId := by
  rintro rfl
  rw [Cell.view_of_pending_none hpending, hcommitted, Option.map_some, eq_comm,
    Option.map_eq_some_iff] at same
  rcases same with ⟨version, hseen, hcreator⟩
  rw [h.seen call scan before k version hseen] at hcreator
  contradiction

/-- From then on a call fails, or both keep what they insert. -/
theorem step (h : s.Overlapped calls) (hinv : s.Inv calls)
    (hstep : ReplacementStep calls s a t) :
    t.Overlapped calls ∨ ∃ call error, t.stage call = .failed error := by
  cases hstep with
  | selectToken call before | updatePolicy call _ _ before | startDelete call before =>
      have hpast := h.past call
      simp [before, CallStage.replacing] at hpast
  | deleteRow call projectId scan before remaining unlocked same =>
      refine Or.inl (h.move call (by simp [before]) (fun c hne => setStage_of_ne _ hne)
        (by rw [setStage_self]; rfl) (fun scan' hscan => ?_) fun c hne k hcommitted hpending => ?_)
      · rw [setStage_self, CallStage.deleting.injEq] at hscan
        subst hscan
        exact h.seen call scan before
      · exact Table.cell_set_of_ne (h.ne_of_same before same hcommitted hpending)
  | skipRow call projectId scan before remaining unlocked gone =>
      refine Or.inl (h.move call (by simp [before]) (fun c hne => setStage_of_ne _ hne)
        (by rw [setStage_self]; rfl) (fun scan' hscan => ?_) fun _ _ _ _ _ => rfl)
      rw [setStage_self, CallStage.deleting.injEq] at hscan
      subst hscan
      exact h.seen call scan before
  | endDelete call scan before finished =>
      exact Or.inl (h.move call (by simp [before]) (fun c hne => setStage_of_ne _ hne)
        (by rw [setStage_self]; rfl) (fun scan' hscan => by simp at hscan) fun _ _ _ _ _ => rfl)
  | insertRow call projectId remaining before unlocked free =>
      refine Or.inl (h.move call (by simp [before]) (fun c hne => setStage_of_ne _ hne)
        (by rw [setStage_self]; rfl) (fun scan hscan => by simp at hscan)
        fun c hne k hcommitted hpending => ?_)
      refine Table.cell_set_of_ne fun heq => ?_
      subst heq
      rw [Cell.view_of_pending_none hpending, hcommitted] at free
      contradiction
  | commit call before => exact Or.inl (h.commit hinv before)
  | rollback call a error before => exact Or.inr ⟨call, error, setStage_self _⟩

/-- The rows of both calls are there in the end. -/
theorem scope_ne (h : s.Overlapped calls) (hcommitted : ∀ call, s.stage call = .committed)
    (call : CallId) : s.scope ≠ (calls call).projectIds.toFinset := by
  intro heq
  rcases List.exists_mem_of_ne_nil _ (calls call.other).selection.nonempty with ⟨k, hk⟩
  have hother := (h.kept call.other (hcommitted _) k hk).1
  have hmem : k ∈ s.scope := Table.mem_rows.mpr (by rw [hother]; rfl)
  rw [heq, List.mem_toFinset] at hmem
  have hown := (h.kept call (hcommitted _) k hmem).1
  rw [hother, Option.some.injEq, Version.mk.injEq, Option.some.injEq] at hown
  exact call.other_ne hown.1

end Overlapped

/-- A call that has failed does not commit. -/
theorem failed_step (hstep : ReplacementStep calls s a t)
    (h : ∃ call error, s.stage call = .failed error) :
    ∃ call error, t.stage call = .failed error := by
  rcases h with ⟨c, error, hc⟩
  cases hstep with
  | rollback call a error' before => exact ⟨call, error', setStage_self _⟩
  | selectToken call before | updatePolicy call _ _ before | startDelete call before
  | deleteRow call _ _ before | skipRow call _ _ before | endDelete call _ before
  | insertRow call _ _ before | commit call before =>
      have hne : c ≠ call := by
        rintro rfl
        simp [hc] at before
      exact ⟨c, error, (setStage_of_ne _ hne).trans hc⟩

end ReplacementState

end Invariants

/-! ## The final scope -/

/-- Calls that replace the rows one after the other leave the scope of one of them. -/
theorem scope_of_meets {calls : CallId → ScopeCall} {policy : TokenPolicy}
    {projectIds : Finset ProjectId} {as : List ReplacementAction} {s : ReplacementState}
    (hrun : (replacementMachine calls).run (.start policy projectIds) as = some s)
    (hcommitted : ∀ call, s.stage call = .committed)
    (hmeets : (replacementMachine calls).Meets ReplacementCondition (.start policy projectIds) as) :
    ∃ call, s.scope = (calls call).projectIds.toFinset := by
  have hend : s.Inv calls ∧ s.Isolated calls := hmeets.invariant
    (I := fun s => s.Inv calls ∧ s.Isolated calls) (fun h hcondition hstep =>
      ⟨h.1.step (.of_step hstep), h.2.step h.1 hcondition (.of_step hstep)⟩)
    ⟨.start policy projectIds, .start policy projectIds⟩ hrun
  rcases hend.2.settled with hnone | ⟨call, -, hscope⟩
  · exact absurd (hcommitted .first) (hnone .first)
  · refine ⟨call, Finset.ext fun k => ?_⟩
    rw [ReplacementState.scope, Table.mem_rows, List.mem_toFinset]
    exact hscope k

/-- When both calls succeed, the token has the projects of one of them exactly when no
call has started its `DELETE` while the other was replacing rows. -/
theorem scope_replaced_iff (calls : CallId → ScopeCall) (policy : TokenPolicy)
    (projectIds : Finset ProjectId) (as : List ReplacementAction) (s : ReplacementState)
    (hrun : (replacementMachine calls).run (.start policy projectIds) as = some s)
    (hcommitted : ∀ call, s.stage call = .committed) :
    (∃ call, s.scope = (calls call).projectIds.toFinset) ↔
      (replacementMachine calls).Meets ReplacementCondition (.start policy projectIds) as := by
  constructor
  · rintro ⟨call, hscope⟩
    refine Machine.meets_iff.mpr fun pre b post u heq hpre => ?_
    have hinv : u.Inv calls := Machine.run_invariant
      (fun h hstep => h.step (.of_step hstep)) (.start policy projectIds) hpre
    rw [heq] at hrun
    rcases Machine.run_append.mp hrun with ⟨u', hu', hrest⟩
    obtain rfl : u = u' := Option.some.inj (hpre.symm.trans hu')
    rcases Machine.run_cons_eq_some.mp hrest with ⟨v, hv, hpost⟩
    by_contra hcondition
    -- From the first overlap on, a call fails or both keep their rows.
    have hoverlap : v.Overlapped calls := .of_step hinv hcondition hv
    have hend : s.Inv calls ∧
        (s.Overlapped calls ∨ ∃ call error, s.stage call = .failed error) := by
      refine Machine.run_invariant (I := fun s => s.Inv calls ∧
        (s.Overlapped calls ∨ ∃ call error, s.stage call = .failed error))
        (fun h hstep => ?_) ⟨hinv.step (.of_step hv), Or.inl hoverlap⟩ hpost
      rcases h with ⟨hinv, hover | hfailed⟩
      · exact ⟨hinv.step (.of_step hstep), hover.step hinv (.of_step hstep)⟩
      · exact ⟨hinv.step (.of_step hstep),
          Or.inr (ReplacementState.failed_step (.of_step hstep) hfailed)⟩
    rcases hend.2 with hover | ⟨c, error, hc⟩
    · exact hover.scope_ne hcommitted call hscope
    · rw [hcommitted c] at hc
      contradiction
  · exact scope_of_meets hrun hcommitted

/-! ## Calls that update the policy -/

/-- The call is past the statements on the row of the token. -/
def CallStage.pastToken : CallStage → Bool
  | .deleteProjects | .deleting _ | .inserting _ => true
  | _ => false

/-- A call that is past its `UPDATE` holds the row of the token. -/
def ReplacementState.HoldsToken (s : ReplacementState) : Prop :=
  ∀ call, (s.stage call).pastToken = true → ∃ row, s.token.pending = some (call, row)

namespace ReplacementState.HoldsToken

variable {calls : CallId → ScopeCall} {s t : ReplacementState} {call : CallId}
  {a : ReplacementAction}

/-- A call goes on, and the row of the token stays as it is. -/
theorem move (h : s.HoldsToken) {stage : CallStage} {projects : Table ProjectId CallId Unit}
    (hpast : stage.pastToken = true → (s.stage call).pastToken = true) :
    ({ s with projects }.setStage call stage).HoldsToken := by
  intro c hc
  by_cases heq : c = call
  · subst heq
    rw [setStage_self] at hc
    exact h c (hpast hc)
  · rw [setStage_of_ne _ heq] at hc
    exact h c hc

theorem step (hpolicy : ∀ call, (calls call).policy.isSome = true) (h : s.HoldsToken)
    (hstep : ReplacementStep calls s a t) : t.HoldsToken := by
  cases hstep with
  | selectToken call before =>
      refine h.move fun hpast => ?_
      rw [if_pos (hpolicy call)] at hpast
      contradiction
  | updatePolicy call row input before unlocked found policy =>
      intro c hc
      by_cases heq : c = call
      · exact heq ▸ ⟨_, rfl⟩
      · rw [setStage_of_ne _ heq] at hc
        rcases h c hc with ⟨held, hheld⟩
        exact absurd (Cell.not_pending_other unlocked hheld) heq
  | startDelete call before | deleteRow call _ _ before | skipRow call _ _ before
  | endDelete call _ before | insertRow call _ _ before =>
      exact h.move fun _ => by rw [before]; rfl
  | commit call before =>
      intro c hc
      by_cases heq : c = call
      · rw [heq, ReplacementState.commit, setStage_self] at hc
        contradiction
      · rw [ReplacementState.commit, setStage_of_ne _ heq] at hc
        rcases h c hc with ⟨row, hheld⟩
        exact ⟨row, Cell.pending_commit.mpr ⟨hheld, heq⟩⟩
  | rollback call a error before =>
      intro c hc
      by_cases heq : c = call
      · rw [heq, ReplacementState.rollback, setStage_self] at hc
        contradiction
      · rw [ReplacementState.rollback, setStage_of_ne _ heq] at hc
        rcases h c hc with ⟨row, hheld⟩
        exact ⟨row, Cell.pending_rollback.mpr ⟨hheld, heq⟩⟩

/-- The row lock keeps the `DELETE` of one call away from the other. -/
theorem condition (h : s.HoldsToken) (a : ReplacementAction) : ReplacementCondition s a := by
  cases a with
  | advance call =>
      intro hstart
      by_contra hreplacing
      have hpast : ∀ {stage : CallStage},
          stage.startsDelete = true ∨ stage.replacing = true → stage.pastToken = true := by
        intro stage
        cases stage <;> simp [CallStage.startsDelete, CallStage.replacing, CallStage.pastToken]
      rcases h call (hpast (Or.inl hstart)) with ⟨row, hheld⟩
      rcases h call.other (hpast (Or.inr (by simpa using hreplacing))) with ⟨row', hheld'⟩
      rw [hheld, Option.some.injEq, Prod.mk.injEq] at hheld'
      exact call.other_ne hheld'.1.symm
  | deleteRow call projectId => trivial
  | fail call => trivial

end ReplacementState.HoldsToken

/-- Two calls that both update the policy replace the scope as a whole. -/
theorem policy_updates_replace {calls : CallId → ScopeCall}
    (hpolicy : ∀ call, (calls call).policy.isSome = true) {policy : TokenPolicy}
    {projectIds : Finset ProjectId} {as : List ReplacementAction} {s : ReplacementState}
    (hrun : (replacementMachine calls).run (.start policy projectIds) as = some s)
    (hcommitted : ∀ call, s.stage call = .committed) :
    ∃ call, s.scope = (calls call).projectIds.toFinset := by
  have htrue : (replacementMachine calls).Meets (fun _ _ => True) (.start policy projectIds) as :=
    Machine.meets_of_forall_mem fun _ _ _ => trivial
  refine scope_of_meets hrun hcommitted (htrue.transfer (I := ReplacementState.HoldsToken)
    (fun h _ hstep => h.step hpolicy (.of_step hstep)) (fun h _ => h.condition _) ?_)
  intro call hpast
  contradiction

/-- Calls that both update the policy. -/
def sampleCalls : CallId → ScopeCall
  | .first => updateAccessToken ⟨["billing"], [1], by decide⟩ ⟨some none, none⟩
  | .second => updateAccessToken ⟨["search", "stock"], [2, 3], by decide⟩ ⟨some (some 9), none⟩

/-- Calls without policy fields, for disjoint sets of projects. -/
def disjointCalls : CallId → ScopeCall
  | .first => updateDeviceTokenProjects ⟨["billing"], [1], by decide⟩
  | .second => updateDeviceTokenProjects ⟨["search", "stock"], [2, 3], by decide⟩

/-- The second call waits for the row of the token until the first one has committed. -/
def sampleReplacements : List ReplacementAction :=
  [.advance .first, .advance .second, .advance .first, .advance .first, .deleteRow .first 7,
    .advance .first, .advance .first, .advance .first, .advance .second, .advance .second,
    .deleteRow .second 1, .advance .second, .advance .second, .advance .second, .advance .second]

theorem scope_replaced_iff_sample :
    ∃ s, (replacementMachine sampleCalls).run (.start ⟨none, none⟩ {7}) sampleReplacements =
        some s ∧
      ∃ call, s.scope = (sampleCalls call).projectIds.toFinset := by
  have hmeets : (replacementMachine sampleCalls).Meets ReplacementCondition
      (.start ⟨none, none⟩ {7}) sampleReplacements := by decide
  refine ⟨_, rfl, (scope_replaced_iff sampleCalls ⟨none, none⟩ {7} sampleReplacements _ rfl
    fun call => ?_).mpr hmeets⟩
  cases call <;> rfl

/-- Each `DELETE` runs before the other call commits; the token ends up with the
projects of both. -/
theorem scope_united :
    ∃ s, (replacementMachine disjointCalls).run (.start ⟨none, none⟩ {7})
        [.advance .first, .advance .second, .advance .first, .deleteRow .first 7,
          .advance .second, .advance .first, .advance .first, .advance .first,
          .deleteRow .second 7, .advance .second, .advance .second, .advance .second,
          .advance .second] = some s ∧
      (∀ call, s.stage call = .committed) ∧ s.scope = {1, 2, 3} ∧
      ∀ call, s.scope ≠ (disjointCalls call).projectIds.toFinset := by
  refine ⟨_, rfl, fun call => ?_, by decide, fun call => ?_⟩
  · cases call <;> rfl
  · cases call <;> decide

end TokenScope
end R2RPC
