import R2RPC.AccessToken.Service

/-!
# The quota of an access token

The conditional {lit}`UPDATE` charges one unit and checks every condition at the
database.  The {lit}`SELECT` that follows a miss charges nothing and compares
{lit}`expiresAt` with another clock, so an admission by it is lawful only for an
unlimited, unexpired row.

Main results:

- Theorem {lit}`AccessToken.consumeUpdate_spec`: what a matched row satisfies.
- Theorem {lit}`AccessToken.resolveUnconsumedToken_cases`: which rows the
  {lit}`SELECT` lets through.
- Inductive {lit}`AccessToken.TokenStep`: the effect of each step.
- Theorem {lit}`AccessToken.quota_lawful_iff`: all admissions are lawful exactly
  when every such {lit}`SELECT` is harmless, and then the limit is kept between
  resets.
- Theorem {lit}`AccessToken.admitted_beyond_limit`: a reset between the two
  statements admits one invocation too many.

Current gaps:

- None for one token.
-/

namespace R2RPC
namespace AccessToken

open Interleaving

variable {s t : State} {a : Action} {as : List Action} {row row' : AccessTokenRow}
  {now clock : Time}

/-! ## The two statements -/

@[simp]
theorem limitReached_none (usageCount : Nat) : limitReached none usageCount = false := rfl

@[simp]
theorem limitReached_some (maximum : ℕ+) (usageCount : Nat) :
    limitReached (some maximum) usageCount = decide ((maximum : Nat) ≤ usageCount) := rfl

/-- A matched row was usable at the database clock, and is charged if limited. -/
theorem consumeUpdate_spec (h : consumeUpdate row now = some row') :
    row.deleted = false ∧ row.status = .active ∧
      (∀ expiry, row.expiresAt = some expiry → now < expiry) ∧
      row'.maximumUsageCount = row.maximumUsageCount ∧
      (∀ maximum, row.maximumUsageCount = some maximum →
        row.usageCount < maximum ∧ row'.usageCount = row.usageCount + 1) := by
  unfold consumeUpdate at h
  split at h
  · rename_i hmatch
    rcases hmatch with ⟨halive, hactive, hlimit, hexpiry⟩
    rw [← Option.some.inj h]
    refine ⟨halive, hactive, ?_, rfl, ?_⟩
    · intro expiry he
      simpa [he] using hexpiry
    · intro maximum hm
      rw [hm] at hlimit
      simp only [limitReached_some, decide_eq_false_iff_not, Nat.not_le] at hlimit
      exact ⟨hlimit, by simp [hm]⟩
  · contradiction

/-- The rows that `resolveUnconsumedToken` rejects. -/
def Rejects (row : AccessTokenRow) (clock : Time) : Prop :=
  row.deleted = true ∨ row.status ≠ .active ∨
    (∃ expiry, row.expiresAt = some expiry ∧ expiry < clock) ∨
    ∃ maximum, row.maximumUsageCount = some maximum ∧ (maximum : Nat) ≤ row.usageCount

theorem expiredBefore_iff {expiresAt : Option Time} :
    expiredBefore expiresAt clock = true ↔ ∃ expiry, expiresAt = some expiry ∧ expiry < clock := by
  cases expiresAt <;> simp [expiredBefore]

theorem limitReached_iff {maximumUsageCount : Option ℕ+} {usageCount : Nat} :
    limitReached maximumUsageCount usageCount = true ↔
      ∃ maximum, maximumUsageCount = some maximum ∧ (maximum : Nat) ≤ usageCount := by
  cases maximumUsageCount <;> simp

/-- The `SELECT` returns the row it has read unless it rejects it. -/
theorem resolveUnconsumedToken_cases (row : AccessTokenRow) (clock : Time) :
    (resolveUnconsumedToken row clock = .ok row ∧ ¬Rejects row clock) ∨
      (∃ error, resolveUnconsumedToken row clock = .error error) ∧ Rejects row clock := by
  unfold resolveUnconsumedToken
  split
  · rename_i hdeleted
    exact Or.inr ⟨⟨_, rfl⟩, Or.inl hdeleted⟩
  · rename_i halive
    split
    · rename_i hstatus
      exact Or.inr ⟨⟨_, rfl⟩, Or.inr (Or.inl hstatus)⟩
    · rename_i hactive
      split
      · rename_i hexpired
        exact Or.inr ⟨⟨_, rfl⟩, Or.inr (Or.inr (Or.inl (expiredBefore_iff.mp hexpired)))⟩
      · rename_i hunexpired
        split
        · rename_i hlimit
          exact Or.inr ⟨⟨_, rfl⟩, Or.inr (Or.inr (Or.inr (limitReached_iff.mp hlimit)))⟩
        · rename_i hunlimited
          refine Or.inl ⟨rfl, ?_⟩
          rintro (h | h | h | h)
          · exact halive h
          · exact hactive h
          · exact hunexpired (expiredBefore_iff.mpr h)
          · exact hunlimited (limitReached_iff.mpr h)

/-- The guard hands on the very copy it has checked. -/
theorem canActivate_ok {cachedToken : Option CachedToken} {projectId : Option ProjectId}
    {token : CachedToken} (h : canActivate cachedToken clock projectId = .ok token) :
    cachedToken = some token := by
  unfold canActivate at h
  split at h
  · contradiction
  · rename_i token' hpass
    have hsame : token' = token := by
      repeat' split at h
      all_goals first
        | contradiction
        | exact Except.ok.inj h
    unfold assertTokenIsUsable at hpass
    repeat' split at hpass
    all_goals first
      | contradiction
      | exact congrArg some ((Except.ok.inj hpass).trans hsame)

/-! ## What a step does -/

/-- The effects of an action, with the guards under which it has them. -/
inductive TokenStep (s : State) : Action → State → Prop where
  | invoke (id : InvocationId) : TokenStep s (.invoke id) (s.setStage id (.guard .get))
  | get (id : InvocationId) :
      TokenStep s (.getOrLoad id) (s.setStage id (.guard (.afterGet (fun _ => true) s.cache)))
  | rowMissing (id : InvocationId) :
      TokenStep s (.getOrLoad id) (s.setStage id (.guard (.set none)))
  | rowFound (id : InvocationId) (token : CachedToken) (hrow : findRow s.row = some token) :
      TokenStep s (.getOrLoad id) (s.setStage id (.loadProjects token))
  | loadProjects (id : InvocationId) (token : CachedToken)
      (hstage : s.invocations id = some (.loadProjects token)) :
      TokenStep s (.getOrLoad id)
        (s.setStage id (.guard (.set (some { token with projectIds := s.row.projectIds }))))
  | set (id : InvocationId) (loadedToken : Option CachedToken)
      (hstage : s.invocations id = some (.guard (.set loadedToken))) :
      TokenStep s (.getOrLoad id)
        ({ s with cache := some loadedToken }.setStage id (.guard (.done loadedToken)))
  | refuse (id : InvocationId) (clock : Time) (projectId : Option ProjectId) (error : HttpError) :
      TokenStep s (.authorize id clock projectId) (s.setStage id (.rejected error))
  | meter (id : InvocationId) (clock : Time) (projectId : Option ProjectId) :
      TokenStep s (.authorize id clock projectId) (s.setStage id .consume)
  | admitUnmetered (id : InvocationId) (clock : Time) (projectId : Option ProjectId)
      (token : CachedToken) (hstage : s.invocations id = some (.guard (.done (some token))))
      (hpass : canActivate (some token) clock projectId = .ok token)
      (hunlimited : token.maximumUsageCount = none) :
      TokenStep s (.authorize id clock projectId) (s.admitUnmetered id)
  | consume (id : InvocationId) (row : AccessTokenRow)
      (hrow : AccessToken.consumeUpdate s.row s.now = some row) :
      TokenStep s (.consumeUpdate id) (s.recordAdmission id row)
  | consumeMissed (id : InvocationId) : TokenStep s (.consumeUpdate id) (s.setStage id .resolve)
  | resolve (id : InvocationId) (clock : Time) (hstage : s.invocations id = some .resolve)
      (hpass : ¬Rejects s.row clock) :
      TokenStep s (.resolveUnconsumedToken id clock) (s.recordAdmission id s.row)
  | resolveRefused (id : InvocationId) (clock : Time) (error : HttpError)
      (hreject : Rejects s.row clock) :
      TokenStep s (.resolveUnconsumedToken id clock) (s.setStage id (.rejected error))
  | invalidate (id : InvocationId) :
      TokenStep s (.invalidate id) ({ s with cache := none }.setStage id .admitted)
  | administer (writer : WriterId) (write : AdminWrite) (row : AccessTokenRow)
      (hwrite : write.apply s.row = some row) :
      TokenStep s (.administer writer write) { s with
        row
        pendingDeletes := Function.update s.pendingDeletes writer true
        admittedSinceReset := if write = .resetUsage then 0 else s.admittedSinceReset }
  | invalidateWrite (writer : WriterId) :
      TokenStep s (.invalidateWrite writer) { s with
        cache := none
        pendingDeletes := Function.update s.pendingDeletes writer false }
  | expire : TokenStep s .expire { s with cache := none }
  | tick (duration : Time) : TokenStep s (.tick duration) { s with now := s.now + duration }

theorem TokenStep.of_getOrLoad {id : InvocationId} (hstep : s.getOrLoad id = some t) :
    TokenStep s (.getOrLoad id) t := by
  unfold State.getOrLoad at hstep
  split at hstep
  · exact Option.some.inj hstep ▸ .get id
  · split at hstep
    · exact Option.some.inj hstep ▸ .rowMissing id
    next token hrow => exact Option.some.inj hstep ▸ .rowFound id token hrow
  next token hstage => exact Option.some.inj hstep ▸ .loadProjects id token hstage
  next loadedToken hstage => exact Option.some.inj hstep ▸ .set id loadedToken hstage
  · contradiction

theorem TokenStep.of_authorize {id : InvocationId} {projectId : Option ProjectId}
    (hstep : s.authorize id clock projectId = some t) :
    TokenStep s (.authorize id clock projectId) t := by
  unfold State.authorize at hstep
  split at hstep
  next cachedToken hstage =>
    split at hstep
    next error _ => exact Option.some.inj hstep ▸ .refuse id clock projectId error
    next token hpass =>
      obtain rfl := canActivate_ok hpass
      split at hstep
      · exact Option.some.inj hstep ▸ .meter id clock projectId
      next hunlimited =>
        exact Option.some.inj hstep ▸
          .admitUnmetered id clock projectId token hstage hpass (by simpa using hunlimited)
  · contradiction

theorem TokenStep.of_resolve {id : InvocationId} (hstep : s.resolve id clock = some t) :
    TokenStep s (.resolveUnconsumedToken id clock) t := by
  unfold State.resolve at hstep
  split at hstep
  next hstage =>
    rcases resolveUnconsumedToken_cases s.row clock with ⟨hok, hpass⟩ | ⟨⟨error, herror⟩, hreject⟩
    · simp only [hok, Option.some.injEq] at hstep
      exact hstep ▸ .resolve id clock hstage hpass
    · simp only [herror, Option.some.injEq] at hstep
      exact hstep ▸ .resolveRefused id clock error hreject
  · contradiction

/-- Every step is one of these. -/
theorem TokenStep.of_step (hstep : AccessToken.step s a = some t) : TokenStep s a t := by
  cases a with
  | invoke id =>
      simp only [AccessToken.step] at hstep
      split at hstep
      · exact Option.some.inj hstep ▸ .invoke id
      · contradiction
  | getOrLoad id => exact .of_getOrLoad hstep
  | authorize id clock projectId => exact .of_authorize hstep
  | consumeUpdate id =>
      simp only [AccessToken.step, State.consume] at hstep
      split at hstep
      · split at hstep
        next row hrow => exact Option.some.inj hstep ▸ .consume id row hrow
        · exact Option.some.inj hstep ▸ .consumeMissed id
      · contradiction
  | resolveUnconsumedToken id clock => exact .of_resolve hstep
  | invalidate id =>
      simp only [AccessToken.step, State.invalidate] at hstep
      split at hstep
      · exact Option.some.inj hstep ▸ .invalidate id
      · contradiction
  | administer writer write =>
      simp only [AccessToken.step, State.administer] at hstep
      split at hstep
      next row hpending hwrite =>
        exact Option.some.inj hstep ▸ .administer writer write row hwrite
      · contradiction
  | invalidateWrite writer =>
      simp only [AccessToken.step] at hstep
      split at hstep
      · exact Option.some.inj hstep ▸ .invalidateWrite writer
      · contradiction
  | expire => exact Option.some.inj hstep ▸ .expire
  | tick duration => exact Option.some.inj hstep ▸ .tick duration

/-! ## Lawful admissions -/

/-- The law of one admission: a limited row is charged exactly one unit, and the
row is neither deleted nor revoked nor expired at the database clock. -/
def Admission.Lawful (x : Admission) : Prop :=
  (∀ maximum, x.before.maximumUsageCount = some maximum →
    x.after.usageCount = x.before.usageCount + 1) ∧
  x.before.deleted = false ∧ x.before.status = .active ∧
  ∀ expiry, x.before.expiresAt = some expiry → x.now < expiry

/-- When the `SELECT` of `resolveUnconsumedToken` runs, it rejects the row, or the
row has no limit and is not expired at the database clock. -/
def Guarded (s : State) (a : Action) : Prop :=
  ∀ id clock, a = .resolveUnconsumedToken id clock → s.invocations id = some .resolve →
    Rejects s.row clock ∨
      (s.row.maximumUsageCount = none ∧ ∀ expiry, s.row.expiresAt = some expiry → s.now < expiry)

/-- An admission by the `SELECT` charges nothing, so it is lawful exactly for an
unlimited row that the database still holds valid. -/
theorem lawful_select_iff (hpass : ¬Rejects row clock) :
    Admission.Lawful ⟨row, row, now⟩ ↔
      row.maximumUsageCount = none ∧ ∀ expiry, row.expiresAt = some expiry → now < expiry := by
  simp only [Rejects, not_or, Bool.not_eq_true, not_not] at hpass
  rcases hpass with ⟨halive, hactive, -, -⟩
  constructor
  · rintro ⟨hcharge, -, -, hexpiry⟩
    refine ⟨?_, hexpiry⟩
    cases hm : row.maximumUsageCount with
    | none => rfl
    | some maximum => exact absurd (hcharge maximum hm) (by simp)
  · rintro ⟨hunlimited, hexpiry⟩
    exact ⟨by simp [hunlimited], halive, hactive, hexpiry⟩

/-- A step admits at most one metered invocation, lawfully exactly when the
step is guarded. -/
theorem step_admissions (hstep : AccessToken.step s a = some t) :
    (t.admissions = s.admissions ∧ Guarded s a) ∨
      ∃ x, t.admissions = s.admissions ++ [x] ∧ (x.Lawful ↔ Guarded s a) := by
  cases TokenStep.of_step hstep with
  | consume id row hrow =>
      rcases consumeUpdate_spec hrow with ⟨halive, hactive, hexpiry, -, hcharge⟩
      refine Or.inr ⟨⟨s.row, row, s.now⟩, rfl, fun _ => nofun, fun _ => ?_⟩
      exact ⟨fun maximum hm => (hcharge maximum hm).2, halive, hactive, hexpiry⟩
  | resolve id clock hstage hpass =>
      refine Or.inr ⟨⟨s.row, s.row, s.now⟩, rfl, ?_⟩
      rw [lawful_select_iff hpass]
      constructor
      · intro hsafe id' clock' ha _
        cases ha
        exact Or.inr hsafe
      · intro hguard
        exact (hguard id clock rfl hstage).resolve_left hpass
  | resolveRefused id clock error hreject =>
      refine Or.inl ⟨rfl, fun id' clock' ha _ => ?_⟩
      cases ha
      exact Or.inl hreject
  | invoke | get | rowMissing | rowFound | loadProjects | set | refuse | meter | admitUnmetered
  | consumeMissed | invalidate | administer | invalidateWrite | expire | tick =>
      exact Or.inl ⟨rfl, nofun⟩

/-- Along a run, the admissions stay lawful exactly as long as every step is guarded. -/
theorem run_lawful_iff (hrun : machine.run s as = some t) (hs : ∀ x ∈ s.admissions, x.Lawful) :
    (∀ x ∈ t.admissions, x.Lawful) ↔ machine.Meets Guarded s as := by
  have grows : ∀ {u v : State} {bs : List Action}, machine.run u bs = some v →
      u.admissions <+: v.admissions := by
    intro u v bs hbs
    refine Machine.run_invariant (M := machine) (I := fun w => u.admissions <+: w.admissions)
      ?_ List.prefix_rfl hbs
    intro w b w' hw hstep
    rcases step_admissions hstep with ⟨hsame, -⟩ | ⟨x, hadd, -⟩
    · exact hsame ▸ hw
    · exact hadd ▸ hw.trans (List.prefix_append _ _)
  induction as generalizing s with
  | nil =>
      simp only [Machine.run_nil, Option.some.injEq] at hrun
      exact hrun ▸ ⟨fun _ => trivial, fun _ => hs⟩
  | cons a as ih =>
      rcases Machine.run_cons_eq_some.mp hrun with ⟨u, hstep, hrest⟩
      rw [Machine.meets_cons_of_step hstep]
      rcases step_admissions hstep with ⟨hsame, hguard⟩ | ⟨x, hadd, hiff⟩
      · have hiff := ih hrest (by rw [hsame]; exact hs)
        exact hiff.trans ⟨fun h => ⟨hguard, h⟩, fun h => h.2⟩
      · by_cases hx : x.Lawful
        · have hu : ∀ y ∈ u.admissions, y.Lawful := by
            intro y hy
            rw [hadd, List.mem_append, List.mem_singleton] at hy
            rcases hy with hy | rfl
            · exact hs y hy
            · exact hx
          exact (ih hrest hu).trans ⟨fun h => ⟨hiff.mp hx, h⟩, fun h => h.2⟩
        · have hmem : x ∈ t.admissions := (grows hrest).subset (by simp [hadd])
          constructor
          · intro hall
            exact (hx (hall x hmem)).elim
          · intro hcond
            exact (hx (hiff.mpr hcond.1)).elim

/-! ## The limit between two resets -/

/-- No update changes the limit. -/
def KeepsLimit (maximum : ℕ+) (a : Action) : Prop :=
  ∀ writer expiresAt limit projectIds,
    a = .administer writer (.update expiresAt (some limit) projectIds) → limit = some maximum

/-- The cached copy that a call carries through the guard. -/
def InvocationStage.heldToken : InvocationStage → Option CachedToken
  | .guard (.set loadedToken) => loadedToken
  | .guard (.done cachedToken) => cachedToken
  | .loadProjects token => some token
  | _ => none

/-- With a constant limit every copy of the row carries it, every admission since
the last reset has been charged, and the charge stays within the limit. -/
structure Metered (maximum : ℕ+) (s : State) : Prop where
  limit : s.row.maximumUsageCount = some maximum
  charged : s.admittedSinceReset = s.row.usageCount
  bounded : s.row.usageCount ≤ maximum
  unmetered : s.unmetered = 0
  cached : ∀ token, s.cache = some (some token) → token.maximumUsageCount = some maximum
  held : ∀ id stage token, s.invocations id = some stage → stage.heldToken = some token →
    token.maximumUsageCount = some maximum

namespace Metered

variable {maximum : ℕ+}

theorem created (row : AccessTokenRow) (now : Time)
    (hlimit : row.maximumUsageCount = some maximum) :
    Metered maximum (State.created row now) where
  limit := hlimit
  charged := rfl
  bounded := Nat.zero_le _
  unmetered := rfl
  cached := by simp [State.created]
  held := by simp [State.created]

theorem uncache (h : Metered maximum s) : Metered maximum { s with cache := none } :=
  { h with cached := by simp }

/-- Moving a call whose copy, if it holds one, carries the limit. -/
theorem setStage (h : Metered maximum s) (id : InvocationId) {stage : InvocationStage}
    (hheld : ∀ token, stage.heldToken = some token → token.maximumUsageCount = some maximum) :
    Metered maximum (s.setStage id stage) :=
  { h with
    held := by
      intro id' stage' token hstage htoken
      by_cases hid : id' = id
      · subst hid
        simp only [State.setStage, Function.update_self, Option.some.injEq] at hstage
        exact hheld token (hstage ▸ htoken)
      · exact h.held id' stage' token (by simpa [State.setStage, hid] using hstage) htoken }

/-- An admission that charges one unit. -/
theorem recordAdmission (h : Metered maximum s) (id : InvocationId)
    (hlimit : row.maximumUsageCount = some maximum) (hfree : s.row.usageCount < maximum)
    (hcharge : row.usageCount = s.row.usageCount + 1) : Metered maximum (s.recordAdmission id row) :=
  { (h.setStage id (by simp [InvocationStage.heldToken]) :
      Metered maximum (s.setStage id .invalidate)) with
    limit := hlimit
    charged := by simp [State.recordAdmission, h.charged, hcharge]
    bounded := by
      simp only [State.recordAdmission, hcharge]
      exact hfree }

/-- An administrative write that keeps the limit. -/
theorem administer (h : Metered maximum s) {writer : WriterId} {write : AdminWrite}
    {pendingDeletes : WriterId → Bool} (hkeep : KeepsLimit maximum (.administer writer write))
    (hwrite : write.apply s.row = some row) :
    Metered maximum { s with
      row
      pendingDeletes
      admittedSinceReset := if write = .resetUsage then 0 else s.admittedSinceReset } := by
  cases write with
  | resetUsage =>
      simp only [AdminWrite.apply, Option.ite_none_left_eq_some, Option.some.injEq] at hwrite
      rw [← hwrite.2]
      exact { h with charged := rfl, bounded := Nat.zero_le _ }
  | update expiresAt limit projectIds =>
      simp only [AdminWrite.apply, Option.ite_none_left_eq_some, Option.some.injEq] at hwrite
      rw [← hwrite.2]
      refine { h with limit := ?_ }
      cases limit with
      | none => exact h.limit
      | some limit => exact hkeep writer expiresAt limit projectIds rfl
  | revoke =>
      simp only [AdminWrite.apply, Option.some.injEq] at hwrite
      rw [← hwrite]
      exact { h with }
  | delete =>
      simp only [AdminWrite.apply, Option.ite_none_left_eq_some, Option.some.injEq] at hwrite
      rw [← hwrite.2]
      exact { h with }

/-- A call carries on with what the cache holds. -/
theorem get (h : Metered maximum s) (id : InvocationId) :
    Metered maximum (s.setStage id (.guard (.afterGet (fun _ => true) s.cache))) := by
  refine h.setStage id fun token htoken => ?_
  cases hcache : s.cache with
  | none => simp [hcache, GetOrLoad.afterGet, InvocationStage.heldToken] at htoken
  | some cachedToken =>
      simp only [hcache, GetOrLoad.afterGet, if_true, InvocationStage.heldToken] at htoken
      exact h.cached token (hcache.trans (by rw [htoken]))

theorem rowFound (h : Metered maximum s) (id : InvocationId) {token : CachedToken}
    (hrow : findRow s.row = some token) :
    Metered maximum (s.setStage id (.loadProjects token)) := by
  refine h.setStage id fun token' htoken => ?_
  simp only [InvocationStage.heldToken, Option.some.injEq] at htoken
  simp only [findRow, Option.ite_none_left_eq_some, Option.some.injEq] at hrow
  rw [← htoken, ← hrow.2]
  exact h.limit

/-- What a call caches is the copy that it holds. -/
theorem set (h : Metered maximum s) (id : InvocationId) {loadedToken : Option CachedToken}
    (hstage : s.invocations id = some (.guard (.set loadedToken))) :
    Metered maximum
      ({ s with cache := some loadedToken }.setStage id (.guard (.done loadedToken))) := by
  have hheld : ∀ token, loadedToken = some token → token.maximumUsageCount = some maximum :=
    fun token htoken => h.held id _ token hstage htoken
  have hset : Metered maximum { s with cache := some loadedToken } :=
    { h with
      cached := by
        intro token htoken
        rw [Option.some.injEq] at htoken
        exact hheld token htoken }
  exact hset.setStage id hheld

/-- A guarded step that keeps the limit keeps the token metered. -/
theorem step (h : Metered maximum s) (hguard : Guarded s a) (hkeep : KeepsLimit maximum a)
    (hstep : AccessToken.step s a = some t) : Metered maximum t := by
  cases TokenStep.of_step hstep with
  | get id => exact h.get id
  | rowFound id token hrow => exact h.rowFound id hrow
  | loadProjects id token hstage =>
      refine h.setStage id fun token' htoken => ?_
      simp only [InvocationStage.heldToken, Option.some.injEq] at htoken
      rw [← htoken]
      exact h.held id _ token hstage rfl
  | set id loadedToken hstage => exact h.set id hstage
  | admitUnmetered id clock projectId token hstage hpass hunlimited =>
      rw [h.held id _ token hstage rfl] at hunlimited
      contradiction
  | consume id row hrow =>
      rcases consumeUpdate_spec hrow with ⟨-, -, -, hlimit, hcharge⟩
      rcases hcharge maximum h.limit with ⟨hfree, hcharged⟩
      exact h.recordAdmission id (hlimit.trans h.limit) hfree hcharged
  | resolve id clock hstage hpass =>
      rcases hguard id clock rfl hstage with hreject | ⟨hunlimited, -⟩
      · exact absurd hreject hpass
      · rw [h.limit] at hunlimited
        contradiction
  | invalidate id => exact h.uncache.setStage id (by simp [InvocationStage.heldToken])
  | administer writer write row hwrite => exact h.administer hkeep hwrite
  | invalidateWrite writer => exact { h.uncache with }
  | expire => exact h.uncache
  | tick duration => exact { h with }
  | invoke id | rowMissing id | refuse id | meter id | consumeMissed id | resolveRefused id =>
      exact h.setStage id (by simp [InvocationStage.heldToken])

end Metered

/-! ## The limit since a reset -/

/-- The copy that a call holds when it is authorized. -/
def State.presented (s : State) (id : InvocationId) : Option CachedToken :=
  match s.invocations id with
  | some (.guard (.done cachedToken)) => cachedToken
  | _ => none

/-- A call that the guard lets through on a copy without a limit finds a row without one. -/
def ChargesLimited (s : State) : Action → Prop
  | .authorize id clock projectId =>
      ∀ token ∈ s.presented id, canActivate (some token) clock projectId = .ok token →
        token.maximumUsageCount = none → s.row.maximumUsageCount = none
  | _ => True

instance decidableChargesLimited (s : State) : ∀ a, Decidable (ChargesLimited s a)
  | .authorize id clock projectId =>
      inferInstanceAs (Decidable (∀ token ∈ s.presented id,
        canActivate (some token) clock projectId = .ok token →
          token.maximumUsageCount = none → s.row.maximumUsageCount = none))
  | .invoke _ | .getOrLoad _ | .consumeUpdate _ | .resolveUnconsumedToken .. | .invalidate _
  | .administer .. | .invalidateWrite _ | .expire | .tick _ => instDecidableTrue

/-- The row has this limit. -/
def LimitedTo (maximum : ℕ+) (s : State) (_ : Action) : Prop :=
  s.row.maximumUsageCount = some maximum

instance decidableLimitedTo (maximum : ℕ+) (s : State) (a : Action) :
    Decidable (LimitedTo maximum s a) :=
  inferInstanceAs (Decidable (s.row.maximumUsageCount = some maximum))

/-- A period starts with the creation of the token or with a reset. -/
def StartsPeriod (as : List Action) : Prop :=
  as = [] ∨ ∃ earlier writer, as = earlier ++ [.administer writer .resetUsage]

/-- Since the last reset every admission has been charged, within the limit. -/
structure Charged (maximum : ℕ+) (s : State) : Prop where
  charged : s.admittedSinceReset = s.row.usageCount
  bounded : s.row.usageCount ≤ maximum

namespace Charged

variable {maximum : ℕ+}

/-- A write of an administrator charges nothing, and a reset starts anew. -/
theorem administer (h : Charged maximum s) {write : AdminWrite}
    {pendingDeletes : WriterId → Bool} (hwrite : write.apply s.row = some row) :
    Charged maximum { s with
      row
      pendingDeletes
      admittedSinceReset := if write = .resetUsage then 0 else s.admittedSinceReset } := by
  cases write with
  | resetUsage =>
      simp only [AdminWrite.apply, Option.ite_none_left_eq_some, Option.some.injEq] at hwrite
      rw [← hwrite.2]
      exact ⟨rfl, Nat.zero_le _⟩
  | update expiresAt limit projectIds =>
      simp only [AdminWrite.apply, Option.ite_none_left_eq_some, Option.some.injEq] at hwrite
      rw [← hwrite.2]
      exact ⟨h.charged, h.bounded⟩
  | revoke =>
      simp only [AdminWrite.apply, Option.some.injEq] at hwrite
      rw [← hwrite]
      exact ⟨h.charged, h.bounded⟩
  | delete =>
      simp only [AdminWrite.apply, Option.ite_none_left_eq_some, Option.some.injEq] at hwrite
      rw [← hwrite.2]
      exact ⟨h.charged, h.bounded⟩

/-- A step from a state with the limit charges what it admits. -/
theorem step (h : Charged maximum s) (hguard : Guarded s a) (hcharges : ChargesLimited s a)
    (hlimit : LimitedTo maximum s a) (hstep : AccessToken.step s a = some t) :
    Charged maximum t := by
  rw [LimitedTo] at hlimit
  cases TokenStep.of_step hstep with
  | admitUnmetered id clock projectId token hstage hpass hunlimited =>
      have hpresented : s.presented id = some token := by rw [State.presented, hstage]
      have hnone := hcharges token hpresented hpass hunlimited
      rw [hlimit] at hnone
      contradiction
  | consume id row hrow =>
      rcases consumeUpdate_spec hrow with ⟨-, -, -, -, hcharge⟩
      rcases hcharge maximum hlimit with ⟨hfree, hcharged⟩
      constructor
      · simp only [State.recordAdmission, h.charged, hcharged]
      · simp only [State.recordAdmission, hcharged]
        exact hfree
  | resolve id clock hstage hpass =>
      rcases hguard id clock rfl hstage with hreject | ⟨hunlimited, -⟩
      · exact absurd hreject hpass
      · rw [hlimit] at hunlimited
        contradiction
  | administer writer write row hwrite => exact h.administer hwrite
  | invoke | get | rowMissing | rowFound | loadProjects | set | refuse | meter | consumeMissed
  | resolveRefused | invalidate | invalidateWrite | expire | tick =>
      exact ⟨h.charged, h.bounded⟩

/-- At the start of a period nothing has been admitted. -/
theorem of_startsPeriod {now : Time} (hstart : StartsPeriod as)
    (hrun : machine.run (State.created row now) as = some s) : Charged maximum s := by
  rcases hstart with rfl | ⟨earlier, writer, rfl⟩
  · obtain rfl := Option.some.inj hrun
    exact ⟨rfl, Nat.zero_le _⟩
  · rcases Machine.run_append.mp hrun with ⟨u, -, hreset⟩
    rcases Machine.run_cons_eq_some.mp hreset with ⟨v, hstep, hnil⟩
    obtain rfl := Option.some.inj hnil
    have hwritten : AccessToken.step u (.administer writer .resetUsage) = some v := hstep
    cases TokenStep.of_step hwritten with
    | administer _ _ row hwrite =>
        simp only [AdminWrite.apply, Option.ite_none_left_eq_some, Option.some.injEq] at hwrite
        rw [← hwrite.2]
        exact ⟨rfl, Nat.zero_le _⟩

end Charged

/-! ## The quota -/

/-- The quota of a token over every interleaving.  All metered admissions are
lawful exactly when every {lit}`SELECT` of {lit}`resolveUnconsumedToken` rejects
its row or finds it unlimited and unexpired.  Then, as long as no call goes
through on a cached copy without a limit while the row has one, at most the limit
is admitted since a reset, or since the creation, from which on the limit has
stayed the same; and no call does so while the limit stays the one the token was
created with. -/
theorem quota_lawful_iff (hinit : machine.initial s) (hrun : machine.run s as = some t) :
    ((∀ x ∈ t.admissions, x.Lawful) ↔ machine.Meets Guarded s as) ∧
    (machine.Meets Guarded s as → machine.Meets ChargesLimited s as →
      ∀ maximum earlier later u, as = earlier ++ later → StartsPeriod earlier →
        machine.run s earlier = some u → machine.Meets (LimitedTo maximum) u later →
          t.admittedSinceReset ≤ maximum) ∧
    (machine.Meets Guarded s as → ∀ maximum, s.row.maximumUsageCount = some maximum →
      (∀ a ∈ as, KeepsLimit maximum a) → t.unmetered = 0 ∧ t.admittedSinceReset ≤ maximum) := by
  rcases hinit with ⟨row, now, rfl⟩
  refine ⟨run_lawful_iff hrun (by simp [State.created]), ?_, ?_⟩
  · rintro hguard hcharges maximum earlier later u rfl hstart hearlier hlimited
    rcases Machine.run_append.mp hrun with ⟨v, hv, hlater⟩
    obtain rfl : u = v := Option.some.inj (hearlier.symm.trans hv)
    have hperiod := ((Machine.meets_append.mp (hguard.and hcharges)).2 u hearlier).and hlimited
    have hcharged : Charged maximum t :=
      hperiod.invariant (fun hI hC hstep => hI.step hC.1.1 hC.1.2 hC.2 hstep)
        (Charged.of_startsPeriod hstart hearlier) hlater
    exact hcharged.charged ▸ hcharged.bounded
  · intro hguard maximum hlimit hkeep
    have hboth : machine.Meets (fun s a => Guarded s a ∧ KeepsLimit maximum a)
        (State.created row now) as :=
      hguard.and (Machine.meets_of_forall_mem fun a ha _ => hkeep a ha)
    have hmetered : Metered maximum t :=
      hboth.invariant (fun hI hC hstep => hI.step hC.1 hC.2 hstep)
        (Metered.created row now hlimit) hrun
    exact ⟨hmetered.unmetered, hmetered.charged ▸ hmetered.bounded⟩

/-! ### One unit after a reset -/

/-- A token for project 1 that may be used once. -/
def singleUse : AccessTokenRow := ⟨.active, none, some 1, 0, [1], false⟩

/-- A call on a token without a limit; then the limit is set and the count is reset. -/
def firstPeriod : List Action :=
  [.invoke 0, .getOrLoad 0, .getOrLoad 0, .getOrLoad 0, .getOrLoad 0, .authorize 0 0 (some 1),
    .administer 0 (.update none (some (some 1)) none), .invalidateWrite 0,
    .administer 1 .resetUsage]

/-- Two calls race for the one unit. -/
def secondPeriod : List Action :=
  [.invalidateWrite 1, .invoke 1, .getOrLoad 1, .getOrLoad 1, .getOrLoad 1, .getOrLoad 1,
    .authorize 1 0 (some 1), .invoke 2, .getOrLoad 2, .authorize 2 0 (some 1), .consumeUpdate 1,
    .invalidate 1, .consumeUpdate 2, .resolveUnconsumedToken 2 0]

/-- A token without a limit. -/
def unlimited : State := State.created { singleUse with maximumUsageCount := none } 0

/-- The token after {lit}`firstPeriod`, and after both periods. -/
def limitedState : State := (machine.run unlimited firstPeriod).getD unlimited
def meteredState : State := (machine.run limitedState secondPeriod).getD limitedState

/-- Before the reset one call goes through without a charge; after it one of two is charged,
and the other one is refused. -/
theorem quota_lawful_iff_metered :
    limitedState.unmetered = 1 ∧
      meteredState.admissions = [⟨singleUse, { singleUse with usageCount := 1 }, 0⟩] ∧
      meteredState.invocations 2 = some (.rejected usageExhausted) ∧
      machine.Meets Guarded unlimited (firstPeriod ++ secondPeriod) ∧
      meteredState.admittedSinceReset ≤ 1 := by
  have hadmissions : meteredState.admissions =
      [⟨singleUse, { singleUse with usageCount := 1 }, 0⟩] := by decide
  have hfirst : machine.run unlimited firstPeriod = some limitedState := rfl
  have hmain := quota_lawful_iff ⟨_, 0, rfl⟩
    (Machine.run_append.mpr ⟨_, hfirst,
      (rfl : machine.run limitedState secondPeriod = some meteredState)⟩)
  have hlawful : ∀ x ∈ meteredState.admissions, x.Lawful := by
    rw [hadmissions]
    intro x hx
    rw [List.mem_singleton] at hx
    subst hx
    exact ⟨fun _ _ => rfl, rfl, rfl, nofun⟩
  have hguard := hmain.1.mp hlawful
  refine ⟨rfl, hadmissions, rfl, hguard, ?_⟩
  exact hmain.2.1 hguard (by decide) 1 firstPeriod secondPeriod limitedState rfl
    (.inr ⟨firstPeriod.dropLast, 1, rfl⟩) hfirst (by decide)

/-! ### A reset between the two statements -/

/-- Two calls pass the guard; the first spends the unit, the second misses, the
count is reset, and the {lit}`SELECT` lets the second one through. -/
def resetTrace : List Action :=
  [.invoke 0, .getOrLoad 0, .getOrLoad 0, .getOrLoad 0, .getOrLoad 0, .authorize 0 0 (some 1),
    .invoke 1, .getOrLoad 1, .authorize 1 0 (some 1), .consumeUpdate 0, .invalidate 0,
    .consumeUpdate 1, .administer 0 .resetUsage, .resolveUnconsumedToken 1 0, .invalidate 1,
    .invalidateWrite 0, .invoke 2, .getOrLoad 2, .getOrLoad 2, .getOrLoad 2, .getOrLoad 2,
    .authorize 2 0 (some 1), .consumeUpdate 2, .invalidate 2]

/-- The token after {lit}`resetTrace`. -/
def resetState : State :=
  (machine.run (State.created singleUse 0) resetTrace).getD (State.created singleUse 0)

/-- The second call is admitted without a charge, and with the third one two
calls are admitted after the reset of a token that allows one. -/
theorem admitted_beyond_limit :
    machine.run (State.created singleUse 0) resetTrace = some resetState ∧
      (∀ a ∈ resetTrace, KeepsLimit 1 a) ∧
      ⟨singleUse, singleUse, 0⟩ ∈ resetState.admissions ∧
      ¬Admission.Lawful ⟨singleUse, singleUse, 0⟩ ∧
      resetState.admittedSinceReset = 2 := by
  refine ⟨rfl, by simp [resetTrace, KeepsLimit], by decide, ?_, by decide⟩
  intro hlawful
  exact absurd (hlawful.1 1 rfl) (by decide)

end AccessToken
end R2RPC
