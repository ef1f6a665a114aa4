import R2RPC.Cache.CacheAside
import R2RPC.DeviceToken.Service

/-!
# Finality of invalidating writes

A reader may hold a value that it loaded before a write and store it after the
{lit}`DEL` of that write.  As long as no reader does so, every entry of the cache
is newer than every completed write of its key, and a read that starts after
{lit}`writeAndInvalidate` has returned cannot see an older value.

Main results:

- Structure {lit}`CacheAside.Invariant`: entries and finished reads are newer
  than the completed writes of their key.
- Theorem {lit}`CacheAside.revocation_final`: finality along every run in which
  no reader overtakes a completed write.
- Theorem {lit}`CacheAside.revoked_token_served`: a reader that overtakes one
  serves a revoked device token.

Current gaps:

- None for the healthy cache.
-/

namespace R2RPC
namespace CacheAside

open Interleaving

variable {Db Key Value : Type*}

/-! ## The property and its condition -/

/-- Every finished read of a key that starts after the return of a write which
invalidates it yields a value loaded after that write. -/
def RevocationFinal (s : State Db Key Value) : Prop :=
  ∀ id reader entry, s.readers id = some reader → reader.stage = .done entry →
    ∀ w writer returnedAt, s.writers w = some writer → writer.returnedAt = some returnedAt →
      reader.cacheKey ∈ writer.cacheKeys → returnedAt < reader.startedAt →
        writer.writtenAt < entry.loadedAt

/-- The value at hand was loaded after every completed write of its key. -/
def NewerThanCompleted (s : State Db Key Value) (key : Key) (entry : Stamped Value) : Prop :=
  ∀ w writer returnedAt, s.writers w = some writer → writer.returnedAt = some returnedAt →
    key ∈ writer.cacheKeys → writer.writtenAt < entry.loadedAt

/-- No `SET` stores a value that was loaded before the write of a
`writeAndInvalidate` call whose `DEL` of the key has already been executed. -/
def NoOvertaking (s : State Db Key Value) (a : Action Db Key) : Prop :=
  ∀ id reader entry, a = .getOrLoad id → s.readers id = some reader →
    reader.stage = .set entry → NewerThanCompleted s reader.cacheKey entry

/-! ## The invariant -/

/-- The clock bounds every event; entries, values at hand and results are new. -/
structure Invariant (s : State Db Key Value) : Prop where
  started : ∀ id reader, s.readers id = some reader → reader.startedAt ≤ s.clock
  written : ∀ w writer, s.writers w = some writer → writer.writtenAt ≤ s.clock
  returned : ∀ w writer returnedAt, s.writers w = some writer →
    writer.returnedAt = some returnedAt →
      writer.writtenAt < returnedAt ∧ returnedAt ≤ s.clock
  cached : ∀ key entry, s.cache key = some entry → NewerThanCompleted s key entry
  holding : ∀ id reader entry, s.readers id = some reader → reader.stage = .set entry →
    reader.startedAt < entry.loadedAt
  final : RevocationFinal s

theorem Invariant.start (database : Db) :
    Invariant (State.start database : State Db Key Value) where
  started := by simp [State.start]
  written := by simp [State.start]
  returned := by simp [State.start]
  cached := by simp [State.start]
  holding := by simp [State.start]
  final := by
    intro id reader entry hreader
    simp [State.start] at hreader

namespace Invariant

variable {s t : State Db Key Value}

/-! ## Primitive updates -/

/-- Deleting entries, or storing entries that are new enough. -/
theorem of_cache (h : Invariant s) {cache : Key → Option (Stamped Value)}
    (hnew : ∀ key entry, cache key = some entry → NewerThanCompleted s key entry) :
    Invariant { s with cache } :=
  { h with cached := hnew }

theorem uncache [DecidableEq Key] (h : Invariant s) (key : Key) :
    Invariant { s with cache := Function.update s.cache key none } := by
  refine h.of_cache ?_
  intro key' entry hentry
  by_cases hkey : key' = key
  · subst hkey
    simp at hentry
  · exact h.cached key' entry (by simpa [hkey] using hentry)

/-- Letting the clock advance. -/
theorem tick (h : Invariant s) : Invariant { s with clock := s.now } :=
  { h with
    started := fun id reader hr => Nat.le_succ_of_le (h.started id reader hr)
    written := fun w writer hw => Nat.le_succ_of_le (h.written w writer hw)
    returned := by
      intro w writer returnedAt hw hret
      rcases h.returned w writer returnedAt hw hret with ⟨hlt, hle⟩
      exact ⟨hlt, Nat.le_succ_of_le hle⟩ }

/-- Moving one read: what it holds must be younger than itself, and what it
returns must be newer than every write that had returned when it started. -/
theorem setReader (h : Invariant s) {id : ReaderId} {reader : Reader Key Value}
    (hstarted : reader.startedAt ≤ s.now)
    (hholding : ∀ entry, reader.stage = .set entry → reader.startedAt < entry.loadedAt)
    (hfinal : ∀ entry, reader.stage = .done entry →
      ∀ w writer returnedAt, s.writers w = some writer → writer.returnedAt = some returnedAt →
        reader.cacheKey ∈ writer.cacheKeys → returnedAt < reader.startedAt →
          writer.writtenAt < entry.loadedAt) :
    Invariant (s.setReader id reader) := by
  have hcases : ∀ id' reader', (s.setReader id reader).readers id' = some reader' →
      reader' = reader ∨ s.readers id' = some reader' := by
    intro id' reader' hr
    by_cases hid : id' = id
    · subst hid
      simp only [State.setReader, Function.update_self, Option.some.injEq] at hr
      exact Or.inl hr.symm
    · exact Or.inr (by simpa [State.setReader, hid] using hr)
  exact
  { h.tick with
    started := by
      intro id' reader' hr
      rcases hcases id' reader' hr with rfl | hold
      · exact hstarted
      · exact h.tick.started id' reader' hold
    holding := by
      intro id' reader' entry hr hstage
      rcases hcases id' reader' hr with rfl | hold
      · exact hholding entry hstage
      · exact h.holding id' reader' entry hold hstage
    final := by
      intro id' reader' entry hr hstage
      rcases hcases id' reader' hr with rfl | hold
      · exact hfinal entry hstage
      · exact h.final id' reader' entry hold hstage }

/-- A read that neither holds nor returns a value satisfies both conditions. -/
theorem setReader_waiting (h : Invariant s) {id : ReaderId} {reader : Reader Key Value}
    (hstarted : reader.startedAt ≤ s.now)
    (hset : ∀ entry, reader.stage ≠ .set entry) (hdone : ∀ entry, reader.stage ≠ .done entry) :
    Invariant (s.setReader id reader) :=
  h.setReader hstarted (fun entry hstage => (hset entry hstage).elim)
    fun entry hstage => (hdone entry hstage).elim

/-! ## Steps -/

/-- The value that a read stored or found is newer than the writes completed
before the read started, because it is newer than every completed write. -/
theorem final_of_newer {key : Key} {entry : Stamped Value} {startedAt : Nat}
    (hnew : NewerThanCompleted s key entry) :
    ∀ w writer returnedAt, s.writers w = some writer → writer.returnedAt = some returnedAt →
      key ∈ writer.cacheKeys → returnedAt < startedAt → writer.writtenAt < entry.loadedAt :=
  fun w writer returnedAt hw hret hkey _ => hnew w writer returnedAt hw hret hkey

variable [DecidableEq Key] {service : Service Db Key Value}

/-- Every awaited command of a read that does not overtake a completed write. -/
theorem getOrLoad (h : Invariant s) {id : ReaderId}
    (hcond : NoOvertaking s (.getOrLoad id)) (hstep : s.getOrLoad service id = some t) :
    Invariant t := by
  unfold State.getOrLoad at hstep
  cases hr : s.readers id with
  | none => simp [hr] at hstep
  | some reader =>
      have hstarted : reader.startedAt ≤ s.now := Nat.le_succ_of_le (h.started id reader hr)
      simp only [hr] at hstep
      cases hstage : reader.stage with
      | get =>
          simp only [hstage, Option.some.injEq] at hstep
          rw [← hstep]
          refine h.setReader hstarted ?_ ?_
          · intro entry hset
            exact (GetOrLoad.afterGet_ne_set hset).elim
          · intro entry hdone
            have hhit := GetOrLoad.afterGet_eq_done hdone
            exact final_of_newer (h.cached reader.cacheKey entry hhit)
      | invalidate =>
          simp only [hstage, Option.some.injEq] at hstep
          rw [← hstep]
          exact (h.uncache reader.cacheKey).setReader_waiting hstarted (by simp) (by simp)
      | load =>
          simp only [hstage, Option.some.injEq] at hstep
          rw [← hstep]
          refine h.setReader hstarted ?_ ?_
          · intro entry hset
            have hload := GetOrLoad.afterLoad_eq_set hset
            rcases Option.map_eq_some_iff.mp hload with ⟨value, -, hentry⟩
            rw [← hentry]
            exact Nat.lt_succ_of_le (h.started id reader hr)
          · intro entry hdone
            exact (GetOrLoad.afterLoad_ne_done hdone).elim
      | set entry =>
          simp only [hstage, Option.some.injEq] at hstep
          rw [← hstep]
          have hnew := hcond id reader entry rfl hr hstage
          have hcached : Invariant { s with
              cache := Function.update s.cache reader.cacheKey (some entry) } := by
            refine h.of_cache ?_
            intro key entry' hentry
            by_cases hkey : key = reader.cacheKey
            · subst hkey
              simp only [Function.update_self, Option.some.injEq] at hentry
              exact hentry ▸ hnew
            · exact h.cached key entry' (by simpa [hkey] using hentry)
          refine hcached.setReader hstarted (by simp) ?_
          intro entry' hdone
          rw [GetOrLoad.done.injEq] at hdone
          exact hdone ▸ final_of_newer hnew
      | done entry => simp [hstage] at hstep
      | failed => simp [hstage] at hstep

omit [DecidableEq Key] in
/-- A new write has not returned, so nothing needs to be newer than it yet. -/
theorem write (h : Invariant s) {w : WriterId} {writeOperation : Db → Option (Db × List Key)}
    (hstep : s.write w writeOperation = some t) : Invariant t := by
  unfold State.write at hstep
  split at hstep
  · rename_i database cacheKeys hfree hwrite
    rw [← Option.some.inj hstep]
    have hcases : ∀ w' writer',
        Function.update s.writers w (some ⟨cacheKeys, s.now, none⟩) w' = some writer' →
        writer' = ⟨cacheKeys, s.now, none⟩ ∨ s.writers w' = some writer' := by
      intro w' writer' hw
      by_cases hww : w' = w
      · subst hww
        simp only [Function.update_self, Option.some.injEq] at hw
        exact Or.inl hw.symm
      · exact Or.inr (by simpa [hww] using hw)
    exact
    { h.tick with
      written := by
        intro w' writer' hw
        rcases hcases w' writer' hw with rfl | hold
        · exact Nat.le_refl _
        · exact h.tick.written w' writer' hold
      returned := by
        intro w' writer' returnedAt hw hret
        rcases hcases w' writer' hw with rfl | hold
        · contradiction
        · exact h.tick.returned w' writer' returnedAt hold hret
      cached := by
        intro key entry hentry w' writer' returnedAt hw hret
        rcases hcases w' writer' hw with rfl | hold
        · contradiction
        · exact h.cached key entry hentry w' writer' returnedAt hold hret
      final := by
        intro id reader entry hr hstage w' writer' returnedAt hw hret
        rcases hcases w' writer' hw with rfl | hold
        · contradiction
        · exact h.final id reader entry hr hstage w' writer' returnedAt hold hret }
  · contradiction

/-- The `DEL` removes every older entry of its keys, and returns later than every
read that has started. -/
theorem invalidate (h : Invariant s) {w : WriterId} (hstep : s.invalidate w = some t) :
    Invariant t := by
  unfold State.invalidate at hstep
  split at hstep
  · contradiction
  · rename_i writer hwriter
    split at hstep
    · rename_i hpending
      rw [← Option.some.inj hstep]
      have hcases : ∀ w' writer',
          Function.update s.writers w (some { writer with returnedAt := some s.now }) w' =
            some writer' →
          writer' = { writer with returnedAt := some s.now } ∨ s.writers w' = some writer' := by
        intro w' writer' hw
        by_cases hww : w' = w
        · subst hww
          simp only [Function.update_self, Option.some.injEq] at hw
          exact Or.inl hw.symm
        · exact Or.inr (by simpa [hww] using hw)
      exact
      { h.tick with
        written := by
          intro w' writer' hw
          rcases hcases w' writer' hw with rfl | hold
          · exact h.tick.written w writer hwriter
          · exact h.tick.written w' writer' hold
        returned := by
          intro w' writer' returnedAt hw hret
          rcases hcases w' writer' hw with rfl | hold
          · rw [Option.some.injEq] at hret
            rw [← hret]
            exact ⟨Nat.lt_succ_of_le (h.written w writer hwriter), Nat.le_refl _⟩
          · exact h.tick.returned w' writer' returnedAt hold hret
        cached := by
          intro key entry hentry w' writer' returnedAt hw hret hkey
          simp only at hentry
          split at hentry
          · contradiction
          · rename_i hkept
            rcases hcases w' writer' hw with rfl | hold
            · exact (hkept hkey).elim
            · exact h.cached key entry hentry w' writer' returnedAt hold hret hkey
        final := by
          intro id reader entry hr hstage w' writer' returnedAt hw hret hkey hlt
          rcases hcases w' writer' hw with rfl | hold
          · rw [Option.some.injEq] at hret
            have hstarted := h.started id reader hr
            rw [← hret] at hlt
            exact absurd hlt (Nat.not_lt.mpr (Nat.le_succ_of_le hstarted))
          · exact h.final id reader entry hr hstage w' writer' returnedAt hold hret hkey hlt }
    · contradiction

/-- Every step that overtakes no completed write preserves the invariant. -/
theorem step (h : Invariant s) {a : Action Db Key} (hcond : NoOvertaking s a)
    (hstep : CacheAside.step service s a = some t) : Invariant t := by
  cases a with
  | start id cacheKey =>
      simp only [CacheAside.step] at hstep
      split at hstep
      · exact (Option.some.inj hstep) ▸
          h.setReader_waiting (Nat.le_refl _) (by simp) (by simp)
      · contradiction
  | getOrLoad id => exact h.getOrLoad hcond hstep
  | write w writeOperation => exact h.write hstep
  | invalidate w => exact h.invalidate hstep
  | expire cacheKey => exact (Option.some.inj hstep) ▸ (h.uncache cacheKey).tick

end Invariant

/-! ## Finality -/

variable [DecidableEq Key]

/-- Revocation is final along every run in which no reader stores a value older
than a completed write of its key. -/
theorem revocation_final (service : Service Db Key Value) {s t : State Db Key Value}
    {as : List (Action Db Key)} (hinit : (machine service).initial s)
    (hmeets : (machine service).Meets NoOvertaking s as)
    (hrun : (machine service).run s as = some t) : RevocationFinal t := by
  rcases hinit with ⟨database, rfl⟩
  have hinv : Invariant t :=
    hmeets.invariant (fun hI hC hstep => hI.step hC hstep) (Invariant.start database) hrun
  exact hinv.final

/-! ### A device token -/

/-- Token 0 is active and grants project 1. -/
def activeToken : DeviceToken.DeviceTokenTable :=
  Function.update (fun _ => none) 0 (some ⟨.active, [1], false⟩)

/-- The token is revoked before the read starts. -/
def orderlyTrace : List (Action DeviceToken.DeviceTokenTable TokenId) :=
  [.write 0 (DeviceToken.revoke 0), .invalidate 0, .start 0 0, .getOrLoad 0, .getOrLoad 0,
    .getOrLoad 0]

/-- Stores and calls after {lit}`orderlyTrace`. -/
def orderlyState : State DeviceToken.DeviceTokenTable TokenId
    (Option DeviceToken.CachedDeviceToken) :=
  ((machine DeviceToken.cacheService).run (State.start activeToken) orderlyTrace).getD
    (State.start activeToken)

/-- The one {lit}`SET` of the run stores a value loaded after the one write. -/
theorem orderlyTrace_meets :
    (machine DeviceToken.cacheService).Meets NoOvertaking (State.start activeToken)
      orderlyTrace := by
  refine ⟨nofun, fun t₁ h₁ => ⟨nofun, fun t₂ h₂ => ⟨nofun, fun t₃ h₃ => ?_⟩⟩⟩
  rw [← Option.some.inj h₁] at h₂
  rw [← Option.some.inj h₂] at h₃
  rw [← Option.some.inj h₃]
  refine ⟨?_, fun t₄ h₄ => ?_⟩
  · intro id reader entry ha hr hstage
    cases ha
    cases hr
    contradiction
  rw [← Option.some.inj h₄]
  refine ⟨?_, fun t₅ h₅ => ?_⟩
  · intro id reader entry ha hr hstage
    cases ha
    cases hr
    contradiction
  rw [← Option.some.inj h₅]
  refine ⟨?_, fun _ _ => trivial⟩
  intro id reader entry ha hr hstage w writer returnedAt hw _ _
  cases ha
  cases hr
  cases hstage
  cases w with
  | zero =>
      cases hw
      decide
  | succ n =>
      change none = some writer at hw
      contradiction

/-- A read that starts after the revocation has returned sees the revoked row. -/
theorem revocation_final_orderly :
    RevocationFinal orderlyState ∧
      (orderlyState.readers 0).map (·.stage) =
        some (.done ⟨some ⟨0, .revoked, [1]⟩, 5⟩) :=
  ⟨revocation_final DeviceToken.cacheService ⟨activeToken, rfl⟩ orderlyTrace_meets rfl,
    by decide⟩

/-- Reader 0 loads the active row, a whole revocation passes, and then the reader
stores what it has loaded; reader 1 starts afterwards. -/
def overtakingTrace : List (Action DeviceToken.DeviceTokenTable TokenId) :=
  [.start 0 0, .getOrLoad 0, .getOrLoad 0, .write 0 (DeviceToken.revoke 0), .invalidate 0,
    .getOrLoad 0, .start 1 0, .getOrLoad 1]

/-- Stores and calls after {lit}`overtakingTrace`. -/
def overtakenState : State DeviceToken.DeviceTokenTable TokenId
    (Option DeviceToken.CachedDeviceToken) :=
  ((machine DeviceToken.cacheService).run (State.start activeToken) overtakingTrace).getD
    (State.start activeToken)

/-- The revoked token is served as active to a read that starts after the
revocation has returned. -/
theorem revoked_token_served :
    (machine DeviceToken.cacheService).run (State.start activeToken) overtakingTrace =
        some overtakenState ∧
      (overtakenState.readers 1).map (fun reader => (reader.startedAt, reader.stage)) =
        some (7, .done ⟨some ⟨0, .active, [1]⟩, 3⟩) ∧
      (overtakenState.writers 0).map (fun writer => (writer.writtenAt, writer.returnedAt)) =
        some (4, some 5) ∧
      ¬RevocationFinal overtakenState := by
  refine ⟨rfl, by decide, by decide, ?_⟩
  intro hfinal
  have hlt := hfinal 1 ⟨0, 7, .done ⟨some ⟨0, .active, [1]⟩, 3⟩⟩ _ rfl rfl 0 ⟨[0], 4, some 5⟩ 5
    rfl rfl (by decide) (by decide)
  exact absurd hlt (by decide)

end CacheAside
end R2RPC
