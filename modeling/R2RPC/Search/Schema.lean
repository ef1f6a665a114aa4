import R2RPC.Basic
import R2RPC.Library.Machine
import R2RPC.Library.Utf16

/-!
# The table of the search index

Every process of the back end brings the table of payloads up to date before it writes, and
several of them start at the same time. The requests of all calls interleave, and each of them
can be rejected or lose its answer.

Main results:

- Definition {lit}`schemaMachine`: {lit}`ensureTable` and {lit}`indexPayload` of any number of
  instances.
- Theorem {lit}`upgrade_safe`: the column is added once, nothing is written without it, and a
  call fails only by a fault of its own requests.
- Theorem {lit}`upgrade_ends`: a call ends after five requests, and exactly when it ends in an
  error.

Current gaps:

- What the documents say; the table is never dropped by hand.
-/

namespace R2RPC
namespace Search

open Interleaving Utf16

/-! ## Tables and their description -/

/-- A unit that `\w` matches. -/
def isWordUnit (unit : UInt16) : Bool :=
  (48 ≤ unit && unit ≤ 57) || (65 ≤ unit && unit ≤ 90) || (97 ≤ unit && unit ≤ 122) || unit == 95

/-- The lower case of ASCII. -/
def lowerUnit (unit : UInt16) : UInt16 := if 65 ≤ unit && unit ≤ 90 then unit + 32 else unit

/-- The words of a text: what lies between two `\b`. -/
def words (text : JsString) : List JsString :=
  (text.splitOnP (!isWordUnit ·)).filter (!·.isEmpty)

/-- A name that the index keeps as it is. -/
def IsColumnName (name : JsString) : Prop :=
  name ≠ [] ∧ ∀ unit ∈ name, isWordUnit unit = true ∧ lowerUnit unit = unit

instance (name : JsString) : Decidable (IsColumnName name) := inferInstanceAs (Decidable (_ ∧ _))

def appAuditJson : JsString := lit "app_audit_json"

structure Table where
  columns : List JsString
  names : ∀ name ∈ columns, IsColumnName name
  nodup : columns.Nodup

/-- `CREATE TABLE IF NOT EXISTS`. -/
def createdTable : Table where
  columns :=
    [lit "request_id", lit "project_name", lit "action_name", lit "client_id", lit "status",
      lit "http_code", lit "latency_ms", lit "created_at", lit "finished_at",
      lit "request_payload_json", lit "response_payload_json", appAuditJson, lit "error_message"]
  names := by decide
  nodup := by decide

/-- `ALTER TABLE .. ADD COLUMN`, of a column that is not there. -/
def Table.withAppAudit (table : Table) (h : appAuditJson ∉ table.columns) : Table where
  columns := table.columns ++ [appAuditJson]
  names := by
    intro name hname
    rcases List.mem_append.mp hname with hname | hname
    · exact table.names name hname
    · obtain rfl := List.mem_singleton.mp hname
      decide
  nodup := List.nodup_append.mpr
    ⟨table.nodup, by simp, fun first hfirst second hsecond => by
      obtain rfl := List.mem_singleton.mp hsecond
      rintro rfl
      exact h hfirst⟩

/-- The server of the index: how it describes a table. -/
structure Engine where
  describe : Table → JsString
  /-- Headings, types and properties. -/
  furniture : List JsString
  words_describe : ∀ table word,
    word ∈ words (describe table) ↔ word ∈ table.columns ∨ word ∈ furniture
  furniture_ne : ∀ word ∈ furniture, word.map lowerUnit ≠ appAuditJson

/-- `/\bapp_audit_json\b/i.test(..)`. -/
def hasColumn (description : JsString) : Bool :=
  (words description).any fun word => word.map lowerUnit == appAuditJson

theorem lower_of_isColumnName {name : JsString} (h : IsColumnName name) :
    name.map lowerUnit = name := by
  refine (List.map_congr_left fun unit hunit => ?_).trans (List.map_id' _)
  exact (h.2 unit hunit).2

/-- The description tells whether the column is there. -/
theorem hasColumn_describe (engine : Engine) (table : Table) :
    hasColumn (engine.describe table) = true ↔ appAuditJson ∈ table.columns := by
  rw [hasColumn, List.any_eq_true]
  constructor
  · rintro ⟨word, hword, hlower⟩
    rw [beq_iff_eq] at hlower
    rcases (engine.words_describe table word).mp hword with hcolumn | hfurniture
    · rw [lower_of_isColumnName (table.names word hcolumn)] at hlower
      exact hlower ▸ hcolumn
    · exact absurd hlower (engine.furniture_ne word hfurniture)
  · intro hcolumn
    refine ⟨appAuditJson, (engine.words_describe table _).mpr (.inl hcolumn), ?_⟩
    rw [beq_iff_eq, lower_of_isColumnName (table.names _ hcolumn)]

/-! ## Calls -/

abbrev CallId := Nat

/-- Where a call comes from. -/
inductive Purpose where
  | onModuleInit
  | indexPayload
deriving DecidableEq, Repr

/-- The request that a call awaits. -/
inductive Stage where
  | create
  | describe
  | alter
  | describeAgain
  | replace
  | done
  | failed
deriving DecidableEq, Repr

/-- The requests that are left at most. -/
def Stage.remaining : Stage → Nat
  | .create => 5
  | .describe => 4
  | .alter => 3
  | .describeAgain => 2
  | .replace => 1
  | .done | .failed => 0

/-- What follows `ensureTable`. -/
def Purpose.afterwards : Purpose → Stage
  | .onModuleInit => .done
  | .indexPayload => .replace

structure Call where
  instanceId : InstanceId
  purpose : Purpose
  stage : Stage
  /-- Some request of the call met a fault. -/
  faulted : Bool := false

structure Index where
  table : Option Table
  /-- `this.ready` of each instance. -/
  ready : InstanceId → Bool
  calls : CallId → Option Call

inductive Action where
  | start (c : CallId) (instanceId : InstanceId) (purpose : Purpose)
  | advance (c : CallId) (fault : Fault)
deriving DecidableEq, Repr

namespace Index

variable (s : Index) (c : CallId) (call : Call)

/-- The column is there. -/
def HasColumn : Prop := ∃ table, s.table = some table ∧ appAuditJson ∈ table.columns

instance : Decidable s.HasColumn :=
  decidable_of_iff (∃ table ∈ s.table, appAuditJson ∈ table.columns) Iff.rfl

def setCall (stage : Stage) (fault : Fault) : Index :=
  { s with
    calls := Function.update s.calls c
      (some { call with stage, faulted := call.faulted || fault.throws }) }

/-- The end of `ensureTable`. -/
def ensured (fault : Fault) : Index :=
  { s with ready := Function.update s.ready call.instanceId true }.setCall c call
    call.purpose.afterwards fault

/-- `CREATE TABLE IF NOT EXISTS`. -/
def atCreate (fault : Fault) : Index :=
  { s with table := fault.apply (fun table => some (table.getD createdTable)) s.table }.setCall
    c call (if fault.throws then .failed else .describe) fault

/-- `hasColumn()`, and what follows it. -/
def atDescribe (engine : Engine) (otherwise : Stage) (fault : Fault) : Index :=
  if fault.throws then s.setCall c call .failed fault
  else
    match s.table with
    | none => s.setCall c call .failed fault
    | some table =>
        if hasColumn (engine.describe table) then s.ensured c call fault
        else s.setCall c call otherwise fault

/-- The table after `ALTER TABLE`, where the server accepts it. -/
def altered : Option Table :=
  s.table.bind fun table =>
    if h : appAuditJson ∈ table.columns then none else some (table.withAppAudit h)

/-- `ALTER TABLE`: what it throws is looked into. -/
def atAlter (fault : Fault) : Index :=
  let t := { s with table := fault.apply (fun table => s.altered.or table) s.table }
  if fault.throws || s.altered.isNone then t.setCall c call .describeAgain fault
  else t.ensured c call fault

/-- `POST /replace`, which a table without the column refuses. -/
def atReplace (fault : Fault) : Index :=
  let stored := s.table.any fun table => table.columns.contains appAuditJson
  s.setCall c call (if stored && !fault.throws then .done else .failed) fault

/-- The answer to the request that a call awaits. -/
def advance (engine : Engine) (fault : Fault) : Option Index :=
  match call.stage with
  | .create => some (s.atCreate c call fault)
  | .describe => some (s.atDescribe c call engine .alter fault)
  | .alter => some (s.atAlter c call fault)
  | .describeAgain => some (s.atDescribe c call engine .failed fault)
  | .replace => some (s.atReplace c call fault)
  | .done | .failed => none

end Index

/-- Calls of any number of instances in any order. -/
def schemaMachine (engine : Engine) : Machine Index Action where
  initial s := (∀ i, s.ready i = false) ∧ ∀ c, s.calls c = none
  step s
    | .start c instanceId purpose =>
        if s.calls c = none then
          some { s with
            calls := Function.update s.calls c
              (some
                { instanceId, purpose
                  stage := if purpose = .indexPayload ∧ s.ready instanceId then .replace
                    else .create }) }
        else none
    | .advance c fault => (s.calls c).bind fun call => s.advance c call engine fault

/-! ## Tables over time -/

/-- What one request leaves of a table. -/
def TableStep (before after : Option Table) : Prop :=
  after = before ∨ before = none ∧ after = some createdTable ∨
    ∃ table h, before = some table ∧ after = some (table.withAppAudit h)

theorem mem_createdTable : appAuditJson ∈ createdTable.columns := by decide

theorem mem_withAppAudit (table : Table) (h : appAuditJson ∉ table.columns) :
    appAuditJson ∈ (table.withAppAudit h).columns :=
  List.mem_append_right _ List.mem_cons_self

/-- Tables are upgraded once. -/
theorem TableStep.trans {first second third : Option Table} (h : TableStep first second)
    (hnext : TableStep second third) : TableStep first third := by
  rcases hnext with rfl | ⟨rfl, rfl⟩ | ⟨table, hmissing, rfl, rfl⟩
  · exact h
  · rcases h with h | ⟨-, h⟩ | ⟨_, _, -, h⟩
    · exact .inr (.inl ⟨h.symm, rfl⟩)
    · cases h
    · cases h
  · rcases h with h | ⟨-, h⟩ | ⟨older, _, -, h⟩
    · exact .inr (.inr ⟨table, hmissing, h.symm, rfl⟩)
    · rw [Option.some.inj h] at hmissing
      exact absurd mem_createdTable hmissing
    · rw [Option.some.inj h] at hmissing
      exact absurd (mem_withAppAudit older _) hmissing

namespace Index

variable {s t : Index} {c : CallId} {call : Call} {engine : Engine} {fault : Fault}

theorem isSome_of_tableStep (h : TableStep s.table t.table) (hsome : s.table.isSome = true) :
    t.table.isSome = true := by
  rcases h with h | ⟨-, h⟩ | ⟨_, _, -, h⟩
  · rwa [h]
  · rw [h]
    rfl
  · rw [h]
    rfl

theorem HasColumn.tableStep (h : s.HasColumn) (hstep : TableStep s.table t.table) :
    t.HasColumn := by
  rcases h with ⟨table, htable, hcolumn⟩
  rcases hstep with hsame | ⟨hnone, -⟩ | ⟨other, hmissing, hother, -⟩
  · exact ⟨table, hsame.trans htable, hcolumn⟩
  · rw [hnone] at htable
    cases htable
  · rw [hother, Option.some.injEq] at htable
    exact absurd (htable ▸ hcolumn) hmissing

/-- What holds of a call that awaits a request. -/
def Holds (s : Index) (call : Call) : Prop :=
  match call.stage with
  | .create => True
  | .describe | .alter => s.table.isSome = true
  | .describeAgain => s.table.isSome = true ∧ (call.faulted = false → s.HasColumn)
  | .replace | .done => s.HasColumn
  | .failed => call.faulted = true

theorem Holds.tableStep (h : s.Holds call) (hstep : TableStep s.table t.table) :
    t.Holds call := by
  unfold Holds at h ⊢
  cases hstage : call.stage with
  | create => trivial
  | describe => rw [hstage] at h; exact isSome_of_tableStep hstep h
  | alter => rw [hstage] at h; exact isSome_of_tableStep hstep h
  | describeAgain =>
      rw [hstage] at h
      exact ⟨isSome_of_tableStep hstep h.1, fun hfault => (h.2 hfault).tableStep hstep⟩
  | replace => rw [hstage] at h; exact h.tableStep hstep
  | done => rw [hstage] at h; exact h.tableStep hstep
  | failed => rw [hstage] at h; exact h

/-- The answer with which a call goes on: what `ALTER TABLE` throws does not matter where the
second look finds the column. -/
def Serves (s : Index) (call : Call) (fault : Fault) : Prop :=
  call.stage = .alter ∨ fault.throws = false ∧ (call.stage = .describeAgain → s.HasColumn)

instance (s : Index) (call : Call) (fault : Fault) : Decidable (s.Serves call fault) :=
  inferInstanceAs (Decidable (_ ∨ _ ∧ _))

/-- What the answer to a request changes. -/
structure Advanced (s t : Index) (c : CallId) (call call' : Call) (fault : Fault) : Prop where
  calls : t.calls = Function.update s.calls c (some call')
  table : TableStep s.table t.table
  ready : ∀ i, t.ready i = true → s.ready i = true ∨ t.HasColumn
  stays : ∀ i, s.ready i = true → t.ready i = true
  instanceId : call'.instanceId = call.instanceId
  holds : t.Holds call'
  remaining : call'.stage.remaining < call.stage.remaining
  failed : call'.stage = .failed ↔ ¬ s.Serves call fault
  ensured : call'.stage = .replace ∨ call'.stage = .done →
    call.stage = .replace ∨ t.ready call.instanceId = true

/-- A request that fails by a fault. -/
theorem advanced_of_fault {fault : Fault} (hfault : fault.throws = true)
    (htable : TableStep s.table t.table) (hready : t.ready = s.ready)
    (hcalls : t.calls = s.calls) (hremaining : 0 < call.stage.remaining)
    (halter : call.stage ≠ .alter) :
    Advanced s (t.setCall c call .failed fault) c call
      { call with stage := .failed, faulted := call.faulted || fault.throws } fault where
  calls := by rw [← hcalls]; rfl
  table := htable
  ready := fun i hi => .inl (by rw [← hready]; exact hi)
  stays := fun i hi => by rw [← hready] at hi; exact hi
  instanceId := rfl
  holds := by
    change (call.faulted || fault.throws) = true
    rw [hfault, Bool.or_true]
  remaining := hremaining
  failed := by
    rw [Serves, hfault]
    simp [halter]
  ensured := by simp

/-- The end of `ensureTable`, where the column is there. -/
theorem advanced_of_ensured (htable : TableStep s.table t.table) (hcalls : t.calls = s.calls)
    (hready : t.ready = s.ready) (hcolumn : t.HasColumn) (hremaining : 1 < call.stage.remaining)
    (hserves : s.Serves call fault) :
    ∃ call', Advanced s (t.ensured c call fault) c call call' fault := by
  have hself : (t.ensured c call fault).ready call.instanceId = true :=
    Function.update_self ..
  refine ⟨{ call with
    stage := call.purpose.afterwards, faulted := call.faulted || fault.throws }, ?_⟩
  have hafter : t.Holds { call with
      stage := call.purpose.afterwards, faulted := call.faulted || fault.throws } ∧
      call.purpose.afterwards.remaining ≤ 1 ∧ call.purpose.afterwards ≠ .failed := by
    cases call.purpose with
    | onModuleInit => exact ⟨hcolumn, Nat.zero_le 1, by decide⟩
    | indexPayload => exact ⟨hcolumn, le_refl 1, by decide⟩
  constructor
  · rw [← hcalls]
    rfl
  · exact htable
  · exact fun i _ => .inr hcolumn
  · intro i hi
    change Function.update t.ready call.instanceId true i = true
    rw [Function.update_apply]
    split
    · rfl
    · rw [hready]
      exact hi
  · rfl
  · exact hafter.1
  · exact lt_of_le_of_lt hafter.2.1 hremaining
  · exact iff_of_false hafter.2.2 (not_not.mpr hserves)
  · exact fun _ => .inr hself

theorem advanced_of_create (hstage : call.stage = .create) :
    ∃ call', Advanced s (s.atCreate c call fault) c call call' fault := by
  have htable : TableStep s.table
      (fault.apply (fun table => some (table.getD createdTable)) s.table) := by
    rcases fault.apply_cases (fun table => some (table.getD createdTable)) s.table with
      h | ⟨-, h⟩
    · exact .inl h
    · rw [h]
      cases s.table with
      | none => exact .inr (.inl ⟨rfl, rfl⟩)
      | some table => exact .inl rfl
  rw [atCreate]
  by_cases hfault : fault.throws = true
  · rw [if_pos hfault]
    exact ⟨_, advanced_of_fault hfault htable rfl rfl (by rw [hstage]; decide)
      (by rw [hstage]; decide)⟩
  · rw [if_neg hfault]
    have hserves : s.Serves call fault := by
      rw [Serves, hstage]
      simpa using hfault
    refine ⟨_, rfl, htable, fun i hi => .inl hi, fun i hi => hi, rfl, ?_, ?_, ?_, by simp⟩
    · cases fault with
      | none => rfl
      | rejected => exact absurd rfl hfault
      | lost => exact absurd rfl hfault
    · rw [hstage]
      exact Nat.lt_succ_self 4
    · exact iff_of_false (by simp) (not_not.mpr hserves)

/-- `hasColumn()` of a call whose table is there. -/
theorem advanced_of_describe {otherwise : Stage} (htable : s.table.isSome = true)
    (hremaining : 1 < call.stage.remaining) (halter : call.stage ≠ .alter)
    (hensured : otherwise ≠ .replace ∧ otherwise ≠ .done)
    (hother : ¬ s.HasColumn → fault.throws = false →
      s.Holds { call with stage := otherwise, faulted := call.faulted || fault.throws } ∧
        otherwise.remaining < call.stage.remaining ∧
        (otherwise = .failed ↔ call.stage = .describeAgain)) :
    ∃ call', Advanced s (s.atDescribe c call engine otherwise fault) c call call' fault := by
  rw [atDescribe]
  by_cases hfault : fault.throws = true
  · rw [if_pos hfault]
    exact ⟨_, advanced_of_fault hfault (.inl rfl) rfl rfl (by omega) halter⟩
  · rw [Bool.not_eq_true] at hfault
    obtain ⟨table, hsome⟩ := Option.isSome_iff_exists.mp htable
    rw [hfault, if_neg Bool.false_ne_true, hsome]
    by_cases hcolumn : hasColumn (engine.describe table) = true
    · have hthere : s.HasColumn := ⟨table, hsome, (hasColumn_describe engine table).mp hcolumn⟩
      simp only [hcolumn, if_true]
      exact advanced_of_ensured (.inl rfl) rfl rfl hthere hremaining
        (.inr ⟨hfault, fun _ => hthere⟩)
    · have hmissing : ¬ s.HasColumn := by
        rintro ⟨other, hsame, hthere⟩
        rw [hsome, Option.some.injEq] at hsame
        exact hcolumn ((hasColumn_describe engine table).mpr (hsame ▸ hthere))
      obtain ⟨hholds, hless, hfailed⟩ := hother hmissing hfault
      simp only [hcolumn, if_false, Bool.false_eq_true]
      refine ⟨_, rfl, .inl rfl, fun i hi => .inl hi, fun i hi => hi, rfl, hholds, hless, ?_, ?_⟩
      · rw [Serves]
        simpa [halter, hfault, hmissing] using hfailed
      · simp [hensured]

/-- The table behind `ALTER TABLE`. -/
theorem table_altered (htable : s.table.isSome = true) :
    (∃ table h, s.table = some table ∧ s.altered = some (table.withAppAudit h)) ∨
      s.HasColumn ∧ s.altered = none := by
  obtain ⟨table, hsome⟩ := Option.isSome_iff_exists.mp htable
  by_cases hcolumn : appAuditJson ∈ table.columns
  · exact .inr ⟨⟨table, hsome, hcolumn⟩, by rw [altered, hsome, Option.bind_some, dif_pos hcolumn]⟩
  · exact .inl ⟨table, hcolumn, hsome, by rw [altered, hsome, Option.bind_some, dif_neg hcolumn]⟩

theorem advanced_of_alter (hstage : call.stage = .alter) (htable : s.table.isSome = true) :
    ∃ call', Advanced s (s.atAlter c call fault) c call call' fault := by
  have hremaining : Stage.describeAgain.remaining < call.stage.remaining := by rw [hstage]; decide
  have hserves : s.Serves call fault := .inl hstage
  have hfailed : Stage.describeAgain = .failed ↔ ¬ s.Serves call fault :=
    iff_of_false (by decide) (not_not.mpr hserves)
  rw [atAlter]
  rcases table_altered htable with ⟨table, hmissing, hsome, haltered⟩ | ⟨hcolumn, haltered⟩
  · have hstep : TableStep s.table
        (fault.apply (fun table => s.altered.or table) s.table) := by
      rcases fault.apply_cases (fun table => s.altered.or table) s.table with h | ⟨-, h⟩
      · exact .inl h
      · rw [h, haltered, Option.some_or]
        exact .inr (.inr ⟨table, hmissing, hsome, rfl⟩)
    by_cases hfault : fault.throws = true
    · simp only [hfault, Bool.true_or, if_true]
      refine ⟨_, rfl, hstep, fun i hi => .inl hi, fun i hi => hi, rfl,
        ⟨isSome_of_tableStep hstep htable, fun h => ?_⟩, hremaining, hfailed, by simp⟩
      rw [hfault, Bool.or_true] at h
      contradiction
    · have hnone : fault = .none := by
        cases fault with
        | none => rfl
        | rejected => exact absurd rfl hfault
        | lost => exact absurd rfl hfault
      subst hnone
      rw [haltered] at hstep ⊢
      refine advanced_of_ensured hstep rfl rfl ⟨_, rfl, mem_withAppAudit table hmissing⟩ ?_ hserves
      rw [hstage]
      decide
  · have hsame : fault.apply (fun table : Option Table => table) s.table = s.table := by
      rcases fault.apply_cases (fun table : Option Table => table) s.table with h | ⟨-, h⟩
      · exact h
      · exact h
    simp only [haltered, Option.none_or, hsame, Option.isNone_none, Bool.or_true, if_true]
    exact ⟨_, rfl, .inl rfl, fun i hi => .inl hi, fun i hi => hi, rfl,
      ⟨htable, fun _ => hcolumn⟩, hremaining, hfailed, by simp⟩

theorem advanced_of_replace (hstage : call.stage = .replace) (hcolumn : s.HasColumn) :
    ∃ call', Advanced s (s.atReplace c call fault) c call call' fault := by
  obtain ⟨table, hsome, hthere⟩ := hcolumn
  have hstored : (s.table.any fun table => table.columns.contains appAuditJson) = true := by
    rw [hsome, Option.any_some, List.contains_iff_mem]
    exact hthere
  rw [atReplace, hstored, Bool.true_and]
  by_cases hfault : fault.throws = true
  · rw [hfault]
    exact ⟨_, advanced_of_fault hfault (.inl rfl) rfl rfl (by rw [hstage]; decide)
      (by rw [hstage]; decide)⟩
  · have hserves : s.Serves call fault := by
      rw [Serves, hstage]
      simpa using hfault
    simp only [hfault, Bool.not_false, if_true]
    exact ⟨_, rfl, .inl rfl, fun i hi => .inl hi, fun i hi => hi, rfl, ⟨table, hsome, hthere⟩,
      (by rw [hstage]; decide : Stage.done.remaining < call.stage.remaining),
      iff_of_false (by simp) (not_not.mpr hserves), fun _ => .inl hstage⟩

/-- The answer to any request of a call. -/
theorem advanced_of_advance (hholds : s.Holds call)
    (h : s.advance c call engine fault = some t) : ∃ call', Advanced s t c call call' fault := by
  unfold Holds at hholds
  unfold advance at h
  cases hstage : call.stage with
  | create =>
      rw [hstage] at h
      obtain rfl := Option.some.inj h
      exact advanced_of_create hstage
  | describe =>
      rw [hstage] at h hholds
      obtain rfl := Option.some.inj h
      refine advanced_of_describe hholds (by rw [hstage]; decide) (by rw [hstage]; decide)
        (by decide) fun _ _ => ⟨hholds, ?_, ?_⟩ <;> rw [hstage] <;> decide
  | alter =>
      rw [hstage] at h hholds
      obtain rfl := Option.some.inj h
      exact advanced_of_alter hstage hholds
  | describeAgain =>
      rw [hstage] at h hholds
      obtain rfl := Option.some.inj h
      refine advanced_of_describe hholds.1 (by rw [hstage]; decide) (by rw [hstage]; decide)
        (by decide) fun hmissing _ => ⟨?_, ?_, iff_of_true rfl hstage⟩
      · -- another instance would have added the column: its own `ALTER TABLE` met a fault
        have hfaulted : call.faulted = true := by
          by_contra hfalse
          exact hmissing (hholds.2 (by simpa using hfalse))
        change (call.faulted || fault.throws) = true
        rw [hfaulted, Bool.true_or]
      · rw [hstage]
        decide
  | replace =>
      rw [hstage] at h hholds
      obtain rfl := Option.some.inj h
      exact advanced_of_replace hstage hholds
  | done =>
      rw [hstage] at h
      cases h
  | failed =>
      rw [hstage] at h
      cases h

end Index

/-! ## Every interleaving -/

variable {engine : Engine} {s₀ s t : Index} {a : Action} {as : List Action}

/-- What holds of every reachable index. -/
structure Consistent (s : Index) : Prop where
  ready : ∀ i, s.ready i = true → s.HasColumn
  calls : ∀ c call, s.calls c = some call → s.Holds call
  ensured : ∀ c call, s.calls c = some call → call.stage = .replace ∨ call.stage = .done →
    s.ready call.instanceId = true

theorem Consistent.initial (h : (schemaMachine engine).initial s) : Consistent s where
  ready i hi := by
    rw [h.1 i] at hi
    contradiction
  calls c call hc := by
    rw [h.2 c] at hc
    cases hc
  ensured c call hc := by
    rw [h.2 c] at hc
    cases hc

/-- A call starts with a request that its instance leaves to it. -/
theorem step_start {c : CallId} {instanceId : InstanceId} {purpose : Purpose}
    (h : (schemaMachine engine).step s (.start c instanceId purpose) = some t) :
    s.calls c = none ∧ ∃ call, call.instanceId = instanceId ∧ t.table = s.table ∧
      t.ready = s.ready ∧ t.calls = Function.update s.calls c (some call) ∧
      (call.stage = .create ∨ call.stage = .replace ∧ s.ready instanceId = true) := by
  unfold schemaMachine at h
  simp only at h
  split at h
  next hnone =>
    obtain rfl := Option.some.inj h
    refine ⟨hnone, _, rfl, rfl, rfl, rfl, ?_⟩
    simp only
    split
    next hready => exact .inr ⟨rfl, hready.2⟩
    next => exact .inl rfl
  next => cases h

/-- A request is answered. -/
theorem step_advance (hI : Consistent s) {c : CallId} {fault : Fault}
    (h : (schemaMachine engine).step s (.advance c fault) = some t) :
    ∃ call call', s.calls c = some call ∧ Index.Advanced s t c call call' fault := by
  obtain ⟨call, hcall, h⟩ := Option.bind_eq_some_iff.mp h
  obtain ⟨call', h⟩ := Index.advanced_of_advance (hI.calls c call hcall) h
  exact ⟨call, call', hcall, h⟩

theorem tableStep_step (hI : Consistent s) (h : (schemaMachine engine).step s a = some t) :
    TableStep s.table t.table := by
  cases a with
  | start c instanceId purpose =>
      obtain ⟨-, call, -, htable, -⟩ := step_start h
      exact .inl htable
  | advance c fault =>
      obtain ⟨call, call', -, h⟩ := step_advance hI h
      exact h.table

theorem Consistent.step (hI : Consistent s) (h : (schemaMachine engine).step s a = some t) :
    Consistent t := by
  have htable := tableStep_step hI h
  cases a with
  | start c instanceId purpose =>
      obtain ⟨-, call, hinstanceId, -, hready, hcalls, hstage⟩ := step_start h
      refine ⟨fun i hi => (hI.ready i (hready ▸ hi)).tableStep htable, fun d other hother => ?_,
        fun d other hother hended => ?_⟩
      · rw [hcalls, Function.update_apply] at hother
        split at hother
        · obtain rfl := Option.some.inj hother
          unfold Index.Holds
          rcases hstage with hstage | ⟨hstage, hinstance⟩ <;> rw [hstage]
          · trivial
          · exact (hI.ready _ hinstance).tableStep htable
        · exact (hI.calls d other hother).tableStep htable
      · rw [hready]
        rw [hcalls, Function.update_apply] at hother
        split at hother
        · obtain rfl := Option.some.inj hother
          rcases hstage with hstage | ⟨-, hinstance⟩
          · rw [hstage] at hended
            simp at hended
          · rwa [hinstanceId]
        · exact hI.ensured d other hother hended
  | advance c fault =>
      obtain ⟨call, call', hcall, h⟩ := step_advance hI h
      refine ⟨fun i hi => ?_, fun d other hother => ?_, fun d other hother hended => ?_⟩
      · rcases h.ready i hi with hready | hcolumn
        · exact (hI.ready i hready).tableStep htable
        · exact hcolumn
      · rw [h.calls, Function.update_apply] at hother
        split at hother
        · obtain rfl := Option.some.inj hother
          exact h.holds
        · exact (hI.calls d other hother).tableStep htable
      · rw [h.calls, Function.update_apply] at hother
        split at hother
        · obtain rfl := Option.some.inj hother
          rw [h.instanceId]
          rcases h.ensured hended with hstage | hready
          · exact h.stays _ (hI.ensured c call hcall (.inl hstage))
          · exact hready
        · exact h.stays _ (hI.ensured d other hother hended)

/-- However the requests of the instances interleave, a table is created whole or gets the column
once and keeps what it has; an instance that is ready has seen the column; documents are written
into a table with the column; and a call fails only where one of its own requests met a fault. -/
theorem upgrade_safe (hinit : (schemaMachine engine).initial s₀)
    (hrun : (schemaMachine engine).run s₀ as = some s) :
    TableStep s₀.table s.table ∧ (∀ i, s.ready i = true → s.HasColumn) ∧
      ∀ c call, s.calls c = some call →
        (call.stage = .replace ∨ call.stage = .done → s.HasColumn) ∧
        (call.stage = .failed → call.faulted = true) := by
  have hall : Consistent s ∧ TableStep s₀.table s.table :=
    Machine.run_invariant (I := fun s => Consistent s ∧ TableStep s₀.table s.table)
      (fun h hstep => ⟨h.1.step hstep, h.2.trans (tableStep_step h.1 hstep)⟩)
      ⟨.initial hinit, .inl rfl⟩ hrun
  refine ⟨hall.2, hall.1.ready, fun c call hcall => ?_⟩
  have hholds := hall.1.calls c call hcall
  unfold Index.Holds at hholds
  constructor
  · rintro (hstage | hstage) <;> rw [hstage] at hholds <;> exact hholds
  · intro hstage
    rwa [hstage] at hholds

/-! ## An index that is older than the column -/

theorem words_cons {word : JsString} (h : IsColumnName word) (rest : JsString) :
    words (word ++ 10 :: rest) = word :: words rest := by
  have hplain : ∀ unit ∈ word, ¬ ((!isWordUnit unit) = true) := by
    intro unit hunit
    simp [(h.2 unit hunit).1]
  rw [words, List.splitOnP_append_cons_of_forall_mem (by simpa using hplain) 10 (by decide),
    List.filter_cons_of_pos, words]
  simpa using h.1

theorem words_lines {names : List JsString} (h : ∀ name ∈ names, IsColumnName name) :
    words (names.flatMap (· ++ [10])) = names := by
  induction names with
  | nil => rfl
  | cons name names ih =>
      rw [List.forall_mem_cons] at h
      rw [List.flatMap_cons, List.append_assoc, List.singleton_append, words_cons h.1, ih h.2]

/-- A server that describes a table by its columns, one in a line. -/
def plainEngine : Engine where
  describe table := table.columns.flatMap (· ++ [10])
  furniture := []
  words_describe table word := by
    rw [words_lines table.names]
    simp
  furniture_ne := by simp

/-- A table that is older than the column. -/
def olderTable : Table where
  columns := [lit "request_id", lit "error_message"]
  names := by decide
  nodup := by decide

/-- Two instances find the column missing: the second one is told that it is there. -/
def race : List Action :=
  [.start 0 0 .onModuleInit, .start 1 1 .indexPayload, .advance 0 .none, .advance 1 .none,
    .advance 0 .none, .advance 1 .none, .advance 0 .none, .advance 1 .none, .advance 1 .none,
    .advance 1 .none]

theorem race_runs :
    ∃ s, (schemaMachine plainEngine).run ⟨some olderTable, fun _ => false, fun _ => none⟩ race =
      some s ∧ s.ready 1 = true := by
  have hready : ((schemaMachine plainEngine).run ⟨some olderTable, fun _ => false, fun _ => none⟩
      race).any (·.ready 1) = true := by decide +kernel
  rcases hrun : (schemaMachine plainEngine).run ⟨some olderTable, fun _ => false, fun _ => none⟩
    race with _ | s
  · rw [hrun] at hready
    contradiction
  · rw [hrun] at hready
    exact ⟨s, rfl, hready⟩

theorem upgrade_safe_race :
    ∃ s, (schemaMachine plainEngine).run ⟨some olderTable, fun _ => false, fun _ => none⟩ race =
      some s ∧ s.HasColumn ∧ TableStep (some olderTable) s.table := by
  obtain ⟨s, hrun, hready⟩ := race_runs
  have hsafe := upgrade_safe ⟨fun _ => rfl, fun _ => rfl⟩ hrun
  exact ⟨s, hrun, hsafe.2.1 1 hready, hsafe.1⟩

/-! ## Every call ends -/

/-- The requests that a call has left. -/
def Index.remaining (s : Index) (c : CallId) : Nat :=
  ((s.calls c).map (·.stage.remaining)).getD 5

def Action.isAnswer (c : CallId) : Action → Bool
  | .start .. => false
  | .advance d _ => d = c

theorem remaining_step (hI : Consistent s) (h : (schemaMachine engine).step s a = some t)
    (c : CallId) :
    t.remaining c + (if a.isAnswer c then 1 else 0) ≤ s.remaining c := by
  cases a with
  | start d instanceId purpose =>
      obtain ⟨hnone, call, -, -, -, hcalls, -⟩ := step_start h
      have hle : call.stage.remaining ≤ 5 := by cases call.stage <;> decide
      by_cases hsame : c = d
      · subst hsame
        simpa [Index.remaining, Action.isAnswer, hcalls, hnone] using hle
      · simp [Index.remaining, Action.isAnswer, hcalls, Function.update_of_ne hsame]
  | advance d fault =>
      obtain ⟨call, call', hcall, h⟩ := step_advance hI h
      have hlt := h.remaining
      by_cases hsame : c = d
      · subst hsame
        simp only [Index.remaining, Action.isAnswer, h.calls, hcall, Function.update_self,
          Option.map_some, Option.getD_some, decide_true, if_true]
        omega
      · simp [Index.remaining, Action.isAnswer, h.calls, Function.update_of_ne hsame,
          Ne.symm hsame]

/-- A run in which the call gets the answers with which it goes on. -/
def Served (c : CallId) (s : Index) : Action → Prop
  | .start .. => True
  | .advance d fault => d = c → ∀ call ∈ s.calls c, s.Serves call fault

instance (c : CallId) (s : Index) : ∀ a, Decidable (Served c s a)
  | .start .. => inferInstanceAs (Decidable True)
  | .advance .. => inferInstanceAs (Decidable (_ → ∀ call ∈ _, _))

/-- The call has not ended in an error. -/
def Unfailed (c : CallId) (s : Index) : Prop := ∀ call ∈ s.calls c, call.stage ≠ .failed

theorem unfailed_step (hI : Consistent s) {c : CallId} (hunfailed : Unfailed c s)
    (h : (schemaMachine engine).step s a = some t) : Unfailed c t ↔ Served c s a := by
  cases a with
  | start d instanceId purpose =>
      obtain ⟨hnone, call, -, -, -, hcalls, hstage⟩ := step_start h
      refine iff_of_true (fun other hother => ?_) trivial
      rw [Option.mem_def, hcalls, Function.update_apply] at hother
      split at hother
      · obtain rfl := Option.some.inj hother
        rcases hstage with hstage | ⟨hstage, -⟩ <;> rw [hstage] <;> decide
      · exact hunfailed other hother
  | advance d fault =>
      obtain ⟨call, call', hcall, h⟩ := step_advance hI h
      by_cases hsame : d = c
      · subst hsame
        simp [Unfailed, Served, h.calls, hcall, h.failed]
      · refine iff_of_true (fun other hother => ?_) fun heq => absurd heq hsame
        rw [Option.mem_def, h.calls, Function.update_of_ne (Ne.symm hsame)] at hother
        exact hunfailed other hother

/-- Errors stay. -/
theorem unfailed_of_step (hI : Consistent s) {c : CallId}
    (h : (schemaMachine engine).step s a = some t) (hunfailed : Unfailed c t) : Unfailed c s := by
  intro call hcall hstage
  cases a with
  | start d instanceId purpose =>
      obtain ⟨hnone, other, -, -, -, hcalls, -⟩ := step_start h
      have hne : c ≠ d := by
        rintro rfl
        rw [Option.mem_def, hnone] at hcall
        cases hcall
      refine hunfailed call ?_ hstage
      rwa [Option.mem_def, hcalls, Function.update_of_ne hne]
  | advance d fault =>
      obtain ⟨other, other', hother, h⟩ := step_advance hI h
      have hne : c ≠ d := by
        rintro rfl
        obtain rfl := Option.some.inj (hother.symm.trans hcall)
        have hless := h.remaining
        rw [hstage] at hless
        exact absurd hless (Nat.not_lt_zero _)
      refine hunfailed call ?_ hstage
      rwa [Option.mem_def, h.calls, Function.update_of_ne hne]

theorem unfailed_of_run (hI : Consistent s) {c : CallId}
    (hrun : (schemaMachine engine).run s as = some t) (hunfailed : Unfailed c t) :
    Unfailed c s := by
  induction as generalizing s with
  | nil =>
      obtain rfl := Option.some.inj hrun
      exact hunfailed
  | cons a as ih =>
      obtain ⟨u, hstep, hrest⟩ := Machine.run_cons_eq_some.mp hrun
      exact unfailed_of_step hI hstep (ih (hI.step hstep) hrest)

/-- A call is served in a run exactly when it has not failed at its end. -/
theorem served_iff (hI : Consistent s) {c : CallId} (hunfailed : Unfailed c s)
    (hrun : (schemaMachine engine).run s as = some t) :
    (schemaMachine engine).Meets (Served c) s as ↔ Unfailed c t := by
  rw [Machine.meets_iff_always (fun hI => hI.step)
    (fun hI hunfailed hstep => unfailed_step hI hunfailed hstep) hI hunfailed hrun]
  constructor
  · intro h
    exact h as [] t (List.append_nil as).symm hrun
  · rintro h pre post u rfl hpre
    obtain ⟨v, hv, hpost⟩ := Machine.run_append.mp hrun
    obtain rfl := Option.some.inj (hpre.symm.trans hv)
    have hu : Consistent u := Machine.run_invariant (fun hI => hI.step) hI hpre
    exact unfailed_of_run hu hpost h

/-- Every answer takes one of the requests that a call has left. -/
theorem remaining_run (hI : Consistent s) (hrun : (schemaMachine engine).run s as = some t)
    (c : CallId) : t.remaining c + as.countP (Action.isAnswer c) ≤ s.remaining c := by
  induction as generalizing s with
  | nil =>
      obtain rfl := Option.some.inj hrun
      exact le_refl _
  | cons a as ih =>
      obtain ⟨u, hstep, hrest⟩ := Machine.run_cons_eq_some.mp hrun
      have hone := remaining_step hI hstep c
      have hmore := ih (hI.step hstep) hrest
      rw [List.countP_cons]
      omega

/-- Whatever the others do, a call ends after five requests, and it ends in an error exactly where
it got an answer that it does not go on with. Otherwise it ends with its instance ready and the
column there, or there is a request of it that can be answered. -/
theorem upgrade_ends (hinit : (schemaMachine engine).initial s₀)
    (hrun : (schemaMachine engine).run s₀ as = some s) {c : CallId} {call : Call}
    (hcall : s.calls c = some call) :
    as.countP (Action.isAnswer c) ≤ 5 ∧
      (call.stage = .failed ↔ ¬ (schemaMachine engine).Meets (Served c) s₀ as) ∧
      (call.faulted = false → (schemaMachine engine).Meets (Served c) s₀ as) ∧
      ((schemaMachine engine).Meets (Served c) s₀ as →
        call.stage = .done ∧ s.ready call.instanceId = true ∧ s.HasColumn ∨
          as.countP (Action.isAnswer c) < 5 ∧
            ∀ fault, ((schemaMachine engine).step s (.advance c fault)).isSome = true) := by
  have hstart : s₀.remaining c = 5 := by rw [Index.remaining, hinit.2 c]; rfl
  have htotal := remaining_run (.initial hinit) hrun c
  have hI : Consistent s :=
    Machine.run_invariant (fun hI => hI.step) (.initial hinit) hrun
  have hunfailed : Unfailed c s₀ := by
    intro other hother
    rw [Option.mem_def, hinit.2 c] at hother
    cases hother
  have hserved : (schemaMachine engine).Meets (Served c) s₀ as ↔ call.stage ≠ .failed := by
    rw [served_iff (.initial hinit) hunfailed hrun]
    simp [Unfailed, hcall]
  have hholds := hI.calls c call hcall
  unfold Index.Holds at hholds
  refine ⟨by omega, by rw [hserved, not_not], fun hfaulted => ?_, fun hmeets => ?_⟩
  · refine hserved.mpr fun hstage => ?_
    rw [hstage, hfaulted] at hholds
    contradiction
  · have hleft : s.remaining c = call.stage.remaining := by rw [Index.remaining, hcall]; rfl
    have hanswer : ∀ fault, (schemaMachine engine).step s (.advance c fault) =
        s.advance c call engine fault := by
      intro fault
      change (s.calls c).bind _ = _
      rw [hcall, Option.bind_some]
    cases hstage : call.stage with
    | done =>
        rw [hstage] at hholds
        exact .inl ⟨rfl, hI.ensured c call hcall (.inr hstage), hholds⟩
    | failed => exact absurd hstage (hserved.mp hmeets)
    | _ =>
        refine .inr ⟨?_, fun fault => ?_⟩
        · have hpos : 0 < s.remaining c := by
            rw [hleft, hstage]
            decide
          omega
        · rw [hanswer, Index.advance, hstage]
          rfl

/-- The answer to the first instance's `ALTER TABLE` is lost, the second one is told that the
column is there: both look once more. -/
def lostReply : List Action :=
  [.start 0 0 .indexPayload, .start 1 1 .indexPayload, .advance 0 .none, .advance 1 .none,
    .advance 0 .none, .advance 1 .none, .advance 0 .lost, .advance 1 .none, .advance 1 .none,
    .advance 0 .none, .advance 0 .none, .advance 1 .none]

theorem upgrade_ends_lostReply :
    ∃ s call, (schemaMachine plainEngine).run ⟨some olderTable, fun _ => false, fun _ => none⟩
        lostReply = some s ∧
      s.calls 0 = some call ∧ call.faulted = true ∧
      call.stage = .done ∧ s.ready call.instanceId = true ∧ s.HasColumn := by
  have hrun : ((schemaMachine plainEngine).run ⟨some olderTable, fun _ => false, fun _ => none⟩
      lostReply).any (fun s => (s.calls 0).any (·.faulted)) = true := by decide +kernel
  have hmeets : (schemaMachine plainEngine).Meets (Served 0)
      ⟨some olderTable, fun _ => false, fun _ => none⟩ lostReply := by decide +kernel
  have hfive : ¬ lostReply.countP (Action.isAnswer 0) < 5 := by decide
  rw [Option.any_eq_true] at hrun
  obtain ⟨s, hs, hcall⟩ := hrun
  rw [Option.any_eq_true] at hcall
  obtain ⟨call, hcall, hfaulted⟩ := hcall
  have hends := (upgrade_ends ⟨fun _ => rfl, fun _ => rfl⟩ hs hcall).2.2.2 hmeets
  exact ⟨s, call, hs, hcall, hfaulted, hends.resolve_right fun h => hfive h.1⟩

end Search
end R2RPC
