import R2RPC.Lists.Queries
import R2RPC.Library.Machine

/-!
# Choices for the filters of the request log

The console narrows the request log by project, action and device, and {lit}`filterOptions`
tells it what there is to choose: each choice depends on the two others.

Main results:

- Definition {lit}`filterOptions`: the three lists of choices.
- Theorem {lit}`filterOptions_offers`: what is offered, and what is not.
- Theorem {lit}`console_exact`: a console that only takes what is offered is always answered, and
  never narrows a log that has rows to nothing.

Current gaps:

- The statements read the same log; rows that come in or go away between them are not modelled.
-/

namespace R2RPC
namespace Lists

open Metrics Interleaving

/-! ## Statements -/

/-- The part of a row of `devices` that the join reads. -/
structure DeviceName where
  clientId : String
  deleted : Bool
deriving DecidableEq, Repr

/-- What the console has chosen. -/
structure Selection where
  project : Option String
  action : Option String
  clientId : Option String
deriving DecidableEq, Repr

/-- What the console may choose. -/
structure FilterOptions where
  projects : List String
  actions : List String
  clientIds : List String

/-- `maximumOptions`. -/
def maximumOptions : Nat := 200

section

variable {ω : Type} [LinearOrder ω] (collate : String → ω)

/-- `SELECT DISTINCT ... ORDER BY ... LIMIT`. -/
def distinctNames (names : List String) : List String :=
  (names.dedup.mergeSort fun name later => decide (collate name ≤ collate later)).take
    maximumOptions

/-- `filterOptions`; nothing for a selection that PostgreSQL does not take. -/
def filterOptions (logs : List RequestLogRow) (projects : List Gateway.ProjectRow)
    (devices : List DeviceName) (filter : Selection) : Option FilterOptions := do
  let inProject ← compactConditions [
    eqIf (fun row : RequestLogRow => some row.actionName) filter.action,
    eqIf (·.clientId) filter.clientId]
  let inAction ← compactConditions [
    eqIf (fun row : RequestLogRow => some row.projectName) filter.project,
    eqIf (·.clientId) filter.clientId]
  let inClient ← compactConditions [
    eqIf (fun row : RequestLogRow => some row.projectName) filter.project,
    eqIf (fun row => some row.actionName) filter.action]
  return {
    projects := distinctNames collate ((logs.filter inProject).flatMap fun row =>
      (projects.filter fun project => !project.deleted && project.name == row.projectName).map
        fun _ => row.projectName)
    actions := distinctNames collate ((logs.filter inAction).map (·.actionName))
    clientIds := (distinctNames collate ((logs.filter inClient).flatMap fun row =>
      row.clientId.toList.flatMap fun clientId =>
        (devices.filter fun device => !device.deleted && device.clientId == clientId).map
          fun _ => clientId)).filter (· ≠ "") }

end

/-- The list of the request log that a selection asks for. -/
def Selection.listFilter (filter : Selection) : ListFilter :=
  ⟨filter.project, filter.action, filter.clientId, none, none, none, none, none, none, none, none⟩

/-- The rows that a selection leaves. -/
def Selection.rows (logs : List RequestLogRow) (filter : Selection) : List RequestLogRow :=
  (requestLogList filter.listFilter).matching logs

/-! ## Conditions -/

/-- A value that PostgreSQL takes. -/
def Taken (value : Option String) : Prop :=
  ∀ text, value = some text → text.contains '\x00' = false

/-- A column that a filter admits: the empty filter is none. -/
def Admits (value column : Option String) : Prop :=
  ∀ text, value = some text → text ≠ "" → column = some text

section

variable {ρ : Type}

theorem eqIf_absent {column : ρ → Option String} {value : Option String}
    (h : value = none ∨ value = some "") : eqIf column value = .absent := by
  rcases h with rfl | rfl <;> rfl

theorem eqIf_text (column : ρ → Option String) {text : String} (h : text ≠ "") :
    eqIf column (some text) =
      if text.contains '\x00' then .refused
      else .condition fun row => decide (column row = some text) := by
  rw [eqIf, textFilter]
  simp only [if_neg h]

theorem taken_absent {value : Option String} (h : value = none ∨ value = some "") :
    Taken value := by
  rintro text rfl
  rcases h with h | h
  · cases h
  · rw [Option.some.inj h]
    simp

theorem admits_absent {value : Option String} (h : value = none ∨ value = some "")
    (column : Option String) : Admits value column := by
  rintro text rfl hne
  rcases h with h | h
  · cases h
  · exact absurd (Option.some.inj h) hne

theorem compactConditions_eqIf {column : ρ → Option String} {value : Option String}
    {filters : List (Filter ρ)} {holds : ρ → Bool} :
    compactConditions (eqIf column value :: filters) = some holds ↔
      Taken value ∧ ∃ rest, compactConditions filters = some rest ∧
        ∀ row, holds row = true ↔ Admits value (column row) ∧ rest row = true := by
  by_cases habsent : value = none ∨ value = some ""
  · rw [eqIf_absent habsent, compactConditions]
    constructor
    · intro h
      exact ⟨taken_absent habsent, holds, h, fun row => by simp [admits_absent habsent]⟩
    · rintro ⟨-, rest, hrest, hholds⟩
      rw [hrest, Option.some.injEq]
      funext row
      rw [Bool.eq_iff_iff, hholds]
      simp [admits_absent habsent]
  · cases value with
    | none => exact absurd (.inl rfl) habsent
    | some text =>
        have hne : text ≠ "" := fun heq => habsent (.inr (congrArg some heq))
        have hadmits : ∀ other, Admits (some text) other ↔ other = some text := by
          intro other
          simp [Admits, hne]
        rw [eqIf_text column hne]
        cases hnul : text.contains '\x00' with
        | true =>
            rw [if_pos rfl, compactConditions]
            refine ⟨fun h => (by cases h), ?_⟩
            rintro ⟨htaken, -⟩
            rw [htaken text rfl] at hnul
            cases hnul
        | false =>
            simp only [Bool.false_eq_true, if_false, compactConditions, Option.map_eq_some_iff, Taken,
              Option.some.injEq, forall_eq', hnul, true_and, hadmits]
            constructor
            · rintro ⟨rest, hrest, rfl⟩
              exact ⟨rest, hrest, fun row => by simp⟩
            · rintro ⟨rest, hrest, hholds⟩
              refine ⟨rest, hrest, funext fun row => ?_⟩
              rw [Bool.eq_iff_iff, hholds]
              simp

end

/-- Two filters together. -/
theorem compactConditions_pair {ρ : Type} {first second : ρ → Option String}
    {value other : Option String} {holds : ρ → Bool} :
    compactConditions [eqIf first value, eqIf second other] = some holds ↔
      (Taken value ∧ Taken other) ∧
        ∀ row, holds row = true ↔ Admits value (first row) ∧ Admits other (second row) := by
  simp only [compactConditions_eqIf, compactConditions, Option.some.injEq]
  constructor
  · rintro ⟨hvalue, rest, ⟨hother, inner, rfl, hrest⟩, hholds⟩
    exact ⟨⟨hvalue, hother⟩, fun row => by simp [hholds, hrest]⟩
  · rintro ⟨⟨hvalue, hother⟩, hholds⟩
    classical
    refine ⟨hvalue, fun row => decide (Admits other (second row)), ⟨hother, _, rfl, ?_⟩, ?_⟩
    · intro row
      simp
    · intro row
      simp [hholds]

/-- The rows that a selection leaves: the filters of the list that are not given do nothing. -/
theorem mem_rows {logs : List RequestLogRow} {filter : Selection} {row : RequestLogRow} :
    row ∈ filter.rows logs ↔ row ∈ logs ∧
      (Taken filter.project ∧ Taken filter.action ∧ Taken filter.clientId) ∧
      Admits filter.project (some row.projectName) ∧ Admits filter.action (some row.actionName) ∧
        Admits filter.clientId row.clientId := by
  have hconditions : buildListConditions filter.listFilter = compactConditions [
      eqIf (fun row => some row.projectName) filter.project,
      eqIf (fun row => some row.actionName) filter.action, eqIf (·.clientId) filter.clientId] := by
    simp only [buildListConditions, Selection.listFilter]
    cases eqIf (fun row : RequestLogRow => some row.projectName) filter.project <;>
      cases eqIf (fun row : RequestLogRow => some row.actionName) filter.action <;>
        cases eqIf (fun row : RequestLogRow => row.clientId) filter.clientId <;> rfl
  rw [Selection.rows, Listing.matching, requestLogList, hconditions]
  cases hcompact : compactConditions [
      eqIf (fun row : RequestLogRow => some row.projectName) filter.project,
      eqIf (fun row => some row.actionName) filter.action, eqIf (·.clientId) filter.clientId] with
  | none =>
      simp only [List.not_mem_nil, false_iff, not_and]
      rintro - ⟨hproject, haction, hclient⟩
      classical
      have hpair := compactConditions_pair.mpr ⟨⟨haction, hclient⟩, fun row : RequestLogRow =>
        (decide_eq_true_iff (p := Admits filter.action (some row.actionName) ∧
          Admits filter.clientId row.clientId))⟩
      have hall := compactConditions_eqIf.mpr ⟨hproject, _, hpair, fun row : RequestLogRow =>
        (decide_eq_true_iff (p := Admits filter.project (some row.projectName) ∧ _))⟩
      rw [hcompact] at hall
      cases hall
  | some holds =>
      rcases compactConditions_eqIf.mp hcompact with ⟨hproject, rest, hrest, hholds⟩
      rcases compactConditions_pair.mp hrest with ⟨⟨haction, hclient⟩, hpair⟩
      simp [hholds, hpair, hproject, haction, hclient]

/-! ## What is offered -/

section

variable {ω : Type} [LinearOrder ω] {collate : String → ω}

theorem mem_of_mem_distinctNames {names : List String} {name : String}
    (h : name ∈ distinctNames collate names) : name ∈ names := by
  have hmem := List.mem_of_mem_take h
  rwa [List.mem_mergeSort, List.mem_dedup] at hmem

/-- A list that is not cut off has every name. -/
theorem mem_distinctNames {names : List String}
    (hshort : (distinctNames collate names).length < maximumOptions) {name : String} :
    name ∈ distinctNames collate names ↔ name ∈ names := by
  refine ⟨mem_of_mem_distinctNames, fun h => ?_⟩
  rw [distinctNames, List.length_take] at hshort
  rw [distinctNames, List.take_of_length_le (by omega), List.mem_mergeSort, List.mem_dedup]
  exact h

/-- Names in the order of the collation, each of them once. -/
theorem distinctNames_ordered (names : List String) :
    (distinctNames collate names).Pairwise fun name later =>
      collate name ≤ collate later ∧ name ≠ later := by
  rw [distinctNames]
  refine List.Pairwise.sublist (List.take_sublist _ _) (List.Pairwise.and ?_ ?_)
  · have hsorted : (names.dedup.mergeSort fun name later =>
        decide (collate name ≤ collate later)).Pairwise fun name later =>
          decide (collate name ≤ collate later) = true := List.pairwise_mergeSort
      (fun first second third hfirst hsecond => by
        rw [decide_eq_true_eq] at hfirst hsecond ⊢
        exact hfirst.trans hsecond)
      (fun first second => by
        rw [Bool.or_eq_true, decide_eq_true_eq, decide_eq_true_eq]
        exact le_total _ _) names.dedup
    exact hsorted.imp fun h => of_decide_eq_true h
  · exact (List.mergeSort_perm _ _).nodup_iff.mpr (List.nodup_dedup names)

end

/-- The list of choices: in order and without repetition, nothing that would leave no rows, and,
unless it is cut off, everything else. -/
structure Offers {ω : Type} [LinearOrder ω] (collate : String → ω) (limit : Nat)
    (offered : List String) (good : String → Prop) : Prop where
  ordered : offered.Pairwise fun name later => collate name ≤ collate later ∧ name ≠ later
  sound : ∀ name ∈ offered, good name
  complete : offered.length < limit → ∀ name, name ≠ "" → good name → name ∈ offered

/-- Rows as the table holds them. -/
def Storable (row : RequestLogRow) : Prop :=
  Taken (some row.projectName) ∧ Taken (some row.actionName) ∧ Taken row.clientId

theorem admits_self (name : String) : Admits (some name) (some name) := by
  rintro text h -
  exact h

/-- A name that is not empty is compared. -/
theorem admits_text {name : String} (h : name ≠ "") {column : Option String} :
    Admits (some name) column ↔ column = some name := by
  simp [Admits, h]

/-- One name in a list without repetition is the empty one at most. -/
theorem length_le_filter_add_one {names : List String} (h : names.Nodup) :
    names.length ≤ (names.filter (· ≠ "")).length + 1 := by
  have hcount : names.countP (· = "") ≤ 1 := by
    have hone := List.nodup_iff_count_le_one.mp h ""
    rwa [List.count_eq_countP] at hone
  have hsplit := List.length_eq_countP_add_countP (fun name : String => decide (name = ""))
    (l := names)
  rw [← List.countP_eq_length_filter]
  simp only [decide_eq_true_eq, ne_eq, decide_not] at hsplit hcount ⊢
  omega

section

variable {ω : Type} [LinearOrder ω] {collate : String → ω} {logs : List RequestLogRow}
  {projects : List Gateway.ProjectRow} {devices : List DeviceName} {filter : Selection}
  {options : FilterOptions}

theorem filterOptions_eq_some
    (h : filterOptions collate logs projects devices filter = some options) :
    ∃ inProject inAction inClient,
      compactConditions [eqIf (fun row : RequestLogRow => some row.actionName) filter.action,
        eqIf (·.clientId) filter.clientId] = some inProject ∧
      compactConditions [eqIf (fun row : RequestLogRow => some row.projectName) filter.project,
        eqIf (·.clientId) filter.clientId] = some inAction ∧
      compactConditions [eqIf (fun row : RequestLogRow => some row.projectName) filter.project,
        eqIf (fun row => some row.actionName) filter.action] = some inClient ∧
      options.projects = distinctNames collate ((logs.filter inProject).flatMap fun row =>
        (projects.filter fun project => !project.deleted && project.name == row.projectName).map
          fun _ => row.projectName) ∧
      options.actions = distinctNames collate ((logs.filter inAction).map (·.actionName)) ∧
      options.clientIds = (distinctNames collate ((logs.filter inClient).flatMap fun row =>
        row.clientId.toList.flatMap fun clientId =>
          (devices.filter fun device => !device.deleted && device.clientId == clientId).map
            fun _ => clientId)).filter (· ≠ "") := by
  rw [filterOptions] at h
  simp only [Option.bind_eq_bind, Option.bind_eq_some_iff] at h
  rcases h with ⟨inProject, hproject, inAction, haction, inClient, hclient, h⟩
  obtain rfl := Option.some.inj h
  exact ⟨inProject, inAction, inClient, hproject, haction, hclient, rfl, rfl, rfl⟩

/-- A list of choices, by the names that it is made from. -/
theorem offers_distinctNames {names : List String} {good : String → Prop}
    (hsound : ∀ name ∈ names, good name)
    (hcomplete : ∀ name, name ≠ "" → good name → name ∈ names) :
    Offers collate maximumOptions (distinctNames collate names) good where
  ordered := distinctNames_ordered names
  sound name hname := hsound name (mem_of_mem_distinctNames hname)
  complete hshort name hne hgood := (mem_distinctNames hshort).mpr (hcomplete name hne hgood)

theorem rows_ne_nil : filter.rows logs ≠ [] ↔ ∃ row, row ∈ filter.rows logs :=
  ⟨List.exists_mem_of_ne_nil _, fun ⟨_, hrow⟩ => List.ne_nil_of_mem hrow⟩

end

/-- The choices that a selection leaves: every project and device that is alive, and every action,
of a row that the other choices leave, as long as no list is cut off. The empty name may have taken
one of the 200 places of the devices. -/
structure FilterOptions.Exact {ω : Type} [LinearOrder ω] (collate : String → ω)
    (logs : List RequestLogRow) (projects : List Gateway.ProjectRow) (devices : List DeviceName)
    (filter : Selection) (options : FilterOptions) : Prop where
  projects : Offers collate 200 options.projects fun name =>
    (∃ project ∈ projects, project.deleted = false ∧ project.name = name) ∧
      { filter with project := some name }.rows logs ≠ []
  actions : Offers collate 200 options.actions fun name =>
    { filter with action := some name }.rows logs ≠ []
  clientIds : Offers collate 199 options.clientIds fun name =>
    (∃ device ∈ devices, device.deleted = false ∧ device.clientId = name) ∧
      { filter with clientId := some name }.rows logs ≠ []

section

variable {ω : Type} [LinearOrder ω] {collate : String → ω} {logs : List RequestLogRow}
  {filter : Selection}

/-- Without the empty name, which takes one place at most. -/
theorem Offers.withoutEmpty {limit : Nat} {names : List String} {good : String → Prop}
    (h : Offers collate (limit + 1) names good) :
    Offers collate limit (names.filter (· ≠ "")) good where
  ordered := h.ordered.filter _
  sound name hname := h.sound name (List.mem_of_mem_filter hname)
  complete hshort name hne hgood := by
    have hlength := length_le_filter_add_one (h.ordered.imp fun h => h.2)
    rw [List.mem_filter]
    exact ⟨h.complete (by omega) name hne hgood, by simpa using hne⟩

theorem offers_projects (hlogs : ∀ row ∈ logs, Storable row)
    (projects : List Gateway.ProjectRow) {holds : RequestLogRow → Bool}
    (haction : Taken filter.action) (hclient : Taken filter.clientId)
    (hholds : ∀ row, holds row = true ↔
      Admits filter.action (some row.actionName) ∧ Admits filter.clientId row.clientId) :
    Offers collate maximumOptions
      (distinctNames collate ((logs.filter holds).flatMap fun row =>
        (projects.filter fun project => !project.deleted && project.name == row.projectName).map
          fun _ => row.projectName))
      fun name => (∃ project ∈ projects, project.deleted = false ∧ project.name = name) ∧
        { filter with project := some name }.rows logs ≠ [] := by
  refine offers_distinctNames (fun name hname => ?_) fun name hne hgood => ?_
  · simp only [List.mem_flatMap, List.mem_filter, List.mem_map, Bool.and_eq_true,
      Bool.not_eq_true', beq_iff_eq, hholds] at hname
    rcases hname with ⟨row, ⟨hrow, hadmits⟩, project, ⟨hmem, halive, hsame⟩, rfl⟩
    refine ⟨⟨project, hmem, halive, hsame⟩, rows_ne_nil.mpr ⟨row, mem_rows.mpr ?_⟩⟩
    exact ⟨hrow, ⟨(hlogs row hrow).1, haction, hclient⟩, admits_self _, hadmits⟩
  · rcases hgood with ⟨⟨project, hmem, halive, rfl⟩, hrows⟩
    rcases rows_ne_nil.mp hrows with ⟨row, hrow⟩
    rcases mem_rows.mp hrow with ⟨hrow, -, hname, hadmits⟩
    have hsame := Option.some.inj ((admits_text hne).mp hname)
    simp only [List.mem_flatMap, List.mem_filter, List.mem_map, Bool.and_eq_true,
      Bool.not_eq_true', beq_iff_eq, hholds]
    exact ⟨row, ⟨hrow, hadmits⟩, project, ⟨hmem, halive, hsame.symm⟩, hsame⟩

theorem offers_actions (hlogs : ∀ row ∈ logs, Storable row) {holds : RequestLogRow → Bool}
    (hproject : Taken filter.project) (hclient : Taken filter.clientId)
    (hholds : ∀ row, holds row = true ↔
      Admits filter.project (some row.projectName) ∧ Admits filter.clientId row.clientId) :
    Offers collate maximumOptions
      (distinctNames collate ((logs.filter holds).map (·.actionName)))
      fun name => { filter with action := some name }.rows logs ≠ [] := by
  refine offers_distinctNames (fun name hname => ?_) fun name hne hrows => ?_
  · simp only [List.mem_map, List.mem_filter, hholds] at hname
    rcases hname with ⟨row, ⟨hrow, hadmits⟩, rfl⟩
    refine rows_ne_nil.mpr ⟨row, mem_rows.mpr ?_⟩
    exact ⟨hrow, ⟨hproject, (hlogs row hrow).2.1, hclient⟩, hadmits.1, admits_self _, hadmits.2⟩
  · rcases rows_ne_nil.mp hrows with ⟨row, hrow⟩
    rcases mem_rows.mp hrow with ⟨hrow, -, hadmitsProject, hname, hadmitsClient⟩
    simp only [List.mem_map, List.mem_filter, hholds]
    exact ⟨row, ⟨hrow, hadmitsProject, hadmitsClient⟩,
      Option.some.inj ((admits_text hne).mp hname)⟩

/-- The list of devices before the empty name is dropped. -/
theorem offers_clientIds (hlogs : ∀ row ∈ logs, Storable row) (devices : List DeviceName)
    {holds : RequestLogRow → Bool}
    (hproject : Taken filter.project) (haction : Taken filter.action)
    (hholds : ∀ row, holds row = true ↔
      Admits filter.project (some row.projectName) ∧ Admits filter.action (some row.actionName)) :
    Offers collate maximumOptions
      (distinctNames collate ((logs.filter holds).flatMap fun row =>
        row.clientId.toList.flatMap fun clientId =>
          (devices.filter fun device => !device.deleted && device.clientId == clientId).map
            fun _ => clientId))
      fun name => (∃ device ∈ devices, device.deleted = false ∧ device.clientId = name) ∧
        { filter with clientId := some name }.rows logs ≠ [] := by
  refine offers_distinctNames (fun name hname => ?_) fun name hne hgood => ?_
  · simp only [List.mem_flatMap, List.mem_filter, List.mem_map, Bool.and_eq_true,
      Bool.not_eq_true', beq_iff_eq, hholds, Option.mem_toList] at hname
    rcases hname with
      ⟨row, ⟨hrow, hadmits⟩, clientId, hclientId, device, ⟨hmem, halive, hsame⟩, rfl⟩
    refine ⟨⟨device, hmem, halive, hsame⟩, rows_ne_nil.mpr ⟨row, mem_rows.mpr ?_⟩⟩
    rw [hclientId]
    exact ⟨hrow, ⟨hproject, haction, hclientId ▸ (hlogs row hrow).2.2⟩, hadmits.1, hadmits.2,
      admits_self _⟩
  · rcases hgood with ⟨⟨device, hmem, halive, rfl⟩, hrows⟩
    rcases rows_ne_nil.mp hrows with ⟨row, hrow⟩
    rcases mem_rows.mp hrow with ⟨hrow, -, hadmitsProject, hadmitsAction, hname⟩
    simp only [List.mem_flatMap, List.mem_filter, List.mem_map, Bool.and_eq_true,
      Bool.not_eq_true', beq_iff_eq, hholds, Option.mem_toList]
    exact ⟨row, ⟨hrow, hadmitsProject, hadmitsAction⟩, device.clientId,
      (admits_text hne).mp hname, device, ⟨hmem, halive, rfl⟩, rfl⟩

/-- The three lists of choices are what the other choices leave. -/
theorem filterOptions_offers (hlogs : ∀ row ∈ logs, Storable row)
    {projects : List Gateway.ProjectRow} {devices : List DeviceName} {options : FilterOptions}
    (h : filterOptions collate logs projects devices filter = some options) :
    options.Exact collate logs projects devices filter := by
  rcases filterOptions_eq_some h with
    ⟨inProject, inAction, inClient, hinProject, hinAction, hinClient, hprojects, hactions, hclients⟩
  rcases compactConditions_pair.mp hinProject with ⟨⟨haction, hclient⟩, hinProject⟩
  rcases compactConditions_pair.mp hinAction with ⟨⟨hproject, -⟩, hinAction⟩
  rcases compactConditions_pair.mp hinClient with ⟨-, hinClient⟩
  constructor
  · rw [hprojects]
    exact offers_projects hlogs projects haction hclient hinProject
  · rw [hactions]
    exact offers_actions hlogs hproject hclient hinAction
  · -- the list may have been cut off with the empty name in it
    rw [hclients]
    exact (offers_clientIds hlogs devices hproject haction hinClient).withoutEmpty

end

/-! ## A console that takes what it is offered -/

/-- A choice, or none any more. -/
inductive Choice where
  | project (name : Option String)
  | action (name : Option String)
  | clientId (name : Option String)

/-- A console over a log that stays as it is: it opens without a choice. -/
def console {ω : Type} [LinearOrder ω] (collate : String → ω) (logs : List RequestLogRow)
    (projects : List Gateway.ProjectRow) (devices : List DeviceName) :
    Machine Selection Choice where
  initial filter := filter = ⟨none, none, none⟩
  step filter choice := do
    let options ← filterOptions collate logs projects devices filter
    match choice with
    | .project name =>
        if ∀ text ∈ name, text ∈ options.projects then some { filter with project := name } else none
    | .action name =>
        if ∀ text ∈ name, text ∈ options.actions then some { filter with action := name } else none
    | .clientId name =>
        if ∀ text ∈ name, text ∈ options.clientIds then some { filter with clientId := name }
        else none

/-- Choices that are given up leave more rows. -/
theorem mem_rows_of_fewer {logs : List RequestLogRow} (filter wider : Selection)
    (hproject : wider.project = none ∨ wider.project = filter.project)
    (haction : wider.action = none ∨ wider.action = filter.action)
    (hclient : wider.clientId = none ∨ wider.clientId = filter.clientId) {row : RequestLogRow}
    (h : row ∈ filter.rows logs) : row ∈ wider.rows logs := by
  have hkept : ∀ {value kept column : Option String}, value = none ∨ value = kept →
      Taken kept ∧ Admits kept column → Taken value ∧ Admits value column := by
    rintro value kept column (rfl | rfl) hboth
    · exact ⟨taken_absent (.inl rfl), admits_absent (.inl rfl) column⟩
    · exact hboth
  rcases mem_rows.mp h with ⟨hrow, ⟨htakenProject, htakenAction, htakenClient⟩, hadmitsProject,
    hadmitsAction, hadmitsClient⟩
  have h1 := hkept hproject ⟨htakenProject, hadmitsProject⟩
  have h2 := hkept haction ⟨htakenAction, hadmitsAction⟩
  have h3 := hkept hclient ⟨htakenClient, hadmitsClient⟩
  exact mem_rows.mpr ⟨hrow, ⟨h1.1, h2.1, h3.1⟩, h1.2, h2.2, h3.2⟩

theorem rows_ne_nil_of_fewer {logs : List RequestLogRow} {filter wider : Selection}
    (h : filter.rows logs ≠ []) (hproject : wider.project = none ∨ wider.project = filter.project)
    (haction : wider.action = none ∨ wider.action = filter.action)
    (hclient : wider.clientId = none ∨ wider.clientId = filter.clientId) :
    wider.rows logs ≠ [] := by
  rcases rows_ne_nil.mp h with ⟨row, hrow⟩
  exact rows_ne_nil.mpr
    ⟨row, mem_rows_of_fewer filter wider hproject haction hclient hrow⟩

/-- A selection that PostgreSQL takes is answered. -/
theorem exists_filterOptions {ω : Type} [LinearOrder ω] (collate : String → ω)
    (logs : List RequestLogRow) (projects : List Gateway.ProjectRow) (devices : List DeviceName)
    {filter : Selection}
    (htaken : Taken filter.project ∧ Taken filter.action ∧ Taken filter.clientId) :
    ∃ options, filterOptions collate logs projects devices filter = some options := by
  have hpair : ∀ {first second : RequestLogRow → Option String} {value other : Option String},
      Taken value → Taken other →
        ∃ holds, compactConditions [eqIf first value, eqIf second other] = some holds := by
    intro first second value other hvalue hother
    classical
    exact ⟨_, compactConditions_pair.mpr ⟨⟨hvalue, hother⟩, fun row =>
      decide_eq_true_iff (p := Admits value (first row) ∧ Admits other (second row))⟩⟩
  rcases htaken with ⟨hproject, haction, hclient⟩
  rcases hpair haction hclient with ⟨inProject, hinProject⟩
  rcases hpair hproject hclient with ⟨inAction, hinAction⟩
  rcases hpair hproject haction with ⟨inClient, hinClient⟩
  rw [filterOptions, hinProject, hinAction, hinClient]
  exact ⟨_, rfl⟩

section

variable {ω : Type} [LinearOrder ω] {collate : String → ω} {logs : List RequestLogRow}
  {projects : List Gateway.ProjectRow} {devices : List DeviceName}

/-- What holds of the selections of a console. -/
structure Kept (logs : List RequestLogRow) (filter : Selection) : Prop where
  taken : Taken filter.project ∧ Taken filter.action ∧ Taken filter.clientId
  rows : logs ≠ [] → filter.rows logs ≠ []

theorem Kept.initial (logs : List RequestLogRow) : Kept logs ⟨none, none, none⟩ where
  taken := ⟨taken_absent (.inl rfl), taken_absent (.inl rfl), taken_absent (.inl rfl)⟩
  rows hne := by
    obtain ⟨row, hrow⟩ := List.exists_mem_of_ne_nil logs hne
    refine rows_ne_nil.mpr ⟨row, mem_rows.mpr ⟨hrow, ?_, ?_⟩⟩
    · simp [Taken]
    · simp [Admits]

theorem kept_of_rows {filter : Selection} (h : filter.rows logs ≠ []) : Kept logs filter := by
  rcases rows_ne_nil.mp h with ⟨row, hrow⟩
  exact ⟨(mem_rows.mp hrow).2.1, fun _ => h⟩

theorem console_step (hlogs : ∀ row ∈ logs, Storable row) {filter after : Selection}
    {choice : Choice} (hkept : Kept logs filter)
    (hstep : (console collate logs projects devices).step filter choice = some after) :
    Kept logs after := by
  rcases Option.bind_eq_some_iff.mp hstep with ⟨options, hoptions, hstep⟩
  have hexact := filterOptions_offers hlogs hoptions
  rcases hkept with ⟨⟨hproject, haction, hclient⟩, hrows⟩
  have hnone : Taken none := taken_absent (.inl rfl)
  cases choice with
  | project name =>
      dsimp only at hstep
      split at hstep
      next hoffered =>
        obtain rfl := Option.some.inj hstep
        cases name with
        | none =>
            exact ⟨⟨hnone, haction, hclient⟩, fun hne =>
              rows_ne_nil_of_fewer (hrows hne) (.inl rfl) (.inr rfl) (.inr rfl)⟩
        | some text => exact kept_of_rows (hexact.projects.sound text (hoffered text rfl)).2
      next => cases hstep
  | action name =>
      dsimp only at hstep
      split at hstep
      next hoffered =>
        obtain rfl := Option.some.inj hstep
        cases name with
        | none =>
            exact ⟨⟨hproject, hnone, hclient⟩, fun hne =>
              rows_ne_nil_of_fewer (hrows hne) (.inr rfl) (.inl rfl) (.inr rfl)⟩
        | some text => exact kept_of_rows (hexact.actions.sound text (hoffered text rfl))
      next => cases hstep
  | clientId name =>
      dsimp only at hstep
      split at hstep
      next hoffered =>
        obtain rfl := Option.some.inj hstep
        cases name with
        | none =>
            exact ⟨⟨hproject, haction, hnone⟩, fun hne =>
              rows_ne_nil_of_fewer (hrows hne) (.inr rfl) (.inr rfl) (.inl rfl)⟩
        | some text => exact kept_of_rows (hexact.clientIds.sound text (hoffered text rfl)).2
      next => cases hstep

/-- Where few names are good, none of them is cut off. -/
theorem Offers.mem {limit : Nat} {offered : List String} {good : String → Prop}
    (h : Offers collate limit offered good) (names : List String)
    (hgood : ∀ name, good name → name ∈ names) (hfew : names.length < limit) {name : String}
    (hne : name ≠ "") (hname : good name) : name ∈ offered := by
  have hnodup : offered.Nodup := h.ordered.imp fun h => h.2
  have hsubset : offered ⊆ names := fun name hname => hgood name (h.sound name hname)
  exact h.complete ((hnodup.subperm hsubset).length_le.trans_lt hfew) name hne hname

variable (collate projects devices) in
/-- Where there are few names, a console can choose each one that leaves a row, and give up what
it has chosen. -/
theorem console_step_of_rows (hlogs : ∀ row ∈ logs, Storable row) {filter : Selection}
    (hkept : Kept logs filter) (hfew : logs.length < 199 ∧ projects.length < 200 ∧
      devices.length < 199) :
    (∀ project ∈ projects, project.deleted = false → project.name ≠ "" →
      { filter with project := some project.name }.rows logs ≠ [] →
        (console collate logs projects devices).step filter (.project (some project.name)) =
          some { filter with project := some project.name }) ∧
      (∀ name, name ≠ "" → { filter with action := some name }.rows logs ≠ [] →
        (console collate logs projects devices).step filter (.action (some name)) =
          some { filter with action := some name }) ∧
      (∀ device ∈ devices, device.deleted = false → device.clientId ≠ "" →
        { filter with clientId := some device.clientId }.rows logs ≠ [] →
          (console collate logs projects devices).step filter (.clientId (some device.clientId)) =
            some { filter with clientId := some device.clientId }) ∧
      (console collate logs projects devices).step filter (.project none) =
        some { filter with project := none } := by
  rcases exists_filterOptions collate logs projects devices hkept.taken with ⟨options, hoptions⟩
  have hexact := filterOptions_offers hlogs hoptions
  refine ⟨fun project hproject halive hne hrows => ?_, fun name hne hrows => ?_,
    fun device hdevice halive hne hrows => ?_, by simp [console, hoptions]⟩
  · have hmem : project.name ∈ options.projects := by
      refine hexact.projects.mem (projects.map (·.name)) ?_ (by simpa using hfew.2.1) hne
        ⟨⟨project, hproject, halive, rfl⟩, hrows⟩
      rintro name ⟨⟨other, hother, -, rfl⟩, -⟩
      exact List.mem_map_of_mem hother
    simp [console, hoptions, hmem]
  · have hmem : name ∈ options.actions := by
      refine hexact.actions.mem ("" :: logs.map (·.actionName)) ?_ ?_ hne hrows
      · intro other hother
        rcases rows_ne_nil.mp hother with ⟨row, hrow⟩
        by_cases hempty : other = ""
        · rw [hempty]
          exact List.mem_cons_self
        · rcases mem_rows.mp hrow with ⟨hrow, -, -, hname, -⟩
          rw [← Option.some.inj ((admits_text hempty).mp hname)]
          exact List.mem_cons_of_mem _ (List.mem_map_of_mem hrow)
      · rw [List.length_cons, List.length_map]
        omega
    simp [console, hoptions, hmem]
  · have hmem : device.clientId ∈ options.clientIds := by
      refine hexact.clientIds.mem (devices.map (·.clientId)) ?_ (by simpa using hfew.2.2) hne
        ⟨⟨device, hdevice, halive, rfl⟩, hrows⟩
      rintro name ⟨⟨other, hother, -, rfl⟩, -⟩
      exact List.mem_map_of_mem hother
    simp [console, hoptions, hmem]

/-- Whatever a console takes of what it is offered, and gives up again, in any order: it never
narrows a log that has rows to nothing, and is always offered exactly what its other choices
leave. -/
theorem console_exact (hlogs : ∀ row ∈ logs, Storable row) {filter : Selection}
    (h : (console collate logs projects devices).Reachable filter) :
    (logs ≠ [] → filter.rows logs ≠ []) ∧
      ∃ options, filterOptions collate logs projects devices filter = some options ∧
        options.Exact collate logs projects devices filter := by
  have hkept : Kept logs filter := by
    refine h.invariant (I := Kept logs) (fun {filter} hinit => ?_)
      fun hkept hstep => console_step hlogs hkept hstep
    obtain rfl : filter = ⟨none, none, none⟩ := hinit
    exact .initial logs
  rcases exists_filterOptions collate logs projects devices hkept.taken with ⟨options, hoptions⟩
  exact ⟨hkept.rows, options, hoptions, filterOptions_offers hlogs hoptions⟩

end

/-- Calls of three projects. -/
def sampleLogs : List RequestLogRow :=
  [{ twinRow 1 with projectName := "maps", actionName := "find", clientId := some "pixel" },
    { twinRow 2 with projectName := "shop", actionName := "find", clientId := some "pixel" },
    { twinRow 3 with projectName := "maps", actionName := "route", clientId := some "nexus" },
    { twinRow 4 with projectName := "cars", actionName := "find", clientId := some "nexus" }]

/-- One of the projects is gone. -/
def sampleProjects : List Gateway.ProjectRow :=
  [⟨1, "maps", true, false⟩, ⟨2, "shop", true, true⟩, ⟨3, "cars", true, false⟩]

def sampleDevices : List DeviceName := [⟨"pixel", false⟩, ⟨"nexus", false⟩]

/-- A collation by the first letter. -/
def firstLetter (name : String) : Nat := (name.toList.headD 'a').toNat

/-- A project, an action and a device are chosen, and the project is given up. -/
theorem sampleChoices_run :
    (console firstLetter sampleLogs sampleProjects sampleDevices).run ⟨none, none, none⟩
        [.project (some "maps"), .action (some "find"), .clientId (some "pixel"), .project none] =
      some ⟨none, some "find", some "pixel"⟩ := by
  have hlogs : ∀ row ∈ sampleLogs, Storable row := by
    simp [sampleLogs, Storable, Taken, twinRow]
  have hfew : sampleLogs.length < 199 ∧ sampleProjects.length < 200 ∧
      sampleDevices.length < 199 := by decide
  have hrows : ∀ filter : Selection, filter.project = none ∨ filter.project = some "maps" →
      filter.action = none ∨ filter.action = some "find" →
        filter.clientId = none ∨ filter.clientId = some "pixel" →
          filter.rows sampleLogs ≠ [] := by
    rintro ⟨project, action, clientId⟩ hproject haction hclientId
    refine rows_ne_nil.mpr ⟨_, mem_rows.mpr ⟨List.mem_cons_self, ?_, ?_⟩⟩
    · rcases hproject with rfl | rfl <;> rcases haction with rfl | rfl <;>
        rcases hclientId with rfl | rfl <;> simp [Taken]
    · rcases hproject with rfl | rfl <;> rcases haction with rfl | rfl <;>
        rcases hclientId with rfl | rfl <;> simp [Admits]
  have hstep := fun filter hproject haction hclientId =>
    console_step_of_rows firstLetter sampleProjects sampleDevices hlogs
      (kept_of_rows (hrows filter hproject haction hclientId)) hfew
  have hproject := (hstep ⟨none, none, none⟩ (.inl rfl) (.inl rfl) (.inl rfl)).1
    ⟨1, "maps", true, false⟩ (by decide) rfl (by decide)
    (hrows _ (.inr rfl) (.inl rfl) (.inl rfl))
  have haction := (hstep ⟨some "maps", none, none⟩ (.inr rfl) (.inl rfl) (.inl rfl)).2.1
    "find" (by decide) (hrows _ (.inr rfl) (.inr rfl) (.inl rfl))
  have hclientId := (hstep ⟨some "maps", some "find", none⟩ (.inr rfl) (.inr rfl) (.inl rfl)).2.2.1
    ⟨"pixel", false⟩ (by decide) rfl (by decide) (hrows _ (.inr rfl) (.inr rfl) (.inr rfl))
  have hnone := (hstep ⟨some "maps", some "find", some "pixel"⟩ (.inr rfl) (.inr rfl)
    (.inr rfl)).2.2.2
  simp only [Machine.run, hproject, haction, hclientId, hnone, Option.bind_some]

/-- The project that is gone is not offered, and neither is the one that the other choices leave
without a row. -/
theorem console_exact_sample :
    Selection.rows sampleLogs ⟨none, some "find", some "pixel"⟩ ≠ [] ∧
      ∃ options, filterOptions firstLetter sampleLogs sampleProjects sampleDevices
          ⟨none, some "find", some "pixel"⟩ = some options ∧
        "shop" ∉ options.projects ∧ "cars" ∉ options.projects := by
  have hlogs : ∀ row ∈ sampleLogs, Storable row := by
    simp [sampleLogs, Storable, Taken, twinRow]
  have hreachable : (console firstLetter sampleLogs sampleProjects sampleDevices).Reachable
      ⟨none, some "find", some "pixel"⟩ := by
    exact ⟨⟨none, none, none⟩, _, rfl, sampleChoices_run⟩
  rcases console_exact hlogs hreachable with ⟨hrows, options, hoptions, hexact⟩
  refine ⟨hrows (by decide), options, hoptions, fun hoffered => ?_, fun hoffered => ?_⟩
  · rcases (hexact.projects.sound _ hoffered).1 with ⟨project, hproject, halive, hname⟩
    simp only [sampleProjects, List.mem_cons, List.not_mem_nil, or_false] at hproject
    rcases hproject with rfl | rfl | rfl
    · exact absurd hname (by decide)
    · exact absurd halive (by decide)
    · exact absurd hname (by decide)
  · rcases rows_ne_nil.mp (hexact.projects.sound _ hoffered).2 with ⟨row, hrow⟩
    rcases mem_rows.mp hrow with ⟨hrow, -, hproject, haction, hclientId⟩
    simp only [sampleLogs, List.mem_cons, List.not_mem_nil, or_false] at hrow
    rcases hrow with rfl | rfl | rfl | rfl <;> simp [Admits] at hproject hclientId

end Lists
end R2RPC
