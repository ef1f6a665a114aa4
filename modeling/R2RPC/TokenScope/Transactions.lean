import R2RPC.AccessToken.Service
import R2RPC.Library.Machine
import R2RPC.Library.ReadCommitted

/-!
# Transactions that replace the projects of a token

{lit}`AccessTokenService.update` with a project list and
{lit}`DeviceTokenService.updateProjects` replace the project rows of a token in one
transaction: a {lit}`SELECT` of the token, an {lit}`UPDATE` of it when policy fields
are given, a {lit}`DELETE` of its project rows and an {lit}`INSERT` of the new ones.
Two such calls for one token run statement by statement, and inside the
{lit}`DELETE` and the {lit}`INSERT` row by row.

Main results:

- Definition {lit}`replacementMachine`: two calls for one token.
- Theorem {lit}`ReplacementStep.of_step`: what each of their steps does.

Current gaps:

- The foreign keys of the project rows take locks that conflict with none of these
  statements.
- The token and its projects are not deleted meanwhile.
-/

namespace R2RPC
namespace TokenScope

open Interleaving ReadCommitted
open AccessToken (HttpError Time)

/-! ## Calls -/

/-- `resolveProjectSelection` hands out no empty selection. -/
structure ProjectSelection where
  projectNames : List String
  projectIds : List ProjectId
  nonempty : projectIds ≠ []

def noProjectSelected : HttpError := ⟨400, "至少选择一个功能组"⟩
def projectMissing (projectName : String) : HttpError := ⟨400, s!"功能组不存在: {projectName}"⟩
def accessTokenMissing : HttpError := ⟨404, "Token 不存在"⟩
def deviceTokenMissing : HttpError := ⟨404, "Device token 不存在"⟩

/-- The loop of `resolveProjectSelection`. -/
def resolveProjectIds (idByName : String → Option ProjectId) :
    List String → Except HttpError (List ProjectId)
  | [] => .ok []
  | projectName :: projectNames =>
      match idByName projectName with
      | none => .error (projectMissing projectName)
      | some projectId => (resolveProjectIds idByName projectNames).map (projectId :: ·)

theorem resolveProjectIds_length {idByName : String → Option ProjectId}
    {projectNames : List String} {projectIds : List ProjectId}
    (h : resolveProjectIds idByName projectNames = .ok projectIds) :
    projectIds.length = projectNames.length := by
  induction projectNames generalizing projectIds with
  | nil =>
      simp only [resolveProjectIds, Except.ok.injEq] at h
      exact h ▸ rfl
  | cons projectName projectNames ih =>
      unfold resolveProjectIds at h
      cases hid : idByName projectName with
      | none => simp [hid] at h
      | some projectId =>
          rw [hid] at h
          cases hrest : resolveProjectIds idByName projectNames with
          | error error => simp [hrest, Except.map] at h
          | ok rest =>
              simp only [hrest, Except.map, Except.ok.injEq] at h
              rw [← h, List.length_cons, List.length_cons, ih hrest]

/-- `resolveProjectSelection`. -/
def resolveProjectSelection (idByName : String → Option ProjectId) (projectsInput : List String) :
    Except HttpError ProjectSelection :=
  let projectNames := projectsInput.eraseDups
  if hempty : projectNames = [] then .error noProjectSelected
  else
    match hids : resolveProjectIds idByName projectNames with
    | .error error => .error error
    | .ok projectIds =>
        .ok ⟨projectNames, projectIds, fun hnil => hempty (List.length_eq_zero_iff.mp (by
          rw [← resolveProjectIds_length hids, hnil, List.length_nil]))⟩

/-- The policy columns of `access_tokens`. -/
structure TokenPolicy where
  expiresAt : Option Time
  maximumUsageCount : Option ℕ+
deriving DecidableEq

/-- The policy fields of `AccessTokenUpdateInput`; a missing field is `undefined`, a
`null` field is `some none`. -/
structure PolicyInput where
  expiresAt : Option (Option Time)
  maximumUsageCount : Option (Option ℕ+)
deriving DecidableEq

/-- `updatesPolicy`. -/
def PolicyInput.updatesPolicy (input : PolicyInput) : Bool :=
  input.expiresAt.isSome || input.maximumUsageCount.isSome

/-- The `SET` of `updatePolicyInTransaction`; an `undefined` field is left out. -/
def PolicyInput.apply (input : PolicyInput) (policy : TokenPolicy) : TokenPolicy where
  expiresAt := input.expiresAt.getD policy.expiresAt
  maximumUsageCount := input.maximumUsageCount.getD policy.maximumUsageCount

/-- The transaction of a call. -/
structure ScopeCall where
  selection : ProjectSelection
  /-- The input of the `UPDATE`, where there is one. -/
  policy : Option PolicyInput
  missing : HttpError

/-- The ids that a call writes. -/
def ScopeCall.projectIds (call : ScopeCall) : List ProjectId := call.selection.projectIds

/-- `AccessTokenService.update` with a project list. -/
def updateAccessToken (selection : ProjectSelection) (input : PolicyInput) : ScopeCall where
  selection
  policy := if input.updatesPolicy then some input else none
  missing := accessTokenMissing

/-- `DeviceTokenService.updateProjects`. -/
def updateDeviceTokenProjects (selection : ProjectSelection) : ScopeCall where
  selection
  policy := none
  missing := deviceTokenMissing

/-! ## Two transactions -/

/-- The two calls. -/
inductive CallId where
  | first
  | second
deriving DecidableEq, Repr

def CallId.other : CallId → CallId
  | .first => .second
  | .second => .first

theorem CallId.other_ne (call : CallId) : call.other ≠ call := by cases call <;> decide

theorem CallId.eq_other {call c : CallId} (hne : c ≠ call) : c = call.other := by
  cases call <;> cases c <;> first | rfl | exact absurd rfl hne

/-- The next statement of a call, or the one that is running. -/
inductive CallStage where
  | selectToken
  | updatePolicy
  | deleteProjects
  /-- The `DELETE` goes through the rows that it saw. -/
  | deleting (scan : DeleteScan ProjectId CallId Unit)
  /-- The `INSERT` has these rows left, and then the transaction commits. -/
  | inserting (remaining : List ProjectId)
  | committed
  | failed (error : Option HttpError)

/-- The call has started its `DELETE` and not ended. -/
def CallStage.replacing : CallStage → Bool
  | .deleting _ | .inserting _ => true
  | _ => false

/-- The call starts its `DELETE` next. -/
def CallStage.startsDelete : CallStage → Bool
  | .deleteProjects => true
  | _ => false

/-- The row of the token and its project rows. -/
structure ReplacementState where
  token : Cell CallId TokenPolicy
  projects : Table ProjectId CallId Unit
  stage : CallId → CallStage

inductive ReplacementAction where
  /-- The next statement of a call, or the next row of its `INSERT`. -/
  | advance (call : CallId)
  /-- The `DELETE` of a call reaches a row. -/
  | deleteRow (call : CallId) (projectId : ProjectId)
  /-- A call fails: a deadlock, a timeout, a lost connection. -/
  | fail (call : CallId)
deriving DecidableEq, Repr

namespace ReplacementState

variable (calls : CallId → ScopeCall) (s : ReplacementState) (call : CallId)

/-- A token with its projects before both calls. -/
def start (policy : TokenPolicy) (projectIds : Finset ProjectId) : ReplacementState where
  token := ⟨some ⟨none, policy⟩, none⟩
  projects := .ofRows projectIds fun _ => some ()
  stage _ := .selectToken

/-- The projects of the token. -/
def scope : Finset ProjectId := s.projects.rows

def setStage (stage : CallStage) : ReplacementState :=
  { s with stage := Function.update s.stage call stage }

def rollback (error : Option HttpError) : ReplacementState :=
  { s with
    token := s.token.rollback call
    projects := s.projects.rollback call }.setStage call (.failed error)

def commit : ReplacementState :=
  { s with
    token := s.token.commit call
    projects := s.projects.commit call }.setStage call .committed

/-- The `SELECT` of the token. -/
def selectToken : ReplacementState :=
  match s.token.view call with
  | none => s.rollback call (some (calls call).missing)
  | some _ =>
      s.setStage call (if (calls call).policy.isSome then .updatePolicy else .deleteProjects)

/-- `updatePolicyInTransaction`. -/
def updatePolicy : Option ReplacementState :=
  if s.token.locked call then none
  else
    match s.token.view call, (calls call).policy with
    | some row, some input =>
        some ({ s with
          token := s.token.write call (some { row with value := input.apply row.value }) }.setStage
            call .deleteProjects)
    | _, _ => some (s.rollback call (some (calls call).missing))

/-- A row of the `INSERT` of `replaceProjectsInTransaction`. -/
def insertProject (projectId : ProjectId) (remaining : List ProjectId) : Option ReplacementState :=
  match s.projects.insertRow call projectId () with
  | .waits => none
  | .violation => some (s.rollback call none)
  | .inserted projects => some ({ s with projects }.setStage call (.inserting remaining))

/-- The next statement of a call, or the next row of its `INSERT`. -/
def advance : Option ReplacementState :=
  match s.stage call with
  | .selectToken => some (s.selectToken calls call)
  | .updatePolicy => s.updatePolicy calls call
  | .deleteProjects => some (s.setStage call (.deleting (s.projects.scan call fun _ => true)))
  | .deleting scan =>
      if scan.remaining = ∅ then some (s.setStage call (.inserting (calls call).projectIds))
      else none
  | .inserting (projectId :: remaining) => s.insertProject call projectId remaining
  | .inserting [] => some (s.commit call)
  | .committed | .failed _ => none

/-- The `DELETE` of a call reaches a row. -/
def deleteRow (projectId : ProjectId) : Option ReplacementState :=
  match s.stage call with
  | .deleting scan =>
      (s.projects.deleteRow call projectId scan).map fun (projects, scan) =>
        { s with projects }.setStage call (.deleting scan)
  | _ => none

end ReplacementState

/-- Two calls for one token, in any interleaving. -/
def replacementMachine (calls : CallId → ScopeCall) : Machine ReplacementState ReplacementAction where
  initial s := ∃ policy projectIds, s = .start policy projectIds
  step s
    | .advance call => s.advance calls call
    | .deleteRow call projectId => s.deleteRow call projectId
    | .fail call =>
        match s.stage call with
        | .committed | .failed _ => none
        | _ => some (s.rollback call none)

/-- No call starts its `DELETE` between the `DELETE` and the commit of the other. -/
def ReplacementCondition (s : ReplacementState) : ReplacementAction → Prop
  | .advance call =>
      (s.stage call).startsDelete = true → (s.stage call.other).replacing = false
  | .deleteRow .. | .fail _ => True

instance (s : ReplacementState) : ∀ a, Decidable (ReplacementCondition s a)
  | .advance call => inferInstanceAs
      (Decidable ((s.stage call).startsDelete = true → (s.stage call.other).replacing = false))
  | .deleteRow .. | .fail _ => inferInstanceAs (Decidable True)

/-! ## What a step does -/

/-- The effects of an action, with the guards under which it has them. -/
inductive ReplacementStep (calls : CallId → ScopeCall) (s : ReplacementState) :
    ReplacementAction → ReplacementState → Prop where
  | selectToken (call : CallId) (before : s.stage call = .selectToken) :
      ReplacementStep calls s (.advance call)
        (s.setStage call (if (calls call).policy.isSome then .updatePolicy else .deleteProjects))
  | updatePolicy (call : CallId) (row : Version CallId TokenPolicy) (input : PolicyInput)
      (before : s.stage call = .updatePolicy) (unlocked : s.token.locked call = false)
      (found : s.token.view call = some row) (policy : (calls call).policy = some input) :
      ReplacementStep calls s (.advance call)
        ({ s with
          token := s.token.write call (some { row with value := input.apply row.value }) }.setStage
            call .deleteProjects)
  | startDelete (call : CallId) (before : s.stage call = .deleteProjects) :
      ReplacementStep calls s (.advance call)
        (s.setStage call (.deleting (s.projects.scan call fun _ => true)))
  /-- A row that the `DELETE` has seen is still there. -/
  | deleteRow (call : CallId) (projectId : ProjectId)
      (scan : DeleteScan ProjectId CallId Unit) (before : s.stage call = .deleting scan)
      (remaining : projectId ∈ scan.remaining)
      (unlocked : (s.projects.cell projectId).locked call = false)
      (same : ((s.projects.cell projectId).view call).map (·.creator) =
        (scan.seen projectId).map (·.creator)) :
      ReplacementStep calls s (.deleteRow call projectId)
        ({ s with
          projects := s.projects.set projectId
            ((s.projects.cell projectId).write call none) }.setStage call
              (.deleting { scan with remaining := scan.remaining.erase projectId }))
  /-- A row that the `DELETE` has seen is gone. -/
  | skipRow (call : CallId) (projectId : ProjectId)
      (scan : DeleteScan ProjectId CallId Unit) (before : s.stage call = .deleting scan)
      (remaining : projectId ∈ scan.remaining)
      (unlocked : (s.projects.cell projectId).locked call = false)
      (gone : ((s.projects.cell projectId).view call).map (·.creator) ≠
        (scan.seen projectId).map (·.creator)) :
      ReplacementStep calls s (.deleteRow call projectId)
        (s.setStage call (.deleting { scan with remaining := scan.remaining.erase projectId }))
  | endDelete (call : CallId) (scan : DeleteScan ProjectId CallId Unit)
      (before : s.stage call = .deleting scan) (finished : scan.remaining = ∅) :
      ReplacementStep calls s (.advance call)
        (s.setStage call (.inserting (calls call).projectIds))
  | insertRow (call : CallId) (projectId : ProjectId) (remaining : List ProjectId)
      (before : s.stage call = .inserting (projectId :: remaining))
      (unlocked : (s.projects.cell projectId).locked call = false)
      (free : (s.projects.cell projectId).view call = none) :
      ReplacementStep calls s (.advance call)
        ({ s with
          projects := s.projects.set projectId ((s.projects.cell projectId).write call
            (some ⟨some call, ()⟩)) }.setStage call (.inserting remaining))
  | commit (call : CallId) (before : s.stage call = .inserting []) :
      ReplacementStep calls s (.advance call) (s.commit call)
  | rollback (call : CallId) (a : ReplacementAction) (error : Option HttpError)
      (before : s.stage call ≠ .committed) : ReplacementStep calls s a (s.rollback call error)

theorem ReplacementStep.of_advance {calls : CallId → ScopeCall} {s t : ReplacementState}
    {call : CallId} (h : s.advance calls call = some t) :
    ReplacementStep calls s (.advance call) t := by
  unfold ReplacementState.advance at h
  cases hstage : s.stage call with
  | selectToken =>
      simp only [hstage, Option.some.injEq] at h
      subst h
      unfold ReplacementState.selectToken
      split
      · exact .rollback call _ _ (by simp [hstage])
      · exact .selectToken call hstage
  | updatePolicy =>
      simp only [hstage, ReplacementState.updatePolicy] at h
      split at h
      · contradiction
      next hlocked =>
        split at h
        next row input hrow hinput =>
          exact Option.some.inj h ▸
            .updatePolicy call row input hstage (by simpa using hlocked) hrow hinput
        next => exact Option.some.inj h ▸ .rollback call _ _ (by simp [hstage])
  | deleteProjects =>
      simp only [hstage, Option.some.injEq] at h
      exact h ▸ .startDelete call hstage
  | deleting scan =>
      simp only [hstage] at h
      split at h
      next hempty => exact Option.some.inj h ▸ .endDelete call scan hstage hempty
      next => contradiction
  | inserting remaining =>
      cases remaining with
      | nil =>
          simp only [hstage, Option.some.injEq] at h
          exact h ▸ .commit call hstage
      | cons projectId remaining =>
          simp only [hstage, ReplacementState.insertProject] at h
          split at h
          next => contradiction
          next => exact Option.some.inj h ▸ .rollback call _ _ (by simp [hstage])
          next projects hinserted =>
            obtain ⟨hlocked, hview, rfl⟩ := Table.insertRow_inserted hinserted
            exact Option.some.inj h ▸ .insertRow call projectId remaining hstage hlocked hview
  | committed => simp [hstage] at h
  | failed error => simp [hstage] at h

/-- Every step of the machine is one of these. -/
theorem ReplacementStep.of_step {calls : CallId → ScopeCall} {s t : ReplacementState}
    {a : ReplacementAction} (h : (replacementMachine calls).step s a = some t) :
    ReplacementStep calls s a t := by
  cases a with
  | advance call => exact .of_advance h
  | deleteRow call projectId =>
      simp only [replacementMachine, ReplacementState.deleteRow] at h
      cases hstage : s.stage call with
      | deleting scan =>
          simp only [hstage, Option.map_eq_some_iff] at h
          rcases h with ⟨⟨projects, scan'⟩, hrow, rfl⟩
          obtain ⟨hmem, hlocked, rfl, ⟨hsame, rfl⟩ | ⟨hgone, rfl⟩⟩ := Table.deleteRow_eq_some hrow
          · exact .deleteRow call projectId scan hstage hmem hlocked hsame
          · exact .skipRow call projectId scan hstage hmem hlocked hgone
      | _ => simp [hstage] at h
  | fail call =>
      simp only [replacementMachine] at h
      split at h
      · contradiction
      · contradiction
      next hcommitted _ => exact Option.some.inj h ▸ .rollback call _ none hcommitted

end TokenScope
end R2RPC
