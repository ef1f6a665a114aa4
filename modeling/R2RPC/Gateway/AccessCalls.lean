import R2RPC.AccessToken.Service
import R2RPC.Gateway.JobDelivery

/-!
# Calls of the public interface

One call of {lit}`/rpc/invoke/:project/:action` from its guard to the selection of its
device.  {lit}`AccessTokenGuard` resolves the name of the project and compares its id with
the ids of the token; {lit}`RpcService.invoke` resolves the name once more, and only that
second id goes on.  Administrators create, remove, enable and disable projects in between.

Main results:

- Structure {lit}`Authorization`: what the guard has admitted.
- Theorem {lit}`canActivate_eq`: the guard with an await between its halves is the whole guard.
- Structure {lit}`CallState` and definition {lit}`callMachine`: the cluster with its jobs,
  the projects and the calls as an interleaving machine.
- Inductive {lit}`CallStep` and theorem {lit}`CallStep.of_step`: what a step does.

Current gaps:

- A request without a bearer token is refused before the first await and is left out.
- The token that the guard reads through its cache, and whether
  {lit}`consumeInvocation` admits the call, may be anything.
-/

namespace R2RPC
namespace Gateway

open Interleaving AccessToken

/-! ## Projects -/

/-- A row of `projects`. -/
structure ProjectRow where
  id : ProjectId
  name : String
  enabled : Bool
  deleted : Bool
deriving DecidableEq, Repr

/-- The alive row of this name; `projects_name_uq` allows one. -/
def findByName (projects : List ProjectRow) (name : String) : Option ProjectRow :=
  projects.find? fun row => !row.deleted && row.name = name

/-- `idByName`. -/
def idByName (projects : List ProjectRow) (name : String) : Option ProjectId :=
  (findByName projects name).map (·.id)

/-- `findEnabledIdByName`. -/
def findEnabledIdByName (projects : List ProjectRow) (name : String) :
    Option (ProjectId × Bool) :=
  (findByName projects name).map fun row => (row.id, row.enabled)

/-- Both look for the same row. -/
theorem idByName_of_findEnabled {projects : List ProjectRow} {name : String} {id : ProjectId}
    {enabled : Bool} (h : findEnabledIdByName projects name = some (id, enabled)) :
    idByName projects name = some id := by
  unfold findEnabledIdByName at h
  unfold idByName
  cases hrow : findByName projects name with
  | none => simp [hrow] at h
  | some row =>
      rw [hrow, Option.map_some, Option.some.injEq, Prod.mk.injEq] at h
      rw [Option.map_some, h.1]

/-- `create`: the `INSERT` draws an id that no row has had. -/
def createProject (id : ProjectId) (name : String) (projects : List ProjectRow) :
    Option (List ProjectRow) :=
  if projects.any (·.id = id) ∨ (findByName projects name).isSome then none
  else some (projects ++ [⟨id, name, true, false⟩])

/-- `remove`. -/
def removeProject (id : ProjectId) (projects : List ProjectRow) : List ProjectRow :=
  projects.map fun row => if row.id = id then { row with deleted := true } else row

/-- `setEnabled`. -/
def setEnabled (id : ProjectId) (enabled : Bool) (projects : List ProjectRow) :
    List ProjectRow :=
  projects.map fun row =>
    if row.id = id ∧ row.deleted = false then { row with enabled } else row

/-! ## The guard -/

/-- The token of a request that has passed the guard, and the project it was compared
with. -/
structure Authorization where
  token : CachedToken
  projectId : ProjectId
  mem : projectId ∈ token.projectIds
deriving DecidableEq

/-- The guard once the name of the project has been looked up. -/
def authorizeProject (token : CachedToken) : Option ProjectId → Except HttpError Authorization
  | none => .error projectForbidden
  | some id =>
      if id = 0 then .error projectForbidden
      else if h : id ∈ token.projectIds then .ok ⟨token, id, h⟩
      else .error projectForbidden

/-- The two halves of the guard make the whole one. -/
theorem canActivate_eq (cachedToken : Option CachedToken) (clock : Time)
    (projectId : Option ProjectId) :
    canActivate cachedToken clock projectId =
      (assertTokenIsUsable cachedToken clock).bind fun token =>
        (authorizeProject token projectId).map (·.token) := by
  unfold canActivate
  cases assertTokenIsUsable cachedToken clock with
  | error error => rfl
  | ok token =>
      cases projectId with
      | none => rfl
      | some id =>
          by_cases hzero : id = 0
          · simp [authorizeProject, hzero, Except.bind, Except.map]
          · by_cases hmem : id ∈ token.projectIds <;>
              simp [authorizeProject, hzero, hmem, Except.bind, Except.map]

/-! ## Calls -/

/-- Identity of one call. -/
abbrev CallId := Nat

/-- The await at which a call stands; a call that selects a device names its invocation.
An exception that is no answer of the service fails without an error. -/
inductive CallStage where
  | readToken
  | findProject (token : CachedToken)
  | consume (authorization : Authorization)
  | resolveProject (authorization : Authorization)
  | selecting (authorization : Authorization) (invocation : Nat)
  | failed (error : Option HttpError)
deriving DecidableEq

/-- A call with its path and query. -/
structure AccessCall where
  project : String
  clientId : Option ClientId
  stage : CallStage
deriving DecidableEq

def schedulingFailed : HttpError := ⟨503, "基础设施异常,无法调度"⟩
def projectMissing : HttpError := ⟨404, "功能组不存在"⟩
def projectDisabled : HttpError := ⟨403, "功能组已停用"⟩

/-- After the read of the token. -/
def CallStage.afterToken (cachedToken : Option CachedToken) (clock : Time) : CallStage :=
  match assertTokenIsUsable cachedToken clock with
  | .error error => .failed (some error)
  | .ok token => .findProject token

/-- After the guard; the controller consumes a metered token first. -/
def CallStage.afterGuard : Except HttpError Authorization → CallStage
  | .error error => .failed (some error)
  | .ok authorization =>
      if authorization.token.maximumUsageCount.isSome then .consume authorization
      else .resolveProject authorization

/-! ## State -/

/-- The cluster with its jobs, the projects and the calls. -/
structure CallState (Payload : Type) where
  jobs : JobState Payload
  projects : List ProjectRow
  calls : CallId → Option AccessCall

/-- One step of the cluster, of an administrator or of a call. -/
inductive CallAction (Payload : Type) where
  | jobs (action : JobAction Payload)
  | createProject (id : ProjectId) (name : String)
  | removeProject (id : ProjectId)
  | setEnabled (id : ProjectId) (enabled : Bool)
  | request (id : CallId) (project : String) (clientId : Option ClientId)
  | readToken (id : CallId) (cachedToken : Option CachedToken) (clock : Time)
  | findProject (id : CallId) (fault : Fault)
  | consume (id : CallId) (refused : Option HttpError)
  | resolveProject (id : CallId) (fault : Fault)

variable {Payload : Type}

namespace CallState

/-- Nothing has been called yet. -/
def start (Payload : Type) (cluster : State) (projects : List ProjectRow) : CallState Payload where
  jobs := .start Payload cluster
  projects
  calls _ := none

/-- The stage of a call. -/
def setCall (s : CallState Payload) (id : CallId) (call : AccessCall) : CallState Payload :=
  { s with calls := Function.update s.calls id (some call) }

/-- A call arrives. -/
def request (s : CallState Payload) (id : CallId) (project : String)
    (clientId : Option ClientId) : Option (CallState Payload) :=
  match s.calls id with
  | some _ => none
  | none => some (s.setCall id ⟨project, clientId, .readToken⟩)

/-- The guard reads the token and checks that it is usable. -/
def readToken (s : CallState Payload) (id : CallId) (cachedToken : Option CachedToken)
    (clock : Time) : Option (CallState Payload) :=
  match s.calls id with
  | some ⟨project, clientId, .readToken⟩ =>
      some (s.setCall id ⟨project, clientId, .afterToken cachedToken clock⟩)
  | _ => none

/-- The guard resolves the name of the project. -/
def findProject (s : CallState Payload) (id : CallId) (fault : Fault) :
    Option (CallState Payload) :=
  match s.calls id with
  | some ⟨project, clientId, .findProject token⟩ =>
      if fault.throws then some (s.setCall id ⟨project, clientId, .failed none⟩)
      else
        let projectId := if project = "" then none else idByName s.projects project
        some (s.setCall id
          ⟨project, clientId, .afterGuard (authorizeProject token projectId)⟩)
  | _ => none

/-- `consumeInvocation` of a metered token. -/
def consume (s : CallState Payload) (id : CallId) (refused : Option HttpError) :
    Option (CallState Payload) :=
  match s.calls id with
  | some ⟨project, clientId, .consume authorization⟩ =>
      some (s.setCall id ⟨project, clientId,
        if refused.isSome then .failed refused else .resolveProject authorization⟩)
  | _ => none

/-- `resolveProject`; with the id of an enabled project `selectDevice` starts. -/
def resolveProject (s : CallState Payload) (id : CallId) (fault : Fault) :
    Option (CallState Payload) :=
  match s.calls id with
  | some ⟨project, clientId, .resolveProject authorization⟩ =>
      let fail error := s.setCall id ⟨project, clientId, .failed (some error)⟩
      if fault.throws then some (fail schedulingFailed)
      else
        match findEnabledIdByName s.projects project with
        | none => some (fail projectMissing)
        | some (_, false) => some (fail projectDisabled)
        | some (projectId, true) =>
            (s.jobs.clusterStep (.invoke projectId clientId)).map fun jobs =>
              { s with jobs }.setCall id ⟨project, clientId,
                .selecting authorization s.jobs.cluster.invocations.length⟩
  | _ => none

end CallState

/-- Dispatch of an action to the function that runs it. -/
def callStep (s : CallState Payload) : CallAction Payload → Option (CallState Payload)
  | .jobs action => (jobStep s.jobs action).map fun jobs => { s with jobs }
  | .createProject id name =>
      (createProject id name s.projects).map fun projects => { s with projects }
  | .removeProject id => some { s with projects := removeProject id s.projects }
  | .setEnabled id enabled => some { s with projects := setEnabled id enabled s.projects }
  | .request id project clientId => s.request id project clientId
  | .readToken id cachedToken clock => s.readToken id cachedToken clock
  | .findProject id fault => s.findProject id fault
  | .consume id refused => s.consume id refused
  | .resolveProject id fault => s.resolveProject id fault

/-- The cluster, its projects and its calls; projects may be there from the start. -/
def callMachine (Payload : Type) : Machine (CallState Payload) (CallAction Payload) where
  initial s := ∃ cluster projects, machine.initial cluster ∧ s = .start Payload cluster projects
  step := callStep

/-! ## What a step does -/

variable {s t : CallState Payload} {a : CallAction Payload}

/-- A step moves the cluster, changes the projects, moves a call that does not select, or
starts the selection of a call. -/
inductive CallStep (s : CallState Payload) : CallAction Payload → CallState Payload → Prop where
  | jobs {action : JobAction Payload} {jobs : JobState Payload}
      (hstep : jobStep s.jobs action = some jobs) : CallStep s (.jobs action) { s with jobs }
  | projects {a : CallAction Payload} (projects : List ProjectRow) :
      CallStep s a { s with projects }
  | moved {a : CallAction Payload} (id : CallId) (call : AccessCall)
      (hstage : ∀ authorization invocation, call.stage ≠ .selecting authorization invocation) :
      CallStep s a (s.setCall id call)
  | selects {id : CallId} {fault : Fault} {call : AccessCall} {authorization : Authorization}
      {projectId : ProjectId} {jobs : JobState Payload} (hcall : s.calls id = some call)
      (hstage : call.stage = .resolveProject authorization)
      (hname : idByName s.projects call.project = some projectId)
      (hstep : jobStep s.jobs (.cluster (.invoke projectId call.clientId)) = some jobs) :
      CallStep s (.resolveProject id fault) ({ s with jobs }.setCall id { call with
        stage := .selecting authorization s.jobs.cluster.invocations.length })

theorem CallStage.afterToken_ne (cachedToken : Option CachedToken) (clock : Time)
    (authorization : Authorization) (invocation : Nat) :
    afterToken cachedToken clock ≠ .selecting authorization invocation := by
  unfold afterToken
  split <;> simp

theorem CallStage.afterGuard_ne (result : Except HttpError Authorization)
    (authorization : Authorization) (invocation : Nat) :
    afterGuard result ≠ .selecting authorization invocation := by
  unfold afterGuard
  split
  · simp
  · split <;> simp

namespace CallStep

theorem of_resolveProject {id : CallId} {fault : Fault}
    (hstep : s.resolveProject id fault = some t) : CallStep s (.resolveProject id fault) t := by
  unfold CallState.resolveProject at hstep
  split at hstep
  · rename_i project clientId authorization hcall
    split at hstep
    · rw [← Option.some.inj hstep]
      exact .moved _ _ (by simp)
    · split at hstep
      · rw [← Option.some.inj hstep]
        exact .moved _ _ (by simp)
      · rw [← Option.some.inj hstep]
        exact .moved _ _ (by simp)
      · rename_i projectId hname
        rcases Option.map_eq_some_iff.mp hstep with ⟨jobs, hjobs, rfl⟩
        exact .selects hcall rfl (idByName_of_findEnabled hname) hjobs
  · contradiction

/-- Every step is one of the four. -/
theorem of_step (hstep : callStep s a = some t) : CallStep s a t := by
  cases a with
  | jobs action =>
      rcases Option.map_eq_some_iff.mp hstep with ⟨jobs, hjobs, rfl⟩
      exact .jobs hjobs
  | createProject id name =>
      rcases Option.map_eq_some_iff.mp hstep with ⟨projects, -, rfl⟩
      exact .projects projects
  | removeProject id =>
      rw [← Option.some.inj hstep]
      exact .projects _
  | setEnabled id enabled =>
      rw [← Option.some.inj hstep]
      exact .projects _
  | request id project clientId =>
      simp only [callStep, CallState.request] at hstep
      split at hstep
      · contradiction
      · rw [← Option.some.inj hstep]
        exact .moved _ _ (by simp)
  | readToken id cachedToken clock =>
      simp only [callStep, CallState.readToken] at hstep
      split at hstep
      · rw [← Option.some.inj hstep]
        exact .moved _ _ (CallStage.afterToken_ne cachedToken clock)
      · contradiction
  | findProject id fault =>
      simp only [callStep, CallState.findProject] at hstep
      split at hstep
      · split at hstep <;> rw [← Option.some.inj hstep]
        · exact .moved _ _ (by simp)
        · exact .moved _ _ (CallStage.afterGuard_ne _)
      · contradiction
  | consume id refused =>
      simp only [callStep, CallState.consume] at hstep
      split at hstep
      · rw [← Option.some.inj hstep]
        refine .moved _ _ ?_
        intro authorization invocation
        dsimp only
        split <;> simp
      · contradiction
  | resolveProject id fault => exact of_resolveProject hstep

end CallStep

end Gateway
end R2RPC
