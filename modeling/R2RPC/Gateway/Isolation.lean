import R2RPC.Gateway.AccessCalls
import R2RPC.Gateway.RoutingScope

/-!
# Calls and the scope of their project

What keeps a call of the public interface inside its project.  The project of the second
lookup is not compared with the token again, a requested device is only asked to be
online, a session may start while calls for other projects still head for its client id,
and a job may leave the bus when the session of its device is gone.  Where none of this
happens, every job that is sent belongs to a project of the token and goes to a device
whose current session was granted that project.

Main results:

- Definition {lit}`JobState.sends` and theorem {lit}`JobState.sent_of_delivered`: the socket
  that a step sends a job on; a run sends nothing else.
- Definition {lit}`JobState.Heads` and theorem {lit}`JobState.heads_step`: the devices that
  an invocation may still reach.
- Theorem {lit}`calls_isolated`: the property holds along every run that meets the
  condition {lit}`StaysInScope`.
- Theorem {lit}`requested_leaves_scope`: a call that names a device of another project
  reaches it.
- Theorem {lit}`replaced_leaves_scope`: a call follows the name of its project to another id.

Current gaps:

- The condition is sufficient along a run; no converse is stated.
-/

namespace R2RPC
namespace Gateway

open Interleaving AccessToken

variable {Payload : Type} {clientId : ClientId} {q : ProjectId} {id : Nat}

/-! ## The device of an invocation -/

/-- The devices that an invocation at this stage may still dispatch to; a requested one
counts once it has been found online. -/
def InvocationStage.targets : InvocationStage → List ClientId
  | .checkRequested _ => []
  | .dispatching clientId => [clientId]
  | stage => stage.candidates

theorem Invocation.start_targets (projectId : ProjectId) (requested : Option ClientId) :
    (start projectId requested).stage.targets = [] := by
  unfold start
  split <;> rfl

theorem Invocation.start_projectId (projectId : ProjectId) (requested : Option ClientId) :
    (start projectId requested).projectId = projectId := by
  unfold start
  split <;> rfl

theorem InvocationStage.candidates_of_targets {stage : InvocationStage}
    (h : clientId ∈ stage.targets) : clientId ∈ stage.candidates ∨ stage = .dispatching clientId := by
  cases stage with
  | checkRequested c => contradiction
  | dispatching c => exact Or.inr (congrArg _ (List.mem_singleton.mp h).symm)
  | _ => exact Or.inl h

theorem InvocationStage.targets_of_candidates {stage : InvocationStage}
    (h : clientId ∈ stage.candidates) :
    clientId ∈ stage.targets ∨ stage = .checkRequested clientId := by
  cases stage with
  | checkRequested c => exact Or.inr (congrArg _ (List.mem_singleton.mp h).symm)
  | dispatching c => contradiction
  | _ => exact Or.inl h

/-- A target was one before, is listed by `SMEMBERS`, or has been requested and found
online. -/
theorem Invocation.next_targets {invocation : Invocation} {store : Store}
    {order : List ClientId} (h : clientId ∈ (invocation.next store order).targets) :
    clientId ∈ invocation.stage.targets ∨
      (invocation.stage = .listMembers ∧ clientId ∈ order) ∨
      (invocation.stage = .checkRequested clientId ∧ store.isOnline clientId = true) := by
  rcases InvocationStage.candidates_of_targets h with hcand | hdispatching
  · rcases next_candidates hcand with hbefore | hlisted
    · rcases InvocationStage.targets_of_candidates hbefore with htarget | hrequested
      · exact Or.inl htarget
      · refine Or.inr (Or.inr ⟨hrequested, ?_⟩)
        by_contra hoffline
        simp [next, hrequested, hoffline, InvocationStage.candidates] at hcand
    · exact Or.inr (Or.inl hlisted)
  · -- only a successful acquisition dispatches, to the device it was made for
    cases hstage : invocation.stage with
    | acquire c maximumInFlight remaining =>
        simp only [next, hstage] at hdispatching
        split at hdispatching
        · rw [InvocationStage.dispatching.injEq] at hdispatching
          exact Or.inl (hdispatching ▸ List.mem_cons_self)
        · cases remaining <;> contradiction
    | checkCandidate c remaining online =>
        simp only [next, hstage, nextCandidate] at hdispatching
        split at hdispatching
        · split at hdispatching <;> contradiction
        · contradiction
    | checkRequested c =>
        simp only [next, hstage] at hdispatching
        split at hdispatching <;> contradiction
    | dispatching c =>
        simp only [next, hstage] at hdispatching
        split at hdispatching <;> contradiction
    | listMembers | dropCandidate =>
        simp only [next, hstage, nextCandidate] at hdispatching
        split at hdispatching <;> contradiction
    | advanceCursor online =>
        simp only [next, hstage, nextDevice] at hdispatching
        split at hdispatching <;> contradiction
    | readLimit | floor | ended =>
        simp only [next, hstage] at hdispatching
        contradiction

/-- An invocation stays, with its project. -/
theorem step_invocation {s t : State} {a : Action} (hstep : step s a = some t)
    {invocation : Invocation} (hid : s.invocations[id]? = some invocation) :
    ∃ after, t.invocations[id]? = some after ∧ after.projectId = invocation.projectId ∧
      (after = invocation ∨ ∃ fault order, a = .dispatch id fault order ∧
        (invocation.stage = .listMembers →
          order.Perm (s.store.members invocation.projectId)) ∧
        after = invocation.advance s.store fault order) := by
  by_cases hdispatch : ∃ k fault order, a = .dispatch k fault order
  · rcases hdispatch with ⟨k, fault, order, rfl⟩
    rcases State.dispatch_eq_some hstep with ⟨before, hget, -, hperm, rfl⟩
    by_cases hk : k = id
    · subst hk
      obtain rfl : before = invocation := Option.some.inj (hget.symm.trans hid)
      have hlt : k < s.invocations.length := (List.getElem?_eq_some_iff.mp hget).1
      refine ⟨before.advance s.store fault order, ?_, rfl, Or.inr ⟨fault, order, rfl, hperm, rfl⟩⟩
      simp [hlt]
    · refine ⟨invocation, ?_, rfl, Or.inl rfl⟩
      rw [List.getElem?_set_ne hk, hid]
  · have hother : ∀ k fault order, a ≠ .dispatch k fault order :=
      fun k fault order ha => hdispatch ⟨k, fault, order, ha⟩
    refine ⟨invocation, ?_, rfl, Or.inl rfl⟩
    rcases step_invocations hother hstep with hsame | ⟨projectId, requested, hstart⟩
    · rw [hsame, hid]
    · rw [hstart, List.getElem?_append_left (List.getElem?_eq_some_iff.mp hid).1, hid]

/-! ## The device of a job -/

/-- `dispatchJob` has not returned yet. -/
def JobDispatch.pending (call : JobDispatch) : Bool :=
  match call.stage with
  | .readSession | .publish _ => true
  | .returned _ | .failed => false

/-- A job that is sent on a socket. -/
structure SentJob where
  invocation : Nat
  clientId : ClientId
  socket : SocketId
  job : Job
deriving DecidableEq, Repr

namespace JobState

variable {s t : JobState Payload} {a : JobAction Payload}

/-- The device may still receive a job of the invocation. -/
def Heads (s : JobState Payload) (id : Nat) (clientId : ClientId) : Prop :=
  (∃ invocation, s.cluster.invocations[id]? = some invocation ∧
    clientId ∈ invocation.stage.targets) ∨
  (∃ call, s.dispatches id = some call ∧ call.pending = true ∧ call.clientId = clientId) ∨
  ∃ message, s.bus id = some message ∧ message.clientId = clientId

/-- The job that a step sends: of `routeJob` when the socket is on the same instance, of
`receiveJob` otherwise. -/
def sends (s : JobState Payload) : JobAction Payload → Option SentJob
  | .routeJob id fault now =>
      match s.dispatches id with
      | none => none
      | some call =>
          if call.stage ≠ .readSession ∨ s.cluster.crashed call.instanceId ∨ fault.throws ∨
              s.cluster.routeJob call.instanceId call.clientId ≠ .here then none
          else
            (s.cluster.deliverLocalJob call.instanceId call.clientId call.job now).map
              (⟨id, call.clientId, ·, call.job⟩)
  | .receiveJob id now =>
      match s.bus id with
      | none => none
      | some message =>
          (s.cluster.deliverLocalJob message.channel message.clientId message.job now).map
            (⟨id, message.clientId, ·, message.job⟩)
  | _ => none

theorem deliverLocalJob_delivered (s : JobState Payload) (instanceId : InstanceId)
    (clientId : ClientId) (job : Job) (now : Timestamp) :
    (s.deliverLocalJob instanceId clientId job now).delivered =
      s.delivered ++
        ((s.cluster.deliverLocalJob instanceId clientId job now).map fun k => (k, job)).toList := by
  unfold JobState.deliverLocalJob
  cases s.cluster.deliverLocalJob instanceId clientId job now <;> simp

/-- Nothing else is ever sent on a socket. -/
theorem delivered_step (hstep : jobStep s a = some t) :
    t.delivered =
      s.delivered ++ ((s.sends a).map fun sent => (sent.socket, sent.job)).toList := by
  cases a with
  | routeJob k fault now =>
      simp only [jobStep, JobState.routeJob] at hstep
      split at hstep
      · contradiction
      · rename_i call hcall
        split at hstep
        · contradiction
        · rename_i hactive
          split at hstep
          · rename_i hthrows
            rw [← Option.some.inj hstep]
            simp [sends, hcall, hthrows, setDispatch]
          · rename_i hthrows
            split at hstep <;> rename_i hroute <;> rw [← Option.some.inj hstep]
            · simp [sends, hcall, hroute, setDispatch]
            · rw [not_or] at hactive
              simp only [sends, hcall, hactive, hthrows, hroute, setDispatch,
                deliverLocalJob_delivered]
              simp [Function.comp_def]
            · simp [sends, hcall, hroute, setDispatch]
  | receiveJob k now =>
      simp only [jobStep, JobState.receiveJob] at hstep
      split at hstep
      · contradiction
      · rename_i message hmessage
        rw [← Option.some.inj hstep, deliverLocalJob_delivered]
        simp [sends, hmessage, Function.comp_def]
  | publishJob k fault =>
      simp only [jobStep, JobState.publishJob] at hstep
      split at hstep
      · contradiction
      · split at hstep
        · split at hstep
          · contradiction
          · rw [← Option.some.inj hstep]
            cases fault <;> simp [sends, setDispatch, publish]
        · contradiction
  | dispatchJob k instanceId job =>
      simp only [jobStep, JobState.dispatchJob] at hstep
      split at hstep
      · split at hstep
        · split at hstep
          · contradiction
          · rw [← Option.some.inj hstep]
            simp [sends, setDispatch]
        · contradiction
      · contradiction
  | cluster action =>
      simp only [jobStep, JobState.clusterStep, Option.map_eq_some_iff] at hstep
      rcases hstep with ⟨cluster, -, rfl⟩
      simp [sends]
  | frame k socket frame =>
      simp only [jobStep, JobState.frame] at hstep
      split at hstep
      · split at hstep
        · rw [← Option.some.inj hstep]
          simp [sends]
        · contradiction
      · contradiction
  | startSweep k listed =>
      simp only [jobStep, JobState.startSweep] at hstep
      split at hstep
      · contradiction
      · rw [← Option.some.inj hstep]
        simp [sends]
  | sweep k fault =>
      simp only [jobStep, JobState.sweep] at hstep
      split at hstep
      · contradiction
      · split at hstep
        · contradiction
        · rw [← Option.some.inj hstep]
          simp [sends]

/-- What a run has sent, one of its steps has sent. -/
theorem sent_of_delivered {as : List (JobAction Payload)}
    (hrun : (jobMachine Payload).run s as = some t) {socket : SocketId} {job : Job}
    (h : (socket, job) ∈ t.delivered) :
    (socket, job) ∈ s.delivered ∨
      ∃ pre a post u sent, as = pre ++ a :: post ∧ (jobMachine Payload).run s pre = some u ∧
        u.sends a = some sent ∧ sent.socket = socket ∧ sent.job = job := by
  induction as generalizing s with
  | nil =>
      rw [Machine.run_nil, Option.some.injEq] at hrun
      exact Or.inl (hrun ▸ h)
  | cons a as ih =>
      rcases Machine.run_cons_eq_some.mp hrun with ⟨v, hstep, hrest⟩
      rcases ih hrest with hbefore | ⟨pre, b, post, u, sent, rfl, hpre, hsends, hsent⟩
      · rw [delivered_step hstep, List.mem_append, Option.mem_toList] at hbefore
        rcases hbefore with hbefore | hnew
        · exact Or.inl hbefore
        · rcases Option.map_eq_some_iff.mp hnew with ⟨sent, hsends, hsent⟩
          rw [Prod.mk.injEq] at hsent
          exact Or.inr ⟨[], a, as, s, sent, rfl, rfl, hsends, hsent⟩
      · exact Or.inr ⟨a :: pre, b, post, u, sent, rfl,
          Machine.run_cons_eq_some.mpr ⟨v, hstep, hpre⟩, hsends, hsent⟩

/-- The device that is sent a job is one that the invocation heads for. -/
theorem heads_of_sends {sent : SentJob} (h : s.sends a = some sent) :
    s.Heads sent.invocation sent.clientId := by
  unfold sends at h
  split at h
  · split at h
    · contradiction
    · rename_i call hcall
      split at h
      · contradiction
      · rename_i hactive
        rw [not_or, not_not] at hactive
        rcases Option.map_eq_some_iff.mp h with ⟨k, -, rfl⟩
        exact Or.inr (Or.inl ⟨call, hcall, by simp [JobDispatch.pending, hactive.1], rfl⟩)
  · split at h
    · contradiction
    · rename_i message hmessage
      rcases Option.map_eq_some_iff.mp h with ⟨k, -, rfl⟩
      exact Or.inr (Or.inr ⟨message, hmessage, rfl⟩)
  · contradiction

/-- A job is sent by the instance that has just read the session, or taken off the bus. -/
theorem session_of_sends {sent : SentJob} (h : s.sends a = some sent) :
    s.cluster.store.session sent.clientId ≠ none ∨
      ∃ now message, a = .receiveJob sent.invocation now ∧
        s.bus sent.invocation = some message ∧ message.clientId = sent.clientId ∧
        s.cluster.deliverLocalJob message.channel message.clientId message.job now =
          some sent.socket := by
  unfold sends at h
  split at h
  · split at h
    · contradiction
    · rename_i call hcall
      split at h
      · contradiction
      · rename_i hactive
        simp only [not_or, not_not] at hactive
        rcases Option.map_eq_some_iff.mp h with ⟨k, -, rfl⟩
        refine Or.inl fun hnone => ?_
        have hroute := hactive.2.2.2
        simp [State.routeJob, hnone] at hroute
  · rename_i id now
    split at h
    · contradiction
    · rename_i message hmessage
      rcases Option.map_eq_some_iff.mp h with ⟨k, hk, rfl⟩
      exact Or.inr ⟨now, message, rfl, hmessage, rfl, hk⟩
  · contradiction

/-! ## What a step does to a dispatch -/

/-- The traffic of an invocation: a pending dispatch after a step was pending before it or
starts for the device of the invocation; a message comes from a pending dispatch. -/
structure TrafficStep (s t : JobState Payload) : Prop where
  dispatches : ∀ id call, t.dispatches id = some call →
    (∃ before, s.dispatches id = some before ∧ before.clientId = call.clientId ∧
      (call.pending = true → before.pending = true)) ∨
    ∃ invocation, s.cluster.invocations[id]? = some invocation ∧
      invocation.stage = .dispatching call.clientId
  bus : ∀ id message, t.bus id = some message →
    s.bus id = some message ∨
      ∃ call, s.dispatches id = some call ∧ call.pending = true ∧
        call.clientId = message.clientId

theorem TrafficStep.same (hdispatches : t.dispatches = s.dispatches) (hbus : t.bus = s.bus) :
    TrafficStep s t :=
  ⟨fun _ call h => Or.inl ⟨call, hdispatches ▸ h, rfl, fun hp => hp⟩,
    fun _ _ h => Or.inl (hbus ▸ h)⟩

/-- A dispatch moves to another stage. -/
theorem TrafficStep.moved {call : JobDispatch} (stage : JobStage)
    (hcall : s.dispatches id = some call) (hpending : call.pending = true)
    (hdispatches : t.dispatches = Function.update s.dispatches id (some { call with stage }))
    (hbus : t.bus = s.bus ∨
      ∃ holder, t.bus = Function.update s.bus id (some ⟨holder, call.clientId, call.job⟩)) :
    TrafficStep s t := by
  refine ⟨?_, ?_⟩
  · intro k after h
    rw [hdispatches] at h
    by_cases hk : k = id
    · subst hk
      rw [Function.update_self, Option.some.injEq] at h
      exact Or.inl ⟨call, hcall, by rw [← h], fun _ => hpending⟩
    · rw [Function.update_of_ne hk] at h
      exact Or.inl ⟨after, h, rfl, fun hp => hp⟩
  · intro k message h
    rcases hbus with hsame | ⟨holder, hpublished⟩
    · exact Or.inl (hsame ▸ h)
    · rw [hpublished] at h
      by_cases hk : k = id
      · subst hk
        rw [Function.update_self, Option.some.injEq] at h
        exact Or.inr ⟨call, hcall, hpending, by rw [← h]⟩
      · rw [Function.update_of_ne hk] at h
        exact Or.inl h

theorem deliverLocalJob_traffic (s : JobState Payload) (instanceId : InstanceId)
    (clientId : ClientId) (job : Job) (now : Timestamp) :
    (s.deliverLocalJob instanceId clientId job now).dispatches = s.dispatches ∧
      (s.deliverLocalJob instanceId clientId job now).bus = s.bus := by
  unfold JobState.deliverLocalJob
  split <;> exact ⟨rfl, rfl⟩

theorem TrafficStep.of_routeJob {fault : Fault} {now : Timestamp}
    (hstep : s.routeJob id fault now = some t) : TrafficStep s t := by
  unfold JobState.routeJob at hstep
  split at hstep
  · contradiction
  · rename_i call hcall
    split at hstep
    · contradiction
    · rename_i hactive
      rw [not_or, not_not] at hactive
      have hpending : call.pending = true := by simp [JobDispatch.pending, hactive.1]
      split at hstep
      · rw [← Option.some.inj hstep]
        exact .moved _ hcall hpending rfl (Or.inl rfl)
      · split at hstep <;> rw [← Option.some.inj hstep]
        · exact .moved _ hcall hpending rfl (Or.inl rfl)
        · rcases s.deliverLocalJob_traffic call.instanceId call.clientId call.job now with
            ⟨hdispatches, hbus⟩
          let dispatched :=
            (s.cluster.deliverLocalJob call.instanceId call.clientId call.job now).isSome
          refine .moved (.returned dispatched) hcall hpending ?_ (Or.inl hbus)
          rw [setDispatch, hdispatches]
        · exact .moved _ hcall hpending rfl (Or.inl rfl)

theorem TrafficStep.of_publishJob {fault : Fault} (hstep : s.publishJob id fault = some t) :
    TrafficStep s t := by
  unfold JobState.publishJob at hstep
  split at hstep
  · contradiction
  · rename_i call hcall
    split at hstep
    · rename_i holder hstage
      have hpending : call.pending = true := by simp [JobDispatch.pending, hstage]
      split at hstep
      · contradiction
      · rw [← Option.some.inj hstep]
        rcases fault.apply_cases (JobState.publish id ⟨holder, call.clientId, call.job⟩) s
          with hskip | ⟨-, happly⟩
        · refine .moved _ hcall hpending (by rw [hskip]; rfl) (Or.inl (by rw [hskip]; rfl))
        · refine .moved _ hcall hpending (by rw [happly]; rfl) (Or.inr ⟨holder, ?_⟩)
          rw [happly]
          rfl
    · contradiction

theorem TrafficStep.of_dispatchJob {instanceId : InstanceId} {job : Job}
    (hstep : s.dispatchJob id instanceId job = some t) : TrafficStep s t := by
  unfold JobState.dispatchJob at hstep
  split at hstep
  · rename_i invocation _ hid
    split at hstep
    · rename_i clientId hstage
      split at hstep
      · contradiction
      · rw [← Option.some.inj hstep]
        refine ⟨?_, fun _ _ h => Or.inl h⟩
        intro k call h
        by_cases hk : k = id
        · subst hk
          simp only [setDispatch, Function.update_self, Option.some.injEq] at h
          exact Or.inr ⟨invocation, hid, by rw [hstage, ← h]⟩
        · simp only [setDispatch, Function.update_of_ne hk] at h
          exact Or.inl ⟨call, h, rfl, fun hp => hp⟩
    · contradiction
  · contradiction

theorem TrafficStep.of_receiveJob {now : Timestamp} (hstep : s.receiveJob id now = some t) :
    TrafficStep s t := by
  unfold JobState.receiveJob at hstep
  split at hstep
  · contradiction
  · rename_i message hmessage
    rw [← Option.some.inj hstep]
    rcases deliverLocalJob_traffic { s with bus := Function.update s.bus id none } message.channel
      message.clientId message.job now with ⟨hdispatches, hbus⟩
    refine ⟨fun k call h => Or.inl ⟨call, hdispatches ▸ h, rfl, fun hp => hp⟩, ?_⟩
    intro k after h
    by_cases hk : k = id
    · subst hk
      simp only [hbus, Function.update_self, reduceCtorEq] at h
    · simp only [hbus, Function.update_of_ne hk] at h
      exact Or.inl h

theorem TrafficStep.of_step (hstep : jobStep s a = some t) : TrafficStep s t := by
  cases a with
  | dispatchJob k instanceId job => exact .of_dispatchJob hstep
  | routeJob k fault now => exact .of_routeJob hstep
  | publishJob k fault => exact .of_publishJob hstep
  | receiveJob k now => exact .of_receiveJob hstep
  | cluster action =>
      rcases Option.map_eq_some_iff.mp hstep with ⟨cluster, -, rfl⟩
      exact .same rfl rfl
  | frame k socket frame =>
      simp only [jobStep, JobState.frame] at hstep
      split at hstep
      · split at hstep
        · rw [← Option.some.inj hstep]
          exact .same rfl rfl
        · contradiction
      · contradiction
  | startSweep k listed =>
      simp only [jobStep, JobState.startSweep] at hstep
      split at hstep
      · contradiction
      · rw [← Option.some.inj hstep]
        exact .same rfl rfl
  | sweep k fault =>
      simp only [jobStep, JobState.sweep] at hstep
      split at hstep
      · contradiction
      · split at hstep
        · contradiction
        · rw [← Option.some.inj hstep]
          exact .same rfl rfl

/-! ## What a step does to the cluster -/

/-- Outside the cluster's own steps, nothing that routing reads of it changes. -/
theorem cluster_step (hstep : jobStep s a = some t) :
    (∃ action, a = .cluster action ∧ step s.cluster action = some t.cluster) ∨
      (t.cluster.sockets = s.cluster.sockets ∧ t.cluster.crashed = s.cluster.crashed ∧
        t.cluster.invocations = s.cluster.invocations ∧
        t.cluster.store.session = s.cluster.store.session ∧
        t.cluster.store.members = s.cluster.store.members) := by
  cases JobStep.of_step hstep with
  | cluster hcluster => exact Or.inl ⟨_, rfl, hcluster⟩
  | frame hfree hlive hidle => exact Or.inr ⟨rfl, rfl, rfl, rfl, rfl⟩
  | sweep stage sweeps =>
      refine Or.inr ⟨rfl, rfl, rfl, ?_, ?_⟩
      · rcases Fault.apply_cases _ stage.command s.cluster.store with hskip | ⟨-, happly⟩
        · exact congrArg Store.session hskip
        · exact (congrArg Store.session happly).trans (stage.command_rest _).1
      · rcases Fault.apply_cases _ stage.command s.cluster.store with hskip | ⟨-, happly⟩
        · exact congrArg Store.members hskip
        · exact (congrArg Store.members happly).trans (stage.command_rest _).2.2
  | traffic dispatches bus delivered sweeps hcluster hframe =>
      exact Or.inr ⟨rfl, rfl, rfl, rfl, rfl⟩

/-- An invocation stays, with its project. -/
theorem invocation_step (hstep : jobStep s a = some t) {invocation : Invocation}
    (hid : s.cluster.invocations[id]? = some invocation) :
    ∃ after, t.cluster.invocations[id]? = some after ∧
      after.projectId = invocation.projectId := by
  rcases cluster_step hstep with ⟨action, -, hcluster⟩ | ⟨-, -, hsame, -⟩
  · rcases step_invocation hcluster hid with ⟨after, hafter, hproject, -⟩
    exact ⟨after, hafter, hproject⟩
  · exact ⟨invocation, hsame ▸ hid, rfl⟩

/-- An invocation heads for a device that it has headed for, for a member of its project,
or for a requested device that has been found online. -/
theorem heads_step (hstep : jobStep s a = some t) {invocation : Invocation}
    (hid : s.cluster.invocations[id]? = some invocation) (h : t.Heads id clientId) :
    s.Heads id clientId ∨
      clientId ∈ s.cluster.store.members invocation.projectId ∨
      ∃ fault order, a = .cluster (.dispatch id fault order) ∧ fault.throws = false ∧
        invocation.stage = .checkRequested clientId ∧
        s.cluster.store.isOnline clientId = true := by
  have htraffic : TrafficStep s t := .of_step hstep
  rcases h with ⟨after, hafter, htarget⟩ | ⟨call, hcall, hpending, rfl⟩ |
      ⟨message, hmessage, rfl⟩
  · rcases cluster_step hstep with ⟨action, rfl, hcluster⟩ | ⟨-, -, hsame, -⟩
    · rcases step_invocation hcluster hid with ⟨after', hafter', -, hmoved⟩
      obtain rfl : after' = after := Option.some.inj (hafter'.symm.trans hafter)
      rcases hmoved with rfl | ⟨fault, order, rfl, hperm, rfl⟩
      · exact Or.inl (Or.inl ⟨after', hid, htarget⟩)
      · simp only [Invocation.advance] at htarget
        split at htarget
        · contradiction
        · rename_i hthrows
          rw [Bool.not_eq_true] at hthrows
          rcases Invocation.next_targets htarget with hbefore | ⟨hlist, horder⟩ |
              ⟨hrequested, honline⟩
          · exact Or.inl (Or.inl ⟨invocation, hid, hbefore⟩)
          · exact Or.inr (Or.inl ((hperm hlist).mem_iff.mp horder))
          · exact Or.inr (Or.inr ⟨fault, order, rfl, hthrows, hrequested, honline⟩)
    · exact Or.inl (Or.inl ⟨after, hsame ▸ hafter, htarget⟩)
  · rcases htraffic.dispatches id call hcall with ⟨before, hbefore, hclient, hkept⟩ |
        ⟨before, hbefore, hstage⟩
    · exact Or.inl (Or.inr (Or.inl ⟨before, hbefore, hkept hpending, hclient⟩))
    · refine Or.inl (Or.inl ⟨before, hbefore, ?_⟩)
      rw [hstage]
      exact List.mem_cons_self
  · rcases htraffic.bus id message hmessage with hbefore | hbefore
    · exact Or.inl (Or.inr (Or.inr ⟨message, hbefore, rfl⟩))
    · exact Or.inl (Or.inr (Or.inl hbefore))

/-- Only an invocation that exists heads for a device. -/
def Numbered (s : JobState Payload) : Prop :=
  ∀ id clientId, s.Heads id clientId → id < s.cluster.invocations.length

theorem Numbered.step (h : s.Numbered) (hstep : jobStep s a = some t) : t.Numbered := by
  intro id c hheads
  have hgrows : ∀ k, k < s.cluster.invocations.length → k < t.cluster.invocations.length := by
    intro k hk
    rcases invocation_step hstep (List.getElem?_eq_getElem hk) with ⟨after, hafter, -⟩
    exact (List.getElem?_eq_some_iff.mp hafter).1
  have htraffic : TrafficStep s t := .of_step hstep
  rcases hheads with ⟨after, hafter, -⟩ | ⟨call, hcall, hpending, rfl⟩ | ⟨message, hmessage, rfl⟩
  · exact (List.getElem?_eq_some_iff.mp hafter).1
  · rcases htraffic.dispatches id call hcall with ⟨before, hbefore, hclient, hkept⟩ |
        ⟨before, hbefore, -⟩
    · exact hgrows _ (h id _ (Or.inr (Or.inl ⟨before, hbefore, hkept hpending, rfl⟩)))
    · exact hgrows _ (List.getElem?_eq_some_iff.mp hbefore).1
  · rcases htraffic.bus id message hmessage with hbefore | hbefore
    · exact hgrows _ (h id _ (Or.inr (Or.inr ⟨message, hbefore, rfl⟩)))
    · exact hgrows _ (h id _ (Or.inr (Or.inl hbefore)))

end JobState

/-! ## The property and its condition -/

/-- The current session of the device, if there is one, was granted the project. -/
def Granted (s : State) (clientId : ClientId) (q : ProjectId) : Prop :=
  ∀ token socket, s.store.session clientId = some token →
    s.sockets token.uuid = some socket → q ∈ socket.projectIds

/-- The invocation was started by an authorised call. -/
def CallState.Serves (s : CallState Payload) (id : Nat) (authorization : Authorization) : Prop :=
  ∃ n call, s.calls n = some call ∧ call.stage = .selecting authorization id

theorem CallState.serves_setCall {s : CallState Payload} {n : CallId} {call : AccessCall}
    {authorization : Authorization} (h : (s.setCall n call).Serves id authorization) :
    s.Serves id authorization ∨ call.stage = .selecting authorization id := by
  rcases h with ⟨k, other, hother, hselects⟩
  by_cases hk : k = n
  · subst hk
    simp only [setCall, Function.update_self, Option.some.injEq] at hother
    exact Or.inr (hother ▸ hselects)
  · simp only [setCall, Function.update_of_ne hk] at hother
    exact Or.inl ⟨k, other, hother, hselects⟩

/-- A job that is sent for an authorised call belongs to a project of the token, and its
device has a current session that was granted the project. -/
def Isolated (s : CallState Payload) : CallAction Payload → Prop
  | .jobs a =>
      ∀ sent authorization, s.jobs.sends a = some sent →
        s.Serves sent.invocation authorization →
        ∃ invocation, s.jobs.cluster.invocations[sent.invocation]? = some invocation ∧
          invocation.projectId ∈ authorization.token.projectIds ∧
          ∃ token socket, s.jobs.cluster.store.session sent.clientId = some token ∧
            s.jobs.cluster.sockets token.uuid = some socket ∧
            invocation.projectId ∈ socket.projectIds
  | _ => True

/-- A session starts only when nothing that belongs to another project names its device:
no membership, no other running handshake, no call on its way to it. -/
def SessionsStartClean (s : CallState Payload) (a : Action) : Prop :=
  ∀ k socket, SetsSession socket.clientId s.jobs.cluster a k socket →
    MembershipClean s.jobs.cluster socket.clientId socket.projectIds k ∧
      ∀ id authorization invocation, s.Serves id authorization →
        s.jobs.cluster.invocations[id]? = some invocation →
        s.jobs.Heads id socket.clientId → invocation.projectId ∈ socket.projectIds

/-- A requested device that is found online has no session of another project. -/
def RequestsGranted (s : CallState Payload) : Action → Prop
  | .dispatch id _ _ =>
      ∀ authorization invocation clientId, s.Serves id authorization →
        s.jobs.cluster.invocations[id]? = some invocation →
        invocation.stage = .checkRequested clientId →
        s.jobs.cluster.store.isOnline clientId = true →
        Granted s.jobs.cluster clientId invocation.projectId
  | _ => True

/-- The name of the project still belongs to the row of the guard, or to none; sessions
start clean; requested devices are of the project; a job that leaves the bus for an open
socket finds a current session. -/
def StaysInScope (s : CallState Payload) : CallAction Payload → Prop
  | .resolveProject n _ =>
      ∀ call authorization projectId, s.calls n = some call →
        call.stage = .resolveProject authorization →
        idByName s.projects call.project = some projectId →
        projectId = authorization.projectId
  | .jobs (.cluster a) => SessionsStartClean s a ∧ RequestsGranted s a
  | .jobs (.receiveJob id now) =>
      ∀ message k, s.jobs.bus id = some message →
        s.jobs.cluster.deliverLocalJob message.channel message.clientId message.job now = some k →
        s.jobs.cluster.store.session message.clientId ≠ none
  | _ => True

/-! ## The invariant -/

/-- What sessions and memberships of a cluster keep. -/
structure ClusterInvariant (s : State) : Prop where
  attached : AttachedSockets s
  owned : SessionOwned s
  granted : PendingGranted s
  clean : ∀ clientId token socket, s.store.session clientId = some token →
    s.sockets token.uuid = some socket →
    MembershipClean s clientId socket.projectIds token.uuid

theorem ClusterInvariant.initial {s : State} (h : machine.initial s) : ClusterInvariant s := by
  have hscope : ScopeInvariant s := .initial h
  refine ⟨hscope.attached, hscope.owned, hscope.granted, ?_⟩
  intro c token socket hsession hsocket
  have hclean := hscope.clean c token socket hsession hsocket
  exact ⟨hclean.members, hclean.pending⟩

theorem ClusterInvariant.step {s t : State} {a : Action} (h : ClusterInvariant s)
    (hclean : ∀ k socket, SetsSession socket.clientId s a k socket →
      MembershipClean s socket.clientId socket.projectIds k)
    (hstep : Gateway.step s a = some t) : ClusterInvariant t :=
  ⟨attachedSockets_step h.attached hstep, h.owned.step h.attached hstep, h.granted.step hstep,
    sessions_keep h.attached h.owned h.granted h.clean hclean
      (fun hbefore hown hnew => hbefore.step hown hnew hstep) hstep⟩

/-- Nothing but the parts that routing reads matters. -/
theorem ClusterInvariant.of_same {s t : State} (h : ClusterInvariant s)
    (hsockets : t.sockets = s.sockets) (hcrashed : t.crashed = s.crashed)
    (hsession : t.store.session = s.store.session) (hmembers : t.store.members = s.store.members) :
    ClusterInvariant t := by
  have hlive : t.liveSocket = s.liveSocket := by
    funext k
    simp only [State.liveSocket, hsockets, hcrashed]
  refine ⟨?_, ?_, ?_, ?_⟩
  · intro k socket hk
    exact h.attached k socket (hsockets ▸ hk)
  · intro c token htoken
    rcases h.owned c token (hsession ▸ htoken) with ⟨socket, hk, howns⟩
    exact ⟨socket, hsockets ▸ hk, howns⟩
  · intro k socket hk
    exact h.granted k socket (hsockets ▸ hk)
  · intro c token socket htoken hk
    rcases h.clean c token socket (hsession ▸ htoken) (hsockets ▸ hk) with ⟨hmem, hpending⟩
    exact ⟨hmembers ▸ hmem, hlive ▸ hpending⟩

/-- A member of a project has no current session of another one. -/
theorem ClusterInvariant.granted_of_member {s : State} (h : ClusterInvariant s)
    (hmember : clientId ∈ s.store.members q) : Granted s clientId q := by
  intro token socket htoken hk
  by_contra hout
  exact (h.clean clientId token socket htoken hk).members q hout hmember

/-- A device stays granted unless it starts a session of another project. -/
theorem Granted.step {s t : State} {a : Action} (h : Granted s clientId q)
    (hcluster : ClusterInvariant s)
    (hnew : ∀ k socket, SetsSession clientId s a k socket → q ∈ socket.projectIds)
    (hstep : Gateway.step s a = some t) : Granted t clientId q := by
  intro token socket' htoken hk'
  rcases session_origin hcluster.attached hcluster.owned hstep htoken hk' with
    ⟨socket, hk, hscope, hbefore | hsets⟩
  · exact hscope ▸ h token socket hbefore hk
  · exact hscope ▸ hnew token.uuid socket hsets

/-- Every invocation of a call has a project of its token, and heads for devices of that
project. -/
structure IsolationInvariant (s : CallState Payload) : Prop where
  cluster : ClusterInvariant s.jobs.cluster
  numbered : s.jobs.Numbered
  served : ∀ id authorization, s.Serves id authorization →
    ∃ invocation, s.jobs.cluster.invocations[id]? = some invocation ∧
      invocation.projectId ∈ authorization.token.projectIds ∧
      ∀ clientId, s.jobs.Heads id clientId →
        Granted s.jobs.cluster clientId invocation.projectId

variable {s t : CallState Payload} {a : CallAction Payload} {as : List (CallAction Payload)}

theorem IsolationInvariant.initial (h : (callMachine Payload).initial s) :
    IsolationInvariant s := by
  rcases h with ⟨cluster, projects, hcluster, rfl⟩
  refine ⟨.initial hcluster, ?_, ?_⟩
  · rintro id c (⟨invocation, hid, -⟩ | ⟨call, hcall, -⟩ | ⟨message, hmessage, -⟩)
    · exact (List.getElem?_eq_some_iff.mp hid).1
    · contradiction
    · contradiction
  · rintro id authorization ⟨n, call, hcall, -⟩
    contradiction

/-- A step of the cluster or of its jobs. -/
theorem IsolationInvariant.jobs {action : JobAction Payload} {jobs : JobState Payload}
    (h : IsolationInvariant s) (hscope : StaysInScope s (.jobs action))
    (hstep : jobStep s.jobs action = some jobs) : IsolationInvariant { s with jobs } := by
  have hcluster : ClusterInvariant jobs.cluster := by
    rcases JobState.cluster_step hstep with ⟨inner, rfl, hinner⟩ |
        ⟨hsockets, hcrashed, -, hsession, hmembers⟩
    · exact h.cluster.step (fun k socket hsets => (hscope.1 k socket hsets).1) hinner
    · exact h.cluster.of_same hsockets hcrashed hsession hmembers
  refine ⟨hcluster, h.numbered.step hstep, ?_⟩
  intro id authorization hserves
  rcases h.served id authorization hserves with ⟨invocation, hid, hproject, hheads⟩
  rcases JobState.invocation_step hstep hid with ⟨after, hafter, hsame⟩
  refine ⟨after, hafter, hsame ▸ hproject, ?_⟩
  intro c hc
  rw [hsame]
  have hcause := JobState.heads_step hstep hid hc
  have hgranted : Granted s.jobs.cluster c invocation.projectId := by
    rcases hcause with hbefore | hmember | ⟨fault, order, rfl, -, hrequested, honline⟩
    · exact hheads c hbefore
    · exact h.cluster.granted_of_member hmember
    · exact hscope.2 authorization invocation c hserves hid hrequested honline
  rcases JobState.cluster_step hstep with ⟨inner, rfl, hinner⟩ | ⟨hsockets, -, -, hsession, -⟩
  · refine hgranted.step h.cluster ?_ hinner
    intro k socket hsets
    obtain rfl : socket.clientId = c := hsets.2.2.1
    rcases hscope.1 k socket hsets with ⟨hclean, hcalls⟩
    rcases hcause with hbefore | hmember | ⟨fault, order, hdispatch, -⟩
    · exact hcalls id authorization invocation hserves hid hbefore
    · by_contra hout
      exact hclean.members _ hout hmember
    · rcases hsets.2.2.2 with ⟨_, hhandshake, -⟩
      rw [JobAction.cluster.injEq] at hdispatch
      rw [hdispatch] at hhandshake
      contradiction
  · intro token socket htoken hk
    exact hgranted token socket (hsession ▸ htoken) (hsockets ▸ hk)

theorem IsolationInvariant.step (h : IsolationInvariant s) (hscope : StaysInScope s a)
    (hstep : callStep s a = some t) : IsolationInvariant t := by
  cases CallStep.of_step hstep with
  | jobs hjobs => exact h.jobs hscope hjobs
  | projects projects => exact ⟨h.cluster, h.numbered, h.served⟩
  | moved n call hstage =>
      refine ⟨h.cluster, h.numbered, ?_⟩
      intro id authorization hserves
      rcases CallState.serves_setCall hserves with hbefore | hselects
      · exact h.served id authorization hbefore
      · exact absurd hselects (hstage authorization id)
  | @selects n fault call authorization projectId jobs hcall hstage hname hjobs =>
      have hproject : projectId = authorization.projectId :=
        hscope call authorization projectId hcall hstage hname
      have hquiet : StaysInScope s (.jobs (.cluster (.invoke projectId call.clientId))) := by
        refine ⟨?_, trivial⟩
        rintro k socket ⟨-, -, -, fault', ha, -⟩
        contradiction
      have hinvoked : IsolationInvariant { s with jobs } := h.jobs hquiet hjobs
      refine ⟨hinvoked.cluster, hinvoked.numbered, ?_⟩
      intro id authorization' hserves
      rcases CallState.serves_setCall hserves with hbefore | hselects
      · exact hinvoked.served id authorization' hbefore
      · rw [CallStage.selecting.injEq] at hselects
        rcases hselects with ⟨rfl, rfl⟩
        obtain rfl := Option.some.inj hjobs
        refine ⟨.start projectId call.clientId, by simp [CallState.setCall], ?_, ?_⟩
        · rw [Invocation.start_projectId, hproject]
          exact authorization.mem
        · -- the new invocation heads for nobody yet
          rintro c (⟨invocation, hid, htarget⟩ | hdispatch | hbus)
          · simp only [CallState.setCall, List.getElem?_concat_length, Option.some.injEq] at hid
            rw [← hid, Invocation.start_targets] at htarget
            contradiction
          · exact absurd (h.numbered _ c (Or.inr (Or.inl hdispatch))) (lt_irrefl _)
          · exact absurd (h.numbered _ c (Or.inr (Or.inr hbus))) (lt_irrefl _)

/-- Under the invariant, a step that meets the condition sends no job out of scope. -/
theorem IsolationInvariant.isolated (h : IsolationInvariant s) (hscope : StaysInScope s a) :
    Isolated s a := by
  cases a with
  | jobs action =>
      intro sent authorization hsends hserves
      rcases h.served sent.invocation authorization hserves with
        ⟨invocation, hid, hproject, hheads⟩
      refine ⟨invocation, hid, hproject, ?_⟩
      have hsession : s.jobs.cluster.store.session sent.clientId ≠ none := by
        rcases JobState.session_of_sends hsends with hread | ⟨now, message, rfl, hbus, hclient, hk⟩
        · exact hread
        · exact hclient ▸ hscope message sent.socket hbus hk
      rcases Option.ne_none_iff_exists'.mp hsession with ⟨token, htoken⟩
      rcases h.cluster.owned sent.clientId token htoken with ⟨socket, hk, -⟩
      exact ⟨token, socket, htoken, hk,
        hheads sent.clientId (JobState.heads_of_sends hsends) token socket htoken hk⟩
  | _ => trivial

/-- Calls stay inside their project.  Along every run in which no project is replaced under
its name between the two lookups, sessions start clean, requested devices are of the
project and no session lapses while a job is on the bus, every job that is sent for an
authorised call belongs to a project of the token and goes to a device whose current
session was granted that project. -/
theorem calls_isolated (hinit : (callMachine Payload).initial s)
    (hscope : (callMachine Payload).Meets StaysInScope s as) :
    (callMachine Payload).Meets Isolated s as :=
  hscope.transfer (fun hI hC hstep => hI.step hC hstep) (fun hI hC => hI.isolated hC)
    (IsolationInvariant.initial hinit)

/-! ### A device of the project -/

/-- Steps of the cluster. -/
def clusterTrace (as : List Action) : List (CallAction Unit) := as.map (.jobs ∘ .cluster)

/-- A run of the cluster alone. -/
theorem run_clusterTrace {s u : CallState Unit} {as : List Action}
    (hrun : (callMachine Unit).run s (clusterTrace as) = some u) :
    ∃ cluster, machine.run s.jobs.cluster as = some cluster ∧
      u = { s with jobs := { s.jobs with cluster } } := by
  induction as generalizing s with
  | nil =>
      rw [clusterTrace, List.map_nil, Machine.run_nil, Option.some.injEq] at hrun
      exact ⟨s.jobs.cluster, rfl, hrun.symm⟩
  | cons a as ih =>
      rw [clusterTrace, List.map_cons, Machine.run_cons_eq_some] at hrun
      rcases hrun with ⟨v, hstep, hrest⟩
      rcases Option.map_eq_some_iff.mp hstep with ⟨jobs, hjobs, rfl⟩
      rcases Option.map_eq_some_iff.mp hjobs with ⟨cluster, hcluster, rfl⟩
      rcases ih hrest with ⟨last, hlast, rfl⟩
      exact ⟨last, Machine.run_cons_eq_some.mpr ⟨cluster, hcluster, hlast⟩, rfl⟩

/-- The sample cluster with projects 1 and 2. -/
def sampleCalls : CallState Unit :=
  .start Unit sampleState [⟨1, "alpha", true, false⟩, ⟨2, "beta", true, false⟩]

theorem sampleCalls_initial : (callMachine Unit).initial sampleCalls :=
  ⟨sampleState, _, ⟨sampleTokens, noDevices, rfl⟩, rfl⟩

/-- A job without a deadline. -/
def alphaJob : Job := ⟨"request-0", none⟩

/-- A call for `"alpha"` with a token of project 1 alone: what happens between its two
lookups and the steps of its selection are given; then the job is dispatched. -/
def callTrace (clientId : Option ClientId) (between : List (CallAction Unit))
    (selection : List Action) : List (CallAction Unit) :=
  [.request 0 "alpha" clientId, .readToken 0 (some ⟨.active, none, none, 0, [1]⟩) 0,
    .findProject 0 .none] ++ between ++ .resolveProject 0 .none :: clusterTrace selection ++
    [.jobs (.dispatchJob 0 0 alphaJob), .jobs (.routeJob 0 .none 0)]

/-- A step that meets the condition at sight. -/
def Quiet (s : CallState Unit) : CallAction Unit → Bool
  | .resolveProject n _ =>
      match s.calls n with
      | some ⟨project, _, .resolveProject authorization⟩ =>
          (idByName s.projects project).all (· = authorization.projectId)
      | _ => true
  | .jobs (.cluster (.dispatch id _ _)) =>
      s.jobs.cluster.invocations[id]?.all fun invocation =>
        match invocation.stage with
        | .checkRequested _ => false
        | _ => true
  | .jobs (.cluster a) => KeepsSession s.jobs.cluster a
  | .jobs (.receiveJob _ _) => false
  | _ => true

theorem StaysInScope.of_quiet {s : CallState Unit} {a : CallAction Unit}
    (h : Quiet s a = true) : StaysInScope s a := by
  unfold Quiet at h
  split at h
  · rename_i n fault
    intro call authorization projectId hcall hstage hname
    rcases call with ⟨project, clientId, stage⟩
    simp only at hstage
    subst hstage
    simpa [hcall, hname] using h
  · rename_i id fault order
    refine ⟨?_, ?_⟩
    · rintro k socket ⟨-, -, -, fault', ha, -⟩
      contradiction
    · intro authorization invocation c hserves hid hstage
      simp [hid, hstage] at h
  · rename_i a hdispatch
    refine ⟨?_, ?_⟩
    · rintro k socket ⟨hlive, hstage, -, fault, rfl, -⟩
      simp [KeepsSession, hlive, hstage] at h
    · cases a with
      | dispatch id fault order => exact absurd rfl (hdispatch id fault order)
      | _ => trivial
  · contradiction
  · rename_i hresolve hcluster hothers hreceive
    cases a with
    | jobs action =>
        cases action with
        | cluster action => exact absurd rfl (hothers action)
        | receiveJob id now => exact absurd rfl (hreceive id now)
        | _ => trivial
    | resolveProject n fault => exact absurd rfl (hresolve n fault)
    | _ => trivial

/-- The device connects for project 1; a call for `"alpha"` picks it. -/
def pickedTrace : List (CallAction Unit) :=
  clusterTrace ((connectTrace 0 0 (sampleRequest 0 1)).drop 7) ++
    callTrace none []
      (.dispatch 0 .none ["device-a"] :: List.replicate 4 (.dispatch 0 .none []))

/-- The isolation theorem for a device that connects and a call that is delivered to it. -/
theorem calls_isolated_picked :
    ((callMachine Unit).run sampleCalls
        (clusterTrace beforeSession ++ .jobs (.cluster (.handshake 0 .none)) :: pickedTrace)).map
        (fun t => t.jobs.delivered) = some [(0, alphaJob)] ∧
    (callMachine Unit).Meets Isolated sampleCalls
      (clusterTrace beforeSession ++ .jobs (.cluster (.handshake 0 .none)) :: pickedTrace) := by
  refine ⟨by decide, calls_isolated sampleCalls_initial ?_⟩
  have hbefore : (callMachine Unit).Meets (fun s a => Quiet s a = true) sampleCalls
      (clusterTrace beforeSession) := by decide
  refine Machine.meets_append.mpr
    ⟨hbefore.mono fun s a h => .of_quiet h, fun t ht => ⟨?_, fun u hu => ?_⟩⟩
  · rcases run_clusterTrace ht with ⟨cluster, hcluster, rfl⟩
    refine ⟨?_, trivial⟩
    intro k socket hsets
    have hclean := scopeClean_beforeSession hcluster k socket hsets
    refine ⟨⟨hclean.members, hclean.pending⟩, ?_⟩
    rintro id authorization invocation ⟨n, call, hcall, -⟩
    contradiction
  · have hafter : (callMachine Unit).Meets (fun s a => Quiet s a = true) u pickedTrace := by
      rw [← Option.some.inj ht] at hu
      rw [← Option.some.inj hu]
      decide
    exact hafter.mono fun s a h => .of_quiet h

/-! ### A device of another project -/

/-- The device connects with a token of project 2; a call for `"alpha"` names it. -/
def foreignTrace : List (CallAction Unit) :=
  clusterTrace (connectTrace 0 0 (sampleRequest 1 1)) ++
    callTrace (some "device-a") [] (List.replicate 3 (.dispatch 0 .none []))

/-- The state in which the last step of {lit}`foreignTrace` sends the job. -/
def foreignState : CallState Unit :=
  ((callMachine Unit).run sampleCalls foreignTrace.dropLast).getD sampleCalls

/-- A call whose token is authorised for project 1 alone reaches a device whose session
was granted project 2 alone. -/
theorem requested_leaves_scope :
    (callMachine Unit).initial sampleCalls ∧
      ¬(callMachine Unit).Meets Isolated sampleCalls foreignTrace := by
  refine ⟨sampleCalls_initial, fun h => ?_⟩
  have hsent := Machine.meets_iff.mp h foreignTrace.dropLast (.jobs (.routeJob 0 .none 0)) []
    foreignState rfl rfl
  have hscope := hsent ⟨0, "device-a", 0, alphaJob⟩
    ⟨⟨.active, none, none, 0, [1]⟩, 1, by decide⟩ (by decide) ⟨0, _, rfl, rfl⟩
  rcases hscope with ⟨invocation, hid, -, token, socket, htoken, hk, hgranted⟩
  have hproject : (foreignState.jobs.cluster.invocations[0]?).map (·.projectId) = some 1 := by
    decide
  have hprojects : ((foreignState.jobs.cluster.store.session "device-a").bind fun token =>
      (foreignState.jobs.cluster.sockets token.uuid).map (·.projectIds)) = some [2] := by decide
  rw [hid, Option.map_some, Option.some.injEq] at hproject
  rw [htoken, Option.bind_some, hk, Option.map_some, Option.some.injEq] at hprojects
  rw [hproject, hprojects] at hgranted
  contradiction

/-! ### A project that is replaced -/

/-- The device connects with a token of project 1; while a call that names it is between its
two lookups, project 1 is removed and created again under its name. -/
def replacedTrace : List (CallAction Unit) :=
  clusterTrace (connectTrace 0 0 (sampleRequest 0 1)) ++
    callTrace (some "device-a") [.removeProject 1, .createProject 3 "alpha"]
      (List.replicate 3 (.dispatch 0 .none []))

/-- The state in which the last step of {lit}`replacedTrace` sends the job. -/
def replacedState : CallState Unit :=
  ((callMachine Unit).run sampleCalls replacedTrace.dropLast).getD sampleCalls

/-- A call whose token is authorised for project 1 alone is dispatched under project 3. -/
theorem replaced_leaves_scope : ¬(callMachine Unit).Meets Isolated sampleCalls replacedTrace := by
  intro h
  have hsent := Machine.meets_iff.mp h replacedTrace.dropLast (.jobs (.routeJob 0 .none 0)) []
    replacedState rfl rfl
  have hscope := hsent ⟨0, "device-a", 0, alphaJob⟩
    ⟨⟨.active, none, none, 0, [1]⟩, 1, by decide⟩ (by decide) ⟨0, _, rfl, rfl⟩
  rcases hscope with ⟨invocation, hid, hauthorized, -⟩
  have hproject : (replacedState.jobs.cluster.invocations[0]?).map (·.projectId) = some 3 := by
    decide
  rw [hid, Option.map_some, Option.some.injEq] at hproject
  rw [hproject] at hauthorized
  contradiction

end Gateway
end R2RPC
