import R2RPC.Gateway.Steps
import R2RPC.Ws.Relay

/-!
# Jobs, frames and sweeps

What travels over the sockets of the cluster.  {lit}`dispatchJob` looks up the
session of a device and hands the job to the instance that holds the socket,
directly or over the cluster bus; a frame of the device reaches {lit}`onMessage`
through the listener of {lit}`bindMessageHandler`.  The stale sweep of the worker
reads presences in between.  A step of the cluster, one awaited command of these
and one event is one action.

Main results:

- Definition {lit}`State.dispatchJob`: the socket that a job reaches.
- Structure {lit}`JobState` and definition {lit}`jobMachine`: the cluster with its
  jobs, frames and sweeps as an interleaving machine.
- Theorem {lit}`dispatchJob_reaches`: the steps of a dispatch send its job there.
- Inductive {lit}`JobStep` and theorem {lit}`JobStep.of_step`: what a step does to
  the cluster and to the log of {lit}`handleResult`.

Current gaps:

- A sweep may list any of the devices that are online, and it writes no
  {lit}`lastSeenAt`.
-/

namespace R2RPC
namespace Gateway

open Interleaving

/-! ## Jobs -/

/-- A job, with what the gateway and the answer of the device read of it. -/
structure Job where
  requestId : String
  deadlineAt : Option Timestamp
deriving DecidableEq, Repr

/-- `deadlineAt && Date.now() > deadlineAt`: zero is no deadline. -/
def Job.expired (job : Job) (now : Timestamp) : Bool :=
  job.deadlineAt.any fun deadlineAt => deadlineAt ≠ 0 && deadlineAt < now

/-- Where the answer of `GET client:session:<id>` sends a job. -/
inductive JobRoute where
  | unavailable
  | here
  | remote (holder : InstanceId)
deriving DecidableEq, Repr

namespace State

/-- `deliverLocalJob`: the socket that the job is sent on, `none` for `false`. -/
def deliverLocalJob (s : State) (instanceId : InstanceId) (clientId : ClientId) (job : Job)
    (now : Timestamp) : Option SocketId :=
  match s.localSockets instanceId clientId with
  | none => none
  | some id =>
      match s.sockets id with
      | none => none
      | some socket =>
          if socket.readyState ≠ .open then none
          else if job.expired now then none
          else some id

/-- The instance in front of the colon of the session token. -/
def routeJob (s : State) (instanceId : InstanceId) (clientId : ClientId) : JobRoute :=
  match s.store.session clientId with
  | none => .unavailable
  | some sessionToken =>
      if sessionToken.instanceId = instanceId then .here else .remote sessionToken.instanceId

/-- `dispatchJob` of one instance when nothing comes in between. -/
def dispatchJob (s : State) (instanceId : InstanceId) (clientId : ClientId) (job : Job)
    (now : Timestamp) : Option SocketId :=
  match s.routeJob instanceId clientId with
  | .unavailable => none
  | .here => s.deliverLocalJob instanceId clientId job now
  | .remote holder => s.deliverLocalJob holder clientId job now

/-- A job goes to the open socket in the map of the instance that the session names. -/
theorem dispatchJob_of_session {s : State} {clientId : ClientId} {sessionToken : SessionToken}
    {k : SocketId} {socket : Socket} (hsession : s.store.session clientId = some sessionToken)
    (hlisted : s.localSockets sessionToken.instanceId clientId = some k)
    (hk : s.sockets k = some socket) (hopen : socket.readyState = .open)
    (instanceId : InstanceId) {job : Job} {now : Timestamp} (hfresh : job.expired now = false) :
    s.dispatchJob instanceId clientId job now = some k := by
  have hlocal : s.deliverLocalJob sessionToken.instanceId clientId job now = some k := by
    simp [deliverLocalJob, hlisted, hk, hopen, hfresh]
  unfold dispatchJob routeJob
  rw [hsession]
  by_cases hhere : sessionToken.instanceId = instanceId
  · subst hhere
    simpa using hlocal
  · simpa [hhere] using hlocal

end State

/-! ## Calls of dispatchJob -/

/-- The await at which a `dispatchJob` call stands, or how it has ended. -/
inductive JobStage where
  | readSession
  | publish (holder : InstanceId)
  | returned (dispatched : Bool)
  | failed
deriving DecidableEq, Repr

/-- A `dispatchJob` call of an invocation. -/
structure JobDispatch where
  instanceId : InstanceId
  clientId : ClientId
  job : Job
  stage : JobStage
deriving DecidableEq, Repr

/-- A message in flight on `ws:send:<instance>`. -/
structure BusJob where
  channel : InstanceId
  clientId : ClientId
  job : Job
deriving DecidableEq, Repr

/-! ## Frames -/

/-- Identity of one frame of a device. -/
abbrev FrameId := Nat

/-- The text of a frame as `onMessage` takes it: a `result`, or anything else, which
does not reach `handleResult`. -/
inductive DeviceFrame (Payload : Type) where
  | result (message : Relay.ResultMessage Payload)
  | other

/-- The `handleResult` calls that a `message` event starts: the listener is there once
`bindMessageHandler` has run, and without it the frame is dropped. -/
def Socket.onMessage {Payload : Type} (socket : Socket) (id : SocketId) :
    DeviceFrame Payload → List (Relay.HandleResultCall Payload)
  | .result message =>
      if socket.handshake = .finished then
        [⟨id, socket.instanceId, socket.clientId, message, .readWaiter⟩]
      else []
  | .other => []

/-! ## The stale sweep -/

/-- Identity of one `markStaleOffline` call. -/
abbrev SweepId := Nat

/-- The await at which a sweep stands, with the rows it has not looked at yet. -/
inductive SweepStage where
  | checkPresence (clientId : ClientId) (id : DeviceId) (remaining : List (ClientId × DeviceId))
  | markStale (clientId : ClientId) (id : DeviceId) (remaining : List (ClientId × DeviceId))
  | done
deriving DecidableEq, Repr

/-- The loop of `markStaleOffline`. -/
def SweepStage.next : List (ClientId × DeviceId) → SweepStage
  | [] => .done
  | (clientId, id) :: remaining => .checkPresence clientId id remaining

/-- The alive row has this id and is online. -/
def ClientDevices.isOnline (devices : ClientDevices) (id : DeviceId) : Bool :=
  devices.alive.any fun row => row.id = id && row.online

/-- The guarded `UPDATE` of `markStaleOffline`. -/
def ClientDevices.markStale (devices : ClientDevices) (id : DeviceId) : ClientDevices :=
  { devices with
    alive := devices.alive.map fun row =>
      if row.id = id ∧ row.online then { row with online := false, status := .stale } else row }

namespace SweepStage

/-- Effect of the awaited command on the stores. -/
def command (stage : SweepStage) (store : Store) : Store :=
  match stage with
  | .markStale clientId id _ =>
      { store with
        devices := Function.update store.devices clientId
          ((store.devices clientId).markStale id) }
  | _ => store

/-- Where the sweep goes on; an exception ends it. -/
def advance (stage : SweepStage) (store : Store) (fault : Fault) : SweepStage :=
  if fault.throws then .done
  else
    match stage with
    | .checkPresence clientId id remaining =>
        if store.isOnline clientId then next remaining else .markStale clientId id remaining
    | .markStale _ _ remaining => next remaining
    | .done => .done

/-- A sweep writes device rows only. -/
theorem command_rest (stage : SweepStage) (store : Store) :
    (stage.command store).session = store.session ∧
      (stage.command store).presence = store.presence ∧
      (stage.command store).members = store.members := by
  unfold command
  split <;> exact ⟨rfl, rfl, rfl⟩

end SweepStage

/-! ## State -/

/-- The cluster with its dispatches, numbered like the invocations they belong to, the
frames that have arrived and the sweeps.  `delivered` and `calls` record what has been
sent on a socket and what has been passed to `handleResult`. -/
structure JobState (Payload : Type) where
  cluster : State
  dispatches : Nat → Option JobDispatch
  bus : Nat → Option BusJob
  delivered : List (SocketId × Job)
  frames : FrameId → Option (SocketId × DeviceFrame Payload)
  calls : List (FrameId × Relay.HandleResultCall Payload)
  sweeps : SweepId → Option SweepStage

/-- One step of the cluster, of a dispatch, of a device or of a sweep. -/
inductive JobAction (Payload : Type) where
  | cluster (action : Action)
  | dispatchJob (invocation : Nat) (instanceId : InstanceId) (job : Job)
  | routeJob (invocation : Nat) (fault : Fault) (now : Timestamp)
  | publishJob (invocation : Nat) (fault : Fault)
  | receiveJob (invocation : Nat) (now : Timestamp)
  | frame (id : FrameId) (socket : SocketId) (frame : DeviceFrame Payload)
  | startSweep (id : SweepId) (listed : List (ClientId × DeviceId))
  | sweep (id : SweepId) (fault : Fault)

variable {Payload : Type}

namespace JobState

/-- No job, frame or sweep yet. -/
def start (Payload : Type) (cluster : State) : JobState Payload where
  cluster
  dispatches _ := none
  bus _ := none
  delivered := []
  frames _ := none
  calls := []
  sweeps _ := none

/-- A step of the cluster. -/
def clusterStep (s : JobState Payload) (a : Action) : Option (JobState Payload) :=
  (step s.cluster a).map fun cluster => { s with cluster }

/-- The stage of a dispatch. -/
def setDispatch (s : JobState Payload) (id : Nat) (call : JobDispatch) : JobState Payload :=
  { s with dispatches := Function.update s.dispatches id (some call) }

/-- `PUBLISH ws:send:<instance>`. -/
def publish (id : Nat) (message : BusJob) (s : JobState Payload) : JobState Payload :=
  { s with bus := Function.update s.bus id (some message) }

/-- `deliverLocalJob` on one instance. -/
def deliverLocalJob (s : JobState Payload) (instanceId : InstanceId) (clientId : ClientId)
    (job : Job) (now : Timestamp) : JobState Payload :=
  match s.cluster.deliverLocalJob instanceId clientId job now with
  | none => s
  | some id => { s with delivered := s.delivered ++ [(id, job)] }

/-- An invocation that holds a slot calls `dispatchJob` on its instance. -/
def dispatchJob (s : JobState Payload) (id : Nat) (instanceId : InstanceId) (job : Job) :
    Option (JobState Payload) :=
  match s.dispatches id, s.cluster.invocations[id]? with
  | none, some invocation =>
      match invocation.stage with
      | .dispatching clientId =>
          if s.cluster.crashed instanceId then none
          else some (s.setDispatch id ⟨instanceId, clientId, job, .readSession⟩)
      | _ => none
  | _, _ => none

/-- The `GET` of `dispatchJob`, and the delivery when the socket is on this instance. -/
def routeJob (s : JobState Payload) (id : Nat) (fault : Fault) (now : Timestamp) :
    Option (JobState Payload) :=
  match s.dispatches id with
  | none => none
  | some call =>
      if call.stage ≠ .readSession ∨ s.cluster.crashed call.instanceId then none
      else if fault.throws then some (s.setDispatch id { call with stage := .failed })
      else
        match s.cluster.routeJob call.instanceId call.clientId with
        | .unavailable => some (s.setDispatch id { call with stage := .returned false })
        | .here =>
            let dispatched :=
              (s.cluster.deliverLocalJob call.instanceId call.clientId call.job now).isSome
            some ((s.deliverLocalJob call.instanceId call.clientId call.job now).setDispatch id
              { call with stage := .returned dispatched })
        | .remote holder => some (s.setDispatch id { call with stage := .publish holder })

/-- The `PUBLISH` of `dispatchJob`. -/
def publishJob (s : JobState Payload) (id : Nat) (fault : Fault) : Option (JobState Payload) :=
  match s.dispatches id with
  | none => none
  | some call =>
      match call.stage with
      | .publish holder =>
          if s.cluster.crashed call.instanceId then none
          else
            let message : BusJob := ⟨holder, call.clientId, call.job⟩
            some ((fault.apply (publish id message) s).setDispatch id { call with
              stage := if fault.throws then .failed else .returned true })
      | _ => none

/-- The `ws:send` subscriber runs `deliverLocalJob` on one message. -/
def receiveJob (s : JobState Payload) (id : Nat) (now : Timestamp) : Option (JobState Payload) :=
  match s.bus id with
  | none => none
  | some message =>
      some ({ s with bus := Function.update s.bus id none }.deliverLocalJob message.channel
        message.clientId message.job now)

/-- A frame arrives on a socket that has not closed yet. -/
def frame (s : JobState Payload) (id : FrameId) (socketId : SocketId)
    (frame : DeviceFrame Payload) : Option (JobState Payload) :=
  match s.frames id, s.cluster.liveSocket socketId with
  | none, some socket =>
      if socket.disconnect = .idle then
        some { s with
          frames := Function.update s.frames id (some (socketId, frame))
          calls := s.calls ++ (socket.onMessage socketId frame).map fun call => (id, call) }
      else none
  | _, _ => none

/-- The `SELECT` of `markStaleOffline`. -/
def startSweep (s : JobState Payload) (id : SweepId) (listed : List (ClientId × DeviceId)) :
    Option (JobState Payload) :=
  if (s.sweeps id).isSome ∨ ¬∀ row ∈ listed, (s.cluster.store.devices row.1).isOnline row.2 then
    none
  else some { s with sweeps := Function.update s.sweeps id (some (.next listed)) }

/-- One awaited command of a sweep. -/
def sweep (s : JobState Payload) (id : SweepId) (fault : Fault) : Option (JobState Payload) :=
  match s.sweeps id with
  | none => none
  | some stage =>
      if stage = .done then none
      else
        some { s with
          cluster := { s.cluster with store := fault.apply stage.command s.cluster.store }
          sweeps := Function.update s.sweeps id
            (some (stage.advance s.cluster.store fault)) }

end JobState

/-- Dispatch of an action to the function that runs it. -/
def jobStep (s : JobState Payload) : JobAction Payload → Option (JobState Payload)
  | .cluster action => s.clusterStep action
  | .dispatchJob id instanceId job => s.dispatchJob id instanceId job
  | .routeJob id fault now => s.routeJob id fault now
  | .publishJob id fault => s.publishJob id fault
  | .receiveJob id now => s.receiveJob id now
  | .frame id socket frame => s.frame id socket frame
  | .startSweep id listed => s.startSweep id listed
  | .sweep id fault => s.sweep id fault

/-- The cluster with its jobs, frames and sweeps. -/
def jobMachine (Payload : Type) : Machine (JobState Payload) (JobAction Payload) where
  initial s := ∃ cluster, machine.initial cluster ∧ s = .start Payload cluster
  step := jobStep

/-- The sample cluster before its first job. -/
def sampleJobs : JobState Unit := .start Unit sampleState

theorem sampleJobs_initial : (jobMachine Unit).initial sampleJobs :=
  ⟨sampleState, ⟨sampleTokens, noDevices, rfl⟩, rfl⟩

/-! ## What a step does -/

variable {s t : JobState Payload} {a : JobAction Payload}

/-- A step moves the cluster, takes in a frame, runs a command of a sweep, or leaves the
cluster, the frames and the calls alone. -/
inductive JobStep (s : JobState Payload) : JobAction Payload → JobState Payload → Prop where
  | cluster {a : Action} {cluster : State} (hstep : step s.cluster a = some cluster) :
      JobStep s (.cluster a) { s with cluster }
  | frame {id : FrameId} {k : SocketId} {socket : Socket} {frame : DeviceFrame Payload}
      (hfree : s.frames id = none) (hlive : s.cluster.liveSocket k = some socket)
      (hidle : socket.disconnect = .idle) :
      JobStep s (.frame id k frame) { s with
        frames := Function.update s.frames id (some (k, frame))
        calls := s.calls ++ (socket.onMessage k frame).map fun call => (id, call) }
  | sweep {id : SweepId} {fault : Fault} (stage : SweepStage)
      (sweeps : SweepId → Option SweepStage) :
      JobStep s (.sweep id fault) { s with
        cluster := { s.cluster with store := fault.apply stage.command s.cluster.store }
        sweeps }
  | traffic {a : JobAction Payload} (dispatches : Nat → Option JobDispatch)
      (bus : Nat → Option BusJob) (delivered : List (SocketId × Job))
      (sweeps : SweepId → Option SweepStage) (hcluster : ∀ action, a ≠ .cluster action)
      (hframe : ∀ id k frame, a ≠ .frame id k frame) :
      JobStep s a { s with dispatches, bus, delivered, sweeps }

namespace JobStep

/-- A delivery adds to what has been sent on a socket. -/
theorem of_deliver (s : JobState Payload) (instanceId : InstanceId) (clientId : ClientId)
    (job : Job) (now : Timestamp) :
    ∃ delivered, s.deliverLocalJob instanceId clientId job now = { s with delivered } := by
  unfold JobState.deliverLocalJob
  split
  · exact ⟨s.delivered, rfl⟩
  · exact ⟨_, rfl⟩

theorem of_routeJob {id : Nat} {fault : Fault} {now : Timestamp}
    (hstep : s.routeJob id fault now = some t) : JobStep s (.routeJob id fault now) t := by
  unfold JobState.routeJob at hstep
  split at hstep
  · contradiction
  · rename_i call hcall
    split at hstep
    · contradiction
    · split at hstep
      · rw [← Option.some.inj hstep]
        exact .traffic _ s.bus s.delivered s.sweeps (by simp) (by simp)
      · split at hstep <;> rw [← Option.some.inj hstep]
        · exact .traffic _ s.bus s.delivered s.sweeps (by simp) (by simp)
        · rcases of_deliver s call.instanceId call.clientId call.job now with ⟨delivered, hsent⟩
          rw [hsent]
          exact .traffic _ s.bus delivered s.sweeps (by simp) (by simp)
        · exact .traffic _ s.bus s.delivered s.sweeps (by simp) (by simp)

theorem of_publishJob {id : Nat} {fault : Fault} (hstep : s.publishJob id fault = some t) :
    JobStep s (.publishJob id fault) t := by
  unfold JobState.publishJob at hstep
  split at hstep
  · contradiction
  · rename_i call hcall
    split at hstep
    · rename_i holder hstage
      split at hstep
      · contradiction
      · rw [← Option.some.inj hstep]
        rcases fault.apply_cases (JobState.publish id ⟨holder, call.clientId, call.job⟩) s
          with hskip | ⟨-, happly⟩
        · rw [hskip]
          exact .traffic _ s.bus s.delivered s.sweeps (by simp) (by simp)
        · rw [happly]
          exact .traffic _ _ s.delivered s.sweeps (by simp) (by simp)
    · contradiction

/-- Every step is one of the four. -/
theorem of_step (hstep : jobStep s a = some t) : JobStep s a t := by
  cases a with
  | cluster action =>
      simp only [jobStep, JobState.clusterStep, Option.map_eq_some_iff] at hstep
      rcases hstep with ⟨cluster, hcluster, rfl⟩
      exact .cluster hcluster
  | dispatchJob id instanceId job =>
      simp only [jobStep, JobState.dispatchJob] at hstep
      split at hstep
      · split at hstep
        · split at hstep
          · contradiction
          · rw [← Option.some.inj hstep]
            exact .traffic _ s.bus s.delivered s.sweeps (by simp) (by simp)
        · contradiction
      · contradiction
  | routeJob id fault now => exact of_routeJob hstep
  | publishJob id fault => exact of_publishJob hstep
  | receiveJob id now =>
      simp only [jobStep, JobState.receiveJob] at hstep
      split at hstep
      · contradiction
      · rename_i message hmessage
        rw [← Option.some.inj hstep]
        rcases of_deliver { s with bus := Function.update s.bus id none } message.channel
          message.clientId message.job now with ⟨delivered, hsent⟩
        rw [hsent]
        exact .traffic s.dispatches _ delivered s.sweeps (by simp) (by simp)
  | frame id k frame =>
      simp only [jobStep, JobState.frame] at hstep
      split at hstep
      · rename_i socket hfree hlive
        split at hstep
        · rename_i hidle
          rw [← Option.some.inj hstep]
          exact .frame hfree hlive hidle
        · contradiction
      · contradiction
  | startSweep id listed =>
      simp only [jobStep, JobState.startSweep] at hstep
      split at hstep
      · contradiction
      · rw [← Option.some.inj hstep]
        exact .traffic s.dispatches s.bus s.delivered _ (by simp) (by simp)
  | sweep id fault =>
      simp only [jobStep, JobState.sweep] at hstep
      split at hstep
      · contradiction
      · rename_i stage hstage
        split at hstep
        · contradiction
        · rw [← Option.some.inj hstep]
          exact .sweep stage _

end JobStep

/-- A socket at the end of a run was there at its start, or the run has accepted it. -/
theorem JobState.run_sockets {k : SocketId} {socket' : Socket} {as : List (JobAction Payload)}
    (hrun : (jobMachine Payload).run s as = some t) (hk : t.cluster.sockets k = some socket') :
    (∃ socket, s.cluster.sockets k = some socket) ∨
      ∃ instanceId request, .cluster (.accept k instanceId request) ∈ as := by
  induction as generalizing s with
  | nil =>
      rw [Machine.run_nil, Option.some.injEq] at hrun
      exact Or.inl ⟨socket', hrun ▸ hk⟩
  | cons a as ih =>
      rcases Machine.run_cons_eq_some.mp hrun with ⟨u, hstep, hrest⟩
      rcases ih hrest with ⟨socket, hu⟩ | ⟨instanceId, request, hmem⟩
      · cases JobStep.of_step hstep with
        | cluster hcluster =>
            rcases socket_origin hcluster hu with ⟨instanceId, request, rfl, -⟩ | ⟨before, hs, -⟩
            · exact Or.inr ⟨instanceId, request, List.mem_cons_self⟩
            · exact Or.inl ⟨before, hs⟩
        | frame hfree hlive hidle => exact Or.inl ⟨socket, hu⟩
        | sweep stage sweeps => exact Or.inl ⟨socket, hu⟩
        | traffic dispatches bus delivered sweeps hcluster hframe => exact Or.inl ⟨socket, hu⟩
      · exact Or.inr ⟨instanceId, request, List.mem_cons_of_mem _ hmem⟩

/-! ## The steps of a dispatch -/

/-- When nothing comes in between, the steps of a dispatch send its job on the socket
that {lit}`State.dispatchJob` names. -/
theorem dispatchJob_reaches {id : Nat} {call : JobDispatch} {now : Timestamp} {k : SocketId}
    (hcall : s.dispatches id = some call) (hstage : call.stage = .readSession)
    (hrunning : s.cluster.crashed call.instanceId = false)
    (hreaches : s.cluster.dispatchJob call.instanceId call.clientId call.job now = some k) :
    ∃ t, ((jobMachine Payload).run s [.routeJob id .none now] = some t ∨
        (jobMachine Payload).run s
          [.routeJob id .none now, .publishJob id .none, .receiveJob id now] = some t) ∧
      t.delivered = s.delivered ++ [(k, call.job)] := by
  unfold State.dispatchJob at hreaches
  cases hroute : s.cluster.routeJob call.instanceId call.clientId with
  | unavailable => simp [hroute] at hreaches
  | here =>
      simp only [hroute] at hreaches
      have hrouted : jobStep s (.routeJob id .none now) =
          some ({ s with delivered := s.delivered ++ [(k, call.job)] }.setDispatch id
            { call with stage := .returned true }) := by
        simp [jobStep, JobState.routeJob, JobState.deliverLocalJob, hcall, hstage, hrunning,
          hroute, hreaches, Fault.throws]
      exact ⟨_, Or.inl (Machine.run_cons_eq_some.mpr ⟨_, hrouted, rfl⟩), rfl⟩
  | remote holder =>
      simp only [hroute] at hreaches
      have hrouted : jobStep s (.routeJob id .none now) =
          some (s.setDispatch id { call with stage := .publish holder }) := by
        simp [jobStep, JobState.routeJob, hcall, hstage, hrunning, hroute, Fault.throws]
      have hpublished : jobStep (s.setDispatch id { call with stage := .publish holder })
          (.publishJob id .none) =
          some ((s.publish id ⟨holder, call.clientId, call.job⟩).setDispatch id
            { call with stage := .returned true }) := by
        simp [jobStep, JobState.publishJob, JobState.setDispatch, JobState.publish, hrunning,
          Fault.throws]
      have hreceived : jobStep ((s.publish id ⟨holder, call.clientId, call.job⟩).setDispatch id
          { call with stage := .returned true }) (.receiveJob id now) =
          some { s.setDispatch id { call with stage := .returned true } with
            bus := Function.update (s.publish id ⟨holder, call.clientId, call.job⟩).bus id none
            delivered := s.delivered ++ [(k, call.job)] } := by
        simp [jobStep, JobState.receiveJob, JobState.deliverLocalJob, JobState.setDispatch,
          JobState.publish, hreaches]
      exact ⟨_, Or.inr (Machine.run_cons_eq_some.mpr ⟨_, hrouted, Machine.run_cons_eq_some.mpr
        ⟨_, hpublished, Machine.run_cons_eq_some.mpr ⟨_, hreceived, rfl⟩⟩⟩), rfl⟩

end Gateway
end R2RPC
