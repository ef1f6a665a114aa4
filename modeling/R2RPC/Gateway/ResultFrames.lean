import R2RPC.Gateway.JobDelivery

/-!
# Result frames

A socket can be handed jobs as soon as {lit}`register` has set its session, and
hears its device only after {lit}`bindMessageHandler`, several awaits later.  A
result that arrives in between finds no listener and is dropped; one that arrives
later starts {lit}`handleResult` once, with the identity of the socket.

Main results:

- Definition {lit}`Answers`: the frame answers a job that was sent on its socket.
- Definition {lit}`HandledOnce`: every such frame starts one {lit}`handleResult`.
- Definition {lit}`ArrivesBound`: every such frame arrives after
  {lit}`bindMessageHandler`.
- Theorem {lit}`result_frames_handled_iff`: a run has the first property exactly
  when it meets the second.
- Theorem {lit}`early_result_dropped`: an answer given while the memberships are
  written.

Current gaps:

- None.
-/

namespace R2RPC
namespace Gateway

open Interleaving

variable {Payload : Type} {s t : JobState Payload} {a : JobAction Payload} {k : SocketId}
  {socket : Socket} {message : Relay.ResultMessage Payload}

/-! ## The property and its condition -/

/-- The socket is authenticated and open, and the message answers a job that was sent on
it. -/
def Answers (k : SocketId) (message : Relay.ResultMessage Payload) (s : JobState Payload) :
    Prop :=
  (∃ socket ∈ s.cluster.liveSocket k,
      socket.projects.isSome = true ∧ socket.readyState = .open) ∧
    ∃ sent ∈ s.delivered, sent.1 = k ∧ message.requestId = some (.text sent.2.requestId)

instance (k : SocketId) (message : Relay.ResultMessage Payload) (s : JobState Payload) :
    Decidable (Answers k message s) :=
  inferInstanceAs (Decidable ((∃ socket ∈ s.cluster.liveSocket k,
      socket.projects.isSome = true ∧ socket.readyState = .open) ∧
    ∃ sent ∈ s.delivered, sent.1 = k ∧ message.requestId = some (.text sent.2.requestId)))

namespace JobState

/-- The `handleResult` calls that a frame has started. -/
def callsOf (s : JobState Payload) (id : FrameId) : List (Relay.HandleResultCall Payload) :=
  (s.calls.filter (·.1 = id)).map (·.2)

end JobState

/-- Every answer that arrives in the run has been passed to `handleResult` once when it
ends, with its message and its socket. -/
def HandledOnce (s₀ : JobState Payload) (as : List (JobAction Payload)) (t : JobState Payload) :
    Prop :=
  ∀ pre id k message post s, as = pre ++ .frame id k (.result message) :: post →
    (jobMachine Payload).run s₀ pre = some s → Answers k message s →
      ∃ call, t.callsOf id = [call] ∧ call.socket = k ∧ call.message = message

/-- An answer arrives on a socket whose `bindMessageHandler` has run. -/
def ArrivesBound (s : JobState Payload) : JobAction Payload → Prop
  | .frame _ k (.result message) =>
      Answers k message s → ∀ socket ∈ s.cluster.liveSocket k, socket.handshake = .finished
  | _ => True

instance (s : JobState Payload) (a : JobAction Payload) : Decidable (ArrivesBound s a) :=
  match a with
  | .frame _ k (.result message) => inferInstanceAs (Decidable (Answers k message s →
      ∀ socket ∈ s.cluster.liveSocket k, socket.handshake = .finished))
  | .frame _ _ .other => isTrue trivial
  | .cluster _ | .dispatchJob .. | .routeJob .. | .publishJob .. | .receiveJob ..
  | .startSweep .. | .sweep .. => isTrue trivial

/-! ## The log of calls -/

/-- A step leaves the calls of a frame alone that has already arrived. -/
theorem JobStep.callsOf (h : JobStep s a t) {id : FrameId} (hid : s.frames id ≠ none) :
    t.frames id ≠ none ∧ t.callsOf id = s.callsOf id := by
  cases h with
  | cluster hstep => exact ⟨hid, rfl⟩
  | frame hfree hlive hidle =>
      rename_i other k socket frame
      have hne : id ≠ other := by
        rintro rfl
        exact hid hfree
      refine ⟨by simpa [hne] using hid, ?_⟩
      simp [JobState.callsOf, List.filter_map, Function.comp_def, hne.symm]
  | sweep stage sweeps => exact ⟨hid, rfl⟩
  | traffic dispatches bus delivered sweeps hcluster hframe => exact ⟨hid, rfl⟩

/-- So does a run. -/
theorem run_callsOf {as : List (JobAction Payload)} {id : FrameId}
    (hrun : (jobMachine Payload).run s as = some t) (hid : s.frames id ≠ none) :
    t.callsOf id = s.callsOf id := by
  induction as generalizing s with
  | nil =>
      rw [Machine.run_nil, Option.some.injEq] at hrun
      rw [hrun]
  | cons a as ih =>
      rcases Machine.run_cons_eq_some.mp hrun with ⟨u, hstep, hrest⟩
      rcases (JobStep.of_step hstep).callsOf hid with ⟨hid', hsame⟩
      rw [ih hrest hid', hsame]

/-- A frame that has not arrived has started nothing. -/
def FramesLogged (s : JobState Payload) : Prop :=
  ∀ id, s.frames id = none → s.callsOf id = []

theorem FramesLogged.step (h : FramesLogged s) (hstep : jobStep s a = some t) :
    FramesLogged t := by
  intro id hid
  cases JobStep.of_step hstep with
  | cluster hstep => exact h id hid
  | frame hfree hlive hidle =>
      rename_i other k socket frame
      have hne : id ≠ other := by
        rintro rfl
        simp at hid
      have hbefore := h id (by simpa [hne] using hid)
      simpa [JobState.callsOf, List.filter_map, Function.comp_def, hne.symm] using hbefore
  | sweep stage sweeps => exact h id hid
  | traffic dispatches bus delivered sweeps hcluster hframe => exact h id hid

theorem FramesLogged.of_run {s₀ : JobState Payload} {as : List (JobAction Payload)}
    (hinit : (jobMachine Payload).initial s₀) (hrun : (jobMachine Payload).run s₀ as = some s) :
    FramesLogged s := by
  refine Machine.run_invariant (I := FramesLogged) (fun hI hstep => hI.step hstep) ?_ hrun
  rcases hinit with ⟨cluster, -, rfl⟩
  exact fun _ _ => rfl

/-- What a frame has started by the end of a run is what the listener starts when it
arrives. -/
theorem callsOf_frame {as : List (JobAction Payload)} {id : FrameId}
    {frame : DeviceFrame Payload} (hlogged : FramesLogged s)
    (hrun : (jobMachine Payload).run s (.frame id k frame :: as) = some t) :
    ∃ socket, s.cluster.liveSocket k = some socket ∧ t.callsOf id = socket.onMessage k frame := by
  rcases Machine.run_cons_eq_some.mp hrun with ⟨u, hstep, hrest⟩
  have hframe : JobStep s (.frame id k frame) u := JobStep.of_step hstep
  cases hframe with
  | frame hfree hlive hidle =>
      rename_i socket
      refine ⟨socket, hlive, ?_⟩
      rw [run_callsOf hrest (by simp)]
      have hbefore := hlogged id hfree
      rw [JobState.callsOf, List.map_eq_nil_iff] at hbefore
      simp [JobState.callsOf, hbefore, List.filter_map, Function.comp_def]
  | traffic dispatches bus delivered sweeps hcluster hframe => exact (hframe id k frame rfl).elim

/-! ## Results are handled once -/

/-- In every run, every result that answers a job sent on its own socket is passed to
{lit}`handleResult` exactly once, if and only if each of them arrives on a socket whose
message handler is bound. -/
theorem result_frames_handled_iff {s₀ : JobState Payload} {as : List (JobAction Payload)}
    (hinit : (jobMachine Payload).initial s₀) (hrun : (jobMachine Payload).run s₀ as = some t) :
    HandledOnce s₀ as t ↔ (jobMachine Payload).Meets ArrivesBound s₀ as := by
  -- what is left of the run after a split
  have hsplit : ∀ pre id k frame post s, as = pre ++ .frame id k frame :: post →
      (jobMachine Payload).run s₀ pre = some s → ∃ socket,
        s.cluster.liveSocket k = some socket ∧ t.callsOf id = socket.onMessage k frame := by
    rintro pre id k frame post s rfl hpre
    rcases Machine.run_append.mp hrun with ⟨u, hu, hrest⟩
    rw [hpre, Option.some.injEq] at hu
    subst hu
    exact callsOf_frame (.of_run hinit hpre) hrest
  rw [Machine.meets_iff]
  constructor
  · intro honce pre b post s has hpre
    cases b with
    | frame id k frame =>
        cases frame with
        | result message =>
            intro hanswers socket hlive
            rcases hsplit pre id k _ post s has hpre with ⟨found, hfound, hcalls⟩
            rcases honce pre id k message post s has hpre hanswers with ⟨call, hone, -⟩
            rw [Option.mem_def, hfound, Option.some.injEq] at hlive
            subst hlive
            by_contra hunbound
            rw [hone, Socket.onMessage, if_neg hunbound] at hcalls
            contradiction
        | other => trivial
    | _ => trivial
  · intro hbound pre id k message post s has hpre hanswers
    rcases hsplit pre id k _ post s has hpre with ⟨socket, hlive, hcalls⟩
    have hfinished := hbound pre _ post s has hpre hanswers socket hlive
    rw [Socket.onMessage, if_pos hfinished] at hcalls
    exact ⟨_, hcalls, rfl, rfl⟩

/-! ### A result in time -/

/-- The job of invocation 0 and its answer. -/
def sampleJob : Job := ⟨"request-a", some 20000⟩

/-- The device answers with the id of the job. -/
def sampleAnswer : Relay.ResultMessage Unit := ⟨some (.text "request-a"), some "device-a", ()⟩

/-- An invocation takes a slot of the device and dispatches the job; the device
answers. -/
def answerTrace : List (JobAction Unit) :=
  (acquireTrace 0).map .cluster ++
    [.dispatchJob 0 0 sampleJob, .routeJob 0 .none 0, .frame 0 0 (.result sampleAnswer)]

/-- The run in which the whole handshake comes first. -/
def boundTrace : List (JobAction Unit) :=
  (connectTrace 0 0 (sampleRequest 0 1)).map .cluster ++ answerTrace

/-- The answer to a job that was sent after the handshake. -/
theorem result_frames_handled_iff_bound : ∃ t, (jobMachine Unit).run sampleJobs boundTrace =
    some t ∧ t.delivered = [(0, sampleJob)] ∧ ∃ call, t.callsOf 0 = [call] ∧
      call.socket = 0 ∧ call.message = sampleAnswer := by
  obtain ⟨t, hrun, hdelivered⟩ : ∃ t, (jobMachine Unit).run sampleJobs boundTrace = some t ∧
      t.delivered = [(0, sampleJob)] := ⟨_, rfl, rfl⟩
  obtain ⟨s, hpre, hanswers⟩ : ∃ s, (jobMachine Unit).run sampleJobs boundTrace.dropLast =
      some s ∧ Answers 0 sampleAnswer s := ⟨_, rfl, by decide⟩
  have honce : HandledOnce sampleJobs boundTrace t :=
    (result_frames_handled_iff sampleJobs_initial hrun).mpr (by decide)
  exact ⟨t, hrun, hdelivered,
    honce boundTrace.dropLast 0 0 sampleAnswer [] s rfl hpre hanswers⟩

/-! ### A result that is too early -/

/-- The presence of the device is written, and the invocation, the job and its answer
come before the rest of the handshake. -/
def earlyTrace : List (JobAction Unit) :=
  ((connectTrace 0 0 (sampleRequest 0 1)).take 10).map .cluster ++ answerTrace ++
    ((connectTrace 0 0 (sampleRequest 0 1)).drop 10).map .cluster

/-- The job is sent on the open socket, whose handshake goes on to its end without an
error, and its answer starts nothing. -/
theorem early_result_dropped :
    (jobMachine Unit).initial sampleJobs ∧ ∃ t,
      (jobMachine Unit).run sampleJobs earlyTrace = some t ∧
      (t.cluster.liveSocket 0).map (fun socket => (socket.readyState, socket.handshake)) =
        some (.open, .finished) ∧
      t.delivered = [(0, sampleJob)] ∧ t.calls = [] ∧ ¬HandledOnce sampleJobs earlyTrace t := by
  obtain ⟨s, hpre, hanswers⟩ : ∃ s, (jobMachine Unit).run sampleJobs (earlyTrace.take 16) =
      some s ∧ Answers 0 sampleAnswer s := ⟨_, rfl, by decide⟩
  refine ⟨sampleJobs_initial, _, rfl, rfl, rfl, rfl, fun honce => ?_⟩
  rcases honce (earlyTrace.take 16) 0 0 sampleAnswer (earlyTrace.drop 17) s rfl hpre hanswers with
    ⟨call, hone, -⟩
  contradiction

end Gateway
end R2RPC
