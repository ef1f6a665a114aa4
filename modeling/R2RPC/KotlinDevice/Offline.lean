import R2RPC.KotlinDevice.Connection

/-!
# A Kotlin device that is not stuck offline

Without an authentication close a started device that has come to rest has an open socket or a
reconnect ahead of it, provided its threads were timely. A failure that is delivered before the
socket is stored is dropped, and the device stays offline.

Main results:

- Definition {lit}`State.Connecting`: what a device at rest should have.
- Theorem {lit}`connected_or_reconnecting`: it has it after every timely run.
- Theorem {lit}`stuck_offline`: a failure that comes too early.
-/

namespace R2RPC
namespace KotlinDevice

open Interleaving

namespace State

/-- A socket is stored that has not ended, or a reconnect coroutine will call
`openConnection`. -/
def Connecting (state : State) : Prop :=
  (∃ socket current, state.webSocket = some socket ∧ state.sockets[socket]? = some current ∧
      current.ended = false) ∨
    state.running = true ∧
      ∃ opener ∈ state.openers, opener.cause.isSome = true ∧ opener.stage = .delaying

/-- No connection was refused, and a device that was started runs. -/
structure Unrefused (state : State) : Prop where
  sockets : ∀ socket ∈ state.sockets, socket.peerClose ≠ some authenticationClose
  handlers : ∀ handler ∈ state.handlers, handler.closeCode ≠ some authenticationClose
  running : 0 < state.starts → state.running = true
  delayed : ∀ opener ∈ state.openers, opener.stage = .delaying → opener.cause.isSome = true

variable {state state' : State} {index : Nat} {opener : Opener} {handler : Handler}

theorem unrefused_idle : idle.Unrefused where
  sockets := fun _ hmem => absurd hmem List.not_mem_nil
  handlers := fun _ hmem => absurd hmem List.not_mem_nil
  running := fun hstarts => absurd hstarts (Nat.lt_irrefl 0)
  delayed := fun _ hmem => absurd hmem List.not_mem_nil

theorem Unrefused.setOpener {stage : OpenerStage} (h : state.Unrefused)
    (hstage : stage ≠ .delaying) : (state.setOpener index opener stage).Unrefused where
  sockets := h.sockets
  handlers := h.handlers
  running := h.running
  delayed := by
    intro other hmem hdelaying
    rcases List.mem_or_eq_of_mem_set hmem with hold | rfl
    · exact h.delayed other hold hdelaying
    · exact absurd hdelaying hstage

theorem Unrefused.setHandler {stage : HandlerStage} (h : state.Unrefused)
    (hget : state.handlers[index]? = some handler) :
    (state.setHandler index handler stage).Unrefused where
  sockets := h.sockets
  handlers := by
    intro other hmem
    rcases List.mem_or_eq_of_mem_set hmem with hold | rfl
    · exact h.handlers other hold
    · exact h.handlers handler (List.mem_of_getElem? hget)
  running := h.running
  delayed := h.delayed

/-- Something happens to a socket, other than an authentication close. -/
theorem Unrefused.changeSocket {socket : Nat} {change : Socket → Socket} (h : state.Unrefused)
    (hchange : state.changeSocket socket change = some state')
    (hclose : ∀ current, current.peerClose ≠ some authenticationClose →
      (change current).peerClose ≠ some authenticationClose) : state'.Unrefused := by
  rcases changeSocket_eq_some.mp hchange with ⟨current, hget, rfl⟩
  refine ⟨fun other hmem => ?_, h.handlers, h.running, h.delayed⟩
  rcases List.mem_or_eq_of_mem_set hmem with hold | rfl
  · exact h.sockets other hold
  · exact hclose current (h.sockets current (List.mem_of_getElem? hget))

theorem Unrefused.endSocket {socket : Nat} {current : Socket} (h : state.Unrefused)
    (hget : state.sockets[socket]? = some current)
    (hcode : handler.closeCode ≠ some authenticationClose) :
    (state.endSocket socket current handler).Unrefused := by
  refine ⟨fun other hmem => ?_, fun other hmem => ?_, h.running, h.delayed⟩
  · rcases List.mem_or_eq_of_mem_set hmem with hold | rfl
    · exact h.sockets other hold
    · exact h.sockets current (List.mem_of_getElem? hget)
  · rcases List.mem_append.mp hmem with hold | hnew
    · exact h.handlers other hold
    · rw [List.mem_singleton.mp hnew]
      exact hcode

theorem Unrefused.stepOpener {throws : Bool} (h : state.Unrefused)
    (hstep : state.stepOpener index throws opener = some state') : state'.Unrefused := by
  rw [State.stepOpener] at hstep
  split at hstep
  · obtain rfl := Option.some.inj hstep
    exact h.setOpener (by simp)
  · obtain rfl := Option.some.inj hstep
    refine h.setOpener ?_
    split <;> simp
  · split at hstep
    · obtain rfl := Option.some.inj hstep
      exact h.setOpener (by simp)
    · obtain rfl := Option.some.inj hstep
      have hmoved : (state.setOpener index opener (.storing state.sockets.length)).Unrefused :=
        h.setOpener (by simp)
      refine ⟨fun other hmem => ?_, hmoved.handlers, hmoved.running, hmoved.delayed⟩
      rcases List.mem_append.mp hmem with hold | hnew
      · exact h.sockets other hold
      · rw [List.mem_singleton.mp hnew]
        simp
  · obtain rfl := Option.some.inj hstep
    have hmoved : (state.setOpener index opener .finishing).Unrefused := h.setOpener (by simp)
    exact ⟨hmoved.sockets, hmoved.handlers, hmoved.running, hmoved.delayed⟩
  · obtain rfl := Option.some.inj hstep
    exact h.setOpener (by simp)
  · cases hstep

theorem Unrefused.stepHandler {throws : Bool} (h : state.Unrefused)
    (hget : state.handlers[index]? = some handler)
    (hstep : state.stepHandler index throws handler = some state') : state'.Unrefused := by
  have hcode := h.handlers handler (List.mem_of_getElem? hget)
  rw [State.stepHandler] at hstep
  split at hstep
  · obtain rfl := Option.some.inj hstep
    exact h.setHandler hget
  · obtain rfl := Option.some.inj hstep
    have hmoved : (state.setHandler index handler .informing).Unrefused := h.setHandler hget
    exact ⟨hmoved.sockets, hmoved.handlers, hmoved.running, hmoved.delayed⟩
  · obtain rfl := Option.some.inj hstep
    exact h.setHandler hget
  · rw [if_neg hcode] at hstep
    split at hstep
    · obtain rfl := Option.some.inj hstep
      exact h.setHandler hget
    · obtain rfl := Option.some.inj hstep
      exact h.setHandler hget
  · have hmoved : (state.setHandler index handler .done).Unrefused := h.setHandler hget
    split at hstep
    · obtain rfl := Option.some.inj hstep
      exact hmoved
    · obtain rfl := Option.some.inj hstep
      exact ⟨hmoved.sockets, hmoved.handlers, hmoved.running, hmoved.delayed⟩
  · obtain rfl := Option.some.inj hstep
    exact h.setHandler hget
  · have hmoved : (state.setHandler index handler .done).Unrefused := h.setHandler hget
    split at hstep
    · obtain rfl := Option.some.inj hstep
      exact hmoved
    · obtain rfl := Option.some.inj hstep
      refine ⟨hmoved.sockets, hmoved.handlers, hmoved.running, fun other hmem hdelaying => ?_⟩
      rcases List.mem_append.mp hmem with hold | hnew
      · exact h.delayed other hold hdelaying
      · rw [List.mem_singleton.mp hnew]
        rfl
  · cases hstep

/-- No step but an authentication close refuses a connection. -/
theorem Unrefused.step {action : Action} (h : state.Unrefused)
    (hclose : ∀ socket, action ≠ .peerCloses socket authenticationClose)
    (hstep : state.next action = some state') : state'.Unrefused := by
  cases action with
  | start =>
      rw [State.next] at hstep
      split at hstep
      · obtain rfl := Option.some.inj hstep
        exact h
      · obtain rfl := Option.some.inj hstep
        refine ⟨h.sockets, h.handlers, fun _ => rfl, fun other hmem hdelaying => ?_⟩
        rcases List.mem_append.mp hmem with hold | hnew
        · exact h.delayed other hold hdelaying
        · rw [List.mem_singleton.mp hnew] at hdelaying
          cases hdelaying
  | opener index throws =>
      rcases Option.bind_eq_some_iff.mp hstep with ⟨opener, -, hnext⟩
      exact h.stepOpener hnext
  | handler index throws =>
      rcases Option.bind_eq_some_iff.mp hstep with ⟨handler, hget, hnext⟩
      exact h.stepHandler hget hnext
  | opened socket =>
      rw [State.next] at hstep
      split at hstep
      · obtain rfl := Option.some.inj hstep
        exact h
      · exact h.changeSocket hstep fun _ hother => hother
  | welcome socket sameClient =>
      rw [State.next] at hstep
      split at hstep
      · obtain rfl := Option.some.inj hstep
        exact ⟨h.sockets, h.handlers, h.running, h.delayed⟩
      · obtain rfl := Option.some.inj hstep
        exact h
  | closeMismatched =>
      rw [State.next] at hstep
      split at hstep
      · cases hstep
      · have hrest : State.Unrefused { state with mismatches := state.mismatches - 1 } :=
          ⟨h.sockets, h.handlers, h.running, h.delayed⟩
        dsimp only at hstep
        split at hstep
        · obtain rfl := Option.some.inj hstep
          exact hrest
        · exact hrest.changeSocket hstep fun _ hother => hother
  | overflow socket => exact h.changeSocket hstep fun _ hother => hother
  | peerCloses socket code =>
      rcases Option.bind_eq_some_iff.mp hstep with ⟨current, -, hnext⟩
      split at hnext
      · refine h.changeSocket hnext fun _ _ hcode => hclose socket ?_
        rw [Option.some.inj hcode]
      · cases hnext
  | closed socket =>
      rcases next_closed hstep with ⟨current, hget, -, rfl⟩
      exact h.endSocket hget (h.sockets current (List.mem_of_getElem? hget))
  | fails socket response =>
      rcases next_fails hstep with ⟨current, hget, -, hstatus, rfl⟩
      refine h.endSocket hget fun hcode => ?_
      have hlt := (hstatus authenticationClose hcode).1
      exact absurd hlt (by decide)

/-- What there is of a connection, in a state at rest. -/
theorem Single.connecting (h : state.Single) (hunrefused : state.Unrefused)
    (hstarted : 0 < state.starts) (hquiet : state.Quiescent) : state.Connecting := by
  have hrunning := hunrefused.running hstarted
  have hnolate : state.handlers.countP Handler.late = 0 := by
    refine List.countP_eq_zero.mpr fun handler hmem => ?_
    rw [Handler.late, hquiet.handlers handler hmem]
    exact Bool.false_ne_true
  have hone := h.one
  rw [hrunning, Bool.toNat_true, hnolate, Nat.add_zero] at hone
  cases hsocket : state.webSocket with
  | none =>
      -- then a thread opens a connection, and it is delayed
      rw [hsocket, Option.toList_none, List.length_nil, Nat.add_zero] at hone
      have hpos : 0 < state.openers.countP Opener.coming := by omega
      rcases List.countP_pos_iff.mp hpos with ⟨opener, hmem, hcoming⟩
      refine .inr ⟨hrunning, opener, hmem, ?_⟩
      rcases hquiet.openers opener hmem with hdelaying | hcompleted
      · exact ⟨hunrefused.delayed opener hmem hdelaying, hdelaying⟩
      · rw [Opener.coming, hcompleted] at hcoming
        cases hcoming
  | some socket =>
      -- had the socket ended, its disconnection would not have been handled
      rcases h.held socket (.inl hsocket) with ⟨hlt, hended⟩
      rw [endings, List.length_map] at hlt
      refine .inl ⟨socket, state.sockets[socket], hsocket, List.getElem?_eq_getElem hlt, ?_⟩
      by_contra hend
      rw [Bool.not_eq_false] at hend
      have hget := endings_getElem? (List.getElem?_eq_getElem hlt)
      rw [hend] at hget
      rcases hended hget with ⟨handler, hmem, -, hearly⟩
      rw [Handler.early, hquiet.handlers handler hmem] at hearly
      cases hearly

end State

/-- After a timely run without an authentication close, a started device at rest has a
connection or will open one. -/
theorem connected_or_reconnecting {actions : List Action} {state : State}
    (hrun : machine.run idle actions = some state)
    (hclose : ∀ socket, Action.peerCloses socket authenticationClose ∉ actions)
    (htimely : machine.Meets (fun state action => action.Timely state) idle actions)
    (hstarted : 0 < state.starts) (hquiet : state.Quiescent) : state.Connecting := by
  have hunrefused : state.Unrefused := by
    have hmeets : machine.Meets
        (fun _ action => ∀ socket, action ≠ .peerCloses socket authenticationClose)
        idle actions := by
      refine Machine.meets_of_forall_mem fun action hmem _ socket hsame => hclose socket ?_
      exact hsame ▸ hmem
    exact hmeets.invariant (fun h hother hstep => h.step hother hstep) State.unrefused_idle hrun
  exact (single_of_run htimely hrun).connecting hunrefused hstarted hquiet

/-- A connection that fails and is opened again. -/
def failingRun : List Action :=
  [.start, .opener 0 false, .opener 0 false, .opener 0 false, .fails 0 none, .handler 0 false,
    .handler 0 false, .handler 0 false, .handler 0 false, .handler 0 false, .handler 0 false]

/-- The device while it waits. -/
def failing : State :=
  { idle with
    running := true, reconnectJob := some 1, starts := 1, sockets := [⟨1, false, false, none, true⟩]
    openers := [⟨none, .completed⟩, ⟨some 0, .delaying⟩]
    handlers := [⟨0, none, true, .done⟩] }

theorem connected_or_reconnecting_failing : failing.Connecting :=
  connected_or_reconnecting (show machine.run idle failingRun = some failing by decide)
    (fun socket hmem => by simp [failingRun] at hmem) (by decide) (by decide)
    ⟨by decide, by decide, rfl, by decide⟩

/-- A connection whose failure is delivered before the socket is stored. -/
def earlyFailure : List Action :=
  [.start, .opener 0 false, .fails 0 none, .handler 0 false, .opener 0 false, .opener 0 false]

/-- The device keeps a socket that has ended, and nothing opens another. -/
theorem stuck_offline :
    ¬ ∀ (actions : List Action) (state : State), machine.run idle actions = some state →
      (∀ socket, Action.peerCloses socket authenticationClose ∉ actions) → 0 < state.starts →
        state.Quiescent → state.Connecting := by
  intro h
  rcases h earlyFailure _ rfl (fun socket hmem => by simp [earlyFailure] at hmem) (by decide)
      ⟨by decide, by decide, rfl, by decide⟩ with
    ⟨socket, current, hsocket, hget, hopen⟩ | ⟨-, opener, hmem, hcause, -⟩
  · obtain rfl := Option.some.inj hsocket
    obtain rfl := Option.some.inj hget
    cases hopen
  · obtain rfl := List.mem_singleton.mp hmem
    cases hcause

end KotlinDevice
end R2RPC
