import Mathlib.Data.List.Nodup
import R2RPC.KotlinDevice.Connection

/-!
# Authentication closes of the Kotlin device

The close code of the server reaches {lit}`handleDisconnection` only through {lit}`onClosed`. A
device that has closed its side as well stops, reports the refusal and opens nothing more; any
other device takes the refusal for a failure and reconnects.

Main results:

- Structure {lit}`State.RefusalFinal`: what should follow a close of the server.
- Definition {lit}`Action.Graceful`: no refused socket ends with a failure.
- Theorem {lit}`refusal_final`: timely and graceful runs.
- Theorem {lit}`reconnects_when_refused`: a refused device that reconnects.
-/

namespace R2RPC
namespace KotlinDevice

open Interleaving

/-- A reconnect coroutine that was scheduled for a socket. -/
def Opener.reconnects (socket : Nat) (opener : Opener) : Bool := opener.cause == some socket

/-- A socket that the server refuses does not end with a failure: the client has called
`close` on it. -/
def Action.Graceful (state : State) : Action → Prop
  | .fails socket _ =>
      ∀ current ∈ state.sockets[socket]?, current.peerClose ≠ some authenticationClose
  | _ => True

instance (state : State) : (action : Action) → Decidable (action.Graceful state)
  | .fails _ _ => inferInstanceAs (Decidable (∀ _ ∈ _, _))
  | .start | .opener _ _ | .handler _ _ | .opened _ | .welcome _ _ | .closeMismatched | .overflow _
  | .peerCloses _ _ | .closed _ => isTrue trivial

namespace State

/-- After an authentication close the device reports it, stops, and opens no connection before
it is started again; after any other close it schedules one reconnect. -/
structure RefusalFinal (state : State) : Prop where
  stops : ∀ socket current, state.sockets[socket]? = some current →
    current.peerClose = some authenticationClose → state.Quiescent →
      socket ∈ state.reported ∧ (current.life = state.starts →
        state.running = false ∧ ∀ opener ∈ state.openers, opener.stage = .completed)
  final : ∀ (socket other : Nat) (current later : Socket), socket < other →
    state.sockets[socket]? = some current → current.peerClose = some authenticationClose →
      state.sockets[other]? = some later → current.life < later.life
  reconnects : ∀ socket current code, state.sockets[socket]? = some current →
    current.peerClose = some code → code ≠ authenticationClose →
      state.openers.countP (Opener.reconnects socket) ≤ 1 ∧
        (state.Quiescent → state.openers.countP (Opener.reconnects socket) = 1)

/-! ## What handled disconnections have done -/

/-- With which codes the peers have closed. -/
def closes (state : State) : List (Option Nat) := state.sockets.map Socket.peerClose

/-- In which lives of the device the sockets were created. -/
def lives (state : State) : List Nat := state.sockets.map Socket.life

end State

/-- A disconnection for which a reconnect was scheduled. -/
def Handler.rescheduled (socket : Nat) (handler : Handler) : Bool :=
  handler.socket == socket && handler.stage == .done &&
    handler.closeCode != some authenticationClose

namespace State

/-- Disconnections know the refusals, and do for each what is due. -/
structure Refusals (state : State) : Prop where
  code : ∀ handler ∈ state.handlers, handler.closeCode = some authenticationClose ↔
    state.closes[handler.socket]? = some (some authenticationClose)
  reporting : ∀ handler ∈ state.handlers, handler.stage = .reporting →
    handler.closeCode = some authenticationClose
  reconnecting : ∀ handler ∈ state.handlers,
    handler.stage = .scheduling ∨ handler.stage = .launching →
      handler.closeCode ≠ some authenticationClose
  reported : ∀ handler ∈ state.handlers, handler.stage = .done →
    handler.closeCode = some authenticationClose → handler.socket ∈ state.reported
  counted : ∀ socket, state.openers.countP (Opener.reconnects socket) =
    state.handlers.countP (Handler.rescheduled socket)

variable {state state' : State} {index : Nat} {opener : Opener} {handler : Handler}

theorem refusals_idle : idle.Refusals where
  code := fun _ hmem => absurd hmem List.not_mem_nil
  reporting := fun _ hmem => absurd hmem List.not_mem_nil
  reconnecting := fun _ hmem => absurd hmem List.not_mem_nil
  reported := fun _ hmem => absurd hmem List.not_mem_nil
  counted := fun _ => rfl

/-- A step of no disconnection. -/
theorem Refusals.of_same (h : state.Refusals) (hhandlers : state'.handlers = state.handlers)
    (hcloses : ∀ handler ∈ state.handlers,
      state'.closes[handler.socket]? = state.closes[handler.socket]?)
    (hreported : state'.reported = state.reported)
    (hcount : ∀ socket, state'.openers.countP (Opener.reconnects socket) =
      state.openers.countP (Opener.reconnects socket)) : state'.Refusals := by
  refine ⟨?_, hhandlers ▸ h.reporting, hhandlers ▸ h.reconnecting, ?_, ?_⟩
  · intro handler hmem
    rw [hhandlers] at hmem
    rw [hcloses handler hmem]
    exact h.code handler hmem
  · rw [hhandlers, hreported]
    exact h.reported
  · intro socket
    rw [hcount, hhandlers]
    exact h.counted socket

theorem reconnects_setOpener {stage : OpenerStage} (hget : state.openers[index]? = some opener)
    (socket : Nat) :
    (state.setOpener index opener stage).openers.countP (Opener.reconnects socket) =
      state.openers.countP (Opener.reconnects socket) := by
  have hcount := countP_set_add (p := Opener.reconnects socket) (y := { opener with stage := stage })
    hget
  exact Nat.add_right_cancel hcount

/-- A step of a disconnection that is not its last. -/
theorem Refusals.setHandler {stage : HandlerStage} (h : state.Refusals)
    (hget : state.handlers[index]? = some handler) (hold : handler.stage ≠ .done)
    (hnew : stage ≠ .done)
    (hreporting : stage = .reporting → handler.closeCode = some authenticationClose)
    (hreconnecting : stage = .scheduling ∨ stage = .launching →
      handler.closeCode ≠ some authenticationClose) :
    (state.setHandler index handler stage).Refusals := by
  have hhandler := List.mem_of_getElem? hget
  refine ⟨?_, ?_, ?_, ?_, ?_⟩
  · intro other hmem
    rcases List.mem_or_eq_of_mem_set hmem with hmem | rfl
    · exact h.code other hmem
    · exact h.code handler hhandler
  · intro other hmem hstage
    rcases List.mem_or_eq_of_mem_set hmem with hmem | rfl
    · exact h.reporting other hmem hstage
    · exact hreporting hstage
  · intro other hmem hstage
    rcases List.mem_or_eq_of_mem_set hmem with hmem | rfl
    · exact h.reconnecting other hmem hstage
    · exact hreconnecting hstage
  · intro other hmem hstage
    rcases List.mem_or_eq_of_mem_set hmem with hmem | rfl
    · exact h.reported other hmem hstage
    · exact absurd hstage hnew
  · intro socket
    have hcount := countP_set_add (p := Handler.rescheduled socket)
      (y := { handler with stage := stage }) hget
    have hbefore : handler.rescheduled socket = false := by simp [Handler.rescheduled, hold]
    have hafter : Handler.rescheduled socket { handler with stage := stage } = false := by
      simp [Handler.rescheduled, hnew]
    rw [hbefore, hafter] at hcount
    exact (h.counted socket).trans hcount.symm

/-- The last step of a disconnection. -/
theorem Refusals.settle (h : state.Refusals) (hget : state.handlers[index]? = some handler)
    (hold : handler.stage ≠ .done)
    (hhandlers : state'.handlers = state.handlers.set index { handler with stage := .done })
    (hcloses : state'.closes = state.closes)
    (hreported : ∀ socket ∈ state.reported, socket ∈ state'.reported)
    (hreport : handler.closeCode = some authenticationClose → handler.socket ∈ state'.reported)
    (hcount : ∀ socket, state'.openers.countP (Opener.reconnects socket) =
      state.openers.countP (Opener.reconnects socket) +
        if Handler.rescheduled socket { handler with stage := .done } then 1 else 0) :
    state'.Refusals := by
  have hhandler := List.mem_of_getElem? hget
  refine ⟨?_, ?_, ?_, ?_, ?_⟩
  · intro other hmem
    rw [hhandlers] at hmem
    rw [hcloses]
    rcases List.mem_or_eq_of_mem_set hmem with hmem | rfl
    · exact h.code other hmem
    · exact h.code handler hhandler
  · intro other hmem hstage
    rw [hhandlers] at hmem
    rcases List.mem_or_eq_of_mem_set hmem with hmem | rfl
    · exact h.reporting other hmem hstage
    · cases hstage
  · intro other hmem hstage
    rw [hhandlers] at hmem
    rcases List.mem_or_eq_of_mem_set hmem with hmem | rfl
    · exact h.reconnecting other hmem hstage
    · rcases hstage with hstage | hstage <;> cases hstage
  · intro other hmem hstage hcode
    rw [hhandlers] at hmem
    rcases List.mem_or_eq_of_mem_set hmem with hmem | rfl
    · exact hreported _ (h.reported other hmem hstage hcode)
    · exact hreport hcode
  · intro socket
    have hset := countP_set_add (p := Handler.rescheduled socket)
      (y := { handler with stage := .done }) hget
    have hbefore : handler.rescheduled socket = false := by simp [Handler.rescheduled, hold]
    have hcounted := h.counted socket
    have hstep := hcount socket
    rw [hbefore] at hset
    rw [hhandlers]
    simp only [Bool.false_eq_true, if_false, Nat.add_zero] at hset
    omega

theorem Refusals.stepOpener {throws : Bool} (h : state.Refusals) (hsingle : state.Single)
    (hget : state.openers[index]? = some opener)
    (hstep : state.stepOpener index throws opener = some state') : state'.Refusals := by
  have hmoved : ∀ stage, (state.setOpener index opener stage).Refusals := fun stage =>
    h.of_same rfl (fun _ _ => rfl) rfl (reconnects_setOpener hget)
  rw [State.stepOpener] at hstep
  split at hstep
  · obtain rfl := Option.some.inj hstep
    exact hmoved _
  · obtain rfl := Option.some.inj hstep
    exact hmoved _
  · split at hstep
    · obtain rfl := Option.some.inj hstep
      exact hmoved _
    · obtain rfl := Option.some.inj hstep
      refine h.of_same rfl (fun handler hmem => ?_) rfl (reconnects_setOpener hget)
      have hlt := (List.getElem?_eq_some_iff.mp (hsingle.handled handler hmem)).1
      rw [endings, List.length_map] at hlt
      rw [closes, List.map_append, List.getElem?_append_left (by rwa [List.length_map])]
      rfl
  · obtain rfl := Option.some.inj hstep
    exact (hmoved .finishing).of_same rfl (fun _ _ => rfl) rfl fun _ => rfl
  · obtain rfl := Option.some.inj hstep
    exact hmoved _
  · cases hstep

theorem Refusals.stepHandler (h : state.Refusals) (hsingle : state.Single)
    (hget : state.handlers[index]? = some handler)
    (hcompare : handler.stage = .comparing → ¬state.Storing handler.socket)
    (hschedule : handler.stage = .scheduling → state.reconnectActive = false)
    (hstep : state.stepHandler index false handler = some state') : state'.Refusals := by
  have hhandler := List.mem_of_getElem? hget
  rw [State.stepHandler] at hstep
  cases hstage : handler.stage with
  | comparing =>
      have hcurrent := hsingle.compare hget hstage (hcompare hstage)
      simp only [hstage, hcurrent, if_true, Option.some.injEq] at hstep
      subst hstep
      exact h.setHandler hget (by simp [hstage]) (by simp) (by simp) (by simp)
  | clearing =>
      simp only [hstage, Option.some.injEq] at hstep
      subst hstep
      have hmoved : (state.setHandler index handler .informing).Refusals :=
        h.setHandler hget (by simp [hstage]) (by simp) (by simp) (by simp)
      exact hmoved.of_same rfl (fun _ _ => rfl) rfl fun _ => rfl
  | informing =>
      simp only [hstage, Bool.false_eq_true, and_false, if_false, Option.some.injEq] at hstep
      subst hstep
      exact h.setHandler hget (by simp [hstage]) (by simp) (by simp) (by simp)
  | deciding =>
      have hlate : handler.late = true := by rw [Handler.late, hstage]
      simp only [hstage, (hsingle.of_late hget hlate).1, Bool.true_eq_false, if_false] at hstep
      split at hstep
      · rename_i hcode
        obtain rfl := Option.some.inj hstep
        have hmoved : (state.setHandler index handler .reporting).Refusals :=
          h.setHandler hget (by simp [hstage]) (by simp) (fun _ => hcode) (by simp)
        exact hmoved.of_same rfl (fun _ _ => rfl) rfl fun _ => rfl
      · rename_i hcode
        obtain rfl := Option.some.inj hstep
        exact h.setHandler hget (by simp [hstage]) (by simp) (by simp) fun _ => hcode
  | reporting =>
      simp only [hstage, Bool.false_eq_true, if_false, Option.some.injEq] at hstep
      subst hstep
      have hcode := h.reporting handler hhandler hstage
      refine h.settle hget (by simp [hstage]) rfl rfl (fun _ => List.mem_cons_of_mem _)
        (fun _ => List.mem_cons_self) fun socket => ?_
      simp [State.setHandler, Handler.rescheduled, hcode]
  | scheduling =>
      have hlate : handler.late = true := by rw [Handler.late, hstage]
      simp only [hstage, (hsingle.of_late hget hlate).1, hschedule hstage, Bool.true_eq_false,
        Bool.false_eq_true, or_self, if_false, Option.some.injEq] at hstep
      subst hstep
      exact h.setHandler hget (by simp [hstage]) (by simp) (by simp)
        fun _ => h.reconnecting handler hhandler (.inl hstage)
  | launching =>
      simp only [hstage, Bool.false_eq_true, if_false, Option.some.injEq] at hstep
      subst hstep
      have hcode := h.reconnecting handler hhandler (.inr hstage)
      refine h.settle hget (by simp [hstage]) rfl rfl (fun _ hmem => hmem)
        (fun hrefused => absurd hrefused hcode) fun socket => ?_
      rw [List.countP_append, List.countP_singleton]
      simp [Opener.reconnects, Handler.rescheduled, hcode]
  | done =>
      simp only [hstage] at hstep
      cases hstep

/-- Something happens to a socket that has not ended, or nothing that the peer does. -/
theorem Refusals.changeSocket {socket : Nat} {change : Socket → Socket} (h : state.Refusals)
    (hsingle : state.Single) (hchange : state.changeSocket socket change = some state')
    (hclose : ∀ current, (change current).peerClose = current.peerClose ∨
      state.endings[socket]? = some false) : state'.Refusals := by
  rcases changeSocket_eq_some.mp hchange with ⟨current, hget, rfl⟩
  refine h.of_same rfl (fun handler hmem => ?_) rfl fun _ => rfl
  rcases hclose current with hsame | hopen
  · rw [closes, closes, map_set_same hget hsame]
  · have hne : socket ≠ handler.socket := by
      rintro rfl
      exact absurd (hopen.symm.trans (hsingle.handled handler hmem)) (by simp)
    rw [closes, closes, List.map_set, List.getElem?_set_ne hne]

/-- A socket ends, with the code of its peer if that is a refusal. -/
theorem Refusals.endSocket {socket : Nat} {current : Socket} (h : state.Refusals)
    (hget : state.sockets[socket]? = some current) (hsocket : handler.socket = socket)
    (hcomparing : handler.stage = .comparing)
    (hcode : handler.closeCode = some authenticationClose ↔
      current.peerClose = some authenticationClose) :
    (state.endSocket socket current handler).Refusals := by
  have hcloses : (state.endSocket socket current handler).closes = state.closes :=
    map_set_same hget rfl
  refine ⟨?_, ?_, ?_, ?_, ?_⟩
  · intro other hmem
    rw [hcloses]
    rcases List.mem_append.mp hmem with hold | hnew
    · exact h.code other hold
    · rw [List.mem_singleton.mp hnew, hsocket, hcode, closes, List.getElem?_map, hget,
        Option.map_some, Option.some.injEq]
  · intro other hmem hstage
    rcases List.mem_append.mp hmem with hold | hnew
    · exact h.reporting other hold hstage
    · rw [List.mem_singleton.mp hnew, hcomparing] at hstage
      cases hstage
  · intro other hmem hstage
    rcases List.mem_append.mp hmem with hold | hnew
    · exact h.reconnecting other hold hstage
    · rw [List.mem_singleton.mp hnew, hcomparing] at hstage
      rcases hstage with hstage | hstage <;> cases hstage
  · intro other hmem hstage
    rcases List.mem_append.mp hmem with hold | hnew
    · exact h.reported other hold hstage
    · rw [List.mem_singleton.mp hnew, hcomparing] at hstage
      cases hstage
  · intro other
    have hnew : handler.rescheduled other = false := by simp [Handler.rescheduled, hcomparing]
    rw [State.endSocket, List.countP_append, List.countP_singleton, hnew]
    exact h.counted other

/-- A timely and graceful step. -/
theorem Refusals.step {action : Action} (h : state.Refusals) (hsingle : state.Single)
    (htimely : action.Timely state) (hgraceful : action.Graceful state)
    (hstep : state.next action = some state') : state'.Refusals := by
  cases action with
  | start =>
      rw [State.next] at hstep
      split at hstep
      · obtain rfl := Option.some.inj hstep
        exact h
      · obtain rfl := Option.some.inj hstep
        refine h.of_same rfl (fun _ _ => rfl) rfl fun socket => ?_
        rw [List.countP_append, List.countP_singleton]
        rfl
  | opener index throws =>
      rcases Option.bind_eq_some_iff.mp hstep with ⟨opener, hget, hnext⟩
      exact h.stepOpener hsingle hget hnext
  | handler index throws =>
      rcases Option.bind_eq_some_iff.mp hstep with ⟨handler, hget, hnext⟩
      rcases htimely with ⟨rfl, hmoment⟩
      rcases hmoment handler hget with ⟨hcompare, hschedule⟩
      exact h.stepHandler hsingle hget hcompare hschedule hnext
  | opened socket =>
      rw [State.next] at hstep
      split at hstep
      · obtain rfl := Option.some.inj hstep
        exact h
      · exact h.changeSocket hsingle hstep fun _ => .inl rfl
  | welcome socket sameClient =>
      rw [State.next] at hstep
      split at hstep
      · obtain rfl := Option.some.inj hstep
        exact h.of_same rfl (fun _ _ => rfl) rfl fun _ => rfl
      · obtain rfl := Option.some.inj hstep
        exact h
  | closeMismatched =>
      rw [State.next] at hstep
      split at hstep
      · cases hstep
      · have hrest : State.Refusals { state with mismatches := state.mismatches - 1 } :=
          h.of_same rfl (fun _ _ => rfl) rfl fun _ => rfl
        have hsingle' : State.Single { state with mismatches := state.mismatches - 1 } :=
          hsingle.of_held hsingle.one (fun _ => Iff.rfl) rfl rfl rfl fun _ _ => Iff.rfl
        dsimp only at hstep
        split at hstep
        · obtain rfl := Option.some.inj hstep
          exact hrest
        · exact hrest.changeSocket hsingle' hstep fun _ => .inl rfl
  | overflow socket => exact h.changeSocket hsingle hstep fun _ => .inl rfl
  | peerCloses socket code =>
      rcases Option.bind_eq_some_iff.mp hstep with ⟨current, hget, hnext⟩
      split at hnext
      · rename_i hguard
        refine h.changeSocket hsingle hnext fun _ => .inr ?_
        rw [endings_getElem? hget, hguard.1]
      · cases hnext
  | closed socket =>
      rcases next_closed hstep with ⟨current, hget, -, rfl⟩
      exact h.endSocket hget rfl rfl Iff.rfl
  | fails socket response =>
      rcases next_fails hstep with ⟨current, hget, -, hstatus, rfl⟩
      refine h.endSocket hget rfl rfl ⟨fun hcode => ?_, fun hclose => ?_⟩
      · have hlt := (hstatus authenticationClose hcode).1
        exact absurd hlt (by decide)
      · exact absurd hclose (hgraceful current hget)

/-! ## Lives of the device -/

/-- The sockets of one life come to an end before a refusal, and a refusal ends the life. -/
structure Generations (state : State) : Prop where
  ended : ∀ socket, state.endings[socket]? = some true →
    ∃ handler ∈ state.handlers, handler.socket = socket
  bounded : ∀ life ∈ state.lives, life ≤ state.starts
  last : ∀ socket, state.endings[socket]? = some false → socket + 1 = state.endings.length
  stopped : ∀ handler ∈ state.handlers, handler.stage = .reporting ∨ handler.stage = .done →
    handler.closeCode = some authenticationClose → ∀ life, state.lives[handler.socket]? = some life →
      state.running = false ∨ life < state.starts
  later : ∀ (socket other life life' : Nat), socket < other →
    state.closes[socket]? = some (some authenticationClose) → state.lives[socket]? = some life →
      state.lives[other]? = some life' → life < life'

theorem generations_idle : idle.Generations := by
  refine ⟨?_, ?_, ?_, ?_, ?_⟩
  · intro socket hended
    cases hended
  · exact fun life hmem => absurd hmem List.not_mem_nil
  · intro socket hopen
    cases hopen
  · exact fun handler hmem => absurd hmem List.not_mem_nil
  · intro socket other life life' _ _ hlife
    cases hlife

/-- A step that changes nothing about the lives of the sockets. -/
theorem Generations.of_same (h : state.Generations) (hendings : state'.endings = state.endings)
    (hcloses : state'.closes = state.closes) (hlives : state'.lives = state.lives)
    (hstarts : state'.starts = state.starts)
    (hsockets : state'.handlers.map Handler.socket = state.handlers.map Handler.socket)
    (hstopped : ∀ handler ∈ state'.handlers,
      handler.stage = .reporting ∨ handler.stage = .done →
        handler.closeCode = some authenticationClose →
          state'.running = false ∨ state'.running = state.running ∧
            ∃ old ∈ state.handlers, old.socket = handler.socket ∧
              (old.stage = .reporting ∨ old.stage = .done) ∧ old.closeCode = handler.closeCode) :
    state'.Generations := by
  refine ⟨?_, ?_, ?_, ?_, ?_⟩
  · intro socket hended
    rw [hendings] at hended
    rcases h.ended socket hended with ⟨handler, hmem, rfl⟩
    have hkey : handler.socket ∈ state'.handlers.map Handler.socket :=
      hsockets ▸ List.mem_map_of_mem hmem
    exact List.mem_map.mp hkey
  · rw [hlives, hstarts]
    exact h.bounded
  · rw [hendings]
    exact h.last
  · intro handler hmem hstage hcode life hlife
    rw [hlives] at hlife
    rw [hstarts]
    rcases hstopped handler hmem hstage hcode with hfalse | ⟨hrunning, old, hold, hsame⟩
    · exact .inl hfalse
    · rw [← hsame.1] at hlife
      rw [hrunning]
      exact h.stopped old hold hsame.2.1 (hsame.2.2.trans hcode) life hlife
  · rw [hcloses, hlives]
    exact h.later

/-- A step of no disconnection. -/
theorem Generations.of_handlers (h : state.Generations) (hendings : state'.endings = state.endings)
    (hcloses : state'.closes = state.closes) (hlives : state'.lives = state.lives)
    (hstarts : state'.starts = state.starts) (hrunning : state'.running = state.running)
    (hhandlers : state'.handlers = state.handlers) : state'.Generations := by
  refine h.of_same hendings hcloses hlives hstarts (by rw [hhandlers]) ?_
  intro handler hmem hstage _
  rw [hhandlers] at hmem
  exact .inr ⟨hrunning, handler, hmem, rfl, hstage, rfl⟩

/-- A disconnection moves on. -/
theorem Generations.of_setHandler {stage : HandlerStage} (h : state.Generations)
    (hget : state.handlers[index]? = some handler)
    (hhandlers : state'.handlers = state.handlers.set index { handler with stage := stage })
    (hendings : state'.endings = state.endings) (hcloses : state'.closes = state.closes)
    (hlives : state'.lives = state.lives) (hstarts : state'.starts = state.starts)
    (hrunning : state'.running = false ∨ state'.running = state.running)
    (hstage : stage = .reporting ∨ stage = .done →
      handler.closeCode = some authenticationClose →
        state'.running = false ∨ handler.stage = .reporting) : state'.Generations := by
  refine h.of_same hendings hcloses hlives hstarts ?_ ?_
  · rw [hhandlers]
    exact map_set_same hget rfl
  · intro other hmem hother hcode
    rw [hhandlers] at hmem
    rcases hrunning with hfalse | hsame
    · exact .inl hfalse
    · rcases List.mem_or_eq_of_mem_set hmem with hold | rfl
      · exact .inr ⟨hsame, other, hold, rfl, hother, rfl⟩
      · rcases hstage hother hcode with hfalse | hreporting
        · exact .inl hfalse
        · exact .inr ⟨hsame, handler, List.mem_of_getElem? hget, rfl, .inl hreporting, rfl⟩

/-- A socket is created: every refusal belongs to an earlier life. -/
theorem Generations.create (h : state.Generations) (hsingle : state.Single)
    (hrefusals : state.Refusals) (hget : state.openers[index]? = some opener)
    (hopening : opener.stage = .opening) :
    State.Generations { state.setOpener index opener (.storing state.sockets.length) with
      sockets := state.sockets ++ [⟨state.starts, false, false, none, false⟩] } := by
  have hcoming : opener.coming = true := by rw [Opener.coming, hopening]
  rcases hsingle.of_coming hget hcoming with ⟨hrunning, -, -, hlate⟩
  have hbefore : ∀ socket, ¬state.Held socket := by
    intro socket hheld
    have hstage := hsingle.stage_of_held hget hcoming hheld
    rw [hopening] at hstage
    cases hstage
  have hended : ∀ socket < state.sockets.length, state.endings[socket]? = some true := by
    intro socket hlt
    rw [endings_getElem? (List.getElem?_eq_getElem hlt)]
    by_contra hopen
    rw [Option.some.injEq, Bool.not_eq_true] at hopen
    refine hbefore socket (hsingle.opened socket ?_)
    rw [endings_getElem? (List.getElem?_eq_getElem hlt), hopen]
  have hrefused : ∀ (socket life : Nat), state.closes[socket]? = some (some authenticationClose) →
      state.lives[socket]? = some life → life < state.starts := by
    intro socket life hclose hlife
    have hlt := (List.getElem?_eq_some_iff.mp hclose).1
    rw [closes, List.length_map] at hlt
    rcases h.ended socket (hended socket hlt) with ⟨handler, hmem, rfl⟩
    have hcode := (hrefusals.code handler hmem).mpr hclose
    have hearly : ¬handler.early = true := fun hearly => hbefore _ (hsingle.early handler hmem hearly)
    have hlate' := List.countP_eq_zero.mp hlate handler hmem
    have hstage : handler.stage = .reporting ∨ handler.stage = .done := by
      rw [Handler.early] at hearly
      rw [Handler.late] at hlate'
      cases hstage : handler.stage <;> simp_all
    rcases h.stopped handler hmem hstage hcode life hlife with hfalse | hless
    · rw [hrunning] at hfalse
      cases hfalse
    · exact hless
  let state' : State := { state.setOpener index opener (.storing state.sockets.length) with
    sockets := state.sockets ++ [⟨state.starts, false, false, none, false⟩] }
  have hendings : state'.endings = state.endings ++ [false] := List.map_append
  have hcloses : state'.closes = state.closes ++ [none] := List.map_append
  have hlives : state'.lives = state.lives ++ [state.starts] := List.map_append
  have hlength : state.endings.length = state.sockets.length := List.length_map ..
  refine ⟨?_, ?_, ?_, ?_, ?_⟩
  · intro socket hend
    rw [hendings] at hend
    rcases getElem?_concat_cases hend with hold | ⟨-, hnew⟩
    · exact h.ended socket hold
    · cases hnew
  · intro life hmem
    rw [hlives] at hmem
    rcases List.mem_append.mp hmem with hold | hnew
    · exact h.bounded life hold
    · exact Nat.le_of_eq (List.mem_singleton.mp hnew)
  · intro socket hopen
    rw [hendings] at hopen
    rw [hendings, List.length_append, List.length_singleton]
    rcases getElem?_concat_cases hopen with hold | ⟨hnew, -⟩
    · exact absurd (hsingle.opened socket hold) (hbefore socket)
    · rw [hnew]
  · intro handler hmem hstage hcode life hlife
    rw [hlives] at hlife
    rcases getElem?_concat_cases hlife with hold | ⟨hnew, -⟩
    · exact h.stopped handler hmem hstage hcode life hold
    · have hlt := (List.getElem?_eq_some_iff.mp (hsingle.handled handler hmem)).1
      rw [hnew, lives, List.length_map, hlength] at hlt
      exact absurd hlt (Nat.lt_irrefl _)
  · intro socket other life life' hlt hclose hlife hlife'
    rw [hcloses] at hclose
    rw [hlives] at hlife hlife'
    rcases getElem?_concat_cases hclose with hclose | ⟨-, hnone⟩
    · have hsocket := (List.getElem?_eq_some_iff.mp hclose).1
      rcases getElem?_concat_cases hlife with hlife | ⟨hnew, -⟩
      · rcases getElem?_concat_cases hlife' with hlife' | ⟨-, rfl⟩
        · exact h.later socket other life life' hlt hclose hlife hlife'
        · exact hrefused socket life hclose hlife
      · rw [hnew, closes, lives, List.length_map, List.length_map] at hsocket
        exact absurd hsocket (Nat.lt_irrefl _)
    · cases hnone

theorem Generations.stepOpener (h : state.Generations) (hsingle : state.Single)
    (hrefusals : state.Refusals) (hget : state.openers[index]? = some opener)
    (hstep : state.stepOpener index false opener = some state') : state'.Generations := by
  have hmoved : ∀ stage, (state.setOpener index opener stage).Generations :=
    fun _ => h.of_handlers rfl rfl rfl rfl rfl rfl
  rw [State.stepOpener] at hstep
  split at hstep
  · obtain rfl := Option.some.inj hstep
    exact hmoved _
  · obtain rfl := Option.some.inj hstep
    exact hmoved _
  · rename_i hstage
    obtain rfl := Option.some.inj hstep
    exact h.create hsingle hrefusals hget hstage
  · obtain rfl := Option.some.inj hstep
    exact (hmoved .finishing).of_handlers rfl rfl rfl rfl rfl rfl
  · obtain rfl := Option.some.inj hstep
    exact hmoved _
  · cases hstep

theorem Generations.stepHandler (h : state.Generations) (hsingle : state.Single)
    (hrefusals : state.Refusals) (hget : state.handlers[index]? = some handler)
    (hcompare : handler.stage = .comparing → ¬state.Storing handler.socket)
    (hschedule : handler.stage = .scheduling → state.reconnectActive = false)
    (hstep : state.stepHandler index false handler = some state') : state'.Generations := by
  rw [State.stepHandler] at hstep
  cases hstage : handler.stage with
  | comparing =>
      have hcurrent := hsingle.compare hget hstage (hcompare hstage)
      simp only [hstage, hcurrent, if_true, Option.some.injEq] at hstep
      subst hstep
      exact h.of_setHandler hget rfl rfl rfl rfl rfl (.inr rfl) (by simp)
  | clearing =>
      simp only [hstage, Option.some.injEq] at hstep
      subst hstep
      exact h.of_setHandler hget rfl rfl rfl rfl rfl (.inr rfl) (by simp)
  | informing =>
      simp only [hstage, Bool.false_eq_true, and_false, if_false, Option.some.injEq] at hstep
      subst hstep
      exact h.of_setHandler hget rfl rfl rfl rfl rfl (.inr rfl) (by simp)
  | deciding =>
      have hlate : handler.late = true := by rw [Handler.late, hstage]
      simp only [hstage, (hsingle.of_late hget hlate).1, Bool.true_eq_false, if_false] at hstep
      split at hstep
      · obtain rfl := Option.some.inj hstep
        exact h.of_setHandler hget rfl rfl rfl rfl rfl (.inl rfl) fun _ _ => .inl rfl
      · obtain rfl := Option.some.inj hstep
        exact h.of_setHandler hget rfl rfl rfl rfl rfl (.inr rfl) (by simp)
  | reporting =>
      simp only [hstage, Bool.false_eq_true, if_false, Option.some.injEq] at hstep
      subst hstep
      exact h.of_setHandler hget rfl rfl rfl rfl rfl (.inr rfl) fun _ _ => .inr hstage
  | scheduling =>
      have hlate : handler.late = true := by rw [Handler.late, hstage]
      simp only [hstage, (hsingle.of_late hget hlate).1, hschedule hstage, Bool.true_eq_false,
        Bool.false_eq_true, or_self, if_false, Option.some.injEq] at hstep
      subst hstep
      exact h.of_setHandler hget rfl rfl rfl rfl rfl (.inr rfl) (by simp)
  | launching =>
      simp only [hstage, Bool.false_eq_true, if_false, Option.some.injEq] at hstep
      subst hstep
      have hcode := hrefusals.reconnecting handler (List.mem_of_getElem? hget) (.inr hstage)
      exact h.of_setHandler hget rfl rfl rfl rfl rfl (.inr rfl)
        fun _ hrefused => absurd hrefused hcode
  | done =>
      simp only [hstage] at hstep
      cases hstep

/-- The client does something to a socket. -/
theorem Generations.changeSocket {socket : Nat} {change : Socket → Socket} (h : state.Generations)
    (hchange : state.changeSocket socket change = some state')
    (hended : ∀ current, (change current).ended = current.ended)
    (hclose : ∀ current, (change current).peerClose = current.peerClose)
    (hlife : ∀ current, (change current).life = current.life) : state'.Generations := by
  rcases changeSocket_eq_some.mp hchange with ⟨current, hget, rfl⟩
  exact h.of_handlers (map_set_same hget (hended current)) (map_set_same hget (hclose current))
    (map_set_same hget (hlife current)) rfl rfl rfl

/-- The peer closes a socket, which is the last one. -/
theorem Generations.peerCloses {socket code : Nat} (h : state.Generations)
    (hopen : state.endings[socket]? = some false)
    (hchange : state.changeSocket socket (fun current => { current with peerClose := some code }) =
      some state') : state'.Generations := by
  rcases changeSocket_eq_some.mp hchange with ⟨current, hget, rfl⟩
  have hendings : (state.sockets.set socket { current with peerClose := some code }).map
      Socket.ended = state.endings := map_set_same hget rfl
  have hlives : (state.sockets.set socket { current with peerClose := some code }).map
      Socket.life = state.lives := map_set_same hget rfl
  refine ⟨?_, ?_, ?_, ?_, ?_⟩
  · rw [endings, hendings]
    exact h.ended
  · rw [lives, hlives]
    exact h.bounded
  · rw [endings, hendings]
    exact h.last
  · rw [lives, hlives]
    exact h.stopped
  · intro earlier other life life' hlt hclose hlife hlife'
    rw [lives, hlives] at hlife hlife'
    by_cases hsame : earlier = socket
    · -- no socket was created after the one that is closed
      have hbound := (List.getElem?_eq_some_iff.mp hlife').1
      have hlast := h.last socket hopen
      rw [lives, List.length_map] at hbound
      rw [endings, List.length_map] at hlast
      omega
    · rw [closes, List.map_set, List.getElem?_set_ne (Ne.symm hsame)] at hclose
      exact h.later earlier other life life' hlt hclose hlife hlife'

theorem Generations.endSocket {socket : Nat} {current : Socket} (h : state.Generations)
    (hget : state.sockets[socket]? = some current) (hsocket : handler.socket = socket)
    (hcomparing : handler.stage = .comparing) :
    (state.endSocket socket current handler).Generations := by
  have hlt : socket < state.endings.length :=
    (List.getElem?_eq_some_iff.mp (endings_getElem? hget)).1
  have hendings : (state.endSocket socket current handler).endings =
      state.endings.set socket true := List.map_set
  have hcloses : (state.endSocket socket current handler).closes = state.closes :=
    map_set_same hget rfl
  have hlives : (state.endSocket socket current handler).lives = state.lives :=
    map_set_same hget rfl
  refine ⟨?_, ?_, ?_, ?_, ?_⟩
  · intro other hended
    by_cases hsame : other = socket
    · exact ⟨handler, List.mem_append_right _ (List.mem_singleton_self _), hsocket.trans hsame.symm⟩
    · rw [hendings, List.getElem?_set_ne (Ne.symm hsame)] at hended
      rcases h.ended other hended with ⟨old, hold, heq⟩
      exact ⟨old, List.mem_append_left _ hold, heq⟩
  · exact hlives ▸ h.bounded
  · intro other hopen
    rw [hendings, List.length_set]
    by_cases hsame : other = socket
    · rw [hendings, hsame, List.getElem?_set_self hlt] at hopen
      cases hopen
    · rw [hendings, List.getElem?_set_ne (Ne.symm hsame)] at hopen
      exact h.last other hopen
  · intro other hmem hstage
    rw [hlives]
    rcases List.mem_append.mp hmem with hold | hnew
    · exact h.stopped other hold hstage
    · rw [List.mem_singleton.mp hnew, hcomparing] at hstage
      rcases hstage with hstage | hstage <;> cases hstage
  · rw [hcloses, hlives]
    exact h.later

/-- A timely step. -/
theorem Generations.step {action : Action} (h : state.Generations) (hsingle : state.Single)
    (hrefusals : state.Refusals) (htimely : action.Timely state)
    (hstep : state.next action = some state') : state'.Generations := by
  cases action with
  | start =>
      rw [State.next] at hstep
      split at hstep
      · obtain rfl := Option.some.inj hstep
        exact h
      · obtain rfl := Option.some.inj hstep
        refine ⟨h.ended, fun life hmem => ?_, h.last, ?_, h.later⟩
        · exact Nat.le_succ_of_le (h.bounded life hmem)
        · intro handler _ _ _ life hlife
          exact .inr (Nat.lt_succ_of_le (h.bounded life (List.mem_of_getElem? hlife)))
  | opener index throws =>
      rcases Option.bind_eq_some_iff.mp hstep with ⟨opener, hget, hnext⟩
      obtain rfl : throws = false := htimely
      exact h.stepOpener hsingle hrefusals hget hnext
  | handler index throws =>
      rcases Option.bind_eq_some_iff.mp hstep with ⟨handler, hget, hnext⟩
      rcases htimely with ⟨rfl, hmoment⟩
      rcases hmoment handler hget with ⟨hcompare, hschedule⟩
      exact h.stepHandler hsingle hrefusals hget hcompare hschedule hnext
  | opened socket =>
      rw [State.next] at hstep
      split at hstep
      · obtain rfl := Option.some.inj hstep
        exact h
      · exact h.changeSocket hstep (fun _ => rfl) (fun _ => rfl) fun _ => rfl
  | welcome socket sameClient =>
      rw [State.next] at hstep
      split at hstep
      · obtain rfl := Option.some.inj hstep
        exact h.of_handlers rfl rfl rfl rfl rfl rfl
      · obtain rfl := Option.some.inj hstep
        exact h
  | closeMismatched =>
      rw [State.next] at hstep
      split at hstep
      · cases hstep
      · have hrest : State.Generations { state with mismatches := state.mismatches - 1 } :=
          h.of_handlers rfl rfl rfl rfl rfl rfl
        dsimp only at hstep
        split at hstep
        · obtain rfl := Option.some.inj hstep
          exact hrest
        · exact hrest.changeSocket hstep (fun _ => rfl) (fun _ => rfl) fun _ => rfl
  | overflow socket => exact h.changeSocket hstep (fun _ => rfl) (fun _ => rfl) fun _ => rfl
  | peerCloses socket code =>
      rcases Option.bind_eq_some_iff.mp hstep with ⟨current, hget, hnext⟩
      split at hnext
      · rename_i hguard
        exact h.peerCloses (by rw [endings_getElem? hget, hguard.1]) hnext
      · cases hnext
  | closed socket =>
      rcases next_closed hstep with ⟨current, hget, -, rfl⟩
      exact h.endSocket hget rfl rfl
  | fails socket response =>
      rcases next_fails hstep with ⟨current, hget, -, -, rfl⟩
      exact h.endSocket hget rfl rfl

/-! ## Closes are final -/

theorem refusalFinal (hsingle : state.Single) (hrefusals : state.Refusals)
    (hgenerations : state.Generations) : state.RefusalFinal := by
  have hended : ∀ socket current code, state.sockets[socket]? = some current →
      current.peerClose = some code → state.Quiescent →
        ∃ handler ∈ state.handlers, handler.socket = socket ∧ handler.stage = .done := by
    intro socket current code hget hclose hquiet
    have hend := hquiet.callbacks current (List.mem_of_getElem? hget) (.inr (by rw [hclose]; rfl))
    rcases hgenerations.ended socket (by rw [endings_getElem? hget, hend]) with ⟨handler, hmem, heq⟩
    exact ⟨handler, hmem, heq, hquiet.handlers handler hmem⟩
  have hcloses : ∀ (socket : Nat) (current : Socket), state.sockets[socket]? = some current →
      state.closes[socket]? = some current.peerClose := by
    intro socket current hget
    rw [closes, List.getElem?_map, hget, Option.map_some]
  have hlives : ∀ (socket : Nat) (current : Socket), state.sockets[socket]? = some current →
      state.lives[socket]? = some current.life := by
    intro socket current hget
    rw [lives, List.getElem?_map, hget, Option.map_some]
  refine ⟨?_, ?_, ?_⟩
  · intro socket current hget hclose hquiet
    rcases hended socket current _ hget hclose hquiet with ⟨handler, hmem, rfl, hdone⟩
    have hcode : handler.closeCode = some authenticationClose :=
      (hrefusals.code handler hmem).mpr (by rw [hcloses _ _ hget, hclose])
    refine ⟨hrefusals.reported handler hmem hdone hcode, fun hlife => ?_⟩
    have hstopped : state.running = false := by
      rcases hgenerations.stopped handler hmem (.inr hdone) hcode _ (hlives _ _ hget) with
        hfalse | hless
      · exact hfalse
      · omega
    refine ⟨hstopped, fun opener hopener => ?_⟩
    have hone := hsingle.one
    rw [hstopped, Bool.toNat_false] at hone
    have hcoming := List.countP_eq_zero.mp (show state.openers.countP Opener.coming = 0 by omega)
      opener hopener
    rcases hquiet.openers opener hopener with hdelaying | hcompleted
    · rw [Opener.coming, hdelaying] at hcoming
      exact absurd rfl hcoming
    · exact hcompleted
  · intro socket other current later hlt hget hclose hlater
    exact hgenerations.later socket other _ _ hlt (by rw [hcloses _ _ hget, hclose])
      (hlives _ _ hget) (hlives _ _ hlater)
  · intro socket current code hget hclose hother
    rw [hrefusals.counted socket]
    have hlimit : state.handlers.countP (fun handler => handler.socket == socket) ≤ 1 := by
      have hcount := List.nodup_iff_count_le_one.mp hsingle.distinct socket
      rwa [List.count, List.countP_map] at hcount
    have hle : state.handlers.countP (Handler.rescheduled socket) ≤
        state.handlers.countP (fun handler => handler.socket == socket) := by
      refine List.countP_mono_left fun handler _ hcounted => ?_
      simp only [Handler.rescheduled, Bool.and_eq_true] at hcounted
      exact hcounted.1.1
    refine ⟨by omega, fun hquiet => ?_⟩
    rcases hended socket current code hget hclose hquiet with ⟨handler, hmem, rfl, hdone⟩
    have hcode : handler.closeCode ≠ some authenticationClose := by
      intro hrefused
      have hsame := (hrefusals.code handler hmem).mp hrefused
      rw [hcloses _ _ hget, hclose, Option.some.injEq, Option.some.injEq] at hsame
      exact hother hsame
    have hpos : 0 < state.handlers.countP (Handler.rescheduled handler.socket) :=
      List.countP_pos_iff.mpr ⟨handler, hmem, by simp [Handler.rescheduled, hdone, hcode]⟩
    omega

end State

/-- Along every timely run in which no refused socket ends with a failure, refusals are final and
other closes lead to one reconnect. -/
theorem refusal_final {actions : List Action} {state : State}
    (hrun : machine.run idle actions = some state)
    (htimely : machine.Meets (fun state action => action.Timely state) idle actions)
    (hgraceful : machine.Meets (fun state action => action.Graceful state) idle actions) :
    state.RefusalFinal := by
  have hinvariant : state.Single ∧ state.Refusals ∧ state.Generations := by
    refine (htimely.and hgraceful).invariant (I := fun state =>
      state.Single ∧ state.Refusals ∧ state.Generations) ?_
      ⟨State.single_idle, State.refusals_idle, State.generations_idle⟩ hrun
    rintro before action after ⟨hsingle, hrefusals, hgenerations⟩ ⟨htimely, hgraceful⟩ hstep
    exact ⟨hsingle.step htimely hstep, hrefusals.step hsingle htimely hgraceful hstep,
      hgenerations.step hsingle hrefusals htimely hstep⟩
  exact State.refusalFinal hinvariant.1 hinvariant.2.1 hinvariant.2.2

/-- A heartbeat that does not fit closes the connection from the side of the client, and the
server refuses it. -/
def refusedRun : List Action :=
  [.start, .opener 0 false, .opener 0 false, .opener 0 false, .overflow 0,
    .peerCloses 0 authenticationClose, .closed 0, .handler 0 false, .handler 0 false,
    .handler 0 false, .handler 0 false, .handler 0 false]

/-- The device at its end. -/
def refused : State :=
  { idle with
    starts := 1, sockets := [⟨1, true, false, some authenticationClose, true⟩]
    openers := [⟨none, .completed⟩]
    handlers := [⟨0, some authenticationClose, false, .done⟩], reported := [0] }

theorem refusal_final_refused : refused.RefusalFinal :=
  refusal_final (show machine.run idle refusedRun = some refused by decide) (by decide) (by decide)

/-- A connection that the server refuses while the client has not closed its side. -/
def plainRefusal : List Action :=
  [.start, .opener 0 false, .opener 0 false, .opener 0 false, .peerCloses 0 authenticationClose,
    .fails 0 none, .handler 0 false, .handler 0 false, .handler 0 false, .handler 0 false,
    .handler 0 false, .handler 0 false]

/-- It is taken for a failure, and a reconnect is scheduled. -/
theorem reconnects_when_refused :
    ¬ ∀ (actions : List Action) (state : State), machine.run idle actions = some state →
      state.RefusalFinal := by
  intro h
  have hquiet : (machine.run idle plainRefusal).elim False State.Quiescent :=
    ⟨by decide, by decide, rfl, by decide⟩
  have hstops := (h plainRefusal _ rfl).stops 0 _ rfl rfl hquiet
  cases hstops.1

end KotlinDevice
end R2RPC
