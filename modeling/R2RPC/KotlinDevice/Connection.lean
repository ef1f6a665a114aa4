import R2RPC.Library.Machine

/-!
# The connection of the Kotlin device

{lit}`start`, {lit}`openConnection`, the listener and the reconnect coroutine of
{lit}`R2RpcDevice.kt`, one access to a shared field at a time, together with what OkHttp promises
about the end of a socket.

Main results:

- Definition {lit}`machine`: the threads and the sockets in every interleaving.
- Definition {lit}`Action.Timely`: the steps at which no thread looks at a field too early.
- Structure {lit}`Single`: there is one thing at a time that leads to a connection.
- Theorem {lit}`single_of_run`: it holds after every timely run.

Current gaps:

- {lit}`stop` and {lit}`close` are not called; accesses to fields are sequentially consistent.
-/

namespace R2RPC
namespace KotlinDevice

open Interleaving

/-! ## Sockets and threads -/

/-- A socket of OkHttp: in which life of the device it was created, whether the client has called
`close` or `cancel` on it, the code of the close frame of its peer, and whether its last
callback has been called. -/
structure Socket where
  life : Nat
  closedByClient : Bool
  cancelled : Bool
  peerClose : Option Nat
  ended : Bool
deriving DecidableEq, Repr

/-- Where a thread stands that opens a connection. -/
inductive OpenerStage where
  | delaying
  | checking
  | opening
  | storing (socket : Nat)
  | finishing
  | completed
deriving DecidableEq, Repr

/-- A call of `start`, or a reconnect coroutine and the socket whose end it was scheduled for. -/
structure Opener where
  cause : Option Nat
  stage : OpenerStage
deriving DecidableEq, Repr

/-- Where a thread stands in `handleDisconnection` or `scheduleReconnect`. -/
inductive HandlerStage where
  | comparing
  | clearing
  | informing
  | deciding
  | reporting
  | scheduling
  | launching
  | done
deriving DecidableEq, Repr

/-- A call of `onClosed` or `onFailure`; only the second has a `failure`. -/
structure Handler where
  socket : Nat
  closeCode : Option Nat
  failed : Bool
  stage : HandlerStage
deriving DecidableEq, Repr

/-- The fields of the device, its sockets and threads, how often it was started, how many
listeners are about to close the current socket, and the sockets whose end was reported as an
{lit}`R2RpcAuthenticationException`. -/
structure State where
  running : Bool
  webSocket : Option Nat
  reconnectJob : Option Nat
  starts : Nat
  sockets : List Socket
  openers : List Opener
  handlers : List Handler
  mismatches : Nat
  reported : List Nat
deriving DecidableEq, Repr

/-- A device as its constructor leaves it. -/
def idle : State := ⟨false, none, none, 0, [], [], [], 0, []⟩

/-- The code of an authentication close. -/
def authenticationClose : Nat := 4001

/-! ## Steps -/

namespace State

variable (state : State)

/-- A thread that opens a connection moves on. -/
def setOpener (index : Nat) (opener : Opener) (stage : OpenerStage) : State :=
  { state with openers := state.openers.set index { opener with stage := stage } }

/-- A thread that handles a disconnection moves on. -/
def setHandler (index : Nat) (handler : Handler) (stage : HandlerStage) : State :=
  { state with handlers := state.handlers.set index { handler with stage := stage } }

/-- Something happens to a socket. -/
def changeSocket (socket : Nat) (change : Socket → Socket) : Option State :=
  state.sockets[socket]?.map fun current =>
    { state with sockets := state.sockets.set socket (change current) }

/-- `reconnectJob?.isActive == true`. -/
def reconnectActive : Bool :=
  match state.reconnectJob.bind fun index => state.openers[index]? with
  | none => false
  | some opener => opener.stage ≠ .completed

/-- The next step of `openConnection`, and of the coroutine around it. The callback that is told
the state, and building the request, may throw. -/
def stepOpener (index : Nat) (throws : Bool) (opener : Opener) : Option State :=
  match opener.stage with
  | .delaying => some (state.setOpener index opener .checking)
  | .checking =>
      some (state.setOpener index opener (if state.running then .opening else .completed))
  | .opening =>
      if throws then some (state.setOpener index opener .completed)
      else
        some { state.setOpener index opener (.storing state.sockets.length) with
          sockets := state.sockets ++ [⟨state.starts, false, false, none, false⟩] }
  | .storing socket =>
      some { state.setOpener index opener .finishing with webSocket := some socket }
  | .finishing => some (state.setOpener index opener .completed)
  | .completed => none

/-- The next step of `handleDisconnection` or `scheduleReconnect`. A callback of the application
may throw: the one that is told the failure, or the one that is told the state. -/
def stepHandler (index : Nat) (throws : Bool) (handler : Handler) : Option State :=
  match handler.stage with
  | .comparing =>
      some (state.setHandler index handler
        (if state.webSocket = some handler.socket then .clearing else .done))
  | .clearing => some { state.setHandler index handler .informing with webSocket := none }
  | .informing =>
      some (state.setHandler index handler
        (if handler.failed = true ∧ throws = true then .done else .deciding))
  | .deciding =>
      if state.running = false then some (state.setHandler index handler .done)
      else if handler.closeCode = some authenticationClose then
        some { state.setHandler index handler .reporting with running := false }
      else some (state.setHandler index handler .scheduling)
  | .reporting =>
      if throws then some (state.setHandler index handler .done)
      else
        some { state.setHandler index handler .done with
          reported := handler.socket :: state.reported }
  | .scheduling =>
      some (state.setHandler index handler
        (if state.running = false ∨ state.reconnectActive = true then .done else .launching))
  | .launching =>
      if throws then some (state.setHandler index handler .done)
      else
        some { state.setHandler index handler .done with
          openers := state.openers ++ [⟨some handler.socket, .delaying⟩]
          reconnectJob := some state.openers.length }
  | .done => none

end State

/-- What happens next. -/
inductive Action where
  | start
  | opener (index : Nat) (throws : Bool)
  | handler (index : Nat) (throws : Bool)
  | opened (socket : Nat)
  | welcome (socket : Nat) (sameClient : Bool)
  | closeMismatched
  | overflow (socket : Nat)
  | peerCloses (socket code : Nat)
  | closed (socket : Nat)
  | fails (socket : Nat) (response : Option Nat)
deriving DecidableEq, Repr

/-- One step, if it is enabled. A close frame of the peer leads to `onClosed` if the client has
called `close`, and to `onFailure` without a response if it has not; the response of a refused
handshake has a status of three digits. -/
def State.next (state : State) : Action → Option State
  | .start =>
      if state.running then some state
      else
        some { state with
          running := true
          starts := state.starts + 1
          openers := state.openers ++ [⟨none, .opening⟩] }
  | .opener index throws => state.openers[index]?.bind (state.stepOpener index throws)
  | .handler index throws => state.handlers[index]?.bind (state.stepHandler index throws)
  | .opened socket =>
      if state.webSocket = some socket then some state
      else state.changeSocket socket fun current => { current with cancelled := true }
  | .welcome socket sameClient =>
      if state.webSocket = some socket ∧ sameClient = false then
        some { state with mismatches := state.mismatches + 1 }
      else some state
  | .closeMismatched =>
      if state.mismatches = 0 then none
      else
        let state := { state with mismatches := state.mismatches - 1 }
        match state.webSocket with
        | none => some state
        | some socket =>
            state.changeSocket socket fun current => { current with closedByClient := true }
  | .overflow socket =>
      state.changeSocket socket fun current => { current with closedByClient := true }
  | .peerCloses socket code =>
      state.sockets[socket]?.bind fun current =>
        if current.ended = false ∧ current.peerClose = none then
          state.changeSocket socket fun current => { current with peerClose := some code }
        else none
  | .closed socket =>
      state.sockets[socket]?.bind fun current =>
        if current.ended = false ∧ current.peerClose.isSome ∧ current.closedByClient then
          (state.changeSocket socket fun current => { current with ended := true }).map fun state =>
            { state with
              handlers := state.handlers ++ [⟨socket, current.peerClose, false, .comparing⟩] }
        else none
  | .fails socket response =>
      state.sockets[socket]?.bind fun current =>
        if current.ended = false ∧ ¬(current.peerClose.isSome ∧ current.closedByClient) ∧
            (∀ status ∈ response, status < 1000 ∧ current.peerClose = none) then
          (state.changeSocket socket fun current => { current with ended := true }).map fun state =>
            { state with handlers := state.handlers ++ [⟨socket, response, true, .comparing⟩] }
        else none

/-- The device on its threads. -/
def machine : Machine State Action where
  initial := fun state => state = idle
  step := State.next

/-! ## Timely steps -/

/-- A socket is created but not stored yet. -/
def State.Storing (state : State) (socket : Nat) : Prop :=
  ∃ opener ∈ state.openers, opener.stage = .storing socket

instance (state : State) (socket : Nat) : Decidable (state.Storing socket) :=
  inferInstanceAs (Decidable (∃ _ ∈ _, _))

/-- Nothing throws, no disconnection compares its socket with the field before it is stored
there, and none looks at the reconnect job while it is still active. -/
def Action.Timely (state : State) : Action → Prop
  | .opener _ throws => throws = false
  | .handler index throws =>
      throws = false ∧ ∀ handler ∈ state.handlers[index]?,
        (handler.stage = .comparing → ¬state.Storing handler.socket) ∧
          (handler.stage = .scheduling → state.reconnectActive = false)
  | _ => True

instance (state : State) : (action : Action) → Decidable (action.Timely state)
  | .opener _ _ => inferInstanceAs (Decidable (_ = false))
  | .handler _ _ => inferInstanceAs (Decidable (_ ∧ ∀ _ ∈ _, _))
  | .start | .opened _ | .welcome _ _ | .closeMismatched | .overflow _ | .peerCloses _ _
  | .closed _ | .fails _ _ => isTrue trivial

/-- Nothing is going on but delays: no thread is in the middle of its steps, and no callback is
due. -/
structure State.Quiescent (state : State) : Prop where
  openers : ∀ opener ∈ state.openers, opener.stage = .delaying ∨ opener.stage = .completed
  handlers : ∀ handler ∈ state.handlers, handler.stage = .done
  mismatches : state.mismatches = 0
  callbacks : ∀ socket ∈ state.sockets,
    socket.cancelled = true ∨ socket.peerClose.isSome = true → socket.ended = true

/-! ## One thing that leads to a connection -/

/-- A thread that will store a socket. -/
def Opener.coming (opener : Opener) : Bool :=
  match opener.stage with
  | .delaying | .checking | .opening | .storing _ => true
  | .finishing | .completed => false

/-- A disconnection that has not taken the socket off its field. -/
def Handler.early (handler : Handler) : Bool :=
  match handler.stage with
  | .comparing | .clearing => true
  | _ => false

/-- A disconnection that has, and that may still lead to a reconnect. -/
def Handler.late (handler : Handler) : Bool :=
  match handler.stage with
  | .informing | .deciding | .scheduling | .launching => true
  | _ => false

namespace State

/-- A socket is stored, or about to be. -/
def Held (state : State) (socket : Nat) : Prop :=
  state.webSocket = some socket ∨ state.Storing socket

/-- Which sockets have ended. -/
def endings (state : State) : List Bool := state.sockets.map Socket.ended

/-- A running device has one thing that leads to a connection: a thread that opens one, a
socket, or a disconnection that is being handled. -/
structure Single (state : State) : Prop where
  one : state.openers.countP Opener.coming + state.webSocket.toList.length +
    state.handlers.countP Handler.late = state.running.toNat
  distinct : (state.handlers.map Handler.socket).Nodup
  handled : ∀ handler ∈ state.handlers, state.endings[handler.socket]? = some true
  clearing : ∀ handler ∈ state.handlers, handler.stage = .clearing →
    state.webSocket = some handler.socket
  held : ∀ socket, state.Held socket → socket < state.endings.length ∧
    (state.endings[socket]? = some true →
      ∃ handler ∈ state.handlers, handler.socket = socket ∧ handler.early = true)
  opened : ∀ socket, state.endings[socket]? = some false → state.Held socket
  early : ∀ handler ∈ state.handlers, handler.early = true → state.Held handler.socket

variable {state : State} {index : Nat} {opener : Opener} {handler : Handler}

theorem single_idle : idle.Single := by
  refine ⟨rfl, List.nodup_nil, ?_, ?_, ?_, ?_, ?_⟩
  · exact fun handler hmem => absurd hmem List.not_mem_nil
  · exact fun handler hmem => absurd hmem List.not_mem_nil
  · rintro socket (hsocket | ⟨opener, hmem, -⟩)
    · cases hsocket
    · exact absurd hmem List.not_mem_nil
  · intro socket hsocket
    cases hsocket
  · exact fun handler hmem => absurd hmem List.not_mem_nil

/-! ### Threads that open a connection -/

theorem storing_of_set {state' : State} {stage : OpenerStage} {socket : Nat}
    (hopeners : state'.openers = state.openers.set index { opener with stage := stage })
    (h : state'.Storing socket) : stage = .storing socket ∨ state.Storing socket := by
  rcases h with ⟨other, hmem, hstage⟩
  rw [hopeners] at hmem
  rcases List.mem_or_eq_of_mem_set hmem with hold | rfl
  · exact .inr ⟨other, hold, hstage⟩
  · exact .inl hstage

/-- While a thread opens a connection, the device runs, and there is no socket and no
disconnection on the way to a reconnect. -/
theorem Single.of_coming (h : state.Single) (hget : state.openers[index]? = some opener)
    (hcoming : opener.coming = true) :
    state.running = true ∧ state.webSocket = none ∧
      state.openers.countP Opener.coming = 1 ∧ state.handlers.countP Handler.late = 0 := by
  have hpos : 0 < state.openers.countP Opener.coming :=
    List.countP_pos_iff.mpr ⟨opener, List.mem_of_getElem? hget, hcoming⟩
  have hone := h.one
  cases hrunning : state.running with
  | false =>
      rw [hrunning, Bool.toNat_false] at hone
      omega
  | true =>
      rw [hrunning, Bool.toNat_true] at hone
      refine ⟨rfl, ?_, by omega, by omega⟩
      rw [← Option.toList_eq_nil_iff, ← List.length_eq_zero_iff]
      omega

/-- The socket such a thread is about to store is the only one there is. -/
theorem Single.stage_of_held {socket : Nat} (h : state.Single)
    (hget : state.openers[index]? = some opener) (hcoming : opener.coming = true)
    (hheld : state.Held socket) : opener.stage = .storing socket := by
  rcases h.of_coming hget hcoming with ⟨-, hnone, hone, -⟩
  rcases hheld with hsocket | ⟨other, hmem, hstage⟩
  · rw [hnone] at hsocket
    cases hsocket
  · rcases List.mem_iff_getElem?.mp hmem with ⟨index', hget'⟩
    have hcoming' : other.coming = true := by rw [Opener.coming, hstage]
    obtain rfl := index_unique_of_countP (Nat.le_of_eq hone) hget hget' hcoming hcoming'
    rw [hget, Option.some.injEq] at hget'
    rw [hget', hstage]

/-- A thread that moves on without a socket. -/
theorem Single.setOpener {stage : OpenerStage} (h : state.Single)
    (hget : state.openers[index]? = some opener) (hcoming : opener.coming = true)
    (hold : ∀ socket, opener.stage ≠ .storing socket)
    (hcoming' : ({ opener with stage := stage } : Opener).coming = true)
    (hnew : ∀ socket, stage ≠ .storing socket) :
    (state.setOpener index opener stage).Single := by
  have hbefore : ∀ socket, ¬state.Held socket :=
    fun socket hheld => hold socket (h.stage_of_held hget hcoming hheld)
  have hafter : ∀ socket, ¬(state.setOpener index opener stage).Held socket := by
    rintro socket (hsocket | hstoring)
    · exact hbefore socket (.inl hsocket)
    · rcases storing_of_set rfl hstoring with hstage | hstoring
      · exact hnew socket hstage
      · exact hbefore socket (.inr hstoring)
  have hcount := countP_set_add (p := Opener.coming) (y := { opener with stage := stage }) hget
  rw [hcoming, hcoming'] at hcount
  refine ⟨?_, h.distinct, h.handled, h.clearing, ?_, ?_, ?_⟩
  · have hone := h.one
    simp only [if_true] at hcount
    simp only [State.setOpener]
    omega
  · exact fun socket hheld => absurd hheld (hafter socket)
  · exact fun socket hopen => absurd (h.opened socket hopen) (hbefore socket)
  · exact fun handler hmem hearly => absurd (h.early handler hmem hearly) (hbefore _)

/-- A socket is created. -/
theorem Single.create (h : state.Single) (hget : state.openers[index]? = some opener)
    (hopening : opener.stage = .opening) (socket : Socket) (hended : socket.ended = false) :
    State.Single { state.setOpener index opener (.storing state.sockets.length) with
      sockets := state.sockets ++ [socket] } := by
  have hcoming : opener.coming = true := by rw [Opener.coming, hopening]
  have hbefore : ∀ other, ¬state.Held other := by
    intro other hheld
    have hstage := h.stage_of_held hget hcoming hheld
    rw [hopening] at hstage
    cases hstage
  have hlength : state.endings.length = state.sockets.length := by simp [endings]
  have hendings : State.endings { state.setOpener index opener (.storing state.sockets.length) with
      sockets := state.sockets ++ [socket] } = state.endings ++ [false] := by
    simp [endings, hended]
  have hcount := countP_set_add (p := Opener.coming)
    (y := { opener with stage := .storing state.sockets.length }) hget
  rw [hcoming] at hcount
  simp only [Opener.coming, if_true] at hcount
  refine ⟨?_, h.distinct, ?_, h.clearing, ?_, ?_, ?_⟩
  · have hone := h.one
    simp only [State.setOpener]
    omega
  · intro handler hmem
    have hhandled := h.handled handler hmem
    rw [hendings, List.getElem?_append_left (List.getElem?_eq_some_iff.mp hhandled).1]
    exact hhandled
  · intro other hheld
    have hsame : other = state.sockets.length := by
      rcases hheld with hsocket | hstoring
      · exact absurd (.inl hsocket) (hbefore other)
      · rcases storing_of_set rfl hstoring with hstage | hstoring
        · exact (OpenerStage.storing.inj hstage).symm
        · exact absurd (.inr hstoring) (hbefore other)
    subst hsame
    rw [hendings, ← hlength]
    simp
  · intro other hopen
    rw [hendings] at hopen
    rcases List.getElem?_eq_some_iff.mp hopen with ⟨hlt, -⟩
    rw [List.length_append, List.length_singleton, hlength] at hlt
    by_cases hnew : other = state.sockets.length
    · subst hnew
      refine .inr ⟨_, List.mem_set (List.getElem?_eq_some_iff.mp hget).1 _, rfl⟩
    · rw [List.getElem?_append_left (by omega)] at hopen
      exact absurd (h.opened other hopen) (hbefore other)
  · exact fun handler hmem hearly => absurd (h.early handler hmem hearly) (hbefore _)

/-- The socket is stored. -/
theorem Single.store {socket : Nat} (h : state.Single)
    (hget : state.openers[index]? = some opener) (hstoring : opener.stage = .storing socket) :
    State.Single { state.setOpener index opener .finishing with webSocket := some socket } := by
  have hcoming : opener.coming = true := by rw [Opener.coming, hstoring]
  rcases h.of_coming hget hcoming with ⟨hrunning, hnone, hone, hlate⟩
  have hbefore : ∀ other, state.Held other → other = socket := by
    intro other hheld
    have hstage := h.stage_of_held hget hcoming hheld
    rw [hstoring] at hstage
    exact (OpenerStage.storing.inj hstage).symm
  have hsocket : state.Held socket := .inr ⟨opener, List.mem_of_getElem? hget, hstoring⟩
  have hcount := countP_set_add (p := Opener.coming) (y := { opener with stage := .finishing }) hget
  rw [hcoming] at hcount
  simp only [Opener.coming, if_true, Bool.false_eq_true, if_false] at hcount
  refine ⟨?_, h.distinct, h.handled, ?_, ?_, ?_, ?_⟩
  · simp only [State.setOpener, Option.toList_some, List.length_singleton, hrunning,
      Bool.toNat_true]
    omega
  · intro handler hmem hclearing
    have hcurrent := h.clearing handler hmem hclearing
    rw [hnone] at hcurrent
    cases hcurrent
  · intro other hheld
    have hsame : other = socket := by
      rcases hheld with hcurrent | hother
      · exact (Option.some.inj hcurrent).symm
      · rcases storing_of_set rfl hother with hstage | hold
        · cases hstage
        · exact hbefore other (.inr hold)
    rw [hsame]
    exact h.held socket hsocket
  · intro other hopen
    rw [hbefore other (h.opened other hopen)]
    exact .inl rfl
  · intro handler hmem hearly
    rw [hbefore _ (h.early handler hmem hearly)]
    exact .inl rfl

/-- A step that holds and ends no socket, and that leaves the disconnections alone which have
not taken a socket off its field. -/
theorem Single.of_held {state' : State} (h : state.Single)
    (hone : state'.openers.countP Opener.coming + state'.webSocket.toList.length +
      state'.handlers.countP Handler.late = state'.running.toNat)
    (hheld : ∀ socket, state'.Held socket ↔ state.Held socket)
    (hsocket : state'.webSocket = state.webSocket) (hendings : state'.endings = state.endings)
    (hkeys : state'.handlers.map Handler.socket = state.handlers.map Handler.socket)
    (hearly : ∀ handler, handler.early = true →
      (handler ∈ state'.handlers ↔ handler ∈ state.handlers)) : state'.Single := by
  refine ⟨hone, hkeys ▸ h.distinct, ?_, ?_, ?_, ?_, ?_⟩
  · intro handler hmem
    have hkey : handler.socket ∈ state.handlers.map Handler.socket :=
      hkeys ▸ List.mem_map_of_mem hmem
    rcases List.mem_map.mp hkey with ⟨old, hold, heq⟩
    rw [hendings, ← heq]
    exact h.handled old hold
  · intro handler hmem hclearing
    rw [hsocket]
    exact h.clearing handler ((hearly handler (by rw [Handler.early, hclearing])).mp hmem) hclearing
  · intro socket hsocket'
    rcases h.held socket ((hheld socket).mp hsocket') with ⟨hlt, hended⟩
    rw [hendings]
    refine ⟨hlt, fun hend => ?_⟩
    rcases hended hend with ⟨handler, hmem, heq, hhandler⟩
    exact ⟨handler, (hearly handler hhandler).mpr hmem, heq, hhandler⟩
  · intro socket hopen
    rw [hendings] at hopen
    exact (hheld socket).mpr (h.opened socket hopen)
  · exact fun handler hmem hhandler =>
      (hheld _).mpr (h.early handler ((hearly handler hhandler).mp hmem) hhandler)

/-- The thread is done. -/
theorem Single.finish (h : state.Single) (hget : state.openers[index]? = some opener)
    (hfinishing : opener.stage = .finishing) :
    (state.setOpener index opener .completed).Single := by
  have hcount := countP_set_add (p := Opener.coming) (y := { opener with stage := .completed }) hget
  simp only [Opener.coming, hfinishing, Bool.false_eq_true, if_false, Nat.add_zero] at hcount
  refine h.of_held ?_ (fun socket => ?_) rfl rfl rfl fun handler _ => Iff.rfl
  · rw [State.setOpener]
    exact hcount ▸ h.one
  · refine or_congr_right ⟨fun hstoring => ?_, ?_⟩
    · rcases storing_of_set rfl hstoring with hstage | hold
      · cases hstage
      · exact hold
    · rintro ⟨other, hmem, hstage⟩
      rcases mem_set_or_eq hget hmem with hset | rfl
      · exact ⟨other, hset, hstage⟩
      · rw [hfinishing] at hstage
        cases hstage

/-- One more thread that has no socket yet. -/
theorem held_addOpener {state' : State} (hstage : ∀ socket, opener.stage ≠ .storing socket)
    (hopeners : state'.openers = state.openers ++ [opener])
    (hsocket : state'.webSocket = state.webSocket) (socket : Nat) :
    state'.Held socket ↔ state.Held socket := by
  rw [Held, Held, Storing, Storing, hopeners, hsocket]
  simp [hstage]

theorem Single.start (h : state.Single) (hstopped : state.running = false) :
    State.Single { state with
      running := true
      starts := state.starts + 1
      openers := state.openers ++ [⟨none, .opening⟩] } := by
  have hone := h.one
  rw [hstopped, Bool.toNat_false] at hone
  have hstage : ∀ socket, (⟨none, .opening⟩ : Opener).stage ≠ .storing socket :=
    fun _ hstoring => OpenerStage.noConfusion hstoring
  refine h.of_held ?_ (held_addOpener hstage rfl rfl) rfl rfl rfl fun handler _ => Iff.rfl
  rw [List.countP_append, List.countP_singleton, Bool.toNat_true]
  simp only [Opener.coming, if_true]
  omega

/-! ### Threads that handle a disconnection -/

theorem sockets_setHandler {stage : HandlerStage} (hget : state.handlers[index]? = some handler) :
    ((state.setHandler index handler stage).handlers.map Handler.socket) =
      state.handlers.map Handler.socket := map_set_same hget rfl

theorem early_setHandler {stage : HandlerStage} (hget : state.handlers[index]? = some handler)
    (hold : handler.early = false) (hnew : Handler.early { handler with stage := stage } = false)
    (other : Handler) (hother : other.early = true) :
    other ∈ state.handlers.set index { handler with stage := stage } ↔ other ∈ state.handlers := by
  constructor
  · intro hmem
    rcases List.mem_or_eq_of_mem_set hmem with hmem | rfl
    · exact hmem
    · rw [hnew] at hother
      cases hother
  · intro hmem
    rcases mem_set_or_eq hget hmem with hmem | rfl
    · exact hmem
    · rw [hold] at hother
      cases hother

/-- A disconnection that has taken the socket off its field moves on. -/
theorem Single.setHandler {stage : HandlerStage} (h : state.Single)
    (hget : state.handlers[index]? = some handler) (hold : handler.early = false)
    (hnew : Handler.early { handler with stage := stage } = false)
    (hlate : handler.late = Handler.late { handler with stage := stage }) :
    (state.setHandler index handler stage).Single := by
  have hcount := countP_set_add (p := Handler.late) (y := { handler with stage := stage }) hget
  rw [← hlate] at hcount
  refine h.of_held ?_ (fun _ => Iff.rfl) rfl rfl (sockets_setHandler hget)
    (early_setHandler hget hold hnew)
  have hone := h.one
  simp only [State.setHandler]
  omega

/-- While a disconnection may lead to a reconnect, the device runs, and there is nothing else
on the way to a connection. -/
theorem Single.of_late (h : state.Single) (hget : state.handlers[index]? = some handler)
    (hlate : handler.late = true) :
    state.running = true ∧ state.webSocket = none ∧
      state.openers.countP Opener.coming = 0 ∧ state.handlers.countP Handler.late = 1 := by
  have hpos : 0 < state.handlers.countP Handler.late :=
    List.countP_pos_iff.mpr ⟨handler, List.mem_of_getElem? hget, hlate⟩
  have hone := h.one
  cases hrunning : state.running with
  | false =>
      rw [hrunning, Bool.toNat_false] at hone
      omega
  | true =>
      rw [hrunning, Bool.toNat_true] at hone
      refine ⟨rfl, ?_, by omega, by omega⟩
      rw [← Option.toList_eq_nil_iff, ← List.length_eq_zero_iff]
      omega

/-- An authentication close stops the device. -/
theorem Single.refuse (h : state.Single) (hget : state.handlers[index]? = some handler)
    (hdeciding : handler.stage = .deciding) :
    State.Single { state.setHandler index handler .reporting with running := false } := by
  have hlate : handler.late = true := by rw [Handler.late, hdeciding]
  have hold : handler.early = false := by rw [Handler.early, hdeciding]
  rcases h.of_late hget hlate with ⟨hrunning, hnone, hcoming, hone⟩
  have hcount := countP_set_add (p := Handler.late) (y := { handler with stage := .reporting }) hget
  rw [hlate] at hcount
  simp only [Handler.late, if_true, Bool.false_eq_true, if_false] at hcount
  refine h.of_held ?_ (fun _ => Iff.rfl) rfl rfl (sockets_setHandler hget)
    (early_setHandler hget hold rfl)
  simp only [State.setHandler, hnone, Option.toList_none, List.length_nil, Bool.toNat_false]
  omega

/-- The reconnect is scheduled. -/
theorem Single.launch (h : state.Single) (hget : state.handlers[index]? = some handler)
    (hlaunching : handler.stage = .launching) :
    State.Single { state.setHandler index handler .done with
      openers := state.openers ++ [⟨some handler.socket, .delaying⟩]
      reconnectJob := some state.openers.length } := by
  have hlate : handler.late = true := by rw [Handler.late, hlaunching]
  have hold : handler.early = false := by rw [Handler.early, hlaunching]
  have hcount := countP_set_add (p := Handler.late) (y := { handler with stage := .done }) hget
  rw [hlate] at hcount
  simp only [Handler.late, if_true, Bool.false_eq_true, if_false] at hcount
  have hstage : ∀ socket, (⟨some handler.socket, .delaying⟩ : Opener).stage ≠ .storing socket :=
    fun _ hstoring => OpenerStage.noConfusion hstoring
  refine h.of_held ?_ (held_addOpener hstage rfl rfl) rfl rfl (sockets_setHandler hget)
    (early_setHandler hget hold rfl)
  have hone := h.one
  rw [List.countP_append, List.countP_singleton]
  simp only [State.setHandler, Opener.coming, if_true]
  omega

/-- The socket of a disconnection is the one in the field. -/
theorem Single.compare (h : state.Single) (hget : state.handlers[index]? = some handler)
    (hcomparing : handler.stage = .comparing) (htimely : ¬state.Storing handler.socket) :
    state.webSocket = some handler.socket := by
  have hearly : handler.early = true := by rw [Handler.early, hcomparing]
  rcases h.early handler (List.mem_of_getElem? hget) hearly with hcurrent | hstoring
  · exact hcurrent
  · exact absurd hstoring htimely

/-- A disconnection is about to take the socket off its field. -/
theorem Single.matched (h : state.Single) (hget : state.handlers[index]? = some handler)
    (hcomparing : handler.stage = .comparing) (hcurrent : state.webSocket = some handler.socket) :
    (state.setHandler index handler .clearing).Single := by
  have hearly : handler.early = true := by rw [Handler.early, hcomparing]
  have hcount := countP_set_add (p := Handler.late) (y := { handler with stage := .clearing }) hget
  simp only [Handler.late, hcomparing, Bool.false_eq_true, if_false, Nat.add_zero] at hcount
  refine ⟨?_, ?_, ?_, ?_, ?_, h.opened, ?_⟩
  · rw [State.setHandler]
    exact hcount ▸ h.one
  · exact sockets_setHandler hget ▸ h.distinct
  · intro other hmem
    rcases List.mem_or_eq_of_mem_set hmem with hmem | rfl
    · exact h.handled other hmem
    · exact h.handled handler (List.mem_of_getElem? hget)
  · intro other hmem hclearing
    rcases List.mem_or_eq_of_mem_set hmem with hmem | rfl
    · exact h.clearing other hmem hclearing
    · exact hcurrent
  · intro socket hheld
    rcases h.held socket hheld with ⟨hlt, hended⟩
    refine ⟨hlt, fun hend => ?_⟩
    rcases hended hend with ⟨other, hmem, heq, hother⟩
    rcases mem_set_or_eq hget hmem with hmem | rfl
    · exact ⟨other, hmem, heq, hother⟩
    · exact ⟨_, List.mem_set (List.getElem?_eq_some_iff.mp hget).1 _, heq, rfl⟩
  · intro other hmem hother
    rcases List.mem_or_eq_of_mem_set hmem with hmem | rfl
    · exact h.early other hmem hother
    · exact .inl hcurrent

/-- It takes the socket off its field. -/
theorem Single.clear (h : state.Single) (hget : state.handlers[index]? = some handler)
    (hclearing : handler.stage = .clearing) :
    State.Single { state.setHandler index handler .informing with webSocket := none } := by
  have hcurrent := h.clearing handler (List.mem_of_getElem? hget) hclearing
  have hcount := countP_set_add (p := Handler.late) (y := { handler with stage := .informing }) hget
  simp only [Handler.late, hclearing, Bool.false_eq_true, if_false, if_true, Nat.add_zero] at hcount
  have hone := h.one
  have hlimit : state.running.toNat ≤ 1 := Bool.toNat_le _
  rw [hcurrent, Option.toList_some, List.length_singleton] at hone
  have hbefore : ∀ socket, state.Held socket → socket = handler.socket := by
    rintro socket (hsocket | ⟨opener, hmem, hstage⟩)
    · exact Option.some.inj (hsocket.symm.trans hcurrent)
    · have hpos : 0 < state.openers.countP Opener.coming :=
        List.countP_pos_iff.mpr ⟨opener, hmem, by rw [Opener.coming, hstage]⟩
      omega
  have hearly : ∀ other ∈ state.handlers.set index { handler with stage := .informing },
      other.early = false := by
    intro other hmem
    rcases mem_set_of_nodup h.distinct hget hmem with rfl | ⟨hold, hne⟩
    · rfl
    · by_contra hother
      rw [Bool.not_eq_false] at hother
      exact hne (hbefore _ (h.early other hold hother))
  refine ⟨?_, ?_, ?_, ?_, ?_, ?_, ?_⟩
  · simp only [State.setHandler, Option.toList_none, List.length_nil]
    omega
  · exact sockets_setHandler hget ▸ h.distinct
  · intro other hmem
    rcases List.mem_or_eq_of_mem_set hmem with hmem | rfl
    · exact h.handled other hmem
    · exact h.handled handler (List.mem_of_getElem? hget)
  · intro other hmem hother
    have hfalse := hearly other hmem
    rw [Handler.early, hother] at hfalse
    cases hfalse
  · rintro socket (hsocket | hstoring)
    · cases hsocket
    · have hstoring' : state.Storing socket := hstoring
      rcases hstoring' with ⟨opener, hmem, hstage⟩
      have hpos : 0 < state.openers.countP Opener.coming :=
        List.countP_pos_iff.mpr ⟨opener, hmem, by rw [Opener.coming, hstage]⟩
      omega
  · intro socket hopen
    have hsame := hbefore socket (h.opened socket hopen)
    have hended := h.handled handler (List.mem_of_getElem? hget)
    rw [← hsame] at hended
    exact absurd (hopen.symm.trans hended) (by simp)
  · intro other hmem hother
    rw [hearly other hmem] at hother
    cases hother

/-! ### Sockets -/

/-- A socket ends, and its last callback is called. -/
def endSocket (state : State) (socket : Nat) (current : Socket) (handler : Handler) : State :=
  { state with
    sockets := state.sockets.set socket { current with ended := true }
    handlers := state.handlers ++ [handler] }

theorem changeSocket_eq_some {state' : State} {socket : Nat} {change : Socket → Socket} :
    state.changeSocket socket change = some state' ↔
      ∃ current, state.sockets[socket]? = some current ∧
        state' = { state with sockets := state.sockets.set socket (change current) } := by
  rw [changeSocket, Option.map_eq_some_iff]
  exact exists_congr fun current => and_congr_right fun _ => eq_comm

/-- A close that was agreed on. -/
theorem next_closed {state' : State} {socket : Nat}
    (h : state.next (.closed socket) = some state') :
    ∃ current, state.sockets[socket]? = some current ∧ current.ended = false ∧
      state' = state.endSocket socket current ⟨socket, current.peerClose, false, .comparing⟩ := by
  rcases Option.bind_eq_some_iff.mp h with ⟨current, hget, hnext⟩
  split at hnext
  · rename_i hguard
    rcases Option.map_eq_some_iff.mp hnext with ⟨changed, hchange, rfl⟩
    rcases changeSocket_eq_some.mp hchange with ⟨other, hother, rfl⟩
    obtain rfl := Option.some.inj (hget.symm.trans hother)
    exact ⟨current, hget, hguard.1, rfl⟩
  · cases hnext

/-- Any other end. -/
theorem next_fails {state' : State} {socket : Nat} {response : Option Nat}
    (h : state.next (.fails socket response) = some state') :
    ∃ current, state.sockets[socket]? = some current ∧ current.ended = false ∧
      (∀ status ∈ response, status < 1000 ∧ current.peerClose = none) ∧
      state' = state.endSocket socket current ⟨socket, response, true, .comparing⟩ := by
  rcases Option.bind_eq_some_iff.mp h with ⟨current, hget, hnext⟩
  split at hnext
  · rename_i hguard
    rcases Option.map_eq_some_iff.mp hnext with ⟨changed, hchange, rfl⟩
    rcases changeSocket_eq_some.mp hchange with ⟨other, hother, rfl⟩
    obtain rfl := Option.some.inj (hget.symm.trans hother)
    exact ⟨current, hget, hguard.1, hguard.2.2, rfl⟩
  · cases hnext

/-- Something happens to a socket that does not end it. -/
theorem Single.changeSocket {state' : State} {socket : Nat} {change : Socket → Socket}
    (h : state.Single) (hchange : state.changeSocket socket change = some state')
    (hended : ∀ current, (change current).ended = current.ended) : state'.Single := by
  rcases changeSocket_eq_some.mp hchange with ⟨current, hget, rfl⟩
  exact h.of_held h.one (fun _ => Iff.rfl) rfl (map_set_same hget (hended current)) rfl
    fun handler _ => Iff.rfl

theorem endings_getElem? {socket : Nat} {current : Socket}
    (hget : state.sockets[socket]? = some current) :
    state.endings[socket]? = some current.ended := by
  rw [endings, List.getElem?_map, hget, Option.map_some]

/-- A socket ends. -/
theorem Single.endSocket {socket : Nat} {current : Socket} (h : state.Single)
    (hget : state.sockets[socket]? = some current) (hopen : current.ended = false)
    (hsocket : handler.socket = socket) (hcomparing : handler.stage = .comparing) :
    (state.endSocket socket current handler).Single := by
  have hlt : socket < state.endings.length :=
    (List.getElem?_eq_some_iff.mp (endings_getElem? hget)).1
  have hendings : (state.endSocket socket current handler).endings =
      state.endings.set socket true := List.map_set
  have hself : (state.endSocket socket current handler).endings[socket]? = some true := by
    rw [hendings, List.getElem?_set_self hlt]
  have hother : ∀ other, other ≠ socket →
      (state.endSocket socket current handler).endings[other]? = state.endings[other]? := by
    intro other hne
    rw [hendings, List.getElem?_set_ne (Ne.symm hne)]
  have hfresh : ∀ old ∈ state.handlers, old.socket ≠ socket := by
    rintro old hmem rfl
    have hended := h.handled old hmem
    rw [endings_getElem? hget, hopen] at hended
    cases hended
  have hheld : state.Held socket := h.opened socket (by rw [endings_getElem? hget, hopen])
  have hearly : handler.early = true := by rw [Handler.early, hcomparing]
  refine ⟨?_, ?_, ?_, ?_, ?_, ?_, ?_⟩
  · have hone := h.one
    rw [State.endSocket, List.countP_append, List.countP_singleton]
    simp only [Handler.late, hcomparing, Bool.false_eq_true, if_false, Nat.add_zero]
    exact hone
  · rw [State.endSocket, List.map_append, List.map_singleton, List.nodup_append]
    refine ⟨h.distinct, List.pairwise_singleton _ _, fun key hkey new hnew hsame => ?_⟩
    rcases List.mem_map.mp hkey with ⟨old, hold, rfl⟩
    exact hfresh old hold (hsame.trans ((List.mem_singleton.mp hnew).trans hsocket))
  · intro new hmem
    rcases List.mem_append.mp hmem with hold | hnew
    · rw [hother _ (hfresh new hold)]
      exact h.handled new hold
    · obtain rfl := List.mem_singleton.mp hnew
      rw [hsocket]
      exact hself
  · intro new hmem hclearing
    rcases List.mem_append.mp hmem with hold | hnew
    · exact h.clearing new hold hclearing
    · obtain rfl := List.mem_singleton.mp hnew
      rw [hcomparing] at hclearing
      cases hclearing
  · intro other hheld'
    rcases h.held other hheld' with ⟨hbound, hended⟩
    rw [hendings, List.length_set, ← hendings]
    refine ⟨hbound, fun hend => ?_⟩
    by_cases hsame : other = socket
    · exact ⟨handler, List.mem_append_right _ (List.mem_singleton_self _), hsocket.trans hsame.symm,
        hearly⟩
    · rw [hother other hsame] at hend
      rcases hended hend with ⟨old, hold, heq, hhandler⟩
      exact ⟨old, List.mem_append_left _ hold, heq, hhandler⟩
  · intro other hfalse
    by_cases hsame : other = socket
    · rw [hsame, hself] at hfalse
      cases hfalse
    · rw [hother other hsame] at hfalse
      exact h.opened other hfalse
  · intro new hmem hhandler
    rcases List.mem_append.mp hmem with hold | hnew
    · exact h.early new hold hhandler
    · obtain rfl := List.mem_singleton.mp hnew
      rw [hsocket]
      exact hheld

/-! ### Runs -/

theorem Single.stepOpener {state' : State} (h : state.Single)
    (hget : state.openers[index]? = some opener)
    (hstep : state.stepOpener index false opener = some state') : state'.Single := by
  rw [State.stepOpener] at hstep
  cases hstage : opener.stage with
  | delaying =>
      simp only [hstage, Option.some.injEq] at hstep
      subst hstep
      have hcoming : opener.coming = true := by rw [Opener.coming, hstage]
      exact h.setOpener hget hcoming (by simp [hstage]) rfl (by simp)
  | checking =>
      have hcoming : opener.coming = true := by rw [Opener.coming, hstage]
      simp only [hstage, (h.of_coming hget hcoming).1, if_true, Option.some.injEq] at hstep
      subst hstep
      exact h.setOpener hget hcoming (by simp [hstage]) rfl (by simp)
  | opening =>
      simp only [hstage, Bool.false_eq_true, if_false, Option.some.injEq] at hstep
      subst hstep
      exact h.create hget hstage _ rfl
  | storing socket =>
      simp only [hstage, Option.some.injEq] at hstep
      subst hstep
      exact h.store hget hstage
  | finishing =>
      simp only [hstage, Option.some.injEq] at hstep
      subst hstep
      exact h.finish hget hstage
  | completed =>
      simp only [hstage] at hstep
      cases hstep

theorem Single.stepHandler {state' : State} (h : state.Single)
    (hget : state.handlers[index]? = some handler)
    (hcompare : handler.stage = .comparing → ¬state.Storing handler.socket)
    (hschedule : handler.stage = .scheduling → state.reconnectActive = false)
    (hstep : state.stepHandler index false handler = some state') : state'.Single := by
  rw [State.stepHandler] at hstep
  cases hstage : handler.stage with
  | comparing =>
      have hcurrent := h.compare hget hstage (hcompare hstage)
      simp only [hstage, hcurrent, if_true, Option.some.injEq] at hstep
      subst hstep
      exact h.matched hget hstage hcurrent
  | clearing =>
      simp only [hstage, Option.some.injEq] at hstep
      subst hstep
      exact h.clear hget hstage
  | informing =>
      simp only [hstage, Bool.false_eq_true, and_false, if_false, Option.some.injEq] at hstep
      subst hstep
      exact h.setHandler hget (by rw [Handler.early, hstage]) rfl (by rw [Handler.late, hstage]; rfl)
  | deciding =>
      have hlate : handler.late = true := by rw [Handler.late, hstage]
      simp only [hstage, (h.of_late hget hlate).1, Bool.true_eq_false, if_false] at hstep
      split at hstep
      · obtain rfl := Option.some.inj hstep
        exact h.refuse hget hstage
      · obtain rfl := Option.some.inj hstep
        exact h.setHandler hget (by rw [Handler.early, hstage]) rfl hlate
  | reporting =>
      simp only [hstage, Bool.false_eq_true, if_false, Option.some.injEq] at hstep
      subst hstep
      have hmoved : (state.setHandler index handler .done).Single :=
        h.setHandler hget (by rw [Handler.early, hstage]) rfl (by rw [Handler.late, hstage]; rfl)
      exact hmoved.of_held hmoved.one (fun _ => Iff.rfl) rfl rfl rfl fun _ _ => Iff.rfl
  | scheduling =>
      have hlate : handler.late = true := by rw [Handler.late, hstage]
      simp only [hstage, (h.of_late hget hlate).1, hschedule hstage, Bool.true_eq_false,
        Bool.false_eq_true, or_self, if_false, Option.some.injEq] at hstep
      subst hstep
      exact h.setHandler hget (by rw [Handler.early, hstage]) rfl hlate
  | launching =>
      simp only [hstage, Bool.false_eq_true, if_false, Option.some.injEq] at hstep
      subst hstep
      exact h.launch hget hstage
  | done =>
      simp only [hstage] at hstep
      cases hstep

/-- A timely step keeps what there is of a connection. -/
theorem Single.step {state' : State} {action : Action} (h : state.Single)
    (htimely : action.Timely state) (hstep : state.next action = some state') : state'.Single := by
  cases action with
  | start =>
      rw [State.next] at hstep
      split at hstep
      · obtain rfl := Option.some.inj hstep
        exact h
      · rename_i hstopped
        obtain rfl := Option.some.inj hstep
        exact h.start (Bool.eq_false_iff.mpr hstopped)
  | opener index throws =>
      rcases Option.bind_eq_some_iff.mp hstep with ⟨opener, hget, hnext⟩
      obtain rfl : throws = false := htimely
      exact h.stepOpener hget hnext
  | handler index throws =>
      rcases Option.bind_eq_some_iff.mp hstep with ⟨handler, hget, hnext⟩
      rcases htimely with ⟨rfl, hmoment⟩
      rcases hmoment handler hget with ⟨hcompare, hschedule⟩
      exact h.stepHandler hget hcompare hschedule hnext
  | opened socket =>
      rw [State.next] at hstep
      split at hstep
      · obtain rfl := Option.some.inj hstep
        exact h
      · exact h.changeSocket hstep fun _ => rfl
  | welcome socket sameClient =>
      rw [State.next] at hstep
      split at hstep
      · obtain rfl := Option.some.inj hstep
        exact h.of_held h.one (fun _ => Iff.rfl) rfl rfl rfl fun _ _ => Iff.rfl
      · obtain rfl := Option.some.inj hstep
        exact h
  | closeMismatched =>
      rw [State.next] at hstep
      split at hstep
      · cases hstep
      · have hrest : State.Single { state with mismatches := state.mismatches - 1 } :=
          h.of_held h.one (fun _ => Iff.rfl) rfl rfl rfl fun _ _ => Iff.rfl
        dsimp only at hstep
        split at hstep
        · obtain rfl := Option.some.inj hstep
          exact hrest
        · exact hrest.changeSocket hstep fun _ => rfl
  | overflow socket => exact h.changeSocket hstep fun _ => rfl
  | peerCloses socket code =>
      rcases Option.bind_eq_some_iff.mp hstep with ⟨current, hget, hnext⟩
      split at hnext
      · exact h.changeSocket hnext fun _ => rfl
      · cases hnext
  | closed socket =>
      rcases next_closed hstep with ⟨current, hget, hopen, rfl⟩
      exact h.endSocket hget hopen rfl rfl
  | fails socket response =>
      rcases next_fails hstep with ⟨current, hget, hopen, -, rfl⟩
      exact h.endSocket hget hopen rfl rfl

end State

/-- A timely run keeps it. -/
theorem single_of_run {actions : List Action} {state : State}
    (htimely : machine.Meets (fun state action => action.Timely state) idle actions)
    (hrun : machine.run idle actions = some state) : state.Single :=
  htimely.invariant (fun h htimely hstep => h.step htimely hstep) State.single_idle hrun

end KotlinDevice
end R2RPC
