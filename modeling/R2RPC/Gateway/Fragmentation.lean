import Mathlib.Data.List.Basic

/-!
# Rejecting fragmented frames

{lit}`rejectFragmentedFrames` of {lit}`ws.gateway.ts` replaces {lit}`getInfo` of the receiver of
a connection. The receiver is not part of the repository: what it makes of a header and of the
rest of a frame is a parameter.

Main results:

- Definitions {lit}`rejectFragmentedFrames`, {lit}`write`: the wrapped receiver, fed in chunks.
- Theorem {lit}`writes_eq`: the division into chunks does not matter.
- Theorem {lit}`guard_exact`: the connection fails at the first accepted header without FIN, and
  nothing else changes.

Current gaps:

- A receiver that defers its events or inflates messages; the server sets neither up.
-/

namespace R2RPC
namespace Fragmentation

/-! ## The receiver -/

/-- The first two bytes of a frame. -/
structure Header where
  first : UInt8
  second : UInt8
deriving DecidableEq, Repr

/-- The FIN bit. -/
def Header.fin (header : Header) : Bool := header.first &&& 0x80 != 0

/-- The opcode. From 8 on it is that of a control frame. -/
def Header.opcode (header : Header) : UInt8 := header.first &&& 0x0f

/-- What `getInfo` makes of a header: it goes on to the next part of the frame, or reports an
error with a status code, possibly before it has set `_fin`. -/
inductive Info (σ : Type) where
  | proceeds (stage : σ)
  | rejects (code : Nat) (finSet : Bool)

/-- What the receiver makes of another part of a frame: the next part follows, the frame is
complete, it was a close frame, or an error is reported. -/
inductive Outcome (μ σ : Type) where
  | inside (stage : σ)
  | complete (memory : μ)
  | concludes
  | rejects (code : Nat)

/-- A receiver: what it remembers between frames, and the parts of a frame behind its header,
each of which waits for a number of bytes. -/
structure Ws (μ σ : Type) where
  header : μ → Header → Info σ
  need : σ → Nat
  handle : σ → List UInt8 → Outcome μ σ
  settles : ∀ stage next, need stage = 0 → handle stage [] = .inside next → 0 < need next

/-- Control frames must have FIN set. -/
def Ws.ControlFinal {μ σ : Type} (ws : Ws μ σ) : Prop :=
  ∀ memory header stage, ws.header memory header = .proceeds stage → header.fin = false →
    header.opcode < 8

/-- `_state`. -/
inductive Position (μ σ : Type) where
  | header (memory : μ)
  | inside (stage : σ)

/-- An error of the callback: that of the wrapper, or one of the receiver. -/
inductive Failure where
  | fragmented
  | protocol (code : Nat)
deriving DecidableEq, Repr

/-- The status code with which the connection fails. -/
def Failure.code : Failure → Nat
  | .fragmented => 1009
  | .protocol code => code

/-- The fields of the receiver, the errors it has called its callback with, and the headers that
it has gone past. `_bufferedBytes` is the length of the buffer. -/
structure Receiver (μ σ : Type) where
  buffer : List UInt8
  fin : Bool
  errored : Bool
  loop : Bool
  concluded : Bool
  position : Position μ σ
  errors : List Failure
  headers : List Header

variable {μ σ : Type}

/-- A receiver in front of its first frame; `_fin` may hold any value. -/
def Receiver.fresh (memory : μ) (fin : Bool) : Receiver μ σ :=
  ⟨[], fin, false, false, false, .header memory, [], []⟩

/-- The callback is called with a new error. -/
def Receiver.fail (receiver : Receiver μ σ) (failure : Failure) : Receiver μ σ :=
  { receiver with loop := false, errored := true, errors := receiver.errors ++ [failure] }

/-- The loop waits for more bytes. -/
def Receiver.wait (receiver : Receiver μ σ) : Receiver μ σ := { receiver with loop := false }

/-- Bytes are added to the buffer. -/
def Receiver.fill (receiver : Receiver μ σ) (chunk : List UInt8) : Receiver μ σ :=
  { receiver with buffer := receiver.buffer ++ chunk }

namespace Ws

variable (ws : Ws μ σ)

/-- `getInfo`. -/
def getInfo (memory : μ) (receiver : Receiver μ σ) : Receiver μ σ :=
  match receiver.buffer with
  | first :: second :: rest =>
      let header : Header := ⟨first, second⟩
      match ws.header memory header with
      | .proceeds stage =>
          { receiver with
            buffer := rest
            fin := header.fin
            position := .inside stage
            headers := receiver.headers ++ [header] }
      | .rejects code finSet =>
          { receiver with
            buffer := rest
            fin := if finSet then header.fin else receiver.fin }.fail (.protocol code)
  | _ => receiver.wait

/-- The other states of the loop. -/
def getRest (stage : σ) (receiver : Receiver μ σ) : Receiver μ σ :=
  if receiver.buffer.length < ws.need stage then receiver.wait
  else
    let read := { receiver with buffer := receiver.buffer.drop (ws.need stage) }
    match ws.handle stage (receiver.buffer.take (ws.need stage)) with
    | .inside next => { read with position := .inside next }
    | .complete memory => { read with position := .header memory }
    | .concludes => { read with loop := false, concluded := true }
    | .rejects code => read.fail (.protocol code)

end Ws

/-- `rejectFragmentedFrames`: the function that replaces `getInfo`. -/
def rejectFragmentedFrames (originalGetInfo : Receiver μ σ → Receiver μ σ)
    (receiver : Receiver μ σ) : Receiver μ σ :=
  let hadHeaderBytes := decide (2 ≤ receiver.buffer.length)
  let after := originalGetInfo receiver
  if hadHeaderBytes && !after.errored && after.fin == false then after.fail .fragmented
  else after

namespace Ws

variable (ws : Ws μ σ) (guarded : Bool)

/-- One round of the loop, with or without the wrapper. -/
def round (receiver : Receiver μ σ) : Receiver μ σ :=
  match receiver.position with
  | .header memory =>
      if guarded then rejectFragmentedFrames (ws.getInfo memory) receiver
      else ws.getInfo memory receiver
  | .inside stage => ws.getRest stage receiver

/-! ## Rounds -/

section Rounds

variable (ws : Ws μ σ) (guarded : Bool) (receiver : Receiver μ σ) {memory : μ} {stage : σ}

theorem short_or_header (buffer : List UInt8) :
    buffer.length < 2 ∨ ∃ first second rest, buffer = first :: second :: rest := by
  match buffer with
  | [] => exact .inl (by simp)
  | [_] => exact .inl (by simp)
  | first :: second :: rest => exact .inr ⟨first, second, rest, rfl⟩

theorem round_short (hposition : receiver.position = .header memory)
    (hshort : receiver.buffer.length < 2) :
    ws.round guarded receiver = receiver.wait := by
  have hinfo : ws.getInfo memory receiver = receiver.wait := by
    unfold getInfo
    split
    · rename_i first second rest hbuffer
      rw [hbuffer] at hshort
      simp only [List.length_cons] at hshort
      omega
    · rfl
  have hnot : ¬ 2 ≤ receiver.buffer.length := by omega
  unfold round rejectFragmentedFrames
  simp only [hposition, hinfo, hnot, decide_false, Bool.false_and, Bool.false_eq_true, if_false,
    ite_self]

theorem round_refused {first second : UInt8} {rest : List UInt8} {code : Nat} {finSet : Bool}
    (hposition : receiver.position = .header memory)
    (hbuffer : receiver.buffer = first :: second :: rest)
    (hheader : ws.header memory ⟨first, second⟩ = .rejects code finSet) :
    ws.round guarded receiver =
      { receiver with
        buffer := rest
        fin := if finSet then Header.fin ⟨first, second⟩ else receiver.fin }.fail
          (.protocol code) := by
  unfold round rejectFragmentedFrames getInfo
  simp [hposition, hbuffer, hheader, Receiver.fail]

/-- The receiver behind a header. -/
def past (receiver : Receiver μ σ) (header : Header) (stage : σ) (rest : List UInt8) :
    Receiver μ σ :=
  { receiver with
    buffer := rest
    fin := header.fin
    position := .inside stage
    headers := receiver.headers ++ [header] }

theorem round_proceeds {first second : UInt8} {rest : List UInt8}
    (hposition : receiver.position = .header memory)
    (hbuffer : receiver.buffer = first :: second :: rest)
    (hheader : ws.header memory ⟨first, second⟩ = .proceeds stage) :
    ws.round guarded receiver =
      if guarded && !receiver.errored && !Header.fin ⟨first, second⟩ then
        (past receiver ⟨first, second⟩ stage rest).fail .fragmented
      else past receiver ⟨first, second⟩ stage rest := by
  unfold round rejectFragmentedFrames getInfo
  cases guarded <;> cases hfin : Header.fin ⟨first, second⟩ <;>
    simp [hposition, hbuffer, hheader, past, hfin]

theorem round_inside (hposition : receiver.position = .inside stage) :
    ws.round guarded receiver = ws.getRest stage receiver := by
  unfold round
  rw [hposition]

end Rounds

/-- What the loop uses up. -/
def size (position : Position μ σ) (buffer : List UInt8) : Nat :=
  2 * buffer.length +
    match position with
    | .header _ => 0
    | .inside stage => if ws.need stage = 0 then 1 else 0

theorem size_proceeds (memory : μ) (stage : σ) (first second : UInt8) (rest : List UInt8) :
    ws.size (.inside stage) rest < ws.size (.header memory) (first :: second :: rest) := by
  simp only [size, List.length_cons]
  split <;> omega

theorem size_inside {stage next : σ} {buffer : List UInt8} (hlength : ws.need stage ≤ buffer.length)
    (h : ws.handle stage (buffer.take (ws.need stage)) = .inside next) :
    ws.size (.inside next) (buffer.drop (ws.need stage)) < ws.size (.inside stage) buffer := by
  simp only [size, List.length_drop]
  split_ifs with hnext hstage hstage
  · rw [hstage, List.take_zero] at h
    have hsettles := ws.settles stage next hstage h
    omega
  · omega
  · omega
  · omega

theorem size_complete (memory : μ) {stage : σ} {buffer : List UInt8}
    (hlength : ws.need stage ≤ buffer.length) :
    ws.size (.header memory) (buffer.drop (ws.need stage)) < ws.size (.inside stage) buffer := by
  simp only [size, List.length_drop]
  split <;> omega

/-- A round that does not stop the loop uses something up. -/
theorem size_round (receiver : Receiver μ σ) (h : (ws.round guarded receiver).loop = true) :
    ws.size (ws.round guarded receiver).position (ws.round guarded receiver).buffer <
      ws.size receiver.position receiver.buffer := by
  cases hposition : receiver.position with
  | header memory =>
      rcases short_or_header receiver.buffer with hshort | ⟨first, second, rest, hbuffer⟩
      · rw [ws.round_short guarded receiver hposition hshort] at h
        cases h
      · cases hheader : ws.header memory ⟨first, second⟩ with
        | rejects code finSet =>
            rw [ws.round_refused guarded receiver hposition hbuffer hheader] at h
            cases h
        | proceeds stage =>
            rw [ws.round_proceeds guarded receiver hposition hbuffer hheader] at h ⊢
            split at h
            · cases h
            · rw [if_neg ‹_›, hbuffer]
              exact ws.size_proceeds memory stage first second rest
  | inside stage =>
      rw [ws.round_inside guarded receiver hposition, getRest] at h ⊢
      split at h
      · cases h
      · rename_i hlength
        rw [if_neg hlength]
        rw [Nat.not_lt] at hlength
        simp only at h ⊢
        split at h
        · rename_i next hhandle
          exact ws.size_inside hlength hhandle
        · rename_i memory hhandle
          exact ws.size_complete memory hlength
        · cases h
        · cases h

/-- The loop of `startLoop`. -/
def rounds (receiver : Receiver μ σ) : Receiver μ σ :=
  if _ : (ws.round guarded receiver).loop = true then rounds (ws.round guarded receiver)
  else ws.round guarded receiver
termination_by ws.size receiver.position receiver.buffer
decreasing_by exact ws.size_round guarded receiver ‹_›

/-- The headers of the frames that the receiver goes past in a sequence of bytes. -/
def frames (position : Position μ σ) (bytes : List UInt8) : List Header :=
  match position with
  | .header memory =>
      match bytes with
      | first :: second :: rest =>
          match ws.header memory ⟨first, second⟩ with
          | .proceeds stage => ⟨first, second⟩ :: frames (.inside stage) rest
          | .rejects _ _ => []
      | _ => []
  | .inside stage =>
      if _hlength : ws.need stage ≤ bytes.length then
        match _hhandle : ws.handle stage (bytes.take (ws.need stage)) with
        | .inside next => frames (.inside next) (bytes.drop (ws.need stage))
        | .complete memory => frames (.header memory) (bytes.drop (ws.need stage))
        | .concludes => []
        | .rejects _ => []
      else []
termination_by ws.size position bytes
decreasing_by
  · exact ws.size_proceeds _ _ _ _ _
  · exact ws.size_inside _hlength _hhandle
  · exact ws.size_complete _ _hlength

theorem frames_rest {stage : σ} {bytes : List UInt8} (hlength : ws.need stage ≤ bytes.length) :
    ws.frames (.inside stage) bytes =
      match ws.handle stage (bytes.take (ws.need stage)) with
      | .inside next => ws.frames (.inside next) (bytes.drop (ws.need stage))
      | .complete memory => ws.frames (.header memory) (bytes.drop (ws.need stage))
      | .concludes => []
      | .rejects _ => [] := by
  rw [frames, dif_pos hlength]
  split <;> rename_i hhandle <;> simp only [hhandle]

/-- `_write`: a chunk arrives. After an error or a close frame it is not read. -/
def write (receiver : Receiver μ σ) (chunk : List UInt8) : Receiver μ σ :=
  if receiver.errored || receiver.concluded then receiver.fill chunk
  else ws.rounds guarded { receiver.fill chunk with loop := true }

/-- Chunks arrive. -/
def writes (receiver : Receiver μ σ) (chunks : List (List UInt8)) : Receiver μ σ :=
  chunks.foldl (ws.write guarded) receiver

end Ws

/-! ## What a round does -/

section Steps

variable {ws : Ws μ σ} {guarded : Bool} {receiver : Receiver μ σ}

/-- What a round does to a receiver that has reported nothing: it stops the loop, with at most an
error of the receiver; it moves on inside a frame; or it goes past a header, where only the
wrapper looks at FIN. -/
inductive RoundResult (ws : Ws μ σ) (receiver : Receiver μ σ) : Prop where
  | stops (next : Receiver μ σ) (hround : ∀ guarded, ws.round guarded receiver = next)
      (hloop : next.loop = false) (hheaders : next.headers = receiver.headers)
      (hframes : ws.frames receiver.position receiver.buffer = [])
      (herrors : next.errors = receiver.errors ∨
        ∃ code, next.errors = receiver.errors ++ [.protocol code])
  | moves (next : Receiver μ σ) (hround : ∀ guarded, ws.round guarded receiver = next)
      (hloop : next.loop = true) (herrored : next.errored = false)
      (herrors : next.errors = receiver.errors) (hheaders : next.headers = receiver.headers)
      (hframes : ws.frames receiver.position receiver.buffer =
        ws.frames next.position next.buffer)
  | passes (header : Header) (next : Receiver μ σ)
      (hround : ∀ guarded, ws.round guarded receiver =
        if guarded && !header.fin then next.fail .fragmented else next)
      (hloop : next.loop = true) (herrored : next.errored = false)
      (herrors : next.errors = receiver.errors)
      (hheaders : next.headers = receiver.headers ++ [header])
      (hframes : ws.frames receiver.position receiver.buffer =
        header :: ws.frames next.position next.buffer)

theorem roundResult_header {memory : μ} (hposition : receiver.position = .header memory)
    (hloop : receiver.loop = true) (herrored : receiver.errored = false) :
    RoundResult ws receiver := by
  rcases Ws.short_or_header receiver.buffer with hshort | ⟨first, second, rest, hbuffer⟩
  · refine .stops _ (fun guarded => ws.round_short guarded receiver hposition hshort) rfl rfl ?_
      (.inl rfl)
    rw [hposition, Ws.frames]
    intro first second rest hbuffer
    rw [hbuffer, List.length_cons, List.length_cons] at hshort
    omega
  · cases hheader : ws.header memory ⟨first, second⟩ with
    | rejects code finSet =>
        refine .stops _
          (fun guarded => ws.round_refused guarded receiver hposition hbuffer hheader) rfl rfl ?_
          (.inr ⟨code, rfl⟩)
        rw [hposition, hbuffer, Ws.frames, hheader]
    | proceeds stage =>
        refine .passes ⟨first, second⟩ (Ws.past receiver ⟨first, second⟩ stage rest)
          (fun guarded => ?_) hloop herrored rfl rfl ?_
        · rw [ws.round_proceeds guarded receiver hposition hbuffer hheader, herrored,
            Bool.not_false, Bool.and_true]
        · rw [hposition, hbuffer, Ws.frames, hheader]
          rfl

theorem roundResult_inside {stage : σ} (hposition : receiver.position = .inside stage)
    (hloop : receiver.loop = true) (herrored : receiver.errored = false) :
    RoundResult ws receiver := by
  have hround : ∀ guarded, ws.round guarded receiver = ws.getRest stage receiver :=
    fun guarded => ws.round_inside guarded receiver hposition
  unfold Ws.getRest at hround
  by_cases hlength : receiver.buffer.length < ws.need stage
  · simp only [if_pos hlength] at hround
    refine .stops _ hround rfl rfl ?_ (.inl rfl)
    rw [hposition, Ws.frames, dif_neg (Nat.not_le.mpr hlength)]
  · simp only [if_neg hlength] at hround
    have hframes := ws.frames_rest (Nat.not_lt.mp hlength)
    rw [← hposition] at hframes
    cases hhandle : ws.handle stage (receiver.buffer.take (ws.need stage)) with
    | inside next =>
        simp only [hhandle] at hround hframes
        exact .moves _ hround hloop herrored rfl rfl hframes
    | complete memory =>
        simp only [hhandle] at hround hframes
        exact .moves _ hround hloop herrored rfl rfl hframes
    | concludes =>
        simp only [hhandle] at hround hframes
        exact .stops _ hround rfl rfl hframes (.inl rfl)
    | rejects code =>
        simp only [hhandle] at hround hframes
        exact .stops _ hround rfl rfl hframes (.inr ⟨code, rfl⟩)

theorem roundResult (ws : Ws μ σ) (hloop : receiver.loop = true)
    (herrored : receiver.errored = false) :
    RoundResult ws receiver := by
  cases hposition : receiver.position with
  | header memory => exact roundResult_header hposition hloop herrored
  | inside stage => exact roundResult_inside hposition hloop herrored

theorem rounds_step {next : Receiver μ σ} (hround : ws.round guarded receiver = next)
    (hloop : next.loop = true) : ws.rounds guarded receiver = ws.rounds guarded next := by
  subst hround
  rw [Ws.rounds, dif_pos hloop]

theorem rounds_stop {next : Receiver μ σ} (hround : ws.round guarded receiver = next)
    (hloop : next.loop = false) : ws.rounds guarded receiver = next := by
  subst hround
  rw [Ws.rounds, dif_neg (by rw [hloop]; exact Bool.false_ne_true)]

theorem size_next {next : Receiver μ σ} (hround : ws.round guarded receiver = next)
    (hloop : next.loop = true) :
    ws.size next.position next.buffer < ws.size receiver.position receiver.buffer := by
  subst hround
  exact ws.size_round guarded receiver hloop

/-! ## The loop -/

/-- The wrapper does nothing to frames with FIN. -/
theorem rounds_guarded (receiver : Receiver μ σ) (hloop : receiver.loop = true)
    (herrored : receiver.errored = false)
    (hfin : ∀ header ∈ ws.frames receiver.position receiver.buffer, header.fin = true) :
    ws.rounds true receiver = ws.rounds false receiver := by
  rcases roundResult ws hloop herrored with
    ⟨next, hround, hstop, -, -, -⟩ | ⟨next, hround, hloop', herrored', -, -, hframes⟩ |
    ⟨header, next, hround, hloop', herrored', -, -, hframes⟩
  · rw [rounds_stop (hround true) hstop, rounds_stop (hround false) hstop]
  · have hsize := size_next (hround true) hloop'
    rw [rounds_step (hround true) hloop', rounds_step (hround false) hloop']
    exact rounds_guarded next hloop' herrored' (hframes ▸ hfin)
  · rw [hframes] at hfin
    have hheader := hfin header List.mem_cons_self
    have hsame : ∀ guarded, ws.round guarded receiver = next := fun guarded => by
      rw [hround, hheader, Bool.not_true, Bool.and_false, if_neg Bool.false_ne_true]
    have hsize := size_next (hsame true) hloop'
    rw [rounds_step (hsame true) hloop', rounds_step (hsame false) hloop']
    exact rounds_guarded next hloop' herrored' fun header hmem =>
      hfin header (List.mem_cons_of_mem _ hmem)
termination_by ws.size receiver.position receiver.buffer

/-- The first header without FIN is the last one that the wrapped receiver goes past. -/
theorem rounds_caught (receiver : Receiver μ σ) {before after : List Header} {header : Header}
    (hloop : receiver.loop = true) (herrored : receiver.errored = false)
    (hframes : ws.frames receiver.position receiver.buffer = before ++ header :: after)
    (hbefore : ∀ other ∈ before, other.fin = true) (hfin : header.fin = false) :
    (ws.rounds true receiver).errors = receiver.errors ++ [.fragmented] ∧
      (ws.rounds true receiver).headers = receiver.headers ++ before ++ [header] := by
  rcases roundResult ws hloop herrored with
    ⟨next, -, -, -, hnone, -⟩ |
    ⟨next, hround, hloop', herrored', herrors, hheaders, hnext⟩ |
    ⟨first, next, hround, hloop', herrored', herrors, hheaders, hnext⟩
  · rw [hnone] at hframes
    cases before <;> cases hframes
  · have hsize := size_next (hround true) hloop'
    rw [rounds_step (hround true) hloop', ← herrors, ← hheaders]
    exact rounds_caught next hloop' herrored' (hnext ▸ hframes) hbefore hfin
  · rw [hnext] at hframes
    cases before with
    | nil =>
        obtain ⟨rfl, -⟩ := List.cons_eq_cons.mp hframes
        have hfail : ws.round true receiver = next.fail .fragmented := by
          rw [hround, hfin, Bool.not_false, Bool.and_true, if_pos rfl]
        rw [rounds_stop hfail rfl, List.append_nil, ← herrors, ← hheaders]
        exact ⟨rfl, rfl⟩
    | cons other before =>
        obtain ⟨rfl, hrest⟩ := List.cons_eq_cons.mp hframes
        have hother := hbefore first List.mem_cons_self
        have hpass : ws.round true receiver = next := by
          rw [hround, hother, Bool.not_true, Bool.and_false, if_neg Bool.false_ne_true]
        have hsize := size_next hpass hloop'
        have hcaught := rounds_caught next hloop' herrored' hrest
          (fun other hmem => hbefore other (List.mem_cons_of_mem _ hmem)) hfin
        rw [rounds_step hpass hloop', ← herrors, hcaught.1, hcaught.2, hheaders]
        simp
termination_by ws.size receiver.position receiver.buffer

/-- At most one error is reported, and only the wrapper reports that of the wrapper. -/
theorem rounds_errors (ws : Ws μ σ) (guarded : Bool) (receiver : Receiver μ σ)
    (hloop : receiver.loop = true) (herrored : receiver.errored = false) :
    (ws.rounds guarded receiver).errors = receiver.errors ∨
      ∃ failure, (ws.rounds guarded receiver).errors = receiver.errors ++ [failure] ∧
        (failure = .fragmented → guarded = true) := by
  rcases roundResult ws hloop herrored with
    ⟨next, hround, hstop, -, -, herrors⟩ | ⟨next, hround, hloop', herrored', herrors, -, -⟩ |
    ⟨header, next, hround, hloop', herrored', herrors, -, -⟩
  · rw [rounds_stop (hround guarded) hstop]
    rcases herrors with hsame | ⟨code, hnew⟩
    · exact .inl hsame
    · exact .inr ⟨_, hnew, nofun⟩
  · have hsize := size_next (hround guarded) hloop'
    rw [rounds_step (hround guarded) hloop', ← herrors]
    exact rounds_errors ws guarded next hloop' herrored'
  · by_cases hfails : (guarded && !header.fin) = true
    · have hfail : ws.round guarded receiver = next.fail .fragmented := by
        rw [hround, if_pos hfails]
      rw [rounds_stop hfail rfl, ← herrors]
      exact .inr ⟨_, rfl, fun _ => (Bool.and_eq_true_iff.mp hfails).1⟩
    · have hpass : ws.round guarded receiver = next := by
        rw [hround, if_neg hfails]
      have hsize := size_next hpass hloop'
      rw [rounds_step hpass hloop', ← herrors]
      exact rounds_errors ws guarded next hloop' herrored'
termination_by ws.size receiver.position receiver.buffer

/-! ## Chunks -/

/-- What a round does if more bytes are behind the buffer: it had to wait for them, or it does
the same as without them, and where it stops it has reported an error or read a close frame. -/
inductive FillResult (ws : Ws μ σ) (guarded : Bool) (receiver : Receiver μ σ) : Prop where
  | waits (hround : ws.round guarded receiver = receiver.wait)
  | continues (next : Receiver μ σ)
      (hround : ws.round guarded receiver = next)
      (hfill : ∀ chunk, ws.round guarded (receiver.fill chunk) = next.fill chunk)
      (hloop : next.loop = true) (herrored : next.errored = false)
      (hconcluded : next.concluded = false)
  | ends (next : Receiver μ σ)
      (hround : ws.round guarded receiver = next)
      (hfill : ∀ chunk, ws.round guarded (receiver.fill chunk) = next.fill chunk)
      (hloop : next.loop = false) (hover : (next.errored || next.concluded) = true)

theorem fillResult_header {memory : μ} (hposition : receiver.position = .header memory)
    (hloop : receiver.loop = true) (herrored : receiver.errored = false)
    (hconcluded : receiver.concluded = false) : FillResult ws guarded receiver := by
  rcases Ws.short_or_header receiver.buffer with hshort | ⟨first, second, rest, hbuffer⟩
  · exact .waits (ws.round_short guarded receiver hposition hshort)
  · have hfill : ∀ chunk, (receiver.fill chunk).buffer = first :: second :: (rest ++ chunk) :=
      fun chunk => by rw [Receiver.fill, hbuffer]; rfl
    cases hheader : ws.header memory ⟨first, second⟩ with
    | rejects code finSet =>
        refine .ends _ (ws.round_refused guarded receiver hposition hbuffer hheader)
          (fun chunk => ?_) rfl rfl
        rw [ws.round_refused guarded (receiver.fill chunk) hposition (hfill chunk) hheader]
        rfl
    | proceeds stage =>
        have hround := ws.round_proceeds guarded receiver hposition hbuffer hheader
        have hround' := fun chunk => ws.round_proceeds guarded (receiver.fill chunk)
          hposition (hfill chunk) hheader
        split at hround
        · rename_i hfails
          refine .ends _ hround (fun chunk => ?_) rfl rfl
          exact (hround' chunk).trans (if_pos hfails)
        · rename_i hpasses
          refine .continues _ hround (fun chunk => ?_) hloop herrored hconcluded
          exact (hround' chunk).trans (if_neg hpasses)

theorem fillResult_inside {stage : σ} (hposition : receiver.position = .inside stage)
    (hloop : receiver.loop = true) (herrored : receiver.errored = false)
    (hconcluded : receiver.concluded = false) : FillResult ws guarded receiver := by
  have hround : ws.round guarded receiver = ws.getRest stage receiver :=
    ws.round_inside guarded receiver hposition
  have hround' : ∀ chunk, ws.round guarded (receiver.fill chunk) =
      ws.getRest stage (receiver.fill chunk) := fun chunk =>
      ws.round_inside guarded (receiver.fill chunk) hposition
  unfold Ws.getRest at hround hround'
  by_cases hlength : receiver.buffer.length < ws.need stage
  · rw [if_pos hlength] at hround
    exact .waits hround
  · have hle := Nat.not_lt.mp hlength
    have hlong : ∀ chunk, ¬ (receiver.fill chunk).buffer.length < ws.need stage := fun chunk => by
      rw [Receiver.fill, List.length_append]
      omega
    have htake : ∀ chunk, (receiver.fill chunk).buffer.take (ws.need stage) =
        receiver.buffer.take (ws.need stage) := fun _ => List.take_append_of_le_length hle
    have hdrop : ∀ chunk, (receiver.fill chunk).buffer.drop (ws.need stage) =
        receiver.buffer.drop (ws.need stage) ++ chunk := fun _ => List.drop_append_of_le_length hle
    simp only [if_neg hlength] at hround
    simp only [if_neg (hlong _), htake, hdrop] at hround'
    cases hhandle : ws.handle stage (receiver.buffer.take (ws.need stage)) with
    | inside next =>
        simp only [hhandle] at hround hround'
        exact .continues _ hround hround' hloop herrored hconcluded
    | complete memory =>
        simp only [hhandle] at hround hround'
        exact .continues _ hround hround' hloop herrored hconcluded
    | concludes =>
        simp only [hhandle] at hround hround'
        exact .ends _ hround hround' rfl (Bool.or_true _)
    | rejects code =>
        simp only [hhandle] at hround hround'
        exact .ends _ hround hround' rfl rfl

theorem fillResult (ws : Ws μ σ) (guarded : Bool) (hloop : receiver.loop = true)
    (herrored : receiver.errored = false)
    (hconcluded : receiver.concluded = false) : FillResult ws guarded receiver := by
  cases hposition : receiver.position with
  | header memory => exact fillResult_header hposition hloop herrored hconcluded
  | inside stage => exact fillResult_inside hposition hloop herrored hconcluded

/-- The loop with more bytes is the loop without them and then their arrival. -/
theorem rounds_fill (receiver : Receiver μ σ) (hloop : receiver.loop = true)
    (herrored : receiver.errored = false) (hconcluded : receiver.concluded = false)
    (chunk : List UInt8) :
    ws.rounds guarded (receiver.fill chunk) =
      ws.write guarded (ws.rounds guarded receiver) chunk := by
  rcases fillResult ws guarded hloop herrored hconcluded with
    hround | ⟨next, hround, hfill, hloop', herrored', hconcluded'⟩ |
    ⟨next, hround, hfill, hloop', hover⟩
  · have hresume : { receiver.wait.fill chunk with loop := true } = receiver.fill chunk := by
      rw [← hloop]
      rfl
    rw [rounds_stop hround rfl, Ws.write, hresume, if_neg]
    rw [Receiver.wait, herrored, hconcluded]
    exact Bool.false_ne_true
  · have hsize := size_next hround hloop'
    rw [rounds_step (hfill chunk) hloop', rounds_step hround hloop']
    exact rounds_fill next hloop' herrored' hconcluded' chunk
  · rw [rounds_stop (hfill chunk) hloop', rounds_stop hround hloop', Ws.write, if_pos hover]
termination_by ws.size receiver.position receiver.buffer

theorem write_append (receiver : Receiver μ σ) (first second : List UInt8) :
    ws.write guarded (ws.write guarded receiver first) second =
      ws.write guarded receiver (first ++ second) := by
  have hfill : (receiver.fill first).fill second = receiver.fill (first ++ second) := by
    simp only [Receiver.fill, List.append_assoc]
  by_cases hover : (receiver.errored || receiver.concluded) = true
  · have hstill : ((receiver.fill first).errored || (receiver.fill first).concluded) = true := hover
    have hfirst : ws.write guarded receiver first = receiver.fill first := if_pos hover
    rw [hfirst, Ws.write, if_pos hstill, Ws.write, if_pos hover, hfill]
  · have hlive : receiver.errored = false ∧ receiver.concluded = false := by
      simpa using hover
    have hfirst : ws.write guarded receiver first =
        ws.rounds guarded { receiver.fill first with loop := true } := if_neg hover
    have hboth : ws.write guarded receiver (first ++ second) =
        ws.rounds guarded { receiver.fill (first ++ second) with loop := true } := if_neg hover
    rw [hfirst, hboth, ← hfill]
    exact (rounds_fill { receiver.fill first with loop := true } rfl hlive.1 hlive.2 second).symm

/-- The division into chunks does not matter. -/
theorem writes_eq (receiver : Receiver μ σ) (chunk : List UInt8) (chunks : List (List UInt8)) :
    ws.writes guarded receiver (chunk :: chunks) =
      ws.write guarded receiver (chunk :: chunks).flatten := by
  induction chunks generalizing chunk with
  | nil => simp [Ws.writes]
  | cons next chunks ih =>
      have hjoin : ws.writes guarded receiver (chunk :: next :: chunks) =
          ws.writes guarded receiver ((chunk ++ next) :: chunks) := by
        simp only [Ws.writes, List.foldl_cons, write_append]
      rw [hjoin, ih]
      simp only [List.flatten_cons, List.append_assoc]

/-! ## The guard -/

/-- A receiver whose loop starts with all the bytes. -/
def Receiver.holding (memory : μ) (fin : Bool) (bytes : List UInt8) : Receiver μ σ :=
  { (Receiver.fresh memory fin).fill bytes with loop := true }

theorem writes_fresh (memory : μ) (fin : Bool) (chunks : List (List UInt8)) :
    ws.writes guarded (.fresh memory fin) chunks =
      ws.rounds guarded (.holding memory fin chunks.flatten) := by
  cases chunks with
  | nil =>
      have hround := ws.round_short guarded (.holding memory fin []) rfl Nat.two_pos
      exact (rounds_stop hround rfl).symm
  | cons chunk chunks =>
      rw [writes_eq]
      rfl

theorem mem_frames {position : Position μ σ} {bytes : List UInt8} {header : Header}
    (hmem : header ∈ ws.frames position bytes) :
    ∃ memory stage, ws.header memory header = .proceeds stage := by
  fun_induction Ws.frames ws position bytes with
  | case1 memory first second rest stage hheader ih =>
      rcases List.mem_cons.mp hmem with rfl | hrest
      · exact ⟨memory, stage, hheader⟩
      · exact ih hrest
  | case2 => cases hmem
  | case3 => cases hmem
  | case4 stage bytes hlength next hhandle ih => exact ih hmem
  | case5 stage bytes hlength memory hhandle ih => exact ih hmem
  | case6 => cases hmem
  | case7 => cases hmem
  | case8 => cases hmem

/-- The guard is exact: for any value of `_fin` and any division of the bytes into chunks there
is at most one error; frames with FIN are received as without the wrapper; and at the first
header without FIN that the receiver accepts, which is that of a data frame, the connection fails
with 1009. -/
theorem guard_exact (ws : Ws μ σ) (hcontrol : ws.ControlFinal) (memory : μ) (fin : Bool)
    (chunks : List (List UInt8)) :
    let frames := ws.frames (.header memory) chunks.flatten
    let wrapped := ws.writes true (.fresh memory fin) chunks
    let original := ws.writes false (.fresh memory fin) chunks
    wrapped.errors.length ≤ 1 ∧
      ((∀ header ∈ frames, header.fin = true) →
        wrapped = original ∧ .fragmented ∉ wrapped.errors) ∧
      ∀ before header after, frames = before ++ header :: after →
        (∀ other ∈ before, other.fin = true) → header.fin = false →
          header.opcode < 8 ∧ wrapped.errors.map Failure.code = [1009] ∧
            wrapped.headers = before ++ [header] := by
  intro frames wrapped original
  have hwrapped : wrapped = ws.rounds true (.holding memory fin chunks.flatten) :=
    writes_fresh memory fin chunks
  have horiginal : original = ws.rounds false (.holding memory fin chunks.flatten) :=
    writes_fresh memory fin chunks
  rw [hwrapped, horiginal]
  refine ⟨?_, fun hfin => ?_, fun before header after hframes hbefore hfin => ?_⟩
  · rcases rounds_errors ws true (.holding memory fin chunks.flatten) rfl rfl with
      hsame | ⟨failure, hnew, -⟩
    · rw [hsame]
      exact Nat.zero_le 1
    · rw [hnew]
      exact Nat.le_refl 1
  · have hequal := rounds_guarded (.holding memory fin chunks.flatten) rfl rfl hfin
    refine ⟨hequal, ?_⟩
    rw [hequal]
    rcases rounds_errors ws false (.holding memory fin chunks.flatten) rfl rfl with
      hsame | ⟨failure, hnew, hguard⟩
    · rw [hsame]
      exact List.not_mem_nil
    · rw [hnew]
      intro hmem
      cases hguard (List.mem_singleton.mp hmem).symm
  · have hmem : header ∈ frames := by
      rw [hframes]
      exact List.mem_append_right _ List.mem_cons_self
    obtain ⟨memory', stage, haccepted⟩ := mem_frames hmem
    obtain ⟨herrors, hheaders⟩ := rounds_caught
      (.holding memory fin chunks.flatten) rfl rfl hframes hbefore hfin
    rw [herrors, hheaders]
    exact ⟨hcontrol memory' header stage haccepted hfin, rfl, rfl⟩

end Steps

/-! ## A receiver of masked frames -/

/-- The parts of a frame behind its header: an extended length, the mask and the payload. -/
inductive Part where
  | extendedLength (bytes : Nat) (header : Header)
  | mask (length : Nat) (header : Header)
  | payload (length : Nat) (header : Header)
deriving DecidableEq, Repr

/-- The header checks of a server without extensions; it remembers whether a message is
unfinished. -/
def checkHeader (unfinished : Bool) (header : Header) : Info (Bool × Part) :=
  let length := header.second &&& 0x7f
  let control := decide (8 ≤ header.opcode)
  if header.first &&& 0x70 != 0 then .rejects 1002 false
  else if header.opcode = 0 ∧ unfinished = false then .rejects 1002 true
  else if (header.opcode = 1 ∨ header.opcode = 2) ∧ unfinished = true then .rejects 1002 true
  else if (2 < header.opcode ∧ header.opcode < 8) ∨ 10 < header.opcode then .rejects 1002 true
  else if control ∧ (header.fin = false ∨ 125 < length) then .rejects 1002 true
  else if header.second &&& 0x80 == 0 then .rejects 1002 true
  else
    let pending := if control then unfinished else !header.fin
    .proceeds (pending,
      if length = 126 then .extendedLength 2 header
      else if length = 127 then .extendedLength 8 header
      else .mask length.toNat header)

/-- A server that takes frames of any length. -/
def server : Ws Bool (Bool × Part) where
  header := checkHeader
  need
    | (_, .extendedLength bytes _) => bytes
    | (_, .mask _ _) => 4
    | (_, .payload length _) => length
  handle
    | (pending, .extendedLength _ header), bytes =>
        .inside (pending, .mask (bytes.foldl (fun length byte => 256 * length + byte.toNat) 0) header)
    | (pending, .mask length header), _ => .inside (pending, .payload length header)
    | (pending, .payload _ header), _ =>
        if header.opcode = 8 then .concludes else .complete pending
  settles := by
    rintro ⟨pending, part⟩ next hneed hhandle
    cases part with
    | extendedLength bytes header =>
        cases hhandle
        exact Nat.zero_lt_succ 3
    | mask length header => cases hneed
    | payload length header =>
        simp only at hhandle
        split at hhandle <;> cases hhandle

theorem server_controlFinal : server.ControlFinal := by
  intro memory header stage hheader hfin
  by_contra hcontrol
  have hle : 8 ≤ header.opcode := UInt8.not_lt.mp hcontrol
  have hrejects : decide (8 ≤ header.opcode) = true ∧
      (header.fin = false ∨ 125 < header.second &&& 0x7f) := ⟨decide_eq_true hle, .inl hfin⟩
  simp only [server, checkHeader, if_pos hrejects] at hheader
  repeat' split at hheader
  all_goals cases hheader

/-- A text frame without FIN, whose header arrives in two chunks. -/
theorem guard_exact_split :
    (server.writes true (.fresh false true) [[0x01], [0x85, 1]]).errors.map Failure.code = [1009] :=
  ((guard_exact server server_controlFinal false true [[0x01], [0x85, 1]]).2.2
    [] ⟨0x01, 0x85⟩ [] (by decide +kernel) (by decide) rfl).2.1

/-- A text frame without FIN and without a mask fails with the error of the receiver. -/
theorem unmasked_fails_otherwise :
    ¬ ∀ header : Header, header.fin = false → header.opcode < 8 →
      (server.writes true (.fresh false false) [[header.first, header.second]]).errors.map
        Failure.code = [1009] := by
  intro h
  exact absurd (h ⟨0x01, 0x05⟩ rfl (by decide)) (by decide +kernel)

end Fragmentation
end R2RPC
