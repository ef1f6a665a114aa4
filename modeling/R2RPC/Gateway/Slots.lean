import R2RPC.Gateway.Steps

/-!
# In-flight slots and their holders

The counter {lit}`device:inflight:<id>` is moved by the scripts and commands of
invocations, and removed by {lit}`resetInFlight` and {lit}`offline`.  This module
says once what every step does to the counter of one device and to the number of
invocations that hold one of its slots.

Main results:

- Theorem {lit}`step_inFlight`: steps outside {lit}`dispatch` leave the counter
  alone or remove it.
- Theorem {lit}`dispatch_slotEffect`: what one awaited command of an invocation
  does to counter and holders.

Current gaps:

- None.
-/

namespace R2RPC
namespace Gateway

open Interleaving

variable {s t : State} {a : Action} {clientId : ClientId}

/-! ## Holders -/

/-- Invocations that have acquired a slot and have not yet run `releaseSlot`. -/
def State.holders (s : State) (clientId : ClientId) : Nat :=
  s.invocations.countP fun invocation => invocation.stage = .dispatching clientId

/-- Invocations whose `releaseSlot` still has to write the floor. -/
def State.floors (s : State) (clientId : ClientId) : Nat :=
  s.invocations.countP fun invocation => invocation.stage = .floor clientId

/-- A new invocation holds nothing. -/
theorem Invocation.start_stage (projectId : ProjectId) (requested : Option ClientId) :
    (∃ clientId, (start projectId requested).stage = .checkRequested clientId) ∨
      (start projectId requested).stage = .listMembers := by
  unfold start
  cases requested.filter (· ≠ "") with
  | none => exact Or.inr rfl
  | some clientId => exact Or.inl ⟨clientId, rfl⟩

theorem countP_start {p : Invocation → Bool} (invocations : List Invocation)
    {projectId : ProjectId} {requested : Option ClientId}
    (hp : p (Invocation.start projectId requested) = false) :
    (invocations ++ [Invocation.start projectId requested]).countP p =
      invocations.countP p := by
  simp [hp]

theorem start_not_holding (clientId : ClientId) (projectId : ProjectId)
    (requested : Option ClientId) :
    (Invocation.start projectId requested).stage ≠ .dispatching clientId ∧
      (Invocation.start projectId requested).stage ≠ .floor clientId := by
  rcases Invocation.start_stage projectId requested with ⟨c, h⟩ | h <;> simp [h]

/-! ## Steps outside dispatch -/

/-- A step deletes the counter: `resetInFlight` of a handshake, or the third
`DEL` of `offline`. -/
def ResetsInFlight (clientId : ClientId) (s : State) (a : Action) : Prop :=
  ∃ id fault socket, s.liveSocket id = some socket ∧ socket.clientId = clientId ∧
    fault.executes = true ∧
    ((a = .handshake id fault ∧ socket.handshake = .resetInFlight) ∨
      (a = .disconnect id fault ∧ socket.disconnect = .delInFlight))

theorem Store.resetInFlight_inFlight (store : Store) (c c' : ClientId) :
    (store.resetInFlight c').inFlight c = if c = c' then none else store.inFlight c := by
  simp [Store.resetInFlight, Function.update_apply]

theorem Socket.handshakeCommand_inFlight (socket : Socket) (clientId : ClientId)
    (token : SessionToken) (store : Store) :
    (socket.handshakeCommand token store).inFlight clientId = store.inFlight clientId ∨
      (socket.handshake = .resetInFlight ∧ socket.clientId = clientId ∧
        (socket.handshakeCommand token store).inFlight clientId = none) := by
  unfold handshakeCommand
  split <;> try exact Or.inl rfl
  · unfold Store.writeDevice
    cases ((store.devices socket.clientId).writeDevice _ _ _) <;> exact Or.inl rfl
  · rename_i hstage
    rw [Store.resetInFlight_inFlight]
    split
    · rename_i hclient
      exact Or.inr ⟨hstage, hclient.symm, rfl⟩
    · exact Or.inl rfl

theorem Socket.disconnectCommand_inFlight (socket : Socket) (clientId : ClientId)
    (token : SessionToken) (store : Store) :
    (socket.disconnectCommand token store).inFlight clientId = store.inFlight clientId ∨
      (socket.disconnect = .delInFlight ∧ socket.clientId = clientId ∧
        (socket.disconnectCommand token store).inFlight clientId = none) := by
  unfold disconnectCommand
  split <;> try exact Or.inl rfl
  · unfold Store.compareAndDelete
    split <;> exact Or.inl rfl
  · rename_i hstage
    rw [Store.resetInFlight_inFlight]
    split
    · rename_i hclient
      exact Or.inr ⟨hstage, hclient.symm, rfl⟩
    · exact Or.inl rfl

theorem Heartbeat.command_inFlight (heartbeat : Heartbeat) (store : Store) :
    (heartbeat.command store).inFlight = store.inFlight := by
  unfold command
  split <;> rfl

/-- Steps that are not commands of an invocation leave the counter alone or
remove it. -/
theorem step_inFlight (clientId : ClientId)
    (hdispatch : ∀ id fault order, a ≠ .dispatch id fault order)
    (hstep : step s a = some t) :
    t.store.inFlight clientId = s.store.inFlight clientId ∨
      (ResetsInFlight clientId s a ∧ t.store.inFlight clientId = none) := by
  have hstore := step_store hstep
  revert hstore
  generalize t.store = store
  intro hstore
  cases hstore with
  | same => exact Or.inl rfl
  | handshake id fault socket ha hlive hawaits hrun =>
      rcases socket.handshakeCommand_inFlight clientId
        (State.sessionToken socket id) s.store with hsame | ⟨hstage, hclient, hnone⟩
      · exact Or.inl hsame
      · exact Or.inr ⟨⟨id, fault, socket, hlive, hclient, hrun, Or.inl ⟨ha, hstage⟩⟩, hnone⟩
  | disconnect id fault socket ha hlive hrun =>
      rcases socket.disconnectCommand_inFlight clientId
        (State.sessionToken socket id) s.store with hsame | ⟨hstage, hclient, hnone⟩
      · exact Or.inl hsame
      · exact Or.inr ⟨⟨id, fault, socket, hlive, hclient, hrun, Or.inr ⟨ha, hstage⟩⟩, hnone⟩
  | heartbeat id fault heartbeat ha hheartbeat =>
      exact Or.inl (congrFun (heartbeat.command_inFlight s.store) clientId)
  | administer id token write deviceTokens ha hwrite => exact Or.inl rfl
  | delTokenCache token => exact Or.inl rfl
  | expireSession c ha => exact Or.inl rfl
  | expirePresence c ha => exact Or.inl rfl
  | expireMaxInFlight c ha => exact Or.inl rfl
  | dispatch id fault order invocation ha hget hrun =>
      exact (hdispatch id fault order ha).elim

/-- Outside dispatch the holders and the pending floors of a device stay as they are. -/
theorem step_holders (clientId : ClientId)
    (hdispatch : ∀ id fault order, a ≠ .dispatch id fault order)
    (hstep : step s a = some t) :
    t.holders clientId = s.holders clientId ∧ t.floors clientId = s.floors clientId := by
  rcases step_invocations hdispatch hstep with
    hsame | ⟨projectId, requested, hadd⟩
  · simp [State.holders, State.floors, hsame]
  · rcases start_not_holding clientId projectId requested with ⟨hholds, howes⟩
    rw [State.holders, State.floors, hadd]
    exact ⟨countP_start _ (by simpa using hholds), countP_start _ (by simpa using howes)⟩

/-! ## Commands of an invocation -/

/-- What one awaited command of an invocation does to the counter of a device, to
the holders of its slots and to the pending floors. -/
inductive SlotEffect (clientId : ClientId) (s t : State) (invocation : Invocation)
    (fault : Fault) : Prop where
  | idle (hcount : t.store.inFlightCount clientId = s.store.inFlightCount clientId)
      (hholders : t.holders clientId = s.holders clientId)
      (hfloors : t.floors clientId = s.floors clientId)
  | acquired (maximumInFlight : Nat) (remaining : List ClientId)
      (hstage : invocation.stage = .acquire clientId maximumInFlight remaining)
      (hfree : s.store.slotFree clientId maximumInFlight = true) (hrun : fault.executes = true)
      (hcount : t.store.inFlightCount clientId = s.store.inFlightCount clientId + 1)
      (hholders : t.holders clientId =
        s.holders clientId + if fault.throws then 0 else 1)
      (hfloors : t.floors clientId = s.floors clientId)
  | released (hstage : invocation.stage = .dispatching clientId)
      (hcount : t.store.inFlightCount clientId =
        s.store.inFlightCount clientId - if fault.executes then 1 else 0)
      (hholders : t.holders clientId + 1 = s.holders clientId)
      (hfloors : t.floors clientId =
        s.floors clientId +
          if fault.throws = false ∧ s.store.inFlightCount clientId - 1 < 0 then 1 else 0)
  | floored (hstage : invocation.stage = .floor clientId)
      (hcount : t.store.inFlightCount clientId =
        if fault.executes then 0 else s.store.inFlightCount clientId)
      (hholders : t.holders clientId = s.holders clientId)
      (hfloors : t.floors clientId + 1 = s.floors clientId)

/-- Stages that neither hold a slot nor owe a floor. -/
def InvocationStage.selecting : InvocationStage → Bool
  | .dispatching _ | .floor _ => false
  | _ => true

theorem Invocation.nextCandidate_selecting (remaining online : List ClientId) :
    (nextCandidate remaining online).selecting = true := by
  unfold nextCandidate
  split <;> rfl

theorem Invocation.nextDevice_selecting (remaining : List ClientId) :
    (nextDevice remaining).selecting = true := by
  unfold nextDevice
  split <;> rfl

theorem Store.setInFlight_count (store : Store) (c c' : ClientId) (count : Int) :
    (store.setInFlight c' count).inFlightCount c =
      if c = c' then count else store.inFlightCount c := by
  simp only [Store.inFlightCount, Store.setInFlight, Function.update_apply]
  split <;> rfl

theorem Invocation.next_selecting {invocation : Invocation} (store : Store)
    (order : List ClientId) (hacquire : ∀ c limit rest, invocation.stage ≠ .acquire c limit rest)
    (hdispatching : ∀ c, invocation.stage ≠ .dispatching c) :
    (invocation.next store order).selecting = true := by
  unfold next
  split
  · split <;> rfl
  · exact nextCandidate_selecting _ _
  · split
    · exact nextCandidate_selecting _ _
    · rfl
  · exact nextCandidate_selecting _ _
  · exact nextDevice_selecting _
  · rfl
  · rename_i c limit rest hstage
    exact (hacquire c limit rest hstage).elim
  · rename_i c hstage
    exact (hdispatching c hstage).elim
  · rfl
  · rfl

/-- Holders and floors after one command, relative to those before. -/
theorem holders_advance (clientId : ClientId) {id : Nat} {invocation : Invocation} {fault : Fault}
    {order : List ClientId} (hget : s.invocations[id]? = some invocation)
    (hinvs : t.invocations = s.invocations.set id (invocation.advance s.store fault order)) :
    (t.holders clientId + (if invocation.stage = .dispatching clientId then 1 else 0) =
      s.holders clientId +
        if (invocation.advance s.store fault order).stage = .dispatching clientId then 1
        else 0) ∧
    (t.floors clientId + (if invocation.stage = .floor clientId then 1 else 0) =
      s.floors clientId +
        if (invocation.advance s.store fault order).stage = .floor clientId then 1 else 0) := by
  have hholders := countP_set_add (p := fun i : Invocation => i.stage = .dispatching clientId)
    (y := invocation.advance s.store fault order) hget
  have hfloors := countP_set_add (p := fun i : Invocation => i.stage = .floor clientId)
    (y := invocation.advance s.store fault order) hget
  simp only [decide_eq_true_eq] at hholders hfloors
  rw [State.holders, State.floors, hinvs]
  exact ⟨hholders, hfloors⟩

/-- Commands other than those of slots leave every counter alone. -/
theorem Invocation.command_inFlightCount {invocation : Invocation} {store : Store}
    (hacquire : ∀ limit rest, invocation.stage ≠ .acquire clientId limit rest)
    (hdispatching : invocation.stage ≠ .dispatching clientId)
    (hfloor : invocation.stage ≠ .floor clientId) :
    (invocation.command store).inFlightCount clientId = store.inFlightCount clientId := by
  unfold command
  split
  · rfl
  · rfl
  · rename_i c limit rest hstage
    have hne : clientId ≠ c := by
      rintro rfl
      exact hacquire limit rest hstage
    simp [Store.tryAcquireSlot, Store.setInFlight_count, hne]
  · rename_i c hstage
    have hne : clientId ≠ c := by
      rintro rfl
      exact hdispatching hstage
    simp [Store.decrInFlight, Store.setInFlight_count, hne]
  · rename_i c hstage
    have hne : clientId ≠ c := by
      rintro rfl
      exact hfloor hstage
    simp [Store.setInFlight_count, hne]
  · rfl

/-- The stores, the holders and the floors after one command of an invocation. -/
structure Dispatched (clientId : ClientId) (s t : State) (invocation : Invocation) (fault : Fault)
    (stage : InvocationStage) : Prop where
  store : t.store = fault.apply invocation.command s.store
  holders : t.holders clientId + (if invocation.stage = .dispatching clientId then 1 else 0) =
    s.holders clientId +
      if (if fault.throws then .ended else stage) = InvocationStage.dispatching clientId then 1
      else 0
  floors : t.floors clientId + (if invocation.stage = .floor clientId then 1 else 0) =
    s.floors clientId +
      if (if fault.throws then .ended else stage) = InvocationStage.floor clientId then 1 else 0

theorem Dispatched.of_dispatch (clientId : ClientId) {id : Nat} {fault : Fault}
    {order : List ClientId} {invocation : Invocation} (hget : s.invocations[id]? = some invocation)
    (hstep : s.dispatch id fault order = some t) :
    Dispatched clientId s t invocation fault (invocation.next s.store order) := by
  rcases State.dispatch_eq_some hstep with ⟨invocation', hget', -, -, ht⟩
  obtain rfl : invocation = invocation' := Option.some.inj (hget.symm.trans hget')
  have hinvocations : t.invocations =
      s.invocations.set id (invocation.advance s.store fault order) := by rw [ht]
  rcases holders_advance clientId hget hinvocations with ⟨hholders, hfloors⟩
  exact ⟨by rw [ht], hholders, hfloors⟩

section Effects

variable {invocation : Invocation} {fault : Fault} {order : List ClientId}

/-- The script of a free slot takes it; a lost answer leaves it without a holder. -/
theorem SlotEffect.of_free {limit : Nat} {rest : List ClientId}
    (h : Dispatched clientId s t invocation fault (.dispatching clientId))
    (hstage : invocation.stage = .acquire clientId limit rest)
    (hfree : s.store.slotFree clientId limit = true) :
    SlotEffect clientId s t invocation fault := by
  have hstore := h.store
  have hholders := h.holders
  have hfloors := h.floors
  have hcommand : invocation.command s.store = s.store.tryAcquireSlot clientId limit := by
    simp [Invocation.command, hstage]
  cases fault with
  | rejected =>
      refine .idle (by rw [hstore]; rfl) ?_ ?_
      · simpa [hstage, Fault.throws] using hholders
      · simpa [hstage, Fault.throws] using hfloors
  | none =>
      refine .acquired limit rest hstage hfree rfl ?_ ?_ ?_
      · rw [hstore, Fault.apply_none, hcommand]
        simp [Store.tryAcquireSlot, Store.setInFlight_count, hfree]
      · simpa [hstage, Fault.throws] using hholders
      · simpa [hstage, Fault.throws] using hfloors
  | lost =>
      refine .acquired limit rest hstage hfree rfl ?_ ?_ ?_
      · rw [hstore, Fault.apply_lost, hcommand]
        simp [Store.tryAcquireSlot, Store.setInFlight_count, hfree]
      · simpa [hstage, Fault.throws] using hholders
      · simpa [hstage, Fault.throws] using hfloors

/-- A command that changes no counter of the device, and after which the invocation
has nothing of it. -/
theorem SlotEffect.of_other {stage : InvocationStage}
    (h : Dispatched clientId s t invocation fault stage)
    (hcount : (invocation.command s.store).inFlightCount clientId =
      s.store.inFlightCount clientId)
    (hbefore : invocation.stage ≠ .dispatching clientId ∧ invocation.stage ≠ .floor clientId)
    (hafter : stage ≠ .dispatching clientId ∧ stage ≠ .floor clientId) :
    SlotEffect clientId s t invocation fault := by
  have hholders := h.holders
  have hfloors := h.floors
  refine .idle ?_ ?_ ?_
  · rw [h.store]
    rcases fault.apply_cases invocation.command s.store with hskip | ⟨-, happly⟩
    · rw [hskip]
    · rw [happly, hcount]
  · cases hthrows : fault.throws <;> simpa [hbefore.1, hthrows, hafter.1] using hholders
  · cases hthrows : fault.throws <;> simpa [hbefore.2, hthrows, hafter.2] using hfloors

theorem InvocationStage.selecting_not_holding {stage : InvocationStage}
    (h : stage.selecting = true) : stage ≠ .dispatching clientId ∧ stage ≠ .floor clientId := by
  constructor <;> rintro rfl <;> contradiction

theorem SlotEffect.of_acquire {limit : Nat} {rest : List ClientId}
    (h : Dispatched clientId s t invocation fault (invocation.next s.store order))
    (hstage : invocation.stage = .acquire clientId limit rest) :
    SlotEffect clientId s t invocation fault := by
  have hnext : invocation.next s.store order =
      if s.store.slotFree clientId limit then .dispatching clientId
      else Invocation.nextDevice rest := by
    simp [Invocation.next, hstage]
  by_cases hfree : s.store.slotFree clientId limit = true
  · rw [hnext, if_pos hfree] at h
    exact .of_free h hstage hfree
  · rw [hnext, if_neg hfree] at h
    refine .of_other h ?_ (by simp [hstage])
      (InvocationStage.selecting_not_holding (Invocation.nextDevice_selecting rest))
    simp [Invocation.command, hstage, Store.tryAcquireSlot, Store.setInFlight_count, hfree]

theorem SlotEffect.of_release
    (h : Dispatched clientId s t invocation fault (invocation.next s.store order))
    (hstage : invocation.stage = .dispatching clientId) :
    SlotEffect clientId s t invocation fault := by
  have hnext : invocation.next s.store order =
      if s.store.inFlightCount clientId - 1 < 0 then .floor clientId else .ended := by
    simp [Invocation.next, hstage]
  have hcommand : invocation.command s.store = s.store.decrInFlight clientId := by
    simp [Invocation.command, hstage]
  have hholders := h.holders
  have hfloors := h.floors
  rw [hnext] at hholders hfloors
  refine .released hstage ?_ ?_ ?_
  · rw [h.store]
    cases fault <;>
      simp [hcommand, Store.decrInFlight, Store.setInFlight_count, Fault.executes]
  · by_cases hlow : s.store.inFlightCount clientId - 1 < 0 <;>
      cases hthrows : fault.throws <;>
        simpa [hstage, hthrows, hlow] using hholders
  · by_cases hlow : s.store.inFlightCount clientId - 1 < 0 <;>
      cases hthrows : fault.throws <;>
        simpa [hstage, hthrows, hlow] using hfloors

theorem SlotEffect.of_floor
    (h : Dispatched clientId s t invocation fault (invocation.next s.store order))
    (hstage : invocation.stage = .floor clientId) : SlotEffect clientId s t invocation fault := by
  have hnext : invocation.next s.store order = .ended := by
    simp [Invocation.next, hstage]
  have hcommand : invocation.command s.store = s.store.setInFlight clientId 0 := by
    simp [Invocation.command, hstage]
  have hholders := h.holders
  have hfloors := h.floors
  rw [hnext] at hholders hfloors
  refine .floored hstage ?_ ?_ ?_
  · rw [h.store]
    cases fault <;> simp [hcommand, Store.setInFlight_count, Fault.executes]
  · simpa [hstage] using hholders
  · simpa [hstage] using hfloors

/-- An invocation gets or owes a slot of the device only from one of its own stages. -/
theorem Invocation.next_not_holding {store : Store}
    (hacquire : ∀ limit rest, invocation.stage ≠ .acquire clientId limit rest)
    (hdispatching : invocation.stage ≠ .dispatching clientId) :
    invocation.next store order ≠ .dispatching clientId ∧
      invocation.next store order ≠ .floor clientId := by
  cases hstage : invocation.stage with
  | acquire c limit rest =>
      have hne : c ≠ clientId := by
        rintro rfl
        exact hacquire limit rest hstage
      simp only [Invocation.next, hstage]
      split
      · simp [hne]
      · exact InvocationStage.selecting_not_holding (Invocation.nextDevice_selecting rest)
  | dispatching c =>
      have hne : c ≠ clientId := by
        rintro rfl
        exact hdispatching hstage
      simp only [Invocation.next, hstage]
      split <;> simp [hne]
  | checkRequested | listMembers | checkCandidate | dropCandidate | advanceCursor | readLimit
  | floor | ended =>
      exact InvocationStage.selecting_not_holding
        (Invocation.next_selecting store order (by simp [hstage]) (by simp [hstage]))

end Effects

/-- Every awaited command of an invocation has one of the four effects. -/
theorem dispatch_slotEffect (clientId : ClientId) {id : Nat} {fault : Fault} {order : List ClientId}
    {invocation : Invocation} (hget : s.invocations[id]? = some invocation)
    (hstep : s.dispatch id fault order = some t) :
    SlotEffect clientId s t invocation fault := by
  have h := Dispatched.of_dispatch clientId hget hstep
  by_cases hacquire : ∃ limit rest, invocation.stage = .acquire clientId limit rest
  · rcases hacquire with ⟨limit, rest, hstage⟩
    exact .of_acquire h hstage
  · have hacquire' : ∀ limit rest, invocation.stage ≠ .acquire clientId limit rest :=
      fun limit rest hstage => hacquire ⟨limit, rest, hstage⟩
    by_cases hdispatching : invocation.stage = .dispatching clientId
    · exact .of_release h hdispatching
    · by_cases hfloor : invocation.stage = .floor clientId
      · exact .of_floor h hfloor
      · exact .of_other h (Invocation.command_inFlightCount hacquire' hdispatching hfloor)
          ⟨hdispatching, hfloor⟩ (Invocation.next_not_holding hacquire' hdispatching)

end Gateway
end R2RPC
