import Mathlib.Data.Finset.Sort
import Mathlib.Data.List.Rotate
import Mathlib.Data.List.Sort
import R2RPC.Gateway.Store
import R2RPC.Library.Binary64

/-!
# Round robin selection

{lit}`pickOnlineAcquire` as one uninterrupted call: the members that are pruned, the loop
over the sorted online devices, and the slot that is taken.

Main results:

- Definition {lit}`pickOnlineAcquire`, with the numbers of Redis and of JavaScript.
- Theorem {lit}`pickOnlineAcquire_eq`: the answer is the first free device in cyclic order.
- Theorem {lit}`selection_exact_and_fair`: what a call answers and changes, and that as many
  consecutive calls as there are devices choose each of them once.
- Theorem {lit}`counter_overflows`: a counter that {lit}`INCR` refuses.

Current gaps:

- Client ids are any type with the order in which {lit}`Array.prototype.sort` puts them.
-/

namespace R2RPC
namespace Gateway
namespace Selection

open Binary

/-- The keys that a selection reads and writes, by client id or project id. -/
@[ext]
structure PresenceKeys (Id : Type) where
  members : ProjectId → List Id
  nodup : ∀ projectId, (members projectId).Nodup
  presence : Id → Bool
  maxInFlight : Id → ReportedMaximum
  inFlight : Id → Int
  cursor : ProjectId → Nat

/-- The answer of a selection. -/
inductive Selected (Id : Type) where
  | device (clientId : Id)
  | noDevice
  | saturated
deriving DecidableEq, Repr

/-! ## Numbers -/

/-- The largest integer that Redis holds. -/
def maximumInteger : Int := 2 ^ 63 - 1

/-- `INCR`, which refuses to overflow. -/
def increment (value : Int) : Option Int :=
  if value < maximumInteger then some (value + 1) else none

/-- An integer reply as a number of JavaScript, exact up to two to the power of 53. -/
def asNumber (value : Nat) : Nat := ((ofDecimal binary64 false value 0).toInt.getD 0).toNat

theorem asNumber_eq {value : Nat} (h : value ≤ 2 ^ 53) : asNumber value = value := by
  rw [asNumber, toInt_ofDecimal (F := binary64) h (by decide)]
  rfl

theorem increment_eq {value : Int} (h : value < maximumInteger) :
    increment value = some (value + 1) := if_pos h

variable {Id : Type} [LinearOrder Id]

namespace PresenceKeys

variable (keys : PresenceKeys Id)

/-- `SREM project:clients:<project>`. -/
def srem (projectId : ProjectId) (clientId : Id) : PresenceKeys Id :=
  { keys with
    members := Function.update keys.members projectId
      ((keys.members projectId).filter (· ≠ clientId))
    nodup := by
      intro other
      by_cases hsame : other = projectId
      · subst hsame
        rw [Function.update_self]
        exact (keys.nodup other).filter _
      · rw [Function.update_of_ne hsame]
        exact keys.nodup other }

/-- `SET device:inflight:<id>`, as `INCR` and `DECR` do it. -/
def setInFlight (clientId : Id) (count : Int) : PresenceKeys Id :=
  { keys with inFlight := Function.update keys.inFlight clientId count }

/-- `getMaxInFlight`. -/
def getMaxInFlight (clientId : Id) : Nat := clampMaxInFlight (keys.maxInFlight clientId)

/-- `ACQUIRE_SLOT_LUA`. -/
def tryAcquireSlot (clientId : Id) (maximumInFlight : Nat) : Option (Bool × PresenceKeys Id) :=
  (increment (keys.inFlight clientId)).map fun n : Int =>
    if n > maximumInFlight then
      (false, (keys.setInFlight clientId n).setInFlight clientId (n - 1))
    else (true, keys.setInFlight clientId n)

/-- The loop of `listOnline` over the members that `SMEMBERS` has listed. -/
def listOnlineFrom (projectId : ProjectId) :
    List Id → List Id → PresenceKeys Id → List Id × PresenceKeys Id
  | [], online, keys => (online, keys)
  | clientId :: candidates, online, keys =>
      if keys.presence clientId then listOnlineFrom projectId candidates (online ++ [clientId]) keys
      else listOnlineFrom projectId candidates online (keys.srem projectId clientId)

/-- `listOnline`. -/
def listOnline (projectId : ProjectId) : List Id × PresenceKeys Id :=
  listOnlineFrom projectId (keys.members projectId) [] keys

/-- The loop of `pickOnlineAcquire`: so many offsets are left, the next one is `offset`. -/
def acquireFrom (online : List Id) (startingIndex : Nat) :
    Nat → Nat → PresenceKeys Id → Option (Selected Id × PresenceKeys Id)
  | 0, _, keys => some (.saturated, keys)
  | remaining + 1, offset, keys =>
      match online[(startingIndex + offset) % online.length]? with
      | none => none
      | some clientId =>
          (keys.tryAcquireSlot clientId (keys.getMaxInFlight clientId)).bind fun acquired =>
            if acquired.1 then some (.device clientId, acquired.2)
            else acquireFrom online startingIndex remaining (offset + 1) acquired.2

/-- `pickOnlineAcquire`; nothing if a command is refused. -/
def pickOnlineAcquire (projectId : ProjectId) : Option (Selected Id × PresenceKeys Id) :=
  let listed := keys.listOnline projectId
  if listed.1 = [] then some (.noDevice, listed.2)
  else
    let online := listed.1.insertionSort (· ≤ ·)
    (increment (listed.2.cursor projectId)).bind fun value =>
      let keys := { listed.2 with cursor := Function.update listed.2.cursor projectId value.toNat }
      keys.acquireFrom online (asNumber value.toNat % online.length) online.length 0

/-! ## Pruning -/

/-- The members that are online. -/
def online (projectId : ProjectId) : List Id := (keys.members projectId).filter keys.presence

/-- The online members in the order of the selection. -/
def sorted (projectId : ProjectId) : List Id := (keys.online projectId).insertionSort (· ≤ ·)

/-- The members without presence are gone. -/
def prune (projectId : ProjectId) : PresenceKeys Id :=
  { keys with
    members := Function.update keys.members projectId (keys.online projectId)
    nodup := by
      intro other
      by_cases hsame : other = projectId
      · subst hsame
        rw [Function.update_self]
        exact (keys.nodup other).filter _
      · rw [Function.update_of_ne hsame]
        exact keys.nodup other }

theorem listOnlineFrom_eq (projectId : ProjectId) (candidates online : List Id) :
    (listOnlineFrom projectId candidates online keys).1 =
        online ++ candidates.filter keys.presence ∧
      (listOnlineFrom projectId candidates online keys).2 =
        (candidates.filter fun clientId => !keys.presence clientId).foldl
          (fun keys clientId => keys.srem projectId clientId) keys := by
  induction candidates generalizing online keys with
  | nil => simp [listOnlineFrom]
  | cons clientId candidates ih =>
      rw [listOnlineFrom]
      split
      · rename_i honline
        rcases ih keys (online ++ [clientId]) with ⟨hfirst, hsecond⟩
        simp [hfirst, hsecond, honline]
      · rename_i hoffline
        rcases ih (keys.srem projectId clientId) online with ⟨hfirst, hsecond⟩
        have hpresence : (keys.srem projectId clientId).presence = keys.presence := rfl
        simp [hfirst, hsecond, hoffline, hpresence]

/-- Removing members one after the other. -/
theorem foldl_srem (projectId : ProjectId) (dropped : List Id) :
    (dropped.foldl (fun keys clientId => keys.srem projectId clientId) keys).members =
        Function.update keys.members projectId
          ((keys.members projectId).filter fun clientId => clientId ∉ dropped) ∧
      (dropped.foldl (fun keys clientId => keys.srem projectId clientId) keys).presence =
        keys.presence ∧
      (dropped.foldl (fun keys clientId => keys.srem projectId clientId) keys).maxInFlight =
        keys.maxInFlight ∧
      (dropped.foldl (fun keys clientId => keys.srem projectId clientId) keys).inFlight =
        keys.inFlight ∧
      (dropped.foldl (fun keys clientId => keys.srem projectId clientId) keys).cursor =
        keys.cursor := by
  induction dropped generalizing keys with
  | nil => simp
  | cons clientId dropped ih =>
      rcases ih (keys.srem projectId clientId) with ⟨hmembers, hrest⟩
      refine ⟨?_, hrest⟩
      rw [List.foldl_cons, hmembers]
      simp only [srem, Function.update_self, Function.update_idem, List.filter_filter]
      congr 2
      funext other
      simp [not_or, Bool.and_comm]

/-- `listOnline` answers the online members and drops the others. -/
theorem listOnline_eq (projectId : ProjectId) :
    keys.listOnline projectId = (keys.online projectId, keys.prune projectId) := by
  rcases keys.listOnlineFrom_eq projectId (keys.members projectId) [] with ⟨hfirst, hsecond⟩
  rcases keys.foldl_srem projectId
    ((keys.members projectId).filter fun clientId => !keys.presence clientId) with
    ⟨hmembers, hpresence, hmaximum, hcount, hcursor⟩
  have hkept : ((keys.members projectId).filter fun clientId => decide (clientId ∉
      (keys.members projectId).filter fun clientId => !keys.presence clientId)) =
      keys.online projectId := by
    refine List.filter_congr fun clientId hmem => ?_
    simp [hmem]
  refine Prod.ext (by rw [listOnline, hfirst, List.nil_append]; rfl) ?_
  rw [listOnline, hsecond]
  ext1
  · rw [hmembers, hkept]
    rfl
  · exact hpresence
  · exact hmaximum
  · exact hcount
  · exact hcursor

/-! ## The loop -/

/-- A device below its capacity. -/
def free (clientId : Id) : Bool := keys.inFlight clientId < keys.getMaxInFlight clientId

/-- One more call on a device. -/
def take (clientId : Id) : PresenceKeys Id :=
  keys.setInFlight clientId (keys.inFlight clientId + 1)

/-- `ACQUIRE_SLOT_LUA` takes a slot of a free device, and leaves the others alone. -/
theorem tryAcquireSlot_eq {clientId : Id} (h : keys.inFlight clientId < maximumInteger) :
    keys.tryAcquireSlot clientId (keys.getMaxInFlight clientId) =
      if keys.free clientId then some (true, keys.take clientId) else some (false, keys) := by
  rw [tryAcquireSlot, increment_eq h, Option.map_some]
  by_cases hfree : keys.inFlight clientId < keys.getMaxInFlight clientId
  · rw [if_neg (by omega), if_pos (by simpa [free] using hfree)]
    rfl
  · rw [if_pos (by omega), if_neg (by simpa [free] using hfree)]
    have hsame : (keys.setInFlight clientId (keys.inFlight clientId + 1)).setInFlight clientId
        (keys.inFlight clientId + 1 - 1) = keys := by
      simp [setInFlight, Function.update_idem]
    rw [hsame]

/-- A rotation, and the one that starts at the next place. -/
theorem rotate_succ {α : Type} {xs : List α} (h : xs ≠ []) (k : Nat) :
    ∃ x rest, xs[k % xs.length]? = some x ∧ xs.rotate k = x :: rest ∧
      xs.rotate (k + 1) = rest ++ [x] := by
  have hlength : 0 < xs.length := List.length_pos_of_ne_nil h
  cases hrotate : xs.rotate k with
  | nil => exact absurd (List.rotate_eq_nil_iff.mp hrotate) h
  | cons x rest =>
      refine ⟨x, rest, ?_, rfl, ?_⟩
      · rw [← List.head?_rotate (Nat.mod_lt k hlength), List.rotate_mod, hrotate, List.head?_cons]
      · rw [← List.rotate_rotate, hrotate, List.rotate_cons_succ, List.rotate_zero]

/-- The loop answers the first free device among those it has left. -/
theorem acquireFrom_eq {online : List Id} {remaining : Nat}
    (hne : online ≠ []) (hbound : ∀ clientId ∈ online, keys.inFlight clientId < maximumInteger)
    (hremaining : remaining ≤ online.length) (startingIndex offset : Nat) :
    acquireFrom online startingIndex remaining offset keys =
      some (match ((online.rotate (startingIndex + offset)).take remaining).find? keys.free with
        | some clientId => (.device clientId, keys.take clientId)
        | none => (.saturated, keys)) := by
  induction remaining generalizing offset with
  | zero => simp [acquireFrom]
  | succ remaining ih =>
      rcases rotate_succ hne (startingIndex + offset) with ⟨clientId, rest, hget, hrotate, hnext⟩
      have hmem : clientId ∈ online := List.mem_of_getElem? hget
      have hrest : remaining ≤ rest.length := by
        have hlength := congrArg List.length hrotate
        rw [List.length_rotate, List.length_cons] at hlength
        omega
      have htake : (online.rotate (startingIndex + (offset + 1))).take remaining =
          rest.take remaining := by
        rw [← Nat.add_assoc, hnext, List.take_append_of_le_length hrest]
      rw [acquireFrom, hget]
      simp only [keys.tryAcquireSlot_eq (hbound clientId hmem), hrotate, List.take_succ_cons,
        List.find?_cons]
      cases hfree : keys.free clientId with
      | true => simp
      | false =>
          have hloop := ih (by omega) (offset + 1)
          rw [htake] at hloop
          simpa using hloop

/-! ## One call -/

/-- What a selection answers: the first free device in cyclic order. -/
def answer (projectId : ProjectId) : Selected Id :=
  if keys.online projectId = [] then .noDevice
  else
    match ((keys.sorted projectId).rotate
      ((keys.cursor projectId + 1) % (keys.sorted projectId).length)).find? keys.free with
    | some clientId => .device clientId
    | none => .saturated

/-- The numbers of the project are exact: no counter and no cursor is about to overflow. -/
structure Countable (projectId : ProjectId) : Prop where
  counters : ∀ clientId ∈ keys.online projectId, keys.inFlight clientId < maximumInteger
  cursor : keys.cursor projectId + 1 ≤ 2 ^ 53

variable {keys} {projectId : ProjectId}

theorem mem_sorted {clientId : Id} :
    clientId ∈ keys.sorted projectId ↔ clientId ∈ keys.online projectId :=
  (List.perm_insertionSort _ _).mem_iff

theorem sorted_eq_nil : keys.sorted projectId = [] ↔ keys.online projectId = [] := by
  rw [← List.length_eq_zero_iff, ← List.length_eq_zero_iff, sorted, List.length_insertionSort]

theorem increment_cursor {value : Nat} (h : value + 1 ≤ 2 ^ 53) :
    increment (value : Int) = some ((value + 1 : Nat) : Int) := by
  have hbound : (value : Int) < maximumInteger := by
    unfold maximumInteger
    omega
  rw [increment_eq hbound]
  rfl

/-- A call, on exact numbers: the answer, and what it writes. -/
theorem pickOnlineAcquire_eq (h : keys.Countable projectId) :
    ∃ after, keys.pickOnlineAcquire projectId = some (keys.answer projectId, after) ∧
      after.members = Function.update keys.members projectId (keys.online projectId) ∧
      after.presence = keys.presence ∧
      after.maxInFlight = keys.maxInFlight ∧
      after.inFlight = (match keys.answer projectId with
        | .device clientId =>
            Function.update keys.inFlight clientId (keys.inFlight clientId + 1)
        | _ => keys.inFlight) ∧
      after.cursor = if keys.online projectId = [] then keys.cursor
        else Function.update keys.cursor projectId (keys.cursor projectId + 1) := by
  by_cases hnone : keys.online projectId = []
  · refine ⟨keys.prune projectId, ?_, rfl, rfl, rfl, ?_, ?_⟩
    · rw [pickOnlineAcquire, listOnline_eq, answer]
      simp [hnone]
    · simp only [answer, hnone, if_true]
      rfl
    · rw [if_pos hnone]
      rfl
  · let advanced : PresenceKeys Id :=
      { keys.prune projectId with
        cursor := Function.update keys.cursor projectId (keys.cursor projectId + 1) }
    have hsorted : keys.sorted projectId ≠ [] := mt sorted_eq_nil.mp hnone
    have hbound : ∀ clientId ∈ keys.sorted projectId,
        advanced.inFlight clientId < maximumInteger :=
      fun clientId hmem => h.counters clientId (mem_sorted.mp hmem)
    have hloop := advanced.acquireFrom_eq hsorted hbound le_rfl
      ((keys.cursor projectId + 1) % (keys.sorted projectId).length) 0
    have htake : ((keys.sorted projectId).rotate
        ((keys.cursor projectId + 1) % (keys.sorted projectId).length)).take
          (keys.sorted projectId).length =
        (keys.sorted projectId).rotate
          ((keys.cursor projectId + 1) % (keys.sorted projectId).length) :=
      List.take_of_length_le (by rw [List.length_rotate])
    have hcall : keys.pickOnlineAcquire projectId =
        advanced.acquireFrom (keys.sorted projectId)
          ((keys.cursor projectId + 1) % (keys.sorted projectId).length)
          (keys.sorted projectId).length 0 := by
      have hcursor : (keys.prune projectId).cursor = keys.cursor := rfl
      simp only [pickOnlineAcquire, listOnline_eq, if_neg hnone, hcursor,
        increment_cursor h.cursor, Option.bind_some, Int.toNat_natCast, asNumber_eq h.cursor]
      rfl
    simp only [Nat.add_zero, htake] at hloop
    have hfree : advanced.free = keys.free := rfl
    rw [hcall, hloop, hfree, answer, if_neg hnone]
    cases ((keys.sorted projectId).rotate
        ((keys.cursor projectId + 1) % (keys.sorted projectId).length)).find? keys.free with
    | none => exact ⟨advanced, rfl, rfl, rfl, rfl, rfl, (if_neg hnone).symm⟩
    | some clientId =>
        exact ⟨advanced.take clientId, rfl, rfl, rfl, rfl, rfl, (if_neg hnone).symm⟩

theorem answer_noDevice : keys.answer projectId = .noDevice ↔ keys.online projectId = [] := by
  rw [answer]
  split
  · simp [*]
  · rename_i hsome
    split <;> simp [hsome]

theorem answer_saturated :
    keys.answer projectId = .saturated ↔
      keys.online projectId ≠ [] ∧
        ∀ clientId ∈ keys.online projectId,
          keys.getMaxInFlight clientId ≤ keys.inFlight clientId := by
  rw [answer]
  split
  · simp [*]
  · rename_i hsome
    split
    · rename_i clientId hfind
      have hmem := List.mem_of_find?_eq_some hfind
      rw [List.mem_rotate, mem_sorted] at hmem
      have hfree := List.find?_some hfind
      simp only [free, decide_eq_true_eq] at hfree
      simp only [reduceCtorEq, false_iff, not_and, not_forall]
      exact fun _ => ⟨clientId, hmem, by omega⟩
    · rename_i hfind
      simp only [true_iff]
      refine ⟨hsome, fun clientId hmem => ?_⟩
      have hfull := List.find?_eq_none.mp hfind clientId
        (List.mem_rotate.mpr (mem_sorted.mpr hmem))
      simpa [free] using hfull

theorem answer_device {clientId : Id} :
    keys.answer projectId = .device clientId ↔
      ((keys.sorted projectId).rotate
        ((keys.cursor projectId + 1) % (keys.sorted projectId).length)).find? keys.free =
          some clientId := by
  rw [answer]
  split
  · rename_i hnone
    simp [sorted_eq_nil.mpr hnone]
  · cases ((keys.sorted projectId).rotate
        ((keys.cursor projectId + 1) % (keys.sorted projectId).length)).find? keys.free <;> simp

/-! ## Fairness -/

/-- Calls one after the other on the online devices {lit}`ids`, none of them full at a call.
Between two calls anything may happen that leaves the cursor. -/
inductive Calls (projectId : ProjectId) (ids : Finset Id) :
    PresenceKeys Id → List (Selected Id) → PresenceKeys Id → Prop where
  | done (keys : PresenceKeys Id) : Calls projectId ids keys [] keys
  | between {keys keys' last : PresenceKeys Id} {answers : List (Selected Id)}
      (hcursor : keys'.cursor projectId = keys.cursor projectId)
      (hrest : Calls projectId ids keys' answers last) :
      Calls projectId ids keys answers last
  | call {keys keys' last : PresenceKeys Id} {answer : Selected Id}
      {answers : List (Selected Id)}
      (honline : (keys.online projectId).toFinset = ids)
      (hfree : ∀ clientId ∈ ids, keys.inFlight clientId < keys.getMaxInFlight clientId)
      (hcall : keys.pickOnlineAcquire projectId = some (answer, keys'))
      (hrest : Calls projectId ids keys' answers last) :
      Calls projectId ids keys (answer :: answers) last

/-- The order of the selection depends on the set of the online devices only. -/
theorem sorted_eq_sort {ids : Finset Id} (h : (keys.online projectId).toFinset = ids) :
    keys.sorted projectId = ids.sort (· ≤ ·) := by
  have hnodup : (keys.online projectId).Nodup := (keys.nodup projectId).filter _
  have hperm : (keys.online projectId).Perm (ids.sort (· ≤ ·)) := by
    rw [List.perm_ext_iff_of_nodup hnodup (Finset.sort_nodup _ _)]
    intro clientId
    rw [Finset.mem_sort, ← h, List.mem_toFinset]
  exact ((List.perm_insertionSort _ _).trans hperm).eq_of_pairwise'
    (List.pairwise_insertionSort _ _) (Finset.pairwise_sort _ _)

omit [LinearOrder Id] in
theorem getMaxInFlight_lt (keys : PresenceKeys Id) (clientId : Id) :
    (keys.getMaxInFlight clientId : Int) < maximumInteger := by
  have hle : keys.getMaxInFlight clientId ≤ 1024 := by
    unfold getMaxInFlight clampMaxInFlight
    split
    · decide
    · split
      · decide
      · exact min_le_left _ _
    · decide
  unfold maximumInteger
  omega

/-- A call on free devices answers the next one in cyclic order. -/
theorem pick_free {ids : Finset Id} {selected : Selected Id} {after : PresenceKeys Id}
    {next : Id} {rest : List Id} (honline : (keys.online projectId).toFinset = ids)
    (hfree : ∀ clientId ∈ ids, keys.inFlight clientId < keys.getMaxInFlight clientId)
    (hcursor : keys.cursor projectId + 1 ≤ 2 ^ 53)
    (hcall : keys.pickOnlineAcquire projectId = some (selected, after))
    (hrotate : (ids.sort (· ≤ ·)).rotate (keys.cursor projectId + 1) = next :: rest) :
    selected = .device next ∧ after.cursor projectId = keys.cursor projectId + 1 := by
  have hsorted : keys.sorted projectId = ids.sort (· ≤ ·) := sorted_eq_sort honline
  have hmem : ∀ clientId, clientId ∈ keys.online projectId ↔ clientId ∈ ids := by
    intro clientId
    rw [← honline, List.mem_toFinset]
  have hnext : next ∈ ids := by
    rw [← Finset.mem_sort (· ≤ ·), ← List.mem_rotate, hrotate]
    exact List.mem_cons_self
  have hne : keys.online projectId ≠ [] := List.ne_nil_of_mem ((hmem next).mpr hnext)
  have hcount : keys.Countable projectId :=
    { counters := fun clientId hclient =>
        (hfree clientId ((hmem clientId).mp hclient)).trans (keys.getMaxInFlight_lt clientId)
      cursor := hcursor }
  have hanswer : keys.answer projectId = .device next := by
    have hfirst : keys.free next = true := by simpa [free] using hfree next hnext
    rw [answer_device, hsorted, List.rotate_mod, hrotate, List.find?_cons, hfirst]
  rcases pickOnlineAcquire_eq hcount with ⟨after', heq, -, -, -, -, hafter⟩
  rw [heq, Option.some.injEq, Prod.mk.injEq] at hcall
  rcases hcall with ⟨hselected, rfl⟩
  rw [if_neg hne] at hafter
  exact ⟨hselected.symm.trans hanswer, by rw [hafter, Function.update_self]⟩

/-- Consecutive calls go round the devices. -/
theorem calls_eq {ids : Finset Id} {answers : List (Selected Id)} {last : PresenceKeys Id}
    (h : Calls projectId ids keys answers last) (hlength : answers.length ≤ ids.card)
    (hcursor : keys.cursor projectId + answers.length ≤ 2 ^ 53) :
    answers = (((ids.sort (· ≤ ·)).rotate (keys.cursor projectId + 1)).take
      answers.length).map .device := by
  induction h with
  | done keys => simp
  | between hsame hrest ih =>
      rw [← hsame] at hcursor ⊢
      exact ih hlength hcursor
  | @call keys keys' last selected answers honline hfree hcall hrest ih =>
      rw [List.length_cons] at hlength hcursor
      have hne : ids.sort (· ≤ ·) ≠ [] := by
        rw [ne_eq, ← List.length_eq_zero_iff, Finset.length_sort]
        omega
      rcases rotate_succ hne (keys.cursor projectId + 1) with ⟨next, rest, -, hrotate, hthen⟩
      have hrest : answers.length ≤ rest.length := by
        have hcard := congrArg List.length hrotate
        rw [List.length_rotate, Finset.length_sort, List.length_cons] at hcard
        omega
      rcases pick_free honline hfree (by omega) hcall hrotate with ⟨rfl, hafter⟩
      have hanswers := ih (by omega) (by omega)
      rw [hafter, hthen, List.take_append_of_le_length hrest] at hanswers
      rw [List.length_cons, hrotate, List.take_succ_cons, List.map_cons, ← hanswers]

/-- As many calls as there are devices choose each device once. -/
theorem calls_fair {ids : Finset Id} {answers : List (Selected Id)} {last : PresenceKeys Id}
    (h : Calls projectId ids keys answers last) (hlength : answers.length = ids.card)
    (hcursor : keys.cursor projectId + ids.card ≤ 2 ^ 53) {clientId : Id}
    (hmem : clientId ∈ ids) : answers.count (.device clientId) = 1 := by
  have hrange := calls_eq h hlength.le (by omega)
  have hwhole : ((ids.sort (· ≤ ·)).rotate (keys.cursor projectId + 1)).take answers.length =
      (ids.sort (· ≤ ·)).rotate (keys.cursor projectId + 1) :=
    List.take_of_length_le (by rw [List.length_rotate, Finset.length_sort, hlength])
  rw [hwhole] at hrange
  have hinjective : Function.Injective (Selected.device : Id → Selected Id) := by
    intro first second heq
    cases heq
    rfl
  rw [hrange, List.count_map_of_injective _ _ hinjective]
  exact List.count_eq_one_of_mem (List.nodup_rotate.mpr (Finset.sort_nodup _ _))
    (List.mem_rotate.mpr ((Finset.mem_sort _).mpr hmem))

end PresenceKeys

/-! ## The selection -/

/-- On exact numbers, a call prunes the members without presence, answers the first free
device in cyclic order, and changes no other key; consecutive calls are fair. -/
theorem selection_exact_and_fair (projectId : ProjectId) :
    (∀ keys : PresenceKeys Id, keys.Countable projectId →
      ∃ selected after, keys.pickOnlineAcquire projectId = some (selected, after) ∧
        after.members = Function.update keys.members projectId
          ((keys.members projectId).filter keys.presence) ∧
        (selected = .noDevice ↔
          ∀ clientId ∈ keys.members projectId, keys.presence clientId = false) ∧
        (selected = .saturated ↔ keys.online projectId ≠ [] ∧
          ∀ clientId ∈ keys.online projectId,
            keys.getMaxInFlight clientId ≤ keys.inFlight clientId) ∧
        (∀ clientId, selected = .device clientId ↔
          ((keys.sorted projectId).rotate
            ((keys.cursor projectId + 1) % (keys.sorted projectId).length)).find? keys.free =
              some clientId) ∧
        (∀ clientId, after.inFlight clientId =
          keys.inFlight clientId + if selected = .device clientId then 1 else 0) ∧
        after.presence = keys.presence ∧
        after.maxInFlight = keys.maxInFlight) ∧
      ∀ (keys : PresenceKeys Id) (ids : Finset Id) (answers : List (Selected Id))
        (last : PresenceKeys Id),
        PresenceKeys.Calls projectId ids keys answers last → answers.length = ids.card →
          keys.cursor projectId + ids.card ≤ 2 ^ 53 →
            ∀ clientId ∈ ids, answers.count (.device clientId) = 1 := by
  constructor
  · intro keys hcount
    rcases PresenceKeys.pickOnlineAcquire_eq hcount with
      ⟨after, hcall, hmembers, hpresence, hmaximum, hinFlight, -⟩
    refine ⟨keys.answer projectId, after, hcall, hmembers, ?_, PresenceKeys.answer_saturated,
      fun clientId => PresenceKeys.answer_device, ?_, hpresence, hmaximum⟩
    · simp [PresenceKeys.answer_noDevice, PresenceKeys.online]
    · intro clientId
      rw [hinFlight]
      cases hanswer : keys.answer projectId with
      | device chosen =>
          by_cases hsame : chosen = clientId
          · simp [hsame]
          · simp [hsame, Function.update_of_ne (Ne.symm hsame)]
      | noDevice => simp
      | saturated => simp
  · intro keys ids answers last hcalls hlength hcursor clientId hmem
    exact PresenceKeys.calls_fair hcalls hlength hcursor hmem

/-! ### Four devices -/

/-- Four members of one project: 9 is offline, 7 takes one call and has it, and the cursor is
behind the last device. -/
def fourDevices : PresenceKeys Nat where
  members := fun _ => [9, 3, 5, 7]
  nodup := fun _ => by decide
  presence := fun clientId => clientId ≠ 9
  maxInFlight := fun clientId => if clientId = 7 then .integer 1 else .missing
  inFlight := fun clientId => if clientId = 7 then 1 else 0
  cursor := fun _ => 4

/-- The keys behind a call. -/
def afterCall (keys : PresenceKeys Nat) : PresenceKeys Nat :=
  ((keys.pickOnlineAcquire 1).map (·.2)).getD keys

theorem pickOnlineAcquire_afterCall {keys : PresenceKeys Nat} {selected : Selected Nat}
    (h : (keys.pickOnlineAcquire 1).map (·.1) = some selected) :
    keys.pickOnlineAcquire 1 = some (selected, afterCall keys) := by
  rcases Option.map_eq_some_iff.mp h with ⟨⟨answer, after⟩, hcall, rfl⟩
  rw [afterCall, hcall]
  rfl

/-- The call of 7 has ended. -/
def released : PresenceKeys Nat := (afterCall fourDevices).setInFlight 7 0

/-- The first call drops 9 and goes past 7 to 3; when 7 is free again, three calls choose three
devices. -/
theorem selection_exact_and_fair_fourDevices :
    ∃ after, fourDevices.pickOnlineAcquire 1 = some (.device 3, after) ∧
      after.members 1 = [3, 5, 7] ∧ after.inFlight 3 = 1 ∧ after.inFlight 7 = 1 ∧
      ∃ answers last, PresenceKeys.Calls 1 {3, 5, 7} after answers last ∧
        ∀ clientId ∈ ({3, 5, 7} : Finset Nat), answers.count (.device clientId) = 1 := by
  have hcountable : fourDevices.Countable 1 :=
    { counters := by decide
      cursor := by decide }
  rcases (selection_exact_and_fair 1).1 fourDevices hcountable with
    ⟨selected, after, hcall, hmembers, -, -, hdevice, hinFlight, -⟩
  obtain rfl : selected = .device 3 := (hdevice 3).mpr (by decide)
  have hafter : after = afterCall fourDevices := by rw [afterCall, hcall]; rfl
  refine ⟨after, hcall, ?_, ?_, ?_, [.device 3, .device 5, .device 7],
    afterCall (afterCall (afterCall released)), ?_⟩
  · rw [hmembers, Function.update_self]
    decide
  · rw [hinFlight]
    decide
  · rw [hinFlight]
    decide
  have hcalls : PresenceKeys.Calls 1 {3, 5, 7} after [.device 3, .device 5, .device 7]
      (afterCall (afterCall (afterCall released))) := by
    have hcursor : released.cursor 1 = (afterCall fourDevices).cursor 1 := by
      rw [released, PresenceKeys.setInFlight]
    rw [hafter]
    exact .between hcursor
      (.call (by decide +kernel) (by decide +kernel)
        (pickOnlineAcquire_afterCall (by decide +kernel))
        (.call (by decide +kernel) (by decide +kernel)
          (pickOnlineAcquire_afterCall (by decide +kernel))
          (.call (by decide +kernel) (by decide +kernel)
            (pickOnlineAcquire_afterCall (by decide +kernel)) (.done _))))
  have hcursor : after.cursor 1 = 5 := by
    rw [hafter]
    decide +kernel
  refine ⟨hcalls, (selection_exact_and_fair 1).2 after {3, 5, 7} _ _ hcalls rfl ?_⟩
  rw [hcursor]
  decide

/-! ### A counter that overflows -/

/-- One device of one project, with a counter. -/
def oneDevice (inFlight : Int) : PresenceKeys Nat where
  members := fun _ => [7]
  nodup := fun _ => List.nodup_singleton 7
  presence := fun _ => true
  maxInFlight := fun _ => .integer 4
  inFlight := fun _ => inFlight
  cursor := fun _ => 0

/-- {lit}`INCR` refuses the largest counter, and the call answers nothing. -/
theorem counter_overflows :
    ¬ ∀ keys : PresenceKeys Nat,
      (∀ clientId ∈ keys.online 1, 0 ≤ keys.inFlight clientId) → keys.online 1 ≠ [] →
        (∀ clientId ∈ keys.online 1, keys.getMaxInFlight clientId ≤ keys.inFlight clientId) →
          ∃ after, keys.pickOnlineAcquire 1 = some (.saturated, after) := by
  intro h
  rcases h (oneDevice maximumInteger) (by decide) (by decide) (by decide) with ⟨after, hcall⟩
  have hrefused : ((oneDevice maximumInteger).pickOnlineAcquire 1).isNone = true := by
    decide +kernel
  rw [hcall] at hrefused
  cases hrefused

end Selection
end Gateway
end R2RPC
