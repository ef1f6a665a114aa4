import R2RPC.Ws.Relay

/-!
# What a step of the relay does

Every action of the relay makes one of a few changes to the state.  They are
listed once, with the guards under which they happen, so that a proof about the
steps goes by cases on the change and unfolds none of the functions of the
source.

Main results:

- Inductive {lit}`RelayStep`: the changes and their guards.
- Theorem {lit}`RelayStep.of_step`: every step makes one of them.

Current gaps:

- None.
-/

namespace R2RPC
namespace Relay

open Interleaving

variable {Payload : Type} {s t : State Payload}

/-- The waiter that {lit}`resolveLocalWaiter` finds on an instance, and whose
identity check the sender passes. -/
structure Accepts (s : State Payload) (i : InstanceId) (key : RequestKey)
    (fromClientId : ClientId) (r : String) (w : Waiter) : Prop where
  request : key = .text r
  waiter : s.waiters i r = some w
  sender : w.clientId ≠ "" → fromClientId = w.clientId

/-- An accepted result takes the waiter whose owner sent it out of its map. -/
theorem Accepts.of_resolved {i : InstanceId} {key : RequestKey}
    {result : ResultMessage Payload} {fromClientId : ClientId}
    (h : s.resolveLocalWaiter i key result fromClientId = some t) :
    ∃ r w, Accepts s i key fromClientId r w ∧ t = s.settle i r (.resolved result) := by
  rcases State.resolveLocalWaiter_eq_some h with ⟨r, w, hkey, hw, hsender, ht⟩
  exact ⟨r, w, ⟨hkey, hw, hsender⟩, ht⟩

/-- What each action does, and the guards under which it does it.  A call that
has been acknowledged takes no further command. -/
inductive RelayStep (s : State Payload) : Action Payload → State Payload → Prop where
  | connect {k : SocketId} {i : InstanceId} {clientId : ClientId} (hnamed : clientId ≠ "")
      (hfree : s.sockets k = none) :
      RelayStep s (.connect k i clientId)
        { s with sockets := Function.update s.sockets k (some ⟨i, clientId⟩) }
  | register {i : InstanceId} {r : String} {selection : State.DeviceSelection}
      {clientId : ClientId} (hfresh : s.invocations r = none)
      (hsel : s.selectDevice selection = some clientId) :
      RelayStep s (.registerWaiter i r selection)
        ((s.setInvocation r ⟨i, clientId, .marking⟩).setWaiter i r ⟨clientId⟩)
  | mark {r : String} {v : Invocation} {fault : Fault} (stage : DispatchStage)
      (hv : s.invocations r = some v) :
      RelayStep s (.markWaiting r fault)
        ((fault.apply (State.setWaiterKey r v.instanceId) s).setInvocation r { v with stage })
  | dispatch {r : String} {v : Invocation} {outcome : State.DispatchOutcome}
      (hv : s.invocations r = some v) :
      RelayStep s (.dispatchJob r outcome) (s.setInvocation r { v with stage := outcome.next })
  | cancelAbsent {r : String} {v : Invocation} (hv : s.invocations r = some v) :
      RelayStep s (.cancelDispatch r) (s.setInvocation r { v with stage := .failed })
  | cancel {r : String} {v : Invocation} {w : Waiter} (reason : String)
      (hv : s.invocations r = some v) (hw : s.waiters v.instanceId r = some w) :
      RelayStep s (.cancelDispatch r)
        ((s.settle v.instanceId r (.cancelled reason)).setInvocation r
          { v with stage := .failed })
  | timeout {r : String} {v : Invocation} (hv : s.invocations r = some v)
      (harmed : s.timers r = true) :
      RelayStep s (.timeout r) (s.settle v.instanceId r .timedOut)
  | receive {f : CallId} {k : SocketId} {d : DeviceSocket} {message : ResultMessage Payload}
      (hfree : s.calls f = none) (hd : s.sockets k = some d) :
      RelayStep s (.receive f k message)
        (s.setCall f ⟨k, d.instanceId, d.clientId, message, .readWaiter⟩)
  | advance {f : CallId} {c : HandleResultCall Payload} (completed : String → Bool)
      (stage : HandleResultStage) (hc : s.calls f = some c)
      (hopen : ∀ outcome, c.stage ≠ .acked outcome) :
      RelayStep s (.handleResult f)
        ({ s with completedKey := completed }.setCall f { c with stage })
  | resolve {f : CallId} {c : HandleResultCall Payload} {r : String} {w : Waiter}
      (hc : s.calls f = some c) (hopen : ∀ outcome, c.stage ≠ .acked outcome)
      (haccepts : Accepts s c.instanceId c.message.requestKey c.fromClientId r w) :
      RelayStep s (.handleResult f)
        ((s.settle c.instanceId r (.resolved c.message)).setCall f
          { c with stage := .acked .ok })
  | publish {f : CallId} {c : HandleResultCall Payload} (channel : InstanceId)
      (hc : s.calls f = some c) (hopen : ∀ outcome, c.stage ≠ .acked outcome) :
      RelayStep s (.handleResult f)
        ((s.publish f ⟨channel, c.message.requestKey, c.message, c.fromClientId⟩).setCall f
          { c with stage := .acked .routed })
  | deliver {f : CallId} {m : BusMessage Payload} {r : String} {w : Waiter}
      (hm : s.bus f = some m) (haccepts : Accepts s m.channel m.requestId m.fromClientId r w) :
      RelayStep s (.deliver f)
        ({ s with bus := Function.update s.bus f none }.settle m.channel r (.resolved m.result))
  | bounce {f : CallId} {m : BusMessage Payload} (deletes : CallId → Option String)
      (hm : s.bus f = some m) :
      RelayStep s (.deliver f)
        { s with bus := Function.update s.bus f none, subscriberDeletes := deletes }
  | subscriberDelete {f : CallId} (completed : String → Bool)
      (deletes : CallId → Option String) :
      RelayStep s (.subscriberDelete f)
        { s with completedKey := completed, subscriberDeletes := deletes }
  | expireWaiterKey (r : String) :
      RelayStep s (.expireWaiterKey r)
        { s with waiterKey := Function.update s.waiterKey r none }
  | expireCompletedKey (key : String) (completed : String → Bool) :
      RelayStep s (.expireCompletedKey key) { s with completedKey := completed }

namespace RelayStep

variable {f : CallId}

/-- One awaited command of the result path. -/
theorem of_handleResult (hstep : s.handleResult f = some t) :
    RelayStep s (.handleResult f) t := by
  unfold State.handleResult at hstep
  cases hc : s.calls f with
  | none => simp [hc] at hstep
  | some c =>
      simp only [hc] at hstep
      cases hstage : c.stage with
      | readWaiter =>
          simp only [hstage] at hstep
          split at hstep <;>
            · rw [← Option.some.inj hstep]
              exact .advance s.completedKey _ hc (by simp [hstage])
      | claimCompleted waiterInstance =>
          simp only [hstage] at hstep
          split at hstep <;> rw [← Option.some.inj hstep]
          · exact .advance s.completedKey _ hc (by simp [hstage])
          · exact .advance (s.setCompleted c.key).completedKey _ hc (by simp [hstage])
      | resolveLocal =>
          simp only [hstage] at hstep
          split at hstep <;> rw [← Option.some.inj hstep]
          · rename_i resolved hres
            rcases Accepts.of_resolved hres with ⟨r, w, haccepts, hresolved⟩
            rw [hresolved]
            exact .resolve hc (by simp [hstage]) haccepts
          · exact .advance s.completedKey _ hc (by simp [hstage])
      | releaseCompleted =>
          simp only [hstage, Option.some.injEq] at hstep
          rw [← hstep]
          exact .advance (s.delCompleted c.key).completedKey _ hc (by simp [hstage])
      | publish channel =>
          simp only [hstage, Option.some.injEq] at hstep
          rw [← hstep]
          exact .publish channel hc (by simp [hstage])
      | acked outcome => simp [hstage] at hstep

/-- The subscriber settles a waiter, or leaves a delete of the completed key behind. -/
theorem of_deliver (hstep : s.deliver f = some t) : RelayStep s (.deliver f) t := by
  unfold State.deliver at hstep
  cases hm : s.bus f with
  | none => simp [hm] at hstep
  | some m =>
      simp only [hm] at hstep
      split at hstep <;> rw [← Option.some.inj hstep]
      · rename_i resolved hres
        rcases Accepts.of_resolved hres with ⟨r, w, haccepts, hresolved⟩
        rw [hresolved]
        exact .deliver hm ⟨haccepts.request, haccepts.waiter, haccepts.sender⟩
      · exact .bounce _ hm

/-- The failed dispatch takes the waiter out of its map, if it is still there. -/
theorem of_cancelDispatch {r : String} (hstep : s.cancelDispatch r = some t) :
    RelayStep s (.cancelDispatch r) t := by
  unfold State.cancelDispatch at hstep
  split at hstep
  · rename_i v hv
    split at hstep
    · rename_i reason hreason
      rw [← Option.some.inj hstep]
      unfold State.cancelWaiter
      cases hw : s.waiters v.instanceId r with
      | none => exact .cancelAbsent hv
      | some w => exact .cancel reason hv hw
    · contradiction
  · contradiction

/-- Every step of the relay makes one of the listed changes. -/
theorem of_step {a : Action Payload} (hstep : Relay.step s a = some t) : RelayStep s a t := by
  cases a with
  | connect k i clientId =>
      simp only [Relay.step, State.connect] at hstep
      split at hstep
      · contradiction
      · rename_i hguard
        rw [not_or, Option.not_isSome_iff_eq_none] at hguard
        exact (Option.some.inj hstep) ▸ .connect hguard.1 hguard.2
  | registerWaiter i r selection =>
      simp only [Relay.step, State.registerWaiter] at hstep
      split at hstep
      · rename_i clientId hfresh hsel
        exact (Option.some.inj hstep) ▸ .register hfresh hsel
      · contradiction
  | markWaiting r fault =>
      simp only [Relay.step, State.markWaiting] at hstep
      split at hstep
      · rename_i v hv
        split at hstep
        · exact (Option.some.inj hstep) ▸ .mark _ hv
        · contradiction
      · contradiction
  | dispatchJob r outcome =>
      simp only [Relay.step, State.dispatchJob] at hstep
      split at hstep
      · rename_i v hv
        split at hstep
        · exact (Option.some.inj hstep) ▸ .dispatch hv
        · contradiction
      · contradiction
  | cancelDispatch r => exact of_cancelDispatch hstep
  | timeout r =>
      simp only [Relay.step, State.timeout] at hstep
      split at hstep
      · rename_i v hv
        split at hstep
        · rename_i harmed
          exact (Option.some.inj hstep) ▸ .timeout hv harmed
        · contradiction
      · contradiction
  | receive g k message =>
      simp only [Relay.step, State.receive] at hstep
      split at hstep
      · rename_i d hfree hd
        exact (Option.some.inj hstep) ▸ .receive hfree hd
      · contradiction
  | handleResult g => exact of_handleResult hstep
  | deliver g => exact of_deliver hstep
  | subscriberDelete g =>
      simp only [Relay.step, State.subscriberDelete] at hstep
      split at hstep
      · contradiction
      · exact (Option.some.inj hstep) ▸ .subscriberDelete _ _
  | expireWaiterKey r => exact (Option.some.inj hstep) ▸ .expireWaiterKey r
  | expireCompletedKey key => exact (Option.some.inj hstep) ▸ .expireCompletedKey key _

end RelayStep

end Relay
end R2RPC
