import R2RPC.Library.JsonHops
import R2RPC.Rpc.CallLog
import R2RPC.Rpc.Timeouts

/-!
# The way of a payload

A call crosses several texts: the job may pass the bus before it is sent on the socket, the
result may pass it on the way back, and the answer is written once more for the caller. What the
handler gets and what the caller gets does not depend on which instances took part. On its way a
call meets the clocks of three machines: of the instance that sends it, of the device, and of the
instance that waits.

Main results:

- Definitions {lit}`sentJob`, {lit}`receivedJob`, {lit}`returned`: the texts of one call.
- Definition {lit}`InTime`: the call meets no deadline and no timer on its way.
- Theorem {lit}`job_received`: the job that a handler is called with.
- Theorem {lit}`exchange_eq`: what the caller reads, in time or not.

Current gaps:

- Sessions that are missing, sockets that are closed, faults of Redis, results of other requests
  and the expiry of the waiter's key.
- Handlers that throw or are not registered, and results that JSON cannot write.
- The pipes in front of the controller and the handlers of the Kotlin device.
-/

namespace R2RPC
namespace Rpc
namespace Transport

open Utf16 Binary JavaScript JavaScriptDevice.Jobs Timeouts

/-! ## The job -/

/-- A call that the pipes let through. -/
structure AcceptedCall where
  input : InvokeParams
  accepted : ∀ n, input.timeoutSeconds = some n → ∃ k : Int, n.toInt = some k ∧ 1 ≤ k
  json : input.payload.IsJson

def AcceptedCall.timeout (call : AcceptedCall) : AcceptedTimeout :=
  ⟨call.input.timeoutSeconds, call.accepted⟩

/-- The object literal of `dispatchAndAwaitResult`. -/
def jobValue (call : AcceptedCall) (requestId : JsString) (startedAt : ClockReading) : Value :=
  .object true
    [(lit "type", .string (lit "job")), (lit "requestId", .string requestId),
      (lit "project", .string call.input.project), (lit "action", .string call.input.action),
      (lit "payload", call.input.payload),
      (lit "timeoutSeconds", .number call.timeout.timeoutSeconds),
      (lit "deadlineAt", .number (call.timeout.deadlineAt startedAt))]

/-- Whether the other end is held by this instance. -/
inductive Route where
  | thisInstance
  | bus
deriving DecidableEq, Repr

/-- A deadline as comparisons and differences see it: `null` is zero. -/
def deadlineOf : Value → Option JsNumber
  | .undefined => none
  | .number n => some n
  | _ => some (ofInteger binary64 0)

@[simp]
theorem deadlineOf_number (n : JsNumber) : deadlineOf (.number n) = some n := rfl

/-- `deadlineAt && Date.now() > deadlineAt`. -/
def expired (deadlineAt : Value) (now : ClockReading) : Bool :=
  truthy deadlineAt && (deadlineOf deadlineAt).any fun deadline => !now.number.le deadline

theorem expired_number (deadlineAt : JsNumber) (now : ClockReading) :
    expired (.number deadlineAt) now =
      (truthy (.number deadlineAt) && !now.number.le deadlineAt) := by
  rw [expired, deadlineOf_number, Option.any_some]

/-- `deliverLocalJob`: the text that is sent on the socket, `none` for `false`. -/
def deliverLocalJob (job : Value) (now : ClockReading) : Option JsString :=
  if expired (job.get (lit "deadlineAt")) now then none else job.stringify

/-- The text that is sent on the socket: `dispatchJob` and `deliverLocalJob`. -/
def sentJob (clientId : JsString) (job : Value) (now : ClockReading) : Route → Option JsString
  | .thisInstance => deliverLocalJob job now
  | .bus =>
      (Value.object true [(lit "clientId", .string clientId), (lit "job", job)]).hop.bind
        fun message => deliverLocalJob (message.get (lit "job")) now

/-- `isRpcJob`, and the job that it lets through. -/
def rpcJob (message : Value) : Option RpcJob :=
  if isText (message.get (lit "type")) (lit "job") then
    match message.get (lit "requestId"), message.get (lit "project"), message.get (lit "action"),
        message.get (lit "timeoutSeconds") with
    | .string requestId, .string project, .string action, .number timeoutSeconds =>
        some
          { requestId, project, action, timeoutSeconds
            payload := message.get (lit "payload")
            deadlineAt := deadlineOf (message.get (lit "deadlineAt")) }
    | _, _, _, _ => none
  else none

/-- `handleMessage`, for a job. -/
def receivedJob (text : JsString) : Option RpcJob := (parse text).bind rpcJob

/-! ## The result -/

/-- The clocks and the timers that one call meets. -/
structure Timing where
  /-- The clock of the instance that holds the socket. -/
  sent : ClockReading
  /-- The clock of the device: as the job arrives, and as the handler's timer is set. -/
  received : ClockReading
  started : ClockReading
  /-- Milliseconds until the handler has a result, and how late its timer is. -/
  handled : Nat
  handlerLag : Nat
  /-- Milliseconds until the result is back, and how late the waiter's timer is. -/
  returned : Nat
  waiterLag : Nat
  /-- The clock of the instance that answers. -/
  answered : Int

/-- The handler has its result before its timer fires. -/
def Timing.isHandled (timing : Timing) (job : RpcJob) : Bool :=
  timing.handled <
    timerDelay (resolveTimeoutMilliseconds job timing.started.number) + timing.handlerLag

/-- The turns of the device: a job that is late needs no handler. -/
def turns (job : RpcJob) (result : DeviceActionResult) (timing : Timing) : List Action :=
  .job job timing.received.number timing.started.number (some .returns) ::
    if job.isLate timing.received.number then []
    else
      [if timing.isHandled job then .settles 0 (.fulfilled (some result)) else .timer 0,
        .continues 0]

/-- What the device sends for a job. -/
def reply (engine : EngineErrors) (clientId : JsString) (job : RpcJob)
    (result : DeviceActionResult) (timing : Timing) : Option ResultMessage :=
  ((machine engine clientId).run connected (turns job result timing)).bind (·.sent.head?)

/-- The result that the waiter of a request gets from a frame: `onMessage` and `handleResult`. -/
def returned (requestId clientId text : JsString) (route : Route) : Option Value :=
  (parse text).bind fun message =>
    if isText (message.get (lit "type")) (lit "result") &&
        isText (message.get (lit "requestId")) requestId then
      match route with
      | .thisInstance => some message
      | .bus =>
          (Value.object true
            [(lit "requestId", message.get (lit "requestId")), (lit "result", message),
              (lit "fromClientId", .string clientId)]).hop.map (·.get (lit "result"))
    else none

/-- The body of an answer. -/
def responseValue (response : InvokeResponse) : Value :=
  .object true
    [(lit "requestId", .string response.requestId),
      (lit "clientId", (response.clientId.map .string).getD .null),
      (lit "is_ok", .boolean response.isOk), (lit "status", response.status),
      (lit "httpCode", response.httpCode),
      (lit "latencyMs", .number (ofInteger binary64 response.latencyMs)),
      (lit "payload", response.payload), (lit "error", response.error)]

section Call

variable (engine : EngineErrors) (call : AcceptedCall) (requestId picked : JsString)
  (startedAt : ClockReading) (timing : Timing) (handler : RpcJob → DeviceActionResult)

/-- `resultPromise` of a job that was sent: the result, or the waiter's timer. -/
def awaitResult (clientId text : JsString) (resultRoute : Route) : Option Outcome := do
  let job ← receivedJob text
  let message ← reply engine clientId job (handler job) timing
  let frame ← message.toValue
  let text ← frame.stringify
  let result ← returned requestId clientId text resultRoute
  return if timing.returned < timerDelay call.timeout.timeoutMilliseconds + timing.waiterLag
    then .result result else .timeout

/-- `dispatchAndAwaitResult`: what is dropped behind the bus is waited for. -/
def dispatchAndAwaitResult (jobRoute resultRoute : Route) : Option Outcome :=
  let clientId := device call.input picked
  match sentJob clientId (jobValue call requestId startedAt) timing.sent jobRoute, jobRoute with
  | none, .thisInstance => some .unavailable
  | none, .bus => some .timeout
  | some text, _ => awaitResult engine call requestId timing handler clientId text resultRoute

/-- A call from the controller to the handler and back to the caller's SDK. -/
def exchange (jobRoute resultRoute : Route) : Option Value :=
  (dispatchAndAwaitResult engine call requestId picked startedAt timing handler jobRoute
    resultRoute).bind fun outcome =>
      (responseValue
        (respond call.input requestId startedAt.milliseconds timing.answered picked outcome)).hop

end Call

/-! ## The job arrives -/

/-- The job that a handler is called with. -/
def jobOf (call : AcceptedCall) (requestId : JsString) (startedAt : ClockReading) : RpcJob where
  requestId
  project := call.input.project
  action := call.input.action
  payload := call.input.payload.settled
  timeoutSeconds := call.timeout.timeoutSeconds
  deadlineAt := deadlineOf (Value.number (call.timeout.deadlineAt startedAt)).settled

/-- No deadline and no timer is in the way of a call. -/
structure InTime (call : AcceptedCall) (requestId : JsString) (startedAt : ClockReading)
    (timing : Timing) : Prop where
  sent : expired (.number (call.timeout.deadlineAt startedAt)) timing.sent = false
  received : (jobOf call requestId startedAt).isLate timing.received.number = false
  handled : timing.isHandled (jobOf call requestId startedAt) = true
  returned : timing.returned < timerDelay call.timeout.timeoutMilliseconds + timing.waiterLag

/-- An integer from one on is settled. -/
theorem settled_number {n : JsNumber} {k : Int} (htoInt : n.toInt = some k) (hpos : 1 ≤ k) :
    (Value.number n).settled = .number n := by
  obtain ⟨negative, m, hfinite, hm⟩ := Number.finite_of_toInt htoInt
  have hunits : m.units ≠ 0 := by
    intro hzero
    have hscale : (0 : Int) < 2 ^ binary64.scale := by positivity
    have hpositive : 0 < Number.signed negative m := by
      rw [hm]
      exact Int.mul_pos (by omega) hscale
    simp [Number.signed, hzero] at hpositive
  rw [hfinite, Value.settled, Number.settled]
  simp [hunits]

theorem settled_timeoutSeconds (timeout : AcceptedTimeout) :
    (Value.number timeout.timeoutSeconds).settled = .number timeout.timeoutSeconds :=
  settled_number timeout.seconds_spec.1 timeout.seconds_spec.2

theorem jobOf_deadlineAt (call : AcceptedCall) (requestId : JsString) (startedAt : ClockReading) :
    (jobOf call requestId startedAt).deadlineAt =
      deadlineOf (Value.number (call.timeout.deadlineAt startedAt)).settled := by
  rw [jobOf]

theorem deadlineOf_settled {n : JsNumber} {k : Int} (htoInt : n.toInt = some k) (hpos : 1 ≤ k) :
    deadlineOf (Value.number n).settled = some n := by
  rw [settled_number htoInt hpos, deadlineOf_number]

section InRange

variable {call : AcceptedCall} (requestId : JsString) {startedAt : ClockReading}
  (hrange : call.timeout.seconds ≤ 2147483) (hepoch : 0 ≤ startedAt.milliseconds)

include hrange hepoch

theorem jobOf_deadline :
    (jobOf call requestId startedAt).deadlineAt = some (call.timeout.deadlineAt startedAt) := by
  have hpos := call.timeout.seconds_spec.2
  rw [jobOf_deadlineAt, deadlineOf_settled (toInt_deadlineAt startedAt hrange) (by omega)]

theorem isLate_iff (now : ClockReading) :
    (jobOf call requestId startedAt).isLate now.number = true ↔
      startedAt.milliseconds + call.timeout.seconds * 1000 ≤ now.milliseconds := by
  rw [RpcJob.isLate, jobOf_deadline requestId hrange hepoch]
  exact Number.le_iff (toInt_deadlineAt startedAt hrange) now.toInt_number

/-- Up to the longest timer, a call is in time where the clocks say so. -/
theorem inTime_of_range {timing : Timing}
    (hsent : timing.sent.milliseconds ≤ startedAt.milliseconds + call.timeout.seconds * 1000)
    (hreceived : timing.received.milliseconds <
      startedAt.milliseconds + call.timeout.seconds * 1000)
    (hhandled : timing.handled < min (call.timeout.seconds * 1000)
      (startedAt.milliseconds + call.timeout.seconds * 1000 - timing.started.milliseconds))
    (hreturned : timing.returned < call.timeout.seconds * 1000) :
    InTime call requestId startedAt timing where
  sent := by
    have hle := (Number.le_iff timing.sent.toInt_number (toInt_deadlineAt startedAt hrange)).mpr
      hsent
    rw [expired_number, hle, Bool.not_true, Bool.and_false]
  received := by
    rw [Bool.eq_false_iff, ne_eq, isLate_iff requestId hrange hepoch]
    omega
  handled := by
    have hdelay := javaScriptDelay_eq startedAt hrange timing.started (by omega)
    have hsame : resolveTimeoutMilliseconds (jobOf call requestId startedAt)
        timing.started.number =
          resolveTimeoutMilliseconds (call.timeout.job startedAt) timing.started.number := by
      rw [resolveTimeoutMilliseconds, resolveTimeoutMilliseconds,
        jobOf_deadline requestId hrange hepoch, AcceptedTimeout.job, jobOf]
    rw [Timing.isHandled, hsame, ← AcceptedTimeout.javaScriptDelay]
    exact decide_eq_true (by omega)
  returned := by
    have hdelay := timerDelay_timeoutMilliseconds hrange
    omega

end InRange

theorem jobValue_isJson (call : AcceptedCall) (requestId : JsString) (startedAt : ClockReading) :
    (jobValue call requestId startedAt).IsJson := by
  rw [jobValue, Value.IsJson, Value.isJsonFields_iff]
  refine ⟨rfl, ordered_of_keys (by simp only [List.map_cons, List.map_nil]; decide), ?_⟩
  simp [Value.IsJson, call.json]

/-- A deadline is as far away on arrival. -/
theorem expired_settled {deadlineAt : JsNumber} (h : deadlineAt ≠ .infinity true)
    (now : ClockReading) :
    expired (Value.number deadlineAt).settled now = expired (.number deadlineAt) now := by
  cases deadlineAt with
  | finite negative m =>
      rw [Value.settled, Number.settled, expired_number, expired_number]
      by_cases hzero : m.units = 0
      · simp only [truthy, hzero, bne_self_eq_false, Bool.false_and]
      · have hsign : (negative && m.units != 0) = negative := by simp [hzero]
        rw [hsign]
  | nan =>
      have hnull : (Value.number .nan).settled = .null := rfl
      rw [hnull, expired_number, expired, truthy, truthy, Bool.false_and, Bool.false_and]
  | infinity negative =>
      cases negative with
      | true => exact absurd rfl h
      | false =>
          obtain ⟨sign, m, hfinite, -⟩ := Number.finite_of_toInt now.toInt_number
          have hle : now.number.le (.infinity false) = true := by rw [hfinite, Number.le]; rfl
          have hnull : (Value.number (.infinity false)).settled = .null := rfl
          rw [hnull, expired_number, hle, Bool.not_true, Bool.and_false, expired, truthy,
            Bool.false_and]

theorem deadlineAt_ne_infinity (timeout : AcceptedTimeout) (startedAt : ClockReading) :
    timeout.deadlineAt startedAt ≠ .infinity true := by
  obtain ⟨htoInt, hpos⟩ := timeout.seconds_spec
  have hbound := startedAt.bounded
  have hprecision : (2 : Nat) ^ binary64.precision = 9007199254740992 := by decide
  exact Number.add_mul_ne_infinity htoInt (toInt_integer (by decide)) startedAt.toInt_number
    (by omega) (by decide) (by rw [hprecision]; omega) binary64_roomy

/-- Whichever instance holds the socket, it sends the same text, unless the deadline has passed. -/
theorem sentJob_eq (call : AcceptedCall) (requestId clientId : JsString)
    (startedAt now : ClockReading) (route : Route) :
    sentJob clientId (jobValue call requestId startedAt) now route =
      if expired (.number (call.timeout.deadlineAt startedAt)) now then none
      else (jobValue call requestId startedAt).stringify := by
  have hget : (jobValue call requestId startedAt).get (lit "deadlineAt") =
      .number (call.timeout.deadlineAt startedAt) := rfl
  cases route with
  | thisInstance => rw [sentJob, deliverLocalJob, hget]
  | bus =>
      have hjson := jobValue_isJson call requestId startedAt
      have hmessage : (Value.object true [(lit "clientId", .string clientId),
          (lit "job", jobValue call requestId startedAt)]).IsJson := by
        rw [Value.IsJson, Value.isJsonFields_iff]
        refine ⟨rfl, ordered_of_keys (by simp only [List.map_cons, List.map_nil]; decide), ?_⟩
        simp [Value.IsJson, hjson]
      have hsettled : (jobValue call requestId startedAt).settled.get (lit "deadlineAt") =
          (Value.number (call.timeout.deadlineAt startedAt)).settled := by
        rw [← hget, jobValue, Value.get_settled rfl]
      rw [sentJob, Value.hop_of_isJson hmessage, Option.bind_some]
      change deliverLocalJob (jobValue call requestId startedAt).settled now = _
      rw [deliverLocalJob, hsettled, expired_settled (deadlineAt_ne_infinity call.timeout startedAt),
        Value.stringify_settled]

theorem rpcJob_fields (requestId project action : JsString) (payload deadlineAt : Value)
    (timeoutSeconds : JsNumber) :
    rpcJob (.object true
      [(lit "type", .string (lit "job")), (lit "requestId", .string requestId),
        (lit "project", .string project), (lit "action", .string action),
        (lit "payload", payload), (lit "timeoutSeconds", .number timeoutSeconds),
        (lit "deadlineAt", deadlineAt)]) =
      some
        { requestId, project, action, payload, timeoutSeconds,
          deadlineAt := deadlineOf deadlineAt } := rfl

theorem rpcJob_settled (call : AcceptedCall) (requestId : JsString) (startedAt : ClockReading) :
    rpcJob (jobValue call requestId startedAt).settled = some (jobOf call requestId startedAt) := by
  have hstring : ∀ text, (Value.string text).settled = .string text := fun _ => rfl
  have hfields : (jobValue call requestId startedAt).settled = .object true
      [(lit "type", .string (lit "job")), (lit "requestId", .string requestId),
        (lit "project", .string call.input.project), (lit "action", .string call.input.action),
        (lit "payload", call.input.payload.settled),
        (lit "timeoutSeconds", .number call.timeout.timeoutSeconds),
        (lit "deadlineAt", (Value.number (call.timeout.deadlineAt startedAt)).settled)] := by
    rw [jobValue, Value.settled_object]
    simp only [List.map_cons, List.map_nil, settled_timeoutSeconds, hstring]
  rw [hfields, rpcJob_fields, jobOf]

/-- The handler is called with the names and the settled payload of the call, whichever instance
holds the socket. -/
theorem job_received (call : AcceptedCall) (requestId clientId : JsString)
    (startedAt now : ClockReading) (route : Route)
    (hsent : expired (.number (call.timeout.deadlineAt startedAt)) now = false) :
    (sentJob clientId (jobValue call requestId startedAt) now route).bind receivedJob =
      some (jobOf call requestId startedAt) := by
  have hjson := jobValue_isJson call requestId startedAt
  rcases Value.parse_stringify hjson with ⟨text, htext, hparse⟩
  rw [sentJob_eq, hsent, if_neg Bool.false_ne_true, htext, Option.bind_some, receivedJob, hparse,
    Option.bind_some, rpcJob_settled]

/-! ## The device answers -/

/-- What the device reports for a job. -/
def reported (job : RpcJob) (result : DeviceActionResult) (timing : Timing) :
    DeviceActionResult :=
  if job.isLate timing.received.number then
    failure "timeout" 408 (lit "job deadline 已过期")
  else if timing.isHandled job then result
  else
    failure "timeout" 408
      (lit "Action 执行超过 " ++
        (resolveTimeoutMilliseconds job timing.started.number).text ++ lit " ms")

/-- The device sends the frame of what it reports. -/
theorem reply_eq (engine : EngineErrors) (clientId : JsString) (job : RpcJob)
    {result : DeviceActionResult} (timing : Timing)
    (h : (resultMessage clientId job result).toValue.isSome = true) :
    reply engine clientId job result timing =
      some (resultMessage clientId job (reported job result timing)) := by
  have hanswer : ∀ state : State, state.socketOpen = true → state.sent = [] → ∀ answer,
      (resultMessage clientId job answer).toValue.isSome = true →
        (state.answer engine clientId job (.fulfilled (some answer))).sent.head? =
          some (resultMessage clientId job answer) := by
    intro state hopen hempty answer hvalue
    rw [State.answer, State.sendResult, State.send_open hopen hvalue]
    simp [hempty]
  rw [reply, turns, reported]
  cases hlate : job.isLate timing.received.number with
  | true =>
      have hstep : (machine engine clientId).step connected
          (.job job timing.received.number timing.started.number (some .returns)) =
            some (connected.handleJob engine clientId job timing.received.number
              timing.started.number (some .returns)) := rfl
      rw [if_pos rfl, if_pos rfl, Interleaving.Machine.run, hstep, Option.bind_some,
        Interleaving.Machine.run, Option.bind_some, State.handleJob, if_pos hlate]
      rfl
  | false =>
      have hstep : (machine engine clientId).step connected
          (.job job timing.received.number timing.started.number (some .returns)) =
            some { connected with
              jobs := [executeWithTimeout job timing.started.number .returns] } := by
        change some (connected.handleJob engine clientId job _ _ _) = _
        rw [State.handleJob, if_neg (by simp [hlate])]
        rfl
      rw [if_neg Bool.false_ne_true, if_neg Bool.false_ne_true, Interleaving.Machine.run, hstep,
        Option.bind_some, Interleaving.Machine.run]
      cases hhandled : timing.isHandled job with
      | true =>
          exact hanswer ⟨true, [(executeWithTimeout job timing.started.number .returns).settle
            (.fulfilled (some result))], []⟩ rfl rfl result h
      | false =>
          exact hanswer ⟨true, [(executeWithTimeout job timing.started.number .returns).timeOut], []⟩
            rfl rfl _ (toValue_failure ..)

/-! ## The result comes back -/

/-- A property that JSON can write, or that is left out. -/
def Plain (value : HostValue) : Prop :=
  ∃ content, value = .value content ∧ (content = .undefined ∨ content.IsJson)

/-- What a handler may return. -/
structure Serialisable (result : DeviceActionResult) : Prop where
  payload : Plain result.payload
  status : Plain result.status
  isOk : Plain result.isOk
  httpCode : Plain result.httpCode
  error : Plain result.error
  appAudit : Plain result.appAudit

/-- `value ?? other` of properties that JSON can write. -/
theorem field_orElse {value : HostValue} (h : Plain value) (other : Value) (hother : other.IsJson)
    (key : String) :
    ∃ content, (value.orElse (.value other)).field key = some (lit key, content) ∧
      content.IsJson := by
  rcases h with ⟨content, rfl, hcontent⟩
  cases content with
  | undefined => exact ⟨other, rfl, hother⟩
  | null => exact ⟨other, rfl, hother⟩
  | function => rcases hcontent with hcontent | hcontent <;> cases hcontent
  | boolean value => exact ⟨_, rfl, trivial⟩
  | number n => exact ⟨_, rfl, trivial⟩
  | string text => exact ⟨_, rfl, trivial⟩
  | array elements => exact ⟨_, rfl, hcontent.resolve_left (by simp)⟩
  | object inherits fields => exact ⟨_, rfl, hcontent.resolve_left (by simp)⟩

theorem optionalField_of_plain {value : HostValue} (h : Plain value) (key : String) :
    ∃ fields, value.optionalField key = some fields ∧
      (fields = [] ∧ value = .value .undefined ∨
        ∃ content, value = .value content ∧ fields = [(lit key, content)] ∧ content.IsJson) := by
  rcases h with ⟨content, rfl, hcontent⟩
  cases content with
  | undefined => exact ⟨[], rfl, .inl ⟨rfl, rfl⟩⟩
  | _ => exact ⟨_, rfl, .inr ⟨_, rfl, rfl, hcontent.resolve_left (by simp)⟩⟩

/-- The fields of a result frame. -/
theorem frame_spec (clientId : JsString) (job : RpcJob) {result : DeviceActionResult}
    (h : Serialisable result) :
    ∃ fields, (resultMessage clientId job result).toValue = some (.object true fields) ∧
      (Value.object true fields).IsJson ∧
      (Value.object true fields).get (lit "type") = .string (lit "result") ∧
      (Value.object true fields).get (lit "requestId") = .string job.requestId ∧
      result.payload = .value ((Value.object true fields).get (lit "payload")) := by
  obtain ⟨status, hstatus, hstatusJson⟩ := field_orElse h.status
    (.string (if result.isOk.isFalse then lit "error" else lit "ok")) trivial "status"
  obtain ⟨isOk, hisOk, hisOkJson⟩ := field_orElse h.isOk (.boolean true) trivial "is_ok"
  obtain ⟨httpCode, hhttpCode, hhttpCodeJson⟩ := field_orElse h.httpCode
    (.number (ofInteger binary64 (if result.isOk.isFalse then 500 else 200))) trivial
    "httpCode"
  obtain ⟨payload, hpayload, hpayloadFields⟩ := optionalField_of_plain h.payload "payload"
  obtain ⟨error, herror, herrorFields⟩ := optionalField_of_plain h.error "error"
  obtain ⟨appAudit, happAudit, happAuditFields⟩ := optionalField_of_plain h.appAudit "appAudit"
  refine ⟨[(lit "type", .string (lit "result")), (lit "requestId", .string job.requestId),
    (lit "clientId", .string clientId), (lit "status", status), (lit "is_ok", isOk),
    (lit "httpCode", httpCode)] ++ payload ++ error ++ appAudit, ?_, ?_, rfl, rfl, ?_⟩
  · simp only [ResultMessage.toValue, resultMessage, hstatus, hisOk, hhttpCode, hpayload, herror,
      happAudit, Option.bind_eq_bind, Option.bind_some, Option.pure_def]
  · rw [Value.IsJson, Value.isJsonFields_iff]
    refine ⟨rfl, ordered_of_keys ?_, ?_⟩
    · rcases hpayloadFields with ⟨rfl, -⟩ | ⟨_, -, rfl, -⟩ <;>
        rcases herrorFields with ⟨rfl, -⟩ | ⟨_, -, rfl, -⟩ <;>
        rcases happAuditFields with ⟨rfl, -⟩ | ⟨_, -, rfl, -⟩ <;>
        simp only [List.map_append, List.map_cons, List.map_nil] <;> decide
    · have hjson : ∀ {fields : Fields} {value : HostValue} {key : String},
          (fields = [] ∧ value = .value .undefined ∨
            ∃ content, value = .value content ∧ fields = [(lit key, content)] ∧ content.IsJson) →
          ∀ field ∈ fields, field.2.IsJson := by
        rintro fields value key (⟨rfl, -⟩ | ⟨content, -, rfl, hcontent⟩) field hfield
        · exact absurd hfield List.not_mem_nil
        · rw [List.mem_singleton.mp hfield]
          exact hcontent
      intro field hfield
      simp only [List.mem_append, List.mem_cons, List.not_mem_nil, or_false] at hfield
      rcases hfield with (((rfl | rfl | rfl | rfl | rfl | rfl) | hfield) | hfield) | hfield
      · trivial
      · trivial
      · trivial
      · exact hstatusJson
      · exact hisOkJson
      · exact hhttpCodeJson
      · exact hjson hpayloadFields field hfield
      · exact hjson herrorFields field hfield
      · exact hjson happAuditFields field hfield
  · rcases hpayloadFields with ⟨rfl, hnone⟩ | ⟨content, hsome, rfl, -⟩
    · rw [hnone]
      rcases herrorFields with ⟨rfl, -⟩ | ⟨_, -, rfl, -⟩ <;>
        rcases happAuditFields with ⟨rfl, -⟩ | ⟨_, -, rfl, -⟩ <;> rfl
    · rw [hsome]
      rfl

theorem inherited_response : ∀ key ∈ [lit "type", lit "requestId", lit "status", lit "is_ok",
    lit "httpCode", lit "payload", lit "error"], inherited key = .undefined := by
  simp only [List.forall_mem_cons]
  exact ⟨rfl, rfl, rfl, rfl, rfl, rfl, rfl, by simp⟩

/-- Whichever instance waits, its waiter gets the settled frame. -/
theorem returned_eq {fields : Fields} {requestId text : JsString}
    (hjson : (Value.object true fields).IsJson)
    (htype : (Value.object true fields).get (lit "type") = .string (lit "result"))
    (hrequest : (Value.object true fields).get (lit "requestId") = .string requestId)
    (htext : (Value.object true fields).stringify = some text) (clientId : JsString)
    (route : Route) :
    returned requestId clientId text route = some (Value.object true fields).settled := by
  have hparse : parse text = some (Value.object true fields).settled := by
    rcases Value.parse_stringify hjson with ⟨other, hother, hparse⟩
    rw [← hparse, Option.some.inj (htext.symm.trans hother)]
  have hsettled := Value.isJson_settled hjson
  have htype' : (Value.object true fields).settled.get (lit "type") = .string (lit "result") := by
    rw [Value.get_settled (inherited_response _ (by simp)), htype]
    rfl
  have hrequest' : (Value.object true fields).settled.get (lit "requestId") =
      .string requestId := by
    rw [Value.get_settled (inherited_response _ (by simp)), hrequest]
    rfl
  rw [returned, hparse, Option.bind_some, htype', hrequest']
  simp only [isText, beq_self_eq_true, Bool.and_self, if_true]
  cases route with
  | thisInstance => rfl
  | bus =>
      have hmessage : (Value.object true [(lit "requestId", .string requestId),
          (lit "result", (Value.object true fields).settled),
          (lit "fromClientId", .string clientId)]).IsJson := by
        rw [Value.IsJson, Value.isJsonFields_iff]
        refine ⟨rfl, ordered_of_keys (by simp only [List.map_cons, List.map_nil]; decide), ?_⟩
        simp [Value.IsJson, hsettled]
      rw [Value.hop_of_isJson hmessage, Option.map_some]
      exact congrArg some (Value.settled_settled hjson)

/-! ## The answer -/

theorem nullish_isJson {value : Value} (next : Value) (h : value = .undefined ∨ value.IsJson)
    (hnext : next.IsJson) : (nullish value next).IsJson := by
  unfold nullish
  split
  next => exact hnext
  next => exact hnext
  next hundefined _ => exact h.resolve_left hundefined

/-- A field that the caller reads. -/
theorem get_answer {key : JsString} (hkey : inherited key = .undefined)
    (response : InvokeResponse) :
    (responseValue response).pruned.settled.get key =
      ((responseValue response).get key).settled := by
  rw [responseValue, Value.get_hop hkey (by simp only [List.map_cons, List.map_nil]; decide)]

/-- The body of an answer can be written. -/
theorem hop_responseValue {response : InvokeResponse} (hstatus : response.status.IsJson)
    (hhttpCode : response.httpCode.IsJson)
    (hpayload : response.payload = .undefined ∨ response.payload.IsJson)
    (herror : response.error = .undefined ∨ response.error.IsJson) :
    (responseValue response).hop = some (responseValue response).pruned.settled := by
  refine Value.hop_eq (Value.pruned_isJson
    (ordered_of_keys (by simp only [List.map_cons, List.map_nil]; decide)) fun field hmem => ?_)
  simp only [List.mem_cons, List.not_mem_nil, or_false] at hmem
  rcases hmem with rfl | rfl | rfl | rfl | rfl | rfl | rfl | rfl
  · exact .inr trivial
  · cases response.clientId with
    | none => exact .inr trivial
    | some clientId => exact .inr trivial
  · exact .inr trivial
  · exact .inr hstatus
  · exact .inr hhttpCode
  · exact .inr trivial
  · exact hpayload
  · exact herror

theorem hop_fail (requestId : JsString) (startedAt now : Int) (clientId : Option JsString)
    (status : JsString) (httpCode : Nat) (error : JsString) :
    (responseValue (fail requestId startedAt now clientId status httpCode error)).hop =
      some (responseValue
        (fail requestId startedAt now clientId status httpCode error)).pruned.settled :=
  hop_responseValue trivial trivial (.inl rfl) (.inr trivial)

theorem hop_success {fields : Fields} (hjson : (Value.object true fields).IsJson)
    (requestId clientId : JsString) (startedAt now : Int) :
    (responseValue (success requestId startedAt now clientId (.object true fields))).hop =
      some (responseValue
        (success requestId startedAt now clientId (.object true fields))).pruned.settled := by
  have hfield : ∀ key ∈ [lit "status", lit "is_ok", lit "httpCode", lit "payload", lit "error"],
      (Value.object true fields).get key = .undefined ∨
        ((Value.object true fields).get key).IsJson := by
    intro key hkey
    have hamong : key ∈ [lit "type", lit "requestId", lit "status", lit "is_ok",
        lit "httpCode", lit "payload", lit "error"] :=
      List.mem_cons_of_mem _ (List.mem_cons_of_mem _ hkey)
    exact Value.get_isJson (inherited_response key hamong) hjson
  have hstatus : (success requestId startedAt now clientId (.object true fields)).status.IsJson := by
    rw [success, resultStatus]
    split
    next htruthy =>
      refine (hfield (lit "status") (by simp)).resolve_left fun hundefined => ?_
      rw [hundefined] at htruthy
      contradiction
    next => trivial
  exact hop_responseValue hstatus
    (nullish_isJson (whole 200) (hfield (lit "httpCode") (by simp)) trivial)
    (hfield (lit "payload") (by simp)) (hfield (lit "error") (by simp))

/-! ## Calls that meet a clock -/

theorem settled_whole {n : Nat} (hpos : 1 ≤ n) (h : n ≤ 9007199254740992) :
    (whole n).settled = whole n :=
  settled_number (toInt_ofDecimal h (by decide)) (by exact_mod_cast hpos)

/-- The answer to a call that was not handled in time: the device was not there any more, the
waiter's timer fired, or the device gave up. -/
def Unhandled (answer : Value) : Prop :=
  answer.get (lit "is_ok") = .boolean false ∧ answer.get (lit "payload") = .undefined ∧
    ∃ ending ∈ [("unavailable", 503), ("timeout", 504), ("timeout", 408)],
      answer.get (lit "status") = .string (lit ending.1) ∧
        answer.get (lit "httpCode") = whole ending.2

theorem unhandled_of_response {response : InvokeResponse} {ending : String × Nat}
    (hending : ending ∈ [("unavailable", 503), ("timeout", 504), ("timeout", 408)])
    (hisOk : response.isOk = false) (hpayload : response.payload = .undefined)
    (hstatus : response.status = .string (lit ending.1))
    (hhttpCode : response.httpCode = whole ending.2) :
    Unhandled (responseValue response).pruned.settled := by
  have hcode : 1 ≤ ending.2 ∧ ending.2 ≤ 9007199254740992 := by
    have hall : ∀ ending ∈ [("unavailable", 503), ("timeout", 504), ("timeout", 408)],
        1 ≤ ending.2 ∧ ending.2 ≤ 9007199254740992 := by decide
    exact hall ending hending
  refine ⟨?_, ?_, ending, hending, ?_, ?_⟩
  · rw [get_answer (inherited_response _ (by simp))]
    change Value.boolean response.isOk = _
    rw [hisOk]
  · rw [get_answer (inherited_response _ (by simp))]
    change response.payload.settled = _
    rw [hpayload]
    rfl
  · rw [get_answer (inherited_response _ (by simp))]
    change response.status.settled = _
    rw [hstatus]
    rfl
  · rw [get_answer (inherited_response _ (by simp))]
    change response.httpCode.settled = _
    rw [hhttpCode, settled_whole hcode.1 hcode.2]

/-- The answer to what the device reports when a clock or a timer is in the way. -/
theorem unhandled_failure {fields : Fields} {clientId : JsString} {job : RpcJob}
    {error : JsString} (hframe :
      (resultMessage clientId job (failure "timeout" 408 error)).toValue =
        some (.object true fields)) (requestId picked : JsString) (startedAt now : Int) :
    Unhandled (responseValue (success requestId startedAt now picked
      (Value.object true fields).settled)).pruned.settled := by
  have hfields : (Value.object true fields) = .object true
      [(lit "type", .string (lit "result")), (lit "requestId", .string job.requestId),
        (lit "clientId", .string clientId), (lit "status", .string (lit "timeout")),
        (lit "is_ok", .boolean false), (lit "httpCode", whole 408),
        (lit "error", .string error)] := (Option.some.inj hframe).symm
  have hsettled : (Value.object true fields).settled = .object true
      [(lit "type", .string (lit "result")), (lit "requestId", .string job.requestId),
        (lit "clientId", .string clientId), (lit "status", .string (lit "timeout")),
        (lit "is_ok", .boolean false), (lit "httpCode", whole 408),
        (lit "error", .string error)] := by
    rw [hfields, Value.settled_object]
    simp only [List.map_cons, List.map_nil, settled_whole (by decide : 1 ≤ 408) (by decide)]
    rfl
  rw [hsettled]
  exact unhandled_of_response (show ("timeout", 408) ∈ _ by simp) rfl rfl rfl rfl

section Call

variable (engine : EngineErrors) (call : AcceptedCall) (requestId picked : JsString)
  (startedAt : ClockReading) (timing : Timing) {handler : RpcJob → DeviceActionResult}

/-- What the device reports for a call. -/
abbrev deviceResult (handler : RpcJob → DeviceActionResult) : DeviceActionResult :=
  reported (jobOf call requestId startedAt) (handler (jobOf call requestId startedAt)) timing

theorem failure_serialisable (status : String) (httpCode : Nat) (error : JsString) :
    Serialisable (failure status httpCode error) where
  payload := ⟨_, rfl, .inl rfl⟩
  status := ⟨_, rfl, .inr trivial⟩
  isOk := ⟨_, rfl, .inr trivial⟩
  httpCode := ⟨_, rfl, .inr trivial⟩
  error := ⟨_, rfl, .inr trivial⟩
  appAudit := ⟨_, rfl, .inl rfl⟩

variable {call requestId startedAt timing} (handler) in
/-- A device that sends a result in time, and is late all the same, says so. -/
theorem deviceResult_of_late
    (hsent : expired (.number (call.timeout.deadlineAt startedAt)) timing.sent = false)
    (hreturned : timing.returned <
      timerDelay call.timeout.timeoutMilliseconds + timing.waiterLag)
    (hlate : ¬ InTime call requestId startedAt timing) :
    ∃ error, deviceResult call requestId startedAt timing handler =
      failure "timeout" 408 error := by
  rw [deviceResult, reported]
  by_cases hreceived : (jobOf call requestId startedAt).isLate timing.received.number = true
  · exact ⟨_, if_pos hreceived⟩
  · rw [if_neg hreceived]
    by_cases hhandled : timing.isHandled (jobOf call requestId startedAt) = true
    · exact absurd ⟨hsent, by simpa using hreceived, hhandled, hreturned⟩ hlate
    · exact ⟨_, if_neg hhandled⟩

/-- How a call ends. -/
theorem dispatchAndAwaitResult_eq
    (h : Serialisable (handler (jobOf call requestId startedAt))) :
    ∃ fields, (resultMessage (device call.input picked) (jobOf call requestId startedAt)
        (deviceResult call requestId startedAt timing handler)).toValue =
          some (.object true fields) ∧
      (Value.object true fields).IsJson ∧
      (deviceResult call requestId startedAt timing handler).payload =
        .value ((Value.object true fields).get (lit "payload")) ∧
      ∀ jobRoute resultRoute,
        dispatchAndAwaitResult engine call requestId picked startedAt timing handler jobRoute
            resultRoute =
          some (if expired (.number (call.timeout.deadlineAt startedAt)) timing.sent then
            match jobRoute with
            | .thisInstance => .unavailable
            | .bus => .timeout
          else if timing.returned <
              timerDelay call.timeout.timeoutMilliseconds + timing.waiterLag then
            .result (Value.object true fields).settled
          else .timeout) := by
  have hreported : Serialisable (deviceResult call requestId startedAt timing handler) := by
    rw [deviceResult, reported]
    split
    · exact failure_serialisable ..
    · split
      · exact h
      · exact failure_serialisable ..
  obtain ⟨fields, hframe, hjson, htype, hrequest, hpayload⟩ :=
    frame_spec (device call.input picked) (jobOf call requestId startedAt) hreported
  refine ⟨fields, hframe, hjson, hpayload, fun jobRoute resultRoute => ?_⟩
  have hsent := sentJob_eq call requestId (device call.input picked) startedAt timing.sent jobRoute
  unfold dispatchAndAwaitResult
  by_cases hexpired : expired (.number (call.timeout.deadlineAt startedAt)) timing.sent = true
  · rw [if_pos hexpired] at hsent
    rw [if_pos hexpired]
    simp only [hsent]
    cases jobRoute with
    | thisInstance => rfl
    | bus => rfl
  · have hreceived := job_received call requestId (device call.input picked) startedAt timing.sent
      jobRoute (by simpa using hexpired)
    obtain ⟨sent, hsent, hreceived⟩ := Option.bind_eq_some_iff.mp hreceived
    rcases Value.parse_stringify hjson with ⟨text, htext, -⟩
    have hreturned := returned_eq hjson htype hrequest htext (device call.input picked)
      resultRoute
    obtain ⟨handled, hhandled, -⟩ :=
      frame_spec (device call.input picked) (jobOf call requestId startedAt) h
    have hreply := reply_eq engine (device call.input picked) (jobOf call requestId startedAt)
      timing (Option.isSome_iff_exists.mpr ⟨_, hhandled⟩)
    rw [if_neg hexpired]
    have hid : (jobOf call requestId startedAt).requestId = requestId := rfl
    rw [hid] at hreturned
    simp only [hsent]
    rw [awaitResult, hreceived, Option.bind_eq_bind, Option.bind_some, hreply, Option.bind_eq_bind,
      Option.bind_some, hframe, Option.bind_eq_bind, Option.bind_some, htext, Option.bind_eq_bind,
      Option.bind_some, hreturned, Option.bind_some, Option.pure_def]

end Call

/-- Whatever instances a call passes: in time, the handler gets the names and the settled payload,
and the caller reads the answer to the settled frame, with the handler's payload settled. A call
that meets a deadline or a timer on its way is answered as such, and carries no payload. -/
theorem exchange_eq (engine : EngineErrors) (call : AcceptedCall) (requestId picked : JsString)
    (startedAt : ClockReading) (timing : Timing) (handler : RpcJob → DeviceActionResult)
    (h : Serialisable (handler (jobOf call requestId startedAt))) :
    (InTime call requestId startedAt timing →
      ∃ frame, (resultMessage (device call.input picked) (jobOf call requestId startedAt)
          (handler (jobOf call requestId startedAt))).toValue = some frame ∧
        ∀ jobRoute resultRoute, ∃ answer,
          exchange engine call requestId picked startedAt timing handler jobRoute resultRoute =
              some answer ∧
            answer = (responseValue (success requestId startedAt.milliseconds timing.answered
              (device call.input picked) frame.settled)).pruned.settled ∧
            (handler (jobOf call requestId startedAt)).payload =
              .value (frame.get (lit "payload")) ∧
            answer.get (lit "payload") = (frame.get (lit "payload")).settled) ∧
      (¬ InTime call requestId startedAt timing → ∀ jobRoute resultRoute, ∃ answer,
        exchange engine call requestId picked startedAt timing handler jobRoute resultRoute =
          some answer ∧ Unhandled answer) := by
  obtain ⟨fields, hframe, hjson, hpayload, houtcome⟩ :=
    dispatchAndAwaitResult_eq engine call requestId picked startedAt timing h
  have hsettled : (Value.object true fields).settled.IsJson := Value.isJson_settled hjson
  rw [Value.settled_object] at hsettled
  have hanswer := hop_success hsettled requestId (device call.input picked)
    startedAt.milliseconds timing.answered
  rw [← Value.settled_object] at hanswer
  constructor
  · intro hintime
    have hreported : deviceResult call requestId startedAt timing handler =
        handler (jobOf call requestId startedAt) := by
      rw [deviceResult, reported, hintime.received, if_neg Bool.false_ne_true, hintime.handled,
        if_pos rfl]
    rw [hreported] at hframe hpayload
    refine ⟨_, hframe, fun jobRoute resultRoute => ⟨_, ?_, rfl, hpayload, ?_⟩⟩
    · rw [exchange, houtcome, hintime.sent, if_neg Bool.false_ne_true, if_pos hintime.returned,
        Option.bind_some, respond, hanswer]
    · have hkey := inherited_response (lit "payload") (by simp)
      rw [get_answer hkey]
      change ((Value.object true fields).settled.get (lit "payload")).settled = _
      rw [Value.get_settled hkey]
      rcases Value.get_isJson hkey hjson with hundefined | hvalue
      · rw [hundefined]
        rfl
      · exact Value.settled_settled hvalue
  · intro hlate jobRoute resultRoute
    rw [exchange, houtcome, Option.bind_some]
    by_cases hexpired : expired (.number (call.timeout.deadlineAt startedAt)) timing.sent = true
    · rw [if_pos hexpired]
      cases jobRoute with
      | thisInstance =>
          exact ⟨_, hop_fail .., unhandled_of_response (show ("unavailable", 503) ∈ _ by simp)
            rfl rfl rfl rfl⟩
      | bus =>
          exact ⟨_, hop_fail .., unhandled_of_response (show ("timeout", 504) ∈ _ by simp)
            rfl rfl rfl rfl⟩
    · rw [if_neg hexpired]
      by_cases hreturned : timing.returned <
          timerDelay call.timeout.timeoutMilliseconds + timing.waiterLag
      · rw [if_pos hreturned]
        obtain ⟨error, hdevice⟩ := deviceResult_of_late handler
          (by simpa using hexpired) hreturned hlate
        rw [hdevice] at hframe
        exact ⟨_, hanswer, unhandled_failure hframe requestId _ startedAt.milliseconds
          timing.answered⟩
      · rw [if_neg hreturned]
        exact ⟨_, hop_fail .., unhandled_of_response (show ("timeout", 504) ∈ _ by simp)
          rfl rfl rfl rfl⟩

/-- A call without a timeout of its own. -/
def pingCall : AcceptedCall where
  input := ⟨lit "p", lit "a", .object true [(lit "q", .string (lit "ping"))], none, none, none,
    none, none⟩
  accepted := fun n h => by cases h
  json := by
    rw [Value.IsJson, Value.isJsonFields_iff]
    refine ⟨rfl, ordered_of_keys (by simp only [List.map_cons, List.map_nil]; decide), ?_⟩
    simp [Value.IsJson]

/-- A handler that returns what it gets. -/
def echo (job : RpcJob) : DeviceActionResult :=
  ⟨.value job.payload, .value .undefined, .value .undefined, .value .undefined, .value .undefined,
    .value .undefined⟩

/-- Clocks that agree, but for the one of the device. -/
def pingTiming (ahead : Nat) (h : ahead ≤ 60000) : Timing where
  sent := ⟨1003, by decide⟩
  received := ⟨1004 + ahead, by omega⟩
  started := ⟨1005 + ahead, by omega⟩
  handled := 10
  handlerLag := 0
  returned := 30
  waiterLag := 0
  answered := 1030

theorem pingCall_seconds : pingCall.timeout.seconds = 20 := by
  have hvalue : pingCall.timeout.value = none := rfl
  rw [AcceptedTimeout.seconds, AcceptedTimeout.timeoutSeconds, hvalue, Option.getD_none,
    toInt_integer (by decide), Option.getD_some]

/-- Over the bus, the answer comes in time, and then from a device whose clock is a minute
ahead. -/
theorem exchange_eq_echo :
    (∃ answer, exchange ⟨lit "undefined", lit "cyclic"⟩ pingCall (lit "r1") (lit "d1")
        ⟨1000, by decide⟩ (pingTiming 0 (by decide)) echo .bus .bus = some answer ∧
      answer.get (lit "payload") = .object true [(lit "q", .string (lit "ping"))]) ∧
    ∃ answer, exchange ⟨lit "undefined", lit "cyclic"⟩ pingCall (lit "r1") (lit "d1")
        ⟨1000, by decide⟩ (pingTiming 60000 (by decide)) echo .bus .bus = some answer ∧
      answer.get (lit "is_ok") = .boolean false := by
  have hseconds := pingCall_seconds
  have hundefined : Plain (.value .undefined) := ⟨.undefined, rfl, .inl rfl⟩
  have hecho : Serialisable (echo (jobOf pingCall (lit "r1") ⟨1000, by decide⟩)) :=
    ⟨⟨_, rfl, .inr (Value.isJson_settled pingCall.json)⟩, hundefined, hundefined, hundefined,
      hundefined, hundefined⟩
  constructor
  · have hintime : InTime pingCall (lit "r1") ⟨1000, by decide⟩ (pingTiming 0 (by decide)) := by
      have hrange : pingCall.timeout.seconds ≤ 2147483 := by omega
      refine inTime_of_range (lit "r1") hrange (by decide) ?_ ?_ ?_ ?_ <;> rw [hseconds] <;> decide
    obtain ⟨frame, -, hanswer⟩ := (exchange_eq ⟨lit "undefined", lit "cyclic"⟩ pingCall (lit "r1")
      (lit "d1") ⟨1000, by decide⟩ (pingTiming 0 (by decide)) echo hecho).1 hintime
    obtain ⟨answer, hexchange, -, hsame, hget⟩ := hanswer .bus .bus
    refine ⟨answer, hexchange, ?_⟩
    rw [hget, ← HostValue.value.inj hsame, jobOf, Value.settled_settled pingCall.json]
    rfl
  · have hlate : ¬ InTime pingCall (lit "r1") ⟨1000, by decide⟩
        (pingTiming 60000 (by decide)) := by
      intro hintime
      have hrange : pingCall.timeout.seconds ≤ 2147483 := by omega
      have hlate := (@isLate_iff pingCall (lit "r1") ⟨1000, by decide⟩ hrange (by decide)
        (pingTiming 60000 (by decide)).received).mpr (by rw [hseconds]; decide)
      rw [hintime.received] at hlate
      exact Bool.false_ne_true hlate
    obtain ⟨answer, hexchange, hunhandled⟩ := (exchange_eq ⟨lit "undefined", lit "cyclic"⟩ pingCall
      (lit "r1") (lit "d1") ⟨1000, by decide⟩ (pingTiming 60000 (by decide)) echo hecho).2 hlate
      .bus .bus
    exact ⟨answer, hexchange, hunhandled.1⟩

end Transport
end Rpc
end R2RPC
