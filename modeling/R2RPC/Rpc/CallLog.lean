import R2RPC.Library.JsonHops
import R2RPC.Library.Numerals
import R2RPC.Library.Parameters
import R2RPC.Library.Varchar

/-!
# What a call leaves in the log

Every answer of {lit}`invoke` is built by {lit}`success` or by {lit}`fail`, and queued as a
job for the row of the call.  The row mixes texts of the URL, texts of the service and
fields of the result frame, which a device may fill with any JSON.  A job reaches its row as JSON
through the queue, or as it is when the queue fails, and the driver sends every field as a text.

Main results:

- Definition {lit}`respond`: the answer to every way a call can end.
- Theorem {lit}`RequestLogJob.field_hop`: what the queue leaves of each field.
- Theorem {lit}`integerFits_number`: which numbers an {lit}`integer` column takes.
- Theorem {lit}`logged_fail`: what the service says itself always fits.
- Theorem {lit}`loggable_iff`: exactly when the row of a call is taken by its table.

Current gaps:

- The application audit of a frame is no column and is left out.
- The dates of a job, which the service makes of its clock.
-/

namespace R2RPC
namespace Rpc

open Utf16 Binary JavaScript Varchar Numerals

/-! ## Answers and jobs -/

/-- `InvokeParams`. -/
structure InvokeParams where
  project : JsString
  action : JsString
  payload : Value
  timeoutSeconds : Option JsNumber
  clientId : Option JsString
  clientRequestId : Option JsString
  accessTokenId : Option Int
  requesterUserId : Option Int

/-- `InvokeResponse`; fields of the frame are whatever the device has sent. -/
structure InvokeResponse where
  requestId : JsString
  clientId : Option JsString
  isOk : Bool
  status : Value
  httpCode : Value
  latencyMs : Int
  payload : Value
  error : Value

/-- `RequestLogJob`. -/
structure RequestLogJob where
  requestId : JsString
  project : JsString
  action : JsString
  clientId : Option JsString
  clientRequestId : Option JsString
  requesterUserId : Option Int
  accessTokenId : Option Int
  status : Value
  httpCode : Value
  latencyMs : Int
  error : Value
  requestPayload : Value
  responsePayload : Value

/-- `value ?? next`. -/
def nullish (value next : Value) : Value :=
  match value with
  | .undefined | .null => next
  | value => value

/-- `Boolean(value)`. -/
def truthy : Value → Bool
  | .undefined | .null => false
  | .boolean value => value
  | .number (.finite _ m) => m.units != 0
  | .number .nan => false
  | .number (.infinity _) => true
  | .string text => text != []
  | .array _ | .object _ _ | .function => true

/-- `value === text`. -/
def isText (value : Value) (text : JsString) : Bool :=
  match value with
  | .string value => value == text
  | _ => false

/-- A whole number. -/
def whole (n : Nat) : Value := .number (ofDecimal binary64 false n 0)

/-- `resultStatus`. -/
def resultStatus (reportedStatus isSuccessful : Value) : Value :=
  if truthy reportedStatus then reportedStatus
  else .string (if truthy isSuccessful then lit "ok" else lit "error")

variable (input : InvokeParams) (requestId : JsString) (startedAt now : Int)

/-- `success`. -/
def success (clientId : JsString) (result : Value) : InvokeResponse :=
  let isSuccessful :=
    nullish (result.get (lit "is_ok")) (.boolean (isText (result.get (lit "status")) (lit "ok")))
  { requestId
    clientId := some clientId
    isOk := truthy isSuccessful
    status := resultStatus (result.get (lit "status")) isSuccessful
    httpCode := nullish (result.get (lit "httpCode")) (whole 200)
    latencyMs := now - startedAt
    payload := result.get (lit "payload")
    error := result.get (lit "error") }

/-- `fail`. -/
def fail (clientId : Option JsString) (status : JsString) (httpCode : Nat) (error : JsString) :
    InvokeResponse where
  requestId
  clientId
  isOk := false
  status := .string status
  httpCode := whole httpCode
  latencyMs := now - startedAt
  payload := .undefined
  error := .string error

/-- The job of `enqueueRequestLog`. -/
def requestLogJob (response : InvokeResponse) : RequestLogJob where
  requestId := response.requestId
  project := input.project
  action := input.action
  clientId := response.clientId
  clientRequestId := input.clientRequestId
  requesterUserId := input.requesterUserId
  accessTokenId := input.accessTokenId
  status := response.status
  httpCode := response.httpCode
  latencyMs := response.latencyMs
  error := nullish response.error .null
  requestPayload := input.payload
  responsePayload := response.payload

/-! ## How a call ends -/

/-- The ways in which `invoke` ends, in the order of its steps. -/
inductive Outcome where
  | projectError
  | noProject
  | disabled
  | selectionError
  | offline
  | requestedBusy
  | noDevice
  | saturated
  | dispatchError
  | unavailable
  | timeout
  | result (frame : Value)

/-- The device that the call was dispatched to: the requested one, or the one that was
picked. -/
def device (picked : JsString) : JsString :=
  match input.clientId with
  | none => picked
  | some clientId => if clientId = [] then picked else clientId

/-- The message of an infrastructure error. -/
def infrastructureError : JsString := lit "基础设施异常,无法调度"

/-- The answer to each way of ending. -/
def respond (picked : JsString) : Outcome → InvokeResponse
  | .projectError => fail requestId startedAt now none (lit "error") 503 infrastructureError
  | .noProject => fail requestId startedAt now none (lit "no_project") 404 (lit "功能组不存在")
  | .disabled => fail requestId startedAt now none (lit "disabled") 403 (lit "功能组已停用")
  | .selectionError =>
      fail requestId startedAt now input.clientId (lit "error") 503 infrastructureError
  | .offline =>
      fail requestId startedAt now input.clientId (lit "offline") 503 (lit "指定设备不在线")
  | .requestedBusy =>
      fail requestId startedAt now input.clientId (lit "rejected") 429 (lit "设备在途任务已满")
  | .noDevice =>
      fail requestId startedAt now none (lit "no_device") 503 (lit "功能组内无在线设备")
  | .saturated =>
      fail requestId startedAt now none (lit "rejected") 429 (lit "功能组内设备在途任务均已满")
  | .dispatchError =>
      fail requestId startedAt now (some (device input picked)) (lit "error") 503
        infrastructureError
  | .unavailable =>
      fail requestId startedAt now (some (device input picked)) (lit "unavailable") 503
        (lit "设备连接已断开")
  | .timeout =>
      fail requestId startedAt now (some (device input picked)) (lit "timeout") 504
        (lit "超时(" ++ (input.timeoutSeconds.getD (ofDecimal binary64 false 20 0)).text ++ lit "s)")
  | .result frame => success requestId startedAt now (device input picked) frame

/-! ## The way to the row -/

/-- The way of a job to `writeSpine`: through the queue, or at once when the queue fails. -/
inductive Delivery where
  | queued
  | fallback
deriving DecidableEq

/-- A field of a job on arrival; the queue keeps the job as JSON. -/
def Delivery.field (delivery : Delivery) (value : Value) : Value :=
  match delivery with
  | .queued => value.hop.getD .undefined
  | .fallback => value

/-- A text that may be missing. -/
def textOrNull (text : Option JsString) : Value := text.elim .null .string

/-- A whole number that may be missing. -/
def idOrNull (id : Option Int) : Value := id.elim .null fun id => .number (ofInteger binary64 id)

/-- The fields of a job, in the order of its literal. -/
def RequestLogJob.fields (job : RequestLogJob) : Fields :=
  [(lit "requestId", .string job.requestId), (lit "project", .string job.project),
    (lit "action", .string job.action), (lit "clientId", textOrNull job.clientId),
    (lit "clientRequestId", textOrNull job.clientRequestId),
    (lit "requesterUserId", idOrNull job.requesterUserId),
    (lit "accessTokenId", idOrNull job.accessTokenId), (lit "status", job.status),
    (lit "httpCode", job.httpCode), (lit "latencyMs", .number (ofInteger binary64 job.latencyMs)),
    (lit "error", job.error), (lit "requestPayload", job.requestPayload),
    (lit "responsePayload", job.responsePayload)]

/-- A value that JSON can write, or that it leaves out. -/
def Writable (value : Value) : Prop := value = .undefined ∨ value.IsJson

theorem writable_textOrNull (text : Option JsString) : Writable (textOrNull text) := by
  cases text <;> exact .inr trivial

theorem writable_idOrNull (id : Option Int) : Writable (idOrNull id) := by
  cases id <;> exact .inr trivial

/-- What the queue leaves of a field. -/
theorem RequestLogJob.field_hop (job : RequestLogJob) (hstatus : Writable job.status)
    (hcode : Writable job.httpCode) (herror : Writable job.error)
    (hrequest : Writable job.requestPayload) (hresponse : Writable job.responsePayload) :
    ∀ name ∈ job.fields.map (·.1),
      (Value.object true job.fields).hop.map (·.get name) =
        some (Delivery.queued.field ((Value.object true job.fields).get name)) := by
  have hordered : Ordered job.fields :=
    ordered_of_keys (by simp only [fields, List.map_cons, List.map_nil]; decide)
  have hwritable : ∀ field ∈ job.fields, Writable field.2 := by
    simp only [fields, List.forall_mem_cons]
    exact ⟨.inr trivial, .inr trivial, .inr trivial, writable_textOrNull _, writable_textOrNull _,
      writable_idOrNull _, writable_idOrNull _, hstatus, hcode, .inr trivial, herror, hrequest,
      hresponse, by simp⟩
  have hinherited : ∀ name ∈ job.fields.map (·.1), inherited name = .undefined := by
    have hnames : ∀ name ∈ job.fields.map (·.1), name ∉ objectPrototypeKeys := by
      simp only [fields, List.map_cons, List.map_nil]
      decide
    intro name hname
    have hproto : name ≠ lit "__proto__" := by
      rintro rfl
      exact hnames _ hname (by decide)
    rw [inherited, if_neg hproto, if_neg (hnames name hname)]
  exact fun name hname => Value.get_hop_object (hinherited name hname) hordered hwritable

/-! ## The row -/

/-- A value for a text column that may be null. -/
def TextFits (limit : Nat) (value : Value) : Prop := FitsNullable limit value.prepareValue

/-- A value for a text column that may not be null. -/
def TextFitsNotNull (limit : Nat) (value : Value) : Prop := FitsNotNull limit value.prepareValue

/-- A value for an integer column that may be null. -/
def IntegerFits (value : Value) : Prop :=
  ∀ text ∈ value.prepareValue, (int4in text).isSome = true

/-- The constraints of `request_logs` on what `writeSpine` inserts for a job. -/
structure Loggable (delivery : Delivery) (job : RequestLogJob) : Prop where
  projectName : Fits 128 job.project
  actionName : Fits 128 job.action
  clientId : FitsNullable 128 job.clientId
  clientRequestId : FitsNullable 128 job.clientRequestId
  requesterUserId : ∀ id ∈ job.requesterUserId, IsInteger id
  accessTokenId : ∀ id ∈ job.accessTokenId, IsInteger id
  status : TextFitsNotNull 32 (delivery.field job.status)
  httpCode : IntegerFits (nullish (delivery.field job.httpCode) .null)
  latencyMs : IsInteger job.latencyMs
  errorMessage : TextFits 1024 (nullish (delivery.field job.error) .null)

/-- The client id that an answer carries. -/
def loggedClient (picked : JsString) : Outcome → Option JsString
  | .projectError | .noProject | .disabled | .noDevice | .saturated => none
  | .selectionError | .offline | .requestedBusy => input.clientId
  | .dispatchError | .unavailable | .timeout | .result _ => some (device input picked)

/-- A frame whose status is falsy or goes as a short text, whose code goes as the text of an
integer or not at all, and whose error goes as a text that fits or not at all. -/
structure FrameFits (delivery : Delivery) (frame : Value) : Prop where
  status : truthy (frame.get (lit "status")) = true →
    TextFitsNotNull 32 (delivery.field (frame.get (lit "status")))
  httpCode : IntegerFits (delivery.field (frame.get (lit "httpCode")))
  error : TextFits 1024 (delivery.field (frame.get (lit "error")))

/-- A call, and a way of ending, that holds nothing the table refuses. -/
structure CallFits (delivery : Delivery) (picked : JsString) (outcome : Outcome) : Prop where
  project : Fits 128 input.project
  action : Fits 128 input.action
  clientId : FitsNullable 128 (loggedClient input picked outcome)
  clientRequestId : FitsNullable 128 input.clientRequestId
  requesterUserId : ∀ id ∈ input.requesterUserId, IsInteger id
  accessTokenId : ∀ id ∈ input.accessTokenId, IsInteger id
  latency : IsInteger (now - startedAt)
  frame : ∀ frame, outcome = .result frame → FrameFits delivery frame

/-! ## Texts and numbers on their way -/

/-- What JSON can carry arrives settled. -/
theorem field_queued {value : Value} (h : value.IsJson) :
    Delivery.queued.field value = value.settled := by
  rw [Delivery.field, Value.hop_of_isJson h, Option.getD_some]

@[simp]
theorem field_string (delivery : Delivery) (text : JsString) :
    delivery.field (.string text) = .string text := by
  cases delivery with
  | queued => simp [field_queued (show (Value.string text).IsJson from trivial), Value.settled]
  | fallback => rfl

theorem prepareValue_nullish (value : Value) :
    (nullish value .null).prepareValue = value.prepareValue := by
  cases value <;> rfl

/-- What `writeSpine` completes by `null` goes as it did. -/
theorem textFits_nullish {limit : Nat} {value : Value} :
    TextFits limit (nullish value .null) ↔ TextFits limit value := by
  rw [TextFits, prepareValue_nullish, TextFits]

theorem integerFits_nullish {value : Value} :
    IntegerFits (nullish value .null) ↔ IntegerFits value := by
  rw [IntegerFits, prepareValue_nullish, IntegerFits]

/-- A missing field goes as `NULL`, whatever its way. -/
theorem prepareValue_field_missing (delivery : Delivery) {value : Value}
    (h : value = .undefined ∨ value = .null) : (delivery.field value).prepareValue = none := by
  rcases h with rfl | rfl <;> cases delivery
  · rfl
  · rfl
  · rw [field_queued (show Value.null.IsJson from trivial)]
    rfl
  · rfl

/-- Of the numbers an `integer` column takes those of 32 bits; a number that JSON has no text for
goes as `NULL` through the queue. -/
theorem integerFits_number (delivery : Delivery) (number : JsNumber) :
    IntegerFits (delivery.field (.number number)) ↔
      (delivery = .queued ∧ number.isFinite = false) ∨
        ∃ k, number.toInt = some k ∧ IsInteger k := by
  have htext : ∀ sent : JsNumber, IntegerFits (.number sent) ↔
      ∃ k, sent.toInt = some k ∧ IsInteger k := by
    intro sent
    simpa [IntegerFits, IsInteger] using int4in_text sent
  cases delivery with
  | fallback => simpa [Delivery.field] using htext number
  | queued =>
      rw [field_queued (show (Value.number number).IsJson from trivial)]
      cases number with
      | finite negative m =>
          rw [Value.settled, htext, Number.toInt_settled]
          simp [Number.isFinite]
      | nan => simp [Value.settled, IntegerFits, Value.prepareValue, Value.scalarText, Number.isFinite]
      | infinity negative =>
          simp [Value.settled, IntegerFits, Value.prepareValue, Value.scalarText, Number.isFinite]

example : IntegerFits (.string (lit " +200 ")) ∧ ¬ IntegerFits (.boolean true) := by
  simp only [IntegerFits, Value.prepareValue, Value.scalarText]
  decide

/-- A code that the service makes up. -/
theorem integerFits_whole (delivery : Delivery) {n : Nat} (h : n ≤ 2147483647) :
    IntegerFits (delivery.field (whole n)) := by
  have hprecision : (2 : Nat) ^ binary64.precision = 9007199254740992 := by decide
  refine (integerFits_number delivery _).mpr (.inr ⟨n, toInt_ofDecimal (by omega) (by decide), ?_⟩)
  exact ⟨by omega, by omega⟩

/-! ## What the service says itself -/

/-- What the service says itself always fits. -/
theorem logged_fail (delivery : Delivery) {clientId : Option JsString} {status error : JsString}
    {httpCode : Nat} (hstatus : Fits 32 status) (hcode : httpCode ≤ 2147483647)
    (herror : Fits 1024 error) :
    Loggable delivery (requestLogJob input
        (fail requestId startedAt now clientId status httpCode error)) ↔
      Fits 128 input.project ∧ Fits 128 input.action ∧ FitsNullable 128 clientId ∧
        FitsNullable 128 input.clientRequestId ∧ (∀ id ∈ input.requesterUserId, IsInteger id) ∧
        (∀ id ∈ input.accessTokenId, IsInteger id) ∧ IsInteger (now - startedAt) := by
  constructor
  · intro h
    exact ⟨h.projectName, h.actionName, h.clientId, h.clientRequestId, h.requesterUserId,
      h.accessTokenId, h.latencyMs⟩
  · rintro ⟨hproject, haction, hclient, hrequest, huser, htoken, hlatency⟩
    have hstatusText : TextFitsNotNull 32 (delivery.field (.string status)) := by
      rw [field_string]
      exact ⟨by simp, fitsNullable_some.mpr hstatus⟩
    have herrorText : TextFits 1024 (delivery.field (.string error)) := by
      rw [field_string]
      exact fitsNullable_some.mpr herror
    exact
      { projectName := hproject
        actionName := haction
        clientId := hclient
        clientRequestId := hrequest
        requesterUserId := huser
        accessTokenId := htoken
        status := hstatusText
        httpCode := integerFits_nullish.mpr (integerFits_whole delivery hcode)
        latencyMs := hlatency
        errorMessage := textFits_nullish.mpr herrorText }

/-- The message of a timeout names a number, which is short. -/
theorem fits_timeout (number : JsNumber) :
    Fits 1024 (lit "超时(" ++ number.text ++ lit "s)") := by
  have hopen : nulFree (lit "超时(") = true := by decide
  have hclose : nulFree (lit "s)") = true := by decide
  have hlength : (lit "超时(" ++ number.text ++ lit "s)").length ≤ 1024 := by
    have htext := text_length_le number
    have hparts : (lit "超时(").length = 3 ∧ (lit "s)").length = 2 := by decide
    rw [List.length_append, List.length_append]
    omega
  rw [fits_of_length_le hlength, nulFree_append, nulFree_append, hopen, hclose, nulFree_text]
  rfl

/-! ## What a frame says -/

theorem status_fits (delivery : Delivery) (frame isSuccessful : Value) :
    TextFitsNotNull 32
        (delivery.field (resultStatus (frame.get (lit "status")) isSuccessful)) ↔
      (truthy (frame.get (lit "status")) = true →
        TextFitsNotNull 32 (delivery.field (frame.get (lit "status")))) := by
  rw [resultStatus]
  cases htruthy : truthy (frame.get (lit "status")) with
  | true => simp
  | false =>
      have hdefault : Fits 32 (if truthy isSuccessful then lit "ok" else lit "error") := by
        cases truthy isSuccessful <;> decide
      simp only [Bool.false_eq_true, if_false, false_implies, iff_true, field_string]
      exact ⟨by simp, fitsNullable_some.mpr hdefault⟩

theorem code_fits (delivery : Delivery) (code : Value) :
    IntegerFits (nullish (delivery.field (nullish code (whole 200))) .null) ↔
      IntegerFits (delivery.field code) := by
  rw [integerFits_nullish]
  have hmissing : code = .undefined ∨ code = .null → IntegerFits (delivery.field code) := by
    intro h
    rw [IntegerFits, prepareValue_field_missing delivery h]
    simp
  cases code with
  | undefined | null =>
      exact iff_of_true (integerFits_whole delivery (by omega)) (hmissing (by simp))
  | _ => rfl

theorem error_fits (delivery : Delivery) (error : Value) :
    TextFits 1024 (nullish (delivery.field (nullish error .null)) .null) ↔
      TextFits 1024 (delivery.field error) := by
  rw [textFits_nullish]
  cases error with
  | undefined | null =>
      rw [TextFits, TextFits, prepareValue_field_missing delivery (by simp [nullish]),
        prepareValue_field_missing delivery (by simp)]
  | _ => rfl

/-- A frame is logged when its fields fit. -/
theorem logged_success (delivery : Delivery) (clientId : JsString) (frame : Value) :
    Loggable delivery (requestLogJob input (success requestId startedAt now clientId frame)) ↔
      (Fits 128 input.project ∧ Fits 128 input.action ∧ Fits 128 clientId ∧
        FitsNullable 128 input.clientRequestId ∧ (∀ id ∈ input.requesterUserId, IsInteger id) ∧
        (∀ id ∈ input.accessTokenId, IsInteger id) ∧ IsInteger (now - startedAt)) ∧
        FrameFits delivery frame := by
  constructor
  · intro h
    refine ⟨⟨h.projectName, h.actionName, fitsNullable_some.mp h.clientId, h.clientRequestId,
      h.requesterUserId, h.accessTokenId, h.latencyMs⟩, ?_⟩
    exact
      { status := (status_fits delivery frame _).mp h.status
        httpCode := (code_fits delivery _).mp h.httpCode
        error := (error_fits delivery _).mp h.errorMessage }
  · rintro ⟨⟨hproject, haction, hclient, hrequest, huser, htoken, hlatency⟩, hframe⟩
    exact
      { projectName := hproject
        actionName := haction
        clientId := fitsNullable_some.mpr hclient
        clientRequestId := hrequest
        requesterUserId := huser
        accessTokenId := htoken
        status := (status_fits delivery frame _).mpr hframe.status
        httpCode := (code_fits delivery _).mpr hframe.httpCode
        latencyMs := hlatency
        errorMessage := (error_fits delivery _).mpr hframe.error }

/-- Without a frame a call fits by its own parts. -/
theorem callFits_iff {delivery : Delivery} {picked : JsString} {outcome : Outcome}
    (houtcome : ∀ frame, outcome ≠ .result frame) :
    CallFits input startedAt now delivery picked outcome ↔
      Fits 128 input.project ∧ Fits 128 input.action ∧
        FitsNullable 128 (loggedClient input picked outcome) ∧
        FitsNullable 128 input.clientRequestId ∧ (∀ id ∈ input.requesterUserId, IsInteger id) ∧
        (∀ id ∈ input.accessTokenId, IsInteger id) ∧ IsInteger (now - startedAt) := by
  constructor
  · intro h
    exact ⟨h.project, h.action, h.clientId, h.clientRequestId, h.requesterUserId, h.accessTokenId,
      h.latency⟩
  · rintro ⟨hproject, haction, hclient, hrequest, huser, htoken, hlatency⟩
    exact ⟨hproject, haction, hclient, hrequest, huser, htoken, hlatency,
      fun frame heq => absurd heq (houtcome frame)⟩

/-- The row of a call is taken exactly when the call and the frame hold nothing that the
table refuses. -/
theorem loggable_iff (delivery : Delivery) (picked : JsString) (outcome : Outcome) :
    Loggable delivery
        (requestLogJob input (respond input requestId startedAt now picked outcome)) ↔
      CallFits input startedAt now delivery picked outcome := by
  cases outcome with
  | result frame =>
      rw [respond, logged_success]
      constructor
      · rintro ⟨⟨hproject, haction, hclient, hrequest, huser, htoken, hlatency⟩, hframe⟩
        refine ⟨hproject, haction, fitsNullable_some.mpr hclient, hrequest, huser, htoken, hlatency,
          fun frame' heq => ?_⟩
        rw [Outcome.result.injEq] at heq
        exact heq ▸ hframe
      · intro h
        exact ⟨⟨h.project, h.action, fitsNullable_some.mp h.clientId, h.clientRequestId,
          h.requesterUserId, h.accessTokenId, h.latency⟩, h.frame frame rfl⟩
  | timeout =>
      rw [respond, callFits_iff input startedAt now (by simp)]
      exact logged_fail _ _ _ _ _ (by decide) (by decide) (fits_timeout _)
  | noProject =>
      rw [respond, callFits_iff input startedAt now (by simp)]
      exact logged_fail _ _ _ _ _ (by decide) (by decide) (by decide)
  | disabled =>
      rw [respond, callFits_iff input startedAt now (by simp)]
      exact logged_fail _ _ _ _ _ (by decide) (by decide) (by decide)
  | requestedBusy | saturated =>
      rw [respond, callFits_iff input startedAt now (by simp)]
      exact logged_fail _ _ _ _ _ (by decide) (by decide) (by decide)
  | projectError | selectionError | offline | noDevice | dispatchError | unavailable =>
      rw [respond, callFits_iff input startedAt now (by simp)]
      exact logged_fail _ _ _ _ _ (by decide) (by decide) (by decide)

/-- A call of an online device. -/
def sampleCall : InvokeParams where
  project := lit "billing"
  action := lit "quote"
  payload := .object true []
  timeoutSeconds := none
  clientId := none
  clientRequestId := none
  accessTokenId := some 5
  requesterUserId := none

/-- A frame that reports an error. -/
def errorFrame (error : JsString) : Value :=
  .object true [(lit "is_ok", .boolean false), (lit "error", .string error)]

theorem errorFrame_error (error : JsString) :
    (errorFrame error).get (lit "error") = .string error := by
  have hother : (lit "is_ok" == lit "error") = false := by decide
  simp [errorFrame, Value.get, lookup, hother]

/-- A device that reports an error of 1025 characters leaves no row behind. -/
theorem longError_unlogged :
    ¬ ∀ delivery input requestId startedAt now picked outcome,
      Loggable delivery
        (requestLogJob input (respond input requestId startedAt now picked outcome)) := by
  intro h
  have hlogged := h .queued sampleCall (lit "r") 0 10 (lit "device-a")
    (.result (errorFrame (List.replicate 1025 97)))
  rw [respond, logged_success] at hlogged
  have herror := hlogged.2.error
  rw [errorFrame_error, field_string, TextFits, Value.prepareValue_string, fitsNullable_some] at herror
  exact absurd herror (by decide +kernel)

end Rpc
end R2RPC
