import R2RPC.AppAudit.Schema
import R2RPC.Library.JsonTree
import R2RPC.Library.Throwing

/-!
# The recorder of the Kotlin SDK

{lit}`AppAuditRecorder` and {lit}`AppAuditStepHandle`: the calls of a program under the
recorder's lock, some of which throw, the audit that {lit}`snapshot` takes and the text
that the device sends of it.

Main results:

- Definition {lit}`run`: the calls of a program, with the recorder they leave.
- Definition {lit}`Serializer.auditTree`: the document that the serializer writes of an audit.
- Theorems {lit}`addMetadata_ok`, {lit}`startStep_ok` and {lit}`completeStep_ok`: what a call
  has checked and done.

Current gaps:

- The serialization library is a parameter: how it quotes strings, writes the elements of a
  program and reads a number from a primitive.
-/

namespace R2RPC
namespace AppAudit
namespace KotlinRecorder

open Utf16 Binary JavaScript Schema Calendar Throwing

def maximumMetadataCount : Nat := 64
def maximumStepCount : Nat := 128
def maximumAuditBytes : Nat := 512 * 1024

/-! ## JSON elements -/

/-- `JsonElement`: `JsonNull`, literals with or without quotes, `JsonUnquotedLiteral`, arrays
and objects. -/
inductive JsonElement where
  | null
  | literal (isString : Bool) (content : JsString)
  | unquoted (content : JsString)
  | array (elements : List JsonElement)
  | object (fields : List (JsString × JsonElement))

/-- `isString` and `content` of a `JsonPrimitive`. -/
def JsonElement.primitive : JsonElement → Option (Bool × JsString)
  | .null => some (false, lit "null")
  | .literal isString content => some (isString, content)
  | .unquoted content => some (false, content)
  | .array _ => none
  | .object _ => none

/-- The serialization library. -/
structure Serializer where
  /-- A string as it is written. -/
  quote : JsString → JsString
  /-- An element as it is written, unless that throws. -/
  encode : JsonElement → Option JsString
  /-- `doubleOrNull` of a primitive with this content. -/
  doubleOrNull : JsString → Option JsNumber

/-! ## Models -/

structure AppAuditMetadata where
  key : JsString
  value : JsonElement

structure AppAuditRequest where
  method : Option JsString
  url : Option JsString
  headers : Option JsonElement
  body : Option JsonElement

inductive AppAuditBodyFormat where
  | json
  | text
  | empty
deriving DecidableEq, Repr

/-- `@SerialName`. -/
def AppAuditBodyFormat.serialName : AppAuditBodyFormat → JsString
  | .json => lit "json"
  | .text => lit "text"
  | .empty => lit "empty"

structure AppAuditResponse where
  statusCode : Option Int32
  headers : Option JsonElement
  bodyFormat : Option AppAuditBodyFormat
  body : Option JsonElement

structure AppAuditError where
  type : Option JsString
  code : Option JsString
  message : Option JsString

structure AppAuditStep where
  sequence : Nat
  code : Option JsString
  name : JsString
  startedAt : JsString
  durationMs : Nat
  status : Option JsonElement
  request : Option AppAuditRequest
  response : Option AppAuditResponse
  error : Option AppAuditError

set_option linter.dupNamespace false in
structure AppAudit where
  title : JsString
  metadata : List AppAuditMetadata
  steps : List AppAuditStep

/-! ### Their documents -/

/-- The properties of a class in the order of their declaration; a null one has no document. -/
abbrev Properties := List (JsString × Option Tree)

/-- `explicitNulls = false` and `encodeDefaults = true`. -/
def Properties.fields (properties : Properties) : List (JsString × Tree) :=
  properties.filterMap fun property => property.2.map fun tree => (property.1, tree)

def Properties.tree (properties : Properties) : Tree := .object properties.fields

/-- A whole number as it is written. -/
def integerText (k : Int) : JsString :=
  if k < 0 then 45 :: decimal k.natAbs else decimal k.natAbs

def integerTree (k : Int) : Tree := .leaf (some (integerText k))

namespace Serializer

variable (serializer : Serializer)

def stringTree (text : JsString) : Tree := .leaf (some (serializer.quote text))

def elementTree (element : JsonElement) : Tree := .leaf (serializer.encode element)

def metadataProperties (item : AppAuditMetadata) : Properties :=
  [(lit "key", some (serializer.stringTree item.key)),
    (lit "value", some (serializer.elementTree item.value))]

def requestProperties (request : AppAuditRequest) : Properties :=
  [(lit "method", request.method.map serializer.stringTree),
    (lit "url", request.url.map serializer.stringTree),
    (lit "headers", request.headers.map serializer.elementTree),
    (lit "body", request.body.map serializer.elementTree)]

def responseProperties (response : AppAuditResponse) : Properties :=
  [(lit "statusCode", response.statusCode.map fun code => integerTree code.toInt),
    (lit "headers", response.headers.map serializer.elementTree),
    (lit "bodyFormat", response.bodyFormat.map fun format => serializer.stringTree format.serialName),
    (lit "body", response.body.map serializer.elementTree)]

def errorProperties (error : AppAuditError) : Properties :=
  [(lit "type", error.type.map serializer.stringTree),
    (lit "code", error.code.map serializer.stringTree),
    (lit "message", error.message.map serializer.stringTree)]

def stepProperties (step : AppAuditStep) : Properties :=
  [(lit "sequence", some (integerTree step.sequence)),
    (lit "code", step.code.map serializer.stringTree),
    (lit "name", some (serializer.stringTree step.name)),
    (lit "startedAt", some (serializer.stringTree step.startedAt)),
    (lit "durationMs", some (integerTree step.durationMs)),
    (lit "status", step.status.map serializer.elementTree),
    (lit "request", step.request.map fun request => (serializer.requestProperties request).tree),
    (lit "response", step.response.map fun response => (serializer.responseProperties response).tree),
    (lit "error", step.error.map fun error => (serializer.errorProperties error).tree)]

/-- The document of an audit; its `schemaVersion` is 1. -/
def auditTree (audit : AppAudit) : Tree :=
  .object
    [(lit "schemaVersion", integerTree 1), (lit "title", serializer.stringTree audit.title),
      (lit "metadata",
        .array (audit.metadata.map fun item => (serializer.metadataProperties item).tree)),
      (lit "steps", .array (audit.steps.map fun step => (serializer.stepProperties step).tree))]

/-- `encodeToString`, and the text of `encodeToJsonElement` in a result. -/
def encodeToString (audit : AppAudit) : Option JsString :=
  (serializer.auditTree audit).encode serializer.quote

end Serializer

/-! ## Timestamps -/

/-- 1582-10-15, the first day of the Gregorian calendar. -/
def gregorianCutover : Int := -141427

/-- The date of a day in `GregorianCalendar`. -/
def calendarDate (day : Int) : Date :=
  if gregorianCutover ≤ day then gregorian.dateOf day else julian.dateOf day

/-- The year of its era: there is no year 0. -/
def yearOfEra (year : Int) : Nat := if 0 < year then year.toNat else (1 - year).toNat

/-- `yyyy-MM-dd'T'HH:mm:ss.SSS'Z'` of `SimpleDateFormat` in UTC. -/
def formatIsoTimestamp (timestampMilliseconds : Int64) : JsString :=
  let date := calendarDate (dayOf timestampMilliseconds.toInt)
  pad 4 (yearOfEra date.year) ++
    behindYear date.month date.day (timeWithinDay timestampMilliseconds.toInt)

/-! ## The recorder -/

/-- What a call throws. -/
inductive Thrown where
  | illegalArgument (message : JsString)
  | illegalState (message : JsString)
  | indexOutOfBounds
  | serialization
  | byClock
deriving DecidableEq, Repr

structure AppAuditStepInput where
  code : Option JsString
  name : JsString
  request : Option AppAuditRequest

structure AppAuditStepSuccess where
  status : Option JsonElement
  response : Option AppAuditResponse

structure AppAuditStepFailure where
  status : Option JsonElement
  response : Option AppAuditResponse
  error : AppAuditError

structure AppAuditRecorder where
  title : JsString
  metadata : List AppAuditMetadata
  steps : List AppAuditStep
  completedStepIndexes : List Nat

structure AppAuditStepHandle where
  stepIndex : Nat
  startedAtMilliseconds : Int64

/-- A call on a recorder; what it did before it throws is done. -/
abbrev Call := EStateM Thrown AppAuditRecorder

def require (condition : Bool) (message : JsString) : Call Unit :=
  if condition then pure () else throw (.illegalArgument message)

def check (condition : Bool) (message : JsString) : Call Unit :=
  if condition then pure () else throw (.illegalState message)

/-- `currentTimeMilliseconds()`, which may throw. -/
def currentTimeMilliseconds : Option Int64 → Call Int64
  | some now => pure now
  | none => throw .byClock

/-- `Char.isWhitespace`. -/
def isWhitespace (unit : UInt16) : Bool :=
  (9 ≤ unit && unit ≤ 13) || (0x1C ≤ unit && unit ≤ 0x20) || unit == 0xA0 || unit == 0x1680 ||
    (0x2000 ≤ unit && unit ≤ 0x200A) || unit == 0x2028 || unit == 0x2029 || unit == 0x202F ||
    unit == 0x205F || unit == 0x3000

def isNotBlank (text : JsString) : Bool := !text.all isWhitespace

def validateStatus (serializer : Serializer) (status : JsonElement) : Call Unit := do
  require (match status.primitive with
      | some (isString, content) =>
          isString || (serializer.doubleOrNull content).any (·.isFinite)
      | none => false)
    (lit "AppAudit Step status 只能是有限数字或字符串")
  require (match status.primitive with
      | some (true, content) => decide (content.length ≤ 100)
      | _ => true)
    (lit "AppAudit Step status 字符串最多 100 个字符")

/-- `status?.let(::validateStatus)`. -/
def validateGivenStatus (serializer : Serializer) : Option JsonElement → Call Unit
  | none => pure ()
  | some status => validateStatus serializer status

def validateRequest (request : Option AppAuditRequest) : Call Unit := do
  let method := request.bind (·.method)
  let url := request.bind (·.url)
  require (method.all isNotBlank) (lit "AppAudit request method 不能为空")
  require (method.all fun method => decide (method.length ≤ 32))
    (lit "AppAudit request method 最多 32 个字符")
  require (url.all fun url => decide (url.length ≤ 4096))
    (lit "AppAudit request url 最多 4096 个字符")

def validateResponse (response : Option AppAuditResponse) : Call Unit :=
  let statusCode := response.bind (·.statusCode)
  require (statusCode.all fun code => decide (0 ≤ code.toInt ∧ code.toInt ≤ 999))
    (lit "AppAudit response statusCode 必须在 0..999")

def validateError (error : Option AppAuditError) : Call Unit := do
  let type := error.bind (·.type)
  let code := error.bind (·.code)
  let message := error.bind (·.message)
  require (type.all fun type => decide (type.length ≤ 100))
    (lit "AppAudit error type 最多 100 个字符")
  require (code.all fun code => decide (code.length ≤ 100))
    (lit "AppAudit error code 最多 100 个字符")
  require (message.all fun message => decide (message.length ≤ 4096))
    (lit "AppAudit error message 最多 4096 个字符")

/-- The constructor with its `init` block. -/
def construct (title : JsString) : Except Thrown AppAuditRecorder :=
  if !isNotBlank title then .error (.illegalArgument (lit "AppAudit title 不能为空"))
  else if 200 < title.length then
    .error (.illegalArgument (lit "AppAudit title 最多 200 个字符"))
  else .ok ⟨title, [], [], []⟩

def addMetadata (key : JsString) (value : JsonElement) : Call Unit := do
  require (isNotBlank key) (lit "AppAudit metadata key 不能为空")
  require (decide (key.length ≤ 100)) (lit "AppAudit metadata key 最多 100 个字符")
  let recorder ← get
  check (decide (recorder.metadata.length < maximumMetadataCount))
    (lit "AppAudit metadata 最多 64 项")
  modify fun recorder => { recorder with metadata := recorder.metadata ++ [⟨key, value⟩] }

/-- A step with the fields that it is created with. -/
def AppAuditStepInput.step (input : AppAuditStepInput) (sequence : Nat)
    (startedAtMilliseconds : Int64) : AppAuditStep where
  sequence := sequence
  code := input.code
  name := input.name
  startedAt := formatIsoTimestamp startedAtMilliseconds
  durationMs := 0
  status := none
  request := input.request
  response := none
  error := none

def startStep (input : AppAuditStepInput) (now : Option Int64) : Call AppAuditStepHandle := do
  require (isNotBlank input.name) (lit "AppAudit Step name 不能为空")
  require (decide (input.name.length ≤ 200)) (lit "AppAudit Step name 最多 200 个字符")
  require (input.code.all fun code => decide (code.length ≤ 100))
    (lit "AppAudit Step code 最多 100 个字符")
  validateRequest input.request
  let startedAtMilliseconds ← currentTimeMilliseconds now
  let recorder ← get
  check (decide (recorder.steps.length < maximumStepCount)) (lit "AppAudit Step 最多 128 项")
  let step := input.step (recorder.steps.length + 1) startedAtMilliseconds
  modify fun recorder => { recorder with steps := recorder.steps ++ [step] }
  return ⟨recorder.steps.length, startedAtMilliseconds⟩

/-- `copy` of a step that is completed; the difference of the instants wraps around. -/
def AppAuditStep.complete (step : AppAuditStep) (status : Option JsonElement)
    (response : Option AppAuditResponse) (error : Option AppAuditError)
    (startedAtMilliseconds now : Int64) : AppAuditStep :=
  { step with
    durationMs := (now - startedAtMilliseconds).toInt.toNat
    status := status
    response := response
    error := error }

def completeStep (serializer : Serializer) (handle : AppAuditStepHandle)
    (status : Option JsonElement) (response : Option AppAuditResponse)
    (error : Option AppAuditError) (now : Option Int64) : Call Unit := do
  let recorder ← get
  match recorder.steps[handle.stepIndex]? with
  | none => throw .indexOutOfBounds
  | some existingStep =>
      check (!recorder.completedStepIndexes.contains handle.stepIndex)
        (lit "AppAudit Step 已完成: " ++ existingStep.name)
      validateGivenStatus serializer status
      validateResponse response
      validateError error
      modify fun recorder =>
        { recorder with
          completedStepIndexes := handle.stepIndex :: recorder.completedStepIndexes }
      let now ← currentTimeMilliseconds now
      modify fun recorder =>
        { recorder with
          steps := recorder.steps.set handle.stepIndex
            (existingStep.complete status response error handle.startedAtMilliseconds now) }

def succeed (serializer : Serializer) (handle : AppAuditStepHandle) (result : AppAuditStepSuccess)
    (now : Option Int64) : Call Unit :=
  completeStep serializer handle result.status result.response none now

def fail (serializer : Serializer) (handle : AppAuditStepHandle) (result : AppAuditStepFailure)
    (now : Option Int64) : Call Unit :=
  completeStep serializer handle result.status result.response (some result.error) now

def AppAuditRecorder.audit (recorder : AppAuditRecorder) : AppAudit :=
  ⟨recorder.title, recorder.metadata, recorder.steps⟩

/-- `snapshot`; the bytes are those of `toByteArray`, with `?` for a lone surrogate. -/
def AppAuditRecorder.snapshot (recorder : AppAuditRecorder) (serializer : Serializer) :
    Except Thrown AppAudit :=
  match serializer.encodeToString recorder.audit with
  | none => .error .serialization
  | some encoded =>
      if utf8Length 1 encoded ≤ maximumAuditBytes then .ok recorder.audit
      else .error (.illegalState (lit "AppAudit 超过 512 KiB"))

/-! ## Runs -/

/-- A program with the handles that it has been given. -/
structure Program where
  recorder : AppAuditRecorder
  handles : List AppAuditStepHandle

/-- A call of a program, with what the clock says then; a handle is named by its place among
those that were given out. -/
inductive Operation where
  | addMetadata (key : JsString) (value : JsonElement)
  | addText (key value : JsString)
  | startStep (input : AppAuditStepInput) (now : Option Int64)
  | succeed (handle : Nat) (result : AppAuditStepSuccess) (now : Option Int64)
  | fail (handle : Nat) (result : AppAuditStepFailure) (now : Option Int64)

/-- What a call leaves, and whether it has returned. -/
def Program.call (program : Program) (call : Call Unit) : Program × Bool :=
  match call program.recorder with
  | .ok _ recorder => (⟨recorder, program.handles⟩, true)
  | .error _ recorder => (⟨recorder, program.handles⟩, false)

def Program.step (serializer : Serializer) (program : Program) : Operation → Program × Bool
  | .addMetadata key value => program.call (KotlinRecorder.addMetadata key value)
  | .addText key value => program.call (KotlinRecorder.addMetadata key (.literal true value))
  | .startStep input now =>
      match KotlinRecorder.startStep input now program.recorder with
      | .ok handle recorder => (⟨recorder, program.handles ++ [handle]⟩, true)
      | .error _ recorder => (⟨recorder, program.handles⟩, false)
  | .succeed handle result now =>
      match program.handles[handle]? with
      | none => (program, false)
      | some handle => program.call (KotlinRecorder.succeed serializer handle result now)
  | .fail handle result now =>
      match program.handles[handle]? with
      | none => (program, false)
      | some handle => program.call (KotlinRecorder.fail serializer handle result now)

/-- A program that goes on when a call throws: the calls that returned, and what they leave. -/
def run (serializer : Serializer) : List Operation → Program → List Operation × Program
  | [], program => ([], program)
  | operation :: operations, program =>
      let (next, returned) := program.step serializer operation
      let (rest, last) := run serializer operations next
      (if returned then operation :: rest else rest, last)

/-- The instant from which a call starts a step. -/
def Operation.startsAt : Operation → Option Int64
  | .startStep _ now => now
  | _ => none

def AppAuditRequest.elements (request : AppAuditRequest) : List JsonElement :=
  request.headers.toList ++ request.body.toList

def AppAuditResponse.elements (response : AppAuditResponse) : List JsonElement :=
  response.headers.toList ++ response.body.toList

/-- The elements that a program puts into an audit. -/
def Operation.elements : Operation → List JsonElement
  | .addMetadata _ value => [value]
  | .addText _ _ => []
  | .startStep input _ => input.request.toList.flatMap AppAuditRequest.elements
  | .succeed _ result _ =>
      result.status.toList ++ result.response.toList.flatMap AppAuditResponse.elements
  | .fail _ result _ =>
      result.status.toList ++ result.response.toList.flatMap AppAuditResponse.elements

/-! ## What calls do -/

section

variable {recorder after : AppAuditRecorder} {serializer : Serializer}

theorem require_eq_ok {condition : Bool} {message : JsString} {answer : Unit} :
    require condition message recorder = .ok answer after ↔ condition = true ∧ recorder = after :=
  guard_eq_ok

theorem check_eq_ok {condition : Bool} {message : JsString} {answer : Unit} :
    check condition message recorder = .ok answer after ↔ condition = true ∧ recorder = after :=
  guard_eq_ok

theorem currentTimeMilliseconds_eq_ok {now : Option Int64} {instant : Int64} :
    currentTimeMilliseconds now recorder = .ok instant after ↔
      now = some instant ∧ recorder = after := by
  cases now with
  | none => exact ⟨fun h => absurd h throw_ne_ok, fun h => absurd h.1 (by simp)⟩
  | some found => rw [currentTimeMilliseconds, pure_eq_ok, Option.some.injEq]

theorem length_pos_of_isNotBlank {text : JsString} (h : isNotBlank text = true) :
    1 ≤ text.length := by
  cases text with
  | nil => contradiction
  | cons unit text => simp

/-! ### The validators -/

def AppAuditRequest.Valid (request : AppAuditRequest) : Prop :=
  (∀ method ∈ request.method, 1 ≤ method.length ∧ method.length ≤ 32) ∧
    ∀ url ∈ request.url, url.length ≤ 4096

def AppAuditResponse.Valid (response : AppAuditResponse) : Prop :=
  ∀ code ∈ response.statusCode, 0 ≤ code.toInt ∧ code.toInt ≤ 999

def AppAuditError.Valid (error : AppAuditError) : Prop :=
  (∀ type ∈ error.type, type.length ≤ 100) ∧ (∀ code ∈ error.code, code.length ≤ 100) ∧
    ∀ message ∈ error.message, message.length ≤ 4096

/-- A status that a step takes: a string that is not too long, or a finite number. -/
def JsonElement.ValidStatus (serializer : Serializer) (status : JsonElement) : Prop :=
  ∃ isString content, status.primitive = some (isString, content) ∧
    if isString then content.length ≤ 100
    else ∃ n, serializer.doubleOrNull content = some n ∧ n.isFinite = true

theorem validateStatus_ok {status : JsonElement} {answer : Unit}
    (h : validateStatus serializer status recorder = .ok answer after) :
    recorder = after ∧ status.ValidStatus serializer := by
  simp only [validateStatus, bind_eq_ok, require_eq_ok] at h
  rcases h with ⟨-, _, ⟨hkind, rfl⟩, hlength, rfl⟩
  cases hprimitive : status.primitive with
  | none => simp [hprimitive] at hkind
  | some found =>
      rcases found with ⟨isString, content⟩
      refine ⟨rfl, isString, content, hprimitive, ?_⟩
      cases isString with
      | true => simpa [hprimitive] using hlength
      | false => simpa [hprimitive, Option.any_eq_true] using hkind

theorem validateGivenStatus_ok {status : Option JsonElement} {answer : Unit}
    (h : validateGivenStatus serializer status recorder = .ok answer after) :
    recorder = after ∧ ∀ given ∈ status, given.ValidStatus serializer := by
  cases status with
  | none => exact ⟨(pure_eq_ok.mp h).2, by simp⟩
  | some status =>
      rcases validateStatus_ok h with ⟨hsame, hvalid⟩
      exact ⟨hsame, by simpa using hvalid⟩

theorem validateRequest_ok {request : Option AppAuditRequest} {answer : Unit}
    (h : validateRequest request recorder = .ok answer after) :
    recorder = after ∧ ∀ given ∈ request, given.Valid := by
  simp only [validateRequest, bind_eq_ok, require_eq_ok] at h
  rcases h with ⟨-, _, ⟨hblank, rfl⟩, -, _, ⟨hmethod, rfl⟩, hurl, rfl⟩
  refine ⟨rfl, fun given hgiven => ?_⟩
  obtain rfl := Option.mem_def.mp hgiven
  simp only [Option.bind_some, Option.all_eq_true, decide_eq_true_eq] at hblank hmethod hurl
  exact ⟨fun method hmem =>
    ⟨length_pos_of_isNotBlank (hblank method hmem), hmethod method hmem⟩, hurl⟩

theorem validateResponse_ok {response : Option AppAuditResponse} {answer : Unit}
    (h : validateResponse response recorder = .ok answer after) :
    recorder = after ∧ ∀ given ∈ response, given.Valid := by
  simp only [validateResponse, require_eq_ok] at h
  rcases h with ⟨hcode, rfl⟩
  refine ⟨rfl, fun given hgiven => ?_⟩
  obtain rfl := Option.mem_def.mp hgiven
  simp only [Option.bind_some, Option.all_eq_true, decide_eq_true_eq] at hcode
  exact hcode

theorem validateError_ok {error : Option AppAuditError} {answer : Unit}
    (h : validateError error recorder = .ok answer after) :
    recorder = after ∧ ∀ given ∈ error, given.Valid := by
  simp only [validateError, bind_eq_ok, require_eq_ok] at h
  rcases h with ⟨-, _, ⟨htype, rfl⟩, -, _, ⟨hcode, rfl⟩, hmessage, rfl⟩
  refine ⟨rfl, fun given hgiven => ?_⟩
  obtain rfl := Option.mem_def.mp hgiven
  simp only [Option.bind_some, Option.all_eq_true, decide_eq_true_eq] at htype hcode hmessage
  exact ⟨htype, hcode, hmessage⟩

/-! ### Calls that return -/

theorem addMetadata_ok {key : JsString} {value : JsonElement} {answer : Unit}
    (h : addMetadata key value recorder = .ok answer after) :
    1 ≤ key.length ∧ key.length ≤ 100 ∧ recorder.metadata.length < maximumMetadataCount ∧
      after = { recorder with metadata := recorder.metadata ++ [⟨key, value⟩] } := by
  simp only [addMetadata, bind_eq_ok, require_eq_ok, check_eq_ok, get_eq_ok, modify_eq_ok,
    decide_eq_true_eq] at h
  rcases h with ⟨-, _, ⟨hblank, rfl⟩, -, _, ⟨hlong, rfl⟩, _, _, ⟨rfl, rfl⟩, -, _, ⟨hcount, rfl⟩, rfl⟩
  exact ⟨length_pos_of_isNotBlank hblank, hlong, hcount, rfl⟩

theorem startStep_ok {input : AppAuditStepInput} {now : Option Int64} {handle : AppAuditStepHandle}
    (h : startStep input now recorder = .ok handle after) :
    ∃ instant, now = some instant ∧ 1 ≤ input.name.length ∧ input.name.length ≤ 200 ∧
      (∀ code ∈ input.code, code.length ≤ 100) ∧ (∀ given ∈ input.request, given.Valid) ∧
      recorder.steps.length < maximumStepCount ∧
      after = { recorder with
        steps := recorder.steps ++ [input.step (recorder.steps.length + 1) instant] } := by
  simp only [startStep, bind_eq_ok, require_eq_ok, check_eq_ok, get_eq_ok, modify_eq_ok, pure_eq_ok,
    currentTimeMilliseconds_eq_ok, decide_eq_true_eq] at h
  rcases h with ⟨-, _, ⟨hblank, rfl⟩, -, _, ⟨hlong, rfl⟩, -, _, ⟨hcode, rfl⟩, _, _, hrequest,
    instant, _, ⟨hnow, rfl⟩, _, _, ⟨rfl, rfl⟩, -, _, ⟨hcount, rfl⟩, -, _, rfl, -, rfl⟩
  rcases validateRequest_ok hrequest with ⟨rfl, hvalid⟩
  refine ⟨instant, hnow, length_pos_of_isNotBlank hblank, hlong, ?_, hvalid, hcount, rfl⟩
  simp only [Option.all_eq_true, decide_eq_true_eq] at hcode
  exact hcode

theorem completeStep_ok {handle : AppAuditStepHandle} {status : Option JsonElement}
    {response : Option AppAuditResponse} {error : Option AppAuditError} {now : Option Int64}
    {answer : Unit}
    (h : completeStep serializer handle status response error now recorder = .ok answer after) :
    ∃ existingStep instant, recorder.steps[handle.stepIndex]? = some existingStep ∧
      (∀ given ∈ status, given.ValidStatus serializer) ∧ (∀ given ∈ response, given.Valid) ∧
      (∀ given ∈ error, given.Valid) ∧
      after = { recorder with
        steps := recorder.steps.set handle.stepIndex
          (existingStep.complete status response error handle.startedAtMilliseconds instant)
        completedStepIndexes := handle.stepIndex :: recorder.completedStepIndexes } := by
  simp only [completeStep, bind_eq_ok, get_eq_ok] at h
  rcases h with ⟨_, _, ⟨rfl, rfl⟩, h⟩
  cases hfound : recorder.steps[handle.stepIndex]? with
  | none =>
      simp only [hfound] at h
      exact absurd h throw_ne_ok
  | some existingStep =>
      simp only [hfound, bind_eq_ok, check_eq_ok, modify_eq_ok, currentTimeMilliseconds_eq_ok] at h
      rcases h with ⟨-, _, ⟨-, rfl⟩, _, _, hstatus, _, _, hresponse, _, _, herror, -, _, rfl,
        instant, _, ⟨-, rfl⟩, rfl⟩
      rcases validateGivenStatus_ok hstatus with ⟨rfl, hvalid⟩
      rcases validateResponse_ok hresponse with ⟨rfl, hresponses⟩
      rcases validateError_ok herror with ⟨rfl, herrors⟩
      exact ⟨existingStep, instant, rfl, hvalid, hresponses, herrors, rfl⟩

/-! ### Calls that throw -/

theorem keeps_validateGivenStatus (status : Option JsonElement) :
    Keeps AppAuditRecorder.audit (validateGivenStatus serializer status) := by
  cases status with
  | none => exact keeps_pure ()
  | some status => exact .bind (keeps_guard _ _) fun _ => keeps_guard _ _

theorem keeps_validateRequest (request : Option AppAuditRequest) :
    Keeps AppAuditRecorder.audit (validateRequest request) :=
  .bind (keeps_guard _ _) fun _ => .bind (keeps_guard _ _) fun _ => keeps_guard _ _

theorem keeps_validateError (error : Option AppAuditError) :
    Keeps AppAuditRecorder.audit (validateError error) :=
  .bind (keeps_guard _ _) fun _ => .bind (keeps_guard _ _) fun _ => keeps_guard _ _

theorem keeps_currentTimeMilliseconds (now : Option Int64) :
    Keeps AppAuditRecorder.audit (currentTimeMilliseconds now) := by
  cases now with
  | none => exact keeps_throw _
  | some now => exact keeps_pure now

theorem atomic_addMetadata (key : JsString) (value : JsonElement) :
    Atomic AppAuditRecorder.audit (addMetadata key value) :=
  .bind (keeps_guard _ _) fun _ => .bind (keeps_guard _ _) fun _ => .bind keeps_get fun _ =>
    .bind (keeps_guard _ _) fun _ => atomic_modify _

theorem atomic_startStep (input : AppAuditStepInput) (now : Option Int64) :
    Atomic AppAuditRecorder.audit (startStep input now) :=
  .bind (keeps_guard _ _) fun _ => .bind (keeps_guard _ _) fun _ => .bind (keeps_guard _ _) fun _ =>
    .bind (keeps_validateRequest _) fun _ => .bind (keeps_currentTimeMilliseconds _) fun _ =>
      .bind keeps_get fun _ => .bind (keeps_guard _ _) fun _ => fun _ _ _ h => by contradiction

/-- A completion that throws may have used up its handle, but leaves the audit. -/
theorem atomic_completeStep (handle : AppAuditStepHandle) (status : Option JsonElement)
    (response : Option AppAuditResponse) (error : Option AppAuditError) (now : Option Int64) :
    Atomic AppAuditRecorder.audit (completeStep serializer handle status response error now) := by
  refine .bind keeps_get fun recorder => ?_
  cases recorder.steps[handle.stepIndex]? with
  | none => exact (keeps_throw _).atomic
  | some existingStep =>
      exact .bind (keeps_guard _ _) fun _ => .bind (keeps_validateGivenStatus _) fun _ =>
        .bind (keeps_guard _ _) fun _ => .bind (keeps_validateError _) fun _ =>
          .bind (keeps_modify fun _ => rfl) fun _ =>
            .bind (keeps_currentTimeMilliseconds _) fun _ => atomic_modify _

end

end KotlinRecorder
end AppAudit
end R2RPC
