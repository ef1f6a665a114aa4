import R2RPC.AppAudit.Schema
import R2RPC.Library.Throwing

/-!
# The recorder of the JavaScript SDK

{lit}`AppAuditRecorder` and {lit}`AppAuditStepHandle`: the calls of a program, some of
which throw, and the audit that {lit}`snapshot` makes of what was recorded.

Main results:

- Definition {lit}`run`: the calls of a program, with the recorder they leave.
- Theorems {lit}`startStep_ok`, {lit}`complete_ok` and {lit}`addMetadata_ok`: what a call
  that returns has checked and done.
- Theorem {lit}`Operation.atomic`: a call that throws has done nothing.

Current gaps:

- Arguments are not changed after the call, and no call stack is exhausted.
-/

namespace R2RPC
namespace AppAudit
namespace JavaScriptRecorder

open Utf16 Binary JavaScript Schema Calendar Throwing

def maximumMetadataCount : Nat := 64
def maximumStepCount : Nat := 128
def maximumAuditBytes : Nat := 512 * 1024

/-! ## Arguments -/

/-- What a call throws, with its message. -/
inductive Thrown where
  | error (message : JsString)
  | typeError (message : JsString)
  | rangeError (message : JsString)
deriving DecidableEq, Repr

/-- The time value of a valid date. -/
structure TimeValue where
  milliseconds : Int
  bounded : milliseconds.natAbs ≤ 8640000000000000
deriving DecidableEq, Repr

/-- A `Date`; an invalid one has no time value. -/
abbrev JsDate := Option TimeValue

/-- `JsonValue`. -/
structure JsonValue where
  value : Value
  json : value.IsJson

/-- The declared type of an optional field. -/
inductive FieldType where
  | text
  | number
  | json
deriving DecidableEq, Repr

def FieldType.admits : FieldType → Value → Bool
  | .text, .string _ => true
  | .number, .number _ => true
  | .json, _ => true
  | _, _ => false

abbrev Interface := List (JsString × FieldType)

/-- An object of an interface; its fields stand in any order. -/
structure Declared (interface : Interface) where
  fields : Fields
  json : (Value.object true fields).IsJson
  typed : ∀ field ∈ fields, ∃ type, (field.1, type) ∈ interface ∧ type.admits field.2 = true

namespace Declared

variable {interface : Interface}

def value (object : Declared interface) : Value := .object true object.fields

/-- A field that is declared as a string, if it is there. -/
def text (object : Declared interface) (key : JsString) : Option JsString :=
  match object.value.get key with
  | .string text => some text
  | _ => none

/-- A field that is declared as a number, if it is there. -/
def number (object : Declared interface) (key : JsString) : Option JsNumber :=
  match object.value.get key with
  | .number n => some n
  | _ => none

end Declared

def requestInterface : Interface :=
  [(lit "method", .text), (lit "url", .text), (lit "headers", .json), (lit "body", .json)]

def responseInterface : Interface :=
  [(lit "statusCode", .number), (lit "headers", .json), (lit "bodyFormat", .text),
    (lit "body", .json)]

def errorInterface : Interface :=
  [(lit "type", .text), (lit "code", .text), (lit "message", .text)]

abbrev AppAuditRequest := Declared requestInterface
abbrev AppAuditResponse := Declared responseInterface
abbrev AppAuditError := Declared errorInterface

/-- `number | string`. -/
inductive Status where
  | number (n : JsNumber)
  | text (units : JsString)

def Status.value : Status → Value
  | .number n => .number n
  | .text units => .string units

structure AppAuditStepInput where
  code : Option JsString
  name : JsString
  request : Option AppAuditRequest
  startedAt : Option JsDate

structure AppAuditStepSuccess where
  status : Option Status
  response : Option AppAuditResponse

structure AppAuditStepFailure extends AppAuditStepSuccess where
  error : AppAuditError

/-! ## The recorder -/

/-- A step; its whole numbers are numbers of the language once a field shows them. -/
structure AppAuditStep where
  sequence : Nat
  name : JsString
  startedAt : JsString
  durationMs : Nat
  code : Option JsString
  request : Option AppAuditRequest
  status : Option Status
  response : Option AppAuditResponse
  error : Option AppAuditError

/-- The fields of a step in the order of their assignment. -/
def AppAuditStep.fields (step : AppAuditStep) : Fields :=
  [(lit "sequence", .number (ofDecimal binary64 false step.sequence 0)),
    (lit "name", .string step.name), (lit "startedAt", .string step.startedAt),
    (lit "durationMs", .number (ofDecimal binary64 false step.durationMs 0))] ++
  optionalField (lit "code") (step.code.map .string) ++
  optionalField (lit "request") (step.request.map Declared.value) ++
  optionalField (lit "status") (step.status.map Status.value) ++
  optionalField (lit "response") (step.response.map Declared.value) ++
  optionalField (lit "error") (step.error.map Declared.value)

def AppAuditStep.value (step : AppAuditStep) : Value := .object true step.fields

/-- A handle, with the step that it shares with its recorder. -/
structure AppAuditStepHandle where
  step : AppAuditStep
  startedAtMilliseconds : TimeValue
  completed : Bool

structure AppAuditRecorder where
  title : JsString
  metadata : List (JsString × JsonValue)
  handles : List AppAuditStepHandle

/-- A call on a recorder; what it did before it throws is done. -/
abbrev Call := EStateM Thrown AppAuditRecorder

def refuse (condition : Bool) (thrown : Thrown) : Call Unit :=
  if condition then throw thrown else pure ()

def validateRequest (request : Option AppAuditRequest) : Call Unit := do
  let method := request.bind (·.text (lit "method"))
  let url := request.bind (·.text (lit "url"))
  refuse (method.any fun method => (trim method).isEmpty)
    (.typeError (lit "AppAudit request method 不能为空"))
  refuse (method.any fun method => decide (32 < method.length))
    (.rangeError (lit "AppAudit request method 最多 32 个字符"))
  refuse (url.any fun url => decide (4096 < url.length))
    (.rangeError (lit "AppAudit request url 最多 4096 个字符"))

def validateResponse (response : Option AppAuditResponse) : Call Unit := do
  let statusCode := response.bind (·.number (lit "statusCode"))
  let bodyFormat := response.bind (·.text (lit "bodyFormat"))
  refuse (statusCode.any fun n =>
      match n.toInt with
      | none => true
      | some k => decide (k < 0) || decide (999 < k))
    (.rangeError (lit "AppAudit response statusCode 必须在 0..999"))
  refuse (bodyFormat.any fun bodyFormat =>
      !([lit "json", lit "text", lit "empty"].contains bodyFormat))
    (.typeError (lit "AppAudit response bodyFormat 非法"))

def validateError (error : Option AppAuditError) : Call Unit := do
  let type := error.bind (·.text (lit "type"))
  let code := error.bind (·.text (lit "code"))
  let message := error.bind (·.text (lit "message"))
  refuse (type.any fun type => decide (100 < type.length))
    (.rangeError (lit "AppAudit error type 最多 100 个字符"))
  refuse (code.any fun code => decide (100 < code.length))
    (.rangeError (lit "AppAudit error code 最多 100 个字符"))
  refuse (message.any fun message => decide (4096 < message.length))
    (.rangeError (lit "AppAudit error message 最多 4096 个字符"))

/-- `constructor`. -/
def construct (title : JsString) : Except Thrown AppAuditRecorder :=
  if (trim title).isEmpty then .error (.error (lit "AppAudit title 不能为空"))
  else if 200 < title.length then .error (.rangeError (lit "AppAudit title 最多 200 个字符"))
  else .ok ⟨title, [], []⟩

def addMetadata (key : JsString) (value : JsonValue) : Call Unit := do
  refuse (trim key).isEmpty (.error (lit "AppAudit metadata key 不能为空"))
  refuse (decide (100 < key.length)) (.rangeError (lit "AppAudit metadata key 最多 100 个字符"))
  let recorder ← get
  refuse (decide (maximumMetadataCount ≤ recorder.metadata.length))
    (.error (lit "AppAudit metadata 最多 64 项"))
  modify fun recorder => { recorder with metadata := recorder.metadata ++ [(key, value)] }

/-- `toISOString` throws on an invalid date. -/
def timeValue : JsDate → Call TimeValue
  | some time => pure time
  | none => throw (.rangeError (lit "Invalid time value"))

/-- A step with the fields that it is created with. -/
def AppAuditStepInput.step (input : AppAuditStepInput) (sequence : Nat) (time : TimeValue) :
    AppAuditStep where
  sequence := sequence
  name := input.name
  startedAt := toISOString time.milliseconds
  durationMs := 0
  code := input.code
  request := input.request
  status := none
  response := none
  error := none

/-- `startStep` answers the number of the new handle. -/
def startStep (input : AppAuditStepInput) (now : TimeValue) : Call Nat := do
  refuse (trim input.name).isEmpty (.error (lit "AppAudit Step name 不能为空"))
  refuse (decide (200 < input.name.length)) (.rangeError (lit "AppAudit Step name 最多 200 个字符"))
  refuse (input.code.any fun code => decide (100 < code.length))
    (.rangeError (lit "AppAudit Step code 最多 100 个字符"))
  validateRequest input.request
  let recorder ← get
  refuse (decide (maximumStepCount ≤ recorder.handles.length))
    (.error (lit "AppAudit Step 最多 128 项"))
  let time ← timeValue (input.startedAt.getD (some now))
  let step := input.step (recorder.handles.length + 1) time
  modify fun recorder => { recorder with handles := recorder.handles ++ [⟨step, time, false⟩] }
  return recorder.handles.length

/-- `Math.max(0, now - startedAt)`. -/
def elapsed (now startedAt : TimeValue) : Nat :=
  (now.milliseconds - startedAt.milliseconds).toNat

def AppAuditStepHandle.finish (handle : AppAuditStepHandle) (status : Option Status)
    (response : Option AppAuditResponse) (error : Option AppAuditError) (now : TimeValue) :
    AppAuditStepHandle :=
  { handle with
    completed := true
    step := { handle.step with
      durationMs := elapsed now handle.startedAtMilliseconds
      status := status.or handle.step.status
      response := response.or handle.step.response
      error := error.or handle.step.error } }

/-- `complete`; a method of a handle that was never given out is a method of `undefined`. -/
def complete (handle : Nat) (status : Option Status) (response : Option AppAuditResponse)
    (error : Option AppAuditError) (now : TimeValue) : Call Unit := do
  let recorder ← get
  match recorder.handles[handle]? with
  | none => throw (.typeError (lit "Cannot read properties of undefined"))
  | some found =>
      refuse found.completed (.error (lit "AppAudit Step 已完成: " ++ found.step.name))
      refuse (match status with
          | some (.number n) => !n.isFinite
          | _ => false) (.rangeError (lit "AppAudit Step status 必须是有限数字"))
      refuse (match status with
          | some (.text text) => decide (100 < text.length)
          | _ => false) (.rangeError (lit "AppAudit Step status 字符串最多 100 个字符"))
      validateResponse response
      validateError error
      modify fun recorder =>
        { recorder with
          handles := recorder.handles.set handle (found.finish status response error now) }

def succeed (handle : Nat) (result : AppAuditStepSuccess) (now : TimeValue) : Call Unit :=
  complete handle result.status result.response none now

def fail (handle : Nat) (result : AppAuditStepFailure) (now : TimeValue) : Call Unit :=
  complete handle result.status result.response (some result.error) now

/-- The audit so far. -/
def AppAuditRecorder.audit (recorder : AppAuditRecorder) : Value :=
  auditValue recorder.title
    (recorder.metadata.map fun item =>
      .object true [(lit "key", .string item.1), (lit "value", item.2.value)])
    (recorder.handles.map fun handle => handle.step.value)

/-- `snapshot`; `TextEncoder` takes what is not there for the empty text. -/
def AppAuditRecorder.snapshot (recorder : AppAuditRecorder) : Except Thrown Value :=
  if maximumAuditBytes < utf8Length 3 (recorder.audit.stringify.getD []) then
    .error (.rangeError (lit "AppAudit 超过 512 KiB"))
  else .ok recorder.audit

/-! ## Runs -/

/-- A call of a program, with what the clock says then. -/
inductive Operation where
  | addMetadata (key : JsString) (value : JsonValue)
  | startStep (input : AppAuditStepInput) (now : TimeValue)
  | succeed (handle : Nat) (result : AppAuditStepSuccess) (now : TimeValue)
  | fail (handle : Nat) (result : AppAuditStepFailure) (now : TimeValue)

def Operation.call : Operation → Call Unit
  | .addMetadata key value => JavaScriptRecorder.addMetadata key value
  | .startStep input now => do
      let _ ← JavaScriptRecorder.startStep input now
  | .succeed handle result now => JavaScriptRecorder.succeed handle result now
  | .fail handle result now => JavaScriptRecorder.fail handle result now

/-- A program that goes on when a call throws: the calls that returned, and the recorder. -/
def run : List Operation → AppAuditRecorder → List Operation × AppAuditRecorder
  | [], recorder => ([], recorder)
  | operation :: operations, recorder =>
      match operation.call recorder with
      | .ok _ after => ((run operations after).1.cons operation, (run operations after).2)
      | .error _ after => run operations after

/-- The handle that a call completes when it returns. -/
def Operation.completes (handle : Nat) : Operation → Bool
  | .succeed other _ _ => other == handle
  | .fail other _ _ => other == handle
  | _ => false

/-- The instant from which a call starts a step. -/
def Operation.startsAt : Operation → Option TimeValue
  | .startStep input now => input.startedAt.getD (some now)
  | _ => none

/-- Years `0000` to `9999`. -/
def TimeValue.InFourDigitYear (time : TimeValue) : Prop :=
  -62167219200000 ≤ time.milliseconds ∧ time.milliseconds < 253402300800000
deriving Decidable

/-! ## What calls do -/

section

variable {α β : Type} {recorder after : AppAuditRecorder}

theorem refuse_eq_ok {condition : Bool} {thrown : Thrown} {answer : Unit} :
    refuse condition thrown recorder = .ok answer after ↔
      condition = false ∧ recorder = after := by
  cases condition with
  | true => exact ⟨fun h => by contradiction, fun h => absurd h.1 (by decide)⟩
  | false => exact ⟨fun h => ⟨rfl, (EStateM.Result.ok.inj h).2⟩, fun h => h.2 ▸ rfl⟩

theorem timeValue_eq_ok {date : JsDate} {time : TimeValue} :
    timeValue date recorder = .ok time after ↔ date = some time ∧ recorder = after := by
  cases date with
  | none => exact ⟨fun h => by contradiction, fun h => absurd h.1 (by simp)⟩
  | some found => rw [timeValue, pure_eq_ok, Option.some.injEq]

/-! ### Objects of interfaces -/

namespace Declared

variable {interface : Interface} (object : Declared interface)

theorem get_of_mem {key : JsString} {value : Value} (h : (key, value) ∈ object.fields) :
    object.value.get key = value := by
  have hjson := object.json
  rw [Value.IsJson] at hjson
  have hlookup := (lookup_eq_some (nodup_of_ordered hjson.2.1)).mpr h
  rw [Declared.value, Value.get, hlookup, Option.getD_some]

/-- What the program can put in a field of this type passes its check. -/
def Passes (shape : List Property) : JsString × FieldType → Prop
  | (key, .text) => ∀ text, object.text key = some text →
      (checkOf shape key (.string text)).isSome = true
  | (key, .number) => ∀ n, object.number key = some n → (checkOf shape key (.number n)).isSome = true
  | (key, .json) => ∀ value, (checkOf shape key value).isSome = true

/-- An object passes a strict schema when its fields do. -/
theorem accepted {shape : List Property} (hshape : (shape.map (·.key)).Nodup)
    (hoptional : shape.all (·.optional) = true)
    (h : ∀ field ∈ interface, object.Passes shape field) :
    (strictObject shape object.value).isSome = true := by
  have hjson := object.json
  rw [Value.IsJson, Value.isJsonFields_iff] at hjson
  rcases hjson with ⟨-, hordered, hjson⟩
  have hrequired : (shape.all fun property =>
      property.optional || (object.fields.map (·.1)).contains property.key) = true := by
    rw [List.all_eq_true] at hoptional ⊢
    intro property hproperty
    rw [hoptional property hproperty, Bool.true_or]
  refine (strictObject_isSome hshape (nodup_of_ordered hordered)
    (fun field hfield => isUndefined_of_isJson (hjson field hfield)) hrequired).mpr ?_
  rintro ⟨key, value⟩ hfield
  rcases object.typed _ hfield with ⟨type, hdeclared, hadmits⟩
  have hpasses := h _ hdeclared
  have hget := object.get_of_mem hfield
  cases type with
  | text =>
      cases value with
      | string text => exact hpasses text (by rw [Declared.text, hget])
      | _ => contradiction
  | number =>
      cases value with
      | number n => exact hpasses n (by rw [Declared.number, hget])
      | _ => contradiction
  | json => exact hpasses value

end Declared

/-! ### The validators -/

theorem length_pos_of_trim {text : JsString} (h : (trim text).isEmpty = false) :
    1 ≤ text.length := by
  have hpos := List.length_pos_of_ne_nil (List.isEmpty_eq_false_iff.mp h)
  have hle := trim_length_le text
  omega

theorem validateRequest_ok {request : Option AppAuditRequest} {answer : Unit}
    (h : validateRequest request recorder = .ok answer after) :
    recorder = after ∧
      ∀ object ∈ request, (strictObject requestShape object.value).isSome = true := by
  simp only [validateRequest, bind_eq_ok, refuse_eq_ok] at h
  rcases h with ⟨-, _, ⟨hblank, rfl⟩, -, _, ⟨hmethod, rfl⟩, hurl, rfl⟩
  refine ⟨rfl, fun object hobject => object.accepted (by decide) (by decide) ?_⟩
  rw [Option.mem_def] at hobject
  subst hobject
  intro field hfield
  simp only [requestInterface, List.mem_cons, List.not_mem_nil, or_false] at hfield
  rcases hfield with rfl | rfl | rfl | rfl
  · intro method hget
    have hcheck : checkOf requestShape (lit "method") = stringBetween 1 32 := rfl
    simp only [Option.bind_some, hget, Option.any_some, decide_eq_false_iff_not, not_lt]
      at hblank hmethod
    simp [hcheck, stringBetween, length_pos_of_trim hblank, hmethod]
  · intro url hget
    have hcheck : checkOf requestShape (lit "url") = stringBetween 0 4096 := rfl
    simp only [Option.bind_some, hget, Option.any_some, decide_eq_false_iff_not, not_lt] at hurl
    simp [hcheck, stringBetween, hurl]
  · exact fun _ => rfl
  · exact fun _ => rfl

theorem validateResponse_ok {response : Option AppAuditResponse} {answer : Unit}
    (h : validateResponse response recorder = .ok answer after) :
    recorder = after ∧
      ∀ object ∈ response, (strictObject responseShape object.value).isSome = true := by
  simp only [validateResponse, bind_eq_ok, refuse_eq_ok] at h
  rcases h with ⟨-, _, ⟨hstatus, rfl⟩, hformat, rfl⟩
  refine ⟨rfl, fun object hobject => object.accepted (by decide) (by decide) ?_⟩
  rw [Option.mem_def] at hobject
  subst hobject
  intro field hfield
  simp only [responseInterface, List.mem_cons, List.not_mem_nil, or_false] at hfield
  rcases hfield with rfl | rfl | rfl | rfl
  · intro n hget
    have hcheck : checkOf responseShape (lit "statusCode") = integerBetween 0 999 := rfl
    simp only [Option.bind_some, hget, Option.any_some] at hstatus
    cases hinteger : n.toInt with
    | none => simp [hinteger] at hstatus
    | some k =>
        simp only [hinteger, Bool.or_eq_false_iff, decide_eq_false_iff_not, not_lt] at hstatus
        simp [hcheck, integerBetween, hinteger, Number.isFinite_of_toInt hinteger, hstatus]
  · exact fun _ => rfl
  · intro format hget
    have hcheck : checkOf responseShape (lit "bodyFormat") = bodyFormat := rfl
    simp only [Option.bind_some, hget, Option.any_some] at hformat
    simpa [hcheck, bodyFormat, or_assoc, or_iff_not_imp_left] using hformat
  · exact fun _ => rfl

theorem validateError_ok {error : Option AppAuditError} {answer : Unit}
    (h : validateError error recorder = .ok answer after) :
    recorder = after ∧
      ∀ object ∈ error, (strictObject errorShape object.value).isSome = true := by
  simp only [validateError, bind_eq_ok, refuse_eq_ok] at h
  rcases h with ⟨-, _, ⟨htype, rfl⟩, -, _, ⟨hcode, rfl⟩, hmessage, rfl⟩
  refine ⟨rfl, fun object hobject => object.accepted (by decide) (by decide) ?_⟩
  rw [Option.mem_def] at hobject
  subst hobject
  intro field hfield
  simp only [errorInterface, List.mem_cons, List.not_mem_nil, or_false] at hfield
  rcases hfield with rfl | rfl | rfl
  · intro type hget
    have hcheck : checkOf errorShape (lit "type") = stringBetween 0 100 := rfl
    simp only [Option.bind_some, hget, Option.any_some, decide_eq_false_iff_not, not_lt] at htype
    simp [hcheck, stringBetween, htype]
  · intro code hget
    have hcheck : checkOf errorShape (lit "code") = stringBetween 0 100 := rfl
    simp only [Option.bind_some, hget, Option.any_some, decide_eq_false_iff_not, not_lt] at hcode
    simp [hcheck, stringBetween, hcode]
  · intro message hget
    have hcheck : checkOf errorShape (lit "message") = stringBetween 0 4096 := rfl
    simp only [Option.bind_some, hget, Option.any_some, decide_eq_false_iff_not, not_lt] at hmessage
    simp [hcheck, stringBetween, hmessage]

/-! ### Calls that return -/

theorem addMetadata_ok {key : JsString} {value : JsonValue} {answer : Unit}
    (h : addMetadata key value recorder = .ok answer after) :
    (trim key).isEmpty = false ∧ key.length ≤ 100 ∧
      recorder.metadata.length < maximumMetadataCount ∧
      after = { recorder with metadata := recorder.metadata ++ [(key, value)] } := by
  simp only [addMetadata, bind_eq_ok, refuse_eq_ok, get_eq_ok, modify_eq_ok,
    decide_eq_false_iff_not, not_lt, not_le] at h
  rcases h with ⟨-, _, ⟨hblank, rfl⟩, -, _, ⟨hlong, rfl⟩, _, _, ⟨rfl, rfl⟩, -, _, ⟨hcount, rfl⟩, rfl⟩
  exact ⟨hblank, hlong, hcount, rfl⟩

theorem startStep_ok {input : AppAuditStepInput} {now : TimeValue} {answer : Nat}
    (h : startStep input now recorder = .ok answer after) :
    ∃ time, input.startedAt.getD (some now) = some time ∧ (trim input.name).isEmpty = false ∧
      input.name.length ≤ 200 ∧ (∀ code ∈ input.code, code.length ≤ 100) ∧
      (∀ object ∈ input.request, (strictObject requestShape object.value).isSome = true) ∧
      recorder.handles.length < maximumStepCount ∧
      after = { recorder with
        handles := recorder.handles ++
          [⟨input.step (recorder.handles.length + 1) time, time, false⟩] } := by
  simp only [startStep, bind_eq_ok, refuse_eq_ok, get_eq_ok, modify_eq_ok, pure_eq_ok,
    timeValue_eq_ok, decide_eq_false_iff_not, not_lt, not_le] at h
  rcases h with ⟨-, _, ⟨hblank, rfl⟩, -, _, ⟨hlong, rfl⟩, -, _, ⟨hcode, rfl⟩, _, _, hrequest, _, _,
    ⟨rfl, rfl⟩, -, _, ⟨hcount, rfl⟩, time, _, ⟨htime, rfl⟩, -, _, rfl, -, rfl⟩
  rcases validateRequest_ok hrequest with ⟨rfl, haccepted⟩
  refine ⟨time, htime, hblank, hlong, fun code hmem => ?_, haccepted, hcount, rfl⟩
  rw [Option.mem_def.mp hmem, Option.any_some, decide_eq_false_iff_not, not_lt] at hcode
  exact hcode

/-- A status that a handle takes. -/
def Status.Valid : Status → Prop
  | .number n => n.isFinite = true
  | .text units => units.length ≤ 100

theorem complete_ok {handle : Nat} {status : Option Status} {response : Option AppAuditResponse}
    {error : Option AppAuditError} {now : TimeValue} {answer : Unit}
    (h : complete handle status response error now recorder = .ok answer after) :
    ∃ found, recorder.handles[handle]? = some found ∧ found.completed = false ∧
      (∀ given ∈ status, given.Valid) ∧
      (∀ object ∈ response, (strictObject responseShape object.value).isSome = true) ∧
      (∀ object ∈ error, (strictObject errorShape object.value).isSome = true) ∧
      after = { recorder with
        handles := recorder.handles.set handle (found.finish status response error now) } := by
  simp only [complete, bind_eq_ok, get_eq_ok] at h
  rcases h with ⟨_, _, ⟨rfl, rfl⟩, h⟩
  cases hfound : recorder.handles[handle]? with
  | none =>
      simp only [hfound] at h
      exact absurd h throw_ne_ok
  | some found =>
      simp only [hfound, bind_eq_ok, refuse_eq_ok, modify_eq_ok] at h
      rcases h with ⟨-, _, ⟨hopen, rfl⟩, -, _, ⟨hnumber, rfl⟩, -, _, ⟨htext, rfl⟩, _, _, hresponse,
        _, _, herror, rfl⟩
      rcases validateResponse_ok hresponse with ⟨rfl, hresponses⟩
      rcases validateError_ok herror with ⟨rfl, herrors⟩
      refine ⟨found, rfl, hopen, ?_, hresponses, herrors, rfl⟩
      intro given hgiven
      rw [Option.mem_def] at hgiven
      subst hgiven
      cases given with
      | number n => simpa [Status.Valid] using hnumber
      | text units => simpa [Status.Valid] using htext

/-! ### Calls that throw -/

/-- Nothing is done, whatever comes out. -/
def ReadsOnly (call : Call α) : Prop :=
  ∀ recorder after, (∀ answer, call recorder = .ok answer after → after = recorder) ∧
    ∀ thrown, call recorder = .error thrown after → after = recorder

/-- Nothing is done by a call that throws. -/
def Atomic (call : Call α) : Prop :=
  ∀ recorder thrown after, call recorder = .error thrown after → after = recorder

theorem Atomic.bind {call : Call α} {rest : α → Call β} (hcall : ReadsOnly call)
    (hrest : ∀ answer, Atomic (rest answer)) : Atomic (call >>= rest) :=
  show Throwing.Atomic id _ from .bind hcall hrest

theorem ReadsOnly.bind {call : Call α} {rest : α → Call β} (hcall : ReadsOnly call)
    (hrest : ∀ answer, ReadsOnly (rest answer)) : ReadsOnly (call >>= rest) :=
  show Keeps id _ from .bind hcall hrest

theorem readsOnly_refuse (condition : Bool) (thrown : Thrown) :
    ReadsOnly (refuse condition thrown) := by
  intro recorder after
  cases condition with
  | true => exact ⟨fun _ h => by contradiction, fun _ h => (EStateM.Result.error.inj h).2.symm⟩
  | false => exact ⟨fun _ h => (EStateM.Result.ok.inj h).2.symm, fun _ h => by contradiction⟩

theorem readsOnly_get : ReadsOnly (get : Call AppAuditRecorder) :=
  fun _ _ => ⟨fun _ h => (EStateM.Result.ok.inj h).2.symm, fun _ h => by contradiction⟩

theorem readsOnly_timeValue (date : JsDate) : ReadsOnly (timeValue date) := by
  intro recorder after
  cases date with
  | none => exact ⟨fun _ h => by contradiction, fun _ h => (EStateM.Result.error.inj h).2.symm⟩
  | some time => exact ⟨fun _ h => (EStateM.Result.ok.inj h).2.symm, fun _ h => by contradiction⟩

theorem atomic_throw (thrown : Thrown) : Atomic (throw thrown : Call α) :=
  fun _ _ _ h => (EStateM.Result.error.inj h).2.symm

/-- A call that always returns. -/
theorem atomic_modify (f : AppAuditRecorder → AppAuditRecorder) (answer : α) :
    Atomic (do modify f; return answer : Call α) :=
  fun _ _ _ h => by contradiction

theorem readsOnly_validateRequest (request : Option AppAuditRequest) :
    ReadsOnly (validateRequest request) :=
  .bind (readsOnly_refuse _ _) fun _ => .bind (readsOnly_refuse _ _) fun _ => readsOnly_refuse _ _

theorem readsOnly_validateResponse (response : Option AppAuditResponse) :
    ReadsOnly (validateResponse response) :=
  .bind (readsOnly_refuse _ _) fun _ => readsOnly_refuse _ _

theorem readsOnly_validateError (error : Option AppAuditError) :
    ReadsOnly (validateError error) :=
  .bind (readsOnly_refuse _ _) fun _ => .bind (readsOnly_refuse _ _) fun _ => readsOnly_refuse _ _

/-- A call that throws leaves the recorder as it was. -/
theorem Operation.atomic (operation : Operation) : Atomic operation.call := by
  have hcomplete : ∀ handle status response error now,
      Atomic (complete handle status response error now) := by
    intro handle status response error now
    refine .bind readsOnly_get fun recorder => ?_
    cases recorder.handles[handle]? with
    | none => exact atomic_throw _
    | some found =>
        exact .bind (readsOnly_refuse _ _) fun _ => .bind (readsOnly_refuse _ _) fun _ =>
          .bind (readsOnly_refuse _ _) fun _ => .bind (readsOnly_validateResponse _) fun _ =>
            .bind (readsOnly_validateError _) fun _ => atomic_modify _ ()
  cases operation with
  | addMetadata key value =>
      exact .bind (readsOnly_refuse _ _) fun _ => .bind (readsOnly_refuse _ _) fun _ =>
        .bind readsOnly_get fun _ => .bind (readsOnly_refuse _ _) fun _ => atomic_modify _ ()
  | startStep input now =>
      have hstart : Atomic (JavaScriptRecorder.startStep input now) :=
        .bind (readsOnly_refuse _ _) fun _ => .bind (readsOnly_refuse _ _) fun _ =>
          .bind (readsOnly_refuse _ _) fun _ => .bind (readsOnly_validateRequest _) fun _ =>
            .bind readsOnly_get fun _ => .bind (readsOnly_refuse _ _) fun _ =>
              .bind (readsOnly_timeValue _) fun _ => atomic_modify _ _
      intro recorder thrown after h
      rcases bind_eq_error.mp h with h | ⟨_, _, _, h⟩
      · exact hstart recorder thrown after h
      · contradiction
  | succeed handle result now => exact hcomplete _ _ _ _ _
  | fail handle result now => exact hcomplete _ _ _ _ _

end

end JavaScriptRecorder
end AppAudit
end R2RPC
