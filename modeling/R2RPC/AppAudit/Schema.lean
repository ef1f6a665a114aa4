import R2RPC.Library.Calendar
import R2RPC.Library.JsonText
import R2RPC.Library.Schema

/-!
# The audit contract of the server

What {lit}`validateDeviceAppAudit` takes from a device: its size as JSON, the strict
schemas of version 1 and consecutive sequence numbers.

Main results:

- Definition {lit}`validateDeviceAppAudit`.
- Theorem {lit}`validate_isOk_iff`: what the validation accepts, for an audit whose steps
  are numbered.
- Theorem {lit}`deepEqual_of_validate`: the accepted audit is deeply equal to its input.

Current gaps:

- The check of timestamps belongs to the schema library and is a parameter.
- A refusal by a schema does not say which issue came first.
-/

namespace R2RPC
namespace AppAudit

open Utf16 Binary JavaScript Schema

def appAuditMaxBytes : Nat := 512 * 1024
def appAuditMaxMetadata : Nat := 64
def appAuditMaxSteps : Nat := 128

/-! ## Schemas -/

/-- `z.string().min(minimum).max(maximum)`. -/
def stringBetween (minimum maximum : Nat) : Check :=
  text fun text => decide (minimum ≤ text.length ∧ text.length ≤ maximum)

/-- `z.number().int()` within bounds. -/
def integerBetween (minimum maximum : Int) : Check :=
  number fun n => n.toInt.any fun k => decide (minimum ≤ k ∧ k ≤ maximum)

/-- `z.number().finite()`. -/
def finiteNumber : Check := number fun _ => true

/-- `n >= 0`. -/
def nonnegative (n : JsNumber) : Bool :=
  match n with
  | .nan => false
  | .infinity negative => !negative
  | .finite negative m => !negative || m.units == 0

/-- `z.number().finite().nonnegative()`. -/
def nonnegativeNumber : Check := number nonnegative

/-- `z.enum(['json', 'text', 'empty'])`. -/
def bodyFormat : Check :=
  text fun text => text == lit "json" || text == lit "text" || text == lit "empty"

def metadataShape : List Property :=
  [⟨lit "key", false, stringBetween 1 100⟩, ⟨lit "value", false, unknown⟩]

def requestShape : List Property :=
  [⟨lit "method", true, stringBetween 1 32⟩, ⟨lit "url", true, stringBetween 0 4096⟩,
    ⟨lit "headers", true, unknown⟩, ⟨lit "body", true, unknown⟩]

def responseShape : List Property :=
  [⟨lit "statusCode", true, integerBetween 0 999⟩, ⟨lit "headers", true, unknown⟩,
    ⟨lit "bodyFormat", true, bodyFormat⟩, ⟨lit "body", true, unknown⟩]

def errorShape : List Property :=
  [⟨lit "type", true, stringBetween 0 100⟩, ⟨lit "code", true, stringBetween 0 100⟩,
    ⟨lit "message", true, stringBetween 0 4096⟩]

/-- `z.iso.datetime({ offset: true })`. -/
def timestamp (datetime : JsString → Bool) : Check := text datetime

section

variable (datetime : JsString → Bool)

def stepShape : List Property :=
  [⟨lit "sequence", false, integerBetween 1 appAuditMaxSteps⟩,
    ⟨lit "code", true, stringBetween 0 100⟩, ⟨lit "name", false, stringBetween 1 200⟩,
    ⟨lit "startedAt", false, timestamp datetime⟩, ⟨lit "durationMs", false, nonnegativeNumber⟩,
    ⟨lit "status", true, either finiteNumber (stringBetween 0 100)⟩,
    ⟨lit "request", true, strictObject requestShape⟩,
    ⟨lit "response", true, strictObject responseShape⟩,
    ⟨lit "error", true, strictObject errorShape⟩]

def appAuditShape : List Property :=
  [⟨lit "schemaVersion", false, integerBetween 1 1⟩, ⟨lit "title", false, stringBetween 1 200⟩,
    ⟨lit "metadata", false, arrayOf (strictObject metadataShape) appAuditMaxMetadata⟩,
    ⟨lit "steps", false, arrayOf (strictObject (stepShape datetime)) appAuditMaxSteps⟩]

def appAuditSchema : Check := strictObject (appAuditShape datetime)

/-! ## Validation -/

/-- Why an audit is dropped. -/
inductive Refusal where
  | empty
  | tooLarge
  | invalid
  | wrongSequence (index : Nat)
deriving DecidableEq, Repr

/-- `step.sequence === index + 1`. -/
def numbered (step : Value) (index : Nat) : Bool :=
  match step.get (lit "sequence") with
  | .number n => n.toInt == some ((index : Int) + 1)
  | _ => false

/-- `findIndex` of the first step that is not numbered by its place. -/
def wrongSequence : List Value → Nat → Option Nat
  | [], _ => none
  | step :: steps, index =>
      if numbered step index then wrongSequence steps (index + 1) else some index

/-- `validateDeviceAppAudit`. -/
def validateDeviceAppAudit (input : Value) : Except Refusal Value :=
  match input.stringify with
  | none => .error .empty
  | some encoded =>
      if appAuditMaxBytes < utf8Length 3 encoded then .error .tooLarge
      else
        match appAuditSchema datetime input with
        | none => .error .invalid
        | some data =>
            match data.get (lit "steps") with
            | .array steps =>
                match wrongSequence steps 0 with
                | some index => .error (.wrongSequence index)
                | none => .ok data
            | _ => .error .invalid

end

/-! ## The accepted copy -/

variable {datetime : JsString → Bool}

theorem copies_metadata : Copies (strictObject metadataShape) := by
  refine .strictObject (by decide) ?_
  simp only [metadataShape, List.forall_mem_cons, List.not_mem_nil, false_implies, implies_true,
    and_true]
  exact ⟨copies_satisfies _, copies_unknown⟩

theorem copies_request : Copies (strictObject requestShape) := by
  refine .strictObject (by decide) ?_
  simp only [requestShape, List.forall_mem_cons, List.not_mem_nil, false_implies, implies_true,
    and_true]
  exact ⟨copies_satisfies _, copies_satisfies _, copies_unknown, copies_unknown⟩

theorem copies_response : Copies (strictObject responseShape) := by
  refine .strictObject (by decide) ?_
  simp only [responseShape, List.forall_mem_cons, List.not_mem_nil, false_implies, implies_true,
    and_true]
  exact ⟨copies_satisfies _, copies_unknown, copies_satisfies _, copies_unknown⟩

theorem copies_error : Copies (strictObject errorShape) := by
  refine .strictObject (by decide) ?_
  simp only [errorShape, List.forall_mem_cons, List.not_mem_nil, false_implies, implies_true,
    and_true]
  exact ⟨copies_satisfies _, copies_satisfies _, copies_satisfies _⟩

theorem stepShape_nodup : ((stepShape datetime).map (·.key)).Nodup := by
  simp only [stepShape, List.map_cons, List.map_nil]
  decide

theorem appAuditShape_nodup : ((appAuditShape datetime).map (·.key)).Nodup := by
  simp only [appAuditShape, List.map_cons, List.map_nil]
  decide

theorem copies_step : Copies (strictObject (stepShape datetime)) := by
  refine .strictObject stepShape_nodup ?_
  simp only [stepShape, List.forall_mem_cons, List.not_mem_nil, false_implies, implies_true,
    and_true]
  exact ⟨copies_satisfies _, copies_satisfies _, copies_satisfies _, copies_satisfies _,
    copies_satisfies _, .either (copies_satisfies _) (copies_satisfies _), copies_request,
    copies_response, copies_error⟩

theorem copies_appAudit : Copies (appAuditSchema datetime) := by
  refine .strictObject appAuditShape_nodup ?_
  simp only [appAuditShape, List.forall_mem_cons, List.not_mem_nil, false_implies, implies_true,
    and_true]
  exact ⟨copies_satisfies _, copies_satisfies _, copies_metadata.arrayOf _, copies_step.arrayOf _⟩

/-- The accepted audit is deeply equal to its input. -/
theorem deepEqual_of_validate {input data : Value} (hjson : input.IsJson)
    (h : validateDeviceAppAudit datetime input = .ok data) : DeepEqual data input := by
  unfold validateDeviceAppAudit at h
  split at h
  · contradiction
  · split at h
    · contradiction
    · split at h
      · contradiction
      · rename_i checked hchecked
        split at h
        · split at h
          · contradiction
          · rw [Except.ok.injEq] at h
            exact h ▸ copies_appAudit input checked hjson hchecked
        · contradiction

/-- The server takes an audit from its JSON text, and keeps all of it. -/
def Accepted (datetime : JsString → Bool) (text : JsString) : Prop :=
  ∃ parsed data, parse text = some parsed ∧ validateDeviceAppAudit datetime parsed = .ok data ∧
    DeepEqual data parsed

theorem accepted_iff {text : JsString} {parsed : Value} (hparse : parse text = some parsed)
    (hjson : parsed.IsJson) :
    Accepted datetime text ↔ ∃ data, validateDeviceAppAudit datetime parsed = .ok data := by
  constructor
  · rintro ⟨other, data, hother, hvalidate, -⟩
    rw [hparse, Option.some.injEq] at hother
    exact ⟨data, hother ▸ hvalidate⟩
  · rintro ⟨data, hvalidate⟩
    exact ⟨parsed, data, hparse, hvalidate, deepEqual_of_validate hjson hvalidate⟩

/-! ## A round trip through JSON text -/

theorem nonnegative_settled (n : JsNumber) : nonnegative n.settled = nonnegative n := by
  cases n with
  | finite negative m => cases negative <;> simp [nonnegative, Number.settled]
  | _ => rfl

theorem stable_integerBetween (minimum maximum : Int) : Stable (integerBetween minimum maximum) :=
  stable_number fun n => by rw [Number.toInt_settled]

theorem stable_metadata : Stable (strictObject metadataShape) := by
  refine .strictObject ?_
  simp only [metadataShape, List.forall_mem_cons, List.not_mem_nil, false_implies, implies_true,
    and_true]
  exact ⟨stable_text _, stable_unknown⟩

theorem stable_request : Stable (strictObject requestShape) := by
  refine .strictObject ?_
  simp only [requestShape, List.forall_mem_cons, List.not_mem_nil, false_implies, implies_true,
    and_true]
  exact ⟨stable_text _, stable_text _, stable_unknown, stable_unknown⟩

theorem stable_response : Stable (strictObject responseShape) := by
  refine .strictObject ?_
  simp only [responseShape, List.forall_mem_cons, List.not_mem_nil, false_implies, implies_true,
    and_true]
  exact ⟨stable_integerBetween _ _, stable_unknown, stable_text _, stable_unknown⟩

theorem stable_error : Stable (strictObject errorShape) := by
  refine .strictObject ?_
  simp only [errorShape, List.forall_mem_cons, List.not_mem_nil, false_implies, implies_true,
    and_true]
  exact ⟨stable_text _, stable_text _, stable_text _⟩

theorem stable_step : Stable (strictObject (stepShape datetime)) := by
  refine .strictObject ?_
  simp only [stepShape, List.forall_mem_cons, List.not_mem_nil, false_implies, implies_true,
    and_true]
  exact ⟨stable_integerBetween _ _, stable_text _, stable_text _,
    stable_text _, stable_number nonnegative_settled,
    (stable_number fun _ => rfl).either (stable_text _), stable_request, stable_response,
    stable_error⟩

/-! ## Sequence numbers -/

theorem wrongSequence_eq_none {steps : List Value} {start : Nat} :
    wrongSequence steps start = none ↔
      ∀ index step, steps[index]? = some step → numbered step (start + index) = true := by
  induction steps generalizing start with
  | nil => simp [wrongSequence]
  | cons step steps ih =>
      rw [wrongSequence]
      split
      · rename_i hstep
        rw [ih]
        constructor
        · intro hrest index other hother
          cases index with
          | zero =>
              rw [List.getElem?_cons_zero, Option.some.injEq] at hother
              exact hother ▸ hstep
          | succ index =>
              rw [List.getElem?_cons_succ] at hother
              rw [show start + (index + 1) = start + 1 + index by omega]
              exact hrest index other hother
        · intro hall index other hother
          rw [show start + 1 + index = start + (index + 1) by omega]
          exact hall (index + 1) other (by rwa [List.getElem?_cons_succ])
      · rename_i hstep
        simp only [reduceCtorEq, false_iff]
        intro hall
        exact hstep (hall 0 step rfl)

/-- The number of a step is an own field of it. -/
theorem numbered_iff {fields : Fields} {index : Nat} :
    numbered (.object true fields) index = true ↔
      ∃ n, lookup fields (lit "sequence") = some (.number n) ∧
        n.toInt = some ((index : Int) + 1) := by
  unfold numbered
  cases hfield : lookup fields (lit "sequence") with
  | none =>
      have hinherited : inherited (lit "sequence") = .undefined := by
        unfold inherited
        rw [if_neg (by decide), if_neg (by decide)]
      simp [Value.get, hfield, hinherited]
  | some value =>
      cases value <;> simp [Value.get, hfield]

/-- Only an object has a number. -/
theorem object_of_numbered {step : Value} {index : Nat} (hjson : step.IsJson)
    (h : numbered step index = true) :
    ∃ fields, step = .object true fields ∧ Ordered fields := by
  cases step with
  | object inherits fields =>
      rw [Value.IsJson] at hjson
      exact ⟨fields, by rw [hjson.1], hjson.2.1⟩
  | array elements =>
      have hmissing : (Value.array elements).get (lit "sequence") = .undefined := rfl
      rw [numbered, hmissing] at h
      contradiction
  | _ => contradiction

theorem numbered_settled {step : Value} {index : Nat} (hjson : step.IsJson)
    (h : numbered step index = true) : numbered step.settled index = true := by
  rcases object_of_numbered hjson h with ⟨fields, rfl, -⟩
  rcases numbered_iff.mp h with ⟨n, hn, hindex⟩
  refine numbered_iff.mpr ⟨n.settled, ?_, by rw [Number.toInt_settled, hindex]⟩
  rw [Value.lookup_settledFields, hn, Option.map_some]
  cases n with
  | finite negative m => rfl
  | _ => contradiction

/-- A copy of a numbered value has its number. -/
theorem numbered_copy {copy : Value} {fields : Fields} {n : JsNumber} {index : Nat}
    (h : DeepEqual copy (.object true fields)) (hfields : (fields.map (·.1)).Nodup)
    (hn : lookup fields (lit "sequence") = some (.number n)) :
    numbered copy index = true ↔ numbered (.object true fields) index = true := by
  rcases h.lookup hfields with ⟨copies, rfl, hlookup⟩
  rcases hlookup _ _ hn with ⟨number, hcopy, hequal⟩
  rw [numbered_iff, numbered_iff, hcopy, hn, hequal.number]

/-! ## What is accepted -/

/-- An audit as both recorders build it. -/
def auditValue (title : JsString) (metadata steps : List Value) : Value :=
  .object true
    [(lit "schemaVersion", .number (ofDecimal binary64 false 1 0)), (lit "title", .string title),
      (lit "metadata", .array metadata), (lit "steps", .array steps)]

theorem auditValue_isJson {title : JsString} {metadata steps : List Value} :
    (auditValue title metadata steps).IsJson ↔
      (∀ item ∈ metadata, item.IsJson) ∧ ∀ step ∈ steps, step.IsJson := by
  have hordered : Ordered
      [(lit "schemaVersion", .number (ofDecimal binary64 false 1 0)), (lit "title", .string title),
        (lit "metadata", .array metadata), (lit "steps", .array steps)] :=
    ordered_of_keys (by simp only [List.map_cons, List.map_nil]; decide)
  simp [auditValue, Value.IsJson, Value.isJsonFields_iff, Value.isJsonElements_iff, hordered]

theorem arrayOf_isSome {element : Check} {maximum : Nat} {elements : List Value} :
    (arrayOf element maximum (.array elements)).isSome = true ↔
      elements.length ≤ maximum ∧ ∀ value ∈ elements, (element value).isSome = true := by
  rw [arrayOf]
  split
  · rename_i hlength
    rw [Option.isSome_map, mapM_isSome]
    exact (and_iff_right hlength).symm
  · rename_i hlength
    simp [hlength]

/-- The schema of an audit with acceptable metadata leaves its steps to check. -/
theorem appAuditSchema_isSome {title : JsString} {metadata steps : List Value}
    (htitle : 1 ≤ title.length ∧ title.length ≤ 200)
    (hmetadata : metadata.length ≤ appAuditMaxMetadata ∧
      ∀ item ∈ metadata, (strictObject metadataShape item).isSome = true)
    (hsteps : steps.length ≤ appAuditMaxSteps) :
    (appAuditSchema datetime (auditValue title metadata steps)).isSome = true ↔
      ∀ step ∈ steps, (strictObject (stepShape datetime) step).isSome = true := by
  have hone : (ofDecimal binary64 false 1 0).toInt = some 1 := by decide +kernel
  have hversion : (integerBetween 1 1 (.number (ofDecimal binary64 false 1 0))).isSome = true := by
    simp [integerBetween, hone, Number.isFinite_of_toInt hone]
  have htitle' : (stringBetween 1 200 (.string title)).isSome = true := by
    simp [stringBetween, htitle]
  have hversionCheck : checkOf (appAuditShape datetime) (lit "schemaVersion") =
      integerBetween 1 1 := rfl
  have htitleCheck : checkOf (appAuditShape datetime) (lit "title") = stringBetween 1 200 := rfl
  have hmetadataCheck : checkOf (appAuditShape datetime) (lit "metadata") =
      arrayOf (strictObject metadataShape) appAuditMaxMetadata := rfl
  have hstepsCheck : checkOf (appAuditShape datetime) (lit "steps") =
      arrayOf (strictObject (stepShape datetime)) appAuditMaxSteps := rfl
  rw [appAuditSchema, auditValue, strictObject_isSome appAuditShape_nodup
    (by simp only [List.map_cons, List.map_nil]; decide) (by simp [Value.isUndefined]) rfl]
  simp only [List.forall_mem_cons, List.not_mem_nil, false_implies, implies_true, and_true,
    hversionCheck, htitleCheck, hmetadataCheck, hstepsCheck, arrayOf_isSome]
  exact ⟨fun h => h.2.2.2.2, fun h => ⟨hversion, htitle', hmetadata, hsteps, h⟩⟩

/-- An accepted step has a number. -/
theorem sequence_of_accepted {step : Value} (hjson : step.IsJson)
    (h : (strictObject (stepShape datetime) step).isSome = true) :
    ∃ fields n, step = .object true fields ∧ Ordered fields ∧
      lookup fields (lit "sequence") = some (.number n) := by
  cases step with
  | object inherits fields =>
      rw [Value.IsJson, Value.isJsonFields_iff] at hjson
      rcases hjson with ⟨rfl, hordered, hfields⟩
      have hnodup := nodup_of_ordered hordered
      have hproperty : (⟨lit "sequence", false, integerBetween 1 appAuditMaxSteps⟩ : Property) ∈
          stepShape datetime := List.mem_cons_self
      have hchecks := ((strictObject_isSome_iff hnodup
        (fun field hfield => isUndefined_of_isJson (hfields field hfield)) true).mp h).2 _ hproperty
      rcases hchecks.1 rfl with ⟨value, hvalue⟩
      have haccepts := hchecks.2 value hvalue
      cases value with
      | number n => exact ⟨fields, n, rfl, hordered, (lookup_eq_some hnodup).mpr hvalue⟩
      | _ => contradiction
  | _ => contradiction

/-- The steps of a copy are numbered exactly when the steps themselves are. -/
theorem wrongSequence_copies {steps copies : List Value} (hjson : ∀ step ∈ steps, step.IsJson)
    (haccepted : ∀ step ∈ steps, (strictObject (stepShape datetime) step).isSome = true)
    (hcopies : List.Forall₂ DeepEqual copies steps) :
    wrongSequence copies 0 = none ↔
      ∀ index step, steps[index]? = some step → numbered step index = true := by
  have hlength := hcopies.length_eq
  have hsame : ∀ index copy step, copies[index]? = some copy → steps[index]? = some step →
      (numbered copy index = true ↔ numbered step index = true) := by
    intro index copy step hcopy hstep
    rcases List.getElem?_eq_some_iff.mp hcopy with ⟨hindex, hget⟩
    rcases List.getElem?_eq_some_iff.mp hstep with ⟨hindex', hget'⟩
    have hequal : DeepEqual copies[index] steps[index] := hcopies.get hindex hindex'
    have hmem := List.mem_of_getElem? hstep
    rcases sequence_of_accepted (hjson step hmem) (haccepted step hmem) with
      ⟨fields, n, rfl, hordered, hn⟩
    rw [hget, hget'] at hequal
    exact numbered_copy hequal (nodup_of_ordered hordered) hn
  rw [wrongSequence_eq_none]
  simp only [Nat.zero_add]
  constructor
  · intro h index step hstep
    have hindex := (List.getElem?_eq_some_iff.mp hstep).1
    have hcopy : copies[index]? = some copies[index] := List.getElem?_eq_getElem (by omega)
    exact (hsame index _ step hcopy hstep).mp (h index _ hcopy)
  · intro h index copy hcopy
    have hindex := (List.getElem?_eq_some_iff.mp hcopy).1
    have hstep : steps[index]? = some steps[index] := List.getElem?_eq_getElem (by omega)
    exact (hsame index copy _ hcopy hstep).mpr (h index _ hstep)

/-- An accepted audit has an array of steps. -/
theorem steps_of_accepted {input : Value} (hjson : input.IsJson)
    (h : (appAuditSchema datetime input).isSome = true) :
    ∃ fields steps, input = .object true fields ∧ Ordered fields ∧
      lookup fields (lit "steps") = some (.array steps) ∧ (∀ step ∈ steps, step.IsJson) ∧
      ∀ step ∈ steps, (strictObject (stepShape datetime) step).isSome = true := by
  cases input with
  | object inherits fields =>
      rw [Value.IsJson, Value.isJsonFields_iff] at hjson
      rcases hjson with ⟨rfl, hordered, hfields⟩
      have hnodup := nodup_of_ordered hordered
      have hproperty : (⟨lit "steps", false,
          arrayOf (strictObject (stepShape datetime)) appAuditMaxSteps⟩ : Property) ∈
          appAuditShape datetime := by
        simp [appAuditShape]
      have hchecks := ((strictObject_isSome_iff hnodup
        (fun field hfield => isUndefined_of_isJson (hfields field hfield)) true).mp h).2 _ hproperty
      obtain ⟨value, hvalue⟩ : ∃ value, (lit "steps", value) ∈ fields := hchecks.1 rfl
      have haccepts : (arrayOf (strictObject (stepShape datetime)) appAuditMaxSteps value).isSome =
          true := hchecks.2 value hvalue
      have hvalueJson := hfields _ hvalue
      cases value with
      | array steps =>
          rw [Value.IsJson, Value.isJsonElements_iff] at hvalueJson
          rw [arrayOf_isSome] at haccepts
          have hlookup := (lookup_eq_some hnodup).mpr hvalue
          exact ⟨fields, steps, rfl, hordered, hlookup, hvalueJson, haccepts.2⟩
      | _ => simp [arrayOf] at haccepts
  | _ => contradiction

/-- What is accepted, whoever made it. -/
theorem validate_isOk {input : Value} {encoded : JsString} (hjson : input.IsJson)
    (hencoded : input.stringify = some encoded) :
    (∃ data, validateDeviceAppAudit datetime input = .ok data) ↔
      utf8Length 3 encoded ≤ appAuditMaxBytes ∧ (appAuditSchema datetime input).isSome = true ∧
        ∀ steps, input.get (lit "steps") = .array steps →
          ∀ index step, steps[index]? = some step → numbered step index = true := by
  unfold validateDeviceAppAudit
  rw [hencoded]
  by_cases hsize : appAuditMaxBytes < utf8Length 3 encoded
  · simp [hsize]
  · have hfits : utf8Length 3 encoded ≤ appAuditMaxBytes := not_lt.mp hsize
    cases hchecked : appAuditSchema datetime input with
    | none => simp [hsize]
    | some data =>
        rcases steps_of_accepted hjson (Option.isSome_of_eq_some hchecked) with
          ⟨fields, steps, rfl, hordered, hlookup, hstepsJson, haccepted⟩
        have hequal := copies_appAudit _ data hjson hchecked
        rcases hequal.lookup (nodup_of_ordered hordered) with ⟨others, rfl, hfields⟩
        rcases hfields _ _ hlookup with ⟨copy, hcopy, hsame⟩
        rcases hsame.elements with ⟨copies, rfl, hcopies⟩
        have hget : (Value.object true others).get (lit "steps") = .array copies := by
          simp [Value.get, hcopy]
        have hinput : (Value.object true fields).get (lit "steps") = .array steps := by
          simp [Value.get, hlookup]
        have hnumbers := wrongSequence_copies hstepsJson haccepted hcopies
        simp only [hsize, if_false, hget, hinput, hfits, Option.isSome_some, true_and,
          Value.array.injEq, forall_eq']
        rw [← hnumbers]
        cases wrongSequence copies 0 <;> simp

/-- An audit with acceptable metadata and numbered steps is accepted exactly when it fits
and each of its steps does. -/
theorem validate_isOk_iff {title : JsString} {metadata steps : List Value} {encoded : JsString}
    (hjson : (auditValue title metadata steps).IsJson)
    (htitle : 1 ≤ title.length ∧ title.length ≤ 200)
    (hmetadata : metadata.length ≤ appAuditMaxMetadata ∧
      ∀ item ∈ metadata, (strictObject metadataShape item).isSome = true)
    (hsteps : steps.length ≤ appAuditMaxSteps)
    (hnumbered : ∀ index step, steps[index]? = some step → numbered step index = true)
    (hencoded : (auditValue title metadata steps).stringify = some encoded) :
    (∃ data, validateDeviceAppAudit datetime (auditValue title metadata steps) = .ok data) ↔
      utf8Length 3 encoded ≤ appAuditMaxBytes ∧
        ∀ step ∈ steps, (strictObject (stepShape datetime) step).isSome = true := by
  have hget : (auditValue title metadata steps).get (lit "steps") = .array steps := rfl
  rw [validate_isOk hjson hencoded, appAuditSchema_isSome htitle hmetadata hsteps, hget]
  refine and_congr_right fun _ => and_iff_left ?_
  intro other hother
  exact Value.array.inj hother ▸ hnumbered

theorem auditValue_settled (title : JsString) (metadata steps : List Value) :
    (auditValue title metadata steps).settled =
      auditValue title (metadata.map Value.settled) (steps.map Value.settled) := by
  rcases ofDecimal_whole (F := binary64) (n := 1) (k := 53) (by omega) (by decide) (by decide) false
    with ⟨m, hone⟩
  simp only [auditValue, hone, Value.settled, Value.settledFields, Value.settledElements_eq,
    Number.settled, Bool.false_and]

/-- What the server makes of the JSON text of an audit. -/
theorem accepted_stringify_iff {title : JsString} {metadata steps : List Value}
    {encoded : JsString} (hjson : (auditValue title metadata steps).IsJson)
    (htitle : 1 ≤ title.length ∧ title.length ≤ 200)
    (hmetadata : metadata.length ≤ appAuditMaxMetadata ∧
      ∀ item ∈ metadata, (strictObject metadataShape item).isSome = true)
    (hsteps : steps.length ≤ appAuditMaxSteps)
    (hnumbered : ∀ index step, steps[index]? = some step → numbered step index = true)
    (hencoded : (auditValue title metadata steps).stringify = some encoded) :
    Accepted datetime encoded ↔
      utf8Length 3 encoded ≤ appAuditMaxBytes ∧
        ∀ step ∈ steps, (strictObject (stepShape datetime) step).isSome = true := by
  rcases Value.parse_stringify hjson with ⟨text, htext, hparse⟩
  obtain rfl : text = encoded := Option.some.inj (htext.symm.trans hencoded)
  have hsettled := Value.isJson_settled hjson
  have hagain := (Value.stringify_settled (auditValue title metadata steps)).trans hencoded
  rw [auditValue_settled] at hparse hsettled hagain
  rcases auditValue_isJson.mp hjson with ⟨hmetadataJson, hstepsJson⟩
  have hmetadataSettled : (metadata.map Value.settled).length ≤ appAuditMaxMetadata ∧
      ∀ item ∈ metadata.map Value.settled, (strictObject metadataShape item).isSome = true := by
    rw [List.length_map, List.forall_mem_map]
    refine ⟨hmetadata.1, fun item hitem => ?_⟩
    rw [stable_metadata item (hmetadataJson item hitem), hmetadata.2 item hitem]
  have hnumberedSettled : ∀ index step, (steps.map Value.settled)[index]? = some step →
      numbered step index = true := by
    intro index step hstep
    rw [List.getElem?_map] at hstep
    rcases Option.map_eq_some_iff.mp hstep with ⟨original, horiginal, rfl⟩
    exact numbered_settled (hstepsJson _ (List.mem_of_getElem? horiginal))
      (hnumbered index original horiginal)
  rw [accepted_iff hparse hsettled, validate_isOk_iff hsettled htitle hmetadataSettled
    (by rwa [List.length_map]) hnumberedSettled hagain, List.forall_mem_map]
  refine and_congr_right fun _ => forall₂_congr fun step hstep => ?_
  rw [stable_step step (hstepsJson step hstep)]

end AppAudit
end R2RPC
