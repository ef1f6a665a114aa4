import R2RPC.AppAudit.KotlinDocument
import R2RPC.Library.Machine

/-!
# Snapshots of the Kotlin recorder

What the recorder of a run has recorded, and whether its snapshot passes the server.

Main results:

- Structure {lit}`Recorded`: the limits of a recorder and where its steps come from, as an
  invariant.
- Theorem {lit}`recorded_audits_accepted_iff`: a snapshot passes the server, with its null
  fields left out, exactly when its steps start on dates that the server knows and the
  server's own text of it, with its own numbers and escapes, is not too long.
- Theorem {lit}`audit_of_farFuture_refused`: an audit that the recorder makes and the server
  drops.

Current gaps:

- A clock that calls its recorder is a program that makes these calls itself.
-/

set_option linter.dupNamespace false

namespace R2RPC
namespace AppAudit
namespace KotlinRecorder

open Utf16 Binary JavaScript Schema Calendar Throwing Interleaving

section

variable {serializer : Serializer} {wire : Wire}

/-! ## The invariant -/

/-- An audit within the limits, put together from JSON, whose steps start at these instants. -/
structure Recorded (serializer : Serializer) (wire : Wire) (starts : List Int64)
    (audit : AppAudit) : Prop where
  valid : audit.Valid serializer
  elements : ∀ element ∈ audit.elements, serializer.EncodesJson wire element
  startedAt : audit.steps.map (·.startedAt) = starts.map formatIsoTimestamp

theorem encodesJson_literal (hserializer : serializer.Lawful wire) (content : JsString) :
    serializer.EncodesJson wire (.literal true content) :=
  ⟨_, _, hserializer.literals content, (hserializer.strings content).reads.parse_eq⟩

theorem recorded_of_construct {title : JsString} {recorder : AppAuditRecorder}
    (h : construct title = .ok recorder) : Recorded serializer wire [] recorder.audit := by
  unfold construct at h
  split_ifs at h with hblank hlong
  obtain rfl := Except.ok.inj h
  have htitle : isNotBlank title = true := by simpa using hblank
  refine ⟨⟨⟨length_pos_of_isNotBlank htitle, not_lt.mp hlong⟩, Nat.zero_le _, ?_, Nat.zero_le _, ?_⟩,
    ?_, rfl⟩
  · simp [AppAuditRecorder.audit]
  · simp [AppAuditRecorder.audit]
  · simp [AppAuditRecorder.audit, AppAudit.elements]

variable {starts : List Int64} {recorder after : AppAuditRecorder}

/-! ## Calls -/

theorem recorded_addMetadata {key : JsString} {value : JsonElement} {answer : Unit}
    (h : Recorded serializer wire starts recorder.audit)
    (hvalue : serializer.EncodesJson wire value)
    (hcall : addMetadata key value recorder = .ok answer after) :
    Recorded serializer wire starts after.audit := by
  rcases addMetadata_ok hcall with ⟨hpos, hlong, hcount, rfl⟩
  have helements := h.elements
  simp only [AppAudit.elements, AppAuditRecorder.audit, List.forall_mem_append,
    List.forall_mem_map] at helements
  refine ⟨{ h.valid with metadata := ?_, keys := ?_ }, ?_, h.startedAt⟩
  · rw [AppAuditRecorder.audit, List.length_append]
    exact hcount
  · rw [AppAuditRecorder.audit, List.forall_mem_append, List.forall_mem_singleton]
    exact ⟨h.valid.keys, hpos, hlong⟩
  · simp only [AppAudit.elements, AppAuditRecorder.audit, List.forall_mem_append,
      List.forall_mem_map, List.forall_mem_singleton]
    exact ⟨⟨helements.1, hvalue⟩, helements.2⟩

theorem recorded_startStep {input : AppAuditStepInput} {now : Option Int64}
    {handle : AppAuditStepHandle} (h : Recorded serializer wire starts recorder.audit)
    (helements : ∀ element ∈ input.request.toList.flatMap AppAuditRequest.elements,
      serializer.EncodesJson wire element)
    (hcall : startStep input now recorder = .ok handle after) :
    Recorded serializer wire (starts ++ now.toList) after.audit := by
  rcases startStep_ok hcall with ⟨instant, rfl, hpos, hlong, hcode, hrequest, hcount, rfl⟩
  have hkept := h.elements
  simp only [AppAudit.elements, AppAuditRecorder.audit, List.forall_mem_append,
    List.forall_mem_flatMap] at hkept
  have hstep : (input.step (recorder.steps.length + 1) instant).Valid serializer
      recorder.steps.length := {
    sequence := rfl
    code := hcode
    name := ⟨hpos, hlong⟩
    startedAt := ⟨instant, rfl⟩
    durationMs := Nat.two_pow_pos 63
    status := by simp [AppAuditStepInput.step]
    request := hrequest
    response := by simp [AppAuditStepInput.step]
    error := by simp [AppAuditStepInput.step] }
  refine ⟨{ h.valid with count := ?_, steps := ?_ }, ?_, ?_⟩
  · rw [AppAuditRecorder.audit, List.length_append]
    exact hcount
  · intro index step hindex
    rcases getElem?_concat_cases hindex with hold | ⟨rfl, rfl⟩
    · exact h.valid.steps index step hold
    · exact hstep
  · have hnew : ∀ element ∈ (input.step (recorder.steps.length + 1) instant).elements,
        serializer.EncodesJson wire element := by
      simpa [AppAuditStep.elements, AppAuditStepInput.step] using helements
    simp only [AppAudit.elements, AppAuditRecorder.audit, List.forall_mem_append,
      List.forall_mem_flatMap, List.forall_mem_singleton]
    exact ⟨hkept.1, hkept.2, hnew⟩
  · have hstarted := h.startedAt
    simp only [AppAuditRecorder.audit] at hstarted
    simp [AppAuditRecorder.audit, hstarted, AppAuditStepInput.step]

theorem complete_valid {step : AppAuditStep} {index : Nat} (h : step.Valid serializer index)
    {status : Option JsonElement} {response : Option AppAuditResponse}
    {error : Option AppAuditError} (startedAtMilliseconds now : Int64)
    (hstatus : ∀ given ∈ status, given.ValidStatus serializer)
    (hresponse : ∀ given ∈ response, given.Valid) (herror : ∀ given ∈ error, given.Valid) :
    (step.complete status response error startedAtMilliseconds now).Valid serializer index where
  sequence := h.sequence
  code := h.code
  name := h.name
  startedAt := h.startedAt
  durationMs := by
    have hlt := (now - startedAtMilliseconds).toInt_lt
    simp only [AppAuditStep.complete]
    omega
  status := hstatus
  request := h.request
  response := hresponse
  error := herror

theorem recorded_completeStep {handle : AppAuditStepHandle} {status : Option JsonElement}
    {response : Option AppAuditResponse} {error : Option AppAuditError} {now : Option Int64}
    {answer : Unit} (h : Recorded serializer wire starts recorder.audit)
    (helements : ∀ element ∈ status.toList ++ response.toList.flatMap AppAuditResponse.elements,
      serializer.EncodesJson wire element)
    (hcall : completeStep serializer handle status response error now recorder = .ok answer after) :
    Recorded serializer wire starts after.audit := by
  rcases completeStep_ok hcall with
    ⟨existingStep, instant, hfound, hstatus, hresponse, herror, rfl⟩
  have hkept := h.elements
  have hstarted := h.startedAt
  simp only [AppAudit.elements, AppAuditRecorder.audit, List.forall_mem_append,
    List.forall_mem_flatMap] at hkept helements
  have hexisting := h.valid.steps handle.stepIndex existingStep hfound
  have hcompleted := complete_valid hexisting handle.startedAtMilliseconds instant hstatus hresponse
    herror
  refine ⟨{ h.valid with count := ?_, steps := ?_ }, ?_, ?_⟩
  · simpa [AppAuditRecorder.audit] using h.valid.count
  · intro index step hindex
    simp only [AppAuditRecorder.audit, List.getElem?_set] at hindex
    split_ifs at hindex with hsame hlength
    · obtain rfl := Option.some.inj hindex
      exact hsame ▸ hcompleted
    · exact h.valid.steps index step hindex
  · have hnew : ∀ element ∈ (existingStep.complete status response error
        handle.startedAtMilliseconds instant).elements, serializer.EncodesJson wire element := by
      have hrequest := hkept.2 existingStep (List.mem_of_getElem? hfound)
      simp only [AppAuditStep.elements, List.forall_mem_append] at hrequest
      simp only [AppAuditStep.elements, AppAuditStep.complete, List.forall_mem_append,
        List.forall_mem_flatMap]
      exact ⟨helements.1, by simpa only [List.forall_mem_flatMap] using hrequest.2.1, helements.2⟩
    simp only [AppAudit.elements, AppAuditRecorder.audit, List.forall_mem_append,
      List.forall_mem_flatMap]
    refine ⟨hkept.1, fun step hstep => ?_⟩
    rcases List.mem_or_eq_of_mem_set hstep with hold | rfl
    · exact hkept.2 step hold
    · exact hnew
  · have hsame : (recorder.steps.set handle.stepIndex (existingStep.complete status response error
        handle.startedAtMilliseconds instant)).map (·.startedAt) =
        recorder.steps.map (·.startedAt) := map_set_same hfound rfl
    exact hsame.trans hstarted

/-- A call that starts no step keeps the invariant when it does so by returning. -/
theorem recorded_call {program : Program} {call : Call Unit} {operation : Operation}
    (h : Recorded serializer wire starts program.recorder.audit)
    (hatomic : Atomic AppAuditRecorder.audit call) (hstarts : operation.startsAt = none)
    (hreturns : ∀ answer after, call program.recorder = .ok answer after →
      Recorded serializer wire starts after.audit) :
    Recorded serializer wire
      (starts ++ if (program.call call).2 then operation.startsAt.toList else [])
      (program.call call).1.recorder.audit := by
  have hnone : ∀ returned : Bool,
      (starts ++ if returned then operation.startsAt.toList else []) = starts := by
    intro returned
    cases returned <;> simp [hstarts]
  rw [hnone, Program.call]
  cases hcall : call program.recorder with
  | ok answer after => exact hreturns answer after hcall
  | error thrown after =>
      have hsame : after.audit = program.recorder.audit := hatomic _ thrown after hcall
      exact hsame ▸ h

/-- A call of a program keeps the invariant, with the instant of the step that it starts. -/
theorem recorded_step (hserializer : serializer.Lawful wire) {program : Program}
    {operation : Operation} (h : Recorded serializer wire starts program.recorder.audit)
    (helements : ∀ element ∈ operation.elements, serializer.EncodesJson wire element) :
    Recorded serializer wire
      (starts ++ if (program.step serializer operation).2 then operation.startsAt.toList else [])
      (program.step serializer operation).1.recorder.audit := by
  cases operation with
  | addMetadata key value =>
      refine recorded_call h (atomic_addMetadata key value) rfl fun answer after hok => ?_
      exact recorded_addMetadata h (helements value (by simp [Operation.elements])) hok
  | addText key value =>
      refine recorded_call h (atomic_addMetadata key _) rfl fun answer after hok => ?_
      exact recorded_addMetadata h (encodesJson_literal hserializer value) hok
  | startStep input now =>
      rw [Program.step]
      cases hcall : startStep input now program.recorder with
      | ok handle after => exact recorded_startStep h helements hcall
      | error thrown after =>
          have hsame : after.audit = program.recorder.audit :=
            atomic_startStep input now _ thrown after hcall
          simpa [hsame] using h
  | succeed index result now =>
      rw [Program.step]
      cases program.handles[index]? with
      | none => simpa using h
      | some handle =>
          refine recorded_call h (atomic_completeStep handle _ _ _ now) rfl fun answer after hok => ?_
          exact recorded_completeStep h helements hok
  | fail index result now =>
      rw [Program.step]
      cases program.handles[index]? with
      | none => simpa using h
      | some handle =>
          refine recorded_call h (atomic_completeStep handle _ _ _ now) rfl fun answer after hok => ?_
          exact recorded_completeStep h helements hok

/-! ## Runs -/

theorem run_cons (operation : Operation) (operations : List Operation) (program : Program) :
    run serializer (operation :: operations) program =
      (if (program.step serializer operation).2 then
          operation :: (run serializer operations (program.step serializer operation).1).1
        else (run serializer operations (program.step serializer operation).1).1,
        (run serializer operations (program.step serializer operation).1).2) :=
  rfl

/-- A run keeps the invariant, with the instants of the steps that its calls start. -/
theorem recorded_run (hserializer : serializer.Lawful wire) (operations : List Operation)
    {program : Program} (h : Recorded serializer wire starts program.recorder.audit)
    (helements : ∀ operation ∈ operations, ∀ element ∈ operation.elements,
      serializer.EncodesJson wire element) :
    Recorded serializer wire
      (starts ++ (run serializer operations program).1.filterMap Operation.startsAt)
      (run serializer operations program).2.recorder.audit := by
  induction operations generalizing program starts with
  | nil => simpa [run] using h
  | cons operation operations ih =>
      rw [List.forall_mem_cons] at helements
      have hnext := ih (recorded_step hserializer h helements.1) helements.2
      rw [run_cons]
      cases hreturned : (program.step serializer operation).2 with
      | false => simpa [hreturned] using hnext
      | true =>
          simp only [hreturned, if_true, List.append_assoc] at hnext ⊢
          rw [List.filterMap_cons]
          cases hstart : operation.startsAt with
          | none => simpa [hstart] using hnext
          | some instant => simpa [hstart] using hnext

/-! ## Snapshots -/

/-- The bytes of an audit as the device counts them. -/
def Serializer.deviceBytes (serializer : Serializer) (audit : AppAudit) : Nat :=
  utf8Length 1 ((serializer.encodeToString audit).getD [])

/-- By how many bytes the server's own text of an audit is longer: leaf by leaf, what
`JSON.stringify` of the leaf takes more than the text that the device has sent of it. -/
def Serializer.growth (serializer : Serializer) (wire : Wire) (audit : AppAudit) : Int :=
  (serializer.auditTree audit).growth serializer.quote wire

/-- The server takes the text that the device sends of an audit, without a field for what is
null in it. -/
def Serializer.Accepted (serializer : Serializer) (wire : Wire) (datetime : JsString → Bool)
    (audit : AppAudit) : Prop :=
  ∃ text parsed data, serializer.encodeToString audit = some text ∧
    parse (wire.carry text) = some parsed ∧ validateDeviceAppAudit datetime parsed = .ok data ∧
    serializer.AuditLeavesOutNulls audit parsed

theorem recorded_audits_accepted_iff {serializer : Serializer} {wire : Wire}
    {datetime : JsString → Bool} (hdatetime : ChecksTimestamps datetime)
    (hserializer : serializer.Lawful wire) {title : JsString} {operations : List Operation}
    {recorder : AppAuditRecorder} {audit : AppAudit} (htitle : construct title = .ok recorder)
    (helements : ∀ operation ∈ operations, ∀ element ∈ operation.elements,
      serializer.EncodesJson wire element)
    (hsnapshot : (run serializer operations ⟨recorder, []⟩).2.recorder.snapshot serializer =
      .ok audit) :
    serializer.Accepted wire datetime audit ↔
      (∀ operation ∈ (run serializer operations ⟨recorder, []⟩).1,
        ∀ instant ∈ operation.startsAt, OnGregorianCalendar instant) ∧
      (serializer.deviceBytes audit : Int) + serializer.growth wire audit ≤ appAuditMaxBytes := by
  have hrecorded : Recorded serializer wire _
      (run serializer operations ⟨recorder, []⟩).2.recorder.audit :=
    recorded_run hserializer operations (recorded_of_construct htitle) helements
  obtain ⟨text, htext, rfl⟩ : ∃ text,
      serializer.encodeToString (run serializer operations ⟨recorder, []⟩).2.recorder.audit =
        some text ∧ (run serializer operations ⟨recorder, []⟩).2.recorder.audit = audit := by
    unfold AppAuditRecorder.snapshot at hsnapshot
    split at hsnapshot
    · contradiction
    · rename_i text htext
      split_ifs at hsnapshot
      exact ⟨text, htext, Except.ok.inj hsnapshot⟩
  rcases accepted_audit_iff hserializer datetime hrecorded.valid hrecorded.elements htext with
    ⟨hparse, haccepted⟩
  have hdates : (∀ step ∈ (run serializer operations ⟨recorder, []⟩).2.recorder.audit.steps,
      datetime step.startedAt = true) ↔
      ∀ operation ∈ (run serializer operations ⟨recorder, []⟩).1,
        ∀ instant ∈ operation.startsAt, OnGregorianCalendar instant := by
    rw [← List.forall_mem_map (f := AppAuditStep.startedAt)
      (P := fun text => datetime text = true), hrecorded.startedAt, List.nil_append,
      List.forall_mem_map]
    simp only [formatIsoTimestamp_iff hdatetime, List.mem_filterMap, forall_exists_index, and_imp,
      Option.mem_def]
    exact ⟨fun h operation hoperation instant => h instant operation hoperation,
      fun h instant operation hoperation => h operation hoperation instant⟩
  have hbytes : serializer.deviceBytes (run serializer operations ⟨recorder, []⟩).2.recorder.audit =
      utf8Length 1 text := by
    rw [Serializer.deviceBytes, htext, Option.getD_some]
  rw [hdates, ← Serializer.growth, ← hbytes] at haccepted
  constructor
  · rintro ⟨other, parsed, data, hother, hparsed, hdata, -⟩
    obtain rfl : text = other := Option.some.inj (htext.symm.trans hother)
    rw [hparse, Option.some.injEq] at hparsed
    exact (haccepted.mp ⟨data, hparsed ▸ hdata⟩).symm
  · rintro ⟨hstarts, hfits⟩
    rcases haccepted.mpr ⟨hfits, hstarts⟩ with ⟨data, hdata⟩
    exact ⟨text, _, data, htext, hparse, hdata, auditLeavesOutNulls_arrived _⟩

end

/-! ### A run of one step -/

/-- Literals of digits are numbers. -/
def readDigitsLiteral (content : JsString) : Option JsNumber :=
  if content.all isDigit then
    match parse content with
    | some (.number n) => some n
    | _ => none
  else none

mutual

/-- Elements as they are written, their literals digits or words. -/
def JsonElement.print : JsonElement → JsString
  | .null => lit "null"
  | .literal isString content =>
      if isString || (readDigitsLiteral content).isNone && content != lit "true" &&
          content != lit "false" then printQuoted content
      else content
  | .unquoted content => content
  | .array elements => enclose 91 93 (printElements elements)
  | .object fields => enclose 123 125 (printFields fields)

def JsonElement.printElements : List JsonElement → List JsString
  | [] => []
  | element :: elements => element.print :: printElements elements

def JsonElement.printFields : List (JsString × JsonElement) → List JsString
  | [] => []
  | (key, value) :: fields => (printQuoted key ++ 58 :: value.print) :: printFields fields

end

/-- The serializer, for elements without fractions and exponents. -/
def printer : Serializer where
  quote := printQuoted
  encode element := some element.print
  doubleOrNull := readDigitsLiteral

theorem lawful_printer (wire : Wire) : printer.Lawful wire where
  strings := quotes_printQuoted wire
  literals content := by simp [printer, JsonElement.print]
  numbers := by
    intro element content n text value hprimitive hn hfinite htext hvalue
    have hn : readDigitsLiteral content = some n := hn
    have hisSome : (readDigitsLiteral content).isNone = false := by rw [hn]; rfl
    -- what is written is the content, and it is a number on its own
    have hprinted : element.print = content := by
      cases element with
      | null => simpa [JsonElement.primitive, JsonElement.print] using hprimitive
      | literal isString other =>
          simp only [JsonElement.primitive, Option.some.injEq, Prod.mk.injEq] at hprimitive
          rcases hprimitive with ⟨rfl, rfl⟩
          simp [JsonElement.print, hisSome]
      | unquoted other =>
          simpa [JsonElement.primitive, JsonElement.print] using hprimitive
      | array elements => contradiction
      | object fields => contradiction
    obtain rfl : content = text := by
      rw [← hprinted]
      exact Option.some.inj htext
    unfold readDigitsLiteral at hn
    split_ifs at hn with hdigits
    have hplain : ∀ unit ∈ content, isHalf unit = false := fun unit hunit =>
      not_isHalf_of_isDigit (List.all_eq_true.mp hdigits unit hunit)
    rw [wire.carry_of_plain hplain] at hvalue
    rw [hvalue] at hn
    cases value with
    | number read =>
        obtain rfl := Option.some.inj hn
        exact ⟨read, rfl, hfinite⟩
    | _ => contradiction

def sampleRecorder : AppAuditRecorder := ⟨lit "同步订单", [], [], []⟩

def sampleResponse : AppAuditResponse :=
  ⟨some 200, none, some .json, some (.array [.literal false (lit "12"), .literal true (lit "ok")])⟩

/-- A step that is completed twice: the second time throws. -/
def sampleOperations (startedAt : Int64) : List Operation :=
  [.addText (lit "region") (lit "cn"),
    .startStep ⟨some (lit "login"), lit "登录", none⟩ (some startedAt),
    .succeed 0 ⟨some (.literal false (lit "200")), some sampleResponse⟩ (some (startedAt + 35)),
    .succeed 0 ⟨none, none⟩ (some startedAt)]

def sampleAudit (startedAt : Int64) : AppAudit :=
  (run printer (sampleOperations startedAt) ⟨sampleRecorder, []⟩).2.recorder.audit

/-- 2026-07-24. -/
def sampleTime : Int64 := 1784851200000

/-- The first instant of the year 10000. -/
def farFuture : Int64 := 253402300800000

theorem snapshot_of_fits {recorder : AppAuditRecorder} {serializer : Serializer}
    (hwritten : (serializer.encodeToString recorder.audit).isSome = true)
    (hfits : serializer.deviceBytes recorder.audit ≤ maximumAuditBytes) :
    recorder.snapshot serializer = .ok recorder.audit := by
  rcases Option.isSome_iff_exists.mp hwritten with ⟨text, htext⟩
  rw [Serializer.deviceBytes, htext, Option.getD_some] at hfits
  simp [AppAuditRecorder.snapshot, htext, hfits]

theorem encodesJson_of_plain {wire : Wire} {serializer : Serializer} {element : JsonElement}
    (text : JsString) (htext : serializer.encode element = some text)
    (hplain : ∀ unit ∈ text, isHalf unit = false) (hparse : (parse text).isSome = true) :
    serializer.EncodesJson wire element := by
  rcases Option.isSome_iff_exists.mp hparse with ⟨value, hvalue⟩
  exact ⟨text, value, htext, by rw [wire.carry_of_plain hplain, hvalue]⟩

theorem sample_elements (wire : Wire) (startedAt : Int64) :
    ∀ operation ∈ sampleOperations startedAt, ∀ element ∈ operation.elements,
      printer.EncodesJson wire element := by
  simp only [sampleOperations, sampleResponse, Operation.elements, AppAuditResponse.elements,
    List.forall_mem_cons, List.not_mem_nil, false_implies, implies_true, and_true,
    Option.toList_none, Option.toList_some, List.flatMap_nil, List.flatMap_cons, List.append_nil,
    List.nil_append, List.cons_append, true_and]
  constructor
  · exact encodesJson_of_plain (lit "200") (by decide +kernel) (by decide) (by decide +kernel)
  · exact encodesJson_of_plain (lit "[12,\"ok\"]") (by decide +kernel) (by decide)
      (by decide +kernel)

theorem construct_sample : construct (lit "同步订单") = .ok sampleRecorder := rfl

theorem recorded_audits_accepted_iff_sample :
    printer.Accepted .utf8 isoDatetime (sampleAudit sampleTime) := by
  refine (recorded_audits_accepted_iff checksTimestamps_isoDatetime (lawful_printer .utf8)
    construct_sample (sample_elements .utf8 sampleTime)
    (snapshot_of_fits (by decide +kernel) (by decide +kernel))).mpr ⟨?_, by decide +kernel⟩
  have hstarts : ((run printer (sampleOperations sampleTime) ⟨sampleRecorder, []⟩).1.all
      fun operation => operation.startsAt.all fun instant =>
        decide (OnGregorianCalendar instant)) = true := by
    decide +kernel
  intro operation hoperation instant hinstant
  have hcalendar := List.all_eq_true.mp hstarts operation hoperation
  rw [Option.mem_def.mp hinstant] at hcalendar
  exact of_decide_eq_true hcalendar

theorem audit_of_farFuture_refused :
    (run printer (sampleOperations farFuture) ⟨sampleRecorder, []⟩).2.recorder.snapshot printer =
        .ok (sampleAudit farFuture) ∧
      ∀ wire, ¬ printer.Accepted wire isoDatetime (sampleAudit farFuture) := by
  refine ⟨snapshot_of_fits (by decide +kernel) (by decide +kernel), ?_⟩
  rintro wire ⟨text, parsed, data, htext, hparsed, hdata, -⟩
  have hrecorded : Recorded printer wire _ (sampleAudit farFuture) :=
    recorded_run (lawful_printer wire) (sampleOperations farFuture)
      (recorded_of_construct construct_sample) (sample_elements wire farFuture)
  rcases accepted_audit_iff (lawful_printer wire) isoDatetime hrecorded.valid hrecorded.elements
    htext with ⟨hparse, haccepted⟩
  rw [hparse, Option.some.injEq] at hparsed
  have hdates := (haccepted.mp ⟨data, hparsed ▸ hdata⟩).2
  -- the text of the step has a year of five digits
  have hrefused : ¬ ∀ step ∈ (sampleAudit farFuture).steps, isoDatetime step.startedAt = true := by
    decide +kernel
  exact hrefused hdates

end KotlinRecorder
end AppAudit
end R2RPC
