import R2RPC.AppAudit.JavaScriptRecorder

/-!
# Snapshots of the JavaScript recorder

What every recorder of a run satisfies, and what the server makes of its snapshot.

Main results:

- Structure {lit}`AppAuditRecorder.Valid`: the limits of the recorder, as an invariant.
- Theorem {lit}`snapshots_accepted_iff`: a snapshot passes the server, calls that throw
  leave nothing and steps are completed once, exactly when the steps of the run start in
  years of four digits.
- Theorem {lit}`farFuture_refused`: an audit that the recorder makes and the server drops.

Current gaps:

- The clock stays within the range of time values.
-/

namespace R2RPC
namespace AppAudit
namespace JavaScriptRecorder

open Utf16 Binary JavaScript Schema Calendar Throwing

/-! ## Steps -/

/-- What the recorder keeps of a step at its place. -/
structure AppAuditStep.Valid (step : AppAuditStep) (index : Nat) : Prop where
  sequence : step.sequence = index + 1
  name : 1 ≤ step.name.length ∧ step.name.length ≤ 200
  code : ∀ code ∈ step.code, code.length ≤ 100
  durationMs : step.durationMs < 2 ^ 54
  request : ∀ object ∈ step.request, (strictObject requestShape object.value).isSome = true
  status : ∀ status ∈ step.status, status.Valid
  response : ∀ object ∈ step.response, (strictObject responseShape object.value).isSome = true
  error : ∀ object ∈ step.error, (strictObject errorShape object.value).isSome = true

namespace AppAuditStep

variable {step : AppAuditStep} {index : Nat} {datetime : JsString → Bool}

/-- The keys of a step, if all of them are there. -/
def keys : List JsString :=
  [lit "sequence", lit "name", lit "startedAt", lit "durationMs", lit "code", lit "request",
    lit "status", lit "response", lit "error"]

theorem keys_sublist (step : AppAuditStep) : (step.fields.map (·.1)).Sublist keys := by
  simp only [fields, List.map_append]
  exact (((((List.Sublist.refl _).append (keys_optionalField _ _)).append
    (keys_optionalField _ _)).append (keys_optionalField _ _)).append
      (keys_optionalField _ _)).append (keys_optionalField _ _)

theorem fields_ordered (step : AppAuditStep) : Ordered step.fields := by
  have hkeys : keys.Pairwise fun key later => key ≠ later ∧ precedes later key = false := by decide
  exact List.pairwise_map.mp (hkeys.sublist step.keys_sublist)

theorem forall_fields {P : JsString × Value → Prop} :
    (∀ field ∈ step.fields, P field) ↔
      P (lit "sequence", .number (ofDecimal binary64 false step.sequence 0)) ∧
      P (lit "name", .string step.name) ∧ P (lit "startedAt", .string step.startedAt) ∧
      P (lit "durationMs", .number (ofDecimal binary64 false step.durationMs 0)) ∧
      (∀ code ∈ step.code, P (lit "code", .string code)) ∧
      (∀ object ∈ step.request, P (lit "request", object.value)) ∧
      (∀ status ∈ step.status, P (lit "status", status.value)) ∧
      (∀ object ∈ step.response, P (lit "response", object.value)) ∧
      ∀ object ∈ step.error, P (lit "error", object.value) := by
  simp only [fields, List.forall_mem_append, List.forall_mem_cons, List.not_mem_nil,
    false_implies, implies_true, and_true, forall_optionalField, Option.forall_mem_map, and_assoc]

theorem isJson (step : AppAuditStep) : step.value.IsJson := by
  rw [value, Value.IsJson, Value.isJsonFields_iff]
  refine ⟨rfl, step.fields_ordered, forall_fields.mpr ?_⟩
  refine ⟨trivial, trivial, trivial, trivial, fun _ _ => trivial, fun object _ => object.json,
    fun status _ => ?_, fun object _ => object.json, fun object _ => object.json⟩
  cases status <;> trivial

theorem numbered_value (h : step.Valid index) (hindex : index < appAuditMaxSteps) :
    numbered step.value index = true := by
  have hsequence : step.sequence ≤ 2 ^ binary64.precision := by
    have hlarge : 128 ≤ 2 ^ binary64.precision := by decide
    rw [h.sequence]
    exact le_trans (show index + 1 ≤ 128 from hindex) hlarge
  refine numbered_iff.mpr ⟨_, rfl, ?_⟩
  rw [toInt_ofDecimal hsequence (by decide), h.sequence]
  rfl

theorem whole_nonnegative {n : Nat} (h : n < 2 ^ 54) :
    (ofDecimal binary64 false n 0).isFinite = true ∧
      nonnegative (ofDecimal binary64 false n 0) = true := by
  rcases ofDecimal_whole (F := binary64) h (by decide) (by decide) false with ⟨m, hm⟩
  rw [hm]
  exact ⟨rfl, rfl⟩

/-- The server looks at the timestamp only: the recorder has checked everything else. -/
theorem accepted_iff (h : step.Valid index) (hindex : index < appAuditMaxSteps) :
    (strictObject (stepShape datetime) step.value).isSome = true ↔
      datetime step.startedAt = true := by
  have hjson := step.isJson
  rw [value, Value.IsJson, Value.isJsonFields_iff] at hjson
  have hrequired : ((stepShape datetime).all fun property =>
      property.optional || (step.fields.map (·.1)).contains property.key) = true := rfl
  have hsequence : (checkOf (stepShape datetime) (lit "sequence")
      (.number (ofDecimal binary64 false step.sequence 0))).isSome = true := by
    have hcheck : checkOf (stepShape datetime) (lit "sequence") =
        integerBetween 1 appAuditMaxSteps := rfl
    rcases numbered_iff.mp (numbered_value h hindex) with ⟨n, hn, hnumber⟩
    obtain rfl : ofDecimal binary64 false step.sequence 0 = n :=
      (Value.number.inj (Option.some.inj hn.symm)).symm
    have hbounds : (1 : Int) ≤ index + 1 ∧ (index : Int) + 1 ≤ appAuditMaxSteps := by omega
    simp [hcheck, integerBetween, hnumber, Number.isFinite_of_toInt hnumber, hbounds]
  have hname : (checkOf (stepShape datetime) (lit "name") (.string step.name)).isSome = true := by
    have hcheck : checkOf (stepShape datetime) (lit "name") = stringBetween 1 200 := rfl
    simp [hcheck, stringBetween, h.name]
  have hdurationMs : (checkOf (stepShape datetime) (lit "durationMs")
      (.number (ofDecimal binary64 false step.durationMs 0))).isSome = true := by
    have hcheck : checkOf (stepShape datetime) (lit "durationMs") = nonnegativeNumber := rfl
    simp [hcheck, nonnegativeNumber, whole_nonnegative h.durationMs]
  have hcode : ∀ code ∈ step.code,
      (checkOf (stepShape datetime) (lit "code") (.string code)).isSome = true := by
    intro code hmem
    have hcheck : checkOf (stepShape datetime) (lit "code") = stringBetween 0 100 := rfl
    simp [hcheck, stringBetween, h.code code hmem]
  have hstatus : ∀ status ∈ step.status,
      (checkOf (stepShape datetime) (lit "status") status.value).isSome = true := by
    intro status hmem
    have hcheck : checkOf (stepShape datetime) (lit "status") =
        either finiteNumber (stringBetween 0 100) := rfl
    have hvalid := h.status status hmem
    cases status with
    | number n =>
        have hfinite : n.isFinite = true := hvalid
        simp [hcheck, either, Status.value, finiteNumber, hfinite]
    | text units =>
        have hlength : units.length ≤ 100 := hvalid
        simp [hcheck, either, Status.value, stringBetween, hlength]
  rw [value, strictObject_isSome stepShape_nodup (nodup_of_ordered step.fields_ordered)
    (fun field hfield => isUndefined_of_isJson (hjson.2.2 field hfield)) hrequired, forall_fields]
  constructor
  · intro hall
    have hcheck : checkOf (stepShape datetime) (lit "startedAt") = timestamp datetime := rfl
    simpa [hcheck, timestamp] using hall.2.2.1
  · intro hdatetime
    have hcheck : checkOf (stepShape datetime) (lit "startedAt") = timestamp datetime := rfl
    have hstartedAt : (checkOf (stepShape datetime) (lit "startedAt")
        (.string step.startedAt)).isSome = true := by
      simp [hcheck, timestamp, hdatetime]
    exact ⟨hsequence, hname, hstartedAt, hdurationMs, hcode, h.request, hstatus, h.response, h.error⟩

end AppAuditStep

/-! ## Calls -/

/-- What a call that returns does to a recorder. -/
inductive Effect (recorder : AppAuditRecorder) : Operation → AppAuditRecorder → Prop where
  | addMetadata (key : JsString) (value : JsonValue) (hkey : 1 ≤ key.length ∧ key.length ≤ 100)
      (hcount : recorder.metadata.length < maximumMetadataCount) :
      Effect recorder (.addMetadata key value)
        { recorder with metadata := recorder.metadata ++ [(key, value)] }
  | startStep (input : AppAuditStepInput) (now time : TimeValue)
      (htime : input.startedAt.getD (some now) = some time)
      (hname : 1 ≤ input.name.length ∧ input.name.length ≤ 200)
      (hcode : ∀ code ∈ input.code, code.length ≤ 100)
      (hrequest : ∀ object ∈ input.request,
        (strictObject requestShape object.value).isSome = true)
      (hcount : recorder.handles.length < maximumStepCount) :
      Effect recorder (.startStep input now)
        { recorder with
          handles := recorder.handles ++
            [⟨input.step (recorder.handles.length + 1) time, time, false⟩] }
  | complete (operation : Operation) (handle : Nat) (found : AppAuditStepHandle)
      (status : Option Status) (response : Option AppAuditResponse)
      (error : Option AppAuditError) (now : TimeValue)
      (hcompletes : ∀ other, operation.completes other = (handle == other))
      (hstarts : operation.startsAt = none)
      (hfound : recorder.handles[handle]? = some found) (hopen : found.completed = false)
      (hstatus : ∀ given ∈ status, given.Valid)
      (hresponse : ∀ object ∈ response, (strictObject responseShape object.value).isSome = true)
      (herror : ∀ object ∈ error, (strictObject errorShape object.value).isSome = true) :
      Effect recorder operation
        { recorder with
          handles := recorder.handles.set handle (found.finish status response error now) }

theorem effect_of_call {operation : Operation} {recorder after : AppAuditRecorder} {answer : Unit}
    (h : operation.call recorder = .ok answer after) : Effect recorder operation after := by
  cases operation with
  | addMetadata key value =>
      rcases addMetadata_ok h with ⟨hblank, hlong, hcount, rfl⟩
      exact .addMetadata key value ⟨length_pos_of_trim hblank, hlong⟩ hcount
  | startStep input now =>
      rcases bind_eq_ok.mp h with ⟨handle, middle, hstart, hrest⟩
      rcases pure_eq_ok.mp hrest with ⟨-, rfl⟩
      rcases startStep_ok hstart with ⟨time, htime, hblank, hlong, hcode, hrequest, hcount, rfl⟩
      exact .startStep input now time htime ⟨length_pos_of_trim hblank, hlong⟩ hcode hrequest hcount
  | succeed handle result now =>
      rcases complete_ok h with ⟨found, hfound, hopen, hstatus, hresponse, herror, rfl⟩
      exact .complete _ handle found _ _ _ now (fun _ => rfl) rfl hfound hopen hstatus hresponse herror
  | fail handle result now =>
      rcases complete_ok h with ⟨found, hfound, hopen, hstatus, hresponse, herror, rfl⟩
      exact .complete _ handle found _ _ _ now (fun _ => rfl) rfl hfound hopen hstatus hresponse herror

/-! ## The invariant -/

/-- A handle at its place, with the instant that its step shows. -/
structure AppAuditStepHandle.Valid (handle : AppAuditStepHandle) (index : Nat) : Prop where
  step : handle.step.Valid index
  startedAt : handle.step.startedAt = toISOString handle.startedAtMilliseconds.milliseconds

/-- The limits of the recorder. -/
structure AppAuditRecorder.Valid (recorder : AppAuditRecorder) : Prop where
  title : 1 ≤ recorder.title.length ∧ recorder.title.length ≤ 200
  metadata : recorder.metadata.length ≤ maximumMetadataCount
  keys : ∀ item ∈ recorder.metadata, 1 ≤ item.1.length ∧ item.1.length ≤ 100
  steps : recorder.handles.length ≤ maximumStepCount
  handles : ∀ (index : Nat) (handle : AppAuditStepHandle),
    recorder.handles[index]? = some handle → handle.Valid index

theorem valid_of_construct {title : JsString} {recorder : AppAuditRecorder}
    (h : construct title = .ok recorder) : recorder.Valid := by
  unfold construct at h
  split at h
  · contradiction
  · rename_i hblank
    split at h
    · contradiction
    · rename_i hlong
      obtain rfl := Except.ok.inj h
      exact {
        title := ⟨length_pos_of_trim (Bool.eq_false_iff.mpr hblank), not_lt.mp hlong⟩
        metadata := Nat.zero_le _
        keys := by simp
        steps := Nat.zero_le _
        handles := by simp }

theorem elapsed_lt (now startedAt : TimeValue) : elapsed now startedAt < 2 ^ 54 := by
  have hnow := now.bounded
  have hstarted := startedAt.bounded
  unfold elapsed
  omega

theorem AppAuditStepInput.step_valid {input : AppAuditStepInput} {index : Nat} {time : TimeValue}
    (hname : 1 ≤ input.name.length ∧ input.name.length ≤ 200)
    (hcode : ∀ code ∈ input.code, code.length ≤ 100)
    (hrequest : ∀ object ∈ input.request, (strictObject requestShape object.value).isSome = true) :
    (input.step (index + 1) time).Valid index where
  sequence := rfl
  name := hname
  code := hcode
  durationMs := Nat.two_pow_pos 54
  request := hrequest
  status := by simp [AppAuditStepInput.step]
  response := by simp [AppAuditStepInput.step]
  error := by simp [AppAuditStepInput.step]

theorem forall_or {α : Type} {given kept : Option α} {P : α → Prop}
    (hgiven : ∀ value ∈ given, P value) (hkept : ∀ value ∈ kept, P value) :
    ∀ value ∈ given.or kept, P value := by
  intro value hvalue
  rcases Option.or_eq_some_iff.mp hvalue with h | ⟨-, h⟩
  · exact hgiven value h
  · exact hkept value h

theorem AppAuditStepHandle.Valid.finish {handle : AppAuditStepHandle} {index : Nat}
    (h : handle.Valid index) {status : Option Status} {response : Option AppAuditResponse}
    {error : Option AppAuditError} (now : TimeValue) (hstatus : ∀ given ∈ status, given.Valid)
    (hresponse : ∀ object ∈ response, (strictObject responseShape object.value).isSome = true)
    (herror : ∀ object ∈ error, (strictObject errorShape object.value).isSome = true) :
    (handle.finish status response error now).Valid index where
  step := {
    sequence := h.step.sequence
    name := h.step.name
    code := h.step.code
    durationMs := elapsed_lt now handle.startedAtMilliseconds
    request := h.step.request
    status := forall_or hstatus h.step.status
    response := forall_or hresponse h.step.response
    error := forall_or herror h.step.error }
  startedAt := h.startedAt

/-- A call keeps the limits. -/
theorem AppAuditRecorder.Valid.call {recorder after : AppAuditRecorder} {operation : Operation}
    (h : recorder.Valid) (heffect : Effect recorder operation after) : after.Valid := by
  cases heffect with
  | addMetadata key value hkey hcount =>
      refine { h with metadata := ?_, keys := ?_ }
      · rw [List.length_append]
        exact hcount
      · rw [List.forall_mem_append, List.forall_mem_singleton]
        exact ⟨h.keys, hkey⟩
  | startStep input now time htime hname hcode hrequest hcount =>
      refine { h with steps := ?_, handles := ?_ }
      · rw [List.length_append]
        exact hcount
      · intro index handle hhandle
        rw [List.getElem?_append] at hhandle
        split at hhandle
        · exact h.handles index handle hhandle
        · rename_i hnew
          rw [List.getElem?_singleton] at hhandle
          split at hhandle
          · rename_i hlast
            obtain rfl : index = recorder.handles.length := by omega
            obtain rfl := Option.some.inj hhandle
            exact ⟨AppAuditStepInput.step_valid hname hcode hrequest, rfl⟩
          · contradiction
  | complete operation handle found status response error now hcompletes hstarts hfound hopen
      hstatus hresponse herror =>
      refine { h with steps := by simpa using h.steps, handles := ?_ }
      intro index other hother
      rw [List.getElem?_set] at hother
      split at hother
      · rename_i hindex
        split at hother
        · obtain rfl := Option.some.inj hother
          exact hindex ▸ (h.handles handle found hfound).finish now hstatus hresponse herror
        · contradiction
      · exact h.handles index other hother

/-- The audit of a valid recorder is JSON, within every limit but the size. -/
theorem AppAuditRecorder.Valid.audit_accepted {recorder : AppAuditRecorder}
    (datetime : JsString → Bool) (h : recorder.Valid) :
    ∃ encoded, recorder.audit.stringify = some encoded ∧
      (Accepted datetime encoded ↔ utf8Length 3 encoded ≤ appAuditMaxBytes ∧
        ∀ handle ∈ recorder.handles, datetime handle.step.startedAt = true) := by
  have hjson : recorder.audit.IsJson := by
    refine auditValue_isJson.mpr ⟨?_, ?_⟩
    · rw [List.forall_mem_map]
      intro item _
      have hordered : Ordered [(lit "key", .string item.1), (lit "value", item.2.value)] := by
        unfold Ordered
        simp only [List.pairwise_cons, List.mem_singleton, forall_eq, List.not_mem_nil,
          false_implies, implies_true, and_true, List.Pairwise.nil]
        decide
      simp [Value.IsJson, Value.isJsonFields_iff, hordered, item.2.json]
    · rw [List.forall_mem_map]
      exact fun handle _ => handle.step.isJson
  have hmetadata : ∀ item ∈ recorder.metadata, (strictObject metadataShape
      (.object true [(lit "key", .string item.1), (lit "value", item.2.value)])).isSome = true := by
    intro item hitem
    have hkey : checkOf metadataShape (lit "key") = stringBetween 1 100 := rfl
    have hvalue : checkOf metadataShape (lit "value") = unknown := rfl
    rw [strictObject_isSome (by decide) (by simp only [List.map_cons, List.map_nil]; decide)
      (by rw [List.forall_mem_cons, List.forall_mem_singleton]
          exact ⟨rfl, isUndefined_of_isJson item.2.json⟩) rfl]
    simp [hkey, hvalue, stringBetween, unknown, h.keys item hitem]
  have hhandle : ∀ handle ∈ recorder.handles, ∃ index, index < appAuditMaxSteps ∧
      handle.Valid index := by
    intro handle hmem
    rcases List.getElem?_of_mem hmem with ⟨index, hindex⟩
    have hlength := (List.getElem?_eq_some_iff.mp hindex).1
    exact ⟨index, lt_of_lt_of_le hlength h.steps, h.handles index handle hindex⟩
  have hnumbered : ∀ index step, (recorder.handles.map fun handle => handle.step.value)[index]? =
      some step → numbered step index = true := by
    intro index step hstep
    rw [List.getElem?_map] at hstep
    rcases Option.map_eq_some_iff.mp hstep with ⟨handle, hindex, rfl⟩
    have hlength := (List.getElem?_eq_some_iff.mp hindex).1
    exact AppAuditStep.numbered_value (h.handles index handle hindex).step
      (lt_of_lt_of_le hlength h.steps)
  rcases Value.parse_stringify hjson with ⟨encoded, hencoded, -⟩
  refine ⟨encoded, hencoded, ?_⟩
  rw [accepted_stringify_iff hjson h.title
    ⟨by rw [List.length_map]; exact h.metadata, by rwa [List.forall_mem_map]⟩
    (by rw [List.length_map]; exact h.steps) hnumbered hencoded, List.forall_mem_map]
  refine and_congr_right fun _ => forall₂_congr fun handle hmem => ?_
  rcases hhandle handle hmem with ⟨index, hindex, hvalid⟩
  exact AppAuditStep.accepted_iff hvalid.step hindex

/-! ## Runs -/

/-- How often a handle has been completed. -/
def AppAuditRecorder.completions (recorder : AppAuditRecorder) (handle : Nat) : Nat :=
  if recorder.handles[handle]?.any (·.completed) then 1 else 0

theorem Effect.startsAt {recorder after : AppAuditRecorder} {operation : Operation}
    (h : Effect recorder operation after) :
    after.handles.map (·.startedAtMilliseconds) =
      recorder.handles.map (·.startedAtMilliseconds) ++ operation.startsAt.toList := by
  cases h with
  | addMetadata key value hkey hcount => simp [Operation.startsAt]
  | startStep input now time htime hname hcode hrequest hcount =>
      simp [Operation.startsAt, htime]
  | complete operation handle found status response error now hcompletes hstarts hfound hopen
      hstatus hresponse herror =>
      have hlength := (List.getElem?_eq_some_iff.mp hfound).1
      rw [hstarts, Option.toList_none, List.append_nil, List.map_set]
      refine List.ext_getElem? fun index => ?_
      rw [List.getElem?_set, List.length_map, List.getElem?_map]
      split
      · rename_i hindex
        rw [← hindex, hfound]
        rfl
      · rfl

theorem Effect.completions {recorder after : AppAuditRecorder} {operation : Operation}
    (h : Effect recorder operation after) (handle : Nat) :
    after.completions handle =
      recorder.completions handle + if operation.completes handle then 1 else 0 := by
  cases h with
  | addMetadata key value hkey hcount => rfl
  | startStep input now time htime hname hcode hrequest hcount =>
      simp only [AppAuditRecorder.completions, Operation.completes, List.getElem?_append]
      split
      · rfl
      · rename_i hnew
        have hmissing : recorder.handles[handle]? = none :=
          List.getElem?_eq_none (not_lt.mp hnew)
        rw [hmissing, List.getElem?_singleton]
        split <;> rfl
  | complete operation other found status response error now hcompletes hstarts hfound hopen
      hstatus hresponse herror =>
      rcases List.getElem?_eq_some_iff.mp hfound with ⟨hlength, hget⟩
      simp only [AppAuditRecorder.completions, hcompletes, List.getElem?_set, beq_iff_eq]
      by_cases hsame : other = handle
      · subst hsame
        simp [hlength, hget, hopen, AppAuditStepHandle.finish]
      · simp [hsame]

/-- What a run of calls does: it keeps the limits, its steps start when its calls say, and
each handle is completed as often as calls on it return. -/
theorem run_kept (operations : List Operation) {recorder : AppAuditRecorder}
    (h : recorder.Valid) :
    (run operations recorder).2.Valid ∧
      (run operations recorder).2.handles.map (·.startedAtMilliseconds) =
        recorder.handles.map (·.startedAtMilliseconds) ++
          (run operations recorder).1.filterMap Operation.startsAt ∧
      ∀ handle, (run operations recorder).2.completions handle =
        recorder.completions handle + (run operations recorder).1.countP (·.completes handle) := by
  induction operations generalizing recorder with
  | nil => exact ⟨h, by simp [run], by simp [run]⟩
  | cons operation operations ih =>
      cases hcall : operation.call recorder with
      | ok answer after =>
          have heffect := effect_of_call hcall
          rcases ih (h.call heffect) with ⟨hvalid, hstarts, hcompletions⟩
          simp only [run, hcall]
          refine ⟨hvalid, ?_, fun handle => ?_⟩
          · rw [hstarts, heffect.startsAt, List.filterMap_cons]
            cases operation.startsAt <;> simp
          · rw [hcompletions, heffect.completions, List.countP_cons]
            omega
      | error thrown after =>
          obtain rfl := operation.atomic recorder thrown after hcall
          simpa only [run, hcall] using ih h

/-- The calls that return, on their own, do what the whole run does. -/
theorem run_returned (operations : List Operation) (recorder : AppAuditRecorder) :
    run (run operations recorder).1 recorder = run operations recorder := by
  induction operations generalizing recorder with
  | nil => rfl
  | cons operation operations ih =>
      cases hcall : operation.call recorder with
      | ok answer after => simp only [run, hcall, ih]
      | error thrown after =>
          obtain rfl := operation.atomic recorder thrown after hcall
          simpa only [run, hcall] using ih after

/-- A snapshot passes the server exactly when the steps of the run start in years of four
digits. -/
theorem accepted_snapshot_iff {datetime : JsString → Bool} (hdatetime : ChecksTimestamps datetime)
    {title : JsString} {operations : List Operation} {recorder : AppAuditRecorder} {audit : Value}
    (htitle : construct title = .ok recorder)
    (hsnapshot : (run operations recorder).2.snapshot = .ok audit) :
    (∃ encoded, audit.stringify = some encoded ∧ Accepted datetime encoded) ↔
      ∀ operation ∈ (run operations recorder).1, ∀ time ∈ operation.startsAt,
        time.InFourDigitYear := by
  rcases run_kept operations (valid_of_construct htitle) with ⟨hvalid, hstarts, -⟩
  rcases hvalid.audit_accepted datetime with ⟨encoded, hencoded, haccepted⟩
  unfold AppAuditRecorder.snapshot at hsnapshot
  split at hsnapshot
  · cases hsnapshot
  · rename_i hsize
    rw [Except.ok.injEq] at hsnapshot
    subst hsnapshot
    rw [hencoded, Option.getD_some, not_lt] at hsize
    have hinstants : (∀ handle ∈ (run operations recorder).2.handles,
        datetime handle.step.startedAt = true) ↔
        ∀ time ∈ (run operations recorder).2.handles.map (·.startedAtMilliseconds),
          time.InFourDigitYear := by
      rw [List.forall_mem_map]
      refine forall₂_congr fun handle hmem => ?_
      rcases List.getElem?_of_mem hmem with ⟨index, hindex⟩
      rw [(hvalid.handles index handle hindex).startedAt, hdatetime.toISOString_iff,
        TimeValue.InFourDigitYear]
    have hempty : recorder.handles = [] := by
      unfold construct at htitle
      split at htitle
      · contradiction
      · split at htitle
        · contradiction
        · obtain rfl := Except.ok.inj htitle
          rfl
    rw [hempty, List.map_nil, List.nil_append] at hstarts
    rw [hinstants, hstarts] at haccepted
    have hfits : utf8Length 3 encoded ≤ appAuditMaxBytes := hsize
    constructor
    · rintro ⟨other, hother, hpasses⟩ operation hoperation time htime
      obtain rfl : encoded = other := Option.some.inj (hencoded.symm.trans hother)
      exact (haccepted.mp hpasses).2 time (List.mem_filterMap.mpr ⟨operation, hoperation, htime⟩)
    · intro hyears
      refine ⟨encoded, hencoded, haccepted.mpr ⟨hfits, fun time htime => ?_⟩⟩
      rcases List.mem_filterMap.mp htime with ⟨operation, hoperation, htime⟩
      exact hyears operation hoperation time htime

/-- A snapshot passes the server whole, the calls that threw have left nothing behind and no
handle was completed twice, exactly when the steps of the run start in years of four digits. -/
theorem snapshots_accepted_iff {datetime : JsString → Bool}
    (hdatetime : ChecksTimestamps datetime) {title : JsString} {operations : List Operation}
    {recorder : AppAuditRecorder} {audit : Value} (htitle : construct title = .ok recorder)
    (hsnapshot : (run operations recorder).2.snapshot = .ok audit) :
    ((∃ encoded, audit.stringify = some encoded ∧ Accepted datetime encoded) ∧
      run (run operations recorder).1 recorder = run operations recorder ∧
      ∀ handle, (run operations recorder).1.countP (·.completes handle) ≤ 1) ↔
    ∀ operation ∈ (run operations recorder).1, ∀ time ∈ operation.startsAt,
      time.InFourDigitYear := by
  rw [accepted_snapshot_iff hdatetime htitle hsnapshot]
  refine and_iff_left ⟨run_returned operations recorder, fun handle => ?_⟩
  rcases run_kept operations (valid_of_construct htitle) with ⟨-, -, hcompletions⟩
  have hcount := hcompletions handle
  have hone : (run operations recorder).2.completions handle ≤ 1 := by
    unfold AppAuditRecorder.completions
    split <;> omega
  omega

/-! ### Runs of one step -/

def sampleRecorder : AppAuditRecorder := ⟨lit "同步订单", [], []⟩

/-- A step that is completed twice: the second time throws. -/
def sampleOperations (startedAt : TimeValue) : List Operation :=
  [.addMetadata (lit "region") ⟨.string (lit "cn"), trivial⟩,
    .startStep ⟨none, lit "登录", none, some (some startedAt)⟩ startedAt,
    .succeed 0 ⟨some (.text (lit "ok")), none⟩ startedAt,
    .succeed 0 ⟨none, none⟩ startedAt]

/-- 2026-07-24. -/
def sampleTime : TimeValue := ⟨1784851200000, by decide⟩

/-- The first instant of the year 10000. -/
def farFuture : TimeValue := ⟨253402300800000, by decide⟩

theorem sample_fits (startedAt : TimeValue)
    (h : utf8Length 3 ((run (sampleOperations startedAt) sampleRecorder).2.audit.stringify.getD [])
      ≤ maximumAuditBytes) :
    (run (sampleOperations startedAt) sampleRecorder).2.snapshot =
      .ok (run (sampleOperations startedAt) sampleRecorder).2.audit :=
  if_neg (not_lt.mpr h)

theorem sample_returned (startedAt : TimeValue) :
    (run (sampleOperations startedAt) sampleRecorder).1 = (sampleOperations startedAt).take 3 :=
  rfl

theorem snapshots_accepted_iff_sample :
    (∃ encoded, (run (sampleOperations sampleTime) sampleRecorder).2.audit.stringify = some encoded ∧
      Accepted isoDatetime encoded) ∧
    run (run (sampleOperations sampleTime) sampleRecorder).1 sampleRecorder =
      run (sampleOperations sampleTime) sampleRecorder ∧
    ∀ handle,
      (run (sampleOperations sampleTime) sampleRecorder).1.countP (·.completes handle) ≤ 1 := by
  have htitle : construct (lit "同步订单") = .ok sampleRecorder := rfl
  refine (snapshots_accepted_iff checksTimestamps_isoDatetime htitle
    (sample_fits sampleTime (by decide +kernel))).mpr ?_
  have hyear : sampleTime.InFourDigitYear := by decide
  rw [sample_returned]
  simpa [sampleOperations, Operation.startsAt] using hyear

/-- The recorder takes a date of the year 10000, which its snapshot writes with a sign and six
digits; the server drops the audit. -/
theorem farFuture_refused :
    (run (sampleOperations farFuture) sampleRecorder).2.snapshot =
        .ok (run (sampleOperations farFuture) sampleRecorder).2.audit ∧
      ¬∃ encoded, (run (sampleOperations farFuture) sampleRecorder).2.audit.stringify =
        some encoded ∧ Accepted isoDatetime encoded := by
  have htitle : construct (lit "同步订单") = .ok sampleRecorder := rfl
  have hsnapshot := sample_fits farFuture (by decide +kernel)
  refine ⟨hsnapshot, fun haccepted => ?_⟩
  have hyears := (accepted_snapshot_iff checksTimestamps_isoDatetime htitle hsnapshot).mp haccepted
  rw [sample_returned] at hyears
  have hyear : farFuture.InFourDigitYear :=
    hyears (.startStep ⟨none, lit "登录", none, some (some farFuture)⟩ farFuture)
      (by simp [sampleOperations]) farFuture rfl
  exact absurd hyear.2 (by decide)

end JavaScriptRecorder
end AppAudit
end R2RPC
