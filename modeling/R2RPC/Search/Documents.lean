import R2RPC.Basic
import R2RPC.Library.JsonHops
import R2RPC.Library.NumberArithmetic
import R2RPC.Rpc.CallLog
import Mathlib.Data.Nat.Digits.Defs

/-!
# The payload of a request in the monitor

A worker writes the payloads of a request into a document whose id is made of the start of the
request's UUID, and the monitor finds the document by the request again.

Main results:

- Definitions {lit}`docId`, {lit}`indexPayload`, {lit}`getByRequestId`: the store of documents, whose
  requests can be rejected or lose their answers.
- Theorem {lit}`docId_eq_iff`: two requests share an id when their first twelve digits agree.
- Theorem {lit}`detail_exact`: what the monitor shows of a request after any history.

Current gaps:

- What the index makes of the columns that are not read; a row that cannot be read.
-/

namespace R2RPC
namespace Search

open Utf16 Binary JavaScript Rpc

/-! ## Documents -/

/-- `RequestLogJob`, with what has no column in the row. -/
structure QueuedLog extends Rpc.RequestLogJob where
  appAudit : Option Value
  createdAt : JsString
  finishedAt : JsString

/-- `JSON.stringify(value ?? null)`. -/
def jsonText (value : Value) : Value :=
  (((nullish value .null).stringify).map .string).getD .undefined

/-- `buildManticoreDoc`. -/
def buildManticoreDoc (requestLog : QueuedLog) : Fields :=
  [(lit "request_id", .string requestLog.requestId),
    (lit "project_name", .string requestLog.project),
    (lit "action_name", .string requestLog.action),
    (lit "client_id", .string (requestLog.clientId.getD [])),
    (lit "status", requestLog.status),
    (lit "http_code", nullish requestLog.httpCode (whole 0)),
    (lit "latency_ms", .number (ofInteger binary64 requestLog.latencyMs)),
    (lit "created_at", .string requestLog.createdAt),
    (lit "finished_at", .string requestLog.finishedAt),
    (lit "request_payload_json", jsonText requestLog.requestPayload),
    (lit "response_payload_json", jsonText requestLog.responsePayload),
    (lit "app_audit_json", jsonText (requestLog.appAudit.getD .null)),
    (lit "error_message", nullish requestLog.error (.string []))]

/-- The digits of a hexadecimal text. -/
def hexDigits : JsString → List Nat
  | [] => []
  | unit :: rest =>
      match hexValue unit with
      | none => []
      | some digit => digit :: hexDigits rest

/-- `Number.parseInt(text, 16)`, of a text without a minus sign; nothing where it is not a
number. -/
def parseHex (text : JsString) : Option Nat :=
  let text := text.dropWhile isSpace
  let text := if text.head? = some 43 then text.tail else text
  let text := if text.take 2 = lit "0x" ∨ text.take 2 = lit "0X" then text.drop 2 else text
  let digits := hexDigits text
  if digits = [] then none else some (Nat.ofDigits 16 digits.reverse)

/-- `docId`; zero is no id. -/
def docId (requestId : JsString) : Nat :=
  let hex := (requestId.filter (· != 45)).take 13
  match parseHex hex with
  | none => 1
  | some n => if n = 0 then 1 else n

/-- The documents of the index, with their ids. -/
abbrev Documents := List (Nat × Fields)

/-- `POST /replace`. -/
def replace (documents : Documents) (id : Nat) (document : Fields) : Documents :=
  (id, document) :: documents.filter (·.1 != id)

/-- The request of `indexPayload`. -/
def indexPayload (documents : Documents) (requestLog : QueuedLog) (fault : Fault) : Documents :=
  fault.apply
    (replace · (docId requestLog.requestId) (buildManticoreDoc requestLog)) documents

/-- `getByRequestId`: some document with the request; nothing where the index does not answer, or
answers with an error. -/
def getByRequestId (documents : Documents) (requestId : JsString) (fault : Fault) :
    Option Fields :=
  if fault.throws then none
  else
    (documents.find? fun document =>
      (lookup document.2 (lit "request_id")).any (isText · requestId)).map (·.2)

/-! ## The monitor -/

/-- `safeParse`. -/
def safeParse (value : Value) : Value :=
  match value with
  | .string text => (parse text).getD value
  | value => nullish value .null

/-- `safeParseNullable`. -/
def safeParseNullable (value : Value) : Value :=
  match value with
  | .undefined | .null | .string [] => .null
  | value => safeParse value

/-- The answer of `detail`, behind the row. -/
structure Detail (Spine : Type) where
  spine : Spine
  payloadUnavailable : Bool
  requestPayload : Value
  responsePayload : Value
  appAudit : Value

/-- The row of a request without its document. -/
def Detail.unavailable {Spine : Type} (spine : Spine) : Detail Spine where
  spine
  payloadUnavailable := true
  requestPayload := .null
  responsePayload := .null
  appAudit := .null

/-- `MonitorService.detail`. -/
def detail {Spine : Type} (rows : JsString → Option Spine) (documents : Documents)
    (requestId : JsString) (fault : Fault) : Option (Detail Spine) :=
  (rows requestId).map fun spine =>
    match getByRequestId documents requestId fault with
    | none => .unavailable spine
    | some document =>
        { spine
          payloadUnavailable := false
          requestPayload := safeParse ((lookup document (lit "request_payload_json")).getD .undefined)
          responsePayload :=
            safeParse ((lookup document (lit "response_payload_json")).getD .undefined)
          appAudit :=
            safeParseNullable ((lookup document (lit "app_audit_json")).getD .undefined) }

/-! ## Ids of UUIDs -/

/-- What `randomUUID` draws: 32 digits, with a version and a variant. -/
structure Uuid where
  digits : List Nat
  length : digits.length = 32
  hex : ∀ digit ∈ digits, digit < 16
  version : digits[12]? = some 4
  variant : ∃ digit, digits[16]? = some digit ∧ 8 ≤ digit ∧ digit < 12
deriving DecidableEq

/-- Its text, in groups of eight, four, four, four and twelve. -/
def Uuid.text (uuid : Uuid) : JsString :=
  let group start length := ((uuid.digits.drop start).take length).map hexDigit
  group 0 8 ++ 45 :: group 8 4 ++ 45 :: group 12 4 ++ 45 :: group 16 4 ++ 45 :: group 20 12

/-- The first twelve digits. -/
def Uuid.start (uuid : Uuid) : List Nat := uuid.digits.take 12

theorem hexValue_hexDigit {n : Nat} (h : n < 16) : hexValue (hexDigit n) = some n := by
  have hall : ∀ n : Fin 16, hexValue (hexDigit n.val) = some n.val := by decide
  exact hall ⟨n, h⟩

theorem hexDigit_plain {n : Nat} (h : n < 16) :
    (hexDigit n != 45) = true ∧ isSpace (hexDigit n) = false ∧ hexDigit n ≠ 43 ∧
      hexDigit n ≠ 120 ∧ hexDigit n ≠ 88 := by
  have hall : ∀ n : Fin 16, (hexDigit n.val != 45) = true ∧ isSpace (hexDigit n.val) = false ∧
      hexDigit n.val ≠ 43 ∧ hexDigit n.val ≠ 120 ∧ hexDigit n.val ≠ 88 := by decide
  exact hall ⟨n, h⟩

theorem hexDigits_map {digits : List Nat} (h : ∀ digit ∈ digits, digit < 16) :
    hexDigits (digits.map hexDigit) = digits := by
  induction digits with
  | nil => rfl
  | cons digit digits ih =>
      rw [List.forall_mem_cons] at h
      rw [List.map_cons, hexDigits, hexValue_hexDigit h.1]
      exact congrArg _ (ih h.2)

/-- The digits of a UUID without its dashes. -/
theorem Uuid.text_filter (uuid : Uuid) :
    uuid.text.filter (· != 45) = uuid.digits.map hexDigit := by
  have hgroup : ∀ start length, (((uuid.digits.drop start).take length).map hexDigit).filter
      (· != 45) = ((uuid.digits.drop start).take length).map hexDigit := by
    intro start length
    refine List.filter_eq_self.mpr fun unit hunit => ?_
    rcases List.mem_map.mp hunit with ⟨digit, hdigit, rfl⟩
    exact (hexDigit_plain (uuid.hex digit
      (List.mem_of_mem_drop (List.mem_of_mem_take hdigit)))).1
  have hdash : ∀ rest : JsString, (45 :: rest).filter (· != 45) = rest.filter (· != 45) :=
    fun rest => rfl
  have hparts : uuid.digits = uuid.digits.take 8 ++ ((uuid.digits.drop 8).take 4 ++
      ((uuid.digits.drop 12).take 4 ++ ((uuid.digits.drop 16).take 4 ++
        (uuid.digits.drop 20).take 12))) := by
    have hlast : (uuid.digits.drop 20).take 12 = uuid.digits.drop 20 :=
      List.take_of_length_le (by rw [List.length_drop, uuid.length])
    have hjoin : ∀ start length, (uuid.digits.drop start).take length ++
        uuid.digits.drop (start + length) = uuid.digits.drop start := by
      intro start length
      rw [← List.drop_drop]
      exact List.take_append_drop length _
    rw [hlast, hjoin 16 4, hjoin 12 4, hjoin 8 4, List.take_append_drop]
  have hfirst := hgroup 0 8
  rw [List.drop_zero] at hfirst
  conv_rhs => rw [hparts]
  rw [text]
  simp only [List.filter_append, hdash, hgroup, hfirst, List.map_append, List.drop_zero,
    List.append_assoc, List.cons_append]

/-- The id of a UUID is the number of its first thirteen digits. -/
theorem Uuid.docId_text (uuid : Uuid) :
    docId uuid.text = 4 + 16 * Nat.ofDigits 16 uuid.start.reverse := by
  have hthirteen : uuid.digits.take 13 = uuid.start ++ [4] := by
    rw [start, List.take_add_one, uuid.version]
    rfl
  have hlength : uuid.start.length = 12 := by rw [start, List.length_take, uuid.length]; rfl
  have hstart : ∀ digit ∈ uuid.start, digit < 16 := fun digit hdigit =>
    uuid.hex digit (List.mem_of_mem_take hdigit)
  obtain ⟨first, rest, hfirst⟩ := List.exists_cons_of_length_pos (l := uuid.start) (by omega)
  obtain ⟨second, rest, rfl⟩ := List.exists_cons_of_length_pos (l := rest) (by
    have h := congrArg List.length hfirst
    rw [hlength, List.length_cons] at h
    omega)
  rw [hfirst, List.forall_mem_cons, List.forall_mem_cons] at hstart
  have hparse : parseHex ((uuid.start ++ [4]).map hexDigit) =
      some (Nat.ofDigits 16 (uuid.start ++ [4]).reverse) := by
    have hplain := hexDigit_plain hstart.1
    have hnext := hexDigit_plain hstart.2.1
    have hdigits : hexDigits ((uuid.start ++ [4]).map hexDigit) = uuid.start ++ [4] := by
      refine hexDigits_map fun digit hdigit => ?_
      rcases List.mem_append.mp hdigit with hdigit | hdigit
      · exact uuid.hex digit (List.mem_of_mem_take hdigit)
      · rw [List.mem_singleton.mp hdigit]
        decide
    rw [hfirst] at hdigits ⊢
    simp only [List.cons_append, List.map_cons] at hdigits ⊢
    rw [parseHex, List.dropWhile_cons_of_neg (by simp [hplain.2.1])]
    have hsign : ¬ (hexDigit first :: hexDigit second ::
        List.map hexDigit (rest ++ [4])).head? = some 43 := by simpa using hplain.2.2.1
    have hprefix : ¬ ((hexDigit first :: hexDigit second ::
        List.map hexDigit (rest ++ [4])).take 2 = lit "0x" ∨ (hexDigit first :: hexDigit second ::
        List.map hexDigit (rest ++ [4])).take 2 = lit "0X") := by
      have hlower : lit "0x" = [48, 120] := by decide
      have hupper : lit "0X" = [48, 88] := by decide
      rw [hlower, hupper]
      simp [hnext.2.2.2.1, hnext.2.2.2.2]
    simp only [hsign, hprefix, if_false, hdigits]
    rfl
  have hnumber : Nat.ofDigits 16 (uuid.start ++ [4]).reverse =
      4 + 16 * Nat.ofDigits 16 uuid.start.reverse := by
    rw [List.reverse_append, List.reverse_singleton, List.singleton_append, Nat.ofDigits_cons]
  rw [docId, uuid.text_filter, ← List.map_take, hthirteen]
  simp only [hparse, hnumber]
  rw [if_neg (by omega)]

/-- Two requests share an id when their first twelve digits agree: the thirteenth is the
version. -/
theorem docId_eq_iff (first second : Uuid) :
    docId first.text = docId second.text ↔ first.start = second.start := by
  rw [first.docId_text, second.docId_text]
  constructor
  · intro h
    have hvalue : Nat.ofDigits 16 first.start.reverse = Nat.ofDigits 16 second.start.reverse := by
      omega
    have hlt : ∀ uuid : Uuid, ∀ digit ∈ uuid.start.reverse, digit < 16 :=
      fun uuid digit hdigit => uuid.hex digit (List.mem_of_mem_take (List.mem_reverse.mp hdigit))
    have hlength : first.start.reverse.length = second.start.reverse.length := by
      simp [Uuid.start, first.length, second.length]
    exact List.reverse_injective
      (Nat.ofDigits_inj_of_len_eq (by decide) hlength (hlt first) (hlt second) hvalue)
  · intro h
    rw [h]

theorem Uuid.text_injective {first second : Uuid} (h : first.text = second.text) :
    first = second := by
  have hdigits : first.digits.map hexDigit = second.digits.map hexDigit := by
    rw [← first.text_filter, ← second.text_filter, h]
  have hsame : first.digits = second.digits := by
    rw [← hexDigits_map first.hex, hdigits, hexDigits_map second.hex]
  cases first
  cases second
  cases hsame
  rfl

/-! ## Histories -/

/-- What is logged of a request. -/
structure Logged (requestLog : QueuedLog) (uuid : Uuid) : Prop where
  requestId : requestLog.requestId = uuid.text
  requestPayload : (nullish requestLog.requestPayload .null).IsJson
  responsePayload : (nullish requestLog.responsePayload .null).IsJson
  appAudit : (nullish (requestLog.appAudit.getD .null) .null).IsJson

/-- The requests to write that the index got, each with its fate. -/
abbrev Writes := List (Uuid × Fault)

/-- The documents after some writes. -/
def documentsOf (jobs : Uuid → QueuedLog) (history : Writes) : Documents :=
  history.foldl (fun documents write => indexPayload documents (jobs write.1) write.2) []

/-- The last request that was written under the id of a start. -/
def writer (start : List Nat) : Writes → Option Uuid
  | [] => none
  | write :: later =>
      (writer start later).or
        (if write.2.executes = true ∧ write.1.start = start then some write.1 else none)

theorem writer_concat (start : List Nat) (history : Writes) (write : Uuid × Fault) :
    writer start (history ++ [write]) =
      if write.2.executes = true ∧ write.1.start = start then some write.1
      else writer start history := by
  induction history with
  | nil => simp [writer]
  | cons first history ih =>
      rw [List.cons_append, writer, ih, writer]
      split
      · rfl
      · rfl

/-- The documents are those of the last writers. -/
theorem mem_documentsOf {jobs : Uuid → QueuedLog} (hjobs : ∀ uuid, Logged (jobs uuid) uuid)
    (history : Writes) (document : Nat × Fields) :
    document ∈ documentsOf jobs history ↔
      ∃ uuid, writer uuid.start history = some uuid ∧
        document = (docId uuid.text, buildManticoreDoc (jobs uuid)) := by
  induction history using List.reverseRecOn with
  | nil => simp [documentsOf, writer]
  | append_singleton history write ih =>
      have hstep : documentsOf jobs (history ++ [write]) =
          write.2.apply (replace · (docId write.1.text) (buildManticoreDoc (jobs write.1)))
            (documentsOf jobs history) := by
        rw [documentsOf, List.foldl_concat, ← documentsOf, indexPayload, (hjobs write.1).requestId]
      rw [hstep, Fault.apply]
      by_cases hexecutes : write.2.executes = true
      · rw [if_pos hexecutes, replace, List.mem_cons, List.mem_filter, ih, bne_iff_ne]
        constructor
        · rintro (rfl | ⟨⟨uuid, hwriter, rfl⟩, hother⟩)
          · exact ⟨write.1, by rw [writer_concat, if_pos ⟨hexecutes, rfl⟩], rfl⟩
          · dsimp only at hother
            have hstart : ¬ write.1.start = uuid.start := fun h =>
              hother ((docId_eq_iff uuid write.1).mpr h.symm)
            exact ⟨uuid, by rw [writer_concat, if_neg (fun h => hstart h.2), hwriter], rfl⟩
        · rintro ⟨uuid, hwriter, rfl⟩
          rw [writer_concat] at hwriter
          split at hwriter
          next => exact .inl (by rw [Option.some.inj hwriter])
          next hstart =>
            refine .inr ⟨⟨uuid, hwriter, rfl⟩, ?_⟩
            dsimp only
            exact fun hid => hstart ⟨hexecutes, ((docId_eq_iff uuid write.1).mp hid).symm⟩
      · have hsame : ∀ start, writer start (history ++ [write]) = writer start history := by
          intro start
          rw [writer_concat, if_neg (fun h => hexecutes h.1)]
        rw [if_neg hexecutes, ih]
        simp only [hsame]

/-- The document of a request is found as long as no other request has taken its id and the index
answers. -/
theorem getByRequestId_documentsOf {jobs : Uuid → QueuedLog}
    (hjobs : ∀ uuid, Logged (jobs uuid) uuid) (history : Writes) (uuid : Uuid) (fault : Fault) :
    getByRequestId (documentsOf jobs history) uuid.text fault =
      if fault.throws = false ∧ writer uuid.start history = some uuid then
        some (buildManticoreDoc (jobs uuid))
      else none := by
  have hnamed : ∀ other : Uuid, ((lookup (buildManticoreDoc (jobs other)) (lit "request_id")).any
      (isText · uuid.text)) = true ↔ other = uuid := by
    intro other
    have hlookup : lookup (buildManticoreDoc (jobs other)) (lit "request_id") =
        some (.string (jobs other).requestId) := rfl
    rw [hlookup, Option.any_some, isText, beq_iff_eq, (hjobs other).requestId]
    exact ⟨Uuid.text_injective, fun h => by rw [h]⟩
  rw [getByRequestId]
  by_cases hfault : fault.throws = true
  · rw [if_pos hfault, if_neg (by simp [hfault])]
  rw [if_neg hfault]
  have hanswers : fault.throws = false := by simpa using hfault
  cases hfound : (documentsOf jobs history).find? fun document =>
      (lookup document.2 (lit "request_id")).any (isText · uuid.text) with
  | none =>
      rw [if_neg]
      · rfl
      · rintro ⟨-, hwriter⟩
        have hmem := (mem_documentsOf hjobs history _).mpr ⟨uuid, hwriter, rfl⟩
        exact List.find?_eq_none.mp hfound _ hmem ((hnamed uuid).mpr rfl)
  | some document =>
      obtain ⟨other, hwriter, rfl⟩ :=
        (mem_documentsOf hjobs history document).mp (List.mem_of_find?_eq_some hfound)
      obtain rfl := (hnamed other).mp (by simpa using List.find?_some hfound)
      rw [if_pos ⟨hanswers, hwriter⟩]
      rfl

/-! ## What the monitor shows -/

/-- A value that was written comes back settled. -/
theorem safeParse_jsonText {value : Value} (h : (nullish value .null).IsJson) :
    safeParse (jsonText value) = (nullish value .null).settled ∧
      safeParseNullable (jsonText value) = (nullish value .null).settled := by
  rcases Value.parse_stringify h with ⟨text, htext, hparse⟩
  have hjson : jsonText value = .string text := by rw [jsonText, htext]; rfl
  have hparsed : safeParse (.string text) = (nullish value .null).settled := by
    rw [safeParse, hparse]
    rfl
  rw [hjson]
  refine ⟨hparsed, ?_⟩
  cases text with
  | nil =>
      have hnone : parse [] = none := by decide
      rw [hnone] at hparse
      cases hparse
  | cons unit text => exact hparsed

/-- After any history of writes the monitor shows the settled payloads of a request, unless it was
not written, another request with the same first twelve digits was written after it, or the index
does not answer: then it says that they are not available. -/
theorem detail_exact {Spine : Type} {jobs : Uuid → QueuedLog}
    (hjobs : ∀ uuid, Logged (jobs uuid) uuid) (rows : JsString → Option Spine)
    (history : Writes) (uuid : Uuid) (fault : Fault) :
    detail rows (documentsOf jobs history) uuid.text fault =
      (rows uuid.text).map fun spine =>
        if fault.throws = false ∧ writer uuid.start history = some uuid then
          { spine
            payloadUnavailable := false
            requestPayload := (nullish (jobs uuid).requestPayload .null).settled
            responsePayload := (nullish (jobs uuid).responsePayload .null).settled
            appAudit := (nullish ((jobs uuid).appAudit.getD .null) .null).settled }
        else .unavailable spine := by
  rw [detail, getByRequestId_documentsOf hjobs]
  refine congrArg (fun answer => (rows uuid.text).map answer) (funext fun spine => ?_)
  by_cases hshown : fault.throws = false ∧ writer uuid.start history = some uuid
  · rw [if_pos hshown, if_pos hshown]
    have hrequest := (safeParse_jsonText (hjobs uuid).requestPayload).1
    have hresponse := (safeParse_jsonText (hjobs uuid).responsePayload).1
    have haudit := (safeParse_jsonText (hjobs uuid).appAudit).2
    rw [← hrequest, ← hresponse, ← haudit]
    rfl
  · rw [if_neg hshown, if_neg hshown]

/-- A UUID that ends in a digit. -/
def sampleUuid (last : Fin 16) : Uuid where
  digits := [1, 9, 0, 10, 2, 3, 4, 5, 6, 7, 8, 9, 4, 0, 0, 0, 8, 0, 0, 0, 0, 0, 0, 0, 0, 0, 0, 0, 0,
    0, 0, last.val]
  length := rfl
  hex := by revert last; decide
  version := rfl
  variant := ⟨8, rfl, by decide, by decide⟩

/-- A log without an audit. -/
def sampleLog (uuid : Uuid) : QueuedLog where
  requestId := uuid.text
  project := lit "p"
  action := lit "a"
  clientId := none
  clientRequestId := none
  requesterUserId := none
  accessTokenId := none
  status := .string (lit "ok")
  httpCode := whole 200
  latencyMs := 5
  error := .null
  requestPayload := .object true [(lit "n", .string (lit "one"))]
  responsePayload := .undefined
  appAudit := none
  createdAt := []
  finishedAt := []

/-- Two requests of one start, the answer to the second one lost, and a third that was rejected. -/
def sharedStart : Writes :=
  [(sampleUuid 0, .none), (sampleUuid 1, .lost), (sampleUuid 2, .rejected)]

/-- Only the second one is shown, and not while the index is away. -/
theorem detail_exact_shared :
    (detail (fun _ => some ()) (documentsOf sampleLog sharedStart) (sampleUuid 0).text
        .none).map (·.payloadUnavailable) = some true ∧
      (detail (fun _ => some ()) (documentsOf sampleLog sharedStart) (sampleUuid 1).text
        .none).map (·.requestPayload) = some (.object true [(lit "n", .string (lit "one"))]) ∧
      (detail (fun _ => some ()) (documentsOf sampleLog sharedStart) (sampleUuid 1).text
        .rejected).map (·.payloadUnavailable) = some true := by
  have hjobs : ∀ uuid, Logged (sampleLog uuid) uuid := by
    intro uuid
    refine ⟨rfl, ?_, trivial, trivial⟩
    simp [sampleLog, nullish, Value.IsJson, Value.IsJsonFields, Ordered]
  have hfirst : ¬ (Fault.none.throws = false ∧
      writer (sampleUuid 0).start sharedStart = some (sampleUuid 0)) := by decide
  have hsecond : Fault.none.throws = false ∧
      writer (sampleUuid 1).start sharedStart = some (sampleUuid 1) := by decide
  have haway : ¬ (Fault.rejected.throws = false ∧
      writer (sampleUuid 1).start sharedStart = some (sampleUuid 1)) := by decide
  refine ⟨?_, ?_, ?_⟩
  · rw [detail_exact hjobs, Option.map_some, if_neg hfirst]
    rfl
  · rw [detail_exact hjobs, Option.map_some, if_pos hsecond]
    rfl
  · rw [detail_exact hjobs, Option.map_some, if_neg haway]
    rfl

end Search
end R2RPC
