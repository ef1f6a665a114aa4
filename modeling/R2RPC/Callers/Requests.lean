import R2RPC.AppAudit.KotlinRecorder
import R2RPC.Library.PercentEncoding
import R2RPC.NulBytes.Scan
import Mathlib.Data.List.Find

/-!
# Calls on their way to the server

The caller SDKs write the names of a call into a URL, the HTTP client resolves it, and the
server takes the names out again, behind the scan for NUL bytes that stands in front of its routes.

Main results:

- Definitions {lit}`JavaScript.invoke`, {lit}`Kotlin.invoke`: the requests of the callers.
- Definitions {lit}`invoked`, {lit}`queued`: what the routes of the server hand on.
- Theorem {lit}`refused_eq`: which requests the scan refuses.
- Theorem {lit}`invocations_received`: a call arrives as it was made unless a name is a dot
  segment or the scan refuses it.
- Theorem {lit}`lookups_received`: questions about devices arrive unless the scan refuses them.

Current gaps:

- Headers, timers and responses; the origin of the base URL; the body of the Kotlin caller.
- The guards, pipes and limits of the server, and where its middleware stands to its body parser:
  the scan sees a body or does not.
- The reader of the query gives no value where a percent sign is not followed by UTF-8, and the
  first value of a field that is written twice.
- A literal of a route is compared with regard to case.
-/

namespace R2RPC
namespace Callers

open Utf16 Binary PercentEncoding

/-! ## The HTTP client and the server -/

/-- The spellings of a single-dot path segment. -/
def singleDots : List JsString := [lit ".", lit "%2e", lit "%2E"]

/-- The spellings of a double-dot path segment. -/
def doubleDots : List JsString := singleDots.flatMap fun first => singleDots.map (first ++ ·)

/-- The path of a URL: a double dot takes a segment back, and a dot at the end leaves an empty
segment. -/
def resolve (path : List JsString) : List JsString → List JsString
  | [] => path
  | [segment] =>
      if segment ∈ doubleDots then path.dropLast ++ [[]]
      else if segment ∈ singleDots then path ++ [[]]
      else path ++ [segment]
  | segment :: next :: rest =>
      if segment ∈ doubleDots then resolve path.dropLast (next :: rest)
      else if segment ∈ singleDots then resolve path (next :: rest)
      else resolve (path ++ [segment]) (next :: rest)

/-- The text of path segments. -/
def pathText (segments : List JsString) : JsString := segments.flatMap (47 :: ·)

/-- An apostrophe is escaped in the query of a URL. -/
def queryEscape (query : JsString) : JsString := replaceUnit 39 (lit "%27") query

/-- A fragment is not sent. -/
def withoutFragment (target : JsString) : JsString := target.takeWhile (· != 35)

/-- The segments of the path that is requested. -/
def requestedPath (target : JsString) : List JsString :=
  resolve [] ((split 47 ((withoutFragment target).takeWhile (· != 63))).drop 1)

/-- The query that is requested. -/
def requestedQuery (target : JsString) : JsString :=
  queryEscape (((withoutFragment target).dropWhile (· != 63)).drop 1)

/-- The fields of a query. -/
def queryFields (query : JsString) : List (JsString × JsString) :=
  (split 38 query).map fun field =>
    (field.takeWhile (· != 61), (field.dropWhile (· != 61)).drop 1)

/-- `@Query(name)`. -/
def queryValue (query name : JsString) : Option JsString :=
  ((queryFields query).find? fun field => decode (plusToSpace field.1) == some name).bind
    fun field => decode (plusToSpace field.2)

/-- `request.query`, as far as the scan goes: a field that is written twice stands there twice. -/
def queryObject (query : JsString) : JavaScript.Value :=
  .object false ((queryFields query).filterMap fun field =>
    (decode (plusToSpace field.1)).bind fun name =>
      (decode (plusToSpace field.2)).map fun value => (name, .string value))

structure HttpRequest where
  method : JsString
  target : JsString
  body : Option JsString := none

/-- `rejectNullByte` refuses the request; it sees a body only if it has been parsed by then. -/
def refused (parsed : Bool) (request : HttpRequest) : Bool :=
  (NulBytes.rejectNullByte (queryObject (requestedQuery request.target))
    (if parsed then (request.body.bind JavaScript.parse).getD .undefined else .undefined)).isSome

/-- What the handler of an invocation is called with. -/
structure Invocation where
  project : JsString
  action : JsString
  clientId : Option JsString
  body : Option JavaScript.Value

/-- What the handler of the queue is called with. -/
structure Lookup where
  project : Option JsString
  clientId : Option JsString

/-- The segments behind those of the mount. -/
def behind (mount segments : List JsString) : Option (List JsString) :=
  if segments.take mount.length = mount then some (segments.drop mount.length) else none

/-- The parameters of `rpc/invoke/:project/:action`. -/
def invokeParameters : List JsString → Option (JsString × JsString)
  | [first, second, project, action] | [first, second, project, action, []] =>
      if first = lit "rpc" ∧ second = lit "invoke" ∧ project ≠ [] ∧ action ≠ [] then
        (decode project).bind fun project => (decode action).map fun action => (project, action)
      else none
  | _ => none

/-- `RpcController.invoke`, as the server is reached behind a mount. -/
def invoked (parsed : Bool) (mount : List JsString) (request : HttpRequest) : Option Invocation :=
  if refused parsed request then none
  else if request.method = lit "POST" then
    ((behind mount (requestedPath request.target)).bind invokeParameters).map
      fun (project, action) =>
        { project, action,
          clientId := queryValue (requestedQuery request.target) (lit "clientId"),
          body := request.body.bind JavaScript.parse }
  else none

/-- The path is `rpc/clientQueue`. -/
def isClientQueue (segments : List JsString) : Bool :=
  segments == [lit "rpc", lit "clientQueue"] || segments == [lit "rpc", lit "clientQueue", []]

/-- `RpcController.clientQueue`. -/
def queued (parsed : Bool) (mount : List JsString) (request : HttpRequest) : Option Lookup :=
  if refused parsed request then none
  else if request.method = lit "GET" ∧
      (behind mount (requestedPath request.target)).any isClientQueue then
    some
      { project := queryValue (requestedQuery request.target) (lit "project"),
        clientId := queryValue (requestedQuery request.target) (lit "clientId") }
  else none

/-! ## The callers -/

/-- What a caller throws before it sends. -/
inductive Thrown where
  | typeError (message : JsString)
  | rangeError (message : JsString)
  | uriError
  | illegalArgument (message : JsString)

/-- A letter or a digit. -/
def alphanumeric (c : Nat) : Bool :=
  (48 ≤ c && c ≤ 57) || (65 ≤ c && c ≤ 90) || (97 ≤ c && c ≤ 122)

namespace JavaScript

/-- `baseUrl.replace(/\/$/, '')`, of the path of the base URL. -/
def stripSlash (baseUrl : JsString) : JsString :=
  if baseUrl.getLast? = some 47 then baseUrl.dropLast else baseUrl

def ensureRequiredValue (name value : JsString) : Except Thrown Unit :=
  if trim value = [] then .error (.typeError (name ++ lit " 不能为空")) else .ok ()

/-- What `encodeURIComponent` keeps. -/
def unreserved (c : Nat) : Bool :=
  alphanumeric c || [45, 95, 46, 33, 126, 42, 39, 40, 41].contains c

/-- What `URLSearchParams` keeps. -/
def formKept (c : Nat) : Bool := alphanumeric c || [42, 45, 46, 95].contains c

def encodeURIComponent (text : JsString) : Except Thrown JsString :=
  if WellFormed text then .ok (escapePoints unreserved (codePoints text)) else .error .uriError

/-- `URLSearchParams` with one value, as text. -/
def searchParams (name value : JsString) : JsString :=
  name ++ 61 :: formPoints formKept (scalars 0xFFFD value)

/-- `timeoutSeconds` is an integer from 1 on. -/
def ensureTimeout : Option JavaScript.JsNumber → Except Thrown Unit
  | none => .ok ()
  | some n =>
      if n.toInt.any (1 ≤ ·) then .ok ()
      else .error (.rangeError (lit "timeoutSeconds 必须是大于 0 的整数"))

def ensureClientId : Option JsString → Except Thrown Unit
  | none => .ok ()
  | some clientId => ensureRequiredValue (lit "clientId") clientId

/-- The suffix with the query; an empty `clientId` writes none. -/
def querySuffix : Option JsString → JsString
  | none => []
  | some clientId =>
      if clientId = [] then [] else 63 :: searchParams (lit "clientId") clientId

/-- The fields of the body. -/
def bodyFields (payload : JavaScript.Value) (timeoutSeconds : Option JavaScript.JsNumber) :
    JavaScript.Fields :=
  (lit "payload", payload) ::
    (timeoutSeconds.toList.map fun n => (lit "timeoutSeconds", .number n))

/-- `R2RpcCaller.invoke`. -/
def invoke (baseUrl project action : JsString) (payload : JavaScript.Value)
    (clientId : Option JsString) (timeoutSeconds : Option JavaScript.JsNumber) :
    Except Thrown HttpRequest := do
  ensureRequiredValue (lit "project") project
  ensureRequiredValue (lit "action") action
  ensureTimeout timeoutSeconds
  ensureClientId clientId
  let encodedProject ← encodeURIComponent project
  let encodedAction ← encodeURIComponent action
  return {
    method := lit "POST"
    target := stripSlash baseUrl ++ (lit "/rpc/invoke/" ++ encodedProject ++ 47 :: encodedAction ++
      querySuffix clientId)
    body := JavaScript.Value.stringify (.object true (bodyFields payload timeoutSeconds)) }

/-- `R2RpcCaller.listOnlineDevices`. -/
def listOnlineDevices (baseUrl project : JsString) : Except Thrown HttpRequest := do
  ensureRequiredValue (lit "project") project
  let encodedProject ← encodeURIComponent project
  return {
    method := lit "GET"
    target := stripSlash baseUrl ++ (lit "/rpc/clientQueue?project=" ++ encodedProject) }

/-- `R2RpcCaller.isDeviceOnline`. -/
def isDeviceOnline (baseUrl project clientId : JsString) : Except Thrown HttpRequest := do
  ensureRequiredValue (lit "project") project
  ensureRequiredValue (lit "clientId") clientId
  let encodedProject ← encodeURIComponent project
  let encodedClientId ← encodeURIComponent clientId
  return {
    method := lit "GET"
    target := stripSlash baseUrl ++ (lit "/rpc/clientQueue?project=" ++ encodedProject ++
      lit "&clientId=" ++ encodedClientId) }

end JavaScript

namespace Kotlin

open AppAudit.KotlinRecorder (isNotBlank)

/-- `baseUrl.trimEnd('/')`. -/
def trimEnd (baseUrl : JsString) : JsString := (baseUrl.reverse.dropWhile (· == 47)).reverse

def require (condition : Bool) (message : JsString) : Except Thrown Unit :=
  if condition then .ok () else .error (.illegalArgument message)

/-- What `URLEncoder` keeps. -/
def urlKept (c : Nat) : Bool := alphanumeric c || [46, 45, 42, 95].contains c

/-- `URLEncoder.encode`, in UTF-8. -/
def urlEncode (value : JsString) : JsString := formPoints urlKept (scalars 63 value)

/-- `encode(..).replace("+", "%20")`. -/
def encodePathValue (value : JsString) : JsString := replaceUnit 43 (lit "%20") (urlEncode value)

def querySuffix : Option JsString → JsString
  | none => []
  | some clientId => lit "?clientId=" ++ encodePathValue clientId

/-- `R2RpcCaller.invoke`, with the body that was written. -/
def invoke (baseUrl project action body : JsString) (clientId : Option JsString)
    (timeoutSeconds : Option Int32) : Except Thrown HttpRequest := do
  require (isNotBlank project) (lit "project 不能为空")
  require (isNotBlank action) (lit "action 不能为空")
  require (clientId.all isNotBlank) (lit "clientId 不能为空")
  require (timeoutSeconds.all (0 < ·)) (lit "timeoutSeconds 必须大于 0")
  return {
    method := lit "POST"
    target := trimEnd baseUrl ++ (lit "/rpc/invoke/" ++ encodePathValue project ++
      47 :: encodePathValue action ++ querySuffix clientId)
    body := some body }

def listOnlineDevices (baseUrl project : JsString) : Except Thrown HttpRequest := do
  require (isNotBlank project) (lit "project 不能为空")
  return {
    method := lit "GET"
    target := trimEnd baseUrl ++ (lit "/rpc/clientQueue?project=" ++ encodePathValue project) }

def isDeviceOnline (baseUrl project clientId : JsString) : Except Thrown HttpRequest := do
  require (isNotBlank project) (lit "project 不能为空")
  require (isNotBlank clientId) (lit "clientId 不能为空")
  return {
    method := lit "GET"
    target := trimEnd baseUrl ++ (lit "/rpc/clientQueue?project=" ++ encodePathValue project ++
      lit "&clientId=" ++ encodePathValue clientId) }

end Kotlin

/-! ## Names in paths -/

/-- A text that a URL resolves. -/
def IsDot (text : JsString) : Prop := text = lit "." ∨ text = lit ".."

instance (text : JsString) : Decidable (IsDot text) := inferInstanceAs (Decidable (_ ∨ _))

/-- The encoders of both callers keep dots, and escape what separates. -/
structure KeepsPath (keep : Nat → Bool) : Prop where
  ascii : Keeps keep
  dot : keep 46 = true
  separators : ∀ unit ∈ lit "/?#&+", writes keep unit = false

theorem keepsPath_unreserved : KeepsPath JavaScript.unreserved where
  ascii := by
    intro c hc
    simp [JavaScript.unreserved, alphanumeric] at hc
    omega
  dot := by decide
  separators := by decide

theorem keepsPath_urlKept : KeepsPath Kotlin.urlKept where
  ascii := by
    intro c hc
    simp [Kotlin.urlKept, alphanumeric] at hc
    omega
  dot := by decide
  separators := by decide

/-- A text that is one segment of a path. -/
def IsSegment (text : JsString) : Prop := ∀ unit ∈ lit "/?#", unit ∉ text

/-- What a path takes from a name. -/
structure Encodes (encoded text : JsString) : Prop where
  decoded : decode encoded = some text
  segment : IsSegment encoded
  single : encoded ∈ singleDots ↔ text = lit "."
  double : encoded ∈ doubleDots ↔ text = lit ".."

theorem encodes_escapePoints {keep : Nat → Bool} (hkeep : KeepsPath keep) {points : List Nat}
    (h : ∀ c ∈ points, Scalar c) :
    Encodes (escapePoints keep points) (points.flatMap unitsAt) := by
  have hdecoded := decode_escapePoints hkeep.ascii h
  have hpoints := codePoints_flatMap h
  have hdot : escapePoint keep 46 = [46] := by rw [escapePoint, if_pos hkeep.dot]; rfl
  refine ⟨hdecoded, ?_, ?_, ?_⟩
  · intro unit hunit
    have hmem : ∀ unit ∈ lit "/?#", unit ∈ lit "/?#&+" := by decide
    exact notMem_escapePoints hkeep.ascii (hkeep.separators unit (hmem unit hunit)) h
  · constructor
    · intro hmem
      have hall : ∀ segment ∈ singleDots, decode segment = some (lit ".") := by decide
      exact Option.some.inj (hdecoded.symm.trans (hall _ hmem))
    · intro htext
      rw [htext] at hpoints
      have hsame : points = [46] := hpoints.symm.trans (by decide)
      rw [hsame, escapePoints, List.flatMap_singleton, hdot]
      decide
  · constructor
    · intro hmem
      have hall : ∀ segment ∈ doubleDots, decode segment = some (lit "..") := by decide
      exact Option.some.inj (hdecoded.symm.trans (hall _ hmem))
    · intro htext
      rw [htext] at hpoints
      have hsame : points = [46, 46] := hpoints.symm.trans (by decide)
      rw [hsame, escapePoints, List.flatMap_cons, List.flatMap_singleton, hdot]
      decide

/-! ## Paths -/

/-- A unit that a URL keeps as it is in a path. -/
def pathUnit (unit : UInt16) : Bool :=
  alphanumeric unit.toNat || (lit "-._~!$&'()*+,;=:@%").contains unit

theorem isSegment_of_pathUnit {segment : JsString} (h : ∀ unit ∈ segment, pathUnit unit = true) :
    IsSegment segment := by
  intro unit hunit hmem
  have hall : ∀ unit ∈ lit "/?#", pathUnit unit = false := by decide
  exact Bool.noConfusion ((h unit hmem).symm.trans (hall unit hunit))

/-- Segments at which the server is mounted: the URL keeps them as they are. -/
structure Mount (mount : List JsString) : Prop where
  single : ∀ segment ∈ mount, segment ∉ singleDots
  double : ∀ segment ∈ mount, segment ∉ doubleDots
  units : ∀ segment ∈ mount, ∀ unit ∈ segment, pathUnit unit = true

theorem mount_append {mount more : List JsString} (h : Mount mount) (hmore : Mount more) :
    Mount (mount ++ more) := by
  constructor <;> intro segment hsegment <;> rcases List.mem_append.mp hsegment with hmem | hmem
  · exact h.single segment hmem
  · exact hmore.single segment hmem
  · exact h.double segment hmem
  · exact hmore.double segment hmem
  · exact h.units segment hmem
  · exact hmore.units segment hmem

theorem Mount.isSegment {mount : List JsString} (h : Mount mount) :
    ∀ segment ∈ mount, IsSegment segment := fun segment hsegment =>
  isSegment_of_pathUnit (h.units segment hsegment)

theorem resolve_mount {mount : List JsString} (h : Mount mount) {rest : List JsString}
    (hrest : rest ≠ []) (path : List JsString) :
    resolve path (mount ++ rest) = resolve (path ++ mount) rest := by
  induction mount generalizing path with
  | nil => simp
  | cons segment mount ih =>
      have hmount : Mount mount := by
        constructor <;> intro other hother
        · exact h.single other (List.mem_cons_of_mem segment hother)
        · exact h.double other (List.mem_cons_of_mem segment hother)
        · exact h.units other (List.mem_cons_of_mem segment hother)
      obtain ⟨next, more, hmore⟩ := List.exists_cons_of_ne_nil
        (List.append_ne_nil_of_right_ne_nil mount hrest)
      rw [List.cons_append, hmore, resolve, if_neg (h.double segment List.mem_cons_self),
        if_neg (h.single segment List.mem_cons_self), ← hmore, ih hmount]
      simp

theorem pathText_append (segments more : List JsString) :
    pathText (segments ++ more) = pathText segments ++ pathText more := by
  simp [pathText]

theorem split_pathText {segments : List JsString} (h : ∀ segment ∈ segments, IsSegment segment)
    (hne : segments ≠ []) : split 47 (pathText segments) = [] :: segments := by
  have hjoined : pathText segments = List.intercalate [47] ([] :: segments) := by
    clear h
    induction segments with
    | nil => contradiction
    | cons segment segments ih =>
        cases segments with
        | nil => simp [pathText]
        | cons next segments =>
            have hrest := ih (by simp)
            rw [pathText, List.flatMap_cons, ← pathText, hrest]
            simp [List.intercalate_cons_cons]
  rw [split, hjoined]
  refine List.splitOn_intercalate 47 ?_ (by simp)
  rw [List.forall_mem_cons]
  exact ⟨List.not_mem_nil, fun segment hsegment => h segment hsegment 47 (by decide)⟩

theorem notMem_pathText {segments : List JsString} (h : ∀ segment ∈ segments, IsSegment segment)
    {unit : UInt16} (hunit : unit ∈ lit "?#") : unit ∉ pathText segments := by
  intro hmem
  have hall : ∀ unit ∈ lit "?#", unit ∈ lit "/?#" ∧ unit ≠ 47 := by decide
  rcases List.mem_flatMap.mp hmem with ⟨segment, hsegment, hmem⟩
  rcases List.mem_cons.mp hmem with hslash | hmem
  · exact (hall unit hunit).2 hslash
  · exact h segment hsegment unit (hall unit hunit).1 hmem

/-- A text up to a unit that it does not have. -/
theorem takeWhile_of_notMem {unit : UInt16} {text : JsString} (h : unit ∉ text) :
    text.takeWhile (· != unit) = text := by
  refine List.takeWhile_eq_self_iff.mpr fun other hother => ?_
  rw [bne_iff_ne]
  rintro rfl
  exact h hother

/-- A query behind a path, or none. -/
def IsQuery (suffix query : JsString) : Prop := suffix = 63 :: query ∨ suffix = [] ∧ query = []

/-- Path and query of what is requested. -/
theorem requested_eq {segments : List JsString} {suffix query : JsString}
    (hsegments : ∀ segment ∈ segments, IsSegment segment) (hne : segments ≠ [])
    (hsuffix : IsQuery suffix query) (hquery : 35 ∉ query) :
    requestedPath (pathText segments ++ suffix) = resolve [] segments ∧
      requestedQuery (pathText segments ++ suffix) = queryEscape query := by
  have hhash : 35 ∉ suffix := by
    rcases hsuffix with rfl | ⟨rfl, -⟩
    · exact List.not_mem_cons_of_ne_of_not_mem (by decide) hquery
    · exact List.not_mem_nil
  have hsent : withoutFragment (pathText segments ++ suffix) = pathText segments ++ suffix :=
    takeWhile_of_notMem (by
      rw [List.mem_append, not_or]
      exact ⟨notMem_pathText hsegments (by decide), hhash⟩)
  have hpath : ∀ unit ∈ pathText segments, (unit != 63) = true := by
    intro unit hunit
    rw [bne_iff_ne]
    rintro rfl
    exact notMem_pathText hsegments (by decide) hunit
  have htake : (pathText segments ++ suffix).takeWhile (· != 63) = pathText segments := by
    rw [List.takeWhile_append_of_pos hpath]
    rcases hsuffix with rfl | ⟨rfl, -⟩ <;> simp
  have hdrop : (pathText segments ++ suffix).dropWhile (· != 63) = suffix := by
    rw [List.dropWhile_append_of_pos hpath]
    rcases hsuffix with rfl | ⟨rfl, -⟩ <;> simp
  constructor
  · rw [requestedPath, hsent, htake, split_pathText hsegments hne]
    rfl
  · rw [requestedQuery, hsent, hdrop]
    rcases hsuffix with rfl | ⟨rfl, rfl⟩ <;> rfl

theorem behind_append (mount rest : List JsString) : behind mount (mount ++ rest) = some rest := by
  simp [behind]

/-- The parameters that the route takes from the names of a call. -/
theorem parameters_eq {mount : List JsString} (hmount : Mount mount)
    {project action encodedProject encodedAction : JsString}
    (hproject : Encodes encodedProject project) (haction : Encodes encodedAction action)
    (hprojectNe : project ≠ []) (hactionNe : action ≠ []) :
    (behind mount (resolve [] (mount ++
        [lit "rpc", lit "invoke", encodedProject, encodedAction]))).bind invokeParameters =
      if IsDot project ∨ IsDot action then none else some (project, action) := by
  have hencodedProject : encodedProject ≠ [] := by
    rintro rfl
    exact hprojectNe (Option.some.inj hproject.decoded).symm
  have hencodedAction : encodedAction ≠ [] := by
    rintro rfl
    exact hactionNe (Option.some.inj haction.decoded).symm
  have hroute : Mount [lit "rpc", lit "invoke"] := by constructor <;> decide
  have hresolve : resolve [] (mount ++ [lit "rpc", lit "invoke", encodedProject, encodedAction]) =
      resolve (mount ++ [lit "rpc", lit "invoke"]) [encodedProject, encodedAction] := by
    have h := resolve_mount (mount_append hmount hroute)
      (show [encodedProject, encodedAction] ≠ [] by simp) []
    simpa using h
  have hlast : (mount ++ [lit "rpc", lit "invoke"]).dropLast = mount ++ [lit "rpc"] := by
    rw [List.dropLast_append_of_ne_nil (by simp)]
    rfl
  have hlast' : (mount ++ [lit "rpc"]).dropLast = mount := by simp
  have hdots : IsDot project ∨ IsDot action ↔
      (encodedProject ∈ singleDots ∨ encodedProject ∈ doubleDots) ∨
        (encodedAction ∈ singleDots ∨ encodedAction ∈ doubleDots) := by
    rw [hproject.single, hproject.double, haction.single, haction.double, IsDot, IsDot]
  rw [hresolve, resolve, resolve, resolve, resolve, hlast, hlast']
  by_cases hprojectDots : encodedProject ∈ doubleDots
  · -- the project takes `invoke` back: too few segments are left
    rw [if_pos hprojectDots, if_pos (hdots.mpr (.inl (.inr hprojectDots)))]
    split_ifs <;> simp only [List.append_assoc, behind_append] <;> rfl
  by_cases hprojectDot : encodedProject ∈ singleDots
  · rw [if_neg hprojectDots, if_pos hprojectDot, if_pos (hdots.mpr (.inl (.inl hprojectDot)))]
    split_ifs <;> simp only [List.append_assoc, behind_append] <;> rfl
  rw [if_neg hprojectDots, if_neg hprojectDot]
  by_cases hactionDots : encodedAction ∈ doubleDots
  · rw [if_pos hactionDots, if_pos (hdots.mpr (.inr (.inr hactionDots))), List.dropLast_concat,
      List.append_assoc, behind_append]
    rfl
  by_cases hactionDot : encodedAction ∈ singleDots
  · rw [if_neg hactionDots, if_pos hactionDot, if_pos (hdots.mpr (.inr (.inl hactionDot))),
      List.append_assoc, List.append_assoc, behind_append]
    simp [invokeParameters]
  have hplain : ¬ (IsDot project ∨ IsDot action) := by
    rw [hdots]
    simp [hprojectDots, hprojectDot, hactionDots, hactionDot]
  rw [if_neg hactionDots, if_neg hactionDot, if_neg hplain, List.append_assoc, List.append_assoc,
    behind_append]
  simp [invokeParameters, hencodedProject, hencodedAction, hproject.decoded, haction.decoded]

/-! ## Names in queries -/

/-- What a query takes from a name. -/
structure QueryValue (written text : JsString) : Prop where
  ampersand : 38 ∉ queryEscape written
  hash : 35 ∉ written
  decoded : decode (plusToSpace (queryEscape written)) = some text

/-- An apostrophe is read back, whether the encoder kept it or not. -/
theorem queryValue_escapePoints {keep : Nat → Bool} (hkeep : KeepsPath keep) {points : List Nat}
    (h : ∀ c ∈ points, Scalar c) :
    QueryValue (escapePoints keep points) (points.flatMap unitsAt) := by
  have hkeep' : Keeps fun c => keep c && c != 39 :=
    fun c hc => hkeep.ascii c (Bool.and_eq_true_iff.mp hc).1
  have hescaped : queryEscape (escapePoints keep points) =
      escapePoints (fun c => keep c && c != 39) points := by
    have hpercent : lit "%27" = (utf8 (39 : UInt16).toNat).flatMap percent := by decide
    rw [queryEscape, hpercent]
    exact replaceUnit_escapePoints hkeep.ascii (by simp [writes]) h
  have hwrites : ∀ unit ∈ lit "&+", writes (fun c => keep c && c != 39) unit = false := by
    intro unit hunit
    have hmem : ∀ unit ∈ lit "&+", unit ∈ lit "/?#&+" := by decide
    have hplain := hkeep.separators unit (hmem unit hunit)
    rw [writes, Bool.or_eq_false_iff] at hplain ⊢
    exact ⟨hplain.1, by rw [hplain.2, Bool.false_and]⟩
  refine ⟨?_, notMem_escapePoints hkeep.ascii (hkeep.separators 35 (by decide)) h, ?_⟩
  · rw [hescaped]
    exact notMem_escapePoints hkeep' (hwrites 38 (by decide)) h
  · rw [hescaped, plusToSpace_of_notMem (notMem_escapePoints hkeep' (hwrites 43 (by decide)) h)]
    exact decode_escapePoints hkeep' h

theorem queryValue_formPoints (value : JsString) :
    QueryValue (formPoints JavaScript.formKept (scalars 0xFFFD value)) (replaceLone 0xFFFD value) := by
  have hscalars : ∀ c ∈ scalars 0xFFFD value, Scalar c := scalar_of_mem_scalars (by decide)
  have hkeep : Keeps JavaScript.formKept := by
    intro c hc
    simp [JavaScript.formKept, alphanumeric] at hc
    omega
  have hescaped : queryEscape (formPoints JavaScript.formKept (scalars 0xFFFD value)) =
      formPoints JavaScript.formKept (scalars 0xFFFD value) :=
    replaceUnit_of_notMem (notMem_formPoints hkeep (by decide) (by decide) hscalars) _
  refine ⟨?_, notMem_formPoints hkeep (by decide) (by decide) hscalars, ?_⟩
  · rw [hescaped]
    exact notMem_formPoints hkeep (by decide) (by decide) hscalars
  · rw [hescaped]
    exact decode_formPoints hkeep (by decide) hscalars

/-- The text of fields. -/
def queryText (fields : List (JsString × JsString)) : JsString :=
  List.intercalate [38] (fields.map fun field => field.1 ++ 61 :: field.2)

/-- A name of a field that stands for itself. -/
structure PlainName (name : JsString) : Prop where
  separators : ∀ unit ∈ lit "&'=#", unit ∉ name
  decoded : decode (plusToSpace name) = some name

theorem replaceUnit_append (unit : UInt16) (replacement first second : JsString) :
    replaceUnit unit replacement (first ++ second) =
      replaceUnit unit replacement first ++ replaceUnit unit replacement second := by
  simp [replaceUnit]

/-- The fields of a query, as the URL writes it. -/
theorem queryFields_queryText {fields : List (JsString × JsString)} (hne : fields ≠ [])
    (hnames : ∀ field ∈ fields, PlainName field.1)
    (hvalues : ∀ field ∈ fields, 38 ∉ queryEscape field.2) :
    queryFields (queryEscape (queryText fields)) =
      fields.map fun field => (field.1, queryEscape field.2) := by
  have hname : ∀ field ∈ fields, queryEscape field.1 = field.1 := fun field hfield =>
    replaceUnit_of_notMem ((hnames field hfield).separators 39 (by decide)) _
  have hescaped : queryEscape (queryText fields) =
      List.intercalate [38] (fields.map fun field => field.1 ++ 61 :: queryEscape field.2) := by
    clear hvalues hnames
    rw [queryText]
    induction fields with
    | nil => rfl
    | cons field fields ih =>
        rw [List.forall_mem_cons] at hname
        have hfield : queryEscape (field.1 ++ 61 :: field.2) =
            field.1 ++ 61 :: queryEscape field.2 := by
          rw [queryEscape, replaceUnit_append, ← queryEscape, hname.1]
          rfl
        cases fields with
        | nil => simpa using hfield
        | cons next fields =>
            rw [List.map_cons, List.map_cons, List.intercalate_cons_cons, queryEscape,
              replaceUnit_append, replaceUnit_append, ← queryEscape, ← queryEscape, hfield,
              List.map_cons, List.map_cons, List.intercalate_cons_cons]
            have hrest := ih (by simp) hname.2
            rw [List.map_cons, List.map_cons] at hrest
            rw [queryEscape] at hrest ⊢
            rw [hrest]
            rfl
  have hsplit : split 38 (queryEscape (queryText fields)) =
      fields.map fun field => field.1 ++ 61 :: queryEscape field.2 := by
    rw [hescaped, split]
    refine List.splitOn_intercalate 38 ?_ (by simpa using hne)
    intro text htext
    rcases List.mem_map.mp htext with ⟨field, hfield, rfl⟩
    rw [List.mem_append, List.mem_cons, not_or, not_or]
    exact ⟨(hnames field hfield).separators 38 (by decide), by decide, hvalues field hfield⟩
  rw [queryFields, hsplit, List.map_map]
  refine List.map_congr_left fun field hfield => ?_
  have hplain : ∀ unit ∈ field.1, (unit != 61) = true := by
    intro unit hunit
    rw [bne_iff_ne]
    rintro rfl
    exact (hnames field hfield).separators 61 (by decide) hunit
  simp [List.takeWhile_append_of_pos hplain, List.dropWhile_append_of_pos hplain]

/-- What is read is the value of the first field with the name. -/
theorem queryValue_queryText {fields : List (JsString × JsString)} {name : JsString}
    (hname : name ≠ []) (hnames : ∀ field ∈ fields, PlainName field.1)
    (hvalues : ∀ field ∈ fields, 38 ∉ queryEscape field.2) :
    queryValue (queryEscape (queryText fields)) name =
      (fields.find? (·.1 == name)).bind fun field => decode (plusToSpace (queryEscape field.2)) := by
  cases fields with
  | nil =>
      have hfields : queryFields (queryEscape (queryText [])) = [([], [])] := by decide
      have hempty : decode (plusToSpace []) = some [] := by decide
      have hother : (decode (plusToSpace []) == some name) = false := by
        rw [hempty, beq_eq_false_iff_ne]
        exact fun heq => hname (Option.some.inj heq).symm
      rw [queryValue, hfields, List.find?_singleton, hother]
      rfl
  | cons field fields =>
      have hsame : ∀ other ∈ field :: fields,
          (decode (plusToSpace other.1) == some name) = (other.1 == name) := by
        intro other hother
        rw [(hnames other hother).decoded]
        rfl
      rw [queryValue, queryFields_queryText (by simp) hnames hvalues, List.find?_map,
        ← List.find?_congr hsame]
      change Option.bind (Option.map _ (List.find? (fun other =>
        decode (plusToSpace other.1) == some name) (field :: fields))) _ = _
      cases List.find? (fun other => decode (plusToSpace other.1) == some name)
        (field :: fields) with
      | none => rfl
      | some other => rfl

/-! ## The scan -/

/-- The scan of fields that are written for texts. -/
theorem containsNullByte_queryText {fields : List (JsString × JsString)} {texts : List JsString}
    (hnames : ∀ field ∈ fields, PlainName field.1)
    (h : List.Forall₂ (fun field text => QueryValue field.2 text) fields texts) :
    NulBytes.containsNullByte (queryObject (queryEscape (queryText fields))) 0 =
      texts.any fun text => !nulFree text := by
  cases fields with
  | nil =>
      rw [List.forall₂_nil_left_iff.mp h]
      decide +kernel
  | cons first rest =>
      have hvalues : ∀ field ∈ first :: rest, 38 ∉ queryEscape field.2 := by
        intro field hfield
        rcases List.getElem_of_mem hfield with ⟨index, hindex, rfl⟩
        exact (h.get hindex (h.length_eq ▸ hindex)).ampersand
      have hscan : ∀ fields : JavaScript.Fields,
          NulBytes.containsNullByte (.object false fields) 0 = NulBytes.someField fields 1 :=
        fun _ => rfl
      rw [queryObject, queryFields_queryText (by simp) hnames hvalues, hscan]
      generalize first :: rest = fields at h hnames
      clear hvalues
      induction h with
      | nil => rfl
      | @cons field text fields texts hfield hrest ih =>
          rw [List.forall_mem_cons] at hnames
          simp only [List.map_cons, List.filterMap_cons, hnames.1.decoded, hfield.decoded,
            Option.bind_some, Option.map_some, NulBytes.someField, List.any_cons, ih hnames.2]
          rw [NulBytes.containsNullByte, if_neg (by decide), NulBytes.contains_zero]

/-- The scan finds a NUL in one of the texts of the query, or in the body if it sees that. -/
def scanFinds (parsed : Bool) (texts : List JsString) (body : Option JavaScript.Value) : Bool :=
  (texts.any fun text => !nulFree text) || (parsed && body.any (NulBytes.containsNullByte · 0))

/-- Which requests the scan refuses. -/
theorem refused_eq {parsed : Bool} {request : HttpRequest} {fields : List (JsString × JsString)}
    {texts : List JsString}
    (hquery : requestedQuery request.target = queryEscape (queryText fields))
    (hnames : ∀ field ∈ fields, PlainName field.1)
    (h : List.Forall₂ (fun field text => QueryValue field.2 text) fields texts) :
    refused parsed request = scanFinds parsed texts (request.body.bind JavaScript.parse) := by
  have hisSome : ∀ query body : JavaScript.Value, (NulBytes.rejectNullByte query body).isSome =
      (NulBytes.containsNullByte query 0 || NulBytes.containsNullByte body 0) := by
    intro query body
    rw [NulBytes.rejectNullByte]
    cases NulBytes.containsNullByte query 0 || NulBytes.containsNullByte body 0 <;> rfl
  rw [refused, hisSome, hquery, containsNullByte_queryText hnames h, scanFinds]
  cases parsed with
  | false => rfl
  | true => cases request.body.bind JavaScript.parse <;> rfl

/-- A replacement brings in no NUL and takes none away. -/
theorem nulFree_replaceLone {replacement : Nat} (hscalar : Scalar replacement)
    (hpos : replacement ≠ 0) (text : JsString) :
    nulFree (replaceLone replacement text) = nulFree text := by
  rw [Bool.eq_iff_iff, nulFree_codePoints, nulFree_codePoints, replaceLone,
    codePoints_flatMap (scalar_of_mem_scalars hscalar), scalars, List.forall_mem_map]
  refine forall₂_congr fun c _ => ?_
  split
  next hsurrogate =>
    have hne : c ≠ 0 := by
      rintro rfl
      cases hsurrogate
    simp [hpos, hne]
  next => rfl

theorem scanFinds_replaceLone {replacement : Nat} (hscalar : Scalar replacement)
    (hpos : replacement ≠ 0) (parsed : Bool) (texts : List JsString)
    (body : Option JavaScript.Value) :
    scanFinds parsed (texts.map (replaceLone replacement)) body = scanFinds parsed texts body := by
  simp only [scanFinds, List.any_map, Function.comp_def, nulFree_replaceLone hscalar hpos]

/-! ## Requests on arrival -/

/-- The request of an invocation on arrival. -/
theorem invoked_eq {mount : List JsString} (hmount : Mount mount) {parsed : Bool}
    {project action encodedProject encodedAction suffix : JsString}
    {fields : List (JsString × JsString)} {texts : List JsString}
    (hproject : Encodes encodedProject project) (haction : Encodes encodedAction action)
    (hprojectNe : project ≠ []) (hactionNe : action ≠ [])
    (hsuffix : IsQuery suffix (queryText fields)) (hhash : 35 ∉ queryText fields)
    (hnames : ∀ field ∈ fields, PlainName field.1)
    (htexts : List.Forall₂ (fun field text => QueryValue field.2 text) fields texts)
    (body : Option JsString) :
    invoked parsed mount
        { method := lit "POST"
          target := pathText mount ++ (lit "/rpc/invoke/" ++ encodedProject ++
            47 :: encodedAction ++ suffix)
          body } =
      if IsDot project ∨ IsDot action ∨ scanFinds parsed texts (body.bind JavaScript.parse) then none
      else some
        { project, action,
          clientId := queryValue (queryEscape (queryText fields)) (lit "clientId"),
          body := body.bind JavaScript.parse } := by
  have htarget : pathText mount ++ (lit "/rpc/invoke/" ++ encodedProject ++
      47 :: encodedAction ++ suffix) =
        pathText (mount ++ [lit "rpc", lit "invoke", encodedProject, encodedAction]) ++ suffix := by
    have hroute : lit "/rpc/invoke/" = 47 :: (lit "rpc" ++ 47 :: (lit "invoke" ++ [47])) := by
      decide
    rw [pathText_append, hroute]
    simp [pathText]
  have hsegments : ∀ segment ∈ mount ++ [lit "rpc", lit "invoke", encodedProject, encodedAction],
      IsSegment segment := by
    intro segment hsegment
    rcases List.mem_append.mp hsegment with hsegment | hsegment
    · exact hmount.isSegment segment hsegment
    · have hroute : IsSegment (lit "rpc") ∧ IsSegment (lit "invoke") := by
        constructor <;> intro unit hunit <;> revert unit <;> decide
      simp only [List.mem_cons, List.not_mem_nil, or_false] at hsegment
      rcases hsegment with rfl | rfl | rfl | rfl
      · exact hroute.1
      · exact hroute.2
      · exact hproject.segment
      · exact haction.segment
  rcases requested_eq hsegments (by simp) hsuffix hhash with ⟨hpath, hquery⟩
  rw [htarget, invoked, refused_eq hquery hnames htexts]
  dsimp only
  rw [if_pos rfl, hpath, hquery, parameters_eq hmount hproject haction hprojectNe hactionNe]
  by_cases hdot : IsDot project ∨ IsDot action
  · rw [if_pos hdot, if_pos (or_assoc.mp (.inl hdot))]
    simp
  · rw [if_neg hdot]
    rw [not_or] at hdot
    simp [hdot]

/-- The request of a lookup on arrival. -/
theorem queued_eq {mount : List JsString} (hmount : Mount mount) {parsed : Bool}
    {fields : List (JsString × JsString)} {texts : List JsString} (hhash : 35 ∉ queryText fields)
    (hnames : ∀ field ∈ fields, PlainName field.1)
    (htexts : List.Forall₂ (fun field text => QueryValue field.2 text) fields texts) :
    queued parsed mount
        { method := lit "GET"
          target := pathText mount ++ (lit "/rpc/clientQueue" ++ 63 :: queryText fields) } =
      if scanFinds parsed texts none then none
      else some
        { project := queryValue (queryEscape (queryText fields)) (lit "project")
          clientId := queryValue (queryEscape (queryText fields)) (lit "clientId") } := by
  have hroute : Mount [lit "rpc", lit "clientQueue"] := by constructor <;> decide
  have hall := mount_append hmount hroute
  have htarget : pathText mount ++ (lit "/rpc/clientQueue" ++ 63 :: queryText fields) =
      pathText (mount ++ [lit "rpc", lit "clientQueue"]) ++ 63 :: queryText fields := by
    have hliteral : lit "/rpc/clientQueue" = pathText [lit "rpc", lit "clientQueue"] := by decide
    rw [pathText_append, hliteral, List.append_assoc]
  rcases requested_eq hall.isSegment (by simp) (.inl rfl) hhash with ⟨hpath, hquery⟩
  have hresolve : resolve [] (mount ++ [lit "rpc", lit "clientQueue"]) =
      mount ++ [lit "rpc", lit "clientQueue"] := by
    have hone : lit "clientQueue" ∉ doubleDots ∧ lit "clientQueue" ∉ singleDots := by decide
    have hfirst : Mount [lit "rpc"] := by constructor <;> decide
    have h := resolve_mount (mount_append hmount hfirst)
      (show [lit "clientQueue"] ≠ [] by simp) []
    rw [resolve, if_neg hone.1, if_neg hone.2] at h
    simpa using h
  have hqueue : isClientQueue [lit "rpc", lit "clientQueue"] = true := by decide
  rw [htarget, queued, refused_eq hquery hnames htexts]
  dsimp only
  rw [hpath, hquery, hresolve, behind_append, Option.any_some, hqueue]
  -- Nothing is left but the scan: the method is `GET` and the path is the route's.
  simp

theorem plainName_fields : PlainName (lit "project") ∧ PlainName (lit "clientId") :=
  ⟨⟨by decide, by decide +kernel⟩, ⟨by decide, by decide +kernel⟩⟩

theorem notMem_queryText {fields : List (JsString × JsString)}
    (hnames : ∀ field ∈ fields, PlainName field.1) (hvalues : ∀ field ∈ fields, 35 ∉ field.2) :
    35 ∉ queryText fields := by
  rw [queryText]
  induction fields with
  | nil => exact List.not_mem_nil
  | cons field fields ih =>
      rw [List.forall_mem_cons] at hnames hvalues
      have hfield : 35 ∉ field.1 ++ 61 :: field.2 := by
        rw [List.mem_append, List.mem_cons, not_or, not_or]
        exact ⟨hnames.1.separators 35 (by decide), by decide, hvalues.1⟩
      cases fields with
      | nil => simpa using hfield
      | cons next fields =>
          have hrest := ih hnames.2 hvalues.2
          rw [List.map_cons] at hrest
          rw [List.map_cons, List.map_cons, List.intercalate_cons_cons]
          simp only [List.mem_append, not_or] at hfield hrest ⊢
          exact ⟨⟨hfield, by decide⟩, hrest⟩

theorem queued_project {mount : List JsString} (hmount : Mount mount) (parsed : Bool)
    {written project : JsString} (h : QueryValue written project) :
    queued parsed mount
        { method := lit "GET"
          target := pathText mount ++ (lit "/rpc/clientQueue" ++
            63 :: queryText [(lit "project", written)]) } =
      if nulFree project then some ⟨some project, none⟩ else none := by
  have hnames : ∀ field ∈ [(lit "project", written)], PlainName field.1 := by
    simpa using plainName_fields.1
  have hvalues : ∀ field ∈ [(lit "project", written)], 38 ∉ queryEscape field.2 := by
    simpa using h.ampersand
  have hother : (lit "project" == lit "clientId") = false := by decide
  rw [queued_eq hmount (notMem_queryText hnames (by simpa using h.hash)) hnames (.cons h .nil),
    queryValue_queryText (by decide) hnames hvalues, queryValue_queryText (by decide) hnames hvalues]
  cases hclean : nulFree project <;> simp [scanFinds, hclean, h.decoded, hother]

theorem queued_device {mount : List JsString} (hmount : Mount mount) (parsed : Bool)
    {written project writtenClientId clientId : JsString}
    (h : QueryValue written project) (hclient : QueryValue writtenClientId clientId) :
    queued parsed mount
        { method := lit "GET"
          target := pathText mount ++ (lit "/rpc/clientQueue" ++
            63 :: queryText [(lit "project", written), (lit "clientId", writtenClientId)]) } =
      if nulFree project && nulFree clientId then some ⟨some project, some clientId⟩ else none := by
  have hnames : ∀ field ∈ [(lit "project", written), (lit "clientId", writtenClientId)],
      PlainName field.1 := by
    simpa using plainName_fields
  have hvalues : ∀ field ∈ [(lit "project", written), (lit "clientId", writtenClientId)],
      38 ∉ queryEscape field.2 := by
    simpa using ⟨h.ampersand, hclient.ampersand⟩
  have hother : (lit "project" == lit "clientId") = false := by decide
  rw [queued_eq hmount (notMem_queryText hnames (by simpa using ⟨h.hash, hclient.hash⟩)) hnames
      (.cons h (.cons hclient .nil)),
    queryValue_queryText (by decide) hnames hvalues, queryValue_queryText (by decide) hnames hvalues]
  cases hclean : nulFree project <;> cases hcleanClient : nulFree clientId <;>
    simp [scanFinds, hclean, hcleanClient, h.decoded, hclient.decoded, hother]

/-- The outcomes of two calls in a row. -/
theorem bind_eq_ok {ε α β : Type} {call : Except ε α} {rest : α → Except ε β} {answer : β} :
    call >>= rest = .ok answer ↔ ∃ value, call = .ok value ∧ rest value = .ok answer := by
  cases call with
  | error thrown => simp [bind, Except.bind]
  | ok value => simp [bind, Except.bind]

namespace JavaScript

/-- A name that is encoded is well-formed. -/
theorem encodeURIComponent_eq_ok {text encoded : JsString}
    (h : encodeURIComponent text = .ok encoded) :
    Encodes encoded text ∧ QueryValue encoded text := by
  rw [encodeURIComponent] at h
  split at h
  next hwell =>
    have hscalars : ∀ c ∈ codePoints text, Scalar c := fun c hc =>
      ⟨codePoints_lt c hc, hwell c hc⟩
    rw [← Except.ok.inj h]
    have hencodes := encodes_escapePoints keepsPath_unreserved hscalars
    have hvalue := queryValue_escapePoints keepsPath_unreserved hscalars
    rw [flatMap_unitsAt] at hencodes hvalue
    exact ⟨hencodes, hvalue⟩
  next => cases h

theorem ensureRequiredValue_eq_ok {name value : JsString}
    (h : ensureRequiredValue name value = .ok ()) : value ≠ [] := by
  rintro rfl
  rw [ensureRequiredValue, if_pos (by decide)] at h
  cases h

theorem isQuery_querySuffix {clientId : Option JsString} (h : ensureClientId clientId = .ok ()) :
    IsQuery (querySuffix clientId) (queryText (clientId.toList.map fun value =>
      (lit "clientId", formPoints formKept (scalars 0xFFFD value)))) := by
  cases clientId with
  | none => exact .inr ⟨rfl, rfl⟩
  | some value =>
      rw [querySuffix, if_neg (ensureRequiredValue_eq_ok h)]
      left
      simp [queryText, searchParams]

end JavaScript

namespace Kotlin

open AppAudit.KotlinRecorder (isNotBlank)

/-- What is written for a value is read as the value without lone surrogates. -/
theorem encodePathValue_spec (value : JsString) :
    Encodes (encodePathValue value) (replaceLone 63 value) ∧
      QueryValue (encodePathValue value) (replaceLone 63 value) := by
  have hscalars : ∀ c ∈ scalars 63 value, Scalar c := scalar_of_mem_scalars (by decide)
  have hspace : lit "%20" = percent 32 := by decide
  rw [encodePathValue, urlEncode, hspace,
    replaceUnit_formPoints keepsPath_urlKept.ascii (by decide) (by decide) hscalars]
  exact ⟨encodes_escapePoints keepsPath_urlKept hscalars,
    queryValue_escapePoints keepsPath_urlKept hscalars⟩

theorem ne_nil_of_isNotBlank {value : JsString} (h : isNotBlank value = true) : value ≠ [] := by
  rintro rfl
  exact Bool.noConfusion h

theorem require_eq_ok {condition : Bool} {message : JsString}
    (h : require condition message = .ok ()) : condition = true := by
  rw [require] at h
  split at h
  next hcondition => exact hcondition
  next => cases h

theorem isQuery_querySuffix (clientId : Option JsString) :
    IsQuery (querySuffix clientId) (queryText (clientId.toList.map fun value =>
      (lit "clientId", encodePathValue value))) := by
  cases clientId with
  | none => exact .inr ⟨rfl, rfl⟩
  | some value =>
      have hname : lit "?clientId=" = 63 :: (lit "clientId" ++ [61]) := by decide
      left
      rw [querySuffix, hname]
      simp [queryText]

end Kotlin

/-! ## Calls arrive -/

/-- An argument of a caller, by the query behind the path. -/
theorem clientId_eq (clientId : Option JsString) {encode change : JsString → JsString}
    (h : ∀ value, clientId = some value → QueryValue (encode value) (change value)) :
    35 ∉ queryText (clientId.toList.map fun value => (lit "clientId", encode value)) ∧
      queryValue (queryEscape (queryText
        (clientId.toList.map fun value => (lit "clientId", encode value)))) (lit "clientId") =
          clientId.map change ∧
      (∀ field ∈ clientId.toList.map fun value => (lit "clientId", encode value),
        PlainName field.1) ∧
      List.Forall₂ (fun field text => QueryValue field.2 text)
        (clientId.toList.map fun value => (lit "clientId", encode value))
        (clientId.toList.map change) := by
  cases clientId with
  | none =>
      refine ⟨List.not_mem_nil, ?_, by simp, .nil⟩
      exact queryValue_queryText (by decide) (by simp) (by simp)
  | some value =>
      have hvalue := h value rfl
      refine ⟨?_, ?_, by simpa using plainName_fields.2, .cons hvalue .nil⟩
      · exact notMem_queryText (by simpa using plainName_fields.2) (by simpa using hvalue.hash)
      · rw [Option.toList_some, List.map_singleton, queryValue_queryText (by decide)
          (by simpa using plainName_fields.2) (by simpa using hvalue.ampersand)]
        simp [hvalue.decoded]

/-- The body of the JavaScript caller on arrival. -/
theorem JavaScript.body_eq {payload : JavaScript.Value} (hjson : payload.IsJson)
    (timeoutSeconds : Option JavaScript.JsNumber) :
    (JavaScript.Value.stringify (.object true (bodyFields payload timeoutSeconds))).bind
        JavaScript.parse =
      some (JavaScript.Value.object true (bodyFields payload timeoutSeconds)).settled := by
  have hbody : (JavaScript.Value.object true (bodyFields payload timeoutSeconds)).IsJson := by
    rw [JavaScript.Value.IsJson, JavaScript.Value.isJsonFields_iff, bodyFields]
    refine ⟨rfl, ?_, ?_⟩
    · cases timeoutSeconds with
      | none => simp [JavaScript.Ordered]
      | some n =>
          simp only [Option.toList_some, List.map_cons, List.map_nil, JavaScript.Ordered,
            List.pairwise_cons, List.mem_singleton, forall_eq, List.not_mem_nil, false_implies,
            implies_true, List.Pairwise.nil, and_true]
          decide
    · intro field hfield
      rcases List.mem_cons.mp hfield with rfl | hfield
      · exact hjson
      · rcases List.mem_map.mp hfield with ⟨n, -, rfl⟩
        simp [JavaScript.Value.IsJson]
  rcases JavaScript.Value.parse_stringify hbody with ⟨text, htext, hparse⟩
  rw [htext, Option.bind_some, hparse]

/-- A question about devices arrives with its names, unless the scan finds a NUL in one of them. -/
theorem lookups_received {mount : List JsString} (hmount : Mount mount) (parsed : Bool) :
    (∀ (baseUrl project : JsString) (request : HttpRequest),
      JavaScript.stripSlash baseUrl = pathText mount →
      JavaScript.listOnlineDevices baseUrl project = .ok request →
        queued parsed mount request =
          if nulFree project then some ⟨some project, none⟩ else none) ∧
    (∀ (baseUrl project clientId : JsString) (request : HttpRequest),
      JavaScript.stripSlash baseUrl = pathText mount →
      JavaScript.isDeviceOnline baseUrl project clientId = .ok request →
        queued parsed mount request =
          if nulFree project && nulFree clientId then some ⟨some project, some clientId⟩
          else none) ∧
    (∀ (baseUrl project : JsString) (request : HttpRequest),
      Kotlin.trimEnd baseUrl = pathText mount →
      Kotlin.listOnlineDevices baseUrl project = .ok request →
        queued parsed mount request =
          if nulFree project then some ⟨some (replaceLone 63 project), none⟩ else none) ∧
    (∀ (baseUrl project clientId : JsString) (request : HttpRequest),
      Kotlin.trimEnd baseUrl = pathText mount →
      Kotlin.isDeviceOnline baseUrl project clientId = .ok request →
        queued parsed mount request =
          if nulFree project && nulFree clientId then
            some ⟨some (replaceLone 63 project), some (replaceLone 63 clientId)⟩
          else none) := by
  have hfirst : lit "/rpc/clientQueue?project=" =
      lit "/rpc/clientQueue" ++ 63 :: (lit "project" ++ [61]) := by decide
  have hsecond : lit "&clientId=" = 38 :: (lit "clientId" ++ [61]) := by decide
  refine ⟨?_, ?_, ?_, ?_⟩
  · intro baseUrl project request hbase h
    rw [JavaScript.listOnlineDevices] at h
    obtain ⟨_, -, h⟩ := bind_eq_ok.mp h
    obtain ⟨encoded, hencoded, h⟩ := bind_eq_ok.mp h
    obtain rfl := Except.ok.inj h
    rw [hbase, hfirst]
    have hqueued := queued_project hmount parsed (JavaScript.encodeURIComponent_eq_ok hencoded).2
    simpa [queryText] using hqueued
  · intro baseUrl project clientId request hbase h
    rw [JavaScript.isDeviceOnline] at h
    obtain ⟨_, -, h⟩ := bind_eq_ok.mp h
    obtain ⟨_, -, h⟩ := bind_eq_ok.mp h
    obtain ⟨encoded, hencoded, h⟩ := bind_eq_ok.mp h
    obtain ⟨encodedClientId, hencodedClientId, h⟩ := bind_eq_ok.mp h
    obtain rfl := Except.ok.inj h
    rw [hbase, hfirst, hsecond]
    have hqueued := queued_device hmount parsed (JavaScript.encodeURIComponent_eq_ok hencoded).2
      (JavaScript.encodeURIComponent_eq_ok hencodedClientId).2
    simpa [queryText, List.intercalate_cons_cons] using hqueued
  · intro baseUrl project request hbase h
    rw [Kotlin.listOnlineDevices] at h
    obtain ⟨_, -, h⟩ := bind_eq_ok.mp h
    obtain rfl := Except.ok.inj h
    rw [hbase, hfirst]
    have hqueued := queued_project hmount parsed (Kotlin.encodePathValue_spec project).2
    rw [nulFree_replaceLone (by decide) (by decide)] at hqueued
    simpa [queryText] using hqueued
  · intro baseUrl project clientId request hbase h
    rw [Kotlin.isDeviceOnline] at h
    obtain ⟨_, -, h⟩ := bind_eq_ok.mp h
    obtain ⟨_, -, h⟩ := bind_eq_ok.mp h
    obtain rfl := Except.ok.inj h
    rw [hbase, hfirst, hsecond]
    have hqueued := queued_device hmount parsed (Kotlin.encodePathValue_spec project).2
      (Kotlin.encodePathValue_spec clientId).2
    rw [nulFree_replaceLone (by decide) (by decide),
      nulFree_replaceLone (by decide) (by decide)] at hqueued
    simpa [queryText, List.intercalate_cons_cons] using hqueued

/-- Names with signs of a query arrive, and a name with a NUL does not. -/
theorem lookups_received_device :
    (∃ request, Kotlin.isDeviceOnline (lit "/api/") (lit "it's +1") (lit "a=b&c") = .ok request ∧
      queued true [lit "api"] request = some ⟨some (lit "it's +1"), some (lit "a=b&c")⟩) ∧
    ∃ request, Kotlin.isDeviceOnline (lit "/api/") (lit "it's +1") [97, 0] = .ok request ∧
      queued true [lit "api"] request = none := by
  have hmount : Mount [lit "api"] := by constructor <;> decide
  have hproject : replaceLone 63 (lit "it's +1") = lit "it's +1" := by decide
  have hclient : replaceLone 63 (lit "a=b&c") = lit "a=b&c" := by decide
  have hsent : ∀ clientId, clientId = lit "a=b&c" ∨ clientId = [97, 0] →
      ∃ request, Kotlin.isDeviceOnline (lit "/api/") (lit "it's +1") clientId = .ok request := by
    rintro clientId (rfl | rfl) <;> exact ⟨_, rfl⟩
  rcases hsent (lit "a=b&c") (.inl rfl) with ⟨request, hrequest⟩
  rcases hsent [97, 0] (.inr rfl) with ⟨withNul, hwithNul⟩
  refine ⟨⟨request, hrequest, ?_⟩, withNul, hwithNul, ?_⟩
  · rw [(lookups_received hmount true).2.2.2 _ _ _ _ (by decide) hrequest, if_pos (by decide),
      hproject, hclient]
  · rw [(lookups_received hmount true).2.2.2 _ _ _ _ (by decide) hwithNul, if_neg (by decide)]

end Callers
end R2RPC
