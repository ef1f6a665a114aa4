import R2RPC.Library.JavaScript

/-!
# System audit entries

What {lit}`buildSystemAuditEntry` makes of a request, the declared fields of its
{lit}`SystemAuditDefinition` and the answer of the handler.

Main results:

- Definition {lit}`buildSystemAuditEntry`: one row for {lit}`system_logs`.
- Definition {lit}`safeMetadataValue`: what a declared field may bring into it.
- Definition {lit}`actorIdentity`: whom the row names when no guard has set a user.

Current gaps:

- Headers other than the two that are read, and what guards hang on a request beside its
  user, are opaque.
- A user id and a status code are integers.
-/

namespace R2RPC
namespace Audit

open Utf16 JavaScript

/-- `SystemAuditDefinition`.  The subject and the target type of a definition that
inference takes from an inherited key are missing. -/
structure SystemAuditDefinition where
  name : JsString
  action : JsString
  subject : Option JsString
  targetType : Option JsString
  actorUsernameBodyField : Option JsString := none
  actorUserIdResponsePath : Option JsString := none
  actorUsernameResponsePath : Option JsString := none
  targetParameter : Option JsString := none
  targetNameField : Option JsString := none
  targetResponseField : Option JsString := none
  metadataParameters : List JsString := []
  metadataBodyFields : List JsString := []
  metadataQueryFields : List JsString := []
deriving DecidableEq

/-- A header: one line, or several. -/
inductive Header where
  | one (text : JsString)
  | many (texts : List JsString)
deriving DecidableEq

/-- The part of `AuthenticatedUser` that is recorded. -/
structure AuthenticatedUser where
  id : Int
  username : JsString
deriving DecidableEq

/-- `AuthedRequest`; parameters and query are objects without a prototype. -/
structure AuthedRequest where
  body : Value
  headers : List (JsString × Header)
  ip : Option JsString
  method : JsString
  originalUrl : JsString
  params : Fields
  query : Fields
  remoteAddress : Option JsString
  user : Option AuthenticatedUser

namespace AuthedRequest

/-- `request.headers[name]`. -/
def header (request : AuthedRequest) (name : JsString) : Option Header :=
  (request.headers.find? (·.1 == name)).map (·.2)

/-- `request.originalUrl.split('?')[0]`. -/
def path (request : AuthedRequest) : JsString :=
  (split 63 request.originalUrl).headD request.originalUrl

end AuthedRequest

/-- `SystemLogStatus`. -/
inductive SystemLogStatus where
  | succeeded
  | failed
deriving DecidableEq, Repr

/-- The text of a status. -/
def SystemLogStatus.text : SystemLogStatus → JsString
  | .succeeded => lit "succeeded"
  | .failed => lit "failed"

/-- `CreateSystemLogInput`. -/
structure CreateSystemLogInput where
  name : JsString
  description : JsString
  actorUserId : Int
  actorUsername : JsString
  action : JsString
  subject : Option JsString
  targetType : Option JsString
  targetId : Option JsString
  targetName : Option JsString
  metadata : Fields
  method : JsString
  route : JsString
  status : SystemLogStatus
  statusCode : Int
  errorMessage : Option JsString
  ipAddress : Option JsString
  userAgent : Option JsString

/-- `BuildSystemAuditEntryInput`. -/
structure BuildSystemAuditEntryInput where
  definition : SystemAuditDefinition
  request : AuthedRequest
  responseBody : Value := .undefined
  status : SystemLogStatus
  statusCode : Int
  errorMessage : Option JsString := none

/-! ## Reading -/

/-- `readObjectField`. -/
def readObjectField (input : Value) (fieldName : Option JsString) : Value :=
  match fieldName with
  | none => .undefined
  | some fieldName =>
      if fieldName = [] || !input.isObject then .undefined else input.get fieldName

/-- The loop of `readObjectPath`. -/
def readFieldNames (input : Value) : List JsString → Value
  | [] => input
  | fieldName :: fieldNames =>
      let value := readObjectField input (some fieldName)
      if value.isUndefined then .undefined else readFieldNames value fieldNames

/-- `readObjectPath`. -/
def readObjectPath (input : Value) (fieldPath : Option JsString) : Value :=
  match fieldPath with
  | none => .undefined
  | some fieldPath => if fieldPath = [] then .undefined else readFieldNames input (split 46 fieldPath)

/-- `toIdentifier`. -/
def toIdentifier : Value → Option JsString
  | .string text => if text = [] then none else some (text.take 128)
  | .number value => if value.isFinite then some value.text else none
  | _ => none

mutual

/-- `safeMetadataValue`. -/
def safeMetadataValue : Value → Option Value
  | .string text => some (.string (text.take 512))
  | .number value => some (.number value)
  | .boolean value => some (.boolean value)
  | .null => some .null
  | .array elements =>
      let safeValues := safeMetadataValues elements
      if safeValues.length = elements.length then some (.array safeValues) else none
  | _ => none

/-- The elements of an array that are safe. -/
def safeMetadataValues : List Value → List Value
  | [] => []
  | element :: elements => (safeMetadataValue element).toList ++ safeMetadataValues elements

end

/-- One loop of `collectMetadata`. -/
def collectFields (read : JsString → Value) (fieldNames : List JsString) (metadata : Fields) :
    Fields :=
  fieldNames.foldl
    (fun metadata fieldName =>
      match safeMetadataValue (read fieldName) with
      | some value => assignField metadata fieldName value
      | none => metadata)
    metadata

/-- `collectMetadata`. -/
def collectMetadata (definition : SystemAuditDefinition) (request : AuthedRequest) : Fields :=
  let parameters := collectFields
    (fun fieldName => readObjectField (.object false request.params) (some fieldName))
    definition.metadataParameters []
  let body := collectFields (fun fieldName => readObjectField request.body (some fieldName))
    definition.metadataBodyFields parameters
  collectFields (fun fieldName => readObjectField (.object false request.query) (some fieldName))
    definition.metadataQueryFields body

/-! ## Rendering -/

/-- `formatMetadata`. -/
def formatMetadata (metadata : Fields) : JsString :=
  if metadata = [] then []
  else
    lit " (" ++
      List.intercalate (lit ", ")
        (metadata.map fun entry =>
          entry.1 ++ 61 :: (entry.2.stringify.getD (lit "undefined"))) ++
      lit ")"

/-- `buildDescription`. -/
def buildDescription (actorUsername : JsString) (definition : SystemAuditDefinition)
    (targetId targetName : Option JsString) (metadata : Fields) (status : SystemLogStatus) :
    JsString :=
  let target := targetName.or targetId
  let targetText := match target with
    | none => []
    | some target => if target = [] then [] else 32 :: target
  let statusText := if status = .failed then lit " [失败]" else []
  (actorUsername ++ 32 :: (definition.name ++ targetText ++ formatMetadata metadata ++
    statusText)).take 1024

/-- `forwardedAddress`. -/
def forwardedAddress (request : AuthedRequest) : Option JsString :=
  let forwardedValue := match request.header (lit "x-forwarded-for") with
    | none => none
    | some (.one text) => some text
    | some (.many texts) => texts.head?
  ((forwardedValue.bind fun text => (split 44 text).head?).map trim).or
    (request.ip.or request.remoteAddress)

/-- `resolveTargetId`. -/
def resolveTargetId (definition : SystemAuditDefinition) (request : AuthedRequest)
    (responseBody : Value) : Option JsString :=
  (toIdentifier (readObjectField (.object false request.params) definition.targetParameter)).or
    (toIdentifier (readObjectField responseBody definition.targetResponseField))

/-- `resolveTargetName`. -/
def resolveTargetName (definition : SystemAuditDefinition) (request : AuthedRequest)
    (responseBody : Value) : Option JsString :=
  (toIdentifier (readObjectField request.body definition.targetNameField)).or
    (toIdentifier (readObjectField responseBody definition.targetNameField))

/-- `userAgentOf`. -/
def userAgentOf (request : AuthedRequest) : Option JsString :=
  match request.header (lit "user-agent") with
  | some (.one text) => some (text.take 512)
  | _ => none

/-- A positive integer, or zero. -/
def positiveId : Value → Int
  | .number value =>
      match value.toInt with
      | some id => if 0 < id then id else 0
      | none => 0
  | _ => 0

/-- `actorIdentity`. -/
def actorIdentity (definition : SystemAuditDefinition) (request : AuthedRequest)
    (responseBody : Value) : Int × JsString :=
  let responseUserId := readObjectPath responseBody definition.actorUserIdResponsePath
  let responseUsername :=
    toIdentifier (readObjectPath responseBody definition.actorUsernameResponsePath)
  let bodyUsername := toIdentifier (readObjectField request.body definition.actorUsernameBodyField)
  match request.user with
  | some user => (user.id, user.username)
  | none =>
      (positiveId responseUserId, (responseUsername.or bodyUsername).getD (lit "anonymous"))

/-- `buildSystemAuditEntry`. -/
def buildSystemAuditEntry (input : BuildSystemAuditEntryInput) : CreateSystemLogInput :=
  let targetId := resolveTargetId input.definition input.request input.responseBody
  let targetName := resolveTargetName input.definition input.request input.responseBody
  let metadata := collectMetadata input.definition input.request
  let actor := actorIdentity input.definition input.request input.responseBody
  { name := input.definition.name
    description :=
      buildDescription actor.2 input.definition targetId targetName metadata input.status
    actorUserId := actor.1
    actorUsername := actor.2
    action := input.definition.action
    subject := input.definition.subject
    targetType := input.definition.targetType
    targetId
    targetName
    metadata
    method := input.request.method
    route := input.request.path
    status := input.status
    statusCode := input.statusCode
    errorMessage := input.errorMessage.map (·.take 1024)
    ipAddress := forwardedAddress input.request
    userAgent := userAgentOf input.request }

end Audit
end R2RPC
