import R2RPC.Callers.Requests
import R2RPC.Gateway.Store
import R2RPC.Library.JsonTree
import R2RPC.Library.Numerals

/-!
# What a device tells the gateway

The device SDKs write their token, their name and what they declare into the query of the
WebSocket's URL, each with its own encoder, and the gateway takes them out again.

Main results:

- Definitions {lit}`JavaScript.connect`, {lit}`Kotlin.connect`: the queries of the devices.
- Definition {lit}`handshake`: what {lit}`authenticate` reads.
- Theorem {lit}`handshake_received`: the gateway reads what the device was given.

Current gaps:

- The check of the token, the address of the peer, and the path of the URL.
-/

namespace R2RPC
namespace Callers

open Utf16 Binary PercentEncoding

/-! ## The gateway -/

/-- What `authenticate` takes from a URL. -/
structure Handshake where
  token : JsString
  clientId : JsString
  platform : Option JsString
  extra : Option JsString
  maxInFlight : Nat
deriving DecidableEq

/-- A declared capacity, as `Number` reads it. -/
def reportedMaximum : Option JsString → Gateway.ReportedMaximum
  | none => .missing
  | some text =>
      if text = [] then .missing
      else
        match (Numerals.toNumber binary64 text).toInt with
        | some n => .integer n
        | none => .other

example : (["1e3", " 5 ", "+7", "0b11", "5.5"].map fun text => reportedMaximum (some (lit text))) =
    [.integer 1000, .integer 5, .integer 7, .integer 3, .other] := by decide +kernel

/-- The part of `authenticate` in front of the check of the token. -/
def handshake (query : JsString) : Option Handshake :=
  match queryValue query (lit "token"), queryValue query (lit "clientId") with
  | some token, some clientId =>
      if token = [] ∨ clientId = [] then none
      else
        some
          { token, clientId
            platform := queryValue query (lit "platform")
            extra := queryValue query (lit "extra")
            maxInFlight :=
              Gateway.clampMaxInFlight (reportedMaximum (queryValue query (lit "maxInFlight"))) }
  | _, _ => none

/-! ## The devices -/

/-- A field that may be left out. -/
def optionalField (name : JsString) (value : Option JsString) : List (JsString × JsString) :=
  value.toList.map (name, ·)

namespace JavaScript

/-- Options of the device that the URL is made of. -/
structure DeviceOptions where
  deviceToken : JsString
  clientId : JsString
  platform : Option JsString
  extra : Option JavaScript.Value
  maxInFlight : Option JavaScript.JsNumber

/-- `ensureIntegerInRange`. -/
def ensureIntegerInRange (name : JsString) (value : JavaScript.JsNumber)
    (minimum maximum : Int) : Except Thrown Unit :=
  if value.toInt.any fun k => minimum ≤ k && k ≤ maximum then .ok ()
  else .error (.rangeError (name ++ lit " 必须是 " ++ (ofInteger binary64 minimum).text ++ lit "～" ++
    (ofInteger binary64 maximum).text ++ lit " 的整数"))

/-- `options.maxInFlight ?? DEFAULT_IN_FLIGHT_CAPACITY`. -/
def DeviceOptions.maximumInFlight (options : DeviceOptions) : JavaScript.JsNumber :=
  options.maxInFlight.getD (ofInteger binary64 16)

/-- `extra` as it is set: what JSON leaves out is set as the text of `undefined`. -/
def DeviceOptions.extraText (options : DeviceOptions) : Option JsString :=
  match options.extra with
  | none | some .undefined => none
  | some extra => some (extra.stringify.getD (lit "undefined"))

/-- The fields that `buildWebSocketUrl` sets: an empty platform is left out. -/
def DeviceOptions.fields (options : DeviceOptions) : List (JsString × JsString) :=
  [(lit "token", options.deviceToken), (lit "clientId", options.clientId)] ++
    optionalField (lit "platform") (options.platform.filter (· ≠ [])) ++
    optionalField (lit "extra") options.extraText ++
    [(lit "maxInFlight", options.maximumInFlight.text)]

/-- The constructor's checks, and the query of `buildWebSocketUrl`. -/
def connect (options : DeviceOptions) : Except Thrown JsString := do
  ensureRequiredValue (lit "deviceToken") options.deviceToken
  ensureRequiredValue (lit "clientId") options.clientId
  ensureIntegerInRange (lit "maxInFlight") options.maximumInFlight 1 1024
  return queryText (options.fields.map fun field =>
    (field.1, formPoints formKept (scalars 0xFFFD field.2)))

end JavaScript

namespace Kotlin

open AppAudit.KotlinRecorder (isNotBlank)

/-- Options of the device that the URL is made of; `extra` as it is printed. -/
structure DeviceOptions where
  deviceToken : JsString
  clientId : JsString
  platform : Option JsString
  extra : Option JsString
  maxInFlight : Int32

/-- What `addQueryParameter` keeps. -/
def componentKept (c : Nat) : Bool := alphanumeric c || [42, 45, 46, 95].contains c

/-- The fields of `buildWebSocketUrl`. -/
def DeviceOptions.fields (options : DeviceOptions) : List (JsString × JsString) :=
  [(lit "token", options.deviceToken), (lit "clientId", options.clientId),
    (lit "maxInFlight", decimal options.maxInFlight.toInt.toNat)] ++
    optionalField (lit "platform") options.platform ++ optionalField (lit "extra") options.extra

/-- The constructor's checks, and the query of `buildWebSocketUrl`. -/
def connect (options : DeviceOptions) : Except Thrown JsString := do
  require (isNotBlank options.deviceToken) (lit "deviceToken 不能为空")
  require (isNotBlank options.clientId) (lit "clientId 不能为空")
  require (1 ≤ options.maxInFlight && options.maxInFlight ≤ 1024)
    (lit "maxInFlight 必须是 1～1024 的整数")
  return queryText (options.fields.map fun field =>
    (field.1, escapePoints componentKept (scalars 63 field.2)))

end Kotlin

/-! ## What arrives -/

/-- The names of the fields of a handshake. -/
def handshakeNames : List JsString :=
  [lit "token", lit "clientId", lit "platform", lit "extra", lit "maxInFlight"]

theorem handshakeNames_ne :
    (lit "token" ≠ lit "clientId" ∧ lit "token" ≠ lit "platform" ∧ lit "token" ≠ lit "extra" ∧
      lit "token" ≠ lit "maxInFlight") ∧
    (lit "clientId" ≠ lit "platform" ∧ lit "clientId" ≠ lit "extra" ∧
      lit "clientId" ≠ lit "maxInFlight") ∧
    (lit "platform" ≠ lit "extra" ∧ lit "platform" ≠ lit "maxInFlight") ∧
    lit "extra" ≠ lit "platform" ∧ lit "extra" ≠ lit "maxInFlight" ∧
    lit "maxInFlight" ≠ lit "platform" ∧ lit "maxInFlight" ≠ lit "extra" := by
  decide

theorem plainName_handshake : ∀ name ∈ handshakeNames, PlainName name := by
  simp only [handshakeNames, List.forall_mem_cons]
  exact ⟨⟨by decide, by decide +kernel⟩, ⟨by decide, by decide +kernel⟩,
    ⟨by decide, by decide +kernel⟩, ⟨by decide, by decide +kernel⟩,
    ⟨by decide, by decide +kernel⟩, by simp⟩

/-- The value of a field of this name. -/
def field (fields : List (JsString × JsString)) (name : JsString) : Option JsString :=
  (fields.find? (·.1 == name)).map (·.2)

/-- Fields of the handshake, each of them encoded. -/
theorem queryValue_fields {fields : List (JsString × JsString)} {encode change : JsString → JsString}
    (hencode : ∀ value, QueryValue (encode value) (change value))
    (hnames : ∀ field ∈ fields, field.1 ∈ handshakeNames) {name : JsString} (hname : name ≠ []) :
    queryValue (queryEscape (queryText (fields.map fun field => (field.1, encode field.2)))) name =
      (field fields name).map change := by
  have hencoded : ∀ field ∈ fields.map fun field => (field.1, encode field.2),
      PlainName field.1 ∧ 38 ∉ queryEscape field.2 := by
    intro field hfield
    rcases List.mem_map.mp hfield with ⟨plain, hplain, rfl⟩
    exact ⟨plainName_handshake plain.1 (hnames plain hplain), (hencode plain.2).ampersand⟩
  rw [queryValue_queryText hname (fun field hfield => (hencoded field hfield).1)
    (fun field hfield => (hencoded field hfield).2), List.find?_map, field]
  change Option.bind (Option.map _ (List.find? (fun field => field.1 == name) fields)) _ = _
  cases fields.find? (fun field => field.1 == name) with
  | none => rfl
  | some field => exact (hencode field.2).decoded

/-- A capacity in the range of the devices is taken as it is. -/
theorem clampMaxInFlight_text {text : JsString} {n : Nat} (hread : readInteger text = some n)
    (hpos : 1 ≤ n) (hle : n ≤ 1024) :
    Gateway.clampMaxInFlight (reportedMaximum (some text)) = n := by
  have hne : text ≠ [] := by
    rintro rfl
    cases hread
  have hnumber : (Numerals.toNumber binary64 text).toInt = some (n : Int) := by
    have hprecision : (2 : Nat) ^ binary64.precision = 9007199254740992 := by decide
    rw [Numerals.toNumber_readInteger hread]
    exact toInt_ofDecimal (by omega) (by decide)
  have hlow : ¬ (n : Int) < (Gateway.minimumInFlightCapacity : Int) := by
    rw [Gateway.minimumInFlightCapacity]
    omega
  rw [reportedMaximum, if_neg hne, hnumber, Gateway.clampMaxInFlight, if_neg hlow, Int.toNat_natCast,
    Gateway.maximumInFlightCapacity]
  omega

/-- A handshake whose fields are encoded, whatever their order. -/
theorem handshake_fields {fields : List (JsString × JsString)} {encode change : JsString → JsString}
    (hencode : ∀ value, QueryValue (encode value) (change value))
    (hnames : ∀ field ∈ fields, field.1 ∈ handshakeNames) {token clientId maximum : JsString} {n : Nat}
    (htoken : field fields (lit "token") = some token) (htokenNe : change token ≠ [])
    (hclient : field fields (lit "clientId") = some clientId) (hclientNe : change clientId ≠ [])
    (hmaximum : field fields (lit "maxInFlight") = some maximum)
    (hread : readInteger (change maximum) = some n) (hpos : 1 ≤ n) (hle : n ≤ 1024) :
    handshake (queryEscape (queryText (fields.map fun field => (field.1, encode field.2)))) =
      some
        { token := change token, clientId := change clientId
          platform := (field fields (lit "platform")).map change
          extra := (field fields (lit "extra")).map change
          maxInFlight := n } := by
  have hvalue : ∀ name ∈ handshakeNames,
      queryValue (queryEscape (queryText (fields.map fun field => (field.1, encode field.2)))) name =
        (field fields name).map change := by
    have hne : ∀ name ∈ handshakeNames, name ≠ [] := by decide
    exact fun name hname => queryValue_fields hencode hnames (hne name hname)
  rw [handshake, hvalue _ (by decide), hvalue _ (by decide), hvalue _ (by decide),
    hvalue _ (by decide), hvalue _ (by decide), htoken, hclient, hmaximum]
  simp only [Option.map_some]
  rw [if_neg (not_or.mpr ⟨htokenNe, hclientNe⟩), clampMaxInFlight_text hread hpos hle]

/-! ## The devices connect -/

/-- A positive number in plain digits. -/
theorem readInteger_decimal {n : Nat} (h : 0 < n) : readInteger (decimal n) = some n := by
  rw [readInteger, if_pos ⟨decimal_ne_nil n, fun _ => isDigit_of_mem_decimal, decimal_head h⟩,
    digitsValue_decimal]

/-- Plain digits have no lone surrogates. -/
theorem replaceLone_readInteger {text : JsString} {n : Nat} (h : readInteger text = some n)
    (replacement : Nat) : replaceLone replacement text = text := by
  refine replaceLone_of_wellFormed (wellFormed_of_plain ?_) replacement
  rw [readInteger] at h
  split at h
  next hdigits =>
    intro unit hunit
    have hdigit := hdigits.2.1 unit hunit
    refine JavaScript.not_isHalf_of_lt ?_
    simp only [isDigit, Bool.and_eq_true, decide_eq_true_eq, UInt16.le_iff_toNat_le] at hdigit
    rw [UInt16.lt_iff_toNat_lt]
    exact lt_of_le_of_lt hdigit.2 (by decide)
  next => cases h

namespace JavaScript

/-- The names that the device sets, and the values. -/
theorem fields_spec (options : DeviceOptions) :
    (∀ field ∈ options.fields, field.1 ∈ handshakeNames) ∧
      field options.fields (lit "token") = some options.deviceToken ∧
      field options.fields (lit "clientId") = some options.clientId ∧
      field options.fields (lit "platform") = options.platform.filter (· ≠ []) ∧
      field options.fields (lit "extra") = options.extraText ∧
      field options.fields (lit "maxInFlight") = some options.maximumInFlight.text := by
  rw [DeviceOptions.fields]
  generalize options.platform.filter (· ≠ []) = platform
  generalize options.extraText = extra
  cases platform <;> cases extra <;>
    simp [optionalField, field, handshakeNames, handshakeNames_ne]

theorem ensureIntegerInRange_eq_ok {name : JsString} {value : JavaScript.JsNumber}
    {minimum maximum : Int} (h : ensureIntegerInRange name value minimum maximum = .ok ()) :
    ∃ k, value.toInt = some k ∧ minimum ≤ k ∧ k ≤ maximum := by
  rw [ensureIntegerInRange] at h
  split at h
  next hrange =>
    rcases (Option.any_eq_true _ _).mp hrange with ⟨k, hk, hrange⟩
    rw [Bool.and_eq_true, decide_eq_true_eq, decide_eq_true_eq] at hrange
    exact ⟨k, hk, hrange⟩
  next => cases h

end JavaScript

namespace Kotlin

open AppAudit.KotlinRecorder (isNotBlank)

theorem keepsPath_componentKept : KeepsPath componentKept where
  ascii := by
    intro c hc
    simp [componentKept, alphanumeric] at hc
    omega
  dot := by decide
  separators := by decide

/-- The names that the device adds, and the values. -/
theorem fields_spec (options : DeviceOptions) :
    (∀ field ∈ options.fields, field.1 ∈ handshakeNames) ∧
      field options.fields (lit "token") = some options.deviceToken ∧
      field options.fields (lit "clientId") = some options.clientId ∧
      field options.fields (lit "platform") = options.platform ∧
      field options.fields (lit "extra") = options.extra ∧
      field options.fields (lit "maxInFlight") =
        some (decimal options.maxInFlight.toInt.toNat) := by
  rw [DeviceOptions.fields]
  cases options.platform <;> cases options.extra <;>
    simp [optionalField, field, handshakeNames, handshakeNames_ne]

end Kotlin

/-- The gateway reads what a device was given: its token, its name, what it says about itself, and
the number of calls that it takes at once, as the integer that it was declared as. Lone surrogates
are replaced. -/
theorem handshake_received :
    (∀ (options : JavaScript.DeviceOptions) (query : JsString),
      JavaScript.connect options = .ok query →
        ∃ n : Nat, options.maximumInFlight.toInt = some (n : Int) ∧ 1 ≤ n ∧ n ≤ 1024 ∧
          handshake (queryEscape query) =
            some
              { token := replaceLone 0xFFFD options.deviceToken
                clientId := replaceLone 0xFFFD options.clientId
                platform := (options.platform.filter (· ≠ [])).map (replaceLone 0xFFFD)
                extra := options.extraText.map (replaceLone 0xFFFD)
                maxInFlight := n }) ∧
    (∀ (options : Kotlin.DeviceOptions) (query : JsString),
      Kotlin.connect options = .ok query →
        ∃ n : Nat, options.maxInFlight.toInt = (n : Int) ∧ 1 ≤ n ∧ n ≤ 1024 ∧
          handshake (queryEscape query) =
            some
              { token := replaceLone 63 options.deviceToken
                clientId := replaceLone 63 options.clientId
                platform := options.platform.map (replaceLone 63)
                extra := options.extra.map (replaceLone 63)
                maxInFlight := n }) := by
  constructor
  · intro options query h
    rw [JavaScript.connect] at h
    obtain ⟨_, htoken, h⟩ := bind_eq_ok.mp h
    obtain ⟨_, hclient, h⟩ := bind_eq_ok.mp h
    obtain ⟨_, hrange, h⟩ := bind_eq_ok.mp h
    obtain rfl := Except.ok.inj h
    obtain ⟨k, hk, hlow, hhigh⟩ := JavaScript.ensureIntegerInRange_eq_ok hrange
    lift k to Nat using by omega with n
    have hprecision : (2 : Nat) ^ binary64.precision = 9007199254740992 := by decide
    have hread : readInteger options.maximumInFlight.text = some n :=
      text_integer hk (by omega) (by rw [hprecision]; omega) binary64_roomy (by decide)
        (by rw [hprecision]; decide)
    obtain ⟨hnames, hfieldToken, hfieldClient, hplatform, hextra, hmaximum⟩ :=
      JavaScript.fields_spec options
    refine ⟨n, hk, by omega, by omega, ?_⟩
    rw [handshake_fields queryValue_formPoints hnames hfieldToken
      (replaceLone_ne_nil (JavaScript.ensureRequiredValue_eq_ok htoken) 0xFFFD) hfieldClient
      (replaceLone_ne_nil (JavaScript.ensureRequiredValue_eq_ok hclient) 0xFFFD) hmaximum
      (by rwa [replaceLone_readInteger hread]) (by omega) (by omega), hplatform, hextra]
  · intro options query h
    rw [Kotlin.connect] at h
    obtain ⟨_, htoken, h⟩ := bind_eq_ok.mp h
    obtain ⟨_, hclient, h⟩ := bind_eq_ok.mp h
    obtain ⟨_, hrange, h⟩ := bind_eq_ok.mp h
    obtain rfl := Except.ok.inj h
    have hrange := Kotlin.require_eq_ok hrange
    rw [Bool.and_eq_true, decide_eq_true_eq, decide_eq_true_eq, Int32.le_iff_toInt_le,
      Int32.le_iff_toInt_le] at hrange
    have hone : (1 : Int32).toInt = 1 := by decide
    have hmany : (1024 : Int32).toInt = 1024 := by decide
    obtain ⟨n, hn⟩ := Int.eq_ofNat_of_zero_le (show 0 ≤ options.maxInFlight.toInt by omega)
    obtain ⟨hnames, hfieldToken, hfieldClient, hplatform, hextra, hmaximum⟩ :=
      Kotlin.fields_spec options
    have hencode : ∀ value : JsString, QueryValue (escapePoints Kotlin.componentKept
        (scalars 63 value)) (replaceLone 63 value) := fun value =>
      queryValue_escapePoints Kotlin.keepsPath_componentKept
        (scalar_of_mem_scalars (by decide))
    have hread : readInteger (decimal options.maxInFlight.toInt.toNat) = some n := by
      rw [hn, Int.toNat_natCast]
      exact readInteger_decimal (by omega)
    refine ⟨n, hn, by omega, by omega, ?_⟩
    rw [handshake_fields hencode hnames hfieldToken
      (replaceLone_ne_nil (Kotlin.ne_nil_of_isNotBlank (Kotlin.require_eq_ok htoken)) 63)
      hfieldClient
      (replaceLone_ne_nil (Kotlin.ne_nil_of_isNotBlank (Kotlin.require_eq_ok hclient)) 63) hmaximum
      (by rwa [replaceLone_readInteger hread]) (by omega) (by omega), hplatform, hextra]

/-- A device without a platform, with a name that a URL takes apart. -/
theorem handshake_received_named :
    ∃ query, Kotlin.connect ⟨lit "dt+1=", lit "a&b c", none, some (lit "{}"), 16⟩ = .ok query ∧
      handshake (queryEscape query) =
        some ⟨lit "dt+1=", lit "a&b c", none, some (lit "{}"), 16⟩ := by
  have hsent : ∃ query, Kotlin.connect
      ⟨lit "dt+1=", lit "a&b c", none, some (lit "{}"), 16⟩ = .ok query := ⟨_, rfl⟩
  rcases hsent with ⟨query, hsent⟩
  rcases handshake_received.2 _ _ hsent with ⟨n, hn, -, -, hreceived⟩
  have hcount : (16 : Int32).toInt = (16 : Nat) := by decide
  obtain rfl : n = 16 := Int.ofNat.inj (hn.symm.trans hcount)
  refine ⟨query, hsent, hreceived.trans ?_⟩
  decide

end Callers
end R2RPC
