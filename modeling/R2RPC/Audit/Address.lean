import R2RPC.Audit.Entry

/-!
# The recorded client address

The HTTP audit and the WebSocket gateway each read {lit}`X-Forwarded-For` for
themselves.  A request arrives over a chain of trusted proxies, as many as
{lit}`trustedProxyHops` says, each of which appends the address of its peer to whatever
the client wrote.

Main results:

- Theorem {lit}`ipAddress_received`: the HTTP audit takes the first entry of the header.
- Theorem {lit}`recorded_iff`: exactly when both record the address that the outermost
  trusted proxy saw.

Current gaps:

- An address is a text without commas and blanks around it; its syntax is not checked.
-/

namespace R2RPC
namespace Audit

open Utf16 JavaScript

/-- The text of an address. -/
structure Address where
  text : JsString
  nonempty : text ≠ []
  noComma : 44 ∉ text
  trimmed : trim text = text

/-- `IncomingMessage`, as `clientIp` reads it. -/
structure IncomingMessage where
  headers : List (JsString × Header)
  remoteAddress : Option JsString

/-- `value || next`. -/
def orElse (value next : Option JsString) : Option JsString :=
  match value with
  | none => next
  | some text => if text = [] then next else some text

/-- `clientIp` of the gateway. -/
def clientIp (trustedProxyHops : Nat) (request : IncomingMessage) : Option JsString :=
  if trustedProxyHops = 0 then orElse request.remoteAddress none
  else
    let forwardedFor := (request.headers.find? (·.1 == lit "x-forwarded-for")).map (·.2)
    let forwardedAddress := match forwardedFor with
      | none => none
      | some (.one text) => some text
      | some (.many texts) => texts.head?
    orElse ((forwardedAddress.bind fun text => (split 44 text).head?).map trim)
      (orElse request.remoteAddress none)

/-! ## Express -/

/-- Blanks around an entry. -/
def trimBlanks (text : JsString) : JsString :=
  ((text.dropWhile (· == 32)).reverse.dropWhile (· == 32)).reverse

/-- The addresses of a connection, the peer first and then the header from the right;
empty entries are skipped. -/
def forwardedAddresses (peer : JsString) (header : Option JsString) : List JsString :=
  peer :: (((split 44 (header.getD [])).map trimBlanks).filter (· != [])).reverse

/-- `request.ip` with `trust proxy` set to a number of hops. -/
def expressIp (hops : Nat) (peer : JsString) (header : Option JsString) : Option JsString :=
  let addresses := forwardedAddresses peer header
  addresses[min hops (addresses.length - 1)]?

/-! ## A request over trusted proxies -/

/-- A client behind trusted proxies, the outermost first, and the `X-Forwarded-For` that
the client writes. -/
structure Arrival where
  client : Address
  proxies : List Address
  written : Option JsString

/-- A proxy appends the address of its peer. -/
def appendPeer (header : Option JsString) (peer : Address) : Option JsString :=
  match header with
  | none => some peer.text
  | some text => some (text ++ 44 :: 32 :: peer.text)

namespace Arrival

variable (arrival : Arrival)

/-- `app.trustedProxyHops` says how many proxies there are. -/
def trustedProxyHops : Nat := arrival.proxies.length

/-- Who each proxy hears from: the client, then the proxy before it. -/
def peers : List Address := (arrival.client :: arrival.proxies).dropLast

/-- The header as it arrives. -/
def header : Option JsString := arrival.peers.foldl appendPeer arrival.written

/-- Who the API hears from. -/
def peer : Address := arrival.proxies.getLastD arrival.client

/-- The address that the outermost trusted proxy saw, or the peer of a direct client. -/
def seenAddress : JsString := arrival.client.text

/-- The headers of an arriving request, in front of the others. -/
def headers (others : List (JsString × Header)) : List (JsString × Header) :=
  match arrival.header with
  | none => others.filter (·.1 != lit "x-forwarded-for")
  | some text => (lit "x-forwarded-for", .one text) :: others

/-- A request as it arrives. -/
def receive (request : AuthedRequest) : AuthedRequest :=
  { request with
    headers := arrival.headers request.headers
    ip := expressIp arrival.trustedProxyHops arrival.peer.text arrival.header
    remoteAddress := some arrival.peer.text }

/-- `ipAddress` of the audit entry. -/
def ipAddress (input : BuildSystemAuditEntryInput) : Option JsString :=
  (buildSystemAuditEntry { input with request := arrival.receive input.request }).ipAddress

/-- `lastIp` of a device that connects. -/
def lastIp (others : List (JsString × Header)) : Option JsString :=
  clientIp arrival.trustedProxyHops
    { headers := arrival.headers others, remoteAddress := some arrival.peer.text }

/-- The same client without a header of its own. -/
def bare : Arrival := { arrival with written := none }

/-- What the client wrote names its own address first, if it wrote anything. -/
def WritesItself : Prop :=
  ∀ text, arrival.written = some text →
    ((split 44 text).head?).map trim = some arrival.seenAddress

/-- The header that the client wrote has no influence: both addresses are what they are
without it, behind proxies they are what the outermost one saw, and they are the same. -/
structure Unforged (input : BuildSystemAuditEntryInput) (others : List (JsString × Header)) :
    Prop where
  ipAddress_eq : arrival.ipAddress input = arrival.bare.ipAddress input
  lastIp_eq : arrival.lastIp others = arrival.bare.lastIp others
  seen : 0 < arrival.trustedProxyHops →
    arrival.ipAddress input = some arrival.seenAddress ∧
      arrival.lastIp others = some arrival.seenAddress
  agree : arrival.ipAddress input = arrival.lastIp others

/-- The first entry of the header, without blanks. -/
def firstEntry : Option JsString :=
  (arrival.header.bind fun text => (split 44 text).head?).map trim

/-! ## What the header says -/

/-- Proxies append behind the first entry. -/
theorem foldl_appendPeer (text : JsString) (peers : List Address) :
    ∃ whole, peers.foldl appendPeer (some text) = some whole ∧
      (split 44 whole).head? = (split 44 text).head? := by
  induction peers generalizing text with
  | nil => exact ⟨text, rfl, rfl⟩
  | cons peer peers ih =>
      rcases ih (text ++ 44 :: 32 :: peer.text) with ⟨whole, hwhole, hhead⟩
      exact ⟨whole, hwhole, hhead.trans (split_append_head? 44 text _)⟩

/-- The entry that an address makes is the address. -/
theorem first_address (address : Address) :
    ((split 44 address.text).head?).map trim = some address.text := by
  rw [split_head?_of_notMem address.noComma, Option.map_some, address.trimmed]

/-- Behind proxies the first entry is what the client wrote first, or else the address that
the outermost proxy saw. -/
theorem firstEntry_proxied (h : arrival.proxies ≠ []) :
    arrival.firstEntry =
      match arrival.written with
      | none => some arrival.seenAddress
      | some text => ((split 44 text).head?).map trim := by
  rcases List.exists_cons_of_ne_nil h with ⟨proxy, proxies, hproxies⟩
  have hpeers : arrival.peers = arrival.client :: (proxy :: proxies).dropLast := by
    rw [peers, hproxies, List.dropLast_cons_of_ne_nil (by simp)]
  rw [firstEntry, header, hpeers, List.foldl_cons]
  cases hwritten : arrival.written with
  | none =>
      rcases foldl_appendPeer arrival.client.text (proxy :: proxies).dropLast
        with ⟨whole, hwhole, hhead⟩
      simp only [appendPeer, hwhole, Option.bind_some, hhead]
      exact first_address arrival.client
  | some text =>
      rcases foldl_appendPeer (text ++ 44 :: 32 :: arrival.client.text) (proxy :: proxies).dropLast
        with ⟨whole, hwhole, hhead⟩
      simp only [appendPeer, hwhole, Option.bind_some, hhead, split_append_head?]

/-- A direct client is the peer, and its header arrives as written. -/
theorem direct (h : arrival.proxies = []) :
    arrival.header = arrival.written ∧ arrival.peer = arrival.client := by
  simp [header, peers, peer, h]

theorem header_eq (others : List (JsString × Header)) :
    ((arrival.headers others).find? (·.1 == lit "x-forwarded-for")).map (·.2) =
      arrival.header.map .one := by
  unfold headers
  cases arrival.header with
  | none => simp [List.find?_eq_none]
  | some text => simp

/-- Without a header `request.ip` is the peer. -/
theorem expressIp_none (hops : Nat) (peer : JsString) : expressIp hops peer none = some peer := by
  have hskip : forwardedAddresses peer none = [peer] := by
    simp [forwardedAddresses, split, trimBlanks]
  simp [expressIp, hskip]

/-! ## Both readers -/

/-- The HTTP audit takes the first entry of the header, whatever the number of hops. -/
theorem ipAddress_received (input : BuildSystemAuditEntryInput) :
    arrival.ipAddress input = arrival.firstEntry.or (some arrival.peer.text) := by
  have hheader : (arrival.receive input.request).header (lit "x-forwarded-for") =
      arrival.header.map .one := arrival.header_eq input.request.headers
  have hip : (arrival.receive input.request).ip =
      expressIp arrival.trustedProxyHops arrival.peer.text arrival.header := rfl
  change forwardedAddress (arrival.receive input.request) = _
  rw [forwardedAddress, hheader, hip, firstEntry]
  cases arrival.header with
  | none => simp [expressIp_none]
  | some text => simp [split_head?]

theorem orElse_address (address : Address) (next : Option JsString) :
    orElse (some address.text) next = some address.text := by
  simp [orElse, address.nonempty]

/-- The gateway does so only behind proxies. -/
theorem lastIp_received (others : List (JsString × Header)) :
    arrival.lastIp others =
      if arrival.proxies = [] then some arrival.peer.text
      else orElse arrival.firstEntry (some arrival.peer.text) := by
  simp only [lastIp, clientIp, trustedProxyHops, List.length_eq_zero_iff, orElse_address,
    header_eq, firstEntry]
  cases arrival.header with
  | none => simp
  | some text => simp

/-- The audit records the client's address exactly when the header does not stand against it. -/
theorem ipAddress_eq_seen (input : BuildSystemAuditEntryInput) :
    arrival.ipAddress input = some arrival.seenAddress ↔ arrival.WritesItself := by
  rw [ipAddress_received, WritesItself]
  by_cases hdirect : arrival.proxies = []
  · rw [firstEntry, (arrival.direct hdirect).1, (arrival.direct hdirect).2]
    cases arrival.written with
    | none => simp [seenAddress]
    | some text => simp [split_head?]
  · rw [arrival.firstEntry_proxied hdirect]
    cases arrival.written with
    | none => simp
    | some text => simp [split_head?]

/-- A header that names the client first does not mislead the gateway either. -/
theorem lastIp_eq_seen (others : List (JsString × Header)) (h : arrival.WritesItself) :
    arrival.lastIp others = some arrival.seenAddress := by
  rw [lastIp_received]
  by_cases hdirect : arrival.proxies = []
  · rw [if_pos hdirect, (arrival.direct hdirect).2]
    rfl
  · have hentry : arrival.firstEntry = some arrival.seenAddress := by
      rw [arrival.firstEntry_proxied hdirect]
      cases hwritten : arrival.written with
      | none => rfl
      | some text => exact h text hwritten
    rw [if_neg hdirect, hentry]
    exact orElse_address arrival.client _

theorem writesItself_bare : arrival.bare.WritesItself := by
  intro text hwritten
  exact absurd hwritten (by simp [bare])

end Arrival

/-- Both record the address that the outermost trusted proxy saw exactly when the client
sends no header, or one that names this address first. -/
theorem recorded_iff (arrival : Arrival) (input : BuildSystemAuditEntryInput)
    (others : List (JsString × Header)) :
    arrival.Unforged input others ↔ arrival.WritesItself := by
  have hbare : arrival.bare.ipAddress input = some arrival.seenAddress :=
    (arrival.bare.ipAddress_eq_seen input).mpr arrival.writesItself_bare
  have hbareLast : arrival.bare.lastIp others = some arrival.seenAddress :=
    arrival.bare.lastIp_eq_seen others arrival.writesItself_bare
  constructor
  · intro h
    exact (arrival.ipAddress_eq_seen input).mp (h.ipAddress_eq.trans hbare)
  · intro h
    have hseen := (arrival.ipAddress_eq_seen input).mpr h
    have hlast := arrival.lastIp_eq_seen others h
    exact ⟨hseen.trans hbare.symm, hlast.trans hbareLast.symm, fun _ => ⟨hseen, hlast⟩,
      hseen.trans hlast.symm⟩

/-- A direct client whose header names another address. -/
def forger : Arrival where
  client := ⟨lit "203.0.113.7", by decide, by decide, by decide⟩
  proxies := []
  written := some (lit "10.0.0.1")

/-- A read of the user list. -/
def anyInput : BuildSystemAuditEntryInput where
  definition :=
    { name := lit "读取后台账号", action := lit "read", subject := some (lit "user"),
      targetType := some (lit "user") }
  request :=
    { body := .undefined, headers := [], ip := none, method := lit "GET",
      originalUrl := lit "/users", params := [], query := [], remoteAddress := none,
      user := none }
  status := .succeeded
  statusCode := 200

/-- A direct client forges the address of its audit entries. -/
theorem forger_forges : ¬ ∀ arrival input others, Arrival.Unforged arrival input others := by
  intro h
  have hforged := (h forger anyInput []).ipAddress_eq
  rw [Arrival.ipAddress_received, Arrival.ipAddress_received] at hforged
  revert hforged
  decide

end Audit
end R2RPC
