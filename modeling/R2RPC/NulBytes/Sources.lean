import R2RPC.Audit.Disclosure
import R2RPC.Lists.Conditions
import R2RPC.NulBytes.Scan

/-!
# Where strings come from

The places of a request that guards, handlers and the audit read, what they take of a value
there, and where a NUL escapes the scan.

Main results:

- Definition {lit}`Source`: a place, and what is taken of its value.
- Definition {lit}`Source.Hidden`: a NUL stands there, out of reach of the scan.
- Theorem {lit}`clean_iff`: in a request that is let through, a source is clean exactly when
  it hides nothing.

Current gaps:

- Values that are read as numbers, dates, booleans or members of a fixed list bring in no
  string.
-/

namespace R2RPC
namespace NulBytes

open Utf16 JavaScript Value Binary Audit

/-! ## Places -/

/-- Where a value is read. -/
inductive Channel where
  | parameter
  | query
  | body
  | authorization
deriving DecidableEq

/-- `bearerToken`. -/
def bearerToken (request : AuthedRequest) : Value :=
  match request.header (lit "authorization") with
  | some (.one text) =>
      if (lit "Bearer ").isPrefixOf text then .string (text.drop 7) else .undefined
  | _ => .undefined

/-- The value that is read there. -/
def Channel.value (request : AuthedRequest) (name : JsString) : Channel → Value
  | .parameter => readObjectField (.object false request.params) (some name)
  | .query => readObjectField (.object false request.query) (some name)
  | .body => readObjectField request.body (some name)
  | .authorization => bearerToken request

/-- `rejectNullByte` looks there; at a body only if it has been parsed by then. -/
def Channel.scanned (parsed : Bool) : Channel → Bool
  | .parameter => false
  | .query => true
  | .body => parsed
  | .authorization => false

/-- What is taken of a value: all of it, what a decorator or a filter lets through, or what
the audit records. -/
inductive Reading where
  | value
  | isString
  | isStringArray
  | eqIf
  | likeIf
  | metadata
  | identifier
deriving DecidableEq

/-- `@IsString()`. -/
def isText : Value → Bool
  | .string _ => true
  | _ => false

/-- `@IsArray() @IsString({ each: true })`. -/
def isTextArray : Value → Bool
  | .array elements => elements.all isText
  | _ => false

/-- `@IsString()`, and a filter that is given. -/
def isFilter : Value → Bool
  | .string text => text != []
  | _ => false

/-- What is left of a value. -/
def Reading.take (reading : Reading) (value : Value) : Value :=
  match reading with
  | .value => value
  | .isString => if isText value then value else .undefined
  | .isStringArray => if isTextArray value then value else .undefined
  | .eqIf | .likeIf => if isFilter value then value else .undefined
  | .metadata => (safeMetadataValue value).getD .undefined
  | .identifier => ((toIdentifier value).map .string).getD .undefined

/-- How a text is written into a parameter. -/
def Reading.spell : Reading → JsString → JsString
  | .likeIf, text => Lists.containsPattern Lists.codeUnits text
  | _, text => text

/-- A place, and what is taken of its value. -/
structure Source where
  channel : Channel
  name : JsString
  reading : Reading
deriving DecidableEq

namespace Source

variable (source : Source) (request : AuthedRequest)

/-- What is taken there from a request. -/
def read : Value := source.reading.take (source.channel.value request source.name)

/-- No string that is taken has a NUL. -/
def Clean : Prop := ∀ n, ∀ text ∈ stringsAt n (source.read request), nulFree text = true

/-- A NUL is taken that the scan does not reach: from a place that it leaves out, or below
the depth where it ends. -/
def Hidden (parsed : Bool) : Prop :=
  ∃ n, (source.channel.scanned parsed = true → maximumScanDepth ≤ n) ∧
    ∃ text ∈ stringsAt n (source.read request), nulFree text = false

end Source

/-! ## Readings keep depths -/

theorem stringsAt_undefined (n : Nat) : stringsAt n .undefined = [] := by
  cases n <;> rfl

theorem mem_stringsAt_cut {n : Nat} {value : Value} {text : JsString}
    (h : text ∈ stringsAt n (cut value)) : ∃ whole ∈ stringsAt n value, text = whole.take 512 := by
  induction n generalizing value with
  | zero =>
      rw [mem_stringsAt_zero] at h
      cases value with
      | string whole =>
          simp only [cut, Value.string.injEq] at h
          exact ⟨whole, by simp [stringsAt], h.symm⟩
      | _ => simp [cut] at h
  | succ n ih =>
      rcases mem_stringsAt_succ.mp h with ⟨elements, hcut, element, hmem, htext⟩
      cases value with
      | array wholes =>
          rw [cut, cutElements_eq, Value.array.injEq] at hcut
          subst hcut
          rcases List.mem_map.mp hmem with ⟨whole, hwhole, rfl⟩
          rcases ih htext with ⟨long, hlong, htake⟩
          exact ⟨long, mem_stringsAt_succ.mpr ⟨wholes, rfl, whole, hwhole, hlong⟩, htake⟩
      | _ => simp [cut] at hcut

/-- A NUL in a part is a NUL in the whole. -/
theorem nulFree_of_take {n : Nat} {text : JsString} (h : nulFree (text.take n) = false) :
    nulFree text = false := by
  rw [← Bool.not_eq_true] at h ⊢
  exact fun hclean => h (nulFree_take n hclean)

/-- An identifier with a NUL is part of a string with one; numbers have none. -/
theorem nulAt_of_toIdentifier {value : Value} {identifier text : JsString} {n : Nat}
    (hidentifier : toIdentifier value = some identifier)
    (h : text ∈ stringsAt n (.string identifier)) (hnul : nulFree text = false) :
    NulAt n value := by
  have hstring : NulAt n (.string identifier) := stringAt_of_mem_stringsAt h hnul
  rcases stringAt_string.mp hstring with ⟨rfl, hidentifierNul⟩
  cases value with
  | string whole =>
      rw [toIdentifier] at hidentifier
      split_ifs at hidentifier
      rw [Option.some.injEq] at hidentifier
      subst hidentifier
      exact .here (nulFree_of_take hidentifierNul)
  | number number =>
      rw [toIdentifier] at hidentifier
      split_ifs at hidentifier
      rw [Option.some.injEq] at hidentifier
      subst hidentifier
      exact absurd (nulFree_text number) (by simp [hidentifierNul])
  | _ => cases hidentifier

/-- A NUL that is taken of a value stands as deep in the value. -/
theorem nulAt_of_take {reading : Reading} {value : Value} {n : Nat} {text : JsString}
    (h : text ∈ stringsAt n (reading.take value)) (hnul : nulFree text = false) :
    NulAt n value := by
  have hguarded : ∀ passes : Bool,
      text ∈ stringsAt n (if passes then value else .undefined) → NulAt n value := by
    intro passes hmem
    cases passes with
    | true => exact stringAt_of_mem_stringsAt hmem hnul
    | false => exact absurd hmem (by simp [stringsAt_undefined])
  cases reading with
  | value => exact stringAt_of_mem_stringsAt h hnul
  | isString => exact hguarded (isText value) h
  | isStringArray => exact hguarded (isTextArray value) h
  | eqIf => exact hguarded (isFilter value) h
  | likeIf => exact hguarded (isFilter value) h
  | metadata =>
      rcases safeMetadataValue_cases value with ⟨-, hsafe⟩ | ⟨-, hsafe⟩
      · rw [Reading.take, hsafe, Option.getD_some] at h
        rcases mem_stringsAt_cut h with ⟨whole, hmem, rfl⟩
        exact stringAt_of_mem_stringsAt hmem (nulFree_of_take hnul)
      · exact absurd h (by simp [Reading.take, hsafe, stringsAt_undefined])
  | identifier =>
      rw [Reading.take] at h
      cases hidentifier : toIdentifier value with
      | none => exact absurd h (by simp [hidentifier, stringsAt_undefined])
      | some identifier =>
          rw [hidentifier, Option.map_some, Option.getD_some] at h
          exact nulAt_of_toIdentifier hidentifier h hnul

/-- What is read at a scanned place stands one level deeper in what is scanned. -/
theorem nulAt_of_value {channel : Channel} {request : AuthedRequest} {name : JsString} {n : Nat}
    (h : NulAt n (channel.value request name)) :
    (channel = .query → NulAt (n + 1) (.object false request.query)) ∧
      (channel = .body → NulAt (n + 1) request.body) := by
  have hfield : ∀ value : Value, NulAt n (readObjectField value (some name)) →
      NulAt (n + 1) value := by
    intro value hread
    rw [readObjectField_some] at hread
    split_ifs at hread
    · cases hread
    · exact stringAt_of_get hread
  constructor
  · rintro rfl
    exact hfield _ h
  · rintro rfl
    exact hfield _ h

/-- What `rejectNullByte` sees of a body. -/
def seenBody (parsed : Bool) (request : AuthedRequest) : Value :=
  if parsed then request.body else .undefined

/-- In a request that is let through, a source is clean exactly when it hides nothing. -/
theorem clean_iff {parsed : Bool} {request : AuthedRequest}
    (h : rejectNullByte (.object false request.query) (seenBody parsed request) = none)
    (source : Source) : source.Clean request ↔ ¬source.Hidden request parsed := by
  rw [rejectNullByte_eq_none] at h
  constructor
  · rintro hclean ⟨n, -, text, hmem, hnul⟩
    exact absurd (hclean n text hmem) (by simp [hnul])
  · intro hhidden n text hmem
    by_contra hnul
    rw [Bool.not_eq_true] at hnul
    refine hhidden ⟨n, fun hscanned => ?_, text, hmem, hnul⟩
    -- a scanned place lies one level below the query or the body
    have hvalue := nulAt_of_value (nulAt_of_take hmem hnul)
    cases hchannel : source.channel with
    | parameter => simp [hchannel, Channel.scanned] at hscanned
    | authorization => simp [hchannel, Channel.scanned] at hscanned
    | query =>
        have hdeep := h.1 _ (hvalue.1 hchannel)
        omega
    | body =>
        rw [hchannel, Channel.scanned] at hscanned
        have hbody : seenBody parsed request = request.body := by
          rw [seenBody, hscanned, if_pos rfl]
        have hdeep := h.2 _ (hbody ▸ hvalue.2 hchannel)
        omega

end NulBytes
end R2RPC
