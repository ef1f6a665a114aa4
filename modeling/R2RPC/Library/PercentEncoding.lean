import R2RPC.Library.JsonText

/-!
# Percent-encoding

The bytes of UTF-8 behind percent signs, with the characters that an encoder keeps as a
parameter, and the reader that undoes all of them.

Main results:

- Definitions {lit}`escapePoints`, {lit}`decode`: encoders and the reader.
- Theorem {lit}`flatMap_unitsAt`: a string is made of its code points.
- Theorem {lit}`decode_escapePoints`: what is encoded is read back, whatever is kept.
- Theorem {lit}`plusToSpace_formPoints`: forms, in which a plus sign stands for a space.

Current gaps:

- The reader refuses what is not UTF-8; a reader that replaces it is not modelled.
-/

namespace PercentEncoding

open Utf16 JavaScript

/-! ## Code points -/

/-- A code point that UTF-8 encodes. -/
def Scalar (c : Nat) : Prop := c < 0x110000 ∧ isSurrogate c = false

instance (c : Nat) : Decidable (Scalar c) := inferInstanceAs (Decidable (_ ∧ _))

/-- The code units of a code point. -/
def unitsAt (c : Nat) : JsString :=
  if c < 0x10000 then [c.toUInt16]
  else [(0xD800 + (c - 0x10000) / 0x400).toUInt16, (0xDC00 + (c - 0x10000) % 0x400).toUInt16]

theorem unitsAt_ne_nil (c : Nat) : unitsAt c ≠ [] := by
  rw [unitsAt]
  split
  · exact List.cons_ne_nil _ _
  · exact List.cons_ne_nil _ _

theorem unitsAt_toNat (unit : UInt16) : unitsAt unit.toNat = [unit] := by
  have hlt := unit.toNat_lt
  rw [unitsAt, if_pos (by omega)]
  simp

theorem unitsAt_pair {unit next : UInt16} (hunit : isLead unit = true) (hnext : isTrail next = true) :
    unitsAt (0x10000 + (unit.toNat - 0xD800) * 0x400 + (next.toNat - 0xDC00)) = [unit, next] := by
  simp only [isLead, isTrail, Bool.and_eq_true, decide_eq_true_eq, UInt16.le_iff_toNat_le,
    UInt16.reduceToNat] at hunit hnext
  rw [unitsAt, if_neg (by omega)]
  have hfirst : 0xD800 + (0x10000 + (unit.toNat - 0xD800) * 0x400 + (next.toNat - 0xDC00) -
      0x10000) / 0x400 = unit.toNat := by omega
  have hsecond : 0xDC00 + (0x10000 + (unit.toNat - 0xD800) * 0x400 + (next.toNat - 0xDC00) -
      0x10000) % 0x400 = next.toNat := by omega
  rw [hfirst, hsecond]
  simp

/-- A string is made of its code points. -/
theorem flatMap_unitsAt (text : JsString) : (codePoints text).flatMap unitsAt = text := by
  induction text using codePoints.induct with
  | case1 => rfl
  | case2 unit => simp [codePoints, unitsAt_toNat]
  | case3 unit next rest hpair ih =>
      rw [codePoints, if_pos hpair, List.flatMap_cons, ih]
      rw [Bool.and_eq_true] at hpair
      rw [unitsAt_pair hpair.1 hpair.2]
      rfl
  | case4 unit next rest hpair ih =>
      rw [codePoints, if_neg hpair, List.flatMap_cons, ih, unitsAt_toNat]
      rfl

/-- The code points of a string that is made of code points. -/
theorem codePoints_flatMap {points : List Nat} (h : ∀ c ∈ points, Scalar c) :
    codePoints (points.flatMap unitsAt) = points := by
  induction points with
  | nil => rfl
  | cons c points ih =>
      rw [List.forall_mem_cons] at h
      have hlt := h.1.1
      have hplain := h.1.2
      rw [isSurrogate, decide_eq_false_iff_not] at hplain
      rw [List.flatMap_cons, unitsAt]
      split
      · have hnat : c.toUInt16.toNat = c := by
          simp only [Nat.toUInt16_eq, UInt16.toNat_ofNat']
          omega
        have hlead : isLead c.toUInt16 = false := by
          simp only [isLead, Bool.and_eq_false_iff, decide_eq_false_iff_not,
            UInt16.le_iff_toNat_le, UInt16.reduceToNat, hnat]
          omega
        rw [List.cons_append, List.nil_append, codePoints_cons hlead, hnat, ih h.2]
      · have hfirst : (0xD800 + (c - 0x10000) / 0x400).toUInt16.toNat =
            0xD800 + (c - 0x10000) / 0x400 := by
          simp only [Nat.toUInt16_eq, UInt16.toNat_ofNat']
          omega
        have hsecond : (0xDC00 + (c - 0x10000) % 0x400).toUInt16.toNat =
            0xDC00 + (c - 0x10000) % 0x400 := by
          simp only [Nat.toUInt16_eq, UInt16.toNat_ofNat']
          omega
        have hpair : (isLead (0xD800 + (c - 0x10000) / 0x400).toUInt16 &&
            isTrail (0xDC00 + (c - 0x10000) % 0x400).toUInt16) = true := by
          simp only [isLead, isTrail, Bool.and_eq_true, decide_eq_true_eq,
            UInt16.le_iff_toNat_le, UInt16.reduceToNat, hfirst, hsecond]
          omega
        have hvalue : 0x10000 + (0xD800 + (c - 0x10000) / 0x400 - 0xD800) * 0x400 +
            (0xDC00 + (c - 0x10000) % 0x400 - 0xDC00) = c := by omega
        rw [List.cons_append, List.cons_append, List.nil_append, codePoints, if_pos hpair, hfirst,
          hsecond, hvalue, ih h.2]

/-- The code points, with a replacement for each lone surrogate. -/
def scalars (replacement : Nat) (text : JsString) : List Nat :=
  (codePoints text).map fun c => if isSurrogate c then replacement else c

theorem scalar_of_mem_scalars {replacement : Nat} (h : Scalar replacement) {text : JsString} :
    ∀ c ∈ scalars replacement text, Scalar c := by
  intro c hc
  rcases List.mem_map.mp hc with ⟨point, hpoint, rfl⟩
  split
  · exact h
  next hplain => exact ⟨codePoints_lt point hpoint, by simpa using hplain⟩

/-- The string with a replacement for each lone surrogate. -/
def replaceLone (replacement : Nat) (text : JsString) : JsString :=
  (scalars replacement text).flatMap unitsAt

theorem scalars_of_wellFormed {text : JsString} (h : WellFormed text) (replacement : Nat) :
    scalars replacement text = codePoints text := by
  rw [scalars]
  refine (List.map_congr_left fun c hc => ?_).trans (List.map_id' _)
  rw [h c hc, if_neg Bool.false_ne_true]

theorem replaceLone_of_wellFormed {text : JsString} (h : WellFormed text) (replacement : Nat) :
    replaceLone replacement text = text := by
  rw [replaceLone, scalars_of_wellFormed h, flatMap_unitsAt]

theorem replaceLone_ne_nil {text : JsString} (h : text ≠ []) (replacement : Nat) :
    replaceLone replacement text ≠ [] := by
  have hne : codePoints text ≠ [] := by
    intro hempty
    rw [← flatMap_unitsAt text, hempty] at h
    exact h rfl
  obtain ⟨c, points, hpoints⟩ := List.exists_cons_of_ne_nil hne
  rw [replaceLone, scalars, hpoints, List.map_cons, List.flatMap_cons]
  exact List.append_ne_nil_of_left_ne_nil (unitsAt_ne_nil _) _

/-! ## Encoders -/

/-- The bytes of a code point. -/
def utf8 (c : Nat) : List Nat :=
  if c < 0x80 then [c]
  else if c < 0x800 then [0xC0 + c / 64, 0x80 + c % 64]
  else if c < 0x10000 then [0xE0 + c / 4096, 0x80 + c / 64 % 64, 0x80 + c % 64]
  else [0xF0 + c / 262144, 0x80 + c / 4096 % 64, 0x80 + c / 64 % 64, 0x80 + c % 64]

/-- An upper case hexadecimal digit. -/
def hexUpper (n : Nat) : UInt16 := (if n < 10 then 48 + n else 55 + n).toUInt16

/-- A byte behind a percent sign. -/
def percent (byte : Nat) : JsString := [37, hexUpper (byte / 16), hexUpper (byte % 16)]

/-- A code point, as its bytes unless it is kept. -/
def escapePoint (keep : Nat → Bool) (c : Nat) : JsString :=
  if keep c then [c.toUInt16] else (utf8 c).flatMap percent

/-- Code points, encoded. -/
def escapePoints (keep : Nat → Bool) (points : List Nat) : JsString :=
  points.flatMap (escapePoint keep)

/-- Code points of a form, in which a space is a plus sign. -/
def formPoints (keep : Nat → Bool) (points : List Nat) : JsString :=
  points.flatMap fun c => if c = 32 then [43] else escapePoint keep c

/-! ## The reader -/

/-- What a text consists of: code units, and bytes behind percent signs. -/
inductive Piece where
  | unit (unit : UInt16)
  | byte (value : Nat)

/-- The pieces of a text. -/
def pieces : JsString → Option (List Piece)
  | [] => some []
  | unit :: rest =>
      if unit = 37 then
        match rest with
        | high :: low :: rest =>
            match hexValue high, hexValue low with
            | some high, some low => (pieces rest).map (.byte (16 * high + low) :: ·)
            | _, _ => none
        | _ => none
      else (pieces rest).map (.unit unit :: ·)

/-- A sequence that is not complete: the bytes to come, what was read, and the least code
point that has so many bytes. -/
structure Pending where
  remaining : Nat
  value : Nat
  minimum : Nat

/-- The first byte of a sequence. -/
def begins (byte : Nat) : Option Pending :=
  if 0xC2 ≤ byte ∧ byte < 0xE0 then some ⟨1, byte - 0xC0, 0x80⟩
  else if 0xE0 ≤ byte ∧ byte < 0xF0 then some ⟨2, byte - 0xE0, 0x800⟩
  else if 0xF0 ≤ byte ∧ byte < 0xF5 then some ⟨3, byte - 0xF0, 0x10000⟩
  else none

/-- The string of pieces. -/
def read : Option Pending → List Piece → Option JsString
  | none, [] => some []
  | some _, [] => none
  | none, .unit unit :: rest => (read none rest).map (unit :: ·)
  | some _, .unit _ :: _ => none
  | none, .byte byte :: rest =>
      if byte < 0x80 then (read none rest).map (byte.toUInt16 :: ·)
      else
        match begins byte with
        | some pending => read (some pending) rest
        | none => none
  | some pending, .byte byte :: rest =>
      if byte / 64 = 2 then
        let value := pending.value * 64 + byte % 64
        if pending.remaining = 1 then
          if pending.minimum ≤ value ∧ Scalar value then
            (read none rest).map (unitsAt value ++ ·)
          else none
        else read (some ⟨pending.remaining - 1, value, pending.minimum⟩) rest
      else none

/-- `decodeURIComponent`; nothing where it throws. -/
def decode (text : JsString) : Option JsString := (pieces text).bind (read none)

/-- Each occurrence of a unit, replaced. -/
def replaceUnit (unit : UInt16) (replacement text : JsString) : JsString :=
  text.flatMap fun other => if other = unit then replacement else [other]

/-- A plus sign stands for a space. -/
def plusToSpace (text : JsString) : JsString :=
  text.map fun unit => if unit = 43 then 32 else unit

/-! ## Round trips -/

theorem hexValue_hexUpper {n : Nat} (h : n < 16) : hexValue (hexUpper n) = some n := by
  have hall : ∀ n : Fin 16, hexValue (hexUpper n.val) = some n.val := by decide
  exact hall ⟨n, h⟩

theorem pieces_cons {unit : UInt16} (h : unit ≠ 37) (rest : JsString) :
    pieces (unit :: rest) = (pieces rest).map (.unit unit :: ·) := by
  rw [pieces.eq_def]
  simp [h]

theorem pieces_percent {byte : Nat} (h : byte < 256) (rest : JsString) :
    pieces (percent byte ++ rest) = (pieces rest).map (.byte byte :: ·) := by
  have hbyte : 16 * (byte / 16) + byte % 16 = byte := by omega
  rw [percent, List.cons_append, List.cons_append, List.cons_append, List.nil_append,
    pieces.eq_def]
  simp [hexValue_hexUpper (show byte / 16 < 16 by omega),
    hexValue_hexUpper (show byte % 16 < 16 by omega), hbyte]

theorem pieces_percents {bytes : List Nat} (h : ∀ byte ∈ bytes, byte < 256) (rest : JsString) :
    pieces (bytes.flatMap percent ++ rest) = (pieces rest).map (bytes.map .byte ++ ·) := by
  induction bytes with
  | nil => simp
  | cons byte bytes ih =>
      rw [List.forall_mem_cons] at h
      rw [List.flatMap_cons, List.append_assoc, pieces_percent h.1, ih h.2, Option.map_map]
      rfl

theorem utf8_lt {c : Nat} (h : c < 0x110000) : ∀ byte ∈ utf8 c, byte < 256 := by
  rw [utf8]
  split_ifs <;> simp only [List.forall_mem_cons, List.not_mem_nil, false_implies, implies_true,
    and_true] <;> omega

/-- The bytes of a code point are read as this code point. -/
theorem read_utf8 {c : Nat} (h : Scalar c) (rest : List Piece) :
    read none ((utf8 c).map .byte ++ rest) = (read none rest).map (unitsAt c ++ ·) := by
  have hlt := h.1
  rw [utf8]
  split_ifs with hone htwo hthree
  · have hunits : unitsAt c = [c.toUInt16] := by rw [unitsAt, if_pos (by omega)]
    simp [read, hone, hunits]
  · have hbegins : begins (0xC0 + c / 64) = some ⟨1, c / 64, 0x80⟩ := by
      rw [begins, if_pos (by omega)]
      simp
    have htail : (0x80 + c % 64) / 64 = 2 := by omega
    have hvalue : c / 64 * 64 + (0x80 + c % 64) % 64 = c := by omega
    simp only [List.map_cons, List.map_nil, List.cons_append, List.nil_append, read, hbegins,
      htail, hvalue, if_true]
    rw [if_neg (by omega), if_pos ⟨by omega, h⟩]
  · have hbegins : begins (0xE0 + c / 4096) = some ⟨2, c / 4096, 0x800⟩ := by
      rw [begins, if_neg (by omega), if_pos (by omega)]
      simp
    have hfirst : (0x80 + c / 64 % 64) / 64 = 2 := by omega
    have hsecond : (0x80 + c % 64) / 64 = 2 := by omega
    have hvalue : (c / 4096 * 64 + (0x80 + c / 64 % 64) % 64) * 64 + (0x80 + c % 64) % 64 = c := by
      omega
    simp only [List.map_cons, List.map_nil, List.cons_append, List.nil_append, read, hbegins,
      hfirst, hsecond, hvalue, if_true]
    rw [if_neg (by omega), if_neg (by decide), if_pos ⟨by omega, h⟩]
  · have hbegins : begins (0xF0 + c / 262144) = some ⟨3, c / 262144, 0x10000⟩ := by
      rw [begins, if_neg (by omega), if_neg (by omega), if_pos (by omega)]
      simp
    have hfirst : (0x80 + c / 4096 % 64) / 64 = 2 := by omega
    have hsecond : (0x80 + c / 64 % 64) / 64 = 2 := by omega
    have hthird : (0x80 + c % 64) / 64 = 2 := by omega
    have hvalue : ((c / 262144 * 64 + (0x80 + c / 4096 % 64) % 64) * 64 +
        (0x80 + c / 64 % 64) % 64) * 64 + (0x80 + c % 64) % 64 = c := by
      omega
    simp only [List.map_cons, List.map_nil, List.cons_append, List.nil_append, read, hbegins,
      hfirst, hsecond, hthird, hvalue, if_true]
    rw [if_neg (by omega), if_neg (by decide), if_neg (by decide), if_pos ⟨by omega, h⟩]

/-- An encoder keeps characters of ASCII only, and no percent sign. -/
def Keeps (keep : Nat → Bool) : Prop := ∀ c, keep c = true → c < 0x80 ∧ c ≠ 37

theorem decode_escapePoint {keep : Nat → Bool} (hkeep : Keeps keep) {c : Nat} (h : Scalar c)
    (rest : JsString) :
    decode (escapePoint keep c ++ rest) = (decode rest).map (unitsAt c ++ ·) := by
  rw [escapePoint]
  split
  next hkept =>
    have hascii := hkeep c hkept
    have hunit : c.toUInt16 ≠ 37 := by
      intro heq
      have hnat := congrArg UInt16.toNat heq
      simp only [Nat.toUInt16_eq, UInt16.toNat_ofNat', UInt16.reduceToNat] at hnat
      omega
    have hunits : unitsAt c = [c.toUInt16] := by rw [unitsAt, if_pos (by omega)]
    rw [decode, List.cons_append, List.nil_append, pieces_cons hunit, decode, hunits]
    cases pieces rest with
    | none => rfl
    | some pieces => rfl
  next =>
    rw [decode, pieces_percents (utf8_lt h.1), decode]
    cases pieces rest with
    | none => rfl
    | some pieces => exact read_utf8 h pieces

/-- What is encoded is read back. -/
theorem decode_escapePoints {keep : Nat → Bool} (hkeep : Keeps keep) {points : List Nat}
    (h : ∀ c ∈ points, Scalar c) :
    decode (escapePoints keep points) = some (points.flatMap unitsAt) := by
  induction points with
  | nil => rfl
  | cons c points ih =>
      rw [List.forall_mem_cons] at h
      rw [escapePoints, List.flatMap_cons, decode_escapePoint hkeep h.1]
      rw [escapePoints] at ih
      rw [ih h.2]
      rfl

/-! ## What encoders write -/

/-- A unit that an encoder writes. -/
def writes (keep : Nat → Bool) (unit : UInt16) : Bool :=
  unit == 37 || (48 ≤ unit && unit ≤ 57) || (65 ≤ unit && unit ≤ 70) || keep unit.toNat

theorem writes_hexUpper (keep : Nat → Bool) {n : Nat} (h : n < 16) :
    writes keep (hexUpper n) = true := by
  have hall : ∀ n : Fin 16, ((48 ≤ hexUpper n.val && hexUpper n.val ≤ 57) ||
      (65 ≤ hexUpper n.val && hexUpper n.val ≤ 70)) = true := by decide
  have hdigit := hall ⟨n, h⟩
  rw [writes, Bool.or_assoc (_ == _), hdigit]
  simp

theorem writes_of_mem_escapePoint {keep : Nat → Bool} (hkeep : Keeps keep) {c : Nat}
    (h : Scalar c) : ∀ unit ∈ escapePoint keep c, writes keep unit = true := by
  rw [escapePoint]
  split
  next hkept =>
    have hascii := hkeep c hkept
    have hnat : c.toUInt16.toNat = c := by
      simp only [Nat.toUInt16_eq, UInt16.toNat_ofNat']
      omega
    simp [writes, hnat, hkept]
  next =>
    intro unit hunit
    rcases List.mem_flatMap.mp hunit with ⟨byte, hbyte, hmem⟩
    have hlt := utf8_lt h.1 byte hbyte
    simp only [percent, List.mem_cons, List.not_mem_nil, or_false] at hmem
    rcases hmem with rfl | rfl | rfl
    · rfl
    · exact writes_hexUpper keep (by omega)
    · exact writes_hexUpper keep (by omega)

theorem writes_of_mem_escapePoints {keep : Nat → Bool} (hkeep : Keeps keep) {points : List Nat}
    (h : ∀ c ∈ points, Scalar c) : ∀ unit ∈ escapePoints keep points, writes keep unit = true := by
  intro unit hunit
  rcases List.mem_flatMap.mp hunit with ⟨c, hc, hmem⟩
  exact writes_of_mem_escapePoint hkeep (h c hc) unit hmem

/-- A unit that an encoder never writes. -/
theorem notMem_escapePoints {keep : Nat → Bool} (hkeep : Keeps keep) {unit : UInt16}
    (hunit : writes keep unit = false) {points : List Nat} (h : ∀ c ∈ points, Scalar c) :
    unit ∉ escapePoints keep points := by
  intro hmem
  rw [writes_of_mem_escapePoints hkeep h unit hmem] at hunit
  contradiction

theorem notMem_formPoints {keep : Nat → Bool} (hkeep : Keeps keep) {unit : UInt16}
    (hunit : writes keep unit = false) (hplus : unit ≠ 43) {points : List Nat}
    (h : ∀ c ∈ points, Scalar c) : unit ∉ formPoints keep points := by
  intro hmem
  rcases List.mem_flatMap.mp hmem with ⟨c, hc, hmem⟩
  split at hmem
  · exact hplus (List.mem_singleton.mp hmem)
  · rw [writes_of_mem_escapePoint hkeep (h c hc) unit hmem] at hunit
    contradiction

theorem replaceUnit_of_notMem {unit : UInt16} {text : JsString} (h : unit ∉ text)
    (replacement : JsString) : replaceUnit unit replacement text = text := by
  have hsame : ∀ other ∈ text, (if other = unit then replacement else [other]) = [other] := by
    intro other hother
    rw [if_neg]
    rintro rfl
    exact h hother
  rw [replaceUnit, List.flatMap_congr hsame, List.flatMap_singleton']

theorem plusToSpace_of_notMem {text : JsString} (h : 43 ∉ text) : plusToSpace text = text := by
  have hsame : ∀ unit ∈ text, (if unit = 43 then 32 else unit) = unit := by
    intro unit hunit
    rw [if_neg]
    rintro rfl
    exact h hunit
  rw [plusToSpace, List.map_congr_left hsame, List.map_id']

/-- A character that is escaped behind the encoder is not kept. -/
theorem replaceUnit_escapePoints {keep : Nat → Bool} (hkeep : Keeps keep) {unit : UInt16}
    (hwrites : writes (fun c => keep c && c != unit.toNat) unit = false)
    {points : List Nat} (h : ∀ c ∈ points, Scalar c) :
    replaceUnit unit ((utf8 unit.toNat).flatMap percent) (escapePoints keep points) =
      escapePoints (fun c => keep c && c != unit.toNat) points := by
  have hkeep' : Keeps fun c => keep c && c != unit.toNat :=
    fun c hc => hkeep c (Bool.and_eq_true_iff.mp hc).1
  rw [replaceUnit, escapePoints, escapePoints, List.flatMap_assoc]
  refine List.flatMap_congr fun c hc => ?_
  by_cases hcase : c = unit.toNat
  · have hfalse : (keep c && c != unit.toNat) = false := by simp [hcase]
    by_cases hkept : keep c = true
    · have hunit : c.toUInt16 = unit := by rw [hcase]; simp
      rw [escapePoint, if_pos hkept, escapePoint, hfalse, if_neg Bool.false_ne_true, hcase]
      simp
    · have hsame : escapePoint keep c = escapePoint (fun c => keep c && c != unit.toNat) c := by
        rw [escapePoint, if_neg hkept, escapePoint, hfalse, if_neg Bool.false_ne_true]
      rw [hsame]
      refine replaceUnit_of_notMem (fun hmem => ?_) _
      rw [writes_of_mem_escapePoint hkeep' (h c hc) unit hmem] at hwrites
      contradiction
  · have hsame : escapePoint keep c = escapePoint (fun c => keep c && c != unit.toNat) c := by
      simp [escapePoint, hcase]
    rw [hsame]
    refine replaceUnit_of_notMem (fun hmem => ?_) _
    rw [writes_of_mem_escapePoint hkeep' (h c hc) unit hmem] at hwrites
    contradiction

/-- The plus signs of a form are spaces that were kept. -/
theorem plusToSpace_formPoints {keep : Nat → Bool} (hkeep : Keeps keep)
    (hplus : keep 43 = false) {points : List Nat} (h : ∀ c ∈ points, Scalar c) :
    plusToSpace (formPoints keep points) =
      escapePoints (fun c => keep c || c == 32) points := by
  rw [plusToSpace, formPoints, escapePoints, List.map_flatMap]
  refine List.flatMap_congr fun c hc => ?_
  by_cases hspace : c = 32
  · subst hspace
    simp [escapePoint]
  · rw [if_neg hspace]
    refine (plusToSpace_of_notMem fun hmem => ?_).trans (by simp [escapePoint, hspace])
    have hwrites := writes_of_mem_escapePoint hkeep (h c hc) 43 hmem
    simp [writes, hplus] at hwrites

/-- The plus signs of a form, escaped. -/
theorem replaceUnit_formPoints {keep : Nat → Bool} (hkeep : Keeps keep) (hplus : keep 43 = false)
    (hspace : keep 32 = false) {points : List Nat} (h : ∀ c ∈ points, Scalar c) :
    replaceUnit 43 (percent 32) (formPoints keep points) = escapePoints keep points := by
  rw [replaceUnit, formPoints, escapePoints, List.flatMap_assoc]
  refine List.flatMap_congr fun c hc => ?_
  by_cases hcase : c = 32
  · subst hcase
    simp [escapePoint, hspace, utf8]
  · rw [if_neg hcase]
    refine replaceUnit_of_notMem (fun hmem => ?_) _
    have hwrites := writes_of_mem_escapePoint hkeep (h c hc) 43 hmem
    simp [writes, hplus] at hwrites

/-- A form is read back. -/
theorem decode_formPoints {keep : Nat → Bool} (hkeep : Keeps keep) (hplus : keep 43 = false)
    {points : List Nat} (h : ∀ c ∈ points, Scalar c) :
    decode (plusToSpace (formPoints keep points)) = some (points.flatMap unitsAt) := by
  rw [plusToSpace_formPoints hkeep hplus h]
  refine decode_escapePoints (fun c hc => ?_) h
  rw [Bool.or_eq_true, beq_iff_eq] at hc
  rcases hc with hc | rfl
  · exact hkeep c hc
  · decide

end PercentEncoding
