import Mathlib.Algebra.GroupWithZero.Nat
import Mathlib.Data.List.Basic
import Mathlib.Data.List.TakeWhile

/-!
# UTF-16 strings

Strings as ECMAScript and the JVM have them: sequences of 16-bit code units in which a
surrogate may stand alone.  Lengths and slices count code units; a store that counts
characters, and an encoder that counts bytes, see code points.

Main results:

- Theorem {lit}`codePoints_length_le`: no more characters than code units.
- Theorem {lit}`nulFree_append`: where a NUL can come from.
- Definition {lit}`WellFormed`: a string whose surrogates stand in pairs.
- Definition {lit}`utf8Length`: the bytes of a text, its lone surrogates replaced.
- Definition {lit}`throughUtf8`: the string that arrives when the bytes are sent.
- Theorem {lit}`toText_eq_iff`: which string a store keeps as a given text.

Current gaps:

- No normalisation and no case mapping.
-/

namespace Utf16

/-- A string, by its code units. -/
abbrev JsString := List UInt16

/-- What holds for each unit of a text is decided along the text, not over all units. -/
instance decidableUnits (text : JsString) (p : UInt16 → Prop) [DecidablePred p] :
    Decidable (∀ unit ∈ text, p unit) := List.decidableBAll p text

instance lawfulBEq : LawfulBEq JsString := inferInstance

/-- The code units of a character. -/
def units (c : Char) : JsString :=
  if c.toNat < 0x10000 then [c.toNat.toUInt16]
  else
    [(0xD800 + (c.toNat - 0x10000) / 0x400).toUInt16,
      (0xDC00 + (c.toNat - 0x10000) % 0x400).toUInt16]

/-- A string literal. -/
def lit (text : String) : JsString := text.toList.flatMap units

/-- A code unit of the first half of a surrogate pair. -/
def isLead (unit : UInt16) : Bool := 0xD800 ≤ unit && unit ≤ 0xDBFF

/-- A code unit of the second half of a surrogate pair. -/
def isTrail (unit : UInt16) : Bool := 0xDC00 ≤ unit && unit ≤ 0xDFFF

/-- The code points; a surrogate without its partner is one by itself. -/
def codePoints : JsString → List Nat
  | [] => []
  | [unit] => [unit.toNat]
  | unit :: next :: rest =>
      if isLead unit && isTrail next then
        (0x10000 + (unit.toNat - 0xD800) * 0x400 + (next.toNat - 0xDC00)) :: codePoints rest
      else unit.toNat :: codePoints (next :: rest)

/-- A code point that UTF-8 has no encoding for. -/
def isSurrogate (codePoint : Nat) : Bool := decide (0xD800 ≤ codePoint ∧ codePoint ≤ 0xDFFF)

/-- No code unit is NUL. -/
def nulFree (text : JsString) : Bool := text.all (· != 0)

@[simp]
theorem nulFree_nil : nulFree [] = true := rfl

@[simp]
theorem nulFree_append (text rest : JsString) :
    nulFree (text ++ rest) = (nulFree text && nulFree rest) := by
  simp [nulFree, List.all_append]

@[simp]
theorem nulFree_cons (unit : UInt16) (text : JsString) :
    nulFree (unit :: text) = (unit != 0 && nulFree text) := rfl

theorem nulFree_iff {text : JsString} : nulFree text = true ↔ ∀ unit ∈ text, unit ≠ 0 := by
  simp [nulFree]

/-- A part of a string without NUL has none. -/
theorem nulFree_of_subset {text part : JsString} (h : nulFree text = true)
    (hsub : part ⊆ text) : nulFree part = true :=
  nulFree_iff.mpr fun unit hunit => nulFree_iff.mp h unit (hsub hunit)

theorem nulFree_take {text : JsString} (n : Nat) (h : nulFree text = true) :
    nulFree (text.take n) = true :=
  nulFree_of_subset h (List.take_subset n text)

theorem nulFree_drop {text : JsString} (n : Nat) (h : nulFree text = true) :
    nulFree (text.drop n) = true :=
  nulFree_of_subset h (List.drop_subset n text)

/-- Texts without NUL, joined. -/
theorem nulFree_intercalate {separator : JsString} {texts : List JsString}
    (hseparator : nulFree separator = true) (htexts : ∀ text ∈ texts, nulFree text = true) :
    nulFree (List.intercalate separator texts) = true := by
  induction texts with
  | nil => rfl
  | cons text texts ih =>
      have htext := htexts text (by simp)
      cases texts with
      | nil => simpa using htext
      | cons next texts =>
          rw [List.intercalate_cons_cons, nulFree_append, nulFree_append, htext, hseparator,
            ih fun other hother => htexts other (List.mem_cons_of_mem text hother)]
          rfl

theorem codePoints_length_le (text : JsString) :
    (codePoints text).length ≤ text.length := by
  induction text using codePoints.induct with
  | case1 => simp [codePoints]
  | case2 unit => simp [codePoints]
  | case3 unit next rest hpair ih =>
      simp only [codePoints, hpair, if_true, List.length_cons]
      omega
  | case4 unit next rest hpair ih =>
      simp only [codePoints, hpair, List.length_cons] at ih ⊢
      exact Nat.succ_le_succ ih

/-- Code points are bounded. -/
theorem codePoints_lt {text : JsString} : ∀ c ∈ codePoints text, c < 0x110000 := by
  induction text using codePoints.induct with
  | case1 => simp [codePoints]
  | case2 unit =>
      have hlt := unit.toNat_lt
      simp only [codePoints, List.mem_singleton, forall_eq]
      omega
  | case3 unit next rest hpair ih =>
      rw [codePoints, if_pos hpair, List.forall_mem_cons]
      refine ⟨?_, ih⟩
      simp only [isLead, isTrail, Bool.and_eq_true, decide_eq_true_eq, UInt16.le_iff_toNat_le,
        UInt16.reduceToNat] at hpair
      omega
  | case4 unit next rest hpair ih =>
      rw [codePoints, if_neg hpair, List.forall_mem_cons]
      have hlt := unit.toNat_lt
      exact ⟨by omega, ih⟩

/-! ## Bytes of UTF-8 -/

/-- Bytes that UTF-8 spends on a code point, with a replacement for a lone surrogate. -/
def scalarBytes (replacement codePoint : Nat) : Nat :=
  if codePoint < 0x80 then 1
  else if codePoint < 0x800 then 2
  else if isSurrogate codePoint then replacement
  else if codePoint < 0x10000 then 3
  else 4

/-- Bytes of the UTF-8 encoding of a string. -/
def utf8Length (replacement : Nat) (text : JsString) : Nat :=
  ((codePoints text).map (scalarBytes replacement)).sum

@[simp]
theorem utf8Length_nil (replacement : Nat) : utf8Length replacement [] = 0 := rfl

/-- Half of a surrogate pair, whether its partner is there or not. -/
def isHalf (unit : UInt16) : Bool := isLead unit || isTrail unit

theorem isLead_of_not_isHalf {unit : UInt16} (h : isHalf unit = false) : isLead unit = false :=
  (Bool.or_eq_false_iff.mp h).1

theorem isTrail_of_not_isHalf {unit : UInt16} (h : isHalf unit = false) : isTrail unit = false :=
  (Bool.or_eq_false_iff.mp h).2

theorem codePoints_cons {unit : UInt16} (h : isLead unit = false) (rest : JsString) :
    codePoints (unit :: rest) = unit.toNat :: codePoints rest := by
  cases rest with
  | nil => rfl
  | cons next rest => simp [codePoints, h]

/-- No surrogate stands alone. -/
def WellFormed (text : JsString) : Prop := ∀ c ∈ codePoints text, isSurrogate c = false

instance (text : JsString) : Decidable (WellFormed text) :=
  inferInstanceAs (Decidable (∀ c ∈ codePoints text, isSurrogate c = false))

theorem wellFormed_of_plain {text : JsString} (h : ∀ unit ∈ text, isHalf unit = false) :
    WellFormed text := by
  induction text with
  | nil => simp [WellFormed, codePoints]
  | cons unit text ih =>
      rw [List.forall_mem_cons] at h
      rw [WellFormed, codePoints_cons (isLead_of_not_isHalf h.1), List.forall_mem_cons]
      refine ⟨?_, ih h.2⟩
      have hplain := h.1
      simp only [isHalf, isLead, isTrail, Bool.or_eq_false_iff, Bool.and_eq_false_iff,
        decide_eq_false_iff_not, UInt16.le_iff_toNat_le, UInt16.reduceToNat] at hplain
      rw [isSurrogate, decide_eq_false_iff_not]
      omega

/-- A code unit that is no half keeps what stands before it and behind it apart. -/
theorem codePoints_append_cons {unit : UInt16} (h : isHalf unit = false) (text rest : JsString) :
    codePoints (text ++ unit :: rest) = codePoints text ++ unit.toNat :: codePoints rest := by
  induction text using codePoints.induct with
  | case1 => exact codePoints_cons (isLead_of_not_isHalf h) rest
  | case2 first =>
      simp [codePoints, isTrail_of_not_isHalf h, codePoints_cons (isLead_of_not_isHalf h)]
  | case3 first next text hpair ih =>
      simp only [List.cons_append, codePoints, hpair, if_true, ih]
  | case4 first next text hpair ih =>
      simp only [List.cons_append] at ih
      simp only [List.cons_append, codePoints, hpair, Bool.false_eq_true, if_false, ih]

theorem utf8Length_append_cons {unit : UInt16} (h : isHalf unit = false) (replacement : Nat)
    (text rest : JsString) :
    utf8Length replacement (text ++ unit :: rest) =
      utf8Length replacement text + utf8Length replacement [unit] + utf8Length replacement rest := by
  simp only [utf8Length, codePoints_append_cons h, codePoints, List.map_append, List.map_cons,
    List.map_nil, List.sum_append, List.sum_cons, List.sum_nil]
  omega

/-- What a receiver decodes from the UTF-8 bytes of a string: `?` for each lone surrogate. -/
def throughUtf8 : JsString → JsString
  | [] => []
  | [unit] => [if isHalf unit then 63 else unit]
  | unit :: next :: rest =>
      if isLead unit && isTrail next then unit :: next :: throughUtf8 rest
      else (if isHalf unit then 63 else unit) :: throughUtf8 (next :: rest)

theorem throughUtf8_cons {unit : UInt16} (h : isLead unit = false) (rest : JsString) :
    throughUtf8 (unit :: rest) = (if isHalf unit then 63 else unit) :: throughUtf8 rest := by
  cases rest with
  | nil => rfl
  | cons next rest => simp [throughUtf8, h]

theorem throughUtf8_append_cons {unit : UInt16} (h : isHalf unit = false) (text rest : JsString) :
    throughUtf8 (text ++ unit :: rest) = throughUtf8 text ++ unit :: throughUtf8 rest := by
  induction text using throughUtf8.induct with
  | case1 => simp [throughUtf8_cons (isLead_of_not_isHalf h), h, throughUtf8]
  | case2 first =>
      simp [throughUtf8, isTrail_of_not_isHalf h, throughUtf8_cons (isLead_of_not_isHalf h), h]
  | case3 first next text hpair ih =>
      simp only [List.cons_append, throughUtf8, hpair, if_true, ih]
  | case4 first next text hpair ih =>
      simp only [List.cons_append] at ih
      simp only [List.cons_append, throughUtf8, hpair, Bool.false_eq_true, if_false, ih]

theorem throughUtf8_length (text : JsString) : (throughUtf8 text).length = text.length := by
  induction text using throughUtf8.induct with
  | case1 => rfl
  | case2 unit => rfl
  | case3 unit next rest hpair ih => simp [throughUtf8, hpair, ih]
  | case4 unit next rest hpair ih =>
      simp only [throughUtf8, hpair, Bool.false_eq_true, if_false, List.length_cons, ih]

/-! ## White space and lists -/

/-- `WhiteSpace` and `LineTerminator` of ECMAScript. -/
def isSpace (unit : UInt16) : Bool :=
  (9 ≤ unit && unit ≤ 13) || unit == 32 || unit == 0xA0 || unit == 0x1680 ||
    (0x2000 ≤ unit && unit ≤ 0x200A) || unit == 0x2028 || unit == 0x2029 ||
    unit == 0x202F || unit == 0x205F || unit == 0x3000 || unit == 0xFEFF

/-- `trim`. -/
def trim (text : JsString) : JsString :=
  ((text.dropWhile isSpace).reverse.dropWhile isSpace).reverse

theorem trim_subset (text : JsString) : trim text ⊆ text := by
  intro unit hunit
  have hback : unit ∈ (text.dropWhile isSpace).reverse :=
    List.dropWhile_subset _ (List.mem_reverse.mp hunit)
  exact List.dropWhile_subset _ (List.mem_reverse.mp hback)

theorem trim_length_le (text : JsString) : (trim text).length ≤ text.length := by
  have hback := (List.dropWhile_suffix isSpace
    (l := (text.dropWhile isSpace).reverse)).length_le
  have hfront := (List.dropWhile_suffix isSpace (l := text)).length_le
  rw [List.length_reverse] at hback
  rw [trim, List.length_reverse]
  omega

/-- `split` by a separator of one code unit. -/
def split (separator : UInt16) (text : JsString) : List JsString := text.splitOn separator

/-- The first part reaches to the first separator. -/
theorem split_head? (separator : UInt16) (text : JsString) :
    (split separator text).head? = some (text.takeWhile (· != separator)) := by
  induction text with
  | nil => rfl
  | cons unit text ih =>
      unfold split at ih ⊢
      rw [List.splitOn_cons_eq_if_modifyHead]
      by_cases hunit : unit = separator
      · simp [hunit]
      · simp [hunit, List.head?_modifyHead, ih]

/-- What follows a separator does not reach the first part. -/
theorem split_append_head? (separator : UInt16) (text rest : JsString) :
    (split separator (text ++ separator :: rest)).head? = (split separator text).head? := by
  rw [split_head?, split_head?]
  induction text with
  | nil => simp
  | cons unit text ih =>
      by_cases hunit : unit = separator
      · simp [hunit]
      · simpa [hunit] using ih

/-- A text without the separator is its own first part. -/
theorem split_head?_of_notMem {separator : UInt16} {text : JsString} (h : separator ∉ text) :
    (split separator text).head? = some text := by
  rw [split_head?, List.takeWhile_eq_self_iff.mpr]
  intro unit hunit
  simp only [bne_iff_ne, ne_eq]
  rintro rfl
  exact h hunit

/-! ## Texts of a store -/

/-- The character of a code point, with a replacement for a lone surrogate. -/
def scalar (codePoint : Nat) : Char :=
  if isSurrogate codePoint then Char.ofNat 0xFFFD else Char.ofNat codePoint

/-- The text that a store keeps of a string. -/
def toText (text : JsString) : String := String.ofList ((codePoints text).map scalar)

theorem toNat_scalar {codePoint : Nat} (hpos : 0 < (scalar codePoint).toNat)
    (hbelow : (scalar codePoint).toNat < 0xD800) : (scalar codePoint).toNat = codePoint := by
  unfold scalar at hpos hbelow ⊢
  split at hbelow
  · exact absurd hbelow (by decide)
  next hscalar =>
    rw [if_neg hscalar] at hpos ⊢
    by_cases hvalid : codePoint.isValidChar
    · rw [Char.ofNat, dif_pos hvalid]
      rfl
    · rw [Char.ofNat, dif_neg hvalid] at hpos
      exact absurd hpos (Nat.lt_irrefl 0)

/-- No other code point than its own becomes a plain character. -/
theorem scalar_eq_iff {codePoint : Nat} {c : Char} (hbound : codePoint < 0x110000)
    (hc : c.toNat < 0xD800) : scalar codePoint = c ↔ codePoint = c.toNat := by
  unfold scalar
  split
  next hsurrogate =>
    rw [isSurrogate, decide_eq_true_eq] at hsurrogate
    refine iff_of_false ?_ (by omega)
    rintro rfl
    exact absurd hc (by decide)
  next hplain =>
    rw [isSurrogate, decide_eq_true_eq] at hplain
    have hvalid : codePoint.isValidChar := by
      rw [Nat.isValidChar]
      omega
    constructor
    · rintro rfl
      rw [Char.ofNat, dif_pos hvalid]
      rfl
    · rintro rfl
      exact Char.ofNat_toNat c

/-- A NUL is a code point of its own. -/
theorem nulFree_codePoints (text : JsString) :
    nulFree text = true ↔ ∀ c ∈ codePoints text, c ≠ 0 := by
  induction text using codePoints.induct with
  | case1 => simp [codePoints]
  | case2 unit => simp [codePoints, ← UInt16.toNat_inj]
  | case3 unit next rest hpair ih =>
      rw [codePoints, if_pos hpair, List.forall_mem_cons, ← ih, nulFree_cons, nulFree_cons]
      have hunits : unit ≠ 0 ∧ next ≠ 0 := by
        constructor <;>
          · rintro rfl
            exact absurd hpair (by simp [isLead, isTrail])
      simp [hunits]
  | case4 unit next rest hpair ih =>
      rw [codePoints, if_neg hpair, List.forall_mem_cons, ← ih, nulFree_cons]
      simp [← UInt16.toNat_inj]

/-- Code points below the surrogates are code units. -/
theorem codePoints_eq_map {text : JsString} (h : ∀ codePoint ∈ codePoints text, codePoint < 0xD800) :
    codePoints text = text.map (·.toNat) := by
  induction text using codePoints.induct with
  | case1 => rfl
  | case2 unit => rfl
  | case3 unit next rest hpair ih =>
      rw [codePoints, if_pos hpair] at h
      have hpoint := h _ List.mem_cons_self
      omega
  | case4 unit next rest hpair ih =>
      rw [codePoints, if_neg hpair] at h ⊢
      rw [ih fun codePoint hmem => h codePoint (List.mem_cons_of_mem _ hmem)]
      rfl

theorem codePoints_of_below {text : JsString} (h : ∀ unit ∈ text, unit.toNat < 0xD800) :
    codePoints text = text.map (·.toNat) := by
  induction text with
  | nil => rfl
  | cons unit text ih =>
      have hlead : isLead unit = false := by
        have hunit := h unit List.mem_cons_self
        simp only [isLead, Bool.and_eq_false_iff, decide_eq_false_iff_not, UInt16.le_iff_toNat_le,
          UInt16.reduceToNat]
        omega
      rw [codePoints_cons hlead, ih fun other hother => h other (List.mem_cons_of_mem unit hother)]
      rfl

/-- A text of characters below the surrogates is kept of its own string only. -/
theorem toText_eq_iff {text : JsString} {word : String}
    (hword : ∀ c ∈ word.toList, 0 < c.toNat ∧ c.toNat < 0xD800) :
    toText text = word ↔ text = lit word := by
  have hlit : lit word = word.toList.map (·.toNat.toUInt16) := by
    rw [lit, List.map_eq_flatMap]
    refine List.flatMap_congr fun c hc => ?_
    have hbelow := (hword c hc).2
    rw [units, if_pos (by omega)]
  have hunit : ∀ c ∈ word.toList, c.toNat.toUInt16.toNat = c.toNat := by
    intro c hc
    have hbelow := (hword c hc).2
    simp only [Nat.toUInt16_eq, UInt16.toNat_ofNat']
    omega
  have hscalar : ∀ c ∈ word.toList, scalar c.toNat = c := by
    intro c hc
    have hbelow := (hword c hc).2
    have hplain : isSurrogate c.toNat = false := by
      rw [isSurrogate, decide_eq_false_iff_not]
      omega
    rw [scalar, hplain, if_neg Bool.false_ne_true, Char.ofNat_toNat]
  constructor
  · intro h
    have hlist : (codePoints text).map scalar = word.toList := by
      rw [← h, toText, String.toList_ofList]
    have hscalars : ∀ codePoint ∈ codePoints text, (scalar codePoint).toNat = codePoint ∧
        codePoint < 0xD800 := by
      intro codePoint hmem
      have hc := hword (scalar codePoint) (hlist ▸ List.mem_map_of_mem hmem)
      have heq := toNat_scalar hc.1 hc.2
      exact ⟨heq, heq ▸ hc.2⟩
    have hcodes := codePoints_eq_map fun codePoint hmem => (hscalars codePoint hmem).2
    have hback : word.toList.map (·.toNat.toUInt16) = text.map fun unit => unit := by
      rw [← hlist, List.map_map]
      rw [hcodes] at hscalars ⊢
      rw [List.map_map]
      refine List.map_congr_left fun unit hunit => ?_
      simp [(hscalars unit.toNat (List.mem_map_of_mem hunit)).1]
    rw [hlit, hback, List.map_id']
  · rintro rfl
    have hbelow : ∀ unit ∈ lit word, unit.toNat < 0xD800 := by
      rw [hlit]
      intro unit hmem
      rcases List.mem_map.mp hmem with ⟨c, hc, rfl⟩
      rw [hunit c hc]
      exact (hword c hc).2
    have hchars : (word.toList.map fun c => scalar c.toNat.toUInt16.toNat) = word.toList := by
      conv_rhs => rw [← List.map_id' word.toList]
      refine List.map_congr_left fun c hc => ?_
      rw [hunit c hc, hscalar c hc]
    rw [toText, codePoints_of_below hbelow, hlit, List.map_map, List.map_map]
    exact (congrArg String.ofList hchars).trans (String.ofList_toList)

end Utf16
