import Mathlib.Data.List.Infix
import Mathlib.Order.Notation

/-!
# Patterns of `LIKE`

Patterns over any alphabet with one character that stands for any sequence, one that stands
for any character and one that takes either of them, or itself, literally.

Main results:

- Definition {lit}`like`: the match, unless the pattern ends with a lone escape character.
- Theorem {lit}`matchTokens_any`: what the wildcard for a sequence matches.
- Theorem {lit}`like_within`: a pattern of escaped characters between two such wildcards finds
  them as a substring.
-/

namespace Like

variable {α : Type*}

/-- The characters that a pattern does not take literally. -/
structure Wildcards (α : Type*) where
  any : α
  one : α
  escape : α
  any_ne_one : any ≠ one
  any_ne_escape : any ≠ escape
  one_ne_escape : one ≠ escape

/-- What a pattern is made of. -/
inductive Token (α : Type*) where
  | literal (character : α)
  | one
  | any
deriving DecidableEq, Repr

section

variable [DecidableEq α] (w : Wildcards α)

namespace Wildcards

def isSpecial (character : α) : Bool :=
  character = w.escape || character = w.any || character = w.one

theorem isSpecial_eq_false {character : α} :
    w.isSpecial character = false ↔ character ≠ w.escape ∧ character ≠ w.any ∧ character ≠ w.one := by
  simp [isSpecial, and_assoc]

theorem isSpecial_eq_true {character : α} :
    w.isSpecial character = true ↔ character = w.escape ∨ character = w.any ∨ character = w.one := by
  simp [isSpecial, or_assoc]

end Wildcards

/-- The tokens of a pattern; a lone escape character at its end is an error. -/
def tokens : List α → Option (List (Token α))
  | [] => some []
  | [character] =>
      if character = w.escape then none
      else if character = w.any then some [.any]
      else if character = w.one then some [.one]
      else some [.literal character]
  | character :: next :: pattern =>
      if character = w.escape then (tokens pattern).map (.literal next :: ·)
      else if character = w.any then (tokens (next :: pattern)).map (.any :: ·)
      else if character = w.one then (tokens (next :: pattern)).map (.one :: ·)
      else (tokens (next :: pattern)).map (.literal character :: ·)

/-- Backtracking: behind a wildcard for a sequence the match goes on anywhere. -/
def matchTokens : List (Token α) → List α → Bool
  | [], text => text.isEmpty
  | .literal _ :: _, [] => false
  | .literal character :: pattern, next :: text =>
      decide (character = next) && matchTokens pattern text
  | .one :: _, [] => false
  | .one :: pattern, _ :: text => matchTokens pattern text
  | .any :: pattern, text => text.tails.any (matchTokens pattern)

/-- `text LIKE pattern`. -/
def like (text pattern : List α) : Option Bool := (tokens w pattern).map (matchTokens · text)

/-! ## Matching -/

/-- A wildcard matches any sequence. -/
theorem matchTokens_any {pattern : List (Token α)} {text : List α} :
    matchTokens (.any :: pattern) text = true ↔
      ∃ before after, text = before ++ after ∧ matchTokens pattern after = true := by
  rw [matchTokens, List.any_eq_true]
  constructor
  · rintro ⟨after, hafter, h⟩
    rcases (List.mem_tails _ _).mp hafter with ⟨before, hsplit⟩
    exact ⟨before, after, hsplit.symm, h⟩
  · rintro ⟨before, after, rfl, h⟩
    exact ⟨after, (List.mem_tails _ _).mpr (List.suffix_append before after), h⟩

/-- Literals match themselves. -/
theorem matchTokens_literals {literals : List α} {pattern : List (Token α)} {text : List α} :
    matchTokens (literals.map .literal ++ pattern) text = true ↔
      ∃ rest, text = literals ++ rest ∧ matchTokens pattern rest = true := by
  induction literals generalizing text with
  | nil => simp
  | cons character literals ih =>
      cases text with
      | nil => simp [matchTokens]
      | cons next text =>
          rw [List.map_cons, List.cons_append, matchTokens, Bool.and_eq_true, decide_eq_true_eq, ih]
          constructor
          · rintro ⟨rfl, rest, rfl, h⟩
            exact ⟨rest, rfl, h⟩
          · rintro ⟨rest, hsplit, h⟩
            rw [List.cons_append, List.cons.injEq] at hsplit
            exact ⟨hsplit.1.symm, rest, hsplit.2, h⟩

theorem matchTokens_any_nil (text : List α) : matchTokens [.any] text = true :=
  matchTokens_any.mpr ⟨text, [], (List.append_nil text).symm, rfl⟩

/-- Literals between wildcards are found as a substring. -/
theorem matchTokens_within {literals text : List α} :
    matchTokens (.any :: (literals.map .literal ++ [.any])) text = true ↔ literals <:+: text := by
  rw [matchTokens_any]
  simp only [matchTokens_literals, matchTokens_any_nil, and_true]
  constructor
  · rintro ⟨before, _, rfl, rest, rfl⟩
    exact ⟨before, rest, by rw [List.append_assoc]⟩
  · rintro ⟨before, rest, rfl⟩
    exact ⟨before, literals ++ rest, by rw [List.append_assoc], rest, rfl⟩

/-! ## Escaped text -/

/-- A text with an escape character in front of every special one. -/
def escaped (text : List α) : List α :=
  text.flatMap fun character =>
    if w.isSpecial character then [w.escape, character] else [character]

variable {w}

theorem escaped_cons_special {character : α} (h : w.isSpecial character = true) (text : List α) :
    escaped w (character :: text) = w.escape :: character :: escaped w text := by
  simp [escaped, h]

theorem escaped_cons_literal {character : α} (h : w.isSpecial character = false) (text : List α) :
    escaped w (character :: text) = character :: escaped w text := by
  simp [escaped, h]

theorem tokens_cons {character : α} (h : w.isSpecial character = false) (pattern : List α) :
    tokens w (character :: pattern) = (tokens w pattern).map (.literal character :: ·) := by
  rw [w.isSpecial_eq_false] at h
  cases pattern with
  | nil => simp [tokens, h]
  | cons next pattern => simp [tokens, h]

theorem tokens_escape (character : α) (pattern : List α) :
    tokens w (w.escape :: character :: pattern) =
      (tokens w pattern).map (.literal character :: ·) := by
  rw [tokens, if_pos rfl]

theorem tokens_any (pattern : List α) :
    tokens w (w.any :: pattern) = (tokens w pattern).map (.any :: ·) := by
  cases pattern with
  | nil => simp [tokens, w.any_ne_escape]
  | cons next pattern => simp [tokens, w.any_ne_escape]

/-- Escaped text is literal. -/
theorem tokens_escaped (text pattern : List α) :
    tokens w (escaped w text ++ pattern) =
      (tokens w pattern).map (text.map Token.literal ++ ·) := by
  induction text with
  | nil => simp [escaped]
  | cons character text ih =>
      cases hspecial : w.isSpecial character with
      | false => simp [escaped_cons_literal hspecial, tokens_cons hspecial, ih, Function.comp_def]
      | true => simp [escaped_cons_special hspecial, tokens_escape, ih, Function.comp_def]

/-- Escaped text between wildcards finds the text, and is no error. -/
theorem like_within (text value : List α) :
    like w text (w.any :: (escaped w value ++ [w.any])) = some (decide (value <:+: text)) := by
  have htokens : tokens w (w.any :: (escaped w value ++ [w.any])) =
      some (.any :: (value.map Token.literal ++ [.any])) := by
    rw [tokens_any, tokens_escaped, tokens_any]
    rfl
  rw [like, htokens, Option.map_some, Option.some.injEq, Bool.eq_iff_iff, decide_eq_true_eq,
    matchTokens_within]

end

/-! ## Folding -/

/-- A folding of characters that leaves the special ones alone. -/
structure Folding (w : Wildcards α) (fold : α → List α) : Prop where
  any : fold w.any = [w.any]
  one : fold w.one = [w.one]
  escape : fold w.escape = [w.escape]
  ordinary : ∀ character, character ≠ w.any → character ≠ w.one → character ≠ w.escape →
    ∀ folded ∈ fold character, folded ≠ w.any ∧ folded ≠ w.one ∧ folded ≠ w.escape

variable [DecidableEq α] {w : Wildcards α}

/-- `text ILIKE pattern`: both are folded. -/
def ilike (w : Wildcards α) (fold : α → List α) (text pattern : List α) : Option Bool :=
  like w (text.flatMap fold) (pattern.flatMap fold)

theorem escaped_ordinary {text : List α}
    (h : ∀ character ∈ text, w.isSpecial character = false) : escaped w text = text := by
  rw [escaped, List.flatMap_congr fun character hcharacter => by rw [h character hcharacter]]
  simp

/-- Folding an escaped text is escaping the folded one. -/
theorem Folding.escaped {fold : α → List α} (h : Folding w fold) (text : List α) :
    (Like.escaped w text).flatMap fold = Like.escaped w (text.flatMap fold) := by
  induction text with
  | nil => rfl
  | cons character text ih =>
      have hfirst : (if w.isSpecial character then [w.escape, character] else [character]).flatMap
          fold = Like.escaped w (fold character) := by
        cases hspecial : w.isSpecial character with
        | false =>
            rw [w.isSpecial_eq_false] at hspecial
            have hordinary := h.ordinary character hspecial.2.1 hspecial.2.2 hspecial.1
            rw [escaped_ordinary fun folded hfolded => w.isSpecial_eq_false.mpr
              ⟨(hordinary folded hfolded).2.2, (hordinary folded hfolded).1,
                (hordinary folded hfolded).2.1⟩]
            simp
        | true =>
            have hsame : fold character = [character] := by
              rcases w.isSpecial_eq_true.mp hspecial with rfl | rfl | rfl
              · exact h.escape
              · exact h.any
              · exact h.one
            simp [Like.escaped, hsame, h.escape, hspecial]
      rw [Like.escaped, List.flatMap_cons, List.flatMap_append, hfirst, ← Like.escaped, ih,
        List.flatMap_cons, Like.escaped, Like.escaped, Like.escaped, List.flatMap_append]

/-- With folding, the folded text is found. -/
theorem ilike_within {fold : α → List α} (h : Folding w fold) (text value : List α) :
    ilike w fold text (w.any :: (Like.escaped w value ++ [w.any])) =
      some (decide (value.flatMap fold <:+: text.flatMap fold)) := by
  have hpattern : (w.any :: (Like.escaped w value ++ [w.any])).flatMap fold =
      w.any :: (Like.escaped w (value.flatMap fold) ++ [w.any]) := by
    rw [List.flatMap_cons, List.flatMap_append, h.escaped, List.flatMap_singleton, h.any,
      List.singleton_append]
  rw [ilike, hpattern, like_within]

end Like
