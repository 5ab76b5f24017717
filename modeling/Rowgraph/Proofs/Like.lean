import Mathlib.Data.List.Infix
import Rowgraph.Like

/-!
# What a pattern matches

A pattern is read from the left: a percent sign is any text, an underscore any character, brackets
hold the characters of which one is meant, and behind the escape character the next one stands for
itself (`Like.parse`). The pattern made for a text at a place matches the subjects that have the text
there, and no others (`Like.holds_patternChars`).
-/

set_option autoImplicit false

namespace Rowgraph.Like

/-- A part of a pattern. -/
inductive Part where
  | anyText
  | anyChar
  | lit (c : Char)
  /-- One of a set of characters, as it is written between the brackets. -/
  | oneOf (set : List Char)

/-- How the next character of a pattern is read. -/
inductive Phase where
  | plain
  | escaped
  /-- Inside brackets, behind some characters of the set. -/
  | inSet (before : List Char)

/-- The parts of a pattern, unless it ends behind an escape character or inside brackets. -/
def parse : Phase → List Char → Option (List Part)
  | .plain, [] => some []
  | .escaped, [] => none
  | .inSet _, [] => none
  | .plain, c :: cs =>
    if c = escapeMark then parse .escaped cs
    else if c = '%' then (parse .plain cs).map (.anyText :: ·)
    else if c = '_' then (parse .plain cs).map (.anyChar :: ·)
    else if c = '[' then parse (.inSet []) cs
    else (parse .plain cs).map (.lit c :: ·)
  | .escaped, c :: cs => (parse .plain cs).map (.lit c :: ·)
  | .inSet before, c :: cs =>
    if c = ']' then (parse .plain cs).map (.oneOf before :: ·)
    else parse (.inSet (before ++ [c])) cs

/-- Is the character one of a list of characters and ranges? -/
def inRanges (c : Char) : List Char → Bool
  | [] => false
  | first :: '-' :: last :: rest => (first ≤ c && c ≤ last) || inRanges c rest
  | d :: rest => d == c || inRanges c rest

/-- Is the character in a set? A set that begins with a caret holds all others. -/
def inSet (c : Char) : List Char → Bool
  | '^' :: rest => !inRanges c rest
  | set => inRanges c set

/-- Do the parts match the whole subject? -/
def accepts : List Part → List Char → Bool
  | [], subject => subject.isEmpty
  | .anyText :: parts, subject => subject.tails.any (accepts parts)
  | _ :: _, [] => false
  | .anyChar :: parts, _ :: subject => accepts parts subject
  | .lit l :: parts, c :: subject => l == c && accepts parts subject
  | .oneOf set :: parts, c :: subject => inSet c set && accepts parts subject

/-- Does the pattern match the subject? A malformed pattern matches nothing. -/
def holds (pattern subject : List Char) : Bool :=
  match parse .plain pattern with
  | none => false
  | some parts => accepts parts subject

/-- Has the subject the text at the place? -/
def Finds (place : Place) (text subject : List Char) : Prop :=
  match place with
  | .anywhere => text <:+: subject
  | .start => text <+: subject
  | .ending => text <:+ subject

instance instDecidableFinds : (place : Place) → (text subject : List Char) →
    Decidable (Finds place text subject)
  | .anywhere, text, subject => inferInstanceAs (Decidable (text <:+: subject))
  | .start, text, subject => inferInstanceAs (Decidable (text <+: subject))
  | .ending, text, subject => inferInstanceAs (Decidable (text <:+ subject))

/-- An escaped text is read as its own characters. -/
theorem parse_escape (text rest : List Char) :
    parse .plain (escape text ++ rest) = (parse .plain rest).map (text.map .lit ++ ·) := by
  induction text with
  | nil => simp [escape]
  | cons c text ih =>
    have hcons : escape (c :: text) ++ rest =
        (if isSpecial c then [escapeMark, c] else [c]) ++ (escape text ++ rest) := by
      rw [escape, List.flatMap_cons, List.append_assoc]
      rfl
    have hmap : (parse .plain (escape text ++ rest)).map (Part.lit c :: ·) =
        (parse .plain rest).map ((c :: text).map .lit ++ ·) := by
      rw [ih, Option.map_map]
      rfl
    rw [hcons]
    cases hspecial : isSpecial c with
    -- the escape character takes the meaning of the next one away
    | true =>
      rw [if_pos rfl, List.cons_append, List.cons_append, List.nil_append, parse, if_pos rfl, parse]
      exact hmap
    | false =>
      simp only [isSpecial, Bool.or_eq_false_iff, beq_eq_false_iff_ne] at hspecial
      obtain ⟨⟨⟨hany, hone⟩, hset⟩, hescape⟩ := hspecial
      rw [if_neg Bool.false_ne_true, List.singleton_append, parse, if_neg hescape, if_neg hany,
        if_neg hone, if_neg hset]
      exact hmap

theorem accepts_anyText {parts : List Part} {subject : List Char} :
    accepts (.anyText :: parts) subject = true ↔
      ∃ before rest, subject = before ++ rest ∧ accepts parts rest = true := by
  rw [accepts, List.any_eq_true]
  constructor
  · rintro ⟨rest, hrest, hok⟩
    obtain ⟨before, rfl⟩ := (List.mem_tails ..).1 hrest
    exact ⟨before, rest, rfl, hok⟩
  · rintro ⟨before, rest, rfl, hok⟩
    exact ⟨rest, (List.mem_tails ..).2 (List.suffix_append before rest), hok⟩

theorem accepts_lits {parts : List Part} {text subject : List Char} :
    accepts (text.map .lit ++ parts) subject = true ↔
      ∃ rest, subject = text ++ rest ∧ accepts parts rest = true := by
  induction text generalizing subject with
  | nil => simp
  | cons c text ih =>
    cases subject with
    | nil => simp [accepts]
    | cons d subject =>
      rw [List.map_cons, List.cons_append, accepts, Bool.and_eq_true, beq_iff_eq, ih]
      constructor
      · rintro ⟨rfl, rest, rfl, hok⟩
        exact ⟨rest, rfl, hok⟩
      · rintro ⟨rest, heq, hok⟩
        obtain ⟨rfl, rfl⟩ := List.cons.inj heq
        exact ⟨rfl, rest, rfl, hok⟩

theorem accepts_nil {subject : List Char} : accepts [] subject = true ↔ subject = [] := by
  rw [accepts, List.isEmpty_iff]

/-- The parts of the pattern for a text. -/
theorem parse_patternChars (place : Place) (text : List Char) :
    parse .plain (patternChars place text) = some (match place with
      | .anywhere => .anyText :: (text.map .lit ++ [.anyText])
      | .start => text.map .lit ++ [.anyText]
      | .ending => .anyText :: (text.map .lit ++ [])) := by
  have hany : ∀ cs, parse .plain (anyText :: cs) = (parse .plain cs).map (.anyText :: ·) := by
    intro cs
    rw [parse, if_neg (by decide), if_pos (by decide)]
  have hlast : parse .plain [anyText] = some [.anyText] := by
    rw [hany, parse]
    rfl
  have hescape : parse .plain (escape text) = some (text.map .lit ++ []) := by
    have hnil := parse_escape text []
    rwa [List.append_nil, parse, Option.map_some] at hnil
  cases place with
  | anywhere => rw [patternChars, List.cons_append, hany, parse_escape, hlast]; rfl
  | start => rw [patternChars, parse_escape, hlast]; rfl
  | ending => rw [patternChars, hany, hescape]; rfl

/-- The pattern for a text at a place matches the subjects that have the text there, whatever
characters the text has. -/
theorem holds_patternChars (place : Place) (text subject : List Char) :
    holds (patternChars place text) subject = decide (Finds place text subject) := by
  rw [holds, parse_patternChars, Bool.eq_iff_iff, decide_eq_true_eq]
  cases place with
  | anywhere =>
    simp only [accepts_anyText, accepts_lits, accepts_nil]
    constructor
    · rintro ⟨before, -, rfl, after, rfl, -⟩
      exact ⟨before, after, List.append_assoc ..⟩
    · rintro ⟨before, after, rfl⟩
      exact ⟨before, text ++ after, List.append_assoc .., after, rfl, after, [], by simp, rfl⟩
  | start =>
    simp only [accepts_anyText, accepts_lits, accepts_nil]
    constructor
    · rintro ⟨after, rfl, -⟩
      exact List.prefix_append text after
    · rintro ⟨after, rfl⟩
      exact ⟨after, rfl, after, [], by simp, rfl⟩
  | ending =>
    simp only [accepts_anyText, accepts_lits, accepts_nil]
    constructor
    · rintro ⟨before, -, rfl, -, rfl, rfl⟩
      rw [List.append_nil]
      exact List.suffix_append before text
    · rintro ⟨before, rfl⟩
      exact ⟨before, text, rfl, [], by simp, rfl⟩

end Rowgraph.Like
