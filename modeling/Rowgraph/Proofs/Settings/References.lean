import Rowgraph.Environment
import Rowgraph.Proofs.Text.Reading

/-!
# Texts with references

A text that refers to the environment is literals, references in braces, references without them and dollar signs
that begin none, one behind the other (`Environment.Segment`). Each is read as what it is if what is behind it cannot
be taken for a part of it (`Segment.Parted`), and then the text is expanded segment by segment (`expand_segments`).
What is put in for a reference is behind the reader when the next segment is looked at, so a value with a dollar
sign in it is not read again.
-/

set_option autoImplicit false

namespace Rowgraph.Environment

/-- A part of a text that refers to variables. -/
inductive Segment where
  | literal (cs : List Char)
  | braced (name : List Char)
  | bare (name : List Char)
  /-- A dollar sign that begins no reference. -/
  | dollar
  deriving DecidableEq

namespace Segment

/-- The segment as it is written. -/
def chars : Segment → List Char
  | .literal cs => cs
  | .braced name => '$' :: '\x7b' :: (name ++ ['\x7d'])
  | .bare name => '$' :: name
  | .dollar => ['$']

/-- The segments one behind the other. -/
def text (segments : List Segment) : List Char := segments.flatMap chars

/-- The variable that the segment refers to. -/
def name? : Segment → Option String
  | .braced name => some (String.ofList name)
  | .bare name => some (String.ofList name)
  | _ => none

/-- The variables that are referred to, in order. -/
def names (segments : List Segment) : List String := segments.filterMap name?

/-- What the segment stands for where its variable is set. -/
def value (env : Environment) : Segment → List Char
  | .literal cs => cs
  | .braced name => ((env (String.ofList name)).getD "").toList
  | .bare name => ((env (String.ofList name)).getD "").toList
  | .dollar => ['$']

/-- Does each of the segments end where the next one begins? A literal has no dollar sign in it, and a name in braces
no closing brace. Behind a name without braces stands no character of a name; behind a lone dollar sign neither such a
character nor an opening brace. -/
inductive Parted : List Segment → Prop
  | nil : Parted []
  | literal {cs : List Char} {rest : List Segment} (free : '$' ∉ cs) (others : Parted rest) :
      Parted (.literal cs :: rest)
  | braced {name : List Char} {rest : List Segment} (named : name ≠ []) (closed : '\x7d' ∉ name)
      (others : Parted rest) : Parted (.braced name :: rest)
  | bare {name : List Char} {rest : List Segment} (named : name ≠ [])
      (parts : ∀ c ∈ name, isNamePart c = true) (ends : ∀ c ∈ (text rest).head?, isNamePart c = false)
      (others : Parted rest) : Parted (.bare name :: rest)
  | dollar {rest : List Segment} (unbraced : (text rest).head? ≠ some '\x7b')
      (ends : ∀ c ∈ (text rest).head?, isNamePart c = false) (others : Parted rest) :
      Parted (.dollar :: rest)

end Segment

/-! ## Where a name ends -/

variable {env : Environment} {name rest : List Char}

/-- A name in braces ends at the closing brace. -/
theorem cutName_braced (closed : '\x7d' ∉ name) (rest : List Char) :
    cutName ('\x7b' :: (name ++ '\x7d' :: rest)) = (name, rest) := by
  have hrun := bne_of_not_mem closed
  have hstop := bne_head?_cons '\x7d' rest
  rw [cutName, takeWhile_run hrun hstop, dropWhile_run hrun hstop]
  rfl

/-- A name without braces ends in front of a character that no name has. -/
theorem cutName_bare {name : List Char} (parts : ∀ c ∈ name, isNamePart c = true)
    (ends : ∀ c ∈ rest.head?, isNamePart c = false) (unbraced : (name ++ rest).head? ≠ some '\x7b') :
    cutName (name ++ rest) = (name, rest) := by
  rw [cutName.eq_def]
  split
  · next tail heq =>
    rw [heq] at unbraced
    exact absurd rfl unbraced
  · rw [takeWhile_run parts ends, dropWhile_run parts ends]

/-! ## One segment in front of a text -/

/-- Characters that are no dollar sign are left as they are. -/
theorem expandChars_literal {cs : List Char} (free : '$' ∉ cs) (rest : List Char) :
    expandChars env (cs ++ rest) = (expandChars env rest).map (cs ++ ·) := by
  induction cs with
  | nil =>
    rw [List.nil_append]
    cases expandChars env rest <;> rfl
  | cons c cs ih =>
    rw [List.mem_cons, not_or] at free
    rw [List.cons_append, expandChars, if_neg (Ne.symm free.1), ih free.2]
    cases expandChars env rest <;> rfl

/-- A dollar sign whose name is cut off as the empty one stays. -/
theorem expandChars_dollar {cs : List Char} (hcut : cutName cs = ([], rest)) :
    expandChars env ('$' :: cs) = (expandChars env rest).map ('$' :: ·) := by
  rw [expandChars, if_pos rfl, hcut]
  dsimp only [valueOf, List.isEmpty_nil, if_true]
  cases expandChars env rest <;> rfl

/-- A reference to a variable that is set is replaced by its value; the rest is expanded apart from that. -/
theorem expandChars_set {cs : List Char} {value : String} (hcut : cutName cs = (name, rest)) (named : name ≠ [])
    (hvalue : env (String.ofList name) = some value) :
    expandChars env ('$' :: cs) = (expandChars env rest).map (value.toList ++ ·) := by
  have hfound : valueOf env name = .ok value.toList := by
    rw [valueOf, List.isEmpty_eq_false_iff.2 named, if_neg Bool.false_ne_true, hvalue]
  rw [expandChars, if_pos rfl, hcut, hfound]
  cases expandChars env rest <;> rfl

/-- A reference to a variable that is not set ends the expansion, whatever is behind it. -/
theorem expandChars_unset {cs : List Char} (hcut : cutName cs = (name, rest)) (named : name ≠ [])
    (hvalue : env (String.ofList name) = none) :
    expandChars env ('$' :: cs) = .error (.missingVariable (String.ofList name)) := by
  have hmissing : valueOf env name = .error (.missingVariable (String.ofList name)) := by
    rw [valueOf, List.isEmpty_eq_false_iff.2 named, if_neg Bool.false_ne_true, hvalue]
  rw [expandChars, if_pos rfl, hcut, hmissing]
  rfl

/-! ## Segments one behind the other -/

namespace Segment

/-- What a text of segments becomes: the values in order, or the error about the first variable that is not set. -/
def outcome (env : Environment) (segments : List Segment) : Except SettingsError (List Char) :=
  match (names segments).find? fun name => (env name).isNone with
  | none => .ok (segments.flatMap (value env))
  | some name => .error (.missingVariable name)

/-- A segment without a variable that is not set adds its value in front. -/
theorem outcome_cons {s : Segment} (hset : ∀ name ∈ s.name?, (env name).isSome = true) (rest : List Segment) :
    outcome env (s :: rest) = (outcome env rest).map (s.value env ++ ·) := by
  have hnames : ((names (s :: rest)).find? fun name => (env name).isNone) =
      (names rest).find? fun name => (env name).isNone := by
    rw [names, List.filterMap_cons, names]
    cases hname : s.name? with
    | none => rfl
    | some name =>
      have hsome : ((env name).isNone) = false := by
        rw [Option.isNone_eq_false_iff]
        exact hset name hname
      dsimp only
      rw [List.find?_cons, hsome]
  rw [outcome, outcome, hnames, List.flatMap_cons]
  cases (names rest).find? fun name => (env name).isNone <;> rfl

/-- A segment whose variable is not set decides the outcome. -/
theorem outcome_unset {s : Segment} {name : String} (hname : s.name? = some name) (hvalue : env name = none)
    (rest : List Segment) : outcome env (s :: rest) = .error (.missingVariable name) := by
  rw [outcome, names, List.filterMap_cons, hname]
  dsimp only
  rw [List.find?_cons, hvalue]
  rfl

/-- A reference in front of segments that are read as they are meant. -/
theorem expandChars_reference {s : Segment} {cs name : List Char} {segments : List Segment}
    (hcut : cutName cs = (name, text segments)) (named : name ≠ [])
    (hname : s.name? = some (String.ofList name))
    (hvalue : s.value env = ((env (String.ofList name)).getD "").toList)
    (ih : expandChars env (text segments) = outcome env segments) :
    expandChars env ('$' :: cs) = outcome env (s :: segments) := by
  cases hfound : env (String.ofList name) with
  | none => rw [expandChars_unset hcut named hfound, outcome_unset hname hfound]
  | some value =>
    have hset : ∀ n ∈ s.name?, (env n).isSome = true := by
      intro n hn
      rw [hname] at hn
      cases hn
      rw [hfound]
      rfl
    rw [expandChars_set hcut named hfound, ih, outcome_cons hset, hvalue, hfound]
    rfl

theorem text_cons (s : Segment) (rest : List Segment) : text (s :: rest) = s.chars ++ text rest :=
  List.flatMap_cons

/-- Segments that are parted are expanded one by one. -/
theorem expandChars_text {segments : List Segment} (h : Parted segments) :
    expandChars env (text segments) = outcome env segments := by
  induction h with
  | nil => rw [text, List.flatMap_nil, expandChars]; rfl
  | @literal cs rest free _ ih =>
    rw [text_cons, chars, expandChars_literal free, ih]
    exact (outcome_cons (s := .literal cs) (by simp [name?]) rest).symm
  | @braced name rest named closed _ ih =>
    have hcut := cutName_braced closed (text rest)
    rw [text_cons, chars, List.cons_append, List.cons_append, List.append_assoc]
    exact expandChars_reference hcut named rfl rfl ih
  | @bare name rest named parts ends _ ih =>
    -- the first character of the name is none that opens braces
    have hunbraced : (name ++ text rest).head? ≠ some '\x7b' := by
      obtain ⟨c, tail, rfl⟩ := List.exists_cons_of_ne_nil named
      intro heq
      cases heq
      exact absurd (parts _ List.mem_cons_self) (by decide)
    rw [text_cons, chars, List.cons_append]
    exact expandChars_reference (cutName_bare parts ends hunbraced) named rfl rfl ih
  | @dollar rest unbraced ends _ ih =>
    have hcut : cutName (text rest) = ([], text rest) :=
      cutName_bare (fun c hc => absurd hc List.not_mem_nil) ends unbraced
    rw [text_cons, chars, List.singleton_append, expandChars_dollar hcut, ih]
    exact (outcome_cons (s := .dollar) (by simp [name?]) rest).symm

end Segment

open Segment in
/-- A text of parted segments is expanded to their values in order, which are put in as they are; if a variable that
it refers to is not set, the first such variable is the error. -/
theorem expand_segments (env : Environment) {segments : List Segment} (h : Parted segments) :
    env.expand (String.ofList (text segments)) =
      match (names segments).find? fun name => (env name).isNone with
      | none => .ok (String.ofList (segments.flatMap (value env)))
      | some name => .error (.missingVariable name) := by
  rw [expand, String.toList_ofList, expandChars_text h, Segment.outcome]
  cases (names segments).find? fun name => (env name).isNone <;> rfl

open Segment in
/-- References with nothing between them, one of them behind a lone dollar sign, and a value that looks like a
reference. Without the variables, the first of them is missed. -/
theorem expand_segments_adjacent :
    let segments : List Segment := [.dollar, .bare "VAR".toList, .braced "A b".toList, .bare "B_".toList,
      .literal "-".toList, .dollar]
    let env : Environment := ofList [("VAR", "$B_"), ("A b", ""), ("B_", "7")]
    Parted segments ∧ env.expand "$$VAR$\x7bA b\x7d$B_-$" = .ok "$$B_7-$" ∧
      (ofList [("B_", "7")]).expand "$$VAR$\x7bA b\x7d$B_-$" = .error (.missingVariable "VAR") := by
  intro segments env
  have hparted : Parted segments := by
    have hparts : (∀ c ∈ "VAR".toList, isNamePart c = true) ∧ ∀ c ∈ "B_".toList, isNamePart c = true :=
      ⟨List.all_eq_true.1 (by decide), List.all_eq_true.1 (by decide)⟩
    refine .dollar (by decide) ?_ (.bare (by decide) hparts.1 ?_ ?_)
    · rintro c ⟨⟩
      decide
    · rintro c ⟨⟩
      decide
    refine .braced (by decide) (by decide) (.bare (by decide) hparts.2 ?_ (.literal (by decide) ?_))
    · rintro c ⟨⟩
      decide
    refine .dollar (by decide) ?_ .nil
    rintro c ⟨⟩
  have htext : String.ofList (text segments) = "$$VAR$\x7bA b\x7d$B_-$" := by decide
  have hall : ((names segments).find? fun name => (env name).isNone) = none := by decide
  have hvalues : String.ofList (segments.flatMap (value env)) = "$$B_7-$" := by decide
  have hmissing : ((names segments).find? fun name => ((ofList [("B_", "7")]) name).isNone) = some "VAR" := by decide
  refine ⟨hparted, ?_, ?_⟩
  · rw [← htext, expand_segments env hparted, hall, ← hvalues]
  · rw [← htext, expand_segments (ofList [("B_", "7")]) hparted, hmissing]

end Rowgraph.Environment
