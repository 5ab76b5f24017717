import Rowgraph.Proofs.Condition.Plan
import Rowgraph.Proofs.Like

/-!
# Searches for a text

A call that looks for a text in a member binds a pattern, which the server reads with the escape character
that the condition names. Whatever characters the text has, the pattern is well formed and matches the
subjects that have the text at the place the call asks for, and no others (`compile_bindsPattern`).
-/

set_option autoImplicit false

namespace Rowgraph

open Condition

/-- Where a call looks for a text in a member, if that is what it does. -/
def Method.place? : Method → Option Place
  | .equals => none
  | .contains => some .anywhere
  | .startsWith => some .start
  | .endsWith => some .ending

/-- Does the parameter hold a pattern that is read to its end and matches just the subjects that have the
text at the place? -/
def Parameter.Matches (p : Parameter) (place : Place) (text : String) : Prop :=
  ∃ pattern, p.value = .text pattern ∧ (Like.parse .plain pattern.toList).isSome ∧
    ∀ subject : List Char, Like.holds pattern.toList subject = true ↔
      Like.Finds place text.toList subject

/-- The pattern for a text is one that matches the text at its place. -/
theorem matches_pattern {p : Parameter} {place : Place} {text : String}
    (h : p.value = .text (Like.pattern place text)) : p.Matches place text := by
  refine ⟨_, h, ?_, fun subject => ?_⟩
  · rw [Like.pattern, String.toList_ofList, Like.parse_patternChars]
    rfl
  · rw [Like.pattern, String.toList_ofList, Like.holds_patternChars, decide_eq_true_eq]

/-- The escape character of patterns is the one that a condition names. -/
theorem chars_likeEscape :
    (Token.word .likeEscape).chars = "ESCAPE '".toList ++ [Like.escapeMark, '\''] := by
  decide

section Search

variable {scope : Scope} {target arg : Expr} {method : Method} {place : Place} {ref : MemberRef}
  {r : Resolved} {text : String}

/-- A call that looks for a text in a member has one test. -/
theorem plan?_search (hplace : method.place? = some place) (htarget : target.unconverted = .member ref)
    (hr : scope.resolve ref = .ok r) (harg : arg.unconverted = .value (.text text))
    (negated composite : Bool) :
    (Expr.call target method arg).plan? scope negated composite =
      some (.check (.like r place text negated)) := by
  have hlike : arg.likeCheck? scope ref place negated = some (.like r place text negated) := by
    rw [Expr.likeCheck?, harg]
    simp only [hr, Except.toOption, Option.map_some]
  rw [Expr.plan?, Expr.callCheck?.eq_def, htarget]
  cases method with
  | equals => cases hplace
  | _ =>
    cases hplace
    simp only [hlike, Option.map_some]

/-- A search for a text, negated or not and wherever it stands in a condition, tests the member against one
more parameter, which matches the text at its place. -/
theorem compile_bindsPattern (hplace : method.place? = some place)
    (htarget : target.unconverted = .member ref) (hr : scope.resolve ref = .ok r)
    (harg : arg.unconverted = .value (.text text)) (negated composite : Bool) (s : ConditionState) :
    ∃ p s', Yields (compile scope (.call target method arg) negated composite) s
        (scope.column r ++ [.word .space] ++ Tokens.spaced (if negated then .notLike else .like) ++
          [p.placeholder, .word .space, .word .likeEscape]) s' ∧
      (Token.word .likeEscape).chars = "ESCAPE '".toList ++ [Like.escapeMark, '\''] ∧
      s'.params.entries = s.params.entries ++ [p] ∧ p.Matches place text := by
  let p := (s.noting r).params.entry r.member.name (.text (Like.pattern place text)) (some r.member)
  have hentries : ((Check.like r place text negated).emit scope s).2.params.entries =
      s.params.entries ++ [p] := by
    rw [← noting_params s r]
    rfl
  exact ⟨p, _, compile_iff.2 ⟨_, plan?_search hplace htarget hr harg negated composite, rfl⟩,
    chars_likeEscape, hentries, matches_pattern rfl⟩

end Search

/-- A text that begins and ends with characters that patterns give a meaning. -/
def bracketText : String := "[100%_\\"

/-- Clubs, which have names. -/
def namedClub : Entity := { name := "Club", members := [{ name := "Name" }] }

theorem compile_bindsPattern_bracketText :
    Method.endsWith.place? = some .ending ∧
      (Expr.convert (.member ⟨0, "Name"⟩)).unconverted = .member ⟨0, "Name"⟩ ∧
      (Scope.single namedClub).resolve ⟨0, "Name"⟩ = .ok ⟨0, namedClub, { name := "Name" }⟩ ∧
      (Expr.value (.text bracketText)).unconverted = .value (.text bracketText) ∧
      ∃ p s', Yields (compile (Scope.single namedClub)
          (.call (.convert (.member ⟨0, "Name"⟩)) .endsWith (.value (.text bracketText))) true true)
          ⟨{}, []⟩ ([.ident "Name", .word .space, .word .notLike, .word .space, p.placeholder,
            .word .space, .word .likeEscape]) s' ∧
        (Token.word .likeEscape).chars = "ESCAPE '".toList ++ [Like.escapeMark, '\''] ∧
        s'.params.entries = [p] ∧ p.Matches .ending bracketText :=
  have hplace : Method.endsWith.place? = some .ending := rfl
  have htarget : (Expr.convert (.member ⟨0, "Name"⟩)).unconverted = .member ⟨0, "Name"⟩ := rfl
  have hr : (Scope.single namedClub).resolve ⟨0, "Name"⟩ =
      .ok ⟨0, namedClub, { name := "Name" }⟩ := rfl
  have harg : (Expr.value (.text bracketText)).unconverted = .value (.text bracketText) := rfl
  ⟨hplace, htarget, hr, harg, compile_bindsPattern hplace htarget hr harg true true ⟨{}, []⟩⟩

end Rowgraph
