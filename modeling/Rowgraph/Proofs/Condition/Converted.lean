import Rowgraph.Condition

/-!
# Conversions

A conversion around any part of a condition is of no account. An expression without its conversions
(`Expr.bare`) is compiled to the same condition and binds the same parameters (`ofExpr_bare`); where it is
refused, so is the expression with them, at the same place and for the same cause. Only what a message
says about an expression differs (`Error.bare`). Aggregates keep their conversions: nothing in them is
looked at before the condition is refused.
-/

set_option autoImplicit false

namespace Rowgraph

open Condition

/-! ## Expressions and errors without conversions -/

/-- The expression without the conversions outside its aggregates. -/
def Expr.bare : Expr → Expr
  | .and left right => .and left.bare right.bare
  | .or left right => .or left.bare right.bare
  | .not inner => .not inner.bare
  | .compare left op right => .compare left.bare op right.bare
  | .call target method arg => .call target.bare method arg.bare
  | .convert inner => inner.bare
  | e => e

/-- The cause with what was found freed of its conversions. -/
def Unsupported.bare : Unsupported → Unsupported
  | .condition found => .condition found.bare
  | .negated found => .negated found.bare
  | .leftSide found => .leftSide found.bare
  | .rightSide found => .rightSide found.bare
  | .listSource found => .listSource found.bare
  | .receiver method found => .receiver method found.bare
  | .pattern found => .pattern found.bare
  | cause => cause

/-- The error about the expression without conversions. -/
def Error.bare : Error → Error
  | .unsupported cause => .unsupported cause.bare
  | cause => cause

/-- An error becomes no error of another kind. -/
theorem Error.bare_cases (cause : Error) :
    cause.bare = cause ∨
      ∃ found, cause = .unsupported found ∧ cause.bare = .unsupported found.bare := by
  cases cause with
  | unsupported found => exact Or.inr ⟨found, rfl, rfl⟩
  | _ => exact Or.inl rfl

namespace Expr

theorem bare_unconverted (e : Expr) : e.unconverted.bare = e.bare := by
  induction e with
  | convert inner ih => exact ih
  | _ => rfl

/-- No conversion is left around the expression. -/
theorem unconverted_bare (e : Expr) : e.bare.unconverted = e.bare := by
  induction e with
  | convert inner ih => exact ih
  | _ => rfl

/-- What is inside the conversions around an expression, without the conversions further in. -/
theorem unconverted_bare_comm (e : Expr) : e.bare.unconverted = e.unconverted.bare := by
  rw [unconverted_bare, bare_unconverted]

theorem unconverted_ne_convert (e inner : Expr) : e.unconverted ≠ .convert inner := by
  induction e with
  | convert _ ih => exact ih
  | _ => exact Expr.noConfusion

end Expr

/-! ## Steps with another error -/

section Adapt

variable {ε ε' σ α β : Type}

/-- Only the result of a step speaks of its error. -/
theorem run_adapt (g : ε → ε') (x : ExceptT ε (StateM σ) α) (s : σ) :
    (x.adapt g).run.run s = ((x.run.run s).1.mapError g, (x.run.run s).2) := rfl

theorem adapt_pure (g : ε → ε') (a : α) :
    (pure a : ExceptT ε (StateM σ) α).adapt g = pure a := rfl

theorem adapt_liftM (g : ε → ε') (x : Except ε α) :
    (liftM x : ExceptT ε (StateM σ) α).adapt g = liftM (x.mapError g) := by
  cases x <;> rfl

theorem adapt_bind (g : ε → ε') (x : ExceptT ε (StateM σ) α) (f : α → ExceptT ε (StateM σ) β) :
    (x >>= f).adapt g = x.adapt g >>= fun a => (f a).adapt g := by
  funext s
  change ((x >>= f).adapt g).run.run s = (x.adapt g >>= fun a => (f a).adapt g).run.run s
  simp only [run_adapt, ExceptT.run_bind, StateT.run_bind]
  rcases x.run.run s with ⟨_ | a, s'⟩
  · rfl
  · rfl

end Adapt

/-! ## Compiling without conversions -/

namespace Condition

variable {scope : Scope}

theorem leftMember_bare (e : Expr) : leftMember e.bare = (leftMember e).mapError Error.bare := by
  rw [leftMember, leftMember, Expr.unconverted_bare_comm]
  cases h : e.unconverted with
  | convert inner => exact absurd h (e.unconverted_ne_convert inner)
  | _ => rfl

/-- A member that is not found is not found for reasons of its own. -/
theorem adapt_read (ref : MemberRef) : (read scope ref).adapt Error.bare = read scope ref := by
  have hresolve : (scope.resolve ref).mapError Error.bare = scope.resolve ref := by
    rw [Scope.resolve, Scope.entity]
    cases scope.entities[ref.position]? with
    | none => rfl
    | some entity =>
      simp only [bind, Except.bind, Entity.resolve]
      cases entity.member? ref.name with
      | none => rfl
      | some m =>
        cases hmapped : m.notMapped with
        | true =>
          simp only [hmapped, if_true]
          rfl
        | false =>
          simp only [hmapped, Bool.false_eq_true, if_false]
          rfl
  rw [read, adapt_bind, adapt_liftM, hresolve]
  rfl

theorem adapt_bindFor (m : Member) (value : Value) :
    (bindFor m value).adapt Error.bare = bindFor m value := rfl

theorem comparison_bare (left : Expr) (op : Comparison) (right : Expr) (composite : Bool) :
    comparison scope left.bare op right.bare composite =
      (comparison scope left op right composite).adapt Error.bare := by
  rw [comparison, comparison, adapt_bind, adapt_liftM, leftMember_bare]
  refine bind_congr fun ref => ?_
  rw [adapt_bind, adapt_read]
  refine bind_congr fun r => ?_
  have hvalue : ∀ v, (do
        let placeholder ← bindFor r.member v
        return scope.column r ++ [Token.word .space] ++ Tokens.spaced op.word ++ [placeholder]) =
      (do
        let placeholder ← bindFor r.member v
        return scope.column r ++ [Token.word .space] ++ Tokens.spaced op.word ++ [placeholder]
        : ConditionM (List Token)).adapt Error.bare := by
    intro v
    rw [adapt_bind, adapt_bindFor]
    rfl
  rw [Expr.unconverted_bare_comm]
  cases h : right.unconverted with
  | value v =>
    cases v with
    | null =>
      cases composite with
      | true => rfl
      | false => cases op <;> rfl
    | _ => exact hvalue _
  | member other =>
    dsimp only [Expr.bare]
    rw [adapt_bind, adapt_read]
    rfl
  | convert inner => exact absurd h (right.unconverted_ne_convert inner)
  | _ => rfl

theorem like_bare (ref : MemberRef) (arg : Expr) (place : Place) (negated : Bool) :
    like scope ref arg.bare place negated = (like scope ref arg place negated).adapt Error.bare := by
  rw [like, like, Expr.unconverted_bare_comm]
  cases h : arg.unconverted with
  | value v =>
    cases v with
    | text s =>
      dsimp only [Expr.bare]
      rw [adapt_bind, adapt_read]
      refine bind_congr fun r => ?_
      rw [adapt_bind, adapt_bindFor]
      rfl
    | _ => rfl
  | convert inner => exact absurd h (arg.unconverted_ne_convert inner)
  | _ => rfl

/-- The tests against the elements of a list cannot fail. -/
theorem adapt_elements (column : List Token) (m : Member) (negated : Bool) (values : List Value) :
    (elements column m negated values).adapt Error.bare = elements column m negated values := by
  induction values with
  | nil => rfl
  | cons value rest ih =>
    have htail : ∀ test : List Token, (do return test :: (← elements column m negated rest)
        : ConditionM (List (List Token))).adapt Error.bare =
          (do return test :: (← elements column m negated rest)) := by
      intro test
      rw [adapt_bind, ih]
      rfl
    rw [elements]
    cases value.isNull with
    | true =>
      simp only [if_true, pure_bind]
      exact htail _
    | false =>
      simp only [Bool.false_eq_true, if_false, pure_bind]
      rw [adapt_bind, adapt_bindFor]
      exact bind_congr fun placeholder => htail _

theorem membership_bare (values : List Value) (arg : Expr) (negated : Bool) :
    membership scope values arg.bare negated =
      (membership scope values arg negated).adapt Error.bare := by
  rw [membership, membership, adapt_bind, adapt_liftM, leftMember_bare]
  refine bind_congr fun ref => ?_
  rw [adapt_bind, adapt_read]
  refine bind_congr fun r => ?_
  cases values.isEmpty with
  | true => rfl
  | false =>
    simp only [Bool.false_eq_true, if_false]
    rw [adapt_bind, adapt_elements]
    rfl

theorem flag_bare (ref : MemberRef) (negated : Bool) :
    (flag scope ref negated).adapt Error.bare = flag scope ref negated := by
  rw [flag, adapt_bind, adapt_read]
  rfl

theorem call_bare (target : Expr) (method : Method) (arg : Expr) (negated composite : Bool) :
    call scope target.bare method arg.bare negated composite =
      (call scope target method arg negated composite).adapt Error.bare := by
  rw [call.eq_def, call.eq_def, Expr.unconverted_bare_comm]
  cases method with
  | equals => exact comparison_bare target _ arg composite
  | contains =>
    cases h : target.unconverted with
    | list values => exact membership_bare values arg negated
    | member ref =>
      -- whether the argument is a member is asked before the search is made
      dsimp only [Expr.bare]
      have hlike : like scope ref arg.bare .anywhere negated =
          (like scope ref arg .anywhere negated).adapt Error.bare := like_bare ref arg .anywhere negated
      rw [Expr.unconverted_bare_comm]
      cases harg : arg.unconverted with
      | member _ => rfl
      | convert inner => exact absurd harg (arg.unconverted_ne_convert inner)
      | _ => exact hlike
    | convert inner => exact absurd h (target.unconverted_ne_convert inner)
    | _ => rfl
  | startsWith =>
    cases h : target.unconverted with
    | member ref => exact like_bare ref arg .start negated
    | convert inner => exact absurd h (target.unconverted_ne_convert inner)
    | _ => rfl
  | endsWith =>
    cases h : target.unconverted with
    | member ref => exact like_bare ref arg .ending negated
    | convert inner => exact absurd h (target.unconverted_ne_convert inner)
    | _ => rfl

theorem junction_bare (w : Word) (left right : ConditionM (List Token)) (negated : Bool) :
    junction w (left.adapt Error.bare) (right.adapt Error.bare) negated =
      (junction w left right negated).adapt Error.bare := by
  rw [junction, junction]
  cases negated with
  | true => rfl
  | false =>
    simp only [Bool.false_eq_true, if_false, adapt_bind, adapt_pure]

/-- An expression without its conversions is compiled as with them, step by step. -/
theorem compile_bare (e : Expr) (negated composite : Bool) :
    compile scope e.bare negated composite = (compile scope e negated composite).adapt Error.bare := by
  induction e generalizing negated composite with
  | and left right ihl ihr =>
    rw [Expr.bare, compile, compile, ihl, ihr]
    exact junction_bare ..
  | or left right ihl ihr =>
    rw [Expr.bare, compile, compile, ihl, ihr]
    exact junction_bare ..
  | not inner ih => exact ih (!negated) composite
  | convert inner ih => exact ih negated composite
  | compare left op right => exact comparison_bare left _ right composite
  | call target method arg => exact call_bare target method arg negated composite
  | member ref => exact (flag_bare ref negated).symm
  | _ => cases negated <;> rfl

/-- Conversions change neither a condition nor the parameters it binds; and where an expression is
refused, it is refused without its conversions too, for the same cause and after binding the same. -/
theorem ofExpr_bare (scope : Scope) (e : Expr) (ps : Parameters) :
    (ofExpr scope e.bare ps).2 = (ofExpr scope e ps).2 ∧
      ((∃ c, (ofExpr scope e ps).1 = .ok c ∧ (ofExpr scope e.bare ps).1 = .ok c) ∨
        ∃ cause, (ofExpr scope e ps).1 = .error cause ∧
          (ofExpr scope e.bare ps).1 = .error cause.bare ∧
          (cause.bare = cause ∨
            ∃ found, cause = .unsupported found ∧ cause.bare = .unsupported found.bare)) := by
  have hrun : ofExpr scope e.bare ps =
      ((ofExpr scope e ps).1.mapError Error.bare, (ofExpr scope e ps).2) := by
    rw [ofExpr, ofExpr, compile_bare, run_adapt]
    rcases (compile scope e false false).run.run ⟨ps, []⟩ with ⟨_ | ts, s⟩
    · rfl
    · rfl
  rw [hrun]
  refine ⟨rfl, ?_⟩
  cases (ofExpr scope e ps).1 with
  | ok c => exact Or.inl ⟨c, rfl, rfl⟩
  | error cause => exact Or.inr ⟨cause, rfl, rfl, cause.bare_cases⟩

/-- Conversions around a negated test, its member and its value. -/
example : let scope := Scope.single { name := "Club", members := [{ name := "Id" }] }
    (ofExpr scope (.convert (.not (.convert (.compare (.convert (.convert (.member ⟨0, "Id"⟩))) .lt
      (.convert (.value (.int 7))))))) {}) =
      ofExpr scope (.not (.compare (.member ⟨0, "Id"⟩) .lt (.value (.int 7)))) {} := rfl

end Condition

end Rowgraph
