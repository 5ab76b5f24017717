import Rowgraph.Like
import Rowgraph.Parameter
import Rowgraph.Scope

/-!
# Conditions

A boolean expression as a search condition. No constant is written into the text: each becomes a
parameter named for the member it meets. Negation is carried inwards to the comparisons; a comparison
with NULL is a test for NULL, and stands on its own only, never inside AND or OR.
-/

set_option autoImplicit false

namespace Rowgraph

/-- A condition as tokens, with the members it reads in order of appearance, each once. -/
structure Condition where
  tokens : List Token
  members : List Resolved
  deriving DecidableEq

/-- What compiling a condition changes: the parameters bound and the members read. -/
structure ConditionState where
  params : Parameters
  members : List Resolved
  deriving DecidableEq

/-- A step of compiling a condition. What it changed before an error stays changed. -/
abbrev ConditionM := ExceptT Error (StateM ConditionState)

namespace Condition

/-- Binds a value that meets a member. -/
def bindFor (m : Member) (value : Value) : ConditionM Token := do
  let s ← get
  let (placeholder, params) := s.params.bind m.name value (some m)
  set { s with params := params }
  return placeholder

/-- Notes a member that is read. -/
def note (r : Resolved) : ConditionM Unit :=
  modify fun s => if r ∈ s.members then s else { s with members := s.members ++ [r] }

/-- Finds a member and notes it. -/
def read (scope : Scope) (ref : MemberRef) : ConditionM Resolved := do
  let r ← liftM (m := Except Error) (scope.resolve ref)
  note r
  return r

/-- The member on the left of a comparison. -/
def leftMember (e : Expr) : Except Error MemberRef :=
  match e.unconverted with
  | .member ref => .ok ref
  | found => .error (.unsupported (.leftSide found))

/-- A member compared with a value or with another member. -/
def comparison (scope : Scope) (left : Expr) (op : Comparison) (right : Expr)
    (composite : Bool) : ConditionM (List Token) := do
  let ref ← liftM (m := Except Error) (leftMember left)
  let r ← read scope ref
  let column := scope.column r ++ [Token.word .space]
  match right.unconverted with
  | .value .null =>
    if composite then throw .nullInComposite
    else
      match op with
      | .eq => return column ++ [Token.word .isNull]
      | .ne => return column ++ [Token.word .isNotNull]
      | op => throw (.unsupported (.orderAgainstNull op))
  | .value value =>
    let placeholder ← bindFor r.member value
    return column ++ Tokens.spaced op.word ++ [placeholder]
  | .member other =>
    let r' ← read scope other
    return column ++ Tokens.spaced op.word ++ scope.column r'
  | found => throw (.unsupported (.rightSide found))

/-- A member matched with a pattern made from a text. -/
def like (scope : Scope) (ref : MemberRef) (arg : Expr) (place : Place) (negated : Bool) :
    ConditionM (List Token) := do
  match arg.unconverted with
  | .value (.text s) =>
    let r ← read scope ref
    let placeholder ← bindFor r.member (.text (Like.pattern place s))
    return scope.column r ++ [Token.word .space] ++
      Tokens.spaced (if negated then .notLike else .like) ++
      [placeholder, Token.word .space, Token.word .likeEscape]
  | found => throw (.unsupported (.pattern found))

/-- The tests of a column against the elements of a list, one after the other. NULL elements are
tests for NULL. -/
def elements (column : List Token) (m : Member) (negated : Bool) :
    List Value → ConditionM (List (List Token))
  | [] => return []
  | value :: rest => do
    let test ←
      if value.isNull then
        pure (column ++ [Token.word .space, Token.word (if negated then .isNotNull else .isNull)])
      else do
        let placeholder ← bindFor m value
        pure (column ++ [Token.word .space] ++
          Tokens.spaced (if negated then .ne else .eq) ++ [placeholder])
    return test :: (← elements column m negated rest)

/-- Tests with a word between one and the next. -/
def joined (w : Word) : List (List Token) → List Token
  | [] => []
  | [test] => test
  | test :: next :: rest =>
    test ++ Token.word .space :: Tokens.spaced w ++ joined w (next :: rest)

/-- A member looked for in a list. No member is in the empty list. -/
def membership (scope : Scope) (values : List Value) (arg : Expr) (negated : Bool) :
    ConditionM (List Token) := do
  let ref ← liftM (m := Except Error) (leftMember arg)
  let r ← read scope ref
  if values.isEmpty then
    return [.int 1, .word .space] ++ Tokens.spaced .eq ++ [.int (if negated then 1 else 0)]
  else
    let tests ← elements (scope.column r) r.member negated values
    return Tokens.parenthesized (joined (if negated then .and else .or) tests)

/-- A member that is true or false by itself. -/
def flag (scope : Scope) (ref : MemberRef) (negated : Bool) : ConditionM (List Token) := do
  let r ← read scope ref
  return scope.column r ++ [Token.word .space] ++ Tokens.spaced .eq ++
    [.int (if negated then 0 else 1)]

/-- A call. -/
def call (scope : Scope) (target : Expr) (method : Method) (arg : Expr) (negated composite : Bool) :
    ConditionM (List Token) :=
  match method, target.unconverted with
  | .equals, _ => comparison scope target (if negated then .ne else .eq) arg composite
  | .contains, .list values => membership scope values arg negated
  | .contains, .member ref =>
    match arg.unconverted with
    | .member _ => throw (.unsupported (.listMember ref.name))
    | _ => like scope ref arg .anywhere negated
  | .startsWith, .member ref => like scope ref arg .start negated
  | .endsWith, .member ref => like scope ref arg .ending negated
  | .contains, found => throw (.unsupported (.listSource found))
  | method, found => throw (.unsupported (.receiver method found))

/-- Two conditions joined by AND or OR, each in parentheses. Their negation is not supported. -/
def junction (w : Word) (left right : ConditionM (List Token)) (negated : Bool) :
    ConditionM (List Token) := do
  if negated then throw (.unsupported .negatedJunction)
  else
    let l ← left
    let r ← right
    return Tokens.parenthesized l ++ [Token.word .space] ++ Tokens.spaced w ++
      Tokens.parenthesized r

/-- The condition of an expression, or of its negation; `composite` inside AND or OR. -/
def compile (scope : Scope) : Expr → (negated composite : Bool) → ConditionM (List Token)
  | .and left right, negated, _ =>
    junction .and (compile scope left false true) (compile scope right false true) negated
  | .or left right, negated, _ =>
    junction .or (compile scope left false true) (compile scope right false true) negated
  | .not inner, negated, composite => compile scope inner (!negated) composite
  | .compare left op right, negated, composite =>
    comparison scope left (if negated then op.negate else op) right composite
  | .call target method arg, negated, composite => call scope target method arg negated composite
  | .member ref, negated, _ => flag scope ref negated
  | .convert inner, negated, composite => compile scope inner negated composite
  | found, negated, _ => throw (.unsupported (if negated then .negated found else .condition found))

/-- Compiles an expression in a scope. The parameters that come back hold all that was bound, after an
error too. -/
def ofExpr (scope : Scope) (e : Expr) (params : Parameters) :
    Except Error Condition × Parameters :=
  let (result, state) := (compile scope e false false).run.run ⟨params, []⟩
  (result.map fun tokens => ⟨tokens, state.members⟩, state.params)

/-- Compiles an expression among other parts of a statement. -/
def bound (scope : Scope) (e : Expr) : BindM Condition := do
  let (result, params) := ofExpr scope e (← get)
  set params
  liftM (m := Except Error) result

/-- The text of the condition. -/
def sql (c : Condition) : String := Tokens.text c.tokens

/-- The names of the members it reads. -/
def memberNames (c : Condition) : List String := c.members.map (·.member.name)

end Condition

end Rowgraph
