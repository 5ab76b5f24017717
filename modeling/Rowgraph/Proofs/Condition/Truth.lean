import Rowgraph.Proofs.Like
import Rowgraph.Scope

/-!
# Three-valued truth

What an expression means by itself, said without conditions and tokens: AND, OR and NOT are those of
Kleene's logic, a comparison with NULL on either side is unknown, and equality with the constant NULL
is a test for NULL (`Expr.truth?`). How values other than NULL compare, and what text a value is that
is not a text, is left to the server.
-/

set_option autoImplicit false

namespace Rowgraph

/-- The truth of a search condition. -/
inductive Truth where
  | holds
  | fails
  | unknown
  deriving DecidableEq

namespace Truth

/-- The truth of a test that is never unknown. -/
def ofBool (b : Bool) : Truth := if b then .holds else .fails

/-- Negation. -/
def not : Truth → Truth
  | .holds => .fails
  | .fails => .holds
  | .unknown => .unknown

/-- Conjunction: what fails decides. -/
def and : Truth → Truth → Truth
  | .fails, _ => .fails
  | _, .fails => .fails
  | .holds, .holds => .holds
  | _, _ => .unknown

/-- Disjunction: what holds decides. -/
def or : Truth → Truth → Truth
  | .holds, _ => .holds
  | _, .holds => .holds
  | .fails, .fails => .fails
  | _, _ => .unknown

@[simp] theorem not_not (t : Truth) : t.not.not = t := by cases t <;> rfl

@[simp] theorem not_ofBool (b : Bool) : (ofBool b).not = ofBool (!b) := by cases b <;> rfl

theorem not_or (s t : Truth) : (s.or t).not = s.not.and t.not := by cases s <;> cases t <;> rfl

@[simp] theorem fails_or (t : Truth) : fails.or t = t := by cases t <;> rfl

/-- De Morgan's law for a list. -/
theorem not_foldl_or (ts : List Truth) : ∀ t : Truth,
    (ts.foldl Truth.or t).not = (ts.map Truth.not).foldl Truth.and t.not := by
  induction ts with
  | nil =>
    intro t
    rfl
  | cons s ts ih =>
    intro t
    rw [List.foldl_cons, ih, not_or, List.map_cons, List.foldl_cons]

end Truth

/-- What the server makes of values. -/
structure Server where
  /-- The comparisons of values other than NULL. -/
  holds : Comparison → Value → Value → Bool
  /-- The characters of a value that is not a text. -/
  render : Value → List Char

namespace Server

/-- Does of two comparisons that negate each other always exactly one hold? -/
def IsDecisive (server : Server) : Prop :=
  ∀ op a b, a ≠ Value.null → b ≠ Value.null → server.holds op.negate a b = !server.holds op a b

/-- The characters of a value. -/
def chars (server : Server) : Value → List Char
  | .text s => s.toList
  | v => server.render v

/-- The truth of a comparison. -/
def compare (server : Server) (op : Comparison) (a b : Value) : Truth :=
  if a = .null ∨ b = .null then .unknown else .ofBool (server.holds op a b)

/-- Is the value the element of a list? A NULL among the elements is a test for NULL. -/
def isElement (server : Server) (v element : Value) : Truth :=
  if element = .null then .ofBool (v = .null) else server.compare .eq v element

/-- Is the value in the list? -/
def among (server : Server) (v : Value) (elements : List Value) : Truth :=
  (elements.map (server.isElement v)).foldl Truth.or .fails

/-- Has the value a text at a place? -/
def finds (server : Server) (place : Place) (text : String) (v : Value) : Truth :=
  if v = .null then .unknown else .ofBool (Like.Finds place text.toList (server.chars v))

/-- The negation of a comparison is the comparison that negates it. -/
theorem IsDecisive.compare_negate {server : Server} (h : server.IsDecisive) (op : Comparison)
    (a b : Value) : server.compare op.negate a b = (server.compare op a b).not := by
  rw [compare, compare]
  split
  · rfl
  · next hnull =>
    rw [not_or] at hnull
    rw [h op a b hnull.1 hnull.2, Truth.not_ofBool]

end Server

/-! ## Expressions -/

/-- The values of the columns: by position, then by name. -/
abbrev Tables := Nat → String → Value

namespace Tables

/-- The value of a member. -/
def value (tables : Tables) (r : Resolved) : Value := tables r.position r.member.columnName

end Tables

namespace Expr

/-- The value of an operand. -/
def value? (scope : Scope) (tables : Tables) : Expr → Option Value
  | .member ref => (scope.resolve ref).toOption.map tables.value
  | .value v => some v
  | .convert inner => inner.value? scope tables
  | _ => none

/-- The truth of a comparison of two operands. Against the constant NULL, equality and its negation
are tests for NULL. -/
def comparison? (server : Server) (scope : Scope) (tables : Tables) (left : Expr) (op : Comparison)
    (right : Expr) : Option Truth := do
  let a ← left.value? scope tables
  match right.unconverted, op with
  | .value .null, .eq => return .ofBool (a = .null)
  | .value .null, .ne => return .ofBool (a ≠ .null)
  | _, _ => return server.compare op a (← right.value? scope tables)

/-- The truth of a call. -/
def call? (server : Server) (scope : Scope) (tables : Tables) (target : Expr) (method : Method)
    (arg : Expr) : Option Truth :=
  match method, target.unconverted, arg.unconverted with
  | .equals, _, _ => comparison? server scope tables target .eq arg
  | .contains, .list elements, _ => (arg.value? scope tables).map (server.among · elements)
  | .contains, .member _, .value (.text s) =>
    (target.value? scope tables).map (server.finds .anywhere s)
  | .startsWith, .member _, .value (.text s) =>
    (target.value? scope tables).map (server.finds .start s)
  | .endsWith, .member _, .value (.text s) =>
    (target.value? scope tables).map (server.finds .ending s)
  | _, _, _ => none

/-- The truth of an expression, if it is one that can be true. A bare member means that it equals
one. -/
def truth? (server : Server) (scope : Scope) (tables : Tables) : Expr → Option Truth
  | .and left right => do
    return (← left.truth? server scope tables).and (← right.truth? server scope tables)
  | .or left right => do
    return (← left.truth? server scope tables).or (← right.truth? server scope tables)
  | .not inner => (inner.truth? server scope tables).map Truth.not
  | .convert inner => inner.truth? server scope tables
  | .compare left op right => comparison? server scope tables left op right
  | .call target method arg => call? server scope tables target method arg
  | .member ref => ((Expr.member ref).value? scope tables).map (server.compare .eq · (.int 1))
  | _ => none

end Expr

end Rowgraph
