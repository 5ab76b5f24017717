import Rowgraph.Value.Basic

/-!
# Expressions

What a condition, a selection, a grouping or an ordering is made of. A member is named together with
its position: position zero is the root of the statement, position `n` its `n`-th joined table.
-/

set_option autoImplicit false

namespace Rowgraph

/-- A member of the entity at a position. -/
structure MemberRef where
  position : Nat
  name : String
  deriving DecidableEq

/-- The six comparisons. -/
inductive Comparison where
  | eq
  | ne
  | lt
  | gt
  | lte
  | gte
  deriving DecidableEq

/-- The calls a condition may hold. `contains` asks for a part of a text, or for an element of a list
where its target is one. -/
inductive Method where
  | equals
  | contains
  | startsWith
  | endsWith
  deriving DecidableEq

/-- The aggregates of a grouped query. -/
inductive Aggregate where
  | count
  | max
  | min
  | sum
  | avg
  deriving DecidableEq

/-- An expression over the positions of a statement. -/
inductive Expr where
  /-- A member. -/
  | member (ref : MemberRef)
  /-- A constant. -/
  | value (v : Value)
  /-- A list of constants. -/
  | list (vs : List Value)
  | and (left right : Expr)
  | or (left right : Expr)
  | not (inner : Expr)
  | compare (left : Expr) (op : Comparison) (right : Expr)
  | call (target : Expr) (method : Method) (arg : Expr)
  /-- An aggregate of an argument. -/
  | aggregate (function : Aggregate) (arg : Expr)
  /-- An aggregate without an argument. -/
  | aggregateRows (function : Aggregate)
  /-- A conversion of the type around an expression. -/
  | convert (inner : Expr)
  /-- A column of a grouped query's result, by name. -/
  | output (name : String)
  deriving DecidableEq

namespace Comparison

/-- The comparison that holds of two values other than NULL exactly where this one does not. -/
def negate : Comparison → Comparison
  | .eq => .ne
  | .ne => .eq
  | .lt => .gte
  | .gte => .lt
  | .gt => .lte
  | .lte => .gt

/-- The name of the comparison in messages. -/
def label : Comparison → String
  | .eq => "Eq"
  | .ne => "Ne"
  | .lt => "Lt"
  | .gt => "Gt"
  | .lte => "Lte"
  | .gte => "Gte"

end Comparison

/-- The name of the call in messages. -/
def Method.label : Method → String
  | .equals => "Equals"
  | .contains => "Contains"
  | .startsWith => "StartsWith"
  | .endsWith => "EndsWith"

/-- The name of the function that computes the aggregate. -/
def Aggregate.functionName : Aggregate → String
  | .count => "COUNT"
  | .max => "MAX"
  | .min => "MIN"
  | .sum => "SUM"
  | .avg => "AVG"

namespace Expr

/-- The member, if the expression is one. -/
def member? : Expr → Option MemberRef
  | .member ref => some ref
  | _ => none

/-- The expression inside any conversions around it. -/
def unconverted : Expr → Expr
  | .convert inner => inner.unconverted
  | e => e

/-- What a message says about an expression. -/
def describe : Expr → String
  | .member ref => "member `" ++ ref.name ++ "` at position " ++ toString ref.position
  | .value v => "value " ++ v.inspect
  | .list _ => "list"
  | .and _ _ => "AND"
  | .or _ _ => "OR"
  | .not inner => "NOT " ++ inner.describe
  | .compare _ op _ => "comparison " ++ op.label
  | .call _ method _ => "call " ++ method.label
  | .aggregate function _ => "aggregate " ++ function.functionName
  | .aggregateRows function => "aggregate " ++ function.functionName
  | .convert inner => "conversion of " ++ inner.describe
  | .output name => "output `" ++ name ++ "`"

end Expr

end Rowgraph
