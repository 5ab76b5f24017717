import Rowgraph.Scope

/-!
# Groupings

The columns a query groups by, and what it projects from each group: aggregates of members, and the
grouping columns themselves.
-/

set_option autoImplicit false

namespace Rowgraph

/-- A column of a grouped query, with the grouping column it passes on if it is no aggregate. -/
structure ProjectedColumn where
  name : String
  source : Option Resolved
  deriving DecidableEq

/-- What a grouped query projects. -/
structure Projection where
  tokens : List Token
  columns : List ProjectedColumn
  deriving DecidableEq

namespace Grouping

/-- The member that a grouping expression names. -/
def groupedMember (scope : Scope) (e : Expr) : Except Error Resolved :=
  match e.member? with
  | none => .error (.unsupported (.groupingColumn e))
  | some ref => scope.resolve ref

/-- The grouping columns. -/
def columns (scope : Scope) (exprs : List Expr) : Except Error (List Resolved) :=
  exprs.mapM (groupedMember scope)

/-- The columns as tokens. -/
def tokens (scope : Scope) (grouped : List Resolved) : List Token :=
  Tokens.separated (grouped.map scope.column)

/-- The digits, and those after the point, of the decimal that an average is computed in. -/
def averagePrecision : Int × Int := (38, 6)

/-- A column as an average reads it. -/
def averaged (column : List Token) : List Token :=
  [.word .cast, .word .lparen] ++ column ++ [.word .space] ++ Tokens.spaced .as ++
    [.type "decimal", .word .lparen, .int averagePrecision.1, .word .comma, .word .space,
      .int averagePrecision.2, .word .rparen, .word .rparen]

/-- A call of an aggregate function. -/
def application (function : Aggregate) (arg : List Token) : List Token :=
  [.function function.functionName, .word .lparen] ++ arg ++ [.word .rparen]

/-- An aggregate of a member. -/
def aggregate (scope : Scope) (function : Aggregate) (arg : Expr) : Except Error (List Token) :=
  match arg.member? with
  | none => .error (.unsupported (.aggregateArgument arg))
  | some ref => do
    let column := scope.column (← scope.resolve ref)
    return application function (if function = .avg then averaged column else column)

/-- An aggregate of whole rows, which only a count can be. -/
def aggregateRows (function : Aggregate) : Except Error (List Token) :=
  if function = .count then .ok (application function [.word .star])
  else .error (.unsupported (.missingArgument function))

/-- One projected expression: its tokens, and the grouping column it passes on. -/
def item (scope : Scope) (grouped : List Resolved) :
    Expr → Except Error (List Token × Option Resolved)
  | .aggregate function arg => do return (← aggregate scope function arg, none)
  | .aggregateRows function => do return (← aggregateRows function, none)
  | .member ref => do
    let r ← scope.resolve ref
    if r ∈ grouped then return (scope.column r, some r)
    else .error (.unsupported (.ungrouped ref.name))
  | found => .error (.unsupported (.projected found))

/-- What a grouped query projects, each column under its name. -/
def project (scope : Scope) (grouped : List Resolved) (items : List (String × Expr)) :
    Except Error Projection :=
  if items.isEmpty then .error .emptySelection
  else do
    let columns ← items.mapM fun (name, e) => do
      let (tokens, source) ← item scope grouped e
      return (tokens ++ [Token.word .space] ++ Tokens.spaced .as ++ [Token.ident name],
        ProjectedColumn.mk name source)
    return ⟨Tokens.separated (columns.map (·.1)), columns.map (·.2)⟩

end Grouping

end Rowgraph
