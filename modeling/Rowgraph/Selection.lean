import Rowgraph.Scope
import Rowgraph.Split

/-!
# Selections

Which members a query returns, and under which names. The columns are grouped by table, in the order
of the request within a table; every joined table has to contribute one, since its first column is
where its part of a row begins.
-/

set_option autoImplicit false

namespace Rowgraph

/-- A selected expression, under a name of its own if it has one. -/
structure Pick where
  expr : Expr
  rename : Option String := none
  deriving DecidableEq

/-- A selected column and the name it has in result rows. -/
structure SelectedColumn where
  source : Resolved
  output : String
  deriving DecidableEq

/-- The columns of a query, as tokens, as a list, and with the split of its rows. -/
structure SelectList where
  tokens : List Token
  columns : List SelectedColumn
  split : SplitPlan
  deriving DecidableEq

namespace SelectedColumn

/-- The column as it is selected: under another name where its own is not the one wanted. -/
def tokens (scope : Scope) (c : SelectedColumn) : List Token :=
  scope.column c.source ++
    if c.source.member.columnName = c.output then []
    else [.word .space] ++ Tokens.spaced .as ++ [.ident c.output]

end SelectedColumn

namespace SelectList

/-- All mapped members of the entities of a scope, position by position. -/
def allColumns (scope : Scope) : List SelectedColumn :=
  (scope.entities.mapIdx fun position entity =>
    entity.mapped.map fun m => ⟨⟨position, entity, m⟩, m.name⟩).flatten

/-- The column that a selected expression asks for. -/
def pickColumn (scope : Scope) (pick : Pick) : Except Error SelectedColumn :=
  match pick.expr.member? with
  | none => .error (.unsupported (.selected pick.expr))
  | some ref => do
    let source ← scope.resolve ref
    return ⟨source, pick.rename.getD source.member.name⟩

/-- The columns asked for, in the order of the request. -/
def requested (scope : Scope) : Option (List Pick) → Except Error (List SelectedColumn)
  | none => .ok (allColumns scope)
  | some [] => .error .emptySelection
  | some picks => picks.mapM (pickColumn scope)

/-- The columns position by position, up to the length of the scope. -/
def grouped (scope : Scope) (columns : List SelectedColumn) : List SelectedColumn :=
  (List.range scope.entities.length).flatMap fun position =>
    columns.filter fun c => c.source.position == position

/-- The point where the columns of an entity's position begin. -/
def pointAt (columns : List SelectedColumn) (position : Nat) (entity : Entity) :
    Except Error SplitPoint :=
  match columns.findIdx? fun c => c.source.position == position with
  | none => .error (.uncoveredJoin entity.name)
  | some offset =>
    match columns[offset]? with
    | none => .error (.uncoveredJoin entity.name)
    | some c => .ok ⟨position, c.output, offset⟩

/-- The points of the joined tables. -/
def points (scope : Scope) (columns : List SelectedColumn) : Except Error (List SplitPoint) :=
  (scope.entities.zipIdx.drop 1).mapM fun (entity, position) => pointAt columns position entity

/-- The select list of a query; without a selection every mapped member of every table. -/
def ofPicks (scope : Scope) (picks : Option (List Pick)) : Except Error SelectList := do
  let columns := grouped scope (← requested scope picks)
  let points ← points scope columns
  return {
    tokens := Tokens.separated (columns.map (·.tokens scope))
    columns := columns
    split := ⟨points⟩ }

end SelectList

/-- The columns that an insertion gives back. The database makes up the identity of a row, so that an
identity column comes as a zero of its type. -/
def Entity.outputTokens (e : Entity) : List Token :=
  Tokens.separated (e.mapped.map fun m =>
    if m.identity then
      [.word .cast, .word .lparen, .int 0, .word .space] ++ Tokens.spaced .as ++
        [.type m.castType, .word .rparen, .word .space] ++ Tokens.spaced .as ++ [.ident m.name]
    else
      [.word .inserted, .word .dot, .ident m.columnName] ++
        if m.columnName = m.name then []
        else [.word .space] ++ Tokens.spaced .as ++ [.ident m.name])

end Rowgraph
