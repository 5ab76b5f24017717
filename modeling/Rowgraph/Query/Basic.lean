import Rowgraph.Alias
import Rowgraph.Grouping
import Rowgraph.Join.Basic
import Rowgraph.Selection

/-!
# Queries

What a query asks for: a root and the tables joined to it, which rows, in which order, which columns
or which groups, and which part of the result.
-/

set_option autoImplicit false

namespace Rowgraph

/-- The direction of an ordering. -/
inductive Direction where
  | asc
  | desc
  deriving DecidableEq

/-- The direction of an ordering that names none. -/
def Direction.default : Direction := .asc

/-- An item of an ordering. -/
structure OrderItem where
  expr : Expr
  direction : Direction := .default
  deriving DecidableEq

/-- A query. -/
structure Query where
  root : Entity
  joins : List Join := []
  filter : Option Expr := none
  orderBy : List OrderItem := []
  /-- The columns, if not all of them. -/
  picks : Option (List Pick) := none
  groupBy : List Expr := []
  /-- What is taken from each group, each column under its name. -/
  projection : Option (List (String × Expr)) := none
  distinct : Bool := false
  /-- The number of rows left out at the front. -/
  skip : Option Nat := none
  /-- The greatest number of rows that come back. -/
  take : Option Nat := none
  /-- May uncommitted rows be seen, if the query says so itself? -/
  dirtyRead : Option Bool := none

namespace Query

/-- The query for the rows that meet one more condition. -/
def filtered (q : Query) (condition : Expr) : Query :=
  { q with filter := some (match q.filter with
      | some earlier => .and earlier condition
      | none => condition) }

/-- The query with its rows grouped. -/
def grouped (q : Query) (columns : List Expr) (projection : List (String × Expr)) : Query :=
  { q with groupBy := columns, projection := some projection }

/-- Are the rows grouped? -/
def isGrouped (q : Query) : Bool := !q.groupBy.isEmpty

/-- The entities of the query by position. -/
def entities (q : Query) : List Entity := Join.entities q.root q.joins

/-- The scope of the query's expressions: every table goes under an alias. -/
def scope (q : Query) : Scope := ⟨q.entities, some (Alias.ofEntities q.entities)⟩

end Query

end Rowgraph
