import Rowgraph.Caches

/-!
# Joins

A chain of joins follows the root of a statement: the table of the `n`-th join stands at position
`n`. A join names the position of the object it belongs to, which has to come before its own, and
may be bound to a navigation, by which its objects are put into the graph.
-/

set_option autoImplicit false

namespace Rowgraph

/-- Are roots without a joined row left out, or kept? -/
inductive JoinKind where
  | inner
  | left
  deriving DecidableEq

/-- What puts a join's objects into the graph. -/
structure Binding where
  /-- The number of the parents' type. -/
  parentType : Nat
  child : ObjectType
  setter : Setter

/-- One joined table. -/
structure Join where
  entity : Entity
  /-- The position of the object that the joined objects belong to. -/
  parent : Nat
  navigation : Option String := none
  cardinality : Cardinality := .one
  kind : JoinKind := .inner
  condition : Option Expr := none
  binding : Option Binding := none

namespace Join

/-- A join that filters or feeds a grouping, and puts no object into a graph. -/
def unbound (entity : Entity) (parent : Nat) : Join where
  entity := entity
  parent := parent

/-- A join bound to a navigation. Its setter is the one kept for the navigation. -/
def bound (navigation : Navigation) (parent : Nat) (caches : Caches) : Join × Caches :=
  let (setter, caches) := caches.setter navigation.key navigation.setter
  ({  entity := navigation.child.entity
      parent := parent
      navigation := some navigation.name
      cardinality := navigation.cardinality
      binding := some ⟨navigation.owner, navigation.child, setter⟩ }, caches)

/-- The join on a condition over the positions up to its own. -/
def on (j : Join) (condition : Expr) : Join := { j with condition := some condition }

/-- The join as an outer join. -/
def left (j : Join) : Join := { j with kind := .left }

/-- The greatest number of tables in a chain, its root included. -/
def maxTables : Nat := 7

/-- Checks a join at a position. -/
def checkAt (position : Nat) (j : Join) : Except Error Unit :=
  if position ≤ j.parent then .error (.invalidNavigation j.entity.name j.parent)
  else if j.condition.isNone then .error (.missingJoinCondition j.entity.name)
  else .ok ()

/-- Checks a part of a chain that begins at a position. -/
def checkFrom : Nat → List Join → Except Error Unit
  | _, [] => .ok ()
  | position, j :: rest => do
    checkAt position j
    checkFrom (position + 1) rest

/-- Checks a chain: its length first, then join by join. -/
def check (joins : List Join) : Except Error Unit :=
  if maxTables < joins.length + 1 then .error (.joinFanOut (joins.length + 1))
  else checkFrom 1 joins

/-- The entities of a chain by position. -/
def entities (root : Entity) (joins : List Join) : List Entity := root :: joins.map (·.entity)

end Join

end Rowgraph
