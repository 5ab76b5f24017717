import Rowgraph.Join.Basic
import Rowgraph.Split

/-!
# Links

What a chain of joins has to fulfil before rows can be made into objects: a split point for each
join, every join bound to a navigation, and each of them hanging below objects of its parents' type.
-/

set_option autoImplicit false

namespace Rowgraph

/-- A join as far as objects are concerned. -/
structure Link where
  /-- The position of the parents. -/
  parent : Nat
  cardinality : Cardinality
  child : ObjectType
  setter : Setter

namespace Link

/-- The links of a part of a chain, behind positions of the given types. -/
def ofJoinsFrom : List Nat → List Join → Except Error (List Link)
  | _, [] => .ok []
  | types, j :: rest =>
    match j.binding with
    | none => .error (.result (.unboundJoin j.entity.name))
    | some b =>
      if types[j.parent]? = some b.parentType then
        (ofJoinsFrom (types ++ [b.child.id]) rest).map
          (⟨j.parent, j.cardinality, b.child, b.setter⟩ :: ·)
      else .error (.invalidNavigation j.entity.name j.parent)

/-- The links of a chain below a root type. -/
def ofJoins (root : ObjectType) (joins : List Join) (split : SplitPlan) : Except Error (List Link) :=
  if split.points.length ≠ joins.length then
    .error (.result (.splitCount joins.length split.points.length))
  else ofJoinsFrom [root.id] joins

end Link

end Rowgraph
