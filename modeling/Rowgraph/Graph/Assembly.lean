import Rowgraph.Graph.Forest

/-!
# Assembly

Flat rows become objects. Each row is cut into the columns of its tables; objects that rows have in
common are recognised by their keys. Children of a many-valued navigation are recognised below their
parent, the child of a single-valued one is the first that its parent is given, and a part of a row
that begins with NULL is no object.
-/

set_option autoImplicit false

namespace Rowgraph

namespace Forest

/-- The node of a link's object in a row, below the given parent. -/
def placeChild (f : Forest) (l : Link) (owner : Owner) (part : Row) : Except Error (Nat × Forest) :=
  match l.cardinality with
  | .one =>
    match f.findOwned? owner with
    | some node => .ok (node, f)
    | none => do
      let object ← l.child.read part
      return f.add ⟨some owner, none, object⟩
  | .many => do
    let object ← l.child.read part
    return f.place (some owner) (l.child.key? object) object

/-- The nodes of one link's object in a row, if there is one, given those of the positions before. -/
def placeLink (f : Forest) (l : Link) (index : Nat) (part : Row) (nodes : List (Option Nat)) :
    Except Error (Option Nat × Forest) :=
  match (nodes[l.parent]?).join with
  | none => .ok (none, f)
  | some parent =>
    if part.isAbsent then .ok (none, f)
    else (placeChild f l ⟨parent, index⟩ part).map fun (node, f) => (some node, f)

/-- The nodes of a row's objects below its root, link by link. -/
def placeLinks (row : Row) :
    List Link → List (Nat × Nat) → Nat → List (Option Nat) → Forest → Except Error Forest
  | l :: links, (first, last) :: ranges, index, nodes, f => do
    let (node, f) ← placeLink f l index (row.slice first last) nodes
    placeLinks row links ranges (index + 1) (nodes ++ [node]) f
  | _, _, _, _, f => .ok f

/-- The forest with the objects of one more row. -/
def placeRow (root : ObjectType) (links : List Link) (split : SplitPlan) (f : Forest) (row : Row) :
    Except Error Forest := do
  match ← split.ranges row.width with
  | [] => return f
  | (first, last) :: ranges =>
    let object ← root.read (row.slice first last)
    let (node, f) := f.place none (root.key? object) object
    placeLinks row links ranges 0 [some node] f

/-- The forest of rows. -/
def ofRows (root : ObjectType) (links : List Link) (split : SplitPlan) (rows : List Row) :
    Except Error Forest :=
  rows.foldlM (placeRow root links split) {}

end Forest

namespace ObjectType

/-- The objects that rows of one table become. -/
def readAll (t : ObjectType) (rows : List Row) : Except Error (List Object) := rows.mapM t.read

/-- The objects that joined rows become. -/
def assemble (root : ObjectType) (joins : List Join) (split : SplitPlan) (rows : List Row) :
    Except Error (List Object) :=
  if joins.isEmpty then root.readAll rows
  else do
    let links ← Link.ofJoins root joins split
    let forest ← Forest.ofRows root links split rows
    forest.roots links

end ObjectType

end Rowgraph
