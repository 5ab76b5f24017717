import Rowgraph.Graph.Assembly

/-!
# Identities

Which objects a list of joined rows is about, said without nodes and numbers. An object is told from
others by its place in the graph: a root by its key, an object below another by its parent, by the
link and, where the link leads to many, by its key; without a key it is the object of its row and like
no other. The identities of a row follow from its parts, position by position (`Link.identity?`), and
the objects of the graph are the ones read where their identities first occur, each given the objects
of its children in the order of their first occurrence (`Assembled`).
-/

set_option autoImplicit false

namespace Rowgraph

/-- What tells an object from others at the same place. -/
inductive Mark where
  /-- Nothing: there is one object at the place. -/
  | only
  | key (k : Key)
  /-- The object has no key and is the one of its row. -/
  | inRow (row : Nat)
  deriving DecidableEq

/-- Which object of the graph is meant. -/
inductive Identity where
  | root (mark : Mark)
  | under (parent : Identity) (link : Nat) (mark : Mark)
  deriving DecidableEq

/-- The key in a mark. -/
def Mark.key? : Mark → Option Key
  | .key k => some k
  | _ => none

/-- The key that a type finds in a part of a row. -/
def ObjectType.keyIn? (t : ObjectType) (part : Row) : Option Key :=
  (t.read part).toOption.bind t.key?

/-- The mark of an object that may be one of many: its key, or else the number of its row. -/
def Mark.ofPart (t : ObjectType) (row : Nat) (part : Row) : Mark :=
  match t.keyIn? part with
  | some k => .key k
  | none => .inRow row

/-- The mark of an object below its parent. -/
def Link.mark (l : Link) (row : Nat) (part : Row) : Mark :=
  match l.cardinality with
  | .one => .only
  | .many => .ofPart l.child row part

/-- The identity of a link's object in a row, given those at the positions before: there is no object
below an absent one, and none in a part that begins with NULL. -/
def Link.identity? (l : Link) (row index : Nat) (part : Row) (before : List (Option Identity)) :
    Option Identity :=
  match before[l.parent]?.join with
  | none => none
  | some parent => if part.isAbsent then none else some (.under parent index (l.mark row part))

namespace Identity

/-- The mark. -/
def mark : Identity → Mark
  | .root mark => mark
  | .under _ _ mark => mark

/-- The position in the chain. -/
def position : Identity → Nat
  | .root _ => 0
  | .under _ link _ => link + 1

/-- The identity of the parent, unless it is a root that is meant. -/
def parent? : Identity → Option Identity
  | .root _ => none
  | .under parent _ _ => some parent

/-- The children among other identities, in their order. -/
def children (ids : List Identity) (id : Identity) : List Identity :=
  ids.filter fun c => c.parent? = some id

/-- The type of the object. -/
def type? (root : ObjectType) (links : List Link) : Identity → Option ObjectType
  | .root _ => some root
  | .under _ link _ => links[link]?.map (·.child)

/-- Can the identity's object be read from a part? -/
def Reads (root : ObjectType) (links : List Link) (part : Row) (id : Identity) : Prop :=
  ∃ type object, id.type? root links = some type ∧ type.read part = .ok object

/-- What puts the object below its parent. -/
def setter (links : List Link) : Identity → Setter
  | .root _ => fun parent _ => .ok parent
  | .under _ link _ =>
    match links[link]? with
    | none => fun parent _ => .ok parent
    | some l => l.setter

end Identity

/-- The parts of a row, one for each position. -/
def SplitPlan.parts (split : SplitPlan) (row : Row) : List Row :=
  match split.ranges row.width with
  | .ok ranges => ranges.map fun (first, last) => row.slice first last
  | .error _ => []

/-! ## Occurrences -/

/-- The objects of a row at the positions behind those given, each with the part it stands in. -/
def occurrencesBelow (row : Nat) :
    List Link → List Row → Nat → List (Option Identity) → List (Identity × Row)
  | l :: links, part :: parts, index, before =>
    let here := l.identity? row index part before
    (here.map fun id => (id, part)).toList ++
      occurrencesBelow row links parts (index + 1) (before ++ [here])
  | _, _, _, _ => []

/-- The objects of a row, given its parts. -/
def occurrencesIn (root : ObjectType) (links : List Link) (row : Nat) :
    List Row → List (Identity × Row)
  | [] => []
  | part :: parts =>
    let id := Identity.root (.ofPart root row part)
    (id, part) :: occurrencesBelow row links parts 0 [some id]

/-- The objects of rows numbered from `first` on: row by row, and in a row in the order of the
chain. -/
def occurrencesFrom (root : ObjectType) (links : List Link) (split : SplitPlan) (first : Nat)
    (rows : List Row) : List (Identity × Row) :=
  (rows.zipIdx first).flatMap fun (row, n) => occurrencesIn root links n (split.parts row)

/-- The objects of rows. -/
def occurrences (root : ObjectType) (links : List Link) (split : SplitPlan) (rows : List Row) :
    List (Identity × Row) :=
  occurrencesFrom root links split 0 rows

/-- The identities that occur, each once, in the order of their first occurrence. -/
def distinct (occ : List (Identity × Row)) : List Identity := (occ.map (·.1)).eraseDups

/-- The identities of the roots, in the order of their first occurrence. -/
def rootIdentities (occ : List (Identity × Row)) : List Identity :=
  (distinct occ).filter fun id => id.parent?.isNone

/-! ## The graph -/

/-- Is an identity given the object read from the part where it first occurs, after that object
received what the identity's children are given? -/
def AssembledAt (root : ObjectType) (links : List Link) (occ : List (Identity × Row))
    (whole : Identity → Object) (id : Identity) : Prop :=
  ∃ part type object, occ.lookup id = some part ∧ id.type? root links = some type ∧
    type.read part = .ok object ∧
    (id.children (distinct occ)).foldlM (fun o c => c.setter links o (whole c)) object =
      .ok (whole id)

/-- Objects given to all identities that occur. -/
def Assembled (root : ObjectType) (links : List Link) (occ : List (Identity × Row))
    (whole : Identity → Object) : Prop :=
  ∀ id ∈ distinct occ, AssembledAt root links occ whole id

/-- Are these the roots of the graph that joined rows describe? -/
def IsGraphOf (root : ObjectType) (links : List Link) (occ : List (Identity × Row))
    (objects : List Object) : Prop :=
  ∃ whole, Assembled root links occ whole ∧ objects = (rootIdentities occ).map whole

/-- Does a link do what a join's binding says? -/
def Link.IsOf (join : Join) (link : Link) : Prop :=
  ∃ binding, join.binding = some binding ∧
    link = ⟨join.parent, join.cardinality, binding.child, binding.setter⟩

end Rowgraph
