import Rowgraph.Graph.Link

/-!
# Forests

Objects that are not yet attached to each other. An object is a node, numbered in the order of
creation, that remembers where it belongs; a parent is created before its children. Attaching
therefore goes from the newest node to the oldest, so that a parent gets its children complete and in
the order of their creation.
-/

set_option autoImplicit false

namespace Rowgraph

/-- Where a node belongs, unless it is a root: under which node, by which link. -/
structure Owner where
  node : Nat
  link : Nat
  deriving DecidableEq

/-- An object not yet attached. -/
structure Node where
  owner : Option Owner
  key : Option Key
  object : Object

/-- The nodes in the order of creation. -/
structure Forest where
  nodes : List Node := []

namespace Forest

/-- The forest with one more node, and the node's number. -/
def add (f : Forest) (node : Node) : Nat × Forest := (f.nodes.length, ⟨f.nodes ++ [node]⟩)

/-- The first node of an owner. -/
def findOwned? (f : Forest) (owner : Owner) : Option Nat :=
  f.nodes.findIdx? fun n => n.owner == some owner

/-- The node of an owner, or the root, that has a key. -/
def findKey? (f : Forest) (owner : Option Owner) (key : Key) : Option Nat :=
  f.nodes.findIdx? fun n => n.owner == owner && n.key == some key

/-- The node of an object: one of the same owner and key, or else a new one. An object without a key
is like no other. -/
def place (f : Forest) (owner : Option Owner) (key : Option Key) (object : Object) : Nat × Forest :=
  match key.bind (f.findKey? owner) with
  | some node => (node, f)
  | none => f.add ⟨owner, key, object⟩

/-- Attaches children, each with the number of its link, to a parent. -/
def attachAll (links : List Link) : Object → List (Nat × Object) → Except Error Object
  | parent, [] => .ok parent
  | parent, (link, child) :: rest =>
    match links[link]? with
    | none => attachAll links parent rest
    | some l => do
      let parent ← l.setter parent child
      attachAll links parent rest

/-- The roots of nodes given from the newest to the oldest, where some children of them, the oldest
first, are complete. -/
def rootsFrom (links : List Link) : List Node → List (Owner × Object) → Except Error (List Object)
  | [], _ => .ok []
  | node :: older, complete => do
    let (mine, others) := complete.partition fun c => c.1.node == older.length
    let object ← attachAll links node.object (mine.map fun c => (c.1.link, c.2))
    match node.owner with
    | none => return (← rootsFrom links older others) ++ [object]
    | some owner => rootsFrom links older ((owner, object) :: others)

/-- The roots, in the order of creation, with everything attached that belongs below them. -/
def roots (f : Forest) (links : List Link) : Except Error (List Object) :=
  rootsFrom links f.nodes.reverse []

end Forest

end Rowgraph
