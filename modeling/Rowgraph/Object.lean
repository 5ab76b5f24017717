import Rowgraph.Entity
import Rowgraph.Row

/-!
# Objects

An object is a row of its own members and the objects attached to it. A type of objects says how a
row becomes one and where its identity comes from; a navigation says where the objects of one type
hang below those of another.
-/

set_option autoImplicit false

namespace Rowgraph

/-- How many objects a navigation leads to. -/
inductive Cardinality where
  | one
  | many
  deriving DecidableEq

/-- A place of an object for attached objects of one type. -/
structure Cell where
  slot : Nat
  type : Nat
  cardinality : Cardinality
  deriving DecidableEq

/-- An object: the number of its type, its row, and what is attached to it in the order of
attachment. -/
inductive Object where
  | mk (type : Nat) (row : Row) (attached : List (Cell × Object))

namespace Object

/-- The number of the object's type. -/
def type : Object → Nat
  | .mk type _ _ => type

/-- The object's own members. -/
def row : Object → Row
  | .mk _ row _ => row

/-- The attached objects, each with its place. -/
def attached : Object → List (Cell × Object)
  | .mk _ _ attached => attached

/-- An object to which nothing is attached. -/
def bare (type : Nat) (row : Row) : Object := .mk type row []

/-- The objects at a place. -/
def childrenAt (o : Object) (cell : Cell) : List Object :=
  (o.attached.filter fun a => a.1 == cell).map (·.2)

/-- The object with a child attached. A place for one object gives up the child it had. -/
def attach (o : Object) (cell : Cell) (child : Object) : Object :=
  match cell.cardinality with
  | .one => .mk o.type o.row (o.attached.filter (fun a => a.1 != cell) ++ [(cell, child)])
  | .many => .mk o.type o.row (o.attached ++ [(cell, child)])

end Object

/-- A type of objects, told from other types by its number. -/
structure ObjectType where
  id : Nat
  entity : Entity
  /-- The row of the object that a result row becomes. -/
  decode : Row → Except Error Row

namespace ObjectType

/-- The content of each field, in order. -/
def readFields (fields : List (String × FieldType)) (row : Row) : Except Error Row :=
  Row.mk <$> fields.mapM fun (name, type) =>
    match row.field name type with
    | .ok value => .ok (name, value)
    | .error cause => .error (.result (.field cause))

/-- The type whose objects hold the given fields. -/
def ofFields (id : Nat) (entity : Entity) (fields : List (String × FieldType)) : ObjectType where
  id := id
  entity := entity
  decode := readFields fields

/-- The object that a result row becomes. -/
def read (t : ObjectType) (row : Row) : Except Error Object := (t.decode row).map (Object.bare t.id)

/-- The identity of an object: its key member, unless that is missing or the zero of its type. -/
def key? (t : ObjectType) (o : Object) : Option Key :=
  t.entity.keyMember?.bind fun m => (o.row.find? m.name).bind Value.toKey?

end ObjectType

/-- Attaches an object, the second argument, to its parent. -/
abbrev Setter := Object → Object → Except Error Object

/-- Where the objects of one type hang below those of another. -/
structure Navigation where
  name : String
  /-- The number of the parents' type. -/
  owner : Nat
  child : ObjectType
  slot : Nat
  cardinality : Cardinality

namespace Navigation

/-- The place of the children in their parent. -/
def cell (n : Navigation) : Cell := ⟨n.slot, n.child.id, n.cardinality⟩

/-- Attaches a child to a parent, both of the navigation's types. -/
def setter (n : Navigation) : Setter := fun parent child =>
  if parent.type ≠ n.owner then .error (.result (.foreignParent n.name))
  else if child.type ≠ n.child.id then .error (.result (.foreignChild n.name))
  else .ok (parent.attach n.cell child)

end Navigation

end Rowgraph
