import Rowgraph.Error
import Rowgraph.Unicode.Uppercase

/-!
# Entities

How a type is mapped onto a table. A member may be left out of the mapping, may be part of the key,
may be generated by the database, and may have to be given on insertion.
-/

set_option autoImplicit false

namespace Rowgraph

/-- The mapping of one member onto a column. -/
structure Member where
  name : String
  /-- The column's name, where it is not the member's. -/
  column : Option String := none
  typeName : Option String := none
  /-- The greatest length, where one is declared. -/
  length : Option Nat := none
  required : Bool := false
  notMapped : Bool := false
  key : Bool := false
  /-- Generated by the database on insertion. -/
  identity : Bool := false
  deriving DecidableEq

/-- The mapping of a type onto a table. -/
structure Entity where
  name : String
  /-- The table's name, where it is not the type's. -/
  table : Option String := none
  schema : Option String := none
  /-- The name of the connection that reaches the table. -/
  connection : Option String := none
  /-- The table type that bulk statements ship rows in. -/
  tableType : Option String := none
  members : List Member := []
  deriving DecidableEq

namespace Member

/-- The name of the column. -/
def columnName (m : Member) : String := m.column.getD m.name

/-- The type a placeholder for the column is cast to. -/
def castType (m : Member) : String :=
  String.ofList (Unicode.uppercase (m.typeName.getD "int").toList)

end Member

namespace Entity

/-- The name of the table. -/
def tableName (e : Entity) : String := e.table.getD e.name

/-- The first member of a name. -/
def member? (e : Entity) (name : String) : Option Member :=
  e.members.find? fun m => m.name == name

/-- The member of a name, if it may occur in a statement. -/
def resolve (e : Entity) (name : String) : Except Error Member :=
  match e.member? name with
  | none => .error (.unknownMember e.name name)
  | some m => if m.notMapped then .error (.notMapped e.name name) else .ok m

/-- The members that have columns. -/
def mapped (e : Entity) : List Member := e.members.filter fun m => !m.notMapped

/-- The members that an insertion writes. -/
def insertable (e : Entity) : List Member := e.mapped.filter fun m => !m.identity

/-- The members that an insertion from a template has to give. -/
def required (e : Entity) : List Member := e.mapped.filter fun m => m.required

/-- The members of the key. -/
def keyMembers (e : Entity) : List Member := e.mapped.filter fun m => m.key

/-- The member that gives an object its identity. -/
def keyMember? (e : Entity) : Option Member := e.keyMembers.head?

/-- The table type of bulk statements, which they cannot do without. -/
def requireTableType (e : Entity) : Except Error String :=
  match e.tableType with
  | some name => .ok name
  | none => .error (.missingTableType e.name)

end Entity

end Rowgraph
