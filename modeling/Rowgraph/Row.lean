import Rowgraph.Value.Field

/-!
# Rows

A result row is a list of named values in column order. Names may repeat, as they do where joined
tables share a column name, and a look-up finds the first; a joined row is therefore cut into the
columns of each table before it is read.
-/

set_option autoImplicit false

namespace Rowgraph

/-- A row: its columns in order, each with its name. -/
structure Row where
  columns : List (String × Value)
  deriving DecidableEq

namespace Row

/-- The row without columns. -/
def empty : Row := ⟨[]⟩

/-- The number of columns. -/
def width (row : Row) : Nat := row.columns.length

/-- The row with one more column at its end. -/
def push (row : Row) (name : String) (value : Value) : Row := ⟨row.columns ++ [(name, value)]⟩

/-- The value of the first column of a name. -/
def find? (row : Row) (name : String) : Option Value := row.columns.lookup name

/-- The value of the first column of a name, NULL where there is none. -/
def findD (row : Row) (name : String) : Value := (row.find? name).getD .null

/-- The content that the row gives a field of a name. -/
def field (row : Row) (name : String) (type : FieldType) : Except FieldError Value :=
  match row.find? name with
  | some value => type.read value
  | none => .ok type.default

/-- The columns from `first` up to, but not including, `last`. -/
def slice (row : Row) (first last : Nat) : Row := ⟨(row.columns.drop first).take (last - first)⟩

/-- Does the row stand for no object? It does when its first column is NULL or missing. -/
def isAbsent (row : Row) : Bool :=
  match row.columns with
  | [] => true
  | (_, value) :: _ => value.isNull

end Row

end Rowgraph
