import Rowgraph.Value.Basic

/-!
# Fields

The types an object's field can have, and how a column value becomes a field's content. NULL, like a
column that was not selected, gives the default of the type.
-/

set_option autoImplicit false

namespace Rowgraph

/-- The content of a field, less the question whether it may be missing. -/
inductive FieldKind where
  | bool
  | int64
  | int32
  | float
  | text
  | bytes
  | uuid
  deriving DecidableEq

/-- The type of a field: optional fields hold NULL where others hold their zero. -/
structure FieldType where
  kind : FieldKind
  optional : Bool := false
  deriving DecidableEq

/-- Why a value does not fit a field. -/
inductive FieldError where
  | mismatch (expected : FieldKind) (found : Value)
  | overflow (n : Int64)
  | malformedUuid
  deriving DecidableEq

/-- The word for the content that was expected. -/
def FieldKind.noun : FieldKind → String
  | .bool => "bool"
  | .int64 => "integer"
  | .int32 => "integer"
  | .float => "float"
  | .text => "text"
  | .bytes => "bytes"
  | .uuid => "uuid"

/-- The text of the error. -/
def FieldError.message : FieldError → String
  | .mismatch expected found => "expected " ++ expected.noun ++ ", found " ++ found.inspect
  | .overflow n => toString n.toInt ++ " overflows i32"
  | .malformedUuid => "invalid uuid"

namespace FieldKind

/-- What a field of this kind holds when there is nothing to hold. -/
def zero : FieldKind → Value
  | .bool => .bool false
  | .int64 => .int 0
  | .int32 => .int 0
  | .float => .float ⟨0⟩
  | .text => .text ""
  | .bytes => .bytes []
  | .uuid => .uuid Uuid.nil

/-- An integer field's content. Truth values count as one and zero. -/
def readInt : Value → Except FieldError Int64
  | .null => .ok 0
  | .int n => .ok n
  | .bool b => .ok (if b then 1 else 0)
  | v => .error (.mismatch .int64 v)

/-- The content that a column value gives a field of this kind. -/
def read : FieldKind → Value → Except FieldError Value
  | .bool, .null => .ok (.bool false)
  | .bool, .bool b => .ok (.bool b)
  | .bool, .int n => .ok (.bool (n != 0))
  | .bool, v => .error (.mismatch .bool v)
  | .int64, v => (readInt v).map .int
  | .int32, v => do
    let n ← readInt v
    if -2147483648 ≤ n.toInt ∧ n.toInt ≤ 2147483647 then .ok (.int n) else .error (.overflow n)
  | .float, .null => .ok (.float ⟨0⟩)
  | .float, .float x => .ok (.float x)
  | .float, .int n => .ok (.float (Double.ofInt64 n))
  | .float, v => .error (.mismatch .float v)
  | .text, .null => .ok (.text "")
  | .text, .text s => .ok (.text s)
  | .text, v => .error (.mismatch .text v)
  | .bytes, .null => .ok (.bytes [])
  | .bytes, .bytes bs => .ok (.bytes bs)
  | .bytes, v => .error (.mismatch .bytes v)
  | .uuid, .null => .ok (.uuid Uuid.nil)
  | .uuid, .uuid u => .ok (.uuid u)
  | .uuid, .text s =>
    match Uuid.parse? s with
    | some u => .ok (.uuid u)
    | none => .error .malformedUuid
  | .uuid, v => .error (.mismatch .uuid v)

end FieldKind

namespace FieldType

/-- What the field holds when its column was not selected. -/
def default (t : FieldType) : Value := if t.optional then .null else t.kind.zero

/-- The content that a column value gives the field. -/
def read (t : FieldType) (v : Value) : Except FieldError Value :=
  if t.optional && v.isNull then .ok .null else t.kind.read v

end FieldType

end Rowgraph
