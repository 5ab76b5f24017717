import Rowgraph.Decimal.Double
import Rowgraph.Text.Quoted
import Rowgraph.Uuid

/-!
# Values

What a parameter carries to the server and a column carries back, and the identity that a value gives
to the object it is the key of.
-/

set_option autoImplicit false

namespace Rowgraph

/-- A value of a parameter or of a result column. -/
inductive Value where
  | null
  | bool (b : Bool)
  | int (n : Int64)
  | float (x : Double)
  | text (s : String)
  | bytes (bs : List UInt8)
  | uuid (u : Uuid)
  deriving DecidableEq

instance : Inhabited Value := ⟨.null⟩

/-- An identity: a value other than NULL and the zero of its type. Floats count by their bits. -/
inductive Key where
  | bool (b : Bool)
  | int (n : Int64)
  | float (x : Double)
  | text (s : String)
  | bytes (bs : List UInt8)
  | uuid (u : Uuid)
  deriving DecidableEq

namespace Value

/-- Is the value NULL? -/
def isNull : Value → Bool
  | .null => true
  | _ => false

/-- Is the value a number? -/
def isNumeric : Value → Bool
  | .int _ => true
  | .float _ => true
  | _ => false

/-- Is the value a text? -/
def isText : Value → Bool
  | .text _ => true
  | _ => false

/-- NULL, or the zero of the value's type: false, zero of either sign, nothing in it, the nil UUID. -/
def isDefault : Value → Bool
  | .null => true
  | .bool b => !b
  | .int n => n == 0
  | .float x => x.isZero
  | .text s => s.isEmpty
  | .bytes bs => bs.isEmpty
  | .uuid u => u.isNil

/-- The identity the value gives, if it gives one. -/
def toKey? (v : Value) : Option Key :=
  if v.isDefault then none
  else
    match v with
    | .null => none
    | .bool b => some (.bool b)
    | .int n => some (.int n)
    | .float x => some (.float x)
    | .text s => some (.text s)
    | .bytes bs => some (.bytes bs)
    | .uuid u => some (.uuid u)

/-- Inside a message a number from a ten-thousandth up to, but not including, ten to the sixteenth is
written with a point, and of two nearest decimals the upper is taken. -/
def messageNotation : Notation where
  plainFrom := -4
  plainBelow := 16
  tie := .up

/-- The value as a message shows it: the name of its type and its content in parentheses. -/
def inspect : Value → String
  | .null => "Null"
  | .bool b => "Bool(" ++ (if b then "true" else "false") ++ ")"
  | .int n => "Int(" ++ toString n.toInt ++ ")"
  | .float x => "Float(" ++ x.render messageNotation ++ ")"
  | .text s => "Text(" ++ Quoted.encode s ++ ")"
  | .bytes bs =>
    "Bytes([" ++ String.intercalate ", " (bs.map fun b => toString b.toNat) ++ "])"
  | .uuid u => "Uuid(" ++ toString u ++ ")"

end Value

end Rowgraph
