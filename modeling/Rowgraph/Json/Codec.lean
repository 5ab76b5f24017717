import Rowgraph.Json.Number
import Rowgraph.Row

/-!
# Values and rows in JSON

A value is an object with one field named for its type, or the name alone for NULL; a row is an
object whose field `columns` holds pairs of name and value.
-/

set_option autoImplicit false

namespace Rowgraph

namespace Value

/-- A number in JSON is written like a literal, but for the plus sign of its exponent. -/
def jsonNotation : Notation := { literalNotation with plusSign := true }

/-- The JSON form of a value. A float that is not finite is written as null. -/
def toJson : Value → Json
  | .null => .ofText "Null"
  | .bool b => .ofFields [("Bool", .bool b)]
  | .int n => .ofFields [("Int", .ofInt n.toInt)]
  | .float x =>
    .ofFields [("Float", if x.isFinite then .number (x.render jsonNotation).toList else .null)]
  | .text s => .ofFields [("Text", .ofText s)]
  | .bytes bs => .ofFields [("Bytes", .array (bs.map fun b => .ofInt b.toNat))]
  | .uuid u => .ofFields [("Uuid", .ofText (toString u))]

/-- A byte, as an integer up to 255. -/
def byteOfJson? : Json → Option UInt8
  | .number lexeme =>
    match Json.integer? lexeme with
    | some n => if 0 ≤ n ∧ n < 256 then some (UInt8.ofNat n.toNat) else none
    | none => none
  | _ => none

/-- The content of a value under the name of its type. -/
def ofTagged? (tag : String) (content : Json) : Option Value :=
  match tag, content with
  | "Null", .null => some .null
  | "Bool", .bool b => some (.bool b)
  | "Int", .number lexeme => (Json.int64? lexeme).map .int
  | "Float", .number lexeme => (Json.double? lexeme).map .float
  | "Text", .string (some s) => some (.text s)
  | "Bytes", .array items => (items.mapM byteOfJson?).map .bytes
  | "Uuid", .string (some s) => (Uuid.parse? s).map .uuid
  | _, _ => none

/-- Reads a value. -/
def ofJson? : Json → Option Value
  | .string (some tag) => if tag = "Null" then some .null else none
  | .object [(some tag, content)] => ofTagged? tag content
  | _ => none

/-- Reads a value from its JSON text. -/
def ofJsonText? (text : String) : Option Value := (Json.parse? text).bind ofJson?

end Value

namespace Row

/-- The JSON form of a row. -/
def toJson (row : Row) : Json :=
  .ofFields [("columns",
    .array (row.columns.map fun c => .array [.ofText c.1, c.2.toJson]))]

/-- A column: its name and its value. -/
def columnOfJson? : Json → Option (String × Value)
  | .array [.string (some name), value] => (Value.ofJson? value).map fun v => (name, v)
  | _ => none

/-- The columns of a row. -/
def columnsOfJson? : Json → Option Row
  | .array items => (items.mapM columnOfJson?).map Row.mk
  | _ => none

/-- Reads a row. Other fields are passed over, `columns` stands once, and a list of the columns alone
will do for the object. -/
def ofJson? : Json → Option Row
  | .array [columns] => columnsOfJson? columns
  | .object fields =>
    if fields.all fun f => f.1.isSome then
      match fields.filter fun f => f.1 == some "columns" with
      | [(_, columns)] => columnsOfJson? columns
      | _ => none
    else none
  | _ => none

/-- Reads a row from its JSON text. -/
def ofJsonText? (text : String) : Option Row := (Json.parse? text).bind ofJson?

end Row

end Rowgraph
