import Rowgraph.Entity
import Rowgraph.Json.Codec
import Rowgraph.Token

/-!
# Parameters

The named values of one statement, in the order in which they were bound. A parameter is named for the
column it is compared with or assigned to; a name that is taken gets the first free number.
-/

set_option autoImplicit false

namespace Rowgraph

/-- The declared text type of a column, where it is not the server's default for texts. -/
structure TextType where
  /-- Single-byte characters. -/
  ansi : Bool
  fixed : Bool
  /-- No length means no limit. -/
  length : Option Nat
  deriving DecidableEq

namespace TextType

/-- The type that a member declares. -/
def ofMember? (m : Member) : Option TextType :=
  match m.typeName.map String.toLower with
  | some "varchar" => some ⟨true, false, m.length⟩
  | some "char" => some ⟨true, true, m.length⟩
  | some "nchar" => some ⟨false, true, m.length⟩
  | _ => none

/-- The name of the type without its length. -/
def base (t : TextType) : String :=
  match t.ansi, t.fixed with
  | true, false => "varchar"
  | true, true => "char"
  | false, true => "nchar"
  | false, false => "nvarchar"

/-- The type as it is declared. -/
def declaration (t : TextType) : String :=
  t.base ++ "(" ++ (match t.length with
    | some n => toString n
    | none => "max") ++ ")"

/-- The JSON form of the type. -/
def toJson (t : TextType) : Json :=
  .ofFields [("ansi", .bool t.ansi), ("fixed_length", .bool t.fixed),
    ("length", match t.length with
      | some n => .ofInt n
      | none => .null)]

end TextType

/-- One parameter. -/
structure Parameter where
  name : String
  value : Value
  textType : Option TextType
  /-- Replaced by its literal before the statement runs. -/
  inline : Bool
  deriving DecidableEq

/-- The parameters of a statement. -/
structure Parameters where
  /-- Are numbers bound to inline placeholders? -/
  inlineNumbers : Bool := false
  entries : List Parameter := []
  deriving DecidableEq

/-- The JSON form of a parameter. -/
def Parameter.toJson (p : Parameter) : Json :=
  .ofFields [("name", .ofText p.name), ("value", p.value.toJson),
    ("db_string", match p.textType with
      | some t => t.toJson
      | none => .null),
    ("inline", .bool p.inline)]

/-- The placeholder of a parameter. -/
def Parameter.placeholder (p : Parameter) : Token :=
  if p.inline then .inlineParam p.name else .param p.name

namespace Parameters

/-- The names in order. -/
def names (ps : Parameters) : List String := ps.entries.map (·.name)

/-- The parameter of a name. -/
def find? (ps : Parameters) (name : String) : Option Parameter :=
  ps.entries.find? fun p => p.name == name

/-- Is the name taken? -/
def contains (ps : Parameters) (name : String) : Bool := (ps.find? name).isSome

/-- The names tried for a base, in order: the base, then the base with 1, 2, ... -/
def candidate (base : String) : Nat → String
  | 0 => base
  | n + 1 => base ++ toString (n + 1)

/-- The first candidate that is free. One more candidate than there are parameters is enough. -/
def freshName (ps : Parameters) (base : String) : String :=
  (((List.range (ps.entries.length + 1)).map (candidate base)).find?
    fun name => !ps.contains name).getD (candidate base (ps.entries.length + 1))

/-- The parameter that a value becomes. Only a text for a known member has a text type. -/
def entry (ps : Parameters) (base : String) (value : Value) (member : Option Member) : Parameter where
  name := ps.freshName base
  value := value
  textType := if value.isText then member.bind TextType.ofMember? else none
  inline := ps.inlineNumbers && value.isNumeric

/-- Binds a value under a name made from `base`; the result has the placeholder for it. -/
def bind (ps : Parameters) (base : String) (value : Value) (member : Option Member) :
    Token × Parameters :=
  let p := ps.entry base value member
  (p.placeholder, { ps with entries := ps.entries ++ [p] })

/-- The JSON form of the parameters. -/
def toJson (ps : Parameters) : Json :=
  .ofFields [("params", .array (ps.entries.map Parameter.toJson))]

end Parameters

/-- A computation that may bind parameters. What was bound before an error stays bound. -/
abbrev BindM := ExceptT Error (StateM Parameters)

namespace BindM

/-- Binds a value compared with, or assigned to, a member. -/
def bindFor (m : Member) (value : Value) : BindM Token := do
  let (placeholder, ps) := (← get).bind m.name value (some m)
  set ps
  return placeholder

end BindM

end Rowgraph
