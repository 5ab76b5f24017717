import Rowgraph.Command
import Rowgraph.Environment
import Rowgraph.Toml.Reader

/-!
# Settings

What a settings text says: the connections by name, how statements are written, and which error
codes of the server mean that a plan it keeps is stale. A record is a table or a list of its fields
in order; a field that is not given has its default. A field that is not known is passed over, but
has to be readable; what stands in a list behind the last field is not looked at.
-/

set_option autoImplicit false

namespace Rowgraph

/-- A connection as it is declared. -/
structure Connection where
  /-- The connection string, with references to the environment. -/
  text : String
  /-- The schema of tables that declare none, in references from another database. -/
  schema : Option String := none
  deriving DecidableEq

/-- The settings of a program. -/
structure Settings where
  connections : List (String × Connection) := []
  dirtyRead : Bool := false
  inlineNumbers : Bool := false
  /-- The error codes that mean a stale plan. -/
  staleCodes : List Int := [2801, 8144]
  deriving DecidableEq

namespace Toml

/-- Can the fields that are not known be passed over? -/
def canPassOver (known : List String) (fields : Fields) : Bool :=
  fieldsReadable (fields.filter fun f => !known.contains f.1)

/-- The field of a record at a place among its names, if it is given; `none` for what is no record. A
date counts as a record without any field that is known. -/
def field? (names : List String) (place : Nat) : Toml → Option (Option Toml)
  | .table _ fields =>
    if canPassOver names fields then some (names[place]?.bind (List.lookup · fields)) else none
  | .array items => some items[place]?
  | .tables elements => some ((elements[place]?).map (.table .header))
  | .moment _ => some none
  | _ => none

/-- A truth value, false if it is not given. -/
def flag? : Option Toml → Option Bool
  | none => some false
  | some (.bool b) => some b
  | some _ => none

/-- A text. -/
def text? : Toml → Option String
  | .text s => some s
  | _ => none

/-- An integer of thirty-two bits. -/
def int32? : Toml → Option Int
  | .integer n => if -Int.pow 2 31 ≤ n ∧ n < Int.pow 2 31 then some n else none
  | _ => none

/-- A text that need not be given. -/
def optionalText? : Option Toml → Option (Option String)
  | none => some none
  | some v => (text? v).map some

end Toml

namespace Connection

/-- The names of its fields, in order. -/
def fieldNames : List String := ["connection_string", "default_schema"]

/-- Reads a connection. -/
def ofToml? (v : Toml) : Option Connection := do
  let text ← (← v.field? fieldNames 0).bind Toml.text?
  let schema ← Toml.optionalText? (← v.field? fieldNames 1)
  return ⟨text, schema⟩

end Connection

namespace Settings

/-- Reads the connections. -/
def connections? : Option Toml → Option (List (String × Connection))
  | none => some []
  | some (.table _ fields) =>
    fields.mapM fun (name, v) => (Connection.ofToml? v).map fun c => (name, c)
  | some _ => none

/-- The names of the fields on how statements are written, in order. -/
def generatorNames : List String := ["dirty_read", "inline_numeric_parameters"]

/-- Reads how statements are written: may reads see uncommitted rows, and are numbers inline? -/
def generator? : Option Toml → Option (Bool × Bool)
  | none => some (false, false)
  | some v => do
    let dirtyRead ← Toml.flag? (← v.field? generatorNames 0)
    let inlineNumbers ← Toml.flag? (← v.field? generatorNames 1)
    return (dirtyRead, inlineNumbers)

/-- Reads the codes that mean a stale plan. -/
def codes? : Option Toml → Option (List Int)
  | none => some ({} : Settings).staleCodes
  | some (.array items) => items.mapM Toml.int32?
  | some _ => none

/-- The names of the fields on how statements are run, in order. -/
def executionNames : List String := ["stale_plan_codes"]

/-- Reads how statements are run. -/
def execution? : Option Toml → Option (List Int)
  | none => codes? none
  | some v => do codes? (← v.field? executionNames 0)

/-- The names of the tables of a settings text. -/
def tableNames : List String := ["connections", "generator", "execution"]

/-- Reads settings from the fields of a text. -/
def ofFields? (fields : Toml.Fields) : Option Settings := do
  guard (Toml.canPassOver tableNames fields)
  let connections ← connections? (fields.lookup "connections")
  let (dirtyRead, inlineNumbers) ← generator? (fields.lookup "generator")
  let staleCodes ← execution? (fields.lookup "execution")
  return ⟨connections, dirtyRead, inlineNumbers, staleCodes⟩

/-- Reads settings from their text. -/
def ofText (text : String) : Except SettingsError Settings :=
  match (Toml.parse? text).bind ofFields? with
  | some settings => .ok settings
  | none => .error .malformed

/-- The connection of a name. -/
def connection (s : Settings) (name : String) : Except SettingsError Connection :=
  match s.connections.lookup name with
  | some c => .ok c
  | none => .error (.connectionNotFound name)

/-- Does the error code mean a stale plan? -/
def isStale (codes : List Int) (code : Int) : Bool := codes.contains code

end Settings

/-- Where a connection of a name leads, its references replaced from the environment. -/
def Connection.locator (c : Connection) (env : Environment) (name : String) :
    Except SettingsError Locator := do
  let text ← env.expand c.text
  match Locator.parse text with
  | .ok l => return { l with schema := c.schema }
  | .error reason => .error (.invalidConnectionString name reason)

/-- The connections of settings. -/
def Registry.ofSettings (env : Environment) (s : Settings) : Except SettingsError Registry :=
  s.connections.foldlM (fun r (name, c) => (c.locator env name).map (r.insert name)) {}

/-- A generator that follows settings. -/
def Generator.ofSettings (env : Environment) (s : Settings) : Except SettingsError Generator :=
  (Registry.ofSettings env s).map fun registry => ⟨s.dirtyRead, s.inlineNumbers, registry⟩

end Rowgraph
