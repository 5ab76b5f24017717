import Rowgraph.Locator
import Rowgraph.Parameter
import Rowgraph.Split

/-!
# Commands and statements

A command is a statement still in tokens; a statement is the text an executor is given. Both carry
the parameters, the rows of a bulk operation, and the split of the rows that come back.
-/

set_option autoImplicit false

namespace Rowgraph

/-- Rows shipped to the server as one parameter of a table type. -/
structure TableParameter where
  name : String
  typeName : String
  columns : List String
  rows : List (List Value)
  deriving DecidableEq

namespace TableParameter

/-- The rows of a bulk operation. It needs a table type and at least one row. -/
def ofRows (e : Entity) (members : List Member) (items : List Row) :
    Except Error TableParameter := do
  let typeName ← e.requireTableType
  if items.isEmpty then .error (.emptyBulk e.name)
  else
    return {
      name := e.name ++ "Rows"
      typeName := typeName
      columns := members.map Member.columnName
      rows := items.map fun item => members.map fun m => item.findD m.name }

/-- The placeholder of the rows. -/
def placeholder (t : TableParameter) : Token := .param t.name

/-- The JSON form of the rows. -/
def toJson (t : TableParameter) : Json :=
  .ofFields [("name", .ofText t.name), ("type_name", .ofText t.typeName),
    ("columns", .array (t.columns.map Json.ofText)),
    ("rows", .array (t.rows.map fun row => .array (row.map Value.toJson)))]

end TableParameter

/-- A statement in tokens. -/
structure Command where
  tokens : List Token
  params : Parameters := {}
  table : Option TableParameter := none
  split : SplitPlan := {}
  deriving DecidableEq

/-- A statement as text; it may hold several, between semicolons. -/
structure Statement where
  sql : String
  params : Parameters := {}
  table : Option TableParameter := none
  split : SplitPlan := {}
  deriving DecidableEq

/-- The text of a command. -/
def Command.statement (c : Command) : Statement where
  sql := Tokens.text c.tokens
  params := c.params
  table := c.table
  split := c.split

/-- How statements are written. -/
structure Generator where
  /-- May reads see uncommitted rows? -/
  dirtyRead : Bool := false
  /-- Are numbers bound to inline placeholders? -/
  inlineNumbers : Bool := false
  registry : Registry := {}
  deriving DecidableEq

/-- Runs a computation that binds parameters, none being bound before. -/
def Generator.run {α : Type} (g : Generator) (m : BindM α) : Except Error (α × Parameters) :=
  let (result, params) := m.run.run { inlineNumbers := g.inlineNumbers }
  result.map fun a => (a, params)

/-- The command whose tokens a computation yields. -/
def Generator.command (g : Generator) (m : BindM (List Token)) : Except Error Command :=
  (g.run m).map fun (tokens, params) => { tokens := tokens, params := params }

end Rowgraph
