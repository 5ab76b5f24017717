import Rowgraph.Write.Basic

/-!
# Insertions

An insertion writes every mapped member that the database does not generate, or, from a template,
just the members the template names.
-/

set_option autoImplicit false

namespace Rowgraph.Generator

/-- Inserts an item. -/
def insert (g : Generator) (e : Entity) (item : Row) : Except Error Command :=
  g.command do
    let assignments ← Assignment.ofItem e item
    return e.insertion assignments

/-- Inserts an item and gives the written row back. -/
def insertOutput (g : Generator) (e : Entity) (item : Row) : Except Error Command :=
  g.command do
    let assignments ← Assignment.ofItem e item
    return e.insertHead (Assignment.members assignments) ++ Tokens.spaced .output ++
      e.outputTokens ++ [.word .space] ++ Entity.valuesClause assignments

/-- Inserts items, each by a command of its own. -/
def insertMany (g : Generator) (e : Entity) (items : List Row) : Except Error (List Command) :=
  items.mapM (g.insert e)

/-- Inserts an item unless a row meets a condition. -/
def insertIfAbsent (g : Generator) (e : Entity) (item : Row) (absentWhen : Expr) :
    Except Error Command :=
  g.command do
    let assignments ← Assignment.ofItem e item
    let condition ← Condition.bound (.single e) absentWhen
    return e.insertHead (Assignment.members assignments) ++ Tokens.spaced .select ++
      Assignment.placeholders assignments ++ e.absenceClause [] g.dirtyRead condition.tokens

/-- The required members that a template does not name. -/
def missing (required : List Member) (template : Row) : List String :=
  (required.filter fun m => (template.find? m.name).isNone).map (·.name)

/-- Inserts the values of a template, which has to name every required member. -/
def insertTemplate (g : Generator) (e : Entity) (template : Row) (caches : Caches) :
    Except Error Command × Caches :=
  let (required, caches) := caches.requiredMembers e
  let result :=
    match missing required template with
    | [] =>
      g.command do
        let assignments ← Assignment.ofValues e template
        return e.insertion assignments
    | names => .error (.missingRequired e.name names)
  (result, caches)

end Rowgraph.Generator
