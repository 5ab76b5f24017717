import Rowgraph.Alias
import Rowgraph.Command
import Rowgraph.Join.Clause
import Rowgraph.Selection

/-!
# Assignments

A write binds each of its values to a placeholder once. The column list of an insertion, its values
and the assignments of an update are all made from the same list of pairs.
-/

set_option autoImplicit false

namespace Rowgraph

/-- A member and the placeholder of the value it gets. -/
structure Assignment where
  member : Member
  placeholder : Token
  deriving DecidableEq

namespace Assignment

/-- Binds a value for a member. -/
def assign (m : Member) (value : Value) : BindM Assignment := do
  return ⟨m, ← BindM.bindFor m value⟩

/-- Assignments of named values, in the order of the values. A name that is no mapped member ends
them. -/
def named (e : Entity) : List (String × Value) → BindM (List Assignment)
  | [] => return []
  | (name, value) :: rest => do
    let m ← liftM (m := Except Error) (e.resolve name)
    let first ← assign m value
    return first :: (← named e rest)

/-- Assignments of named values, of which there has to be one. -/
def ofValues (e : Entity) (values : Row) : BindM (List Assignment) := do
  let assignments ← named e values.columns
  if assignments.isEmpty then throw (.unsupported (.noAssignments e.name))
  else return assignments

/-- Assignments of the members that an insertion of an item writes, of which there has to be one. -/
def ofItem (e : Entity) (item : Row) : BindM (List Assignment) := do
  let assignments ← e.insertable.mapM fun m => assign m (item.findD m.name)
  if assignments.isEmpty then throw (.unsupported (.noInsertable e.name))
  else return assignments

/-- The members assigned to. -/
def members (assignments : List Assignment) : List Member := assignments.map (·.member)

/-- The placeholders in a list. -/
def placeholders (assignments : List Assignment) : List Token :=
  Tokens.separated (assignments.map fun a => [a.placeholder])

end Assignment

namespace Member

/-- The member's column, behind an alias if one is given. -/
def columnTokens (qualifier : Option String) (m : Member) : List Token :=
  match qualifier with
  | some a => [.alias a, .word .dot, .ident m.columnName]
  | none => [.ident m.columnName]

/-- The columns of members in a list. -/
def columnList (qualifier : Option String) (ms : List Member) : List Token :=
  Tokens.separated (ms.map (columnTokens qualifier))

end Member

namespace Entity

/-- The head of an insertion of some members. -/
def insertHead (e : Entity) (ms : List Member) : List Token :=
  Tokens.spaced .insert ++ Tokens.spaced .into ++ [e.reference, .word .space] ++
    Tokens.parenthesized (Member.columnList none ms) ++ [.word .space]

/-- The values of an insertion. -/
def valuesClause (assignments : List Assignment) : List Token :=
  Tokens.spaced .values ++ Tokens.parenthesized (Assignment.placeholders assignments)

/-- A whole insertion of assigned values. -/
def insertion (e : Entity) (assignments : List Assignment) : List Token :=
  e.insertHead (Assignment.members assignments) ++ valuesClause assignments

/-- The test that no row of the table meets a condition. -/
def absenceClause (e : Entity) (qualifier : List Token) (dirtyRead : Bool) (condition : List Token) :
    List Token :=
  Tokens.clause .whereKw (Tokens.spaced .not ++ Tokens.spaced .exists ++
    Tokens.parenthesized (Tokens.spaced .select ++ [.int 1] ++
      Tokens.clause .fromKw [e.reference] ++ qualifier ++ Join.hint dirtyRead ++
      Tokens.clause .whereKw condition))

end Entity

end Rowgraph
