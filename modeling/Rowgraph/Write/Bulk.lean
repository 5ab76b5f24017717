import Rowgraph.Write.Basic

/-!
# Bulk writes

A bulk write ships all its rows as one parameter and joins the table with it. Rows are matched on the
members that a condition, the match template, reads; what the condition says about them is of no
account.
-/

set_option autoImplicit false

namespace Rowgraph

/-- The alias of the shipped rows. -/
def shippedAlias : String := "src"

/-- The members that a match template reads. -/
def matchMembers (e : Entity) (template : Expr) : Except Error (List Member) :=
  match (Condition.ofExpr (.single e) template {}).1 with
  | .error cause => .error cause
  | .ok condition =>
    if condition.members.isEmpty then .error (.unsupported .emptyMatch)
    else .ok (condition.members.map (·.member))

namespace TableParameter

/-- The shipped rows as a table. -/
def source (t : TableParameter) : List Token :=
  [t.placeholder, .word .space, .alias shippedAlias]

end TableParameter

namespace Member

/-- The member's column set equal to the shipped one, or compared with it. -/
def equalsShipped (qualifier : String) (m : Member) : List Token :=
  columnTokens (some qualifier) m ++ [.word .space] ++ Tokens.spaced .eq ++
    columnTokens (some shippedAlias) m

/-- The condition that all of some members equal the shipped ones. -/
def allEqualShipped (qualifier : String) (ms : List Member) : List Token :=
  Condition.joined .and (ms.map (equalsShipped qualifier))

end Member

namespace Entity

/-- The alias of the table in a bulk write. -/
def bulkAlias (e : Entity) : String := Alias.ofName e.name 0

/-- The members a bulk update sets: those an insertion writes, less those matched on. -/
def bulkAssigned (e : Entity) (matched : List Member) : List Member :=
  e.insertable.filter fun m => !matched.contains m

/-- A bulk update, of at least one member. -/
def bulkUpdating (e : Entity) (rows : TableParameter) (matched : List Member) :
    Except Error (List Token) :=
  let assigned := e.bulkAssigned matched
  if assigned.isEmpty then .error (.unsupported (.nothingToUpdate e.name))
  else
    .ok (Tokens.spaced .update ++ [.alias e.bulkAlias] ++
      Tokens.clause .set (Tokens.separated (assigned.map (Member.equalsShipped e.bulkAlias))) ++
      Tokens.clause .fromKw [e.reference, .word .space, .alias e.bulkAlias, .word .space] ++
      Tokens.spaced .inner ++ Tokens.spaced .join ++ rows.source ++
      Tokens.clause .on (Member.allEqualShipped e.bulkAlias matched))

/-- The insertion of the shipped rows that match no row of the table. -/
def bulkInserting (e : Entity) (rows : TableParameter) (matched : List Member) (dirtyRead : Bool) :
    List Token :=
  e.insertHead e.insertable ++ Tokens.spaced .select ++
    Member.columnList (some shippedAlias) e.insertable ++ Tokens.clause .fromKw rows.source ++
    e.absenceClause [.word .space, .alias e.bulkAlias] dirtyRead
      (Member.allEqualShipped e.bulkAlias matched)

end Entity

namespace Generator

/-- Inserts all items. -/
def bulkInsert (_ : Generator) (e : Entity) (items : List Row) : Except Error Command := do
  let rows ← TableParameter.ofRows e e.insertable items
  return {
    tokens := e.insertHead e.insertable ++ Tokens.spaced .select ++
      Member.columnList none e.insertable ++ Tokens.clause .fromKw [rows.placeholder]
    table := some rows }

/-- Updates the rows that the items match. -/
def bulkUpdate (_ : Generator) (e : Entity) (items : List Row) (template : Expr) :
    Except Error Command := do
  let matched ← matchMembers e template
  let rows ← TableParameter.ofRows e e.mapped items
  let tokens ← e.bulkUpdating rows matched
  return { tokens := tokens, table := some rows }

/-- Updates the rows that the items match, and inserts the items that match none. -/
def bulkUpsert (g : Generator) (e : Entity) (items : List Row) (template : Expr) :
    Except Error Command := do
  let matched ← matchMembers e template
  let rows ← TableParameter.ofRows e e.mapped items
  let updating ← e.bulkUpdating rows matched
  return {
    tokens := updating ++ [.word .semicolon, .word .space] ++
      e.bulkInserting rows matched g.dirtyRead
    table := some rows }

end Generator

end Rowgraph
