import Rowgraph.Command
import Rowgraph.Join.Clause
import Rowgraph.Query.Paging

/-!
# Select

The statement of a query. A grouped query becomes a derived table, so that its result can be ordered
and paged by the names of its columns.
-/

set_option autoImplicit false

namespace Rowgraph

namespace Query

/-- The name of the derived table around a grouped query. -/
def groupedTable : String := "__T__"

/-- What a query puts out: members of its tables, or columns of groups. -/
inductive Output where
  | members (list : SelectList)
  | groups (columns : List Resolved) (projection : Projection)

/-- What the query puts out. Grouping columns and projection come together or not at all. -/
def output (q : Query) : Except Error Output :=
  match q.groupBy, q.projection with
  | [], none => (SelectList.ofPicks q.scope q.picks).map .members
  | [], some _ => .error .groupingMismatch
  | _ :: _, none => .error .groupingMismatch
  | columns, some items => do
    let grouped ← Grouping.columns q.scope columns
    return .groups grouped (← Grouping.project q.scope grouped items)

/-- The condition on the rows. -/
def whereClause (q : Query) : BindM (List Token) :=
  match q.filter with
  | none => return []
  | some e => do
    let condition ← Condition.bound q.scope e
    return Tokens.clause .whereKw condition.tokens

/-- The rows: the tables, and the condition on them. -/
def source (q : Query) (g : Generator) : BindM (List Token) := do
  let dirtyRead := q.dirtyRead.getD g.dirtyRead
  let joins ← Join.clauses ⟨q.root, q.scope, g.registry, dirtyRead⟩ q.joins
  let filter ← q.whereClause
  return Tokens.clause .fromKw [q.root.reference] ++ Join.aliasTokens q.scope 0 ++
    Join.hint dirtyRead ++ joins ++ filter

/-- The head of a list of columns. -/
def selectHead (q : Query) : List Token :=
  Tokens.spaced .select ++ if q.distinct then Tokens.spaced .distinct else []

/-- The statement of a query for members. -/
def selectMembers (q : Query) (g : Generator) (list : SelectList) : BindM (List Token) := do
  let top ← liftM (m := Except Error) q.top
  let source ← q.source g
  let orders ← liftM (m := Except Error) (q.orderBy.mapM (memberOrder q.scope))
  let ending ← liftM (m := Except Error) (q.ending orders)
  return q.selectHead ++ top ++ list.tokens ++ source ++ ending

/-- The statement of a grouped query. -/
def selectGroups (q : Query) (g : Generator) (grouped : List Resolved) (projection : Projection) :
    BindM (List Token) := do
  let source ← q.source g
  let top ← liftM (m := Except Error) q.top
  let orders ← liftM (m := Except Error)
    (q.orderBy.mapM (groupedOrder q.scope projection.columns))
  let ending ← liftM (m := Except Error) (q.ending orders)
  let inner := q.selectHead ++ projection.tokens ++ source ++
    Tokens.clause .groupBy (Grouping.tokens q.scope grouped)
  return Tokens.spaced .select ++ top ++ [.word .star] ++
    Tokens.clause .fromKw (Tokens.parenthesized inner) ++ [.word .space, .ident groupedTable] ++
    ending

/-- The tokens of the query's statement, and the split of its rows. -/
def select (q : Query) (g : Generator) : BindM (List Token × SplitPlan) := do
  liftM (m := Except Error) (Join.check q.joins)
  match ← liftM (m := Except Error) q.output with
  | .members list => return (← q.selectMembers g list, list.split)
  | .groups grouped projection => return (← q.selectGroups g grouped projection, {})

end Query

/-- The statement of a query. -/
def Generator.select (g : Generator) (q : Query) : Except Error Command :=
  (g.run (q.select g)).map fun ((tokens, split), params) =>
    { tokens := tokens, params := params, split := split }

end Rowgraph
