import Rowgraph.Graph.Assembly
import Rowgraph.Query.Select
import Rowgraph.Session.Basic

/-!
# Reading

Running a query and making objects of its rows. The rows of a grouped query are objects each; those
of a joined query are parts of a graph.
-/

set_option autoImplicit false

namespace Rowgraph

namespace Query

/-- The objects that the rows of a query become. -/
def objects (q : Query) (root : ObjectType) (split : SplitPlan) (rows : List Row) :
    Except Error (List Object) :=
  if q.isGrouped then root.readAll rows else root.assemble q.joins split rows

/-- The query for the first object. A joined query is not cut to one row, which would cut off the
children of the first root. -/
def first (q : Query) : Query :=
  if q.joins.isEmpty && q.take.isNone then { q with take := some 1 } else q

end Query

namespace Session

variable {σ : Type}

/-- Runs a query. -/
def query (s : Session) (ex : Executor σ) (root : ObjectType) (q : Query)
    (transaction : Option Transaction) : SessionM σ (List Object) := do
  let statement ← prepared (s.generator.select q)
  let rows ← s.rows ex statement transaction
  liftM (m := Except Error) (q.objects root statement.split rows)

/-- Runs a query for its first object. -/
def first (s : Session) (ex : Executor σ) (root : ObjectType) (q : Query)
    (transaction : Option Transaction) : SessionM σ (Option Object) := do
  return (← s.query ex root q.first transaction).head?

end Session

end Rowgraph
