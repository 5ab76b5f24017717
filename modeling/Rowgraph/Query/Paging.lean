import Rowgraph.Query.Basic

/-!
# Ordering and paging

The part of a query behind its rows. A number of rows is taken with TOP as long as none is skipped;
otherwise OFFSET and FETCH do both, and need an ordering, be it one that orders nothing.
-/

set_option autoImplicit false

namespace Rowgraph

/-- The word of a direction. -/
def Direction.word : Direction → Word
  | .asc => .asc
  | .desc => .desc

namespace Query

/-- The greatest row count the server takes. -/
def maxRowCount : Nat := Nat.pow 2 63 - 1

/-- A row count in a clause. -/
def rowCount (clause : CountClause) (n : Nat) : Except Error Token :=
  if n ≤ maxRowCount then .ok (.int n) else .error (.countOutOfRange clause n)

/-- The head of a query that takes rows and skips none. -/
def top (q : Query) : Except Error (List Token) :=
  match q.take, q.skip with
  | some n, none => do
    let count ← rowCount .top n
    return .word .top :: Tokens.parenthesized [count] ++ [.word .space]
  | _, _ => .ok []

/-- A column in a direction. -/
def ordered (column : List Token) (direction : Direction) : List Token :=
  column ++ [.word .space, .word direction.word]

/-- An ordering by a member. -/
def memberOrder (scope : Scope) (item : OrderItem) : Except Error (List Token) :=
  match item.expr.member? with
  | none => .error (.unsupported (.ordering item.expr))
  | some ref => do
    let r ← scope.resolve ref
    return ordered (scope.column r) item.direction

/-- The projected column that an ordering of a grouped query means: the first of its name, or the
first that passes its member on. -/
def projectedName (scope : Scope) (columns : List ProjectedColumn) (e : Expr) :
    Except Error (Option String) :=
  match e with
  | .output name => .ok ((columns.find? fun c => c.name == name).map (·.name))
  | .member ref => do
    let r ← scope.resolve ref
    return (columns.find? fun c => c.source == some r).map (·.name)
  | _ => .ok none

/-- An ordering of a grouped query. -/
def groupedOrder (scope : Scope) (columns : List ProjectedColumn) (item : OrderItem) :
    Except Error (List Token) := do
  match ← projectedName scope columns item.expr with
  | none => .error (.unsupported (.groupedOrdering item.expr))
  | some name => return ordered [.ident name] item.direction

/-- The ordering that orders nothing. -/
def anyOrder : List Token := Tokens.parenthesized (Tokens.spaced .select ++ [.word .null])

/-- The number of rows skipped. -/
def offsetClause (n : Token) : List Token :=
  Tokens.clause .offset [n, .word .space, .word .rows]

/-- The number of rows taken behind those skipped. -/
def fetchClause (n : Token) : List Token :=
  Tokens.clause .fetch (Tokens.spaced .next ++ [n, .word .space] ++ Tokens.spaced .rows ++
    [.word .only])

/-- The part of the fetch clause, if a number of rows is taken. -/
def fetch (q : Query) : Except Error (List Token) :=
  match q.take with
  | none => .ok []
  | some n => (rowCount .fetch n).map fetchClause

/-- The end of the query: its ordering, and OFFSET and FETCH where rows are skipped. -/
def ending (q : Query) (orders : List (List Token)) : Except Error (List Token) :=
  match q.skip with
  | none =>
    .ok (if orders.isEmpty then [] else Tokens.clause .orderBy (Tokens.separated orders))
  | some n => do
    let skipped ← rowCount .offset n
    let fetched ← q.fetch
    return Tokens.clause .orderBy (if orders.isEmpty then anyOrder else Tokens.separated orders) ++
      offsetClause skipped ++ fetched

end Query

end Rowgraph
