import Rowgraph.Write.Basic

/-!
# Updates

An update assigns named values to the rows that meet a condition. An upsert inserts the same values
where there was no such row.
-/

set_option autoImplicit false

namespace Rowgraph

namespace Entity

/-- One assignment of an update. -/
def setItem (a : Assignment) : List Token :=
  Member.columnTokens none a.member ++ [.word .space] ++ Tokens.spaced .eq ++ [a.placeholder]

/-- An update. -/
def updating (e : Entity) (assignments : List Assignment) (condition : List Token) : List Token :=
  Tokens.spaced .update ++ [e.reference] ++
    Tokens.clause .set (Tokens.separated (assignments.map setItem)) ++
    Tokens.clause .whereKw condition

/-- What runs only if the statement before it changed no row. -/
def otherwise (ts : List Token) : List Token :=
  [.word .semicolon] ++ Tokens.clause .ifKw
    ([.word .rowCount, .word .space] ++ Tokens.spaced .eq ++ [.int 0, .word .space] ++ ts)

end Entity

namespace Generator

/-- Assigns values to the rows that meet a condition. -/
def update (g : Generator) (e : Entity) (values : Row) (filter : Expr) : Except Error Command :=
  g.command do
    let assignments ← Assignment.ofValues e values
    let condition ← Condition.bound (.single e) filter
    return e.updating assignments condition.tokens

/-- Assigns values to the rows that meet a condition, and inserts them if there is none. -/
def upsert (g : Generator) (e : Entity) (values : Row) (filter : Expr) : Except Error Command :=
  g.command do
    let assignments ← Assignment.ofValues e values
    let condition ← Condition.bound (.single e) filter
    return e.updating assignments condition.tokens ++ Entity.otherwise (e.insertion assignments)

end Generator

end Rowgraph
