import Rowgraph.Session.Executor

/-!
# Scripted executors

An executor that answers from a script and notes what it is asked. When a list of the script has come
to its end, everything succeeds: a statement changes one row and yields none.
-/

set_option autoImplicit false

namespace Rowgraph.Script

/-- An entry of a script: a failure, a number of rows, or nothing in particular. -/
inductive Entry where
  | fails (error : DriverError)
  | changes (rows : Nat)
  | succeeds
  deriving DecidableEq

/-- A request as it is noted. A transaction is numbered when it is begun, even if that fails. -/
inductive Call where
  | execute (sql : String) (params : List String) (transaction : Option Transaction)
  | query (sql : String) (params : List String) (transaction : Option Transaction)
  | begin (transaction : Transaction)
  | commit (transaction : Transaction)
  | rollback (transaction : Transaction)
  deriving DecidableEq

/-- What is left of a script, and what was noted. -/
structure State where
  outcomes : List Entry := []
  rows : List (List Row) := []
  begins : List Entry := []
  commits : List Entry := []
  rollbacks : List Entry := []
  /-- The number of the last transaction. -/
  last : Transaction := 0
  calls : List Call := []

/-- The state with one more call noted. -/
def State.note (s : State) (c : Call) : State := { s with calls := s.calls ++ [c] }

/-- The next entry of a list. -/
def next (entries : List Entry) : Entry := entries.headD .succeeds

/-- The answer an entry gives to a request whose success has one result. -/
def answer {α : Type} (a : α) : Entry → Except DriverError α
  | .fails e => .error e
  | _ => .ok a

/-- The number of rows an entry changes. -/
def changed : Entry → Except DriverError Nat
  | .fails e => .error e
  | .changes n => .ok n
  | .succeeds => .ok 1

/-- Runs a statement that changes rows. -/
def execute (statement : Statement) (transaction : Option Transaction) (s : State) :
    Answer State Nat :=
  let s := s.note (.execute statement.sql statement.params.names transaction)
  (changed (next s.outcomes), { s with outcomes := s.outcomes.tail })

/-- Runs a statement that yields rows. A failure uses up no rows. -/
def query (statement : Statement) (transaction : Option Transaction) (s : State) :
    Answer State (List Row) :=
  let s := s.note (.query statement.sql statement.params.names transaction)
  let left := { s with outcomes := s.outcomes.tail }
  match next s.outcomes with
  | .fails e => (.error e, left)
  | _ => (.ok (s.rows.headD []), { left with rows := s.rows.tail })

/-- Begins a transaction. -/
def begin (s : State) : Answer State Transaction :=
  let number := s.last + 1
  let s := { s.note (.begin number) with last := number }
  (answer number (next s.begins), { s with begins := s.begins.tail })

/-- Commits a transaction. -/
def commit (transaction : Transaction) (s : State) : Answer State Unit :=
  let s := s.note (.commit transaction)
  (answer () (next s.commits), { s with commits := s.commits.tail })

/-- Rolls a transaction back. -/
def rollback (transaction : Transaction) (s : State) : Answer State Unit :=
  let s := s.note (.rollback transaction)
  (answer () (next s.rollbacks), { s with rollbacks := s.rollbacks.tail })

/-- The executor. -/
def executor : Executor State where
  execute := execute
  query := query
  begin := begin
  commit := commit
  rollback := rollback

end Rowgraph.Script
