import Rowgraph.Session.Read
import Rowgraph.Write.Bulk
import Rowgraph.Write.Delete
import Rowgraph.Write.Insert
import Rowgraph.Write.Update

/-!
# Writing

Running the writes. Those of several rows are all done or not at all.
-/

set_option autoImplicit false

namespace Rowgraph.Session

variable {σ : Type}

/-- Runs one command. -/
def run (s : Session) (ex : Executor σ) (command : Except Error Command)
    (transaction : Option Transaction) : SessionM σ Nat := do
  let statement ← prepared command
  s.execute ex statement transaction

/-- Runs one command in a transaction. -/
def runWhole (s : Session) (ex : Executor σ) (command : Except Error Command)
    (transaction : Option Transaction) : SessionM σ Nat := do
  let statement ← prepared command
  s.inTransaction ex [statement] transaction

/-- Inserts an item. -/
def insert (s : Session) (ex : Executor σ) (e : Entity) (item : Row)
    (transaction : Option Transaction) : SessionM σ Nat :=
  s.run ex (s.generator.insert e item) transaction

/-- Inserts an item and reads the written row back. -/
def insertOutput (s : Session) (ex : Executor σ) (type : ObjectType) (item : Row)
    (transaction : Option Transaction) : SessionM σ (Option Object) := do
  let statement ← prepared (s.generator.insertOutput type.entity item)
  let rows ← s.rows ex statement transaction
  let objects ← liftM (m := Except Error) (type.readAll rows)
  return objects.head?

/-- Inserts items, each by a statement of its own, in one transaction. -/
def insertMany (s : Session) (ex : Executor σ) (e : Entity) (items : List Row)
    (transaction : Option Transaction) : SessionM σ Nat := do
  let commands ← liftM (m := Except Error) (s.generator.insertMany e items)
  s.inTransaction ex (commands.map Command.statement) transaction

/-- Inserts an item unless a row meets a condition. -/
def insertIfAbsent (s : Session) (ex : Executor σ) (e : Entity) (item : Row) (absentWhen : Expr)
    (transaction : Option Transaction) : SessionM σ Nat :=
  s.run ex (s.generator.insertIfAbsent e item absentWhen) transaction

/-- Inserts the values of a template. -/
def insertTemplate (s : Session) (ex : Executor σ) (e : Entity) (template : Row)
    (transaction : Option Transaction) : SessionM σ Nat := do
  let command ← liftM (m := StateM (Run σ))
    (Run.withCaches (s.generator.insertTemplate e template))
  s.run ex command transaction

/-- Inserts items in bulk. -/
def bulkInsert (s : Session) (ex : Executor σ) (e : Entity) (items : List Row)
    (transaction : Option Transaction) : SessionM σ Nat :=
  s.runWhole ex (s.generator.bulkInsert e items) transaction

/-- Assigns values to the rows that meet a condition. -/
def update (s : Session) (ex : Executor σ) (e : Entity) (values : Row) (filter : Expr)
    (transaction : Option Transaction) : SessionM σ Nat :=
  s.run ex (s.generator.update e values filter) transaction

/-- Assigns values to the rows that meet a condition, and inserts them if there is none. -/
def upsert (s : Session) (ex : Executor σ) (e : Entity) (values : Row) (filter : Expr)
    (transaction : Option Transaction) : SessionM σ Nat :=
  s.run ex (s.generator.upsert e values filter) transaction

/-- Updates the rows that items match, in bulk. -/
def bulkUpdate (s : Session) (ex : Executor σ) (e : Entity) (items : List Row) (template : Expr)
    (transaction : Option Transaction) : SessionM σ Nat :=
  s.runWhole ex (s.generator.bulkUpdate e items template) transaction

/-- Updates the rows that items match and inserts the others, in bulk. -/
def bulkUpsert (s : Session) (ex : Executor σ) (e : Entity) (items : List Row) (template : Expr)
    (transaction : Option Transaction) : SessionM σ Nat :=
  s.runWhole ex (s.generator.bulkUpsert e items template) transaction

/-- Deletes the rows that meet a condition. -/
def delete (s : Session) (ex : Executor σ) (e : Entity) (filter : Expr)
    (transaction : Option Transaction) : SessionM σ Nat :=
  s.run ex (s.generator.delete e filter) transaction

/-- Deletes the rows that meet a condition together with their joined rows. -/
def deleteJoined (s : Session) (ex : Executor σ) (e : Entity) (joins : List Join) (filter : Expr)
    (transaction : Option Transaction) : SessionM σ Nat :=
  s.run ex (s.generator.deleteJoined e joins filter) transaction

end Rowgraph.Session
