import Rowgraph.Proofs.Session.Transcript
import Rowgraph.Session.Write

/-!
# Tasks

Everything that a session can be asked for, as one type. A task first makes its statements, which asks the
executor nothing. What is left is one change, one read whose rows become the result, or statements that run
together in a transaction (`Work`). What holds of every run of a session is read off these two steps
(`Task.run_eq`).
-/

set_option autoImplicit false

namespace Rowgraph

/-- What a session is asked for. -/
inductive Task where
  | execute (statement : Statement)
  | rows (statement : Statement)
  | query (root : ObjectType) (q : Query)
  | first (root : ObjectType) (q : Query)
  | insert (e : Entity) (item : Row)
  | insertOutput (type : ObjectType) (item : Row)
  | insertMany (e : Entity) (items : List Row)
  | insertIfAbsent (e : Entity) (item : Row) (absentWhen : Expr)
  | insertTemplate (e : Entity) (template : Row)
  | update (e : Entity) (values : Row) (filter : Expr)
  | upsert (e : Entity) (values : Row) (filter : Expr)
  | delete (e : Entity) (filter : Expr)
  | deleteJoined (e : Entity) (joins : List Join) (filter : Expr)
  | bulkInsert (e : Entity) (items : List Row)
  | bulkUpdate (e : Entity) (items : List Row) (template : Expr)
  | bulkUpsert (e : Entity) (items : List Row) (template : Expr)

/-- What a task comes back with. -/
inductive Task.Result where
  | changed (rows : Nat)
  | rows (rows : List Row)
  | objects (objects : List Object)
  | object (object : Option Object)

/-- What is left of a task when its statements are made. -/
inductive Work where
  | change (statement : Statement)
  /-- The rows of the statement become the result. -/
  | read (statement : Statement) (make : List Row → Except Error Task.Result)
  | together (statements : List Statement)

namespace Task

/-- The statements of a task. -/
def work (g : Generator) (caches : Caches) : Task → Except Error Work
  | execute statement => .ok (.change statement)
  | rows statement => .ok (.read statement fun rows => .ok (.rows rows))
  | query root q => (g.select q).map fun c =>
    .read c.statement fun rows => (q.objects root c.split rows).map .objects
  | first root q => (g.select q.first).map fun c =>
    .read c.statement fun rows => (q.first.objects root c.split rows).map fun os => .object os.head?
  | insert e item => (g.insert e item).map fun c => .change c.statement
  | insertOutput type item => (g.insertOutput type.entity item).map fun c =>
    .read c.statement fun rows => (type.readAll rows).map fun os => .object os.head?
  | insertMany e items => (g.insertMany e items).map fun cs => .together (cs.map Command.statement)
  | insertIfAbsent e item absentWhen =>
    (g.insertIfAbsent e item absentWhen).map fun c => .change c.statement
  | insertTemplate e template =>
    (g.insertTemplate e template caches).1.map fun c => .change c.statement
  | update e values filter => (g.update e values filter).map fun c => .change c.statement
  | upsert e values filter => (g.upsert e values filter).map fun c => .change c.statement
  | delete e filter => (g.delete e filter).map fun c => .change c.statement
  | deleteJoined e joins filter => (g.deleteJoined e joins filter).map fun c => .change c.statement
  | bulkInsert e items => (g.bulkInsert e items).map fun c => .together [c.statement]
  | bulkUpdate e items template => (g.bulkUpdate e items template).map fun c => .together [c.statement]
  | bulkUpsert e items template => (g.bulkUpsert e items template).map fun c => .together [c.statement]

/-- The caches when the statements of a task are made. Only an insertion from a template looks into them. -/
def caches (g : Generator) (caches : Caches) : Task → Caches
  | insertTemplate e template => (g.insertTemplate e template caches).2
  | _ => caches

end Task

section Runs

variable {σ : Type} (s : Session) (ex : Executor σ) (transaction : Option Transaction)

/-- Runs the statements of a task. -/
def Work.run : Work → SessionM σ Task.Result
  | change statement => do return .changed (← s.execute ex statement transaction)
  | read statement make => do
    let rows ← s.rows ex statement transaction
    liftM (m := Except Error) (make rows)
  | together statements => do return .changed (← s.inTransaction ex statements transaction)

namespace Task

/-- Runs a task. -/
def run : Task → SessionM σ Result
  | execute statement => do return .changed (← s.execute ex statement transaction)
  | rows statement => do return .rows (← s.rows ex statement transaction)
  | query root q => do return .objects (← s.query ex root q transaction)
  | first root q => do return .object (← s.first ex root q transaction)
  | insert e item => do return .changed (← s.insert ex e item transaction)
  | insertOutput type item => do return .object (← s.insertOutput ex type item transaction)
  | insertMany e items => do return .changed (← s.insertMany ex e items transaction)
  | insertIfAbsent e item absentWhen => do
    return .changed (← s.insertIfAbsent ex e item absentWhen transaction)
  | insertTemplate e template => do return .changed (← s.insertTemplate ex e template transaction)
  | update e values filter => do return .changed (← s.update ex e values filter transaction)
  | upsert e values filter => do return .changed (← s.upsert ex e values filter transaction)
  | delete e filter => do return .changed (← s.delete ex e filter transaction)
  | deleteJoined e joins filter => do
    return .changed (← s.deleteJoined ex e joins filter transaction)
  | bulkInsert e items => do return .changed (← s.bulkInsert ex e items transaction)
  | bulkUpdate e items template => do
    return .changed (← s.bulkUpdate ex e items template transaction)
  | bulkUpsert e items template => do
    return .changed (← s.bulkUpsert ex e items template transaction)

theorem bind_liftM_map {α : Type} (m : SessionM σ (List Row)) (f : List Row → Except Error α)
    (g : α → Result) :
    (do return g (← m >>= fun rows => liftM (m := Except Error) (f rows)) : SessionM σ Result) =
      m >>= fun rows => liftM (m := Except Error) ((f rows).map g) := by
  rw [bind_assoc]
  congr 1
  funext rows
  cases f rows <;> rfl

/-- A command that is made is executed, and changes rows. -/
theorem run_changed (command : Except Error Command) (r : Run σ) :
    (do return Result.changed (← s.run ex command transaction) : SessionM σ Result).run.run r =
      match command.map fun c => Work.change c.statement with
      | .error cause => (.error cause, r)
      | .ok work => (work.run s ex transaction).run.run r := by
  cases command <;> rfl

/-- A bulk command is alone in its transaction. -/
theorem run_changedWhole (command : Except Error Command) (r : Run σ) :
    (do return Result.changed (← s.runWhole ex command transaction) : SessionM σ Result).run.run r =
      match command.map fun c => Work.together [c.statement] with
      | .error cause => (.error cause, r)
      | .ok work => (work.run s ex transaction).run.run r := by
  cases command <;> rfl

/-- What is made of rows can be put into a result at once. -/
theorem run_read {α : Type} (statement : Statement) (f : List Row → Except Error α) (g : α → Result)
    (r : Run σ) :
    (do return g (← s.rows ex statement transaction >>= fun rows =>
        liftM (m := Except Error) (f rows)) : SessionM σ Result).run.run r =
      ((Work.read statement fun rows => (f rows).map g).run s ex transaction).run.run r := by
  rw [bind_liftM_map]
  rfl

/-- A task makes its statements and runs them. -/
theorem run_eq (task : Task) (r : Run σ) :
    (task.run s ex transaction).run.run r =
      match task.work s.generator r.caches with
      | .error cause => (.error cause, { r with caches := task.caches s.generator r.caches })
      | .ok work => (work.run s ex transaction).run.run
          { r with caches := task.caches s.generator r.caches } := by
  cases task with
  | execute statement => rfl
  | rows statement => rfl
  | query root q =>
    rw [run, Session.query, work]
    cases s.generator.select q with
    | error cause => rfl
    | ok c => exact run_read s ex transaction c.statement _ Result.objects r
  | first root q =>
    rw [run, Session.first, Session.query, work]
    cases s.generator.select q.first with
    | error cause => rfl
    | ok c =>
      -- the first of the objects is taken behind them, which is one more step of the run
      refine Eq.trans ?_ (run_read s ex transaction c.statement (q.first.objects root c.split)
        (fun os => .object os.head?) r)
      rw [bind_assoc]
      rfl
  | insert e item => exact run_changed s ex transaction _ r
  | insertOutput type item =>
    rw [run, Session.insertOutput, work]
    cases s.generator.insertOutput type.entity item with
    | error cause => rfl
    | ok c =>
      refine Eq.trans ?_ (run_read s ex transaction c.statement type.readAll
        (fun os => .object os.head?) r)
      change (((s.rows ex c.statement transaction >>= fun rows =>
        liftM (type.readAll rows) >>= fun os => pure os.head?) >>= fun o =>
          pure (Result.object o)).run.run r) = _
      simp only [bind_assoc]
      rfl
  | insertMany e items =>
    rw [run, Session.insertMany, work]
    cases s.generator.insertMany e items <;> rfl
  | insertIfAbsent e item absentWhen => exact run_changed s ex transaction _ r
  | insertTemplate e template =>
    -- the only task that uses the caches, which it has used when its statement runs
    exact run_changed s ex transaction (s.generator.insertTemplate e template r.caches).1
      { r with caches := (s.generator.insertTemplate e template r.caches).2 }
  | update e values filter => exact run_changed s ex transaction _ r
  | upsert e values filter => exact run_changed s ex transaction _ r
  | delete e filter => exact run_changed s ex transaction _ r
  | deleteJoined e joins filter => exact run_changed s ex transaction _ r
  | bulkInsert e items => exact run_changedWhole s ex transaction _ r
  | bulkUpdate e items template => exact run_changedWhole s ex transaction _ r
  | bulkUpsert e items template => exact run_changedWhole s ex transaction _ r

end Task

end Runs

end Rowgraph
