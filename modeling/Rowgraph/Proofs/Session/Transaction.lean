import Mathlib.Algebra.GroupWithZero.Nat
import Mathlib.Data.List.Forall2
import Rowgraph.Proofs.Session.Transcript
import Rowgraph.Session.Write

/-!
# Transactions

The transcripts of the writes of several rows. Their statements run one after the other in one
transaction, each only after the one before it succeeded (`Executes`). In a transaction of their own
they stand between its beginning and one finishing request, which is a commit exactly if all of them
succeeded (`OwnTransaction`); the caller's transaction is left open (`InTransaction`). Whatever the
executor answers, a write of several rows has such a transcript and the outcome that belongs to it
(`Batch.run_inTransaction`).
-/

set_option autoImplicit false

namespace Rowgraph

open Session (Attempts)

/-! ## Transcripts of a transaction -/

section Shapes

variable (stale : List Int)

/-- Statements that succeeded one after the other, each with its exchanges and the number of rows it
changed. -/
def Succeeds (transaction : Transaction) :
    List Statement → List (List Exchange × Nat) → Prop :=
  List.Forall₂ fun statement run => Attempts stale statement (some transaction) run.1 (.ok run.2)

/-- Statements run in a transaction, up to the first that fails: the outcome is the number of rows all
of them changed, or the last error of the failing one. -/
inductive Executes (transaction : Transaction) (statements : List Statement) :
    List Exchange → Except DriverError Nat → Prop
  | all {runs : List (List Exchange × Nat)} (h : Succeeds stale transaction statements runs) :
      Executes transaction statements (runs.flatMap (·.1)) (.ok (runs.map (·.2)).sum)
  | upTo {done rest : List Statement} {failing : Statement} {runs : List (List Exchange × Nat)}
      {xs : List Exchange} {e : DriverError} (hstatements : statements = done ++ failing :: rest)
      (h : Succeeds stale transaction done runs)
      (hfailing : Attempts stale failing (some transaction) xs (.error e)) :
      Executes transaction statements (runs.flatMap (·.1) ++ xs) (.error e)

/-- Statements run in a transaction that is begun and finished for them. The outcome is an error if
any request but a rollback failed. -/
inductive OwnTransaction (statements : List Statement) :
    List Exchange → Except DriverError Nat → Prop
  | refused {e : DriverError} : OwnTransaction statements [.begun (.error e)] (.error e)
  | committed {transaction : Transaction} {xs : List Exchange} {changed : Nat}
      (h : Executes stale transaction statements xs (.ok changed)) :
      OwnTransaction statements
        (.begun (.ok transaction) :: xs ++ [.committed transaction (.ok ())]) (.ok changed)
  | notCommitted {transaction : Transaction} {xs : List Exchange} {changed : Nat} {e : DriverError}
      (h : Executes stale transaction statements xs (.ok changed)) :
      OwnTransaction statements
        (.begun (.ok transaction) :: xs ++ [.committed transaction (.error e)]) (.error e)
  | rolledBack {transaction : Transaction} {xs : List Exchange} {e : DriverError}
      {answer : Except DriverError Unit}
      (h : Executes stale transaction statements xs (.error e)) :
      OwnTransaction statements
        (.begun (.ok transaction) :: xs ++ [.rolledBack transaction answer]) (.error e)

/-- Statements run in the caller's transaction or, if there are any, in one of their own. -/
inductive InTransaction : List Statement → Option Transaction → List Exchange →
    Except DriverError Nat → Prop
  | callers {transaction : Transaction} {statements : List Statement} {xs : List Exchange}
      {answer : Except DriverError Nat} (h : Executes stale transaction statements xs answer) :
      InTransaction statements (some transaction) xs answer
  | nothing : InTransaction [] none [] (.ok 0)
  | own {statements : List Statement} {xs : List Exchange} {answer : Except DriverError Nat}
      (hne : statements ≠ []) (h : OwnTransaction stale statements xs answer) :
      InTransaction statements none xs answer

variable {stale} {transaction : Transaction} {statements : List Statement}

theorem Executes.nil : Executes stale transaction [] [] (.ok 0) := .all .nil

/-- A first statement that fails is the last one that runs. -/
theorem Executes.failed {statement : Statement} {xs : List Exchange} {e : DriverError}
    (h : Attempts stale statement (some transaction) xs (.error e)) :
    Executes stale transaction (statement :: statements) xs (.error e) :=
  Executes.upTo rfl List.Forall₂.nil h

/-- A first statement that succeeds adds its exchanges and the rows it changed. -/
theorem Executes.cons {statement : Statement} {xs ys : List Exchange} {changed : Nat}
    {answer : Except DriverError Nat}
    (h : Attempts stale statement (some transaction) xs (.ok changed))
    (hrest : Executes stale transaction statements ys answer) :
    Executes stale transaction (statement :: statements) (xs ++ ys)
      (answer.map (changed + ·)) := by
  cases hrest with
  | @all runs hruns =>
    have hall : Succeeds stale transaction (statement :: statements) ((xs, changed) :: runs) :=
      .cons h hruns
    exact .all hall
  | @upTo done rest failing runs zs e hstatements hruns hfailing =>
    have hdone : Succeeds stale transaction (statement :: done) ((xs, changed) :: runs) :=
      .cons h hruns
    rw [hstatements, ← List.append_assoc]
    exact .upTo rfl hdone hfailing

end Shapes

/-! ## Runs of a transaction -/

namespace Session

section Runs

variable {σ : Type} (s : Session) (ex : Executor σ)

/-- Statements run one after the other, and none after one that failed. -/
theorem executeAll_run (transaction : Transaction) (statements : List Statement) (r : Run σ) :
    ∃ xs answer r', (s.executeAll ex transaction statements).run.run r =
        (answer.mapError .driver, r') ∧
      Asks ex r xs r' ∧ Executes s.staleCodes transaction statements xs answer := by
  induction statements generalizing r with
  | nil => exact ⟨[], .ok 0, r, rfl, .refl ex r, .nil⟩
  | cons statement rest ih =>
    obtain ⟨xs, answer, r₁, hfirst, hasks, hattempts⟩ :=
      s.execute_run ex statement (some transaction) r
    rw [executeAll]
    cases answer with
    -- the statements behind it are not run
    | error e => exact ⟨xs, .error e, r₁, SessionM.bind_run_error hfirst, hasks, .failed hattempts⟩
    | ok changed =>
      obtain ⟨ys, answer, r₂, hrest, hasks', hexecutes⟩ := ih r₁
      refine ⟨xs ++ ys, answer.map (changed + ·), r₂, ?_, hasks.trans hasks',
        .cons hattempts hexecutes⟩
      rw [SessionM.bind_run_ok hfirst]
      cases answer with
      | error e => exact SessionM.bind_run_error hrest
      | ok changed' => exact SessionM.bind_run_ok hrest

theorem begin_run (label : String) (r : Run σ) :
    ∃ answer r', (s.control label .begin ex.begin).run r = (answer, r') ∧
      Asks ex r [.begun answer] r' :=
  ⟨_, s.attempt_run _ r rfl rfl⟩

theorem commit_run (label : String) (transaction : Transaction) (r : Run σ) :
    ∃ answer r', (s.control label (.commit transaction) (ex.commit transaction)).run r =
        (answer, r') ∧
      Asks ex r [.committed transaction answer] r' :=
  ⟨_, s.attempt_run _ r rfl rfl⟩

theorem rollback_run (label : String) (transaction : Transaction) (r : Run σ) :
    ∃ answer r', (s.control label (.rollback transaction) (ex.rollback transaction)).run r =
        (answer, r') ∧
      Asks ex r [.rolledBack transaction answer] r' :=
  ⟨_, s.attempt_run _ r rfl rfl⟩

/-- Statements in a transaction of their own: the transaction is begun, and finished by one request. -/
theorem inOwnTransaction_run (statements : List Statement) (r : Run σ) :
    ∃ xs answer r', (s.inOwnTransaction ex statements).run.run r =
        (answer.mapError .driver, r') ∧
      Asks ex r xs r' ∧ OwnTransaction s.staleCodes statements xs answer := by
  rw [inOwnTransaction]
  obtain ⟨begun, r₁, hbegin, hasks₁⟩ := s.begin_run ex "BEGIN TRANSACTION" r
  have hbegun := answered_run hbegin
  cases begun with
  | error e => exact ⟨_, .error e, r₁, SessionM.bind_run_error hbegun, hasks₁, .refused⟩
  | ok transaction =>
    rw [SessionM.bind_run_ok hbegun]
    obtain ⟨xs, answer, r₂, hrun, hasks₂, hexecutes⟩ :=
      s.executeAll_run ex transaction statements r₁
    have hasks := hasks₁.trans hasks₂
    rw [SessionM.bind_run_ok (SessionM.lift_run hrun)]
    cases answer with
    | ok changed =>
      obtain ⟨finish, r₃, hcommit, hasks₃⟩ := s.commit_run ex "COMMIT" transaction r₂
      have hfinish := answered_run hcommit
      cases finish with
      | ok _ =>
        exact ⟨_, .ok changed, r₃, SessionM.bind_run_ok hfinish, hasks.trans hasks₃,
          .committed hexecutes⟩
      | error e =>
        exact ⟨_, .error e, r₃, SessionM.bind_run_error hfinish, hasks.trans hasks₃,
          .notCommitted hexecutes⟩
    | error e =>
      -- whatever the rollback is answered, the result is the error that led to it
      obtain ⟨finish, r₃, hrollback, hasks₃⟩ := s.rollback_run ex "ROLLBACK" transaction r₂
      exact ⟨_, .error e, r₃, SessionM.bind_run_ok (SessionM.lift_run hrollback),
        hasks.trans hasks₃, .rolledBack hexecutes⟩

theorem inTransaction_run (statements : List Statement) (transaction : Option Transaction)
    (r : Run σ) :
    ∃ xs answer r', (s.inTransaction ex statements transaction).run.run r =
        (answer.mapError .driver, r') ∧
      Asks ex r xs r' ∧ InTransaction s.staleCodes statements transaction xs answer := by
  cases transaction with
  | some transaction =>
    obtain ⟨xs, answer, r', hrun, hasks, h⟩ := s.executeAll_run ex transaction statements r
    exact ⟨xs, answer, r', hrun, hasks, .callers h⟩
  | none =>
    cases statements with
    | nil => exact ⟨[], .ok 0, r, rfl, .refl ex r, .nothing⟩
    | cons statement rest =>
      obtain ⟨xs, answer, r', hrun, hasks, h⟩ :=
        s.inOwnTransaction_run ex (statement :: rest) r
      exact ⟨xs, answer, r', hrun, hasks, .own (List.cons_ne_nil _ _) h⟩

end Runs

end Session

/-! ## Writes of several rows -/

/-- A write of several rows. -/
inductive Batch where
  | insertMany (items : List Row)
  | bulkInsert (items : List Row)
  | bulkUpdate (items : List Row) (template : Expr)
  | bulkUpsert (items : List Row) (template : Expr)

namespace Batch

/-- The statements of a write. -/
def statements (g : Generator) (e : Entity) : Batch → Except Error (List Statement)
  | insertMany items => (g.insertMany e items).map fun commands => commands.map Command.statement
  | bulkInsert items => (g.bulkInsert e items).map fun command => [command.statement]
  | bulkUpdate items template =>
    (g.bulkUpdate e items template).map fun command => [command.statement]
  | bulkUpsert items template =>
    (g.bulkUpsert e items template).map fun command => [command.statement]

section Runs

variable {σ : Type} (s : Session) (ex : Executor σ)

/-- Runs a write. -/
def run (e : Entity) (transaction : Option Transaction) : Batch → SessionM σ Nat
  | insertMany items => s.insertMany ex e items transaction
  | bulkInsert items => s.bulkInsert ex e items transaction
  | bulkUpdate items template => s.bulkUpdate ex e items template transaction
  | bulkUpsert items template => s.bulkUpsert ex e items template transaction

/-- A write makes its statements and runs them in a transaction. -/
theorem run_eq (e : Entity) (transaction : Option Transaction) (b : Batch) :
    b.run s ex e transaction = liftM (m := Except Error) (b.statements s.generator e) >>=
      fun statements => s.inTransaction ex statements transaction := by
  have hwhole : ∀ command : Except Error Command, s.runWhole ex command transaction =
      liftM (m := Except Error) (command.map fun c => [c.statement]) >>=
        fun statements => s.inTransaction ex statements transaction := by
    intro command
    cases command <;> rfl
  cases b with
  | insertMany items =>
    rw [run, Session.insertMany, statements]
    cases s.generator.insertMany e items <;> rfl
  | bulkInsert items => exact hwhole _
  | bulkUpdate items template => exact hwhole _
  | bulkUpsert items template => exact hwhole _

/-- A write of several rows is one transaction. If its statements cannot be made it asks nothing;
else it asks, whatever the executor answers, what statements in a transaction ask, and its result is
their outcome. -/
theorem run_inTransaction (e : Entity) (transaction : Option Transaction) (b : Batch) (r : Run σ) :
    match b.statements s.generator e with
    | .error cause => (b.run s ex e transaction).run.run r = (.error cause, r)
    | .ok statements => ∃ xs answer r',
        (b.run s ex e transaction).run.run r = (answer.mapError .driver, r') ∧
        Asks ex r xs r' ∧ InTransaction s.staleCodes statements transaction xs answer := by
  rw [run_eq]
  cases b.statements s.generator e with
  | error cause => rfl
  | ok statements => exact s.inTransaction_run ex statements transaction r

end Runs

end Batch

end Rowgraph
