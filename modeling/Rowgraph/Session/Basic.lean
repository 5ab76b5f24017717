import Rowgraph.Session.Run
import Rowgraph.Settings.Basic

/-!
# Sessions

How statements are run. A statement whose plan is stale is tried once more, after the caches were
emptied; writes of several rows run in one transaction, the caller's or one of their own; and an
observer, if there is one, is shown every error of the driver.
-/

set_option autoImplicit false

namespace Rowgraph

/-- How a program runs its statements. -/
structure Session where
  generator : Generator := {}
  /-- The error codes that mean a stale plan. -/
  staleCodes : List Int := ({} : Settings).staleCodes
  /-- Is there an observer? -/
  observing : Bool := false
  deriving DecidableEq

/-- A session that follows settings. -/
def Session.ofSettings (env : Environment) (s : Settings) : Except SettingsError Session :=
  (Generator.ofSettings env s).map fun g => { generator := g, staleCodes := s.staleCodes }

namespace Session

variable {σ α : Type}

/-- Shows an error to the observer. -/
def observe (s : Session) (e : DriverError) (sql : String) (params : Parameters) :
    StateM (Run σ) Unit :=
  if s.observing then modify fun r => r.record (.observed e sql params) else pure ()

/-- Makes a request once, and shows the error it may meet with. -/
def attempt (s : Session) (statement : Statement) (request : Request) (call : σ → Answer σ α) :
    StateM (Run σ) (Except DriverError α) := do
  match ← Run.ask request call with
  | .ok a => return .ok a
  | .error e =>
    s.observe e statement.sql statement.params
    return .error e

/-- Makes a request, and once more after a purge if the first answer was that a plan is stale. -/
def retrying (s : Session) (statement : Statement) (request : Request) (call : σ → Answer σ α) :
    StateM (Run σ) (Except DriverError α) := do
  match ← s.attempt statement request call with
  | .ok a => return .ok a
  | .error e =>
    if Settings.isStale s.staleCodes e.code then do
      Run.purge
      s.attempt statement request call
    else return .error e

/-- The answer to a request, an error of the driver being an error of the run. -/
def answered (m : StateM (Run σ) (Except DriverError α)) : SessionM σ α :=
  ExceptT.mk do return (← m).mapError .driver

/-- Runs a statement; the result is the number of rows it changed. -/
def execute (s : Session) (ex : Executor σ) (statement : Statement)
    (transaction : Option Transaction) : SessionM σ Nat :=
  answered (s.retrying statement (.execute statement transaction)
    (ex.execute statement transaction))

/-- Runs a statement; the result is the rows it yields. -/
def rows (s : Session) (ex : Executor σ) (statement : Statement)
    (transaction : Option Transaction) : SessionM σ (List Row) :=
  answered (s.retrying statement (.query statement transaction) (ex.query statement transaction))

/-- Runs statements one after the other; the result is the number of rows they changed together. -/
def executeAll (s : Session) (ex : Executor σ) (transaction : Transaction) :
    List Statement → SessionM σ Nat
  | [] => return 0
  | statement :: rest => do
    let changed ← s.execute ex statement (some transaction)
    return changed + (← s.executeAll ex transaction rest)

/-- Makes a request that concerns a transaction, once; the label stands for its text. -/
def control (s : Session) (label : String) (request : Request) (call : σ → Answer σ α) :
    StateM (Run σ) (Except DriverError α) :=
  s.attempt { sql := label } request call

/-- Runs statements in a transaction of their own: it is committed if all of them succeed and rolled
back otherwise. An error of the rollback is shown, and the error that led to it stays the result. -/
def inOwnTransaction (s : Session) (ex : Executor σ) (statements : List Statement) :
    SessionM σ Nat := do
  let transaction ← answered (s.control "BEGIN TRANSACTION" .begin ex.begin)
  match ← liftM (m := StateM (Run σ)) (s.executeAll ex transaction statements).run with
  | .ok changed =>
    answered (s.control "COMMIT" (.commit transaction) (ex.commit transaction))
    return changed
  | .error e =>
    let _ ← liftM (m := StateM (Run σ))
      (s.control "ROLLBACK" (.rollback transaction) (ex.rollback transaction))
    throw e

/-- Runs statements in the caller's transaction, or else in one of their own. -/
def inTransaction (s : Session) (ex : Executor σ) (statements : List Statement)
    (transaction : Option Transaction) : SessionM σ Nat :=
  match transaction with
  | some t => s.executeAll ex t statements
  | none =>
    if statements.isEmpty then return 0
    else s.inOwnTransaction ex statements

/-- The statement of a command, once it could be made. -/
def prepared (command : Except Error Command) : SessionM σ Statement :=
  liftM (m := Except Error) (command.map Command.statement)

end Session

end Rowgraph
