import Rowgraph.Command

/-!
# Executors

The seam to a database. An executor answers five requests, and each answer may depend on everything
it was asked before, which its state stands for.
-/

set_option autoImplicit false

namespace Rowgraph

/-- The number of a transaction. -/
abbrev Transaction := Nat

/-- What an executor is asked. -/
inductive Request where
  | execute (statement : Statement) (transaction : Option Transaction)
  | query (statement : Statement) (transaction : Option Transaction)
  | begin
  | commit (transaction : Transaction)
  | rollback (transaction : Transaction)
  deriving DecidableEq

/-- An answer, and the state behind it. -/
abbrev Answer (σ α : Type) := Except DriverError α × σ

/-- A database as statements see it. -/
structure Executor (σ : Type) where
  /-- Runs a statement; the answer is the number of rows it changed. -/
  execute : Statement → Option Transaction → σ → Answer σ Nat
  /-- Runs a statement; the answer is the rows it yields. -/
  query : Statement → Option Transaction → σ → Answer σ (List Row)
  begin : σ → Answer σ Transaction
  commit : Transaction → σ → Answer σ Unit
  rollback : Transaction → σ → Answer σ Unit

end Rowgraph
