import Rowgraph.Caches
import Rowgraph.Session.Executor

/-!
# Runs

What a session changes while it runs: the executor's state, the caches, and a record of the requests
made, the errors shown to the observer and the purges of the caches, in order.
-/

set_option autoImplicit false

namespace Rowgraph

/-- Something that happened in a run. -/
inductive Event where
  | asked (request : Request)
  /-- An error of the driver was shown, with the text and the parameters it arose from. -/
  | observed (error : DriverError) (sql : String) (params : Parameters)
  | purged
  deriving DecidableEq

/-- The state of a run. -/
structure Run (σ : Type) where
  server : σ
  caches : Caches := {}
  events : List Event := []

/-- A step of a run. What happened before an error has happened. -/
abbrev SessionM (σ : Type) := ExceptT Error (StateM (Run σ))

namespace Run

variable {σ : Type}

/-- The run with one more event. -/
def record (r : Run σ) (e : Event) : Run σ := { r with events := r.events ++ [e] }

/-- Makes a request. -/
def ask {α : Type} (request : Request) (call : σ → Answer σ α) :
    StateM (Run σ) (Except DriverError α) :=
  fun r =>
    let (answer, server) := call r.server
    (answer, { r.record (.asked request) with server := server })

/-- Empties the caches. -/
def purge : StateM (Run σ) Unit := modify fun r => { r.record .purged with caches := r.caches.purge }

/-- Works with the caches. -/
def withCaches {α : Type} (f : Caches → α × Caches) : StateM (Run σ) α := fun r =>
  let (a, caches) := f r.caches
  (a, { r with caches := caches })

end Run

end Rowgraph
