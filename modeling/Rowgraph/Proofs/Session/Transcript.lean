import Mathlib.Tactic.Basic
import Rowgraph.Session.Basic

/-!
# Transcripts

What a run asks its executor and how it is answered. A transcript lists the requests in order, each
with its answer, and the answers are those of the executor, state after state (`Transcript`). A step of
a run extends the transcript (`Asks`); a statement takes one exchange, or two if the first answer is that
its plan is stale (`Attempts`).
-/

set_option autoImplicit false

namespace Rowgraph

/-- A request and its answer. -/
inductive Exchange where
  | executed (statement : Statement) (transaction : Option Transaction)
      (answer : Except DriverError Nat)
  | queried (statement : Statement) (transaction : Option Transaction)
      (answer : Except DriverError (List Row))
  | begun (answer : Except DriverError Transaction)
  | committed (transaction : Transaction) (answer : Except DriverError Unit)
  | rolledBack (transaction : Transaction) (answer : Except DriverError Unit)

/-- The request without the answer. -/
def Exchange.request : Exchange → Request
  | .executed statement transaction _ => .execute statement transaction
  | .queried statement transaction _ => .query statement transaction
  | .begun _ => .begin
  | .committed transaction _ => .commit transaction
  | .rolledBack transaction _ => .rollback transaction

/-- The request of an event, if it is one. -/
def Event.request? : Event → Option Request
  | .asked request => some request
  | _ => none

/-- The requests made in a run. -/
def Run.requests {σ : Type} (r : Run σ) : List Request := r.events.filterMap Event.request?

section Executors

variable {σ : Type} (ex : Executor σ)

/-- Is this how the executor answers in the first state, and the second the state it leaves? -/
def Exchange.Given (s s' : σ) : Exchange → Prop
  | .executed statement transaction answer => ex.execute statement transaction s = (answer, s')
  | .queried statement transaction answer => ex.query statement transaction s = (answer, s')
  | .begun answer => ex.begin s = (answer, s')
  | .committed transaction answer => ex.commit transaction s = (answer, s')
  | .rolledBack transaction answer => ex.rollback transaction s = (answer, s')

/-- Exchanges of the executor from the first state to the second. -/
inductive Transcript : σ → List Exchange → σ → Prop
  | nil (s : σ) : Transcript s [] s
  | cons {s s₁ s' : σ} {x : Exchange} {xs : List Exchange} (given : x.Given ex s s₁)
      (rest : Transcript s₁ xs s') : Transcript s (x :: xs) s'

theorem Transcript.append {s s₁ s' : σ} {xs ys : List Exchange} (h : Transcript ex s xs s₁)
    (h' : Transcript ex s₁ ys s') : Transcript ex s (xs ++ ys) s' := by
  induction h with
  | nil s => exact h'
  | cons given _ ih => exact .cons given (ih h')

/-- Does a run go from the first state to the second by these exchanges? -/
structure Asks (r : Run σ) (xs : List Exchange) (r' : Run σ) : Prop where
  transcript : Transcript ex r.server xs r'.server
  requests : r'.requests = r.requests ++ xs.map Exchange.request

theorem Asks.refl (r : Run σ) : Asks ex r [] r := ⟨.nil _, by simp⟩

variable {ex}

theorem Asks.trans {r r₁ r' : Run σ} {xs ys : List Exchange} (h : Asks ex r xs r₁)
    (h' : Asks ex r₁ ys r') : Asks ex r (xs ++ ys) r' := by
  refine ⟨h.transcript.append ex h'.transcript, ?_⟩
  rw [h'.requests, h.requests, List.map_append, List.append_assoc]

/-- A step that asks nothing. -/
theorem Asks.of_eq {r r₁ r' : Run σ} {xs : List Exchange} (h : Asks ex r xs r₁)
    (hserver : r'.server = r₁.server) (hrequests : r'.requests = r₁.requests) :
    Asks ex r xs r' :=
  ⟨hserver ▸ h.transcript, hrequests ▸ h.requests⟩

theorem requests_record (r : Run σ) (e : Event) :
    (r.record e).requests = r.requests ++ e.request?.toList := by
  rw [Run.record, Run.requests, List.filterMap_append]
  cases e <;> rfl

/-! ## Runs -/

namespace SessionM

variable {α β : Type} {m : SessionM σ α} {f : α → SessionM σ β} {r r₁ : Run σ}

theorem bind_run_ok {a : α} (h : m.run.run r = (.ok a, r₁)) :
    (m >>= f).run.run r = (f a).run.run r₁ := by
  rw [ExceptT.run_bind, StateT.run_bind, h]
  rfl

/-- What follows an error is not run. -/
theorem bind_run_error {e : Error} (h : m.run.run r = (.error e, r₁)) :
    (m >>= f).run.run r = (.error e, r₁) := by
  rw [ExceptT.run_bind, StateT.run_bind, h]
  rfl

theorem lift_run {m : StateM (Run σ) α} {a : α} (h : m.run r = (a, r₁)) :
    (liftM m : SessionM σ α).run.run r = (.ok a, r₁) := by
  change ((Except.ok (m.run r).1, (m.run r).2) : Except Error α × Run σ) = _
  rw [h]

end SessionM

/-! ## Requests -/

namespace Session

variable {α : Type} (s : Session)

/-- A request is made once, and its answer is the executor's. -/
theorem attempt_run (statement : Statement) {request : Request} {call : σ → Answer σ α}
    (r : Run σ) {x : Exchange} (hrequest : x.request = request)
    (hgiven : x.Given ex r.server (call r.server).2) :
    ∃ r', (s.attempt statement request call).run r = ((call r.server).1, r') ∧ Asks ex r [x] r' := by
  let asked : Run σ := { r.record (.asked request) with server := (call r.server).2 }
  have hasked : Asks ex r [x] asked := by
    refine ⟨.cons hgiven (.nil _), ?_⟩
    rw [List.map_cons, List.map_nil, hrequest]
    exact requests_record r (.asked request)
  have hask : (Run.ask request call).run r = ((call r.server).1, asked) := rfl
  rw [attempt, StateT.run_bind, hask]
  cases hanswer : (call r.server).1 with
  | ok a => exact ⟨asked, rfl, hasked⟩
  | error e =>
    cases hobserving : s.observing with
    | false =>
      simp only [observe, hobserving]
      exact ⟨asked, rfl, hasked⟩
    | true =>
      simp only [observe, hobserving]
      refine ⟨asked.record (.observed e statement.sql statement.params), rfl, hasked.of_eq rfl ?_⟩
      exact (requests_record asked _).trans (List.append_nil _)

theorem answered_run {m : StateM (Run σ) (Except DriverError α)} {r r₁ : Run σ}
    {answer : Except DriverError α} (h : m.run r = (answer, r₁)) :
    (answered m).run.run r = (answer.mapError .driver, r₁) := by
  change (((m.run r).1.mapError .driver, (m.run r).2) : Except Error α × Run σ) = _
  rw [h]

/-- The exchanges about a statement, and its last answer: it is tried once more exactly if the first
answer is that its plan is stale. -/
inductive Attempts (stale : List Int) (statement : Statement) (transaction : Option Transaction) :
    List Exchange → Except DriverError Nat → Prop
  | once {answer : Except DriverError Nat}
      (h : ∀ e, answer = .error e → Settings.isStale stale e.code = false) :
      Attempts stale statement transaction [.executed statement transaction answer] answer
  | twice {e : DriverError} {answer : Except DriverError Nat}
      (h : Settings.isStale stale e.code = true) :
      Attempts stale statement transaction
        [.executed statement transaction (.error e), .executed statement transaction answer] answer

variable (ex) in
/-- A statement is tried once or twice, and its result is the last answer. -/
theorem execute_run (statement : Statement) (transaction : Option Transaction) (r : Run σ) :
    ∃ xs answer r', (s.execute ex statement transaction).run.run r =
        (answer.mapError .driver, r') ∧
      Asks ex r xs r' ∧ Attempts s.staleCodes statement transaction xs answer := by
  let call := ex.execute statement transaction
  have hexecuted : ∀ r : Run σ, ∃ r',
      (s.attempt statement (.execute statement transaction) call).run r =
        ((call r.server).1, r') ∧
      Asks ex r [.executed statement transaction (call r.server).1] r' := fun r =>
    s.attempt_run statement r rfl rfl
  suffices h : ∃ xs answer r',
      (s.retrying statement (.execute statement transaction) call).run r = (answer, r') ∧
      Asks ex r xs r' ∧ Attempts s.staleCodes statement transaction xs answer by
    obtain ⟨xs, answer, r', hrun, hrest⟩ := h
    exact ⟨xs, answer, r', answered_run hrun, hrest⟩
  obtain ⟨r₁, hfirst, hasks⟩ := hexecuted r
  rw [retrying, StateT.run_bind, hfirst]
  cases hanswer : (call r.server).1 with
  | ok n =>
    rw [hanswer] at hasks
    exact ⟨_, _, r₁, rfl, hasks, .once nofun⟩
  | error e =>
    rw [hanswer] at hasks
    change ∃ xs answer r', (if Settings.isStale s.staleCodes e.code then do
        Run.purge
        s.attempt statement (.execute statement transaction) call
      else return .error e).run r₁ = (answer, r') ∧ _
    cases hstale : Settings.isStale s.staleCodes e.code with
    | false =>
      refine ⟨_, _, r₁, rfl, hasks, .once fun e' he' => ?_⟩
      rwa [← Except.error.inj he']
    | true =>
      -- the caches are emptied before the second try, which asks nothing
      obtain ⟨r₂, hsecond, hasks'⟩ := hexecuted { r₁.record .purged with caches := r₁.caches.purge }
      have hpurge : Asks ex r [.executed statement transaction (.error e)]
          { r₁.record .purged with caches := r₁.caches.purge } :=
        hasks.of_eq rfl ((requests_record r₁ .purged).trans (List.append_nil _))
      exact ⟨_, _, r₂, hsecond, hpurge.trans hasks', .twice hstale⟩

end Session

end Executors

end Rowgraph
