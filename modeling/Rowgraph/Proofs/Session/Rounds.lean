import Rowgraph.Proofs.Session.Task
import Rowgraph.Proofs.Session.Transaction

/-!
# Rounds

A run goes through rounds. A round is a request with its answer; if the request hands a statement over and
the answer is that its plan is stale, the caches are emptied and the same request is made once more in the
same round (`Round.Follows`). The record of a round says what the observer is shown, and whether there is one
makes no other difference (`Passes`). Steps that are put together from steps in rounds go through the rounds
of all of them (`Traceable`), so that every task does, and the outcome of a statement is the last answer of
its round (`Task.run_rounds`).
-/

set_option autoImplicit false

namespace Rowgraph

/-! ## Exchanges and rounds -/

/-- The error of the driver in an answer. -/
def failure? {α : Type} : Except DriverError α → Option DriverError
  | .error e => some e
  | .ok _ => none

namespace Request

/-- Does the request hand a statement over? -/
def isStatement : Request → Bool
  | .execute _ _ => true
  | .query _ _ => true
  | _ => false

/-- The text that an error of the request is shown with. -/
def text : Request → String
  | .execute statement _ => statement.sql
  | .query statement _ => statement.sql
  | .begin => "BEGIN TRANSACTION"
  | .commit _ => "COMMIT"
  | .rollback _ => "ROLLBACK"

/-- The parameters that an error of the request is shown with. -/
def params : Request → Parameters
  | .execute statement _ => statement.params
  | .query statement _ => statement.params
  | _ => {}

end Request

namespace Exchange

/-- The error of the driver that the request met with. -/
def error? : Exchange → Option DriverError
  | .executed _ _ answer => failure? answer
  | .queried _ _ answer => failure? answer
  | .begun answer => failure? answer
  | .committed _ answer => failure? answer
  | .rolledBack _ answer => failure? answer

/-- The record of an exchange: the request, and the error as an observer is shown it. -/
def events (observing : Bool) (x : Exchange) : List Event :=
  .asked x.request :: match x.error? with
    | some e => if observing then [.observed e x.request.text x.request.params] else []
    | none => []

end Exchange

/-- A request and, if it is made twice, what came of it first. -/
inductive Round where
  | once (x : Exchange)
  | twice (first second : Exchange)

namespace Round

/-- The exchanges of a round. -/
def exchanges : Round → List Exchange
  | once x => [x]
  | twice first second => [first, second]

/-- The exchange that the outcome is from. -/
def last : Round → Exchange
  | once x => x
  | twice _ second => second

/-- The record of a round. The caches are emptied between two exchanges and never else. -/
def events (observing : Bool) : Round → List Event
  | once x => x.events observing
  | twice first second => first.events observing ++ [.purged] ++ second.events observing

/-- The caches behind a round. -/
def cachesAfter (caches : Caches) : Round → Caches
  | once _ => caches
  | twice _ _ => caches.purge

/-- A statement is tried again if the first answer is that its plan is stale, and not for another answer.
Nothing else is tried again. -/
inductive Follows (stale : List Int) : Round → Prop
  | once {x : Exchange}
      (h : x.request.isStatement = true → ∀ e, x.error? = some e → Settings.isStale stale e.code = false) :
      Follows stale (.once x)
  | twice {first second : Exchange} {e : DriverError} (hstatement : first.request.isStatement = true)
      (hsame : second.request = first.request) (herror : first.error? = some e)
      (hstale : Settings.isStale stale e.code = true) : Follows stale (.twice first second)

end Round

section Executors

variable {σ : Type} (ex : Executor σ)

/-- A request, the answers of the executor to it, and the exchange that an answer makes of it. -/
structure Asking (α : Type) where
  request : Request
  call : σ → Answer σ α
  exchange : Except DriverError α → Exchange
  request_exchange (answer : Except DriverError α) : (exchange answer).request = request
  error?_exchange (answer : Except DriverError α) : (exchange answer).error? = failure? answer
  given (server : σ) : (exchange (call server).1).Given ex server (call server).2

namespace Asking

/-- The execution of a statement. -/
def execute (statement : Statement) (transaction : Option Transaction) : Asking ex Nat where
  request := .execute statement transaction
  call := ex.execute statement transaction
  exchange := .executed statement transaction
  request_exchange _ := rfl
  error?_exchange _ := rfl
  given _ := rfl

/-- The query for the rows of a statement. -/
def query (statement : Statement) (transaction : Option Transaction) : Asking ex (List Row) where
  request := .query statement transaction
  call := ex.query statement transaction
  exchange := .queried statement transaction
  request_exchange _ := rfl
  error?_exchange _ := rfl
  given _ := rfl

/-- The beginning of a transaction. -/
def begin : Asking ex Transaction where
  request := .begin
  call := ex.begin
  exchange := .begun
  request_exchange _ := rfl
  error?_exchange _ := rfl
  given _ := rfl

/-- The commit of a transaction. -/
def commit (transaction : Transaction) : Asking ex Unit where
  request := .commit transaction
  call := ex.commit transaction
  exchange := .committed transaction
  request_exchange _ := rfl
  error?_exchange _ := rfl
  given _ := rfl

/-- The rollback of a transaction. -/
def rollback (transaction : Transaction) : Asking ex Unit where
  request := .rollback transaction
  call := ex.rollback transaction
  exchange := .rolledBack transaction
  request_exchange _ := rfl
  error?_exchange _ := rfl
  given _ := rfl

end Asking

/-! ## Steps in rounds -/

/-- Does a step, whether there is an observer or not, go through these rounds, to this result and this state
of the executor? -/
structure Passes {α : Type} (stale : List Int) (m : Bool → SessionM σ α) (server : σ) (caches : Caches)
    (rounds : List Round) (result : Except Error α) (server' : σ) : Prop where
  run (observing : Bool) (events : List Event) :
    (m observing).run.run ⟨server, caches, events⟩ = (result, ⟨server',
      rounds.foldl Round.cachesAfter caches, events ++ rounds.flatMap (Round.events observing)⟩)
  transcript : Transcript ex server (rounds.flatMap Round.exchanges) server'
  follows (round : Round) : round ∈ rounds → round.Follows stale

/-- Does a step go through rounds wherever it begins? -/
def Traceable {α : Type} (stale : List Int) (m : Bool → SessionM σ α) : Prop :=
  ∀ server caches, ∃ rounds result server', Passes ex stale m server caches rounds result server'

variable {ex} {α β : Type} {stale : List Int} {m : Bool → SessionM σ α} {f : Bool → α → SessionM σ β}
  {server server₁ server' : σ} {caches : Caches} {rounds rounds' : List Round}

namespace Passes

/-- A step that asks nothing. -/
theorem lift (x : Except Error α) (server : σ) (caches : Caches) :
    Passes ex stale (fun _ => liftM x) server caches [] x server where
  run observing events := by
    rw [List.flatMap_nil, List.append_nil]
    cases x <;> rfl
  transcript := .nil server
  follows round h := absurd h List.not_mem_nil

/-- What follows a success goes through its rounds next. -/
theorem bind {a : α} {result : Except Error β} (h : Passes ex stale m server caches rounds (.ok a) server₁)
    (hf : Passes ex stale (f · a) server₁ (rounds.foldl Round.cachesAfter caches) rounds' result server') :
    Passes ex stale (fun observing => m observing >>= f observing) server caches (rounds ++ rounds')
      result server' where
  run observing events := by
    rw [SessionM.bind_run_ok (h.run observing events), hf.run observing, List.foldl_append,
      List.flatMap_append, List.append_assoc]
  transcript := by
    rw [List.flatMap_append]
    exact h.transcript.append ex hf.transcript
  follows round hround := by
    rcases List.mem_append.1 hround with hround | hround
    · exact h.follows round hround
    · exact hf.follows round hround

/-- What follows an error is not run. -/
theorem bind_error {e : Error} (h : Passes ex stale m server caches rounds (.error e) server') :
    Passes ex stale (fun observing => m observing >>= f observing) server caches rounds
      (.error e) server' where
  run observing events := SessionM.bind_run_error (h.run observing events)
  transcript := h.transcript
  follows := h.follows

/-- What is made of a result asks nothing. -/
theorem bind_lift {result : Except Error α} (h : Passes ex stale m server caches rounds result server')
    (make : α → Except Error β) :
    Passes ex stale (fun observing => m observing >>= fun a => liftM (make a)) server caches rounds
      (result >>= make) server' := by
  cases result with
  | error e => exact h.bind_error
  | ok a =>
    have hmade := Passes.bind (f := fun _ a => liftM (make a)) h (.lift (make a) server' _)
    rwa [List.append_nil] at hmade

theorem map {result : Except Error α} (h : Passes ex stale m server caches rounds result server')
    (g : α → β) :
    Passes ex stale (fun observing => do return g (← m observing)) server caches rounds
      (result.map g) server' := by
  have hmap := h.bind_lift fun a => .ok (g a)
  cases result <;> exact hmap

/-- A step whose error is looked at does not end the run. -/
theorem caught {result : Except Error α} (h : Passes ex stale m server caches rounds result server') :
    Passes ex stale (fun observing => liftM (m := StateM (Run σ)) (m observing).run) server caches rounds
      (.ok result) server' where
  run observing events := SessionM.lift_run (h.run observing events)
  transcript := h.transcript
  follows := h.follows

end Passes

namespace Traceable

theorem lift (x : Except Error α) : Traceable ex stale fun _ => liftM x := fun server caches =>
  ⟨[], x, server, .lift x server caches⟩

theorem bind (h : Traceable ex stale m) (hf : ∀ a, Traceable ex stale (f · a)) :
    Traceable ex stale fun observing => m observing >>= f observing := by
  intro server caches
  obtain ⟨rounds, result, server₁, hm⟩ := h server caches
  cases result with
  | error e => exact ⟨rounds, .error e, server₁, hm.bind_error⟩
  | ok a =>
    obtain ⟨rounds', result, server', hfa⟩ := hf a server₁ (rounds.foldl Round.cachesAfter caches)
    exact ⟨rounds ++ rounds', result, server', hm.bind hfa⟩

theorem caught (h : Traceable ex stale m) :
    Traceable ex stale fun observing => liftM (m := StateM (Run σ)) (m observing).run := by
  intro server caches
  obtain ⟨rounds, result, server', hm⟩ := h server caches
  exact ⟨rounds, .ok result, server', hm.caught⟩

end Traceable

/-! ## Requests -/

namespace Session

variable (s : Session) (a : Asking ex α) {statement : Statement}

/-- The session with an observer, or without one. -/
def watched (observing : Bool) : Session := { s with observing := observing }

/-- A request is made once, and an error is shown if there is someone to show it to. -/
theorem attempt_record (htext : a.request.text = statement.sql)
    (hparams : a.request.params = statement.params) (observing : Bool) (r : Run σ) :
    ((s.watched observing).attempt statement a.request a.call).run r =
      ((a.call r.server).1, ⟨(a.call r.server).2, r.caches,
        r.events ++ (a.exchange (a.call r.server).1).events observing⟩) := by
  have hask : (Run.ask a.request a.call).run r = ((a.call r.server).1,
      ⟨(a.call r.server).2, r.caches, r.events ++ [Event.asked a.request]⟩) := rfl
  rw [attempt, StateT.run_bind, hask, Exchange.events, a.request_exchange, a.error?_exchange,
    htext, hparams]
  cases (a.call r.server).1 with
  | ok b => rfl
  | error e =>
    cases observing with
    | false => rfl
    | true =>
      change ((.error e, ⟨(a.call r.server).2, r.caches, r.events ++ [Event.asked a.request] ++
        [Event.observed e statement.sql statement.params]⟩) : Except DriverError α × Run σ) = _
      rw [List.append_assoc]
      rfl

/-- A request about a transaction is one round. -/
theorem control_passes {label : String} (htext : a.request.text = label) (hparams : a.request.params = {})
    (hcontrol : a.request.isStatement = false) (server : σ) (caches : Caches) :
    Passes ex s.staleCodes (fun observing => liftM (m := StateM (Run σ))
        ((s.watched observing).control label a.request a.call)) server caches
      [.once (a.exchange (a.call server).1)] (.ok (a.call server).1) (a.call server).2 where
  run observing events := by
    have hrecord : ∀ r, ((s.watched observing).attempt { sql := label } a.request a.call).run r = _ :=
      s.attempt_record a htext hparams observing
    refine SessionM.lift_run ?_
    rw [control, hrecord]
    simp [Round.events, Round.cachesAfter]
  transcript := .cons (a.given server) (.nil _)
  follows round hround := by
    rw [List.mem_singleton.1 hround]
    refine .once fun hstatement => ?_
    rw [a.request_exchange, hcontrol] at hstatement
    cases hstatement

/-- The answer to a request in rounds is the result, an error of the driver being an error. -/
theorem answered_passes {call : Bool → StateM (Run σ) (Except DriverError α)}
    {answer : Except DriverError α} (h : Passes ex stale (fun observing => liftM (call observing)) server
      caches rounds (.ok answer) server') :
    Passes ex stale (fun observing => answered (call observing)) server caches rounds
      (answer.mapError .driver) server' where
  run observing events := by
    have hrun : ((.ok ((call observing).run ⟨server, caches, events⟩).1,
        ((call observing).run ⟨server, caches, events⟩).2) : Except Error _ × Run σ) = _ :=
      h.run observing events
    obtain ⟨hanswer, hrest⟩ := Prod.mk.inj hrun
    exact answered_run (Prod.ext (Except.ok.inj hanswer) hrest)
  transcript := h.transcript
  follows := h.follows

/-- A statement is tried in one round, whose last answer is the answer of all. -/
theorem retrying_record (htext : a.request.text = statement.sql)
    (hparams : a.request.params = statement.params) (hstatement : a.request.isStatement = true)
    (server : σ) :
    ∃ (round : Round) (answer : Except DriverError α) (server' : σ),
      round.last = a.exchange answer ∧ round.Follows s.staleCodes ∧
      Transcript ex server round.exchanges server' ∧ ∀ observing caches events,
        ((s.watched observing).retrying statement a.request a.call).run ⟨server, caches, events⟩ =
          (answer, ⟨server', round.cachesAfter caches, events ++ round.events observing⟩) := by
  have hfirst := s.attempt_record a htext hparams
  have hgiven := a.given server
  cases hanswer : (a.call server).1 with
  | ok b =>
    rw [hanswer] at hgiven
    refine ⟨.once (a.exchange (.ok b)), .ok b, (a.call server).2, rfl, .once ?_,
      .cons hgiven (.nil _), ?_⟩
    · intro _ e he
      rw [a.error?_exchange] at he
      cases he
    · intro observing caches events
      rw [retrying, StateT.run_bind, hfirst, hanswer]
      rfl
  | error e =>
    rw [hanswer] at hgiven
    have herror : (a.exchange (.error e)).error? = some e := a.error?_exchange _
    cases hstale : Settings.isStale s.staleCodes e.code with
    | false =>
      refine ⟨.once (a.exchange (.error e)), .error e, (a.call server).2, rfl, .once ?_,
        .cons hgiven (.nil _), ?_⟩
      · intro _ e' he'
        rw [herror] at he'
        rwa [← Option.some.inj he']
      · intro observing caches events
        rw [retrying, StateT.run_bind, hfirst, hanswer]
        simp only [bind, watched, hstale]
        rfl
    | true =>
      have hagain := a.given (a.call server).2
      refine ⟨.twice (a.exchange (.error e)) (a.exchange (a.call (a.call server).2).1),
        (a.call (a.call server).2).1, (a.call (a.call server).2).2, rfl,
        .twice ?_ ?_ herror hstale, .cons hgiven (.cons hagain (.nil _)), ?_⟩
      · rw [a.request_exchange]
        exact hstatement
      · rw [a.request_exchange, a.request_exchange]
      · intro observing caches events
        rw [retrying, StateT.run_bind, hfirst, hanswer]
        simp only [bind, watched, hstale]
        -- the second try begins where the purge ends
        change ((s.watched observing).attempt statement a.request a.call).run
          ⟨(a.call server).2, caches.purge,
            events ++ (a.exchange (.error e)).events observing ++ [Event.purged]⟩ = _
        rw [hfirst]
        simp only [Round.events, List.append_assoc]
        rfl

/-- A statement takes one round, and its outcome is the last answer. -/
theorem statement_passes (htext : a.request.text = statement.sql)
    (hparams : a.request.params = statement.params) (hstatement : a.request.isStatement = true)
    (server : σ) (caches : Caches) :
    ∃ (round : Round) (answer : Except DriverError α) (server' : σ), round.last = a.exchange answer ∧
      Passes ex s.staleCodes
        (fun observing => answered ((s.watched observing).retrying statement a.request a.call))
        server caches [round] (answer.mapError .driver) server' := by
  obtain ⟨round, answer, server', hlast, hfollows, htranscript, hrun⟩ :=
    s.retrying_record a htext hparams hstatement server
  refine ⟨round, answer, server', hlast, fun observing events => ?_, ?_, fun other hother => ?_⟩
  · rw [answered_run (hrun observing caches events)]
    simp
  · simpa using htranscript
  · rwa [List.mem_singleton.1 hother]

variable (ex) in
/-- The execution of a statement. -/
theorem execute_passes (statement : Statement) (transaction : Option Transaction) (server : σ)
    (caches : Caches) :
    ∃ (round : Round) (answer : Except DriverError Nat) (server' : σ),
      round.last = .executed statement transaction answer ∧
      Passes ex s.staleCodes (fun observing => (s.watched observing).execute ex statement transaction)
        server caches [round] (answer.mapError .driver) server' :=
  s.statement_passes (.execute ex statement transaction) rfl rfl rfl server caches

variable (ex) in
/-- The query for the rows of a statement. -/
theorem rows_passes (statement : Statement) (transaction : Option Transaction) (server : σ)
    (caches : Caches) :
    ∃ (round : Round) (answer : Except DriverError (List Row)) (server' : σ),
      round.last = .queried statement transaction answer ∧
      Passes ex s.staleCodes (fun observing => (s.watched observing).rows ex statement transaction)
        server caches [round] (answer.mapError .driver) server' :=
  s.statement_passes (.query ex statement transaction) rfl rfl rfl server caches

/-! ## Transactions -/

theorem control_traceable {label : String} (htext : a.request.text = label)
    (hparams : a.request.params = {}) (hcontrol : a.request.isStatement = false) :
    Traceable ex s.staleCodes fun observing => liftM (m := StateM (Run σ))
      ((s.watched observing).control label a.request a.call) := fun server caches =>
  ⟨_, _, _, s.control_passes a htext hparams hcontrol server caches⟩

theorem answered_traceable {label : String} (htext : a.request.text = label)
    (hparams : a.request.params = {}) (hcontrol : a.request.isStatement = false) :
    Traceable ex s.staleCodes fun observing =>
      answered ((s.watched observing).control label a.request a.call) := fun server caches =>
  ⟨_, _, _, answered_passes (s.control_passes a htext hparams hcontrol server caches)⟩

variable (ex)

theorem execute_traceable (statement : Statement) (transaction : Option Transaction) :
    Traceable ex s.staleCodes fun observing =>
      (s.watched observing).execute ex statement transaction := by
  intro server caches
  obtain ⟨round, answer, server', -, h⟩ := s.execute_passes ex statement transaction server caches
  exact ⟨_, _, server', h⟩

theorem executeAll_traceable (transaction : Transaction) (statements : List Statement) :
    Traceable ex s.staleCodes fun observing =>
      (s.watched observing).executeAll ex transaction statements := by
  induction statements with
  | nil => exact .lift (.ok 0)
  | cons statement rest ih =>
    exact (s.execute_traceable ex statement (some transaction)).bind fun changed =>
      ih.bind fun others => .lift (.ok (changed + others))

theorem inOwnTransaction_traceable (statements : List Statement) :
    Traceable ex s.staleCodes fun observing =>
      (s.watched observing).inOwnTransaction ex statements := by
  refine (s.answered_traceable (.begin ex) rfl rfl rfl).bind fun transaction => ?_
  refine (s.executeAll_traceable ex transaction statements).caught.bind fun result => ?_
  cases result with
  | ok changed =>
    exact (s.answered_traceable (.commit ex transaction) rfl rfl rfl).bind fun _ => .lift (.ok changed)
  | error e =>
    exact (s.control_traceable (.rollback ex transaction) rfl rfl rfl).bind fun _ => .lift (.error e)

theorem inTransaction_traceable (statements : List Statement) (transaction : Option Transaction) :
    Traceable ex s.staleCodes fun observing =>
      (s.watched observing).inTransaction ex statements transaction := by
  cases transaction with
  | some transaction => exact s.executeAll_traceable ex transaction statements
  | none =>
    cases statements with
    | nil => exact .lift (.ok 0)
    | cons statement rest => exact s.inOwnTransaction_traceable ex (statement :: rest)

end Session

/-! ## Tasks -/

/-- A request has one answer in a state. -/
theorem Exchange.eq_of_given {x y : Exchange} {server₂ : σ} (hx : x.Given ex server server₁)
    (hy : y.Given ex server server₂) (hrequest : x.request = y.request) : x = y ∧ server₁ = server₂ := by
  cases x <;> cases y <;> cases hrequest <;>
    simp only [Exchange.Given] at hx hy <;> cases hx.symm.trans hy <;> exact ⟨rfl, rfl⟩

/-- The requests determine the transcript. -/
theorem Transcript.eq_of_requests {xs ys : List Exchange} {server'' : σ}
    (h : Transcript ex server xs server') (h' : Transcript ex server ys server'')
    (hrequests : xs.map Exchange.request = ys.map Exchange.request) : xs = ys := by
  induction h generalizing ys with
  | nil s =>
    cases ys with
    | nil => rfl
    | cons y ys => cases hrequests
  | cons given _ ih =>
    cases h' with
    | nil => cases hrequests
    | cons given' rest' =>
      obtain ⟨hhead, htail⟩ := List.cons.inj hrequests
      obtain ⟨rfl, rfl⟩ := Exchange.eq_of_given given given' hhead
      rw [ih rest' htail]

theorem Exchange.filterMap_events (x : Exchange) (observing : Bool) :
    (x.events observing).filterMap Event.request? = [x.request] := by
  rw [Exchange.events]
  cases x.error? <;> cases observing <;> rfl

/-- The requests in the record of rounds. -/
theorem Round.filterMap_events (rounds : List Round) (observing : Bool) :
    (rounds.flatMap (Round.events observing)).filterMap Event.request? =
      (rounds.flatMap Round.exchanges).map Exchange.request := by
  induction rounds with
  | nil => rfl
  | cons round rounds ih =>
    rw [List.flatMap_cons, List.flatMap_cons, List.filterMap_append, List.map_append, ih]
    congr 1
    cases round with
    | once x => exact x.filterMap_events observing
    | twice first second =>
      rw [Round.events, List.filterMap_append, List.filterMap_append, first.filterMap_events,
        second.filterMap_events]
      rfl

/-- What the rounds of a task make of it: the outcome of a statement is the last answer in its round,
and statements that run together run as those of a transaction do. -/
inductive Work.Settles (stale : List Int) (transaction : Option Transaction) :
    Work → List Round → Except Error Task.Result → Prop
  | change {statement : Statement} {round : Round} {answer : Except DriverError Nat}
      (hlast : round.last = .executed statement transaction answer) :
      Settles stale transaction (.change statement) [round] ((answer.mapError .driver).map .changed)
  | read {statement : Statement} {make : List Row → Except Error Task.Result} {round : Round}
      {answer : Except DriverError (List Row)}
      (hlast : round.last = .queried statement transaction answer) :
      Settles stale transaction (.read statement make) [round] (answer.mapError .driver >>= make)
  | together {statements : List Statement} {rounds : List Round} {answer : Except DriverError Nat}
      (h : InTransaction stale statements transaction (rounds.flatMap Round.exchanges) answer) :
      Settles stale transaction (.together statements) rounds ((answer.mapError .driver).map .changed)

variable (ex) (s : Session) (transaction : Option Transaction)

/-- The rounds of statements in a transaction are its exchanges. -/
theorem Session.inTransaction_passes (statements : List Statement) (server : σ) (caches : Caches) :
    ∃ (rounds : List Round) (answer : Except DriverError Nat) (server' : σ),
      InTransaction s.staleCodes statements transaction (rounds.flatMap Round.exchanges) answer ∧
      Passes ex s.staleCodes (fun observing => (s.watched observing).inTransaction ex statements transaction)
        server caches rounds (answer.mapError .driver) server' := by
  obtain ⟨rounds, result, server', h⟩ := s.inTransaction_traceable ex statements transaction server caches
  obtain ⟨xs, answer, r', hrun, hasks, hin⟩ :=
    s.inTransaction_run ex statements transaction ⟨server, caches, []⟩
  -- two accounts of one run: the requests agree, and they determine the exchanges
  have hsame := hrun.symm.trans (h.run s.observing [])
  obtain ⟨rfl, rfl⟩ := Prod.mk.inj hsame
  have hrequests : xs.map Exchange.request = (rounds.flatMap Round.exchanges).map Exchange.request := by
    rw [← Round.filterMap_events rounds s.observing]
    exact hasks.requests.symm
  rw [hasks.transcript.eq_of_requests h.transcript hrequests] at hin
  exact ⟨rounds, answer, server', hin, h⟩

/-- The statements of a task go through rounds, which settle its result. -/
theorem Work.run_passes (work : Work) (server : σ) (caches : Caches) :
    ∃ (rounds : List Round) (result : Except Error Task.Result) (server' : σ),
      work.Settles s.staleCodes transaction rounds result ∧
      Passes ex s.staleCodes (fun observing => work.run (s.watched observing) ex transaction)
        server caches rounds result server' := by
  cases work with
  | change statement =>
    obtain ⟨round, answer, server', hlast, h⟩ :=
      s.execute_passes ex statement transaction server caches
    exact ⟨_, _, server', .change hlast, h.map Task.Result.changed⟩
  | read statement make =>
    obtain ⟨round, answer, server', hlast, h⟩ :=
      s.rows_passes ex statement transaction server caches
    exact ⟨_, _, server', .read hlast, h.bind_lift make⟩
  | together statements =>
    obtain ⟨rounds, answer, server', hin, h⟩ :=
      s.inTransaction_passes ex transaction statements server caches
    exact ⟨_, _, server', .together hin, h.map Task.Result.changed⟩

/-- Every task goes through rounds, whatever the executor answers. The rounds are the same with an
observer and without one; they are tried again as their rule says, and their last answers settle the
result. -/
theorem Task.run_rounds (task : Task) (server : σ) (caches : Caches) :
    ∃ (rounds : List Round) (result : Except Error Task.Result) (server' : σ),
      (∀ observing events, (task.run { s with observing := observing } ex transaction).run.run
          ⟨server, caches, events⟩ = (result, ⟨server',
            rounds.foldl Round.cachesAfter (task.caches s.generator caches),
            events ++ rounds.flatMap (Round.events observing)⟩)) ∧
      Transcript ex server (rounds.flatMap Round.exchanges) server' ∧
      (∀ round ∈ rounds, round.Follows s.staleCodes) ∧
      match task.work s.generator caches with
      | .error cause => rounds = [] ∧ result = .error cause
      | .ok work => work.Settles s.staleCodes transaction rounds result := by
  cases hwork : task.work s.generator caches with
  | error cause =>
    refine ⟨[], .error cause, server, fun observing events => ?_, .nil server,
      fun round h => absurd h List.not_mem_nil, rfl, rfl⟩
    simp [Task.run_eq, hwork]
  | ok work =>
    obtain ⟨rounds, result, server', hsettles, h⟩ :=
      work.run_passes ex s transaction server (task.caches s.generator caches)
    refine ⟨rounds, result, server', fun observing events => ?_, h.transcript, h.follows, hsettles⟩
    simp only [Task.run_eq, hwork]
    exact h.run observing events

end Executors

end Rowgraph
