import Rowgraph.Proofs.Command.Paging
import Rowgraph.Proofs.Session.Refusal

/-!
# First objects

The first object of a query is the first of its objects (`first_agrees`). A query without joins that has no
limit of its own is run for one row, which is another statement, over another number of rows; every other
query is run as it is, since its first object may be made of several rows.
-/

set_option autoImplicit false

namespace Rowgraph

/-- Does the executor answer each statement with its rows, and never fail? -/
def Executor.Answers {σ : Type} (ex : Executor σ) (transaction : Option Transaction)
    (rows : Statement → List Row) : Prop :=
  ∀ statement server, (ex.query statement transaction server).1 = .ok (rows statement)

namespace Query

/-- The query for one row. -/
def forOne (q : Query) : Query := { q with take := some 1 }

/-- Has the statement for one row the first of the rows of the statement for all? -/
def Limits (q : Query) (g : Generator) (rows : Statement → List Row) : Prop :=
  ∀ c c₁, g.select q = .ok c → g.select q.forOne = .ok c₁ →
    rows c₁.statement = (rows c.statement).take 1

variable {q : Query} {g : Generator}

theorem countable_forOne (htake : q.take = none) : q.forOne.Countable ↔ q.Countable := by
  have hone : 1 ≤ maxRowCount := by decide
  simp only [Countable, counts, forOne, htake]
  cases q.skip with
  | none => simpa using hone
  | some skipped => simpa using fun _ => hone

/-- The statement for one row is made whenever the statement for all is, with the same parameters. -/
theorem select_forOne_iff (htake : q.take = none) (ps : Parameters) :
    (∃ c, g.select q = .ok c ∧ c.params = ps) ↔ ∃ c, g.select q.forOne = .ok c ∧ c.params = ps := by
  constructor
  · rintro ⟨c, hc, rfl⟩
    have hcounts : (q.repaged q.skip (some 1)).Countable := (countable_forOne htake).2 (countable_of_select hc)
    obtain ⟨c₁, hc₁, hparams, -⟩ := select_repaged hc hcounts
    exact ⟨c₁, hc₁, hparams⟩
  · rintro ⟨c₁, hc₁, rfl⟩
    have hcounts := (countable_forOne htake).1 (countable_of_select hc₁)
    have hsame : q.forOne.repaged q.skip none = q := by rw [← htake]; rfl
    rw [← hsame] at hcounts
    obtain ⟨c, hc, hparams, -⟩ := select_repaged hc₁ hcounts
    rw [hsame] at hc
    exact ⟨c, hc, hparams⟩

/-- Without joins each row becomes an object by itself. -/
theorem objects_eq_readAll (hjoins : q.joins = []) (root : ObjectType) (split : SplitPlan) (rows : List Row) :
    q.objects root split rows = root.readAll rows := by
  rw [objects, ObjectType.assemble, hjoins]
  exact ite_self _

end Query

theorem readAll_take {root : ObjectType} {rows : List Row} {items : List Object}
    (h : root.readAll rows = .ok items) (n : Nat) : root.readAll (rows.take n) = .ok (items.take n) :=
  mapM_eq_ok_iff.2 (List.forall₂_take n (mapM_eq_ok_iff.1 h))

section Runs

variable {σ : Type} {s : Session} {ex : Executor σ} {transaction : Option Transaction}
  {rows : Statement → List Row} {root : ObjectType} {q : Query}

theorem Session.rows_run (h : ex.Answers transaction rows) (statement : Statement) (r : Run σ) :
    ∃ r', (s.rows ex statement transaction).run.run r = (.ok (rows statement), r') := by
  have hattempt : ∃ r', (s.attempt statement (.query statement transaction)
      (ex.query statement transaction)).run r = ((ex.query statement transaction r.server).1, r') := by
    let queried : Exchange := .queried statement transaction (ex.query statement transaction r.server).1
    have hgiven : queried.Given ex r.server (ex.query statement transaction r.server).2 := rfl
    obtain ⟨r', hrun, -⟩ := s.attempt_run statement r rfl hgiven
    exact ⟨r', hrun⟩
  obtain ⟨r', hrun⟩ := hattempt
  rw [h statement r.server] at hrun
  have hretrying : (s.retrying statement (.query statement transaction)
      (ex.query statement transaction)).run r = (.ok (rows statement), r') := by
    rw [Session.retrying, StateT.run_bind, hrun]
    rfl
  exact ⟨r', Session.answered_run hretrying⟩

/-- The objects of a query are made of the rows of its statement. -/
theorem Session.query_run (h : ex.Answers transaction rows) {c : Command}
    (hc : s.generator.select q = .ok c) (root : ObjectType) (r : Run σ) :
    ∃ r', (s.query ex root q transaction).run.run r =
      (q.objects root c.split (rows c.statement), r') := by
  obtain ⟨r', hrows⟩ := Session.rows_run (s := s) h c.statement r
  refine ⟨r', ?_⟩
  rw [Session.query, hc]
  refine (SessionM.bind_run_ok (f := fun rows => liftM (q.objects root c.split rows)) hrows).trans ?_
  cases q.objects root c.split (rows c.statement) <;> rfl

/-- A query that succeeds has a statement, and its objects are made of the rows of it. -/
theorem Session.query_eq_ok (h : ex.Answers transaction rows) {items : List Object} {r r' : Run σ}
    (hrun : (s.query ex root q transaction).run.run r = (.ok items, r')) :
    ∃ c, s.generator.select q = .ok c ∧ q.objects root c.split (rows c.statement) = .ok items := by
  cases hc : s.generator.select q with
  | error cause =>
    rw [Session.query, hc] at hrun
    cases hrun
  | ok c =>
    obtain ⟨r₁, hquery⟩ := Session.query_run h hc root r
    rw [hrun] at hquery
    exact ⟨c, rfl, (Prod.mk.inj hquery).1.symm⟩

theorem Session.first_run {items : List Object} {r r' : Run σ}
    (h : (s.query ex root q.first transaction).run.run r = (.ok items, r')) :
    (s.first ex root q transaction).run.run r = (.ok items.head?, r') :=
  (SessionM.bind_run_ok h).trans rfl

theorem Session.first_of_query (hrows : ex.Answers transaction rows)
    (hlimits : q.joins = [] → q.take = none → q.Limits s.generator rows) {items : List Object} {r r' : Run σ}
    (h : (s.query ex root q transaction).run.run r = (.ok items, r')) (r₁ : Run σ) :
    ∃ r₁', (s.first ex root q transaction).run.run r₁ = (.ok items.head?, r₁') := by
  obtain ⟨c, hc, hitems⟩ := Session.query_eq_ok hrows h
  by_cases hone : q.joins.isEmpty = true ∧ q.take.isNone = true
  · -- run for one row
    obtain ⟨hjoins, htake⟩ := hone
    rw [List.isEmpty_iff] at hjoins
    rw [Option.isNone_iff_eq_none] at htake
    have hfirst : q.first = q.forOne := by simp [Query.first, Query.forOne, hjoins, htake]
    obtain ⟨c₁, hc₁, -⟩ := (Query.select_forOne_iff htake c.params).1 ⟨c, hc, rfl⟩
    rw [Query.objects_eq_readAll hjoins] at hitems
    have hobjects : q.forOne.objects root c₁.split (rows c₁.statement) = .ok (items.take 1) := by
      rw [Query.objects_eq_readAll (q := q.forOne) hjoins, hlimits hjoins htake c c₁ hc hc₁]
      exact readAll_take hitems 1
    obtain ⟨r₁', hrun⟩ := Session.query_run hrows hc₁ root r₁
    rw [hobjects, ← hfirst] at hrun
    refine ⟨r₁', (Session.first_run hrun).trans ?_⟩
    rw [List.head?_take, if_neg Nat.one_ne_zero]
  · -- run as it is
    have hfirst : q.first = q := by
      rw [Query.first, if_neg (by rwa [Bool.and_eq_true])]
    obtain ⟨r₁', hrun⟩ := Session.query_run hrows hc root r₁
    rw [hitems] at hrun
    refine ⟨r₁', Session.first_run ?_⟩
    rw [hfirst]
    exact hrun

end Runs

/-- From an executor that never fails, answers each statement with rows of its own, and answers the statement
for one row with the first of the rows for all, the first object of a query is the first of its objects,
wherever the two runs begin. Without joins and a limit, the statement for one row is made just if that for all
is, with the same parameters. -/
theorem first_agrees (s : Session) (root : ObjectType) (q : Query) :
    (∀ {σ : Type} (ex : Executor σ) (transaction : Option Transaction) (rows : Statement → List Row),
      ex.Answers transaction rows → (q.joins = [] → q.take = none → q.Limits s.generator rows) →
      ∀ (items : List Object) (r r' : Run σ),
        (s.query ex root q transaction).run.run r = (.ok items, r') → ∀ r₁ : Run σ, ∃ r₁',
          (s.first ex root q transaction).run.run r₁ = (.ok items.head?, r₁')) ∧
    (q.joins = [] → q.take = none → ∀ ps,
      (∃ c, s.generator.select q = .ok c ∧ c.params = ps) ↔
        ∃ c, s.generator.select q.forOne = .ok c ∧ c.params = ps) :=
  ⟨fun _ _ _ hrows hlimits _ _ _ h r₁ => Session.first_of_query hrows hlimits h r₁,
    fun _ htake ps => Query.select_forOne_iff htake ps⟩

namespace Enrolment

/-- All clubs, without their members. -/
def allClubs : Query := { root := club }

/-- The rows of a table of two clubs: the first of them for the statement for one row. -/
def clubRows (statement : Statement) : List Row :=
  if (({} : Generator).select allClubs.forOne).map Command.statement = .ok statement then
    [⟨[("Id", .int 1)]⟩]
  else [⟨[("Id", .int 1)]⟩, ⟨[("Id", .int 2)]⟩]

/-- A server with two clubs. -/
def clubServer : Executor Unit where
  execute _ _ server := (.ok 1, server)
  query statement _ server := (.ok (clubRows statement), server)
  begin server := (.ok 0, server)
  commit _ server := (.ok (), server)
  rollback _ server := (.ok (), server)

theorem limits_allClubs : allClubs.Limits {} clubRows := by
  rintro c c₁ hc hc₁
  cases hc
  cases hc₁
  decide

end Enrolment

open Enrolment in
theorem first_agrees_clubs :
    clubServer.Answers none clubRows ∧ allClubs.Limits {} clubRows ∧
    (∃ items r', (({} : Session).query clubServer (numbered 0 club) allClubs none).run.run { server := () } =
        (.ok items, r') ∧ items.length = 2 ∧ ∃ r₁',
      (({} : Session).first clubServer (numbered 0 club) allClubs none).run.run { server := () } =
        (.ok items.head?, r₁')) ∧
    allClubs.joins = [] ∧ allClubs.take = none ∧
    ∃ c, ({} : Generator).select allClubs = .ok c ∧
      ∃ c₁, ({} : Generator).select allClubs.forOne = .ok c₁ ∧ c₁.params = c.params := by
  have hanswers : clubServer.Answers none clubRows := fun _ _ => rfl
  have hquery : ∃ items r', (({} : Session).query clubServer (numbered 0 club) allClubs none).run.run
      { server := () } = (.ok items, r') ∧ items.length = 2 := ⟨_, _, rfl, rfl⟩
  have hselect : ∃ c, ({} : Generator).select allClubs = .ok c := ⟨_, rfl⟩
  obtain ⟨items, r', hrun, hlength⟩ := hquery
  obtain ⟨c, hc⟩ := hselect
  obtain ⟨hfirst, hparams⟩ := first_agrees {} (numbered 0 club) allClubs
  exact ⟨hanswers, limits_allClubs, ⟨items, r', hrun, hlength,
    hfirst clubServer none clubRows hanswers (fun _ _ => limits_allClubs) items _ r' hrun _⟩,
    rfl, rfl, c, hc, (hparams rfl rfl c.params).1 ⟨c, hc, rfl⟩⟩

end Rowgraph
