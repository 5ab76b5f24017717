import Rowgraph.Proofs.Command.Operation
import Rowgraph.Proofs.Graph.Errors
import Rowgraph.Proofs.Session.Rounds
import Rowgraph.Session.Script

/-!
# Refusals

A task that is refused for its shape, or for the places of its tables, is refused before the executor is
asked anything, unless rows were read for it (`Task.requests_of_refused`). Rows may be refused by the
application's own code, or because a join is bound to parents of another type than that of the objects it
hangs below. The types are known before the query, and no row is needed to compare them; the comparison is
made behind the query all the same (`not_refused_first`).
-/

set_option autoImplicit false

namespace Rowgraph

/-! ## Errors of objects -/

/-- Is the error one of the application's code, which reads objects and attaches them? -/
inductive Join.Reported (root : ObjectType) (joins : List Join) : Error → Prop
  | root {row : Row} {e : Error} (h : root.decode row = .error e) : Reported root joins e
  | child {j : Join} {b : Binding} {row : Row} {e : Error} (hj : j ∈ joins) (bound : j.binding = some b)
      (h : b.child.decode row = .error e) : Reported root joins e
  | setter {j : Join} {b : Binding} {parent child : Object} {e : Error} (hj : j ∈ joins)
      (bound : j.binding = some b) (h : b.setter parent child = .error e) : Reported root joins e

/-- The errors that rows may be met with: one about the result, one of the application, or a join bound to
other parents. -/
def Join.Spoils (root : ObjectType) (joins : List Join) (e : Error) : Prop :=
  e.category = .execution ∨ Join.Misbound [root.id] joins e ∨ Join.Reported root joins e

theorem Join.spoils_of_unfit {root : ObjectType} {joins : List Join} {split : SplitPlan} {e : Error}
    (h : Join.Unfit root joins split e) : Join.Spoils root joins e := by
  cases h with
  | splitCount _ => exact Or.inl rfl
  | unbound _ _ => exact Or.inl rfl
  | misbound h => exact Or.inr (Or.inl h)

theorem Join.spoils_of_refused {root : ObjectType} {joins : List Join} {split : SplitPlan} {row : Row} {e : Error}
    (h : row.Refused root joins split e) : Join.Spoils root joins e := by
  cases h with
  | misfit h => exact Or.inl (category_of_ranges h)
  | root _ h => exact Or.inr (Or.inr (.root h))
  | child hj bound _ h => exact Or.inr (Or.inr (.child (List.mem_of_getElem? hj) bound h))

/-- What rows may be met with when they become objects. -/
theorem assemble_failsOnly (root : ObjectType) (joins : List Join) (split : SplitPlan) (rows : List Row) :
    FailsOnly (Join.Spoils root joins) (root.assemble joins split rows) := by
  rw [ObjectType.assemble]
  split
  · intro e he
    obtain ⟨row, -, hrow⟩ := readAll_failsOnly rows e he
    exact Or.inr (Or.inr (.root hrow))
  · cases hlinks : Link.ofJoins root joins split with
    | error cause => exact .error (Join.spoils_of_unfit (ofJoins_failsOnly root joins split cause hlinks))
    | ok links =>
      have hsetter : ∀ l ∈ links, ∀ parent child,
          FailsOnly (Join.Spoils root joins) (l.setter parent child) := by
        intro l hl parent child e he
        obtain ⟨i, hi⟩ := List.getElem?_of_mem hl
        obtain ⟨j, b, hj, hbound, rfl⟩ := exists_join_of_ofJoins hlinks hi
        exact Or.inr (Or.inr (.setter (List.mem_of_getElem? hj) hbound he))
      have hrows : FailsOnly (Join.Spoils root joins) (Forest.ofRows root links split rows) := by
        intro e he
        obtain ⟨row, -, hrow⟩ := ofRows_failsOnly hlinks rows e he
        exact Join.spoils_of_refused hrow
      exact hrows.bind fun forest => rootsFrom_failsOnly hsetter forest.nodes.reverse []

theorem Query.isGrouped_first (q : Query) : q.first.isGrouped = q.isGrouped := by
  rw [first]
  split <;> rfl

theorem Query.joins_first (q : Query) : q.first.joins = q.joins := by
  rw [first]
  split <;> rfl

theorem Query.objects_failsOnly (q : Query) (root : ObjectType) (split : SplitPlan) (rows : List Row) :
    FailsOnly (Join.Spoils root (if q.isGrouped then [] else q.joins)) (q.objects root split rows) := by
  rw [Query.objects]
  split
  · exact assemble_failsOnly root [] split rows
  · exact assemble_failsOnly root q.joins split rows

/-! ## Refused tasks -/

namespace Task

/-- The type and the joins by which rows that a task reads become objects. The rows of a grouped query
are objects each. -/
def objectsOf? : Task → Option (ObjectType × List Join)
  | query root q => some (root, if q.isGrouped then [] else q.joins)
  | first root q => some (root, if q.isGrouped then [] else q.joins)
  | insertOutput type _ => some (type, [])
  | _ => none

/-- May rows that were read for the task be refused with this error? -/
def RefusesRows (task : Task) (e : Error) : Prop :=
  ∃ root joins, task.objectsOf? = some (root, joins) ∧
    (Join.Misbound [root.id] joins e ∨ Join.Reported root joins e)

theorem refusesRows_of_spoils {task : Task} {root : ObjectType} {joins : List Join} {e : Error}
    (htask : task.objectsOf? = some (root, joins)) (h : Join.Spoils root joins e) :
    e.category = .execution ∨ task.RefusesRows e :=
  h.imp_right fun h => ⟨root, joins, htask, h⟩

/-- The result of a read is made of its rows; the errors of that are known. -/
theorem make_failsOnly {task : Task} {g : Generator} {caches : Caches} {statement : Statement}
    {make : List Row → Except Error Result} (h : task.work g caches = .ok (.read statement make))
    (rows : List Row) :
    FailsOnly (fun e => e.category = .execution ∨ task.RefusesRows e) (make rows) := by
  have hmap : ∀ {α : Type} {x : Except Error α} {f : α → Result} {root : ObjectType} {joins : List Join},
      task.objectsOf? = some (root, joins) → FailsOnly (Join.Spoils root joins) x →
        FailsOnly (fun e => e.category = .execution ∨ task.RefusesRows e) (x.map f) :=
    fun htask hx => FailsOnly.map fun e he => refusesRows_of_spoils htask (hx e he)
  cases task with
  | execute statement => cases h
  | rows statement =>
    cases h
    exact .ok _
  | query root q =>
    obtain ⟨c, -, hc⟩ := map_eq_ok.1 h
    cases hc
    exact hmap rfl (q.objects_failsOnly root c.split rows)
  | first root q =>
    obtain ⟨c, -, hc⟩ := map_eq_ok.1 h
    cases hc
    have hobjects := q.first.objects_failsOnly root c.split rows
    rw [Query.isGrouped_first, Query.joins_first] at hobjects
    exact hmap rfl hobjects
  | insertOutput type item =>
    obtain ⟨c, -, hc⟩ := map_eq_ok.1 h
    cases hc
    exact hmap rfl (assemble_failsOnly type [] {} rows)
  -- the other tasks read nothing
  | _ =>
    obtain ⟨c, -, hc⟩ := map_eq_ok.1 h
    cases hc

end Task

section Runs

variable {σ : Type} (s : Session) (ex : Executor σ) (transaction : Option Transaction)

/-- The requests of a statement that is read. -/
theorem Round.requests_of_last {stale : List Int} {round : Round} {statement : Statement}
    {answer : Except DriverError (List Row)} (h : round.Follows stale)
    (hlast : round.last = .queried statement transaction answer) :
    ∃ n, round.exchanges.map Exchange.request =
      List.replicate (n + 1) (.query statement transaction) := by
  cases h with
  | @once x _ =>
    obtain rfl : x = .queried statement transaction answer := hlast
    exact ⟨0, rfl⟩
  | @twice first second e hstatement hsame herror hstale =>
    obtain rfl : second = .queried statement transaction answer := hlast
    refine ⟨1, ?_⟩
    rw [exchanges, List.map_cons, ← hsame]
    rfl

/-- A task that is refused for its shape, or for the places of its tables, is refused before anything is
asked; or else rows were read, and refused by the application or because a join is bound to other
parents. -/
theorem Task.requests_of_refused {task : Task} {r r' : Run σ} {e : Error}
    (h : (task.run s ex transaction).run.run r = (.error e, r'))
    (hcategory : e.category = .shape ∨ e.category = .topology) :
    (task.work s.generator r.caches = .error e ∧ r'.requests = r.requests) ∨
      (task.RefusesRows e ∧ ∃ statement n,
        r'.requests = r.requests ++ List.replicate (n + 1) (.query statement transaction)) := by
  have hexecution : e.category ≠ .execution := by
    rcases hcategory with h | h <;> rw [h] <;> decide
  rw [task.run_eq] at h
  cases hwork : task.work s.generator r.caches with
  | error cause =>
    rw [hwork] at h
    cases h
    exact Or.inl ⟨rfl, rfl⟩
  | ok work =>
    rw [hwork] at h
    obtain ⟨rounds, result, server', hsettles, hpasses⟩ :=
      work.run_passes ex s transaction r.server (task.caches s.generator r.caches)
    have hrun := h.symm.trans (hpasses.run s.observing r.events)
    obtain ⟨hresult, rfl⟩ := Prod.mk.inj hrun
    -- what the driver reports is neither about shape nor about topology
    have hdriver : ∀ {α β : Type} {answer : Except DriverError α} {f : α → β},
        .error e ≠ (answer.mapError Error.driver).map f := by
      intro α β answer f he
      cases answer with
      | ok a => cases he
      | error d =>
        cases he
        exact hexecution rfl
    cases hsettles with
    | change _ => exact absurd hresult hdriver
    | together _ => exact absurd hresult hdriver
    | @read statement make round answer hlast =>
      cases answer with
      | error d =>
        cases hresult
        exact absurd rfl hexecution
      | ok rows =>
        refine Or.inr ⟨(make_failsOnly hwork rows e hresult.symm).resolve_left hexecution, statement, ?_⟩
        have hfollows := hpasses.follows round (List.mem_singleton.2 rfl)
        obtain ⟨n, hn⟩ := round.requests_of_last transaction hfollows hlast
        refine ⟨n, ?_⟩
        rw [Run.requests, List.filterMap_append, Round.filterMap_events, List.flatMap_singleton, hn]
        rfl

end Runs

namespace Enrolment

/-- The objects of an entity, each with its number and nothing else. -/
def numbered (id : Nat) (entity : Entity) : ObjectType := .ofFields id entity [("Id", ⟨.int64, false⟩)]

/-- The way from a trainer, whose type is that of no club, to the members. -/
def trained : Navigation where
  name := "Trained"
  owner := 2
  child := numbered 1 member
  slot := 0
  cardinality := .many

/-- Clubs, with their members where those of a trainer belong. -/
def misbound : Task :=
  .query (numbered 0 club) { clubs with joins :=
    [(Join.bound trained 0 {}).1.on (.compare (.member ⟨0, "Id"⟩) .eq (.member ⟨1, "ClubId"⟩))] }

/-- What comes of the clubs, from a server without rows. -/
def misboundRun : Except Error Task.Result × Run Script.State :=
  (misbound.run {} Script.executor none).run.run { server := {} }

end Enrolment

open Enrolment in
/-- No row is there, and the join to members at a club's position is refused behind the query. -/
theorem not_refused_first :
    misboundRun.1 = .error (.invalidNavigation "Member" 0) ∧
      (Error.invalidNavigation "Member" 0).category = .shape ∧ misboundRun.2.requests.length = 1 :=
  ⟨rfl, rfl, rfl⟩

open Enrolment in
theorem requests_of_refused_misbound :
    ∃ e r', misboundRun = (.error e, r') ∧ (e.category = .shape ∨ e.category = .topology) ∧
      ((misbound.work {} {} = .error e ∧ r'.requests = []) ∨
        (misbound.RefusesRows e ∧ ∃ statement n,
          r'.requests = [] ++ List.replicate (n + 1) (.query statement none))) := by
  have hrun : ∃ r', misboundRun = (.error (.invalidNavigation "Member" 0), r') := ⟨_, rfl⟩
  obtain ⟨r', hrun⟩ := hrun
  exact ⟨_, r', hrun, Or.inl rfl, Task.requests_of_refused {} Script.executor none hrun (Or.inl rfl)⟩

end Rowgraph
