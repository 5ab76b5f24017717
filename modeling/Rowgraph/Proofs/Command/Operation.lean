import Rowgraph.Proofs.Results
import Rowgraph.Query.Select
import Rowgraph.Write.Bulk
import Rowgraph.Write.Delete
import Rowgraph.Write.Insert
import Rowgraph.Write.Update

/-!
# Operations

Everything that a generator can be asked for, as one type. What holds of every command is said of
`Generator.perform`, which makes as many commands as the operation has: one for each item that is inserted by
itself, and one for everything else (`length_perform`).
-/

set_option autoImplicit false

namespace Rowgraph

/-- What a generator is asked for. -/
inductive Operation where
  | select (q : Query)
  | insert (e : Entity) (item : Row)
  | insertOutput (e : Entity) (item : Row)
  | insertMany (e : Entity) (items : List Row)
  | insertIfAbsent (e : Entity) (item : Row) (absentWhen : Expr)
  | insertTemplate (e : Entity) (template : Row)
  | update (e : Entity) (values : Row) (filter : Expr)
  | upsert (e : Entity) (values : Row) (filter : Expr)
  | delete (e : Entity) (filter : Expr)
  | deleteJoined (e : Entity) (joins : List Join) (filter : Expr)
  | bulkInsert (e : Entity) (items : List Row)
  | bulkUpdate (e : Entity) (items : List Row) (template : Expr)
  | bulkUpsert (e : Entity) (items : List Row) (template : Expr)

/-- Does the operation ship its rows as one parameter? -/
def Operation.isBulk : Operation → Bool
  | .bulkInsert _ _ => true
  | .bulkUpdate _ _ _ => true
  | .bulkUpsert _ _ _ => true
  | _ => false

/-- The commands of an operation. Only the insertion of several items may have more than one. -/
def Generator.perform (g : Generator) (caches : Caches) : Operation → Except Error (List Command)
  | .select q => (g.select q).map ([·])
  | .insert e item => (g.insert e item).map ([·])
  | .insertOutput e item => (g.insertOutput e item).map ([·])
  | .insertMany e items => g.insertMany e items
  | .insertIfAbsent e item absentWhen => (g.insertIfAbsent e item absentWhen).map ([·])
  | .insertTemplate e template => (g.insertTemplate e template caches).1.map ([·])
  | .update e values filter => (g.update e values filter).map ([·])
  | .upsert e values filter => (g.upsert e values filter).map ([·])
  | .delete e filter => (g.delete e filter).map ([·])
  | .deleteJoined e joins filter => (g.deleteJoined e joins filter).map ([·])
  | .bulkInsert e items => (g.bulkInsert e items).map ([·])
  | .bulkUpdate e items template => (g.bulkUpdate e items template).map ([·])
  | .bulkUpsert e items template => (g.bulkUpsert e items template).map ([·])

/-- The number of commands that an operation has. -/
def Operation.commandCount : Operation → Nat
  | .insertMany _ items => items.length
  | _ => 1

section Perform

variable {g : Generator} {caches : Caches} {op : Operation} {cs : List Command}

/-- The commands for several items insert them one by one, in their order. -/
theorem perform_insertMany {e : Entity} {items : List Row} :
    g.perform caches (.insertMany e items) = .ok cs ↔
      List.Forall₂ (fun item c => g.insert e item = .ok c) items cs := mapM_eq_ok_iff

/-- Every other operation that is not refused makes one command. -/
theorem exists_of_perform (hop : ∀ e items, op ≠ .insertMany e items) (h : g.perform caches op = .ok cs) :
    ∃ c, cs = [c] := by
  have hone : ∀ {made : Except Error Command}, made.map ([·]) = .ok cs → ∃ c, cs = [c] := by
    intro made hmade
    obtain ⟨c, -, rfl⟩ := map_eq_ok.1 hmade
    exact ⟨c, rfl⟩
  cases op with
  | insertMany e items => exact absurd rfl (hop e items)
  | _ => exact hone h

/-- An operation that is not refused makes all of its commands. -/
theorem length_perform (h : g.perform caches op = .ok cs) : cs.length = op.commandCount := by
  cases op with
  | insertMany e items => exact (perform_insertMany.1 h).length_eq.symm
  | _ =>
    obtain ⟨c, rfl⟩ := exists_of_perform (by simp) h
    rfl

end Perform

/-- The statements of an operation. -/
def Generator.statements (g : Generator) (caches : Caches) (op : Operation) :
    Except Error (List Statement) :=
  (g.perform caches op).map (·.map Command.statement)

/-! ## Clubs and their members -/

namespace Enrolment

/-- Clubs, each with its name. -/
def club : Entity := { name := "Club", members := [{ name := "Id" }, { name := "Name" }] }

/-- Members, each of a club. -/
def member : Entity := { name := "Member", members := [{ name := "Id" }, { name := "ClubId" }] }

/-- The members of each club. -/
def clubMembers : Join where
  entity := member
  parent := 0
  condition := some (.compare (.member ⟨0, "Id"⟩) .eq (.member ⟨1, "ClubId"⟩))

/-- Clubs with their members. -/
def clubs : Query := { root := club, joins := [clubMembers] }

/-- A club under a new name, whether it is there or not. -/
def chess : Operation :=
  .upsert club ⟨[("Id", .int 7), ("Name", .text "Chess")]⟩
    (.compare (.member ⟨0, "Id"⟩) .eq (.value (.int 7)))

end Enrolment

end Rowgraph
