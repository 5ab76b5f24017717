import Mathlib.Data.List.DropRight
import Rowgraph.Proofs.Command.Operation
import Rowgraph.Proofs.Results

/-!
# Required members

What an insertion from a template has to give. Required members are worked out once and kept under the
entity's name, so that what was asked for before decides what is asked for now: the members are those of the
first entity of the name that they were worked out for since the last purge (`Caches.lookup_after`). The
caches make no difference just when that entity's members and the own ones leave the same gaps in the
template (`insertTemplate_after`). Two entities of one name may share a cache, and one of them is then
inserted without its required members (`not_missing_after_namesake`).
-/

set_option autoImplicit false

namespace Rowgraph

/-! ## Histories -/

/-- The caches behind an operation. Only an insertion from a template looks into them. -/
def Generator.cachesAfter (g : Generator) (caches : Caches) : Operation → Caches
  | .insertTemplate e template => (g.insertTemplate e template caches).2
  | _ => caches

/-- What the caches go through. -/
inductive CacheUse where
  /-- A join to a position is bound to a navigation. -/
  | bound (navigation : Navigation) (parent : Nat)
  /-- The required members of an entity are asked for. -/
  | required (e : Entity)
  | performed (g : Generator) (op : Operation)
  | purged

namespace CacheUse

/-- The entity whose required members are asked for. -/
def entity? : CacheUse → Option Entity
  | required e => some e
  | performed _ (.insertTemplate e _) => some e
  | _ => none

/-- Are the caches emptied? -/
def isPurge : CacheUse → Bool
  | purged => true
  | _ => false

/-- The entities that were asked for since the last purge, in order. -/
def entities (history : List CacheUse) : List Entity :=
  (history.rtakeWhile fun use => !use.isPurge).filterMap entity?

/-- The first entity of a name that was asked for since the last purge. -/
def first? (history : List CacheUse) (name : String) : Option Entity :=
  (entities history).find? fun e => e.name == name

end CacheUse

namespace Caches

/-- The caches after a use. -/
def use (c : Caches) : CacheUse → Caches
  | .bound navigation parent => (Join.bound navigation parent c).2
  | .required e => (c.requiredMembers e).2
  | .performed g op => g.cachesAfter c op
  | .purged => c.purge

/-- The caches after a history, in which they were empty first. -/
def after (history : List CacheUse) : Caches := history.foldl use empty

theorem required_setter (c : Caches) (key : SetterKey) (offered : Setter) :
    (c.setter key offered).2.required = c.required := by
  rw [setter]
  split <;> rfl

/-- What is kept first under a key stays. -/
theorem lookup_offered {κ ν : Type} [BEq κ] [LawfulBEq κ] (kept : List (κ × ν)) (key : κ) (offered : ν) (k : κ) :
    (if (kept.lookup key).isSome then kept else kept ++ [(key, offered)]).lookup k =
      (kept.lookup k).or (if key == k then some offered else none) := by
  split
  · next hkept =>
    split
    · next hkey =>
      -- the key has something, so that nothing is looked for in what is offered
      rw [beq_iff_eq.1 hkey] at hkept
      rw [Option.or_of_isSome hkept]
    · rw [Option.or_none]
  · rw [List.lookup_append]
    congr 1
    rw [List.lookup_cons, List.lookup_nil, BEq.comm]
    cases key == k <;> rfl

theorem lookup_requiredMembers (c : Caches) (e : Entity) (name : String) :
    (c.requiredMembers e).2.required.lookup name =
      (c.required.lookup name).or (if e.name == name then some e.required else none) := by
  have hkept : (c.requiredMembers e).2.required =
      if (c.required.lookup e.name).isSome then c.required else c.required ++ [(e.name, e.required)] := by
    rw [requiredMembers]
    cases c.required.lookup e.name <;> rfl
  rw [hkept, lookup_offered]

/-- A use that is no purge keeps the required members of the entity it asks for, unless there are some. -/
theorem lookup_use (c : Caches) {u : CacheUse} (h : u.isPurge = false) (name : String) :
    (c.use u).required.lookup name = (c.required.lookup name).or
      ((u.entity?.filter fun e => e.name == name).map Entity.required) := by
  have hrequired : ∀ e : Entity, (c.requiredMembers e).2.required.lookup name =
      (c.required.lookup name).or (((some e).filter fun e => e.name == name).map Entity.required) := by
    intro e
    rw [lookup_requiredMembers, Option.filter_some]
    split <;> rfl
  cases u with
  | bound navigation parent =>
    rw [use, Join.bound]
    exact (congrArg (List.lookup name) (c.required_setter _ _)).trans (Option.or_none).symm
  | required e => exact hrequired e
  | performed g op =>
    cases op with
    | insertTemplate e template => exact hrequired e
    | _ => exact (Option.or_none).symm
  | purged => cases h

/-- After a history, the members of the first entity of a name are kept. -/
theorem lookup_after (history : List CacheUse) (name : String) :
    (after history).required.lookup name = (CacheUse.first? history name).map Entity.required := by
  -- from the last use backwards: a purge forgets everything, another use comes behind what is kept
  induction history using List.reverseRecOn with
  | nil => rfl
  | append_singleton history u ih =>
    rw [after, List.foldl_concat, ← after]
    cases hpurge : u.isPurge with
    | true =>
      cases u with
      | purged =>
        rw [use, required_purge, CacheUse.first?, CacheUse.entities,
          List.rtakeWhile_concat_neg _ _ _ (by simp [hpurge])]
        rfl
      | _ => cases hpurge
    | false =>
      have hasked : ([u].filterMap CacheUse.entity?).find? (fun e => e.name == name) =
          u.entity?.filter fun e => e.name == name := by
        rw [List.filterMap_cons]
        cases u.entity? with
        | none => rfl
        | some e => rw [Option.filter_some, List.filterMap_nil, List.find?_singleton]
      rw [lookup_use _ hpurge, ih, ← Option.map_or, ← hasked, CacheUse.first?, CacheUse.first?,
        CacheUse.entities, CacheUse.entities, List.rtakeWhile_concat_pos _ _ _ (by simp [hpurge]),
        List.filterMap_append, List.find?_append]

/-- The members that are asked for after a history are those of the first entity of the name, the
entity itself being asked for last. -/
theorem requiredMembers_after (history : List CacheUse) (e : Entity) :
    ((after history).requiredMembers e).1 = ((CacheUse.first? history e.name).getD e).required := by
  rw [requiredMembers, lookup_after]
  cases CacheUse.first? history e.name <;> rfl

end Caches

/-! ## Templates -/

/-- The mapped, required members for which a template has no column, by their names. -/
def Entity.gaps (e : Entity) (template : Row) : List String :=
  (e.members.filter fun m =>
    !m.notMapped && m.required && !(template.columns.map Prod.fst).contains m.name).map Member.name

theorem Row.find?_isNone (row : Row) (name : String) :
    (row.find? name).isNone = !(row.columns.map Prod.fst).contains name := by
  rw [find?]
  induction row.columns with
  | nil => rfl
  | cons column rest ih =>
    rw [List.lookup_cons, List.map_cons, List.contains_cons]
    cases name == column.1 <;> simp [ih]

/-- What is missing are the gaps. -/
theorem Generator.missing_required (e : Entity) (template : Row) :
    Generator.missing e.required template = e.gaps template := by
  rw [missing, Entity.required, Entity.mapped, List.filter_filter, List.filter_filter, Entity.gaps]
  congr 2
  funext m
  rw [Row.find?_isNone]
  cases m.notMapped <;> cases m.required <;> simp

/-- Is the error another than that of a template with gaps? -/
def Error.IsOther (e : Error) : Prop := ∀ name names, e ≠ .missingRequired name names

section Steps

variable {α β : Type} {P : Error → Prop}

theorem FailsOnly.bindM {m : BindM α} {f : α → BindM β} (h : ∀ ps, FailsOnly P (m.run.run ps).1)
    (hf : ∀ a ps, FailsOnly P ((f a).run.run ps).1) (ps : Parameters) :
    FailsOnly P ((m >>= f).run.run ps).1 := by
  have hm := h ps
  rw [ExceptT.run_bind, StateT.run_bind]
  rcases hrun : m.run.run ps with ⟨result, ps'⟩
  rw [hrun] at hm
  cases result with
  | error e => exact .error (hm e rfl)
  | ok a => exact hf a ps'

theorem FailsOnly.command {g : Generator} {m : BindM (List Token)}
    (h : ∀ ps, FailsOnly P (m.run.run ps).1) : FailsOnly P (g.command m) :=
  FailsOnly.map (FailsOnly.map (h _))

end Steps

theorem resolve_isOther (e : Entity) (name : String) : FailsOnly Error.IsOther (e.resolve name) := by
  rw [Entity.resolve]
  split
  · exact .error fun _ _ => nofun
  · split
    · exact .error fun _ _ => nofun
    · exact .ok _

/-- What a template names may be unknown or not mapped. -/
theorem named_isOther (e : Entity) (values : List (String × Value)) (ps : Parameters) :
    FailsOnly Error.IsOther ((Assignment.named e values).run.run ps).1 := by
  induction values generalizing ps with
  | nil => exact .ok []
  | cons column rest ih =>
    refine FailsOnly.bindM (fun ps => ?_) (fun m => ?_) ps
    · have hresolve := resolve_isOther e column.1
      cases hm : e.resolve column.1 with
      | error cause => exact .error (hresolve cause hm)
      | ok m => exact .ok m
    · exact FailsOnly.bindM (fun ps => .ok _) fun first =>
        FailsOnly.bindM ih fun others ps => .ok _

/-- The insertion of a template without gaps. -/
def Generator.templateCommand (g : Generator) (e : Entity) (template : Row) : Except Error Command :=
  g.command do
    let assignments ← Assignment.ofValues e template
    return e.insertion assignments

theorem templateCommand_isOther (g : Generator) (e : Entity) (template : Row) :
    FailsOnly Error.IsOther (g.templateCommand e template) := by
  refine FailsOnly.command (FailsOnly.bindM (FailsOnly.bindM (named_isOther e _) fun assignments ps => ?_)
    fun assignments ps => .ok _)
  split
  · exact .error fun _ _ => nofun
  · exact .ok _

section Histories

variable (history : List CacheUse) (g : Generator) (e : Entity) (template : Row)

/-- An insertion after a history: the gaps are those of the first entity of the name. -/
theorem insertTemplate_after_eq :
    (g.insertTemplate e template (.after history)).1 =
      match ((CacheUse.first? history e.name).getD e).gaps template with
      | [] => g.templateCommand e template
      | names => .error (.missingRequired e.name names) := by
  rw [← Generator.missing_required, ← Caches.requiredMembers_after]
  rfl

/-- An insertion from a template fails for missing members just if there are gaps, and names all of them:
the gaps for the first entity of the name that was asked for since the last purge. It fares as it does with
empty caches just if they are the entity's own gaps. -/
theorem insertTemplate_after :
    (∀ name names, (g.insertTemplate e template (.after history)).1 =
        .error (.missingRequired name names) ↔
      name = e.name ∧ names = ((CacheUse.first? history e.name).getD e).gaps template ∧ names ≠ []) ∧
    ((g.insertTemplate e template (.after history)).1 = (g.insertTemplate e template .empty).1 ↔
      ((CacheUse.first? history e.name).getD e).gaps template = e.gaps template) := by
  have hother := templateCommand_isOther g e template
  have hempty : (g.insertTemplate e template .empty).1 = match e.gaps template with
      | [] => g.templateCommand e template
      | names => .error (.missingRequired e.name names) := insertTemplate_after_eq [] g e template
  rw [hempty, insertTemplate_after_eq]
  generalize ((CacheUse.first? history e.name).getD e).gaps template = gaps
  refine ⟨fun name names => ?_, ?_⟩
  · cases gaps with
    | nil =>
      constructor
      · intro h
        exact absurd rfl (hother _ h name names)
      · rintro ⟨-, rfl, h⟩
        exact absurd rfl h
    | cons gap gaps =>
      constructor
      · intro h
        cases h
        exact ⟨rfl, rfl, List.cons_ne_nil _ _⟩
      · rintro ⟨rfl, rfl, -⟩
        rfl
  -- a command that cannot be made fails for another reason, so that the result tells the gaps
  · constructor
    · intro h
      cases gaps with
      | nil =>
        cases hown : e.gaps template with
        | nil => rfl
        | cons own owns =>
          rw [hown] at h
          exact absurd rfl (hother _ h e.name (own :: owns))
      | cons gap gaps =>
        cases hown : e.gaps template with
        | nil =>
          rw [hown] at h
          exact absurd rfl (hother _ h.symm e.name (gap :: gaps))
        | cons own owns =>
          rw [hown] at h
          exact (Error.missingRequired.inj (Except.error.inj h)).2
    · rintro rfl
      rfl

end Histories

namespace Enrolment

/-- Clubs of another application, which are not founded without a charter. -/
def chartered : Entity :=
  { name := "Club", members := [{ name := "Id" }, { name := "Charter", required := true }] }

/-- A template with nothing but a number. -/
def bare : Row := ⟨[("Id", .int 1)]⟩

end Enrolment

open Enrolment in
/-- Behind the insertion of a club, a club that needs a charter is inserted without one. -/
theorem not_missing_after_namesake :
    (({} : Generator).insertTemplate chartered bare .empty).1 =
        .error (.missingRequired "Club" ["Charter"]) ∧
      ∃ c, (({} : Generator).insertTemplate chartered bare
        (.after [.performed {} (.insertTemplate club bare)])).1 = .ok c :=
  ⟨rfl, _, rfl⟩

end Rowgraph
