import Rowgraph.Proofs.Command.Phrases
import Rowgraph.Proofs.Text.Letters

/-!
# Tables that joins reach

A joined table may lie in another database than the root's, and its entity may name the connection that leads
there or leave it to be the only one. What `Entity.referenceFrom` makes of this is derived case by case
(`Entity.Refers`), and each reference of a chain of joins, looked up from the root's connection, is the table
of its own entity. A chain that is refused is refused by the first join that can not be written
(`clauses_reach`).
-/

set_option autoImplicit false

namespace Rowgraph

open Tokens

/-! ## Names without regard to case -/

/-- Is it the same letter, in lower case or in upper case? Letters that are not ASCII have no case. -/
def SameLetter (a b : Char) : Prop :=
  a = b ∨ (a.isUpper = true ∧ a.toNat + 32 = b.toNat) ∨ (b.isUpper = true ∧ b.toNat + 32 = a.toNat)

/-- Is it the same text but for the case of its letters? -/
def SameText (a b : String) : Prop := List.Forall₂ SameLetter a.toList b.toList

theorem toLower_eq_iff {a b : Char} : a.toLower = b.toLower ↔ SameLetter a b := by
  rw [← Char.toNat_inj, toNat_toLower, toNat_toLower, SameLetter, ← Char.toNat_inj]
  simp only [isUpper_iff]
  split
  · split <;> omega
  · split <;> omega

theorem sameName_iff {a b : String} : Locator.sameName a b = true ↔ SameText a b := by
  rw [Locator.sameName, beq_iff_eq, Locator.lower, Locator.lower, SameText, ← List.forall₂_eq_eq_eq,
    List.forall₂_map_left_iff, List.forall₂_map_right_iff]
  exact ⟨fun h => h.imp fun _ _ => toLower_eq_iff.1, fun h => h.imp fun _ _ => toLower_eq_iff.2⟩

namespace Locator

/-- Do two connections lead to one server? -/
def SameServer (a b : Locator) : Prop := SameText a.server b.server

/-- Do they name one database, or none at all? -/
def SameDatabase (a b : Locator) : Prop := Option.Rel SameText a.database b.database

variable {a b : Locator}

theorem sameServer_iff : a.sameServer b = true ↔ a.SameServer b := sameName_iff

theorem sameDatabase_iff : a.sameDatabase b = true ↔ a.SameDatabase b := by
  rw [sameDatabase, SameDatabase]
  cases a.database with
  | none =>
    cases b.database with
    | none => exact iff_of_true rfl .none
    | some y => exact iff_of_false Bool.false_ne_true (by simp)
  | some x =>
    cases b.database with
    | none => exact iff_of_false Bool.false_ne_true (by simp)
    | some y =>
      dsimp only
      rw [sameName_iff]
      constructor
      · exact .some
      · rintro ⟨h⟩
        exact h

end Locator

/-! ## Connections of entities -/

namespace Registry

/-- Does the connection of an entity lead there? Without a name it is the only one there is. -/
inductive Leads (r : Registry) (e : Entity) : Locator → Prop
  | named {name : String} {l : Locator} (given : e.connection = some name) (found : r.find? name = some l) :
      Leads r e l
  | only {name : String} {l : Locator} (given : e.connection = none) (alone : r.entries = [(name, l)]) :
      Leads r e l

/-- Why an entity has no connection among some. -/
inductive Lost (r : Registry) (e : Entity) : Error → Prop
  | undeclared {name : String} (given : e.connection = some name)
      (missing : ∀ entry ∈ r.entries, entry.1 ≠ name) : Lost r e (.connectionNotDeclared name)
  | ambiguous (given : e.connection = none) (several : 2 ≤ r.entries.length) :
      Lost r e (.ambiguousConnection e.name)

variable {r : Registry} {e : Entity}

theorem find?_eq_none {name : String} : r.find? name = none ↔ ∀ entry ∈ r.entries, entry.1 ≠ name := by
  rw [find?, List.lookup_eq_none_iff]
  apply forall₂_congr
  intro entry _
  rw [bne_iff_ne, ne_comm]

theorem resolve_eq_ok_iff {l : Locator} : r.resolve e = .ok l ↔ r.Leads e l := by
  rw [resolve]
  constructor
  · intro h
    split at h
    · next name hname =>
      split at h
      · next l' hfound =>
        cases h
        exact .named hname hfound
      · cases h
    · next hname =>
      split at h
      · cases h
      · next only hentries =>
        cases h
        exact .only hname hentries
      · cases h
  · rintro (⟨hname, hfound⟩ | ⟨hname, hentries⟩)
    · rw [hname]
      dsimp only
      rw [hfound]
    · rw [hname, hentries]

/-- One connection at least is needed for an entity to be lost among them. -/
theorem resolve_eq_error_iff (hr : r.isEmpty = false) {err : Error} :
    r.resolve e = .error err ↔ r.Lost e err := by
  rw [resolve]
  constructor
  · intro h
    split at h
    · next name hname =>
      split at h
      · cases h
      · next hmissing =>
        cases h
        exact .undeclared hname (find?_eq_none.1 hmissing)
    · next hname =>
      split at h
      · next hentries =>
        rw [isEmpty, hentries] at hr
        cases hr
      · cases h
      · next hnone hone =>
        cases h
        refine .ambiguous hname ?_
        match hentries : r.entries with
        | [] => exact absurd hentries hnone
        -- the match is on the parts of the entry
        | [entry] => exact absurd hentries (hone entry.1 entry.2)
        | first :: second :: rest => simp
  · rintro (⟨hname, hmissing⟩ | ⟨hname, hseveral⟩)
    · rw [hname]
      dsimp only
      rw [find?_eq_none.2 hmissing]
    · rw [hname]
      match hentries : r.entries with
      | [] => simp [hentries] at hseveral
      | [entry] => simp [hentries] at hseveral
      | first :: second :: rest => rfl

end Registry

/-! ## References -/

/-- What comes of a reference to a joined table in a statement on the root's. -/
inductive Entity.Refers (r : Registry) (root joined : Entity) : Except Error Token → Prop
  | rootLost {err : Error} (lost : r.Lost root err) : Refers r root joined (.error err)
  | joinedLost {base : Locator} {err : Error} (atRoot : r.Leads root base) (lost : r.Lost joined err) :
      Refers r root joined (.error err)
  | abroad {base target : Locator} (atRoot : r.Leads root base) (atJoined : r.Leads joined target)
      (server : ¬ base.SameServer target) :
      Refers r root joined (.error (.differentServer root.name joined.name))
  | home {base target : Locator} (atRoot : r.Leads root base) (atJoined : r.Leads joined target)
      (server : base.SameServer target) (database : base.SameDatabase target) :
      Refers r root joined (.ok joined.reference)
  | unknown {base target : Locator} (atRoot : r.Leads root base) (atJoined : r.Leads joined target)
      (server : base.SameServer target) (database : ¬ base.SameDatabase target)
      (unnamed : target.database = none) :
      Refers r root joined (.error (.unknownDatabase root.name joined.name))
  | away {base target : Locator} {database : String} (atRoot : r.Leads root base)
      (atJoined : r.Leads joined target) (server : base.SameServer target)
      (databases : ¬ base.SameDatabase target) (named : target.database = some database) :
      Refers r root joined (.ok (.table (some database) (joined.schema.or target.schema) joined.tableName))

section References

variable {r : Registry} {root joined : Entity}

theorem refers_referenceFrom (hr : r.isEmpty = false) :
    Entity.Refers r root joined (root.referenceFrom joined r) := by
  rw [Entity.referenceFrom, hr, if_neg Bool.false_ne_true]
  cases hbase : r.resolve root with
  | error err => exact .rootLost ((Registry.resolve_eq_error_iff hr).1 hbase)
  | ok base =>
    have hroot := Registry.resolve_eq_ok_iff.1 hbase
    cases htarget : r.resolve joined with
    | error err => exact .joinedLost hroot ((Registry.resolve_eq_error_iff hr).1 htarget)
    | ok target =>
      have hjoined := Registry.resolve_eq_ok_iff.1 htarget
      change Entity.Refers r root joined (root.referenceBetween joined base target)
      rw [Entity.referenceBetween]
      split
      · next hserver =>
        refine .abroad hroot hjoined fun h => ?_
        rw [Locator.sameServer_iff.2 h] at hserver
        cases hserver
      · next hserver =>
        have hsame : base.SameServer target := by
          rw [← Locator.sameServer_iff]
          simpa using hserver
        split
        · next hdatabase => exact .home hroot hjoined hsame (Locator.sameDatabase_iff.1 hdatabase)
        · next hdatabase =>
          have hother : ¬ base.SameDatabase target := fun h => hdatabase (Locator.sameDatabase_iff.2 h)
          split
          · next hnone => exact .unknown hroot hjoined hsame hother hnone
          · next database hsome => exact .away hroot hjoined hsame hother hsome

/-- Two results never come of one reference. -/
theorem Entity.Refers.unique (hr : r.isEmpty = false) {result : Except Error Token}
    (h : Entity.Refers r root joined result) : root.referenceFrom joined r = result := by
  have hbind : ∀ {base target}, r.Leads root base → r.Leads joined target →
      root.referenceFrom joined r = root.referenceBetween joined base target := by
    intro base target hroot hjoined
    rw [Entity.referenceFrom, hr, if_neg Bool.false_ne_true, Registry.resolve_eq_ok_iff.2 hroot,
      Registry.resolve_eq_ok_iff.2 hjoined]
    rfl
  cases h with
  | rootLost lost =>
    rw [Entity.referenceFrom, hr, if_neg Bool.false_ne_true, (Registry.resolve_eq_error_iff hr).2 lost]
    rfl
  | joinedLost atRoot lost =>
    rw [Entity.referenceFrom, hr, if_neg Bool.false_ne_true, Registry.resolve_eq_ok_iff.2 atRoot,
      (Registry.resolve_eq_error_iff hr).2 lost]
    rfl
  | abroad atRoot atJoined server =>
    rw [hbind atRoot atJoined, Entity.referenceBetween, if_pos]
    simpa [← Locator.sameServer_iff] using server
  | home atRoot atJoined server database =>
    rw [hbind atRoot atJoined, Entity.referenceBetween, Locator.sameServer_iff.2 server,
      Locator.sameDatabase_iff.2 database]
    rfl
  | unknown atRoot atJoined server database unnamed =>
    rw [hbind atRoot atJoined, Entity.referenceBetween, Locator.sameServer_iff.2 server,
      if_neg (by decide), if_neg fun h => database (Locator.sameDatabase_iff.1 h), unnamed]
  | away atRoot atJoined server databases named =>
    rw [hbind atRoot atJoined, Entity.referenceBetween, Locator.sameServer_iff.2 server,
      if_neg (by decide), if_neg fun h => databases (Locator.sameDatabase_iff.1 h), named]

theorem referenceFrom_iff (hr : r.isEmpty = false) {result : Except Error Token} :
    root.referenceFrom joined r = result ↔ Entity.Refers r root joined result := by
  constructor
  · rintro rfl
    exact refers_referenceFrom hr
  · exact Entity.Refers.unique hr

end References

/-! ## Tables that are reached -/

/-- Where a table is. Without a schema it is in the one that the connection looks in first. -/
structure TablePath where
  server : String
  database : Option String
  schema : Option String
  name : String
  deriving DecidableEq

/-- The table that a token names, looked up from a connection. -/
def Token.path? (base : Locator) : Token → Option TablePath
  | .table none schema name => some ⟨base.server, base.database, schema, name⟩
  | .table (some database) schema name =>
    some ⟨base.server, some database, some (schema.getD defaultSchema), name⟩
  | _ => none

/-- Is it the table of an entity, where the connection of the entity leads? In a database that is named a
schema has to stand for the one that the connection looks in first. -/
structure TablePath.IsOf (p : TablePath) (e : Entity) (l : Locator) : Prop where
  server : SameText p.server l.server
  database : Option.Rel SameText p.database l.database
  schema : p.schema = e.schema ∨ p.schema = some ((e.schema.or l.schema).getD "dbo")
  name : p.name = e.tableName

/-- Does a reference in statements on a connection reach the table of an entity, with a database just where
it has to name one? -/
structure Token.Reaches (t : Token) (e : Entity) (base target : Locator) : Prop where
  server : base.SameServer target
  home : base.SameDatabase target → t = .table none e.schema e.tableName
  away : ¬ base.SameDatabase target → ∃ database, target.database = some database ∧
    t = .table (some database) (e.schema.or target.schema) e.tableName ∧
    t.chars = bracketed database ++ '.' :: bracketed ((e.schema.or target.schema).getD "dbo") ++
      '.' :: bracketed e.tableName
  own : ∃ p, t.path? base = some p ∧ p.IsOf e target

/-- Does the token name a table? -/
def Token.isTable : Token → Bool
  | .table _ _ _ => true
  | _ => false

section Reached

variable {r : Registry} {root joined : Entity} {t : Token}

theorem sameText_refl (a : String) : SameText a a :=
  List.forall₂_same.2 fun _ _ => Or.inl rfl

/-- A reference that is made reaches the table of its entity. -/
theorem Entity.Refers.reaches (h : Entity.Refers r root joined (.ok t)) : ∃ base target,
    r.Leads root base ∧ r.Leads joined target ∧ t.Reaches joined base target := by
  cases h with
  | @home base target atRoot atJoined server database =>
    refine ⟨base, target, atRoot, atJoined, server, fun _ => rfl, fun h => absurd database h, _, rfl, ?_⟩
    exact ⟨server, database, Or.inl rfl, rfl⟩
  | @away base target database atRoot atJoined server databases named =>
    refine ⟨base, target, atRoot, atJoined, server, fun h => absurd h databases,
      fun _ => ⟨database, named, rfl, rfl⟩, _, rfl, server, ?_, Or.inr rfl, rfl⟩
    rw [named]
    exact .some (sameText_refl database)

end Reached

namespace Join

/-- Why a join at a position can not be written. -/
inductive Refused (c : Context) (position : Nat) (j : Join) (ps : Parameters) : Error → Prop
  | reference {err : Error} (refers : Entity.Refers c.registry c.root j.entity (.error err)) :
      Refused c position j ps err
  | condition {t : Token} {e : Expr} {err : Error} {ps' : Parameters}
      (refers : Entity.Refers c.registry c.root j.entity (.ok t)) (given : j.condition = some e)
      (compiled : Condition.ofExpr (c.scope.restrict (position + 1)) e ps = (.error err, ps')) :
      Refused c position j ps err

section Chain

variable {c : Context} {position : Nat} {j : Join} {joins : List Join} {ps ps' : Parameters}
  {ts : List Token} {err : Error}

/-! ### Chains that are written -/

theorem filter_isTable_of_silent (h : ∀ t ∈ ts, t.isSilent = true) : ts.filter Token.isTable = [] := by
  rw [List.filter_eq_nil_iff]
  intro t ht
  have hsilent := h t ht
  rw [Token.isTable.eq_def]
  split
  · cases hsilent
  · exact Bool.false_ne_true

/-- The clause of a join names one table. -/
theorem filter_isTable_clauseTokens {table : Token} {condition : List Token} (htable : table.isTable = true)
    (h : Inner condition) : (clauseTokens c position j table condition).filter Token.isTable = [table] := by
  have hcondition := filter_isTable_of_silent h.silent
  have hkind : ([Token.word .space] ++ spaced (kindWord j.kind) ++ spaced .join).filter Token.isTable =
      [] := by
    cases j.kind <;> rfl
  have halias : (aliasTokens c.scope position).filter Token.isTable = [] := by
    rw [aliasTokens]
    split <;> rfl
  have hhint : (hint c.dirtyRead).filter Token.isTable = [] := by
    cases c.dirtyRead <;> rfl
  have hclause : (Tokens.clause .on condition).filter Token.isTable = [] := hcondition
  rw [clauseTokens, List.filter_append, List.filter_append, List.filter_append, List.filter_append, hkind,
    halias, hhint, hclause, List.filter_cons_of_pos htable]
  rfl

/-- Each join of a chain has a table, in order. -/
theorem Clauses.tables (hr : c.registry.isEmpty = false) (h : Clauses c position joins ps ts ps') :
    List.Forall₂ (fun (j : Join) t => Entity.Refers c.registry c.root j.entity (.ok t)) joins
      (ts.filter Token.isTable) := by
  induction h with
  | nil position ps => exact .nil
  | @cons position j rest table e condition ps ps₁ ps' ts reference given compiled others ih =>
    have htable : table.isTable = true := by
      obtain ⟨database, schema, rfl⟩ := referenceFrom_eq_ok reference
      rfl
    rw [List.filter_append, filter_isTable_clauseTokens htable (Condition.inner_ofExpr compiled)]
    exact .cons ((referenceFrom_iff hr).1 reference) ih

/-! ### Chains that are refused -/

theorem refuses_clauseAt (hr : c.registry.isEmpty = false) (hgiven : j.condition ≠ none) :
    Refuses (clauseAt c position j) ps err ↔ Refused c position j ps err := by
  rw [clauseAt, refuses_lift_bind]
  obtain ⟨e, he⟩ := Option.ne_none_iff_exists'.1 hgiven
  have hcompile : Refuses (Condition.bound (c.scope.restrict (position + 1)) e) ps err ↔
      ∃ ps', Condition.ofExpr (c.scope.restrict (position + 1)) e ps = (.error err, ps') := by
    rw [Refuses, run_bound]
    rcases Condition.ofExpr (c.scope.restrict (position + 1)) e ps with ⟨result, ps'⟩
    simp
  rw [he]
  constructor
  · rintro (h | ⟨table, h, hcondition⟩)
    · exact .reference ((referenceFrom_iff hr).1 h)
    · rcases refuses_bind.1 hcondition with hrefused | ⟨condition, ps₁, -, hpure⟩
      · obtain ⟨ps', hcompiled⟩ := hcompile.1 hrefused
        exact .condition ((referenceFrom_iff hr).1 h) he hcompiled
      · exact absurd hpure refuses_pure
  · intro h
    cases h with
    | reference refers => exact Or.inl ((referenceFrom_iff hr).2 refers)
    | condition refers given compiled =>
      rw [he] at given
      cases given
      have hrefused := hcompile.2 ⟨_, compiled⟩
      exact Or.inr ⟨_, (referenceFrom_iff hr).2 refers, refuses_bind.2 (Or.inl hrefused)⟩

/-- A chain is refused at the first join that can not be written. -/
theorem refuses_clausesFrom (hr : c.registry.isEmpty = false) :
    ∀ {position : Nat} {ps : Parameters}, (∀ j ∈ joins, j.condition ≠ none) →
      (Refuses (clausesFrom c position joins) ps err ↔
        ∃ earlier j later ts ps₁, joins = earlier ++ j :: later ∧
          Yields (clausesFrom c position earlier) ps ts ps₁ ∧
          Refused c (earlier.length + position) j ps₁ err) := by
  -- on the joins: the first is refused itself, or is written and stands in front of the one that is refused
  induction joins with
  | nil =>
    intro position ps _
    refine iff_of_false refuses_pure ?_
    rintro ⟨earlier, j, later, ts, ps₁, hjoins, -⟩
    simp at hjoins
  | cons first rest ih =>
    intro position ps hgiven
    rw [List.forall_mem_cons] at hgiven
    rw [clausesFrom, refuses_bind, refuses_clauseAt hr hgiven.1]
    constructor
    · rintro (h | ⟨clause, ps₁, hclause, h⟩)
      · refine ⟨[], first, rest, [], ps, rfl, yields_pure.2 rfl, ?_⟩
        rwa [List.length_nil, Nat.zero_add]
      · rcases refuses_bind.1 h with hrest | ⟨ts, ps₂, -, hpure⟩
        · obtain ⟨earlier, j, later, ts, ps₂, rfl, hearlier, hrefused⟩ := (ih hgiven.2).1 hrest
          refine ⟨first :: earlier, j, later, clause ++ ts, ps₂, rfl, ?_, ?_⟩
          · rw [clausesFrom, yields_bind]
            exact ⟨clause, ps₁, hclause, yields_bind.2 ⟨ts, ps₂, hearlier, yields_pure.2 rfl⟩⟩
          · rwa [List.length_cons, Nat.add_right_comm]
        · exact absurd hpure refuses_pure
    · rintro ⟨earlier, j, later, ts, ps₁, hjoins, hearlier, hrefused⟩
      cases earlier with
      | nil =>
        cases hjoins
        cases yields_pure.1 hearlier
        rw [List.length_nil, Nat.zero_add] at hrefused
        exact Or.inl hrefused
      | cons j' earlier =>
        cases hjoins
        obtain ⟨clause, ps₂, hclause, hothers⟩ := yields_bind.1 hearlier
        obtain ⟨ts', ps₃, hothers, hpure⟩ := yields_bind.1 hothers
        cases yields_pure.1 hpure
        rw [List.length_cons, Nat.add_right_comm] at hrefused
        exact Or.inr ⟨clause, ps₂, hclause, refuses_bind.2 (Or.inl ((ih hgiven.2).2
          ⟨earlier, j, later, ts', _, rfl, hothers, hrefused⟩))⟩

/-- A chain that is checked has its conditions. -/
theorem given_of_check (h : check joins = .ok ()) : ∀ j ∈ joins, j.condition ≠ none := by
  have hfrom : ∀ position, checkFrom position joins = .ok () → ∀ j ∈ joins, j.condition ≠ none := by
    clear h
    induction joins with
    | nil => exact fun _ _ j hj => absurd hj List.not_mem_nil
    | cons first rest ih =>
      intro position h
      rw [checkFrom] at h
      obtain ⟨u, hfirst, hrest⟩ := bind_eq_ok.1 h
      refine List.forall_mem_cons.2 ⟨fun hnone => ?_, ih _ hrest⟩
      rw [checkAt, hnone] at hfirst
      split at hfirst
      · cases hfirst
      · cases hfirst
  rw [check] at h
  split at h
  · cases h
  · exact hfrom 1 h

end Chain

/-- Among connections, the references of a chain reach the tables of its joins: each is looked up from the
root's connection, on the same server, and names a database just where the entity lies in another one. A chain
that is refused has a first join that can not be written, since its entity is not reached or its condition not
compiled, and is refused with the error of that join. -/
theorem clauses_reach {c : Context} (hr : c.registry.isEmpty = false) (joins : List Join) (ps : Parameters) :
    (∀ ts ps', Yields (clauses c joins) ps ts ps' →
      List.Forall₂ (fun j t => ∃ base target, c.registry.Leads c.root base ∧
        c.registry.Leads j.entity target ∧ t.Reaches j.entity base target) joins
          (ts.filter Token.isTable)) ∧
    (check joins = .ok () → ∀ err, Refuses (clauses c joins) ps err ↔
      ∃ earlier j later ts ps₁, joins = earlier ++ j :: later ∧
        Yields (clausesFrom c 1 earlier) ps ts ps₁ ∧ Refused c (earlier.length + 1) j ps₁ err) := by
  constructor
  · intro ts ps' h
    exact ((yields_clauses.1 h).2.tables hr).imp fun j t hrefers => hrefers.reaches
  · intro hcheck err
    rw [← refuses_clausesFrom hr (given_of_check hcheck), clauses, refuses_lift_bind, hcheck]
    constructor
    · rintro (h | ⟨u, -, h⟩)
      · cases h
      · exact h
    · exact fun h => Or.inr ⟨(), rfl, h⟩

end Join

namespace Enrolment

/-- The clubs of today and the members of former days, in two databases of one server. -/
def connections : Registry where
  entries := [("Clubs", ⟨"DB01", some "Clubs", none⟩),
    ("Archive", ⟨"db01", some "Archive", some "hist"⟩)]

/-- Members that are kept behind a connection, joined with their clubs. -/
def membersOn (connection : String) (position : Nat) : Join where
  entity := { member with connection := some connection }
  parent := 0
  condition := some (.compare (.member ⟨0, "Id"⟩) .eq (.member ⟨position, "ClubId"⟩))

/-- Clubs with their members of today and their former ones. -/
def everyone : List Join := [membersOn "Clubs" 1, membersOn "Archive" 2]

/-- The clauses behind the clubs. -/
def behindClubs (joins : List Join) : Join.Context :=
  let root : Entity := { club with connection := some "Clubs" }
  ⟨root, Join.scope root joins, connections, false⟩

end Enrolment

open Enrolment in
theorem Join.clauses_reach_everyone :
    (∃ ts ps', Yields (clauses (behindClubs everyone) everyone) {} ts ps' ∧
      List.Forall₂ (fun j t => ∃ base target, connections.Leads (behindClubs everyone).root base ∧
        connections.Leads j.entity target ∧ t.Reaches j.entity base target) everyone
          (ts.filter Token.isTable)) ∧
    ∃ joins, check joins = .ok () ∧ joins.length = 3 ∧
      Refuses (clauses (behindClubs joins) joins) {} (.connectionNotDeclared "Guests") := by
  have hok : ∃ ts ps', Yields (clauses (behindClubs everyone) everyone) {} ts ps' := ⟨_, _, rfl⟩
  constructor
  · obtain ⟨ts, ps', h⟩ := hok
    exact ⟨ts, ps', h, (clauses_reach (c := behindClubs everyone) rfl everyone {}).1 ts ps' h⟩
  · let joins := everyone ++ [membersOn "Guests" 3]
    have hcheck : check joins = .ok () := rfl
    have hroot : connections.Leads (behindClubs joins).root ⟨"DB01", some "Clubs", none⟩ := .named rfl rfl
    have hlost : connections.Lost (membersOn "Guests" 3).entity (.connectionNotDeclared "Guests") :=
      .undeclared rfl (by decide)
    refine ⟨joins, hcheck, rfl, ?_⟩
    exact ((clauses_reach (c := behindClubs joins) rfl joins {}).2 hcheck _).2
      ⟨everyone, membersOn "Guests" 3, [], _, _, rfl, rfl, .reference (.joinedLost hroot hlost)⟩

end Rowgraph
