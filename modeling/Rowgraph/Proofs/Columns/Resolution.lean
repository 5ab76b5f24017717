import Rowgraph.Proofs.Columns.Parts
import Rowgraph.Proofs.Parameter

/-!
# Columns of statements with several tables

Each table of a statement is declared under an alias of its own, and every column that is named with an
alias is the column of the member that it was compiled from, behind the alias of the member's position; the
condition of a join names no table that is joined later (`columns_resolve`). Aliases differ because they
end in the numbers of their positions, and there are too few positions for a number of two digits
(`nodup_ofEntities`).
-/

set_option autoImplicit false

namespace Rowgraph

/-! ## Aliases -/

namespace Alias

/-- The number of a position has one digit. -/
theorem length_toString {position : Nat} (h : position < 9) :
    (toString (position + 1)).toList.length = 1 := by
  have hall : ∀ n < 9, (toString (n + 1)).toList.length = 1 := by decide
  exact hall position h

/-- Aliases of two positions differ in their last characters, whatever names they are made from. -/
theorem position_eq_of_ofName_eq {a b : String} {i j : Nat} (hi : i < 9) (hj : j < 9)
    (h : ofName a i = ofName b j) : i = j := by
  rw [ofName, ofName] at h
  have hlist := congrArg String.toList h
  rw [String.toList_append, String.toList_append] at hlist
  have hdigits := List.append_inj_right' hlist (by rw [length_toString hi, length_toString hj])
  exact Nat.succ.inj (toString_nat_inj (String.toList_inj.1 hdigits))

theorem nodup_ofEntities {entities : List Entity} (h : entities.length ≤ 9) :
    (ofEntities entities).Nodup := by
  rw [List.nodup_iff_pairwise_ne, List.pairwise_iff_getElem]
  intro i j hi hj hlt heq
  rw [ofEntities, List.length_mapIdx] at hi hj
  simp only [ofEntities, List.getElem_mapIdx] at heq
  -- the stems of the two names may be of different lengths, so that only the last digits count
  exact Nat.ne_of_lt hlt (position_eq_of_ofName_eq (by omega) (by omega) heq)

end Alias

theorem Join.length_le_of_check {joins : List Join} (h : Join.check joins = .ok ()) :
    joins.length + 1 ≤ Join.maxTables := by
  rw [Join.check] at h
  split at h
  · cases h
  · next hle => exact Nat.le_of_not_lt hle

/-! ## Sources of a statement -/

/-- A member's column in a clause, behind the alias of the member's position. -/
def Resolved.named (clause : Clause) (r : Resolved) : NamedColumn :=
  ⟨clause, some (Alias.ofName r.entity.name r.position), r.member.columnName⟩

/-- The members that the clauses of a statement are made from, in order. -/
structure Sources where
  selected : List Resolved := []
  /-- Those of each join's condition. -/
  joined : List (List Resolved)
  filtered : List Resolved
  grouped : List Resolved := []
  ordered : List Resolved := []

namespace Sources

/-- The columns of the joins from a number on. -/
def namedJoins : Nat → List (List Resolved) → List NamedColumn
  | _, [] => []
  | k, rs :: rest => rs.map (Resolved.named (.on k)) ++ namedJoins (k + 1) rest

/-- The columns of what is selected, and of the rows that it is selected from. -/
def namedRows (s : Sources) : List NamedColumn :=
  s.selected.map (Resolved.named .select) ++ namedJoins 1 s.joined ++
    s.filtered.map (Resolved.named .filter)

/-- The columns, each in its clause. -/
def named (s : Sources) : List NamedColumn :=
  s.namedRows ++ s.grouped.map (Resolved.named .groupBy) ++ s.ordered.map (Resolved.named .orderBy)

/-- All members. -/
def all (s : Sources) : List Resolved :=
  s.selected ++ s.joined.flatten ++ s.filtered ++ s.grouped ++ s.ordered

/-- Are the joins and the condition on the rows made from these members? The condition of a join is made
from members of the tables up to its own. -/
structure OfRows (s : Sources) (scope : Scope) (joins : List Join) (filter : Option Expr) : Prop where
  joined : List.Forall₂ (fun j rs => ∃ e, j.condition = some e ∧ scope.Finds e.columnRefs rs)
    joins s.joined
  earlier : ∀ k rs, s.joined[k]? = some rs → ∀ r ∈ rs, r.position ≤ k + 1
  filtered : scope.Finds (filter.toList.flatMap Expr.columnRefs) s.filtered

end Sources

/-- The tables of a statement, each with its alias. -/
def declarations (entities : List Entity) : List (String × String) :=
  entities.mapIdx fun position e => (e.tableName, Alias.ofName e.name position)

theorem map_snd_declarations (entities : List Entity) :
    (declarations entities).map (·.2) = Alias.ofEntities entities := by
  refine List.ext_getElem? fun position => ?_
  simp [declarations, Alias.ofEntities, List.getElem?_mapIdx, Function.comp_def]

namespace Query

/-- Are these the members that a query selects, or that its aggregates and grouping columns are made
from? -/
def Selects (q : Query) (rs : List Resolved) : Prop :=
  match q.projection with
  | some items => q.scope.Finds (items.flatMap fun item => item.2.columnRefs) rs
  | none => q.scope.Selects q.picks rs

/-- Are the clauses of a query made from these members, and its ordering, if it is grouped, of these names?
They are names of what is taken from the groups. -/
structure IsMadeFrom (q : Query) (s : Sources) (names : List String) : Prop where
  rows : s.OfRows q.scope q.joins q.filter
  selected : q.Selects s.selected
  grouped : q.scope.Finds (q.groupBy.flatMap Expr.columnRefs) s.grouped
  ungrouped : q.groupBy = [] →
    q.scope.Finds (q.orderBy.flatMap fun item => item.expr.columnRefs) s.ordered ∧ names = []
  named : q.groupBy ≠ [] →
    s.ordered = [] ∧ ∀ name ∈ names, name ∈ (q.projection.getD []).map (·.1)

end Query

/-- Do the columns in a statement belong to the tables that they are meant for? Only the names that order
a grouped query stand without an alias. -/
structure IsResolved (ts : List Token) (entities : List Entity) (s : Sources) (names : List String) :
    Prop where
  declared : (Reading.ofTokens ts).declared = declarations entities
  distinct : ((Reading.ofTokens ts).declared.map (·.2)).Nodup
  columns : (Reading.ofTokens ts).columns = s.named ++ names.map (⟨.orderBy, none, ·⟩)
  mapped : ∀ r ∈ s.all, IsMapped entities r

/-! ## Members of a statement -/

/-- All of them have columns in their tables. -/
theorem isMapped_of_mem_mapped {scope : Scope} {r : Resolved} (h : r ∈ scope.mapped) :
    IsMapped scope.entities r := by
  obtain ⟨hposition, hm⟩ := mem_mapped_iff.1 h
  obtain ⟨hmember, hmapped⟩ := List.mem_filter.1 hm
  exact ⟨hposition, hmember, by simpa using hmapped⟩

theorem mem_of_mem_tableByTable {scope : Scope} {rs : List Resolved} {r : Resolved}
    (h : r ∈ scope.tableByTable rs) : r ∈ rs := by
  obtain ⟨position, -, hr⟩ := List.mem_flatMap.1 h
  exact List.mem_of_mem_filter hr

theorem Scope.Selects.isMapped {scope : Scope} {picks : Option (List Pick)} {rs : List Resolved}
    (h : scope.Selects picks rs) : ∀ r ∈ rs, IsMapped scope.entities r := by
  cases h with
  | all => exact fun r hr => isMapped_of_mem_mapped (mem_of_mem_tableByTable hr)
  | picked finds => exact fun r hr => finds.isMapped r (mem_of_mem_tableByTable hr)

theorem Query.Selects.isMapped {q : Query} {rs : List Resolved} (h : q.Selects rs) :
    ∀ r ∈ rs, IsMapped q.entities r := by
  rw [Selects] at h
  split at h
  · exact Scope.Finds.isMapped h
  · exact Scope.Selects.isMapped h

/-- Members that conditions of joins are made from. -/
theorem isMapped_of_conditions {scope : Scope} {joins : List Join} {joined : List (List Resolved)}
    (h : List.Forall₂ (fun j rs => ∃ e, j.condition = some e ∧ scope.Finds e.columnRefs rs)
      joins joined) : ∀ r ∈ joined.flatten, IsMapped scope.entities r := by
  induction h with
  | nil => exact fun r hr => absurd hr List.not_mem_nil
  | cons hcondition _ ih =>
    obtain ⟨e, -, hfinds⟩ := hcondition
    intro r hr
    rcases List.mem_append.1 hr with hfirst | hrest
    · exact hfinds.isMapped r hfirst
    · exact ih r hrest

theorem Sources.isMapped {s : Sources} {scope : Scope} {joins : List Join} {filter : Option Expr}
    (hrows : s.OfRows scope joins filter) (hselected : ∀ r ∈ s.selected, IsMapped scope.entities r)
    (hgrouped : ∀ r ∈ s.grouped, IsMapped scope.entities r)
    (hordered : ∀ r ∈ s.ordered, IsMapped scope.entities r) :
    ∀ r ∈ s.all, IsMapped scope.entities r := by
  intro r hr
  simp only [all, List.mem_append] at hr
  rcases hr with (((hr | hr) | hr) | hr) | hr
  · exact hselected r hr
  · exact isMapped_of_conditions hrows.joined r hr
  · exact hrows.filtered.isMapped r hr
  · exact hgrouped r hr
  · exact hordered r hr

theorem Query.IsMadeFrom.isMapped {q : Query} {s : Sources} {names : List String}
    (h : q.IsMadeFrom s names) : ∀ r ∈ s.all, IsMapped q.entities r := by
  refine Sources.isMapped h.rows h.selected.isMapped h.grouped.isMapped ?_
  rcases eq_or_ne q.groupBy [] with hnone | hsome
  · exact (h.ungrouped hnone).1.isMapped
  · rw [(h.named hsome).1]
    exact fun r hr => absurd hr List.not_mem_nil

/-! ## Joins -/

section Joins

variable {scope : Scope} {clause : Clause}

theorem alias?_eq_some (haliases : scope.aliases = some (Alias.ofEntities scope.entities))
    {position : Nat} {e : Entity} (h : scope.entities[position]? = some e) :
    scope.alias? position = some (Alias.ofName e.name position) := by
  rw [Scope.alias?, haliases, Option.bind_some, Alias.ofEntities, List.getElem?_mapIdx, h]
  rfl

/-- A mapped member goes under the alias of its position. -/
theorem named_eq (haliases : scope.aliases = some (Alias.ofEntities scope.entities)) {r : Resolved}
    (h : IsMapped scope.entities r) : scope.named clause r = r.named clause := by
  rw [Scope.named, Resolved.named, alias?_eq_some haliases h.position]

theorem map_named_eq (haliases : scope.aliases = some (Alias.ofEntities scope.entities))
    {rs : List Resolved} (h : ∀ r ∈ rs, IsMapped scope.entities r) :
    rs.map (scope.named clause) = rs.map (Resolved.named clause) :=
  List.map_congr_left fun r hr => named_eq haliases (h r hr)

/-- So it does in a scope that is cut behind it. -/
theorem map_named_restrict_eq (haliases : scope.aliases = some (Alias.ofEntities scope.entities))
    {n : Nat} {rs : List Resolved} (h : ∀ r ∈ rs, IsMapped scope.entities r)
    (hbefore : ∀ r ∈ rs, r.position < n) :
    rs.map ((scope.restrict n).named clause) = rs.map (Resolved.named clause) := by
  rw [← map_named_eq haliases h]
  refine List.map_congr_left fun r hr => ?_
  have hposition := (List.getElem?_eq_some_iff.1 (h r hr).position).1
  rw [Scope.named, Scope.named, alias?_restrict (hbefore r hr) hposition]

/-- The clause of a join declares its table and goes on behind ON. -/
theorem read_clauseTokens {c : Join.Context} {position : Nat} {j : Join} {database schema : Option String}
    {name qualifier : String} {condition : List Token} {r : Reading}
    (halias : c.scope.alias? position = some qualifier) :
    (Join.clauseTokens c position j (.table database schema name) condition).foldl Reading.next r =
      condition.foldl Reading.next { r with
        clause := .on (r.joins + 1), joins := r.joins + 1, pending := .nothing,
        declared := r.declared ++ [(name, qualifier)] } := by
  rw [Join.clauseTokens, Join.aliasTokens, halias, List.foldl_append]
  cases j.kind with
  | inner => cases c.dirtyRead <;> rfl
  | left => cases c.dirtyRead <;> rfl

/-- A join declares its table, and its condition names columns of the tables up to its own. -/
theorem read_join {c : Join.Context} {position : Nat} {j : Join} {table : Token} {e : Expr}
    {condition : Condition} {ps ps' : Parameters}
    (haliases : c.scope.aliases = some (Alias.ofEntities c.scope.entities))
    (hentity : c.scope.entities[position]? = some j.entity)
    (reference : c.root.referenceFrom j.entity c.registry = .ok table)
    (compiled : Condition.ofExpr (c.scope.restrict (position + 1)) e ps = (.ok condition, ps')) :
    ∃ rs, c.scope.Finds e.columnRefs rs ∧ (∀ r ∈ rs, r.position ≤ position) ∧
      ∀ r : Reading, r.joins + 1 = position → r.pending = .nothing →
        (Join.clauseTokens c position j table condition.tokens).foldl Reading.next r = { r with
          clause := .on position, joins := position,
          declared := r.declared ++ [(j.entity.tableName, Alias.ofName j.entity.name position)],
          columns := r.columns ++ rs.map (Resolved.named (.on position)) } := by
  obtain ⟨rs, hfinds, hmentions⟩ := finds_of_ofExpr compiled
  obtain ⟨hwhole, hbefore⟩ := finds_of_restrict hfinds
  obtain ⟨database, schema, rfl⟩ := referenceFrom_eq_ok reference
  refine ⟨rs, hwhole, fun r hr => Nat.le_of_lt_succ (hbefore r hr), fun r hjoins hpending => ?_⟩
  have hcondition := hmentions (.on position) (by simp) (by simp)
  rw [map_named_restrict_eq haliases hwhole.isMapped hbefore] at hcondition
  rw [read_clauseTokens (alias?_eq_some haliases hentity), hjoins, hcondition _ rfl rfl, hpending]

/-- The clauses of the joins from a position on: they declare the tables in order, and each condition names
columns of the tables up to its own. -/
theorem Join.Clauses.read {c : Context} {position : Nat} {joins : List Join} {ps ps' : Parameters}
    {ts : List Token} (h : Clauses c position joins ps ts ps')
    (haliases : c.scope.aliases = some (Alias.ofEntities c.scope.entities)) :
    c.scope.entities.drop position = joins.map (·.entity) → ∃ joined,
      List.Forall₂ (fun j rs => ∃ e, j.condition = some e ∧ c.scope.Finds e.columnRefs rs)
        joins joined ∧
      (∀ k rs, joined[k]? = some rs → ∀ r ∈ rs, r.position ≤ position + k) ∧
      ∀ r : Reading, r.joins + 1 = position → r.pending = .nothing → ∃ clause,
        ts.foldl Reading.next r = { r with
          clause := clause, joins := r.joins + joins.length,
          declared := r.declared ++ joins.mapIdx fun i j =>
            (j.entity.tableName, Alias.ofName j.entity.name (i + position)),
          columns := r.columns ++ Sources.namedJoins position joined } := by
  -- on the joins: how far the entities are used up says at which position the next table stands
  induction h with
  | nil position ps =>
    refine fun _ => ⟨[], .nil, fun k rs hrs => ?_, fun r _ _ => ⟨r.clause, ?_⟩⟩
    · cases hrs
    · simp [Sources.namedJoins]
  | @cons position j rest table e condition ps ps₁ ps' ts reference given compiled others ih =>
    intro hdrop
    rw [List.map_cons] at hdrop
    have hentity : c.scope.entities[position]? = some j.entity := by
      rw [← List.head?_drop, hdrop, List.head?_cons]
    have hrest : c.scope.entities.drop (position + 1) = rest.map (·.entity) := by
      rw [← List.tail_drop, hdrop, List.tail_cons]
    obtain ⟨joined, hjoined, hearlier, hothers⟩ := ih hrest
    obtain ⟨rs, hfinds, hbefore, hjoin⟩ := read_join haliases hentity reference compiled
    refine ⟨rs :: joined, .cons ⟨e, given, hfinds⟩ hjoined, ?_, fun r hjoins hpending => ?_⟩
    · intro k rs' hrs' r hr
      cases k with
      | zero =>
        cases hrs'
        exact hbefore r hr
      | succ k =>
        have hle := hearlier k rs' hrs' r hr
        omega
    · obtain ⟨clause, hclause⟩ := hothers { r with
        clause := .on position, joins := position,
        declared := r.declared ++ [(j.entity.tableName, Alias.ofName j.entity.name position)],
        columns := r.columns ++ rs.map (Resolved.named (.on position)) } rfl hpending
      have hlength : position + rest.length = r.joins + (rest.length + 1) := by omega
      have hindex : ∀ i, i + 1 + position = i + (position + 1) := fun i => by omega
      refine ⟨clause, ?_⟩
      rw [List.foldl_append, hjoin r hjoins hpending, hclause, List.mapIdx_cons, Sources.namedJoins,
        List.length_cons, ← hlength]
      simp only [List.append_assoc, List.singleton_append, Nat.zero_add, hindex]

end Joins

/-! ## The rows of a statement -/

/-- The joined tables are declared behind the first one. -/
theorem Join.Clauses.read_all {c : Context} {e : Entity} {joins : List Join} {ps ps' : Parameters}
    {ts : List Token} (h : Clauses c 1 joins ps ts ps') (hscope : c.scope = Join.scope e joins) :
    ∃ joined, List.Forall₂
        (fun j rs => ∃ e, j.condition = some e ∧ c.scope.Finds e.columnRefs rs) joins joined ∧
      (∀ k rs, joined[k]? = some rs → ∀ r ∈ rs, r.position ≤ k + 1) ∧
      ∀ r : Reading, r.joins = 0 → r.pending = .nothing →
        r.declared = [(e.tableName, Alias.ofName e.name 0)] → ∃ clause,
          ts.foldl Reading.next r = { r with
            clause := clause, joins := joins.length,
            declared := declarations (Join.entities e joins),
            columns := r.columns ++ Sources.namedJoins 1 joined } := by
  have haliases : c.scope.aliases = some (Alias.ofEntities c.scope.entities) := by
    rw [hscope]
    rfl
  have hdrop : c.scope.entities.drop 1 = joins.map (·.entity) := by
    rw [hscope]
    rfl
  obtain ⟨joined, hjoined, hearlier, hread⟩ := h.read haliases hdrop
  refine ⟨joined, hjoined, fun k rs hrs r hr => ?_, fun r hjoins hpending hdeclared => ?_⟩
  · rw [Nat.add_comm]
    exact hearlier k rs hrs r hr
  · obtain ⟨clause, hclause⟩ := hread r (by rw [hjoins]) hpending
    have hall : declarations (Join.entities e joins) = (e.tableName, Alias.ofName e.name 0) ::
        joins.mapIdx fun i j => (j.entity.tableName, Alias.ofName j.entity.name (i + 1)) := by
      rw [declarations, Join.entities, List.mapIdx_cons]
      congr 1
      refine List.ext_getElem? fun position => ?_
      simp [List.getElem?_mapIdx, Function.comp_def]
    refine ⟨clause, ?_⟩
    rw [hclause, hjoins, hdeclared, hall, Nat.zero_add, List.singleton_append]

/-- The condition on the rows names the columns of its members. -/
theorem read_condition {scope : Scope} {e : Expr} {ps ps' : Parameters} {c : Condition}
    (h : Condition.ofExpr scope e ps = (.ok c, ps'))
    (haliases : scope.aliases = some (Alias.ofEntities scope.entities)) :
    ∃ rs, scope.Finds e.columnRefs rs ∧ ∀ r : Reading, r.pending = .nothing →
      (Tokens.clause .whereKw c.tokens).foldl Reading.next r = { r with
        clause := .filter, columns := r.columns ++ rs.map (Resolved.named .filter) } := by
  obtain ⟨rs, hfinds, hmentions⟩ := finds_of_ofExpr h
  refine ⟨rs, hfinds, ?_⟩
  rintro ⟨clause, joins, _, declared, columns⟩ rfl
  have hcondition := hmentions .filter (by simp) (by simp)
  rw [map_named_eq haliases hfinds.isMapped] at hcondition
  exact hcondition ⟨.filter, joins, .nothing, declared, columns⟩ rfl rfl

namespace Query

variable {q : Query} {g : Generator}

theorem Filters.read {ps ps' : Parameters} {ts : List Token} (h : q.Filters ps ts ps') :
    ∃ rs, q.scope.Finds (q.filter.toList.flatMap Expr.columnRefs) rs ∧
      ∀ r : Reading, r.pending = .nothing → ∃ clause, ts.foldl Reading.next r = { r with
        clause := clause, columns := r.columns ++ rs.map (Resolved.named .filter) } := by
  cases h with
  | none _ given =>
    rw [given]
    refine ⟨[], .nil, fun r _ => ⟨r.clause, ?_⟩⟩
    rw [List.map_nil, List.append_nil]
    rfl
  | @some e condition _ _ given compiled =>
    obtain ⟨rs, hfinds, hread⟩ := read_condition compiled rfl
    refine ⟨rs, ?_, fun r hpending => ⟨.filter, hread r hpending⟩⟩
    rw [given, Option.toList_some, List.flatMap_singleton]
    exact hfinds

/-- The rows of a query: all tables are declared, and the conditions name the columns of their members. -/
theorem read_source {ps ps' : Parameters} {ts : List Token} (h : Yields (q.source g) ps ts ps') :
    ∃ joined filtered, ({ joined, filtered } : Sources).OfRows q.scope q.joins q.filter ∧
      ∀ r : Reading, r.joins = 0 → r.pending = .nothing → r.declared = [] → ∃ clause,
        ts.foldl Reading.next r = { r with
          clause := clause, joins := q.joins.length, declared := declarations q.entities,
          columns := r.columns ++ Sources.namedJoins 1 joined ++
            filtered.map (Resolved.named .filter) } := by
  obtain ⟨-, joins, filter, ps₁, hclauses, hfilter, rfl⟩ := yields_source.1 h
  obtain ⟨joined, hjoined, hearlier, hjoins⟩ := hclauses.read_all rfl
  obtain ⟨filtered, hfiltered, hwhere⟩ := hfilter.read
  refine ⟨joined, filtered, ⟨hjoined, hearlier, hfiltered⟩, ?_⟩
  rintro ⟨clause, _, _, _, columns⟩ rfl rfl rfl
  have hfirst : q.scope.entities[0]? = some q.root := rfl
  -- the root is the only table that FROM declares
  have hroot : (Tokens.clause .fromKw [q.root.reference] ++ Join.aliasTokens q.scope 0 ++
      Join.hint (q.dirtyRead.getD g.dirtyRead)).foldl Reading.next ⟨clause, 0, .nothing, [], columns⟩ =
        ⟨.tables, 0, .nothing, [(q.root.tableName, Alias.ofName q.root.name 0)], columns⟩ := by
    rw [Join.aliasTokens, alias?_eq_some rfl hfirst]
    cases q.dirtyRead.getD g.dirtyRead with
    | true => rfl
    | false => rfl
  obtain ⟨inside, hinside⟩ := hjoins ⟨.tables, 0, .nothing,
    [(q.root.tableName, Alias.ofName q.root.name 0)], columns⟩ rfl rfl rfl
  obtain ⟨last, hlast⟩ := hwhere ⟨inside, q.joins.length, .nothing, declarations q.entities,
    columns ++ Sources.namedJoins 1 joined⟩ rfl
  refine ⟨last, ?_⟩
  rw [sourceTokens, List.foldl_append, List.foldl_append, hroot, hinside]
  exact hlast

end Query

/-! ## Statements -/

/-- No two tables of a chain go under the same alias. -/
theorem nodup_declarations (e : Entity) {joins : List Join} (h : Join.check joins = .ok ()) :
    ((declarations (Join.entities e joins)).map (·.2)).Nodup := by
  have hlength : joins.length + 1 ≤ 9 := Nat.le_trans (Join.length_le_of_check h) (by decide)
  rw [map_snd_declarations]
  apply Alias.nodup_ofEntities
  rwa [Join.entities, List.length_cons, List.length_map]

/-- A statement whose tables are declared and whose columns are those of its members. -/
theorem isResolved_of_read {ts : List Token} {e : Entity} {joins : List Join} {s : Sources}
    {names : List String} {r : Reading} (hcheck : Join.check joins = .ok ())
    (hread : Reading.ofTokens ts = r) (hdeclared : r.declared = declarations (Join.entities e joins))
    (hcolumns : r.columns = s.named ++ names.map (⟨.orderBy, none, ·⟩))
    (hmapped : ∀ r ∈ s.all, IsMapped (Join.entities e joins) r) :
    IsResolved ts (Join.entities e joins) s names := by
  subst hread
  refine ⟨hdeclared, ?_, hcolumns, hmapped⟩
  rw [hdeclared]
  exact nodup_declarations e hcheck

namespace Query

variable {q : Query} {g : Generator}

/-- What a query selects, and its rows. -/
theorem read_rows {ps ps' : Parameters} {ts source : List Token} {selected : List Resolved}
    (hsource : Yields (q.source g) ps source ps') (hmapped : ∀ r ∈ selected, IsMapped q.entities r)
    (hselected : Mentions .select ts (selected.map (q.scope.named .select))) :
    ∃ joined filtered, ({ joined, filtered } : Sources).OfRows q.scope q.joins q.filter ∧
      ∀ clause, ∃ last,
        (q.selectHead ++ ts ++ source).foldl Reading.next ⟨clause, 0, .nothing, [], []⟩ =
          ⟨last, q.joins.length, .nothing, declarations q.entities,
            ({ selected, joined, filtered } : Sources).namedRows⟩ := by
  obtain ⟨joined, filtered, hrows, hrest⟩ := read_source hsource
  refine ⟨joined, filtered, hrows, fun clause => ?_⟩
  rw [map_named_eq rfl hmapped] at hselected
  have hcolumns : ts.foldl Reading.next ⟨.select, 0, .nothing, [], []⟩ =
      ⟨.select, 0, .nothing, [], selected.map (Resolved.named .select)⟩ := hselected _ rfl rfl
  obtain ⟨last, hlast⟩ := hrest ⟨.select, 0, .nothing, [], selected.map (Resolved.named .select)⟩
    rfl rfl rfl
  refine ⟨last, ?_⟩
  rw [List.foldl_append, List.foldl_append, read_selectHead, Reading.enter, hcolumns, hlast]
  rfl

/-- A derived table ends behind its groups; its own name is no column. -/
theorem read_derived {inner : List Token} {name : String} {r : Reading}
    (h : (inner.foldl Reading.next (r.enter .tables)).clause = .groupBy) :
    (Tokens.clause .fromKw (Tokens.parenthesized inner) ++
      [Token.word .space, Token.ident name]).foldl Reading.next r =
        (inner.foldl Reading.next (r.enter .tables)).enter .tables := by
  have htokens : Tokens.clause .fromKw (Tokens.parenthesized inner) ++ [Token.word .space, .ident name] =
      Tokens.clause .fromKw [.word .lparen] ++ inner ++
        [Token.word .rparen, .word .space, .ident name] := by
    simp [Tokens.clause, Tokens.parenthesized]
  have hopen : (Tokens.clause .fromKw [.word .lparen]).foldl Reading.next r = r.enter .tables := rfl
  rw [htokens, List.foldl_append, List.foldl_append, hopen]
  generalize inner.foldl Reading.next (r.enter .tables) = r' at h
  have hclose : r'.next (.word .rparen) = r'.enter .tables := by
    rw [Reading.next, Reading.word, if_pos h]
  rw [List.foldl_cons, hclose]
  rfl

/-- A query for members. -/
theorem MakesMembers.isResolved {list : SelectList} {c : Command} (h : q.MakesMembers g list c) :
    ∃ s, q.IsMadeFrom s [] ∧ IsResolved c.tokens q.entities s [] := by
  obtain ⟨source, top, orders, ending, hsource, htop, horders, hending, htokens⟩ := h.parts
  obtain ⟨selected, hselects, hlist⟩ := SelectList.mentions_ofPicks h.columns
  obtain ⟨ordered, hordered, horder⟩ := mentions_memberOrders horders
  obtain ⟨joined, filtered, hrows, hread⟩ :=
    read_rows hsource hselects.isMapped ((mentions_top htop).append hlist)
  have hmade : q.IsMadeFrom ⟨selected, joined, filtered, [], ordered⟩ [] := by
    refine ⟨⟨hrows.joined, hrows.earlier, hrows.filtered⟩, ?_, ?_, fun _ => ⟨hordered, rfl⟩,
      fun hsome => absurd h.ungrouped hsome⟩
    · rw [Selects, h.unprojected]
      exact hselects
    · rw [h.ungrouped]
      exact .nil
  rw [map_named_eq rfl hordered.isMapped] at horder
  -- the ordering stands in the scope of the tables
  obtain ⟨inside, hinside⟩ := hread .select
  obtain ⟨last, hlast⟩ := read_ending hending horder (r := ⟨inside, q.joins.length, .nothing,
    declarations q.entities, ({ selected, joined, filtered } : Sources).namedRows⟩) rfl
  have hall : Reading.ofTokens c.tokens = ⟨last, q.joins.length, .nothing, declarations q.entities,
      ({ selected, joined, filtered } : Sources).namedRows ++
        ordered.map (Resolved.named .orderBy)⟩ := by
    rw [Reading.ofTokens, htokens, List.foldl_append, List.append_assoc q.selectHead, hinside, hlast]
  refine ⟨_, hmade, isResolved_of_read (yields_source.1 hsource).1 hall rfl ?_ hmade.isMapped⟩
  simp [Sources.named, Sources.namedRows]

/-- A query for groups. Its ordering stands behind the derived table. -/
theorem MakesGroups.isResolved {grouped : List Resolved} {projection : Projection} {c : Command}
    (h : q.MakesGroups g grouped projection c) :
    ∃ s names, q.IsMadeFrom s names ∧ IsResolved c.tokens q.entities s names := by
  obtain ⟨source, top, orders, ending, hsource, htop, horders, hending, htokens⟩ := h.parts
  obtain ⟨items, hitems, hprojected⟩ := h.projected
  obtain ⟨hnames, selected, hselected, hlist⟩ := Grouping.mentions_project hprojected
  obtain ⟨names, hmem, horder⟩ := mentions_groupedOrders horders
  have hgrouped := Grouping.finds_of_columns h.columns
  obtain ⟨joined, filtered, hrows, hread⟩ := read_rows hsource hselected.isMapped hlist
  have hmade : q.IsMadeFrom ⟨selected, joined, filtered, grouped, []⟩ names := by
    refine ⟨⟨hrows.joined, hrows.earlier, hrows.filtered⟩, ?_, hgrouped,
      fun hnone => absurd hnone h.isGrouped, fun _ => ⟨rfl, ?_⟩⟩
    · rw [Selects, hitems]
      exact hselected
    · rw [hitems, Option.getD_some, ← hnames]
      exact hmem
  have hgroup : Mentions .groupBy (Grouping.tokens q.scope grouped)
      (grouped.map (q.scope.named .groupBy)) := Grouping.mentions_groupBy grouped
  rw [map_named_eq rfl hgrouped.isMapped] at hgroup
  -- the derived table is read from behind FROM to the end of its groups
  have hhead : (Tokens.spaced .select ++ top ++ [Token.word .star]).foldl Reading.next
      ({} : Reading) = ({} : Reading) :=
    (mentions_top htop).append_plain [.word .star] rfl {} rfl rfl
  obtain ⟨inside, hinside⟩ := hread .tables
  have hinner : (q.selectHead ++ projection.tokens ++ source ++
      Tokens.clause .groupBy (Grouping.tokens q.scope grouped)).foldl Reading.next
        (({} : Reading).enter .tables) = ⟨.groupBy, q.joins.length, .nothing,
          declarations q.entities, ({ selected, joined, filtered } : Sources).namedRows ++
            grouped.map (Resolved.named .groupBy)⟩ := by
    rw [List.foldl_append, Reading.enter, hinside]
    exact hgroup ⟨.groupBy, _, _, _, _⟩ rfl rfl
  -- behind it no alias is known, and the ordering goes by names
  obtain ⟨last, hlast⟩ := read_ending hending horder (r := ⟨.tables, q.joins.length, .nothing,
    declarations q.entities, ({ selected, joined, filtered } : Sources).namedRows ++
      grouped.map (Resolved.named .groupBy)⟩) rfl
  have hall : Reading.ofTokens c.tokens = ⟨last, q.joins.length, .nothing, declarations q.entities,
      ({ selected, joined, filtered } : Sources).namedRows ++
        grouped.map (Resolved.named .groupBy) ++ names.map (⟨.orderBy, none, ·⟩)⟩ := by
    rw [Reading.ofTokens, htokens, List.foldl_append, List.append_assoc _ (Tokens.clause .fromKw _),
      List.foldl_append, hhead, read_derived (by rw [hinner]), hinner, Reading.enter, hlast]
  refine ⟨_, names, hmade, isResolved_of_read (yields_source.1 hsource).1 hall rfl ?_
    hmade.isMapped⟩
  simp [Sources.named, Sources.namedRows]

end Query

/-- A deletion with joins names its table by the alias that FROM declares. -/
theorem deleteJoined_isResolved {g : Generator} {e : Entity} {joins : List Join} {filter : Expr}
    {c : Command} (hjoins : joins ≠ []) (h : g.deleteJoined e joins filter = .ok c) :
    ∃ joined filtered,
      ({ joined, filtered } : Sources).OfRows (Join.scope e joins) joins (some filter) ∧
        IsResolved c.tokens (Join.entities e joins) { joined, filtered } [] := by
  obtain ⟨hcheck, clauses, condition, ps, ps₁, hclauses, hcondition, rfl⟩ :=
    (deleteJoined_eq_ok hjoins).1 h
  obtain ⟨joined, hjoined, hearlier, hread⟩ := hclauses.read_all rfl
  obtain ⟨filtered, hfiltered, hwhere⟩ := read_condition hcondition rfl
  have hrows : ({ joined, filtered } : Sources).OfRows (Join.scope e joins) joins (some filter) := by
    refine ⟨hjoined, hearlier, ?_⟩
    rw [Option.toList_some, List.flatMap_singleton]
    exact hfiltered
  have hnone : ∀ r ∈ ([] : List Resolved), IsMapped (Join.entities e joins) r :=
    fun r hr => absurd hr List.not_mem_nil
  refine ⟨joined, filtered, hrows, ?_⟩
  -- the alias behind DELETE declares nothing, since no table stands in front of it
  have hroot : (Tokens.spaced .delete ++ [Token.alias (Alias.ofName e.name 0)] ++ Tokens.clause .fromKw
      [e.reference, .word .space, .alias (Alias.ofName e.name 0)]).foldl Reading.next {} =
        ⟨.tables, 0, .nothing, [(e.tableName, Alias.ofName e.name 0)], []⟩ := rfl
  obtain ⟨inside, hinside⟩ := hread ⟨.tables, 0, .nothing, [(e.tableName, Alias.ofName e.name 0)], []⟩
    rfl rfl rfl
  have hall : Reading.ofTokens (Generator.deletionTokens e clauses condition.tokens) =
      ⟨.filter, joins.length, .nothing, declarations (Join.entities e joins),
        ({ joined, filtered } : Sources).namedRows⟩ := by
    rw [Reading.ofTokens, Generator.deletionTokens, List.foldl_append, List.foldl_append, hroot,
      hinside, hwhere _ rfl]
    rfl
  refine isResolved_of_read hcheck hall rfl ?_ (Sources.isMapped hrows hnone hnone hnone)
  simp [Sources.named]

/-- In every query and in every deletion with joins, the tables are declared under different aliases, one
for each position, and every column is that of the mapped member that it was made from, behind the alias of
the member's position. The condition of a join is made from members of the tables up to its own. -/
theorem columns_resolve (g : Generator) :
    (∀ q c, g.select q = .ok c →
      ∃ s names, q.IsMadeFrom s names ∧ IsResolved c.tokens q.entities s names) ∧
    ∀ e joins filter c, joins ≠ [] → g.deleteJoined e joins filter = .ok c → ∃ joined filtered,
      ({ joined, filtered } : Sources).OfRows (Join.scope e joins) joins (some filter) ∧
        IsResolved c.tokens (Join.entities e joins) { joined, filtered } [] := by
  refine ⟨fun q c h => ?_, fun e joins filter c hjoins h => deleteJoined_isResolved hjoins h⟩
  rcases select_eq_ok.1 h with ⟨list, hmakes⟩ | ⟨grouped, projection, hmakes⟩
  · obtain ⟨s, hmade, hresolved⟩ := hmakes.isResolved
    exact ⟨s, [], hmade, hresolved⟩
  · exact hmakes.isResolved

namespace Enrolment

/-- Is it the member with the number 3? -/
def third : Expr := .compare (.member ⟨1, "Id"⟩) .eq (.value (.int 3))

/-- How many members each club has, the third member left out; the clubs with the most come first. -/
def sizes : Query where
  root := club
  joins := [clubMembers]
  filter := some (.not third)
  groupBy := [.member ⟨0, "Name"⟩]
  projection := some [("Name", .member ⟨0, "Name"⟩), ("Size", .aggregate .count (.member ⟨1, "Id"⟩))]
  orderBy := [⟨.output "Size", .desc⟩]

end Enrolment

open Enrolment in
theorem columns_resolve_sizes :
    (∃ c, ({} : Generator).select sizes = .ok c ∧
      ∃ s names, sizes.IsMadeFrom s names ∧ IsResolved c.tokens sizes.entities s names) ∧
    [clubMembers] ≠ [] ∧ ∃ c, ({} : Generator).deleteJoined club [clubMembers] third = .ok c ∧
      ∃ joined filtered,
        ({ joined, filtered } : Sources).OfRows (Join.scope club [clubMembers]) [clubMembers]
            (some third) ∧
          IsResolved c.tokens (Join.entities club [clubMembers]) { joined, filtered } [] := by
  have hjoins : [clubMembers] ≠ [] := List.cons_ne_nil _ _
  have hselect : ∃ c, ({} : Generator).select sizes = .ok c := ⟨_, rfl⟩
  have hdelete : ∃ c, ({} : Generator).deleteJoined club [clubMembers] third = .ok c := ⟨_, rfl⟩
  obtain ⟨c, hc⟩ := hselect
  obtain ⟨d, hd⟩ := hdelete
  exact ⟨⟨c, hc, (columns_resolve {}).1 sizes c hc⟩, hjoins, d, hd,
    (columns_resolve {}).2 club [clubMembers] third d hjoins hd⟩

example : (({} : Generator).select Enrolment.sizes).map (fun c => (Reading.ofTokens c.tokens).columns) =
    .ok [⟨.select, some "clb1", "Name"⟩, ⟨.select, some "mmbr2", "Id"⟩, ⟨.on 1, some "clb1", "Id"⟩,
      ⟨.on 1, some "mmbr2", "ClubId"⟩, ⟨.filter, some "mmbr2", "Id"⟩, ⟨.groupBy, some "clb1", "Name"⟩,
      ⟨.orderBy, none, "Size"⟩] := rfl

end Rowgraph
