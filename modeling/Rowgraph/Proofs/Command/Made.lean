import Rowgraph.Proofs.Command.Operation
import Rowgraph.Proofs.Condition.Plan

/-!
# Commands that are made

What each part of a command is made of, given that the command is made: the assignments of a write
(`yields_named`, `yields_ofItem`), the clauses of a chain of joins (`yields_clausesFrom`), the items of a
grouped query (`Grouping.project_eq_ok`), a query for members or for groups (`select_eq_ok`), and each
write (`insert_eq_ok` and those after it). Every statement about the text of commands is read off these.
-/

set_option autoImplicit false

namespace Rowgraph

/-- No parameters, for a generator that binds numbers as this one does. -/
def Generator.unbound (g : Generator) : Parameters := { inlineNumbers := g.inlineNumbers }

theorem run_eq_ok {α : Type} {g : Generator} {m : BindM α} {a : α} {ps : Parameters} :
    g.run m = .ok (a, ps) ↔ Yields m g.unbound a ps := by
  rw [Generator.run, Yields, Generator.unbound]
  rcases m.run.run { inlineNumbers := g.inlineNumbers } with ⟨_ | b, ps'⟩
  · constructor
    · intro h
      cases h
    · intro h
      cases h
  · constructor
    · intro h
      cases h
      rfl
    · intro h
      cases h
      rfl

theorem command_eq_ok {g : Generator} {m : BindM (List Token)} {c : Command} :
    g.command m = .ok c ↔
      ∃ ts ps, Yields m g.unbound ts ps ∧ c = { tokens := ts, params := ps } := by
  rw [Generator.command, map_eq_ok]
  constructor
  · rintro ⟨⟨ts, ps⟩, hrun, rfl⟩
    exact ⟨ts, ps, run_eq_ok.1 hrun, rfl⟩
  · rintro ⟨ts, ps, h, rfl⟩
    exact ⟨(ts, ps), run_eq_ok.2 h, rfl⟩

theorem command_eq_error {g : Generator} {m : BindM (List Token)} {cause : Error} :
    g.command m = .error cause ↔ Refuses m g.unbound cause := by
  rw [Generator.command, Generator.run, Refuses, Generator.unbound]
  rcases m.run.run { inlineNumbers := g.inlineNumbers } with ⟨_ | ts, ps⟩
  · constructor
    · intro h
      cases h
      rfl
    · intro h
      cases h
      rfl
  · constructor
    · intro h
      cases h
    · intro h
      cases h

/-- What holds of the one command that is made holds of all there are. -/
theorem forall_of_single {made : Except Error Command} {cs : List Command} {P : Command → Prop}
    (hmade : ∀ {c}, made = .ok c → P c) (h : made.map ([·]) = .ok cs) : ∀ c ∈ cs, P c := by
  intro c hc
  obtain ⟨c', hc', rfl⟩ := map_eq_ok.1 h
  rw [List.mem_singleton.1 hc]
  exact hmade hc'

section Steps

variable {ps ps' : Parameters}

/-! ## Values and conditions -/

theorem yields_bindFor {m : Member} {value : Value} {t : Token} :
    Yields (BindM.bindFor m value) ps t ps' ↔ ps.bind m.name value (some m) = (t, ps') := by
  constructor
  · intro h
    cases h
    rfl
  · intro h
    cases h
    rfl

/-- Compiling among other parts of a statement is compiling. -/
theorem run_bound (scope : Scope) (e : Expr) (ps : Parameters) :
    (Condition.bound scope e).run.run ps = Condition.ofExpr scope e ps := by
  cases hresult : Condition.ofExpr scope e ps with
  | mk result params =>
    cases result with
    | error cause =>
      change ((liftM (Condition.ofExpr scope e ps).1 : BindM Condition).run.run
        (Condition.ofExpr scope e ps).2) = _
      rw [hresult]
      rfl
    | ok c =>
      change ((liftM (Condition.ofExpr scope e ps).1 : BindM Condition).run.run
        (Condition.ofExpr scope e ps).2) = _
      rw [hresult]
      rfl

theorem yields_bound {scope : Scope} {e : Expr} {c : Condition} :
    Yields (Condition.bound scope e) ps c ps' ↔ Condition.ofExpr scope e ps = (.ok c, ps') := by
  rw [Yields, run_bound]

/-! ## Assignments -/

end Steps

/-- Binds values to members, one after the other. -/
def Parameters.bindAll (ps : Parameters) : List (Member × Value) → List Assignment × Parameters
  | [] => ([], ps)
  | (m, value) :: rest =>
    let (placeholder, ps) := ps.bind m.name value (some m)
    let (assignments, ps) := ps.bindAll rest
    (⟨m, placeholder⟩ :: assignments, ps)

theorem bindAll_cons (ps : Parameters) (m : Member) (value : Value)
    (rest : List (Member × Value)) :
    ps.bindAll ((m, value) :: rest) =
      (⟨m, (ps.bind m.name value (some m)).1⟩ ::
          ((ps.bind m.name value (some m)).2.bindAll rest).1,
        ((ps.bind m.name value (some m)).2.bindAll rest).2) := rfl

section Steps

variable {ps ps' : Parameters} {as : List Assignment}

theorem yields_assign {m : Member} {value : Value} {a : Assignment} :
    Yields (Assignment.assign m value) ps a ps' ↔
      (⟨m, (ps.bind m.name value (some m)).1⟩, (ps.bind m.name value (some m)).2) = (a, ps') := by
  rw [Assignment.assign, yields_bind]
  constructor
  · rintro ⟨t, ps₁, ht, hpure⟩
    rw [yields_bindFor.1 ht]
    exact yields_pure.1 hpure
  · intro h
    exact ⟨_, _, yields_bindFor.2 rfl, yields_pure.2 h⟩

/-- An assignment and those behind it. -/
theorem yields_assign_bind {m : Member} {value : Value} {rest : BindM (List Assignment)}
    {pairs : List (Member × Value)}
    (hrest : ∀ {ps ps' as}, Yields rest ps as ps' ↔ ps.bindAll pairs = (as, ps')) :
    Yields (do return (← Assignment.assign m value) :: (← rest)) ps as ps' ↔
      ps.bindAll ((m, value) :: pairs) = (as, ps') := by
  rw [yields_bind]
  constructor
  · rintro ⟨a, ps₁, ha, h⟩
    obtain ⟨as, ps₂, has, hpure⟩ := yields_bind.1 h
    cases yields_assign.1 ha
    cases yields_pure.1 hpure
    rw [bindAll_cons, hrest.1 has]
  · intro h
    cases h
    exact ⟨_, _, yields_assign.2 rfl, yields_bind.2 ⟨_, _, hrest.2 rfl, yields_pure.2 rfl⟩⟩

/-- Values under names are bound to the members of the names. -/
theorem yields_named {e : Entity} {values : List (String × Value)} :
    Yields (Assignment.named e values) ps as ps' ↔
      ∃ ms, List.Forall₂ (fun c m => e.resolve c.1 = .ok m) values ms ∧
        ps.bindAll (ms.zip (values.map (·.2))) = (as, ps') := by
  induction values generalizing ps as ps' with
  | nil =>
    rw [Assignment.named, yields_pure]
    constructor
    · intro h
      exact ⟨[], .nil, h⟩
    · rintro ⟨ms, hms, h⟩
      cases hms
      exact h
  | cons c rest ih =>
    obtain ⟨name, value⟩ := c
    rw [Assignment.named, yields_lift_bind]
    constructor
    · rintro ⟨m, hresolve, h⟩
      obtain ⟨a, ps₁, ha, h⟩ := yields_bind.1 h
      obtain ⟨as, ps₂, has, hpure⟩ := yields_bind.1 h
      obtain ⟨ms, hms, hbind⟩ := ih.1 has
      cases yields_assign.1 ha
      cases yields_pure.1 hpure
      refine ⟨m :: ms, .cons hresolve hms, ?_⟩
      rw [List.map_cons, List.zip_cons_cons, bindAll_cons, hbind]
    · rintro ⟨ms, hms, h⟩
      cases hms with
      | @cons _ m _ ms hm hms =>
        cases h
        exact ⟨m, hm, yields_bind.2 ⟨_, _, yields_assign.2 rfl, yields_bind.2 ⟨_, _,
          ih.2 ⟨ms, hms, rfl⟩, yields_pure.2 rfl⟩⟩⟩

/-- The values of a write that names them. -/
theorem yields_ofValues {e : Entity} {values : Row} :
    Yields (Assignment.ofValues e values) ps as ps' ↔
      as ≠ [] ∧ ∃ ms, List.Forall₂ (fun c m => e.resolve c.1 = .ok m) values.columns ms ∧
        ps.bindAll (ms.zip (values.columns.map (·.2))) = (as, ps') := by
  rw [Assignment.ofValues, yields_bind]
  constructor
  · rintro ⟨found, ps₁, hfound, h⟩
    cases found with
    | nil => exact absurd h yields_throw
    | cons a rest =>
      cases yields_pure.1 h
      exact ⟨List.cons_ne_nil _ _, yields_named.1 hfound⟩
  · rintro ⟨hne, h⟩
    refine ⟨as, ps', yields_named.2 h, ?_⟩
    cases as with
    | nil => exact absurd rfl hne
    | cons a rest => exact yields_pure.2 rfl

/-- The values of an item. -/
theorem yields_ofItem {e : Entity} {item : Row} :
    Yields (Assignment.ofItem e item) ps as ps' ↔
      as ≠ [] ∧ ps.bindAll (e.insertable.map fun m => (m, item.findD m.name)) = (as, ps') := by
  have hall : ∀ (ms : List Member) {ps ps' : Parameters} {as : List Assignment},
      Yields (ms.mapM fun m => Assignment.assign m (item.findD m.name)) ps as ps' ↔
        ps.bindAll (ms.map fun m => (m, item.findD m.name)) = (as, ps') := by
    intro ms
    induction ms with
    | nil =>
      intro ps ps' as
      exact yields_pure
    | cons m ms ih =>
      intro ps ps' as
      rw [List.mapM_cons]
      exact yields_assign_bind ih
  rw [Assignment.ofItem, yields_bind]
  constructor
  · rintro ⟨found, ps₁, hfound, h⟩
    cases found with
    | nil => exact absurd h yields_throw
    | cons a rest =>
      cases yields_pure.1 h
      exact ⟨List.cons_ne_nil _ _, (hall _).1 hfound⟩
  · rintro ⟨hne, h⟩
    refine ⟨as, ps', (hall _).2 h, ?_⟩
    cases as with
    | nil => exact absurd rfl hne
    | cons a rest => exact yields_pure.2 rfl

end Steps

/-! ## Joins -/

/-- A joined table is named by its own name, behind as much of its path as is needed. -/
theorem referenceFrom_eq_ok {root joined : Entity} {registry : Registry} {t : Token}
    (h : root.referenceFrom joined registry = .ok t) :
    ∃ database schema, t = .table database schema joined.tableName := by
  rw [Entity.referenceFrom] at h
  split at h
  · cases h
    exact ⟨none, joined.schema, rfl⟩
  · obtain ⟨base, -, h⟩ := bind_eq_ok.1 h
    obtain ⟨target, -, h⟩ := bind_eq_ok.1 h
    rw [Entity.referenceBetween] at h
    split at h
    · cases h
    · split at h
      · cases h
        exact ⟨none, joined.schema, rfl⟩
      · split at h
        · cases h
        · next database _ =>
          cases h
          exact ⟨some database, joined.schema.or target.schema, rfl⟩

namespace Join

/-- The clause of a join at a position, with its table and its condition. -/
def clauseTokens (c : Context) (position : Nat) (j : Join) (table : Token)
    (condition : List Token) : List Token :=
  [Token.word .space] ++ Tokens.spaced (kindWord j.kind) ++ Tokens.spaced .join ++ [table] ++
    aliasTokens c.scope position ++ hint c.dirtyRead ++ Tokens.clause .on condition

/-- Are these tokens the clauses of joins from a position on, and do the parameters go from the first
to the second by their conditions? -/
inductive Clauses (c : Context) : Nat → List Join → Parameters → List Token → Parameters → Prop
  | nil (position : Nat) (ps : Parameters) : Clauses c position [] ps [] ps
  | cons {position : Nat} {j : Join} {rest : List Join} {table : Token} {e : Expr}
      {condition : Condition} {ps ps₁ ps' : Parameters} {ts : List Token}
      (reference : c.root.referenceFrom j.entity c.registry = .ok table)
      (given : j.condition = some e)
      (compiled : Condition.ofExpr (c.scope.restrict (position + 1)) e ps = (.ok condition, ps₁))
      (others : Clauses c (position + 1) rest ps₁ ts ps') :
      Clauses c position (j :: rest) ps
        (clauseTokens c position j table condition.tokens ++ ts) ps'

theorem yields_clauseAt {c : Context} {position : Nat} {j : Join} {ps ps' : Parameters}
    {ts : List Token} :
    Yields (clauseAt c position j) ps ts ps' ↔ ∃ table e condition,
      c.root.referenceFrom j.entity c.registry = .ok table ∧ j.condition = some e ∧
        Condition.ofExpr (c.scope.restrict (position + 1)) e ps = (.ok condition, ps') ∧
        ts = clauseTokens c position j table condition.tokens := by
  rw [clauseAt, yields_lift_bind]
  constructor
  · rintro ⟨table, hreference, h⟩
    cases hgiven : j.condition with
    | none =>
      rw [hgiven] at h
      exact absurd h yields_throw
    | some e =>
      rw [hgiven] at h
      obtain ⟨condition, ps₁, hcompiled, hpure⟩ := yields_bind.1 h
      cases yields_pure.1 hpure
      exact ⟨table, e, condition, hreference, rfl, yields_bound.1 hcompiled, rfl⟩
  · rintro ⟨table, e, condition, hreference, hgiven, hcompiled, rfl⟩
    refine ⟨table, hreference, ?_⟩
    rw [hgiven]
    exact yields_bind.2 ⟨condition, ps', yields_bound.2 hcompiled, yields_pure.2 rfl⟩

theorem yields_clausesFrom {c : Context} {joins : List Join} :
    ∀ {position : Nat} {ps ps' : Parameters} {ts : List Token},
      Yields (clausesFrom c position joins) ps ts ps' ↔ Clauses c position joins ps ts ps' := by
  induction joins with
  | nil =>
    intro position ps ps' ts
    rw [clausesFrom, yields_pure]
    constructor
    · intro h
      cases h
      exact .nil position ps
    · intro h
      cases h
      rfl
  | cons j rest ih =>
    intro position ps ps' ts
    rw [clausesFrom, yields_bind]
    constructor
    · rintro ⟨clause, ps₁, hclause, h⟩
      obtain ⟨others, ps₂, hothers, hpure⟩ := yields_bind.1 h
      cases yields_pure.1 hpure
      obtain ⟨table, e, condition, hreference, hgiven, hcompiled, rfl⟩ := yields_clauseAt.1 hclause
      exact .cons hreference hgiven hcompiled (ih.1 hothers)
    · intro h
      cases h with
      | cons reference given compiled others =>
        exact ⟨_, _, yields_clauseAt.2 ⟨_, _, _, reference, given, compiled, rfl⟩,
          yields_bind.2 ⟨_, _, ih.2 others, yields_pure.2 rfl⟩⟩

theorem yields_clauses {c : Context} {joins : List Join} {ps ps' : Parameters} {ts : List Token} :
    Yields (clauses c joins) ps ts ps' ↔
      check joins = .ok () ∧ Clauses c 1 joins ps ts ps' := by
  rw [clauses, yields_lift_bind]
  constructor
  · rintro ⟨u, hcheck, h⟩
    exact ⟨hcheck, yields_clausesFrom.1 h⟩
  · rintro ⟨hcheck, h⟩
    exact ⟨(), hcheck, yields_clausesFrom.2 h⟩

end Join

/-! ## Groups -/

namespace Grouping

variable {scope : Scope} {grouped : List Resolved}

/-- The text of what is taken from a group: a column, or an aggregate of a column or of whole rows. -/
inductive Taken (scope : Scope) : List Token → Prop
  | column (r : Resolved) : Taken scope (scope.column r)
  | aggregate (function : Aggregate) (r : Resolved) : Taken scope (application function (scope.column r))
  | average (function : Aggregate) (r : Resolved) :
      Taken scope (application function (averaged (scope.column r)))
  | rows (function : Aggregate) : Taken scope (application function [.word .star])

theorem item_eq_ok {e : Expr} {ts : List Token} {source : Option Resolved}
    (h : item scope grouped e = .ok (ts, source)) : Taken scope ts := by
  cases e with
  | aggregate function arg =>
    obtain ⟨ts', haggregate, hpure⟩ := bind_eq_ok.1 h
    cases hpure
    rw [Grouping.aggregate] at haggregate
    split at haggregate
    · cases haggregate
    · obtain ⟨r, -, hpure⟩ := bind_eq_ok.1 haggregate
      cases hpure
      split
      · exact .average function r
      · exact .aggregate function r
  | aggregateRows function =>
    obtain ⟨ts', haggregate, hpure⟩ := bind_eq_ok.1 h
    cases hpure
    rw [aggregateRows] at haggregate
    split at haggregate
    · cases haggregate
      exact .rows function
    · cases haggregate
  | member ref =>
    obtain ⟨r, -, hmember⟩ := bind_eq_ok.1 h
    split at hmember
    · cases hmember
      exact .column r
    · cases hmember
  | _ => cases h

/-- What is taken from a group stands under its name. -/
theorem project_eq_ok {items : List (String × Expr)} {projection : Projection}
    (h : project scope grouped items = .ok projection) :
    ∃ its, its ≠ [] ∧ projection.tokens = Tokens.separated its ∧ ∀ it ∈ its, ∃ ts name,
      Taken scope ts ∧ it = ts ++ ([Token.word .space] ++ Tokens.spaced .as ++ [Token.ident name]) := by
  rw [project] at h
  split at h
  · cases h
  · next hnonempty =>
    obtain ⟨columns, hcolumns, hpure⟩ := bind_eq_ok.1 h
    cases hpure
    refine ⟨columns.map (·.1), ?_, rfl, ?_⟩
    · intro hnil
      have hlength := (mapM_eq_ok_iff.1 hcolumns).length_eq
      rw [List.map_eq_nil_iff.1 hnil, List.length_nil, List.length_eq_zero_iff] at hlength
      rw [hlength] at hnonempty
      exact hnonempty rfl
    · intro it hit
      obtain ⟨column, hcolumn, rfl⟩ := List.mem_map.1 hit
      obtain ⟨⟨name, e⟩, -, hnamed⟩ := exists_of_mem_mapM hcolumns hcolumn
      obtain ⟨⟨ts, source⟩, hitem, hpure⟩ := bind_eq_ok.1 hnamed
      cases hpure
      exact ⟨ts, name, item_eq_ok hitem, by simp only [List.append_assoc]⟩

end Grouping

/-! ## Queries -/

namespace Query

variable {q : Query} {g : Generator}

/-- The clauses of a query's joins. -/
def context (q : Query) (g : Generator) : Join.Context :=
  ⟨q.root, q.scope, g.registry, q.dirtyRead.getD g.dirtyRead⟩

/-- The rows of a query, with the clauses of its joins and the condition on them. -/
def sourceTokens (q : Query) (g : Generator) (joins filter : List Token) : List Token :=
  Tokens.clause .fromKw [q.root.reference] ++ Join.aliasTokens q.scope 0 ++
    Join.hint (q.dirtyRead.getD g.dirtyRead) ++ joins ++ filter

/-- Are these tokens the condition on the rows of a query, if there is one? -/
inductive Filters (q : Query) : Parameters → List Token → Parameters → Prop
  | none (ps : Parameters) (given : q.filter = none) : Filters q ps [] ps
  | some {e : Expr} {condition : Condition} {ps ps' : Parameters} (given : q.filter = some e)
      (compiled : Condition.ofExpr q.scope e ps = (.ok condition, ps')) :
      Filters q ps (Tokens.clause .whereKw condition.tokens) ps'

theorem yields_whereClause {ps ps' : Parameters} {ts : List Token} :
    Yields q.whereClause ps ts ps' ↔ q.Filters ps ts ps' := by
  rw [whereClause.eq_def]
  constructor
  · intro h
    split at h
    · next hnone =>
      cases yields_pure.1 h
      exact .none ps hnone
    · next e hsome =>
      obtain ⟨condition, ps₁, hcompiled, hpure⟩ := yields_bind.1 h
      cases yields_pure.1 hpure
      exact .some hsome (yields_bound.1 hcompiled)
  · intro h
    cases h with
    | none _ given =>
      rw [given]
      exact yields_pure.2 rfl
    | @some e condition _ _ given compiled =>
      rw [given]
      exact yields_bind.2 ⟨condition, ps', yields_bound.2 compiled, yields_pure.2 rfl⟩

theorem yields_source {ps ps' : Parameters} {ts : List Token} :
    Yields (q.source g) ps ts ps' ↔ Join.check q.joins = .ok () ∧ ∃ joins filter ps₁,
      Join.Clauses (q.context g) 1 q.joins ps joins ps₁ ∧ q.Filters ps₁ filter ps' ∧
        ts = q.sourceTokens g joins filter := by
  rw [source, yields_bind]
  constructor
  · rintro ⟨joins, ps₁, hjoins, h⟩
    obtain ⟨filter, ps₂, hfilter, hpure⟩ := yields_bind.1 h
    cases yields_pure.1 hpure
    obtain ⟨hcheck, hclauses⟩ := Join.yields_clauses.1 hjoins
    exact ⟨hcheck, joins, filter, ps₁, hclauses, yields_whereClause.1 hfilter, rfl⟩
  · rintro ⟨hcheck, joins, filter, ps₁, hclauses, hfilter, rfl⟩
    exact ⟨joins, ps₁, Join.yields_clauses.2 ⟨hcheck, hclauses⟩, yields_bind.2
      ⟨filter, ps', yields_whereClause.2 hfilter, yields_pure.2 rfl⟩⟩

theorem rowCount_eq_ok {clause : CountClause} {n : Nat} {t : Token} (h : rowCount clause n = .ok t) :
    t = .int n := by
  rw [rowCount] at h
  split at h
  · cases h
    rfl
  · cases h

theorem top_eq_ok {ts : List Token} (h : q.top = .ok ts) :
    ts = [] ∨ ∃ n, ts = .word .top :: Tokens.parenthesized [Token.int n] ++ [Token.word .space] := by
  rw [top] at h
  split at h
  · obtain ⟨t, ht, hpure⟩ := bind_eq_ok.1 h
    cases hpure
    rw [rowCount_eq_ok ht]
    exact Or.inr ⟨_, rfl⟩
  · cases h
    exact Or.inl rfl

theorem fetch_eq_ok {ts : List Token} (h : q.fetch = .ok ts) : ts = [] ∨ ∃ n, ts = fetchClause (.int n) := by
  rw [fetch] at h
  split at h
  · cases h
    exact Or.inl rfl
  · obtain ⟨t, ht, rfl⟩ := map_eq_ok.1 h
    rw [rowCount_eq_ok ht]
    exact Or.inr ⟨_, rfl⟩

/-- A query ends with nothing, with its ordering, or with an ordering and the rows that are skipped. -/
theorem ending_eq_ok {orders : List (List Token)} {ts : List Token} (h : q.ending orders = .ok ts) :
    (orders = [] ∧ ts = []) ∨ (orders ≠ [] ∧ ts = Tokens.clause .orderBy (Tokens.separated orders)) ∨
      ∃ n fetched, q.fetch = .ok fetched ∧
        ts = Tokens.clause .orderBy (if orders.isEmpty then anyOrder else Tokens.separated orders) ++
          offsetClause (.int n) ++ fetched := by
  rw [ending] at h
  split at h
  · cases h
    cases orders with
    | nil => exact Or.inl ⟨rfl, rfl⟩
    | cons order rest => exact Or.inr (Or.inl ⟨List.cons_ne_nil _ _, rfl⟩)
  · obtain ⟨skipped, hskipped, h⟩ := bind_eq_ok.1 h
    obtain ⟨fetched, hfetched, hpure⟩ := bind_eq_ok.1 h
    cases hpure
    rw [rowCount_eq_ok hskipped]
    exact Or.inr (Or.inr ⟨_, fetched, hfetched, rfl⟩)

/-- A query for members is ordered by columns. -/
theorem memberOrder_eq_ok {scope : Scope} {item : OrderItem} {ts : List Token}
    (h : memberOrder scope item = .ok ts) : ∃ r, ts = ordered (scope.column r) item.direction := by
  rw [memberOrder] at h
  split at h
  · cases h
  · obtain ⟨r, -, hpure⟩ := bind_eq_ok.1 h
    cases hpure
    exact ⟨r, rfl⟩

/-- A grouped query is ordered by the names that it gives. -/
theorem groupedOrder_eq_ok {scope : Scope} {columns : List ProjectedColumn} {item : OrderItem}
    {ts : List Token} (h : groupedOrder scope columns item = .ok ts) :
    ∃ name, ts = ordered [.ident name] item.direction := by
  obtain ⟨found, -, h⟩ := bind_eq_ok.1 h
  cases found with
  | none => cases h
  | some name =>
    cases h
    exact ⟨name, rfl⟩

/-- The statement of a query for members, made of its parts. -/
structure MakesMembers (q : Query) (g : Generator) (list : SelectList) (c : Command) : Prop where
  ungrouped : q.groupBy = []
  unprojected : q.projection = none
  columns : SelectList.ofPicks q.scope q.picks = .ok list
  split : c.split = list.split
  table : c.table = none
  parts : ∃ source top orders ending, Yields (q.source g) g.unbound source c.params ∧
    q.top = .ok top ∧ q.orderBy.mapM (memberOrder q.scope) = .ok orders ∧
    q.ending orders = .ok ending ∧
    c.tokens = q.selectHead ++ top ++ list.tokens ++ source ++ ending

/-- The statement of a grouped query, made of its parts. -/
structure MakesGroups (q : Query) (g : Generator) (grouped : List Resolved)
    (projection : Projection) (c : Command) : Prop where
  isGrouped : q.groupBy ≠ []
  columns : Grouping.columns q.scope q.groupBy = .ok grouped
  projected : ∃ items, q.projection = some items ∧
    Grouping.project q.scope grouped items = .ok projection
  split : c.split = {}
  table : c.table = none
  parts : ∃ source top orders ending, Yields (q.source g) g.unbound source c.params ∧
    q.top = .ok top ∧ q.orderBy.mapM (groupedOrder q.scope projection.columns) = .ok orders ∧
    q.ending orders = .ok ending ∧
    c.tokens = Tokens.spaced .select ++ top ++ [Token.word .star] ++
      Tokens.clause .fromKw (Tokens.parenthesized (q.selectHead ++ projection.tokens ++ source ++
        Tokens.clause .groupBy (Grouping.tokens q.scope grouped))) ++
      [Token.word .space, .ident groupedTable] ++ ending

theorem yields_selectMembers {list : SelectList} {ps ps' : Parameters} {ts : List Token} :
    Yields (q.selectMembers g list) ps ts ps' ↔ ∃ source top orders ending,
      Yields (q.source g) ps source ps' ∧ q.top = .ok top ∧
        q.orderBy.mapM (memberOrder q.scope) = .ok orders ∧ q.ending orders = .ok ending ∧
        ts = q.selectHead ++ top ++ list.tokens ++ source ++ ending := by
  rw [selectMembers, yields_lift_bind]
  constructor
  · rintro ⟨top, htop, h⟩
    obtain ⟨source, ps₁, hsource, h⟩ := yields_bind.1 h
    obtain ⟨orders, horders, h⟩ := yields_lift_bind.1 h
    obtain ⟨ending, hending, hpure⟩ := yields_lift_bind.1 h
    cases yields_pure.1 hpure
    exact ⟨source, top, orders, ending, hsource, htop, horders, hending, rfl⟩
  · rintro ⟨source, top, orders, ending, hsource, htop, horders, hending, rfl⟩
    exact ⟨top, htop, yields_bind.2 ⟨source, ps', hsource, yields_lift_bind.2 ⟨orders, horders,
      yields_lift_bind.2 ⟨ending, hending, yields_pure.2 rfl⟩⟩⟩⟩

theorem yields_selectGroups {grouped : List Resolved} {projection : Projection}
    {ps ps' : Parameters} {ts : List Token} :
    Yields (q.selectGroups g grouped projection) ps ts ps' ↔ ∃ source top orders ending,
      Yields (q.source g) ps source ps' ∧ q.top = .ok top ∧
        q.orderBy.mapM (groupedOrder q.scope projection.columns) = .ok orders ∧
        q.ending orders = .ok ending ∧
        ts = Tokens.spaced .select ++ top ++ [Token.word .star] ++
          Tokens.clause .fromKw (Tokens.parenthesized (q.selectHead ++ projection.tokens ++ source ++
            Tokens.clause .groupBy (Grouping.tokens q.scope grouped))) ++
          [Token.word .space, .ident groupedTable] ++ ending := by
  rw [selectGroups, yields_bind]
  constructor
  · rintro ⟨source, ps₁, hsource, h⟩
    obtain ⟨top, htop, h⟩ := yields_lift_bind.1 h
    obtain ⟨orders, horders, h⟩ := yields_lift_bind.1 h
    obtain ⟨ending, hending, hpure⟩ := yields_lift_bind.1 h
    cases yields_pure.1 hpure
    exact ⟨source, top, orders, ending, hsource, htop, horders, hending, rfl⟩
  · rintro ⟨source, top, orders, ending, hsource, htop, horders, hending, rfl⟩
    exact ⟨source, ps', hsource, yields_lift_bind.2 ⟨top, htop, yields_lift_bind.2
      ⟨orders, horders, yields_lift_bind.2 ⟨ending, hending, yields_pure.2 rfl⟩⟩⟩⟩

/-- A query is for members, or for groups with their projection. -/
theorem output_eq_ok {out : Output} :
    q.output = .ok out ↔
      (∃ list, q.groupBy = [] ∧ q.projection = none ∧
        SelectList.ofPicks q.scope q.picks = .ok list ∧ out = .members list) ∨
      ∃ items grouped projection, q.groupBy ≠ [] ∧ q.projection = some items ∧
        Grouping.columns q.scope q.groupBy = .ok grouped ∧
        Grouping.project q.scope grouped items = .ok projection ∧
        out = .groups grouped projection := by
  rw [output.eq_def]
  cases q.groupBy with
  | nil =>
    cases q.projection with
    | none => simp [map_eq_ok, eq_comm (a := out)]
    | some items => simp
  | cons e rest =>
    cases q.projection with
    | none => simp
    | some items =>
      simp only [bind_eq_ok]
      constructor
      · rintro ⟨grouped, hgrouped, projection, hprojection, hpure⟩
        cases hpure
        exact Or.inr ⟨items, grouped, projection, List.cons_ne_nil _ _, rfl, hgrouped,
          hprojection, rfl⟩
      · rintro (⟨list, hnil, -⟩ | ⟨items', grouped, projection, -, hitems, hgrouped, hprojection, rfl⟩)
        · cases hnil
        · cases hitems
          exact ⟨grouped, hgrouped, projection, hprojection, rfl⟩

end Query

/-- The statement of a query is one for members or one for groups. -/
theorem select_eq_ok {g : Generator} {q : Query} {c : Command} :
    g.select q = .ok c ↔
      (∃ list, q.MakesMembers g list c) ∨
        ∃ grouped projection, q.MakesGroups g grouped projection c := by
  rw [Generator.select, map_eq_ok]
  constructor
  · rintro ⟨⟨⟨ts, split⟩, ps⟩, hrun, rfl⟩
    obtain ⟨u, hcheck, h⟩ := yields_lift_bind.1 (run_eq_ok.1 hrun)
    obtain ⟨out, hout, h⟩ := yields_lift_bind.1 h
    rcases Query.output_eq_ok.1 hout with ⟨list, hgroup, hnone, hlist, rfl⟩ |
      ⟨items, grouped, projection, hgroup, hitems, hgrouped, hprojection, rfl⟩
    · obtain ⟨ts', ps', hts, hpure⟩ := yields_bind.1 h
      cases yields_pure.1 hpure
      exact Or.inl ⟨list, hgroup, hnone, hlist, rfl, rfl, Query.yields_selectMembers.1 hts⟩
    · obtain ⟨ts', ps', hts, hpure⟩ := yields_bind.1 h
      cases yields_pure.1 hpure
      exact Or.inr ⟨grouped, projection, hgroup, hgrouped, ⟨items, hitems, hprojection⟩, rfl, rfl,
        Query.yields_selectGroups.1 hts⟩
  · obtain ⟨ts, ps, table, split⟩ := c
    rintro (⟨list, hgroup, hprojection, hlist, hsplit, htable, hparts⟩ |
      ⟨grouped, projection, hgroup, hgrouped, ⟨items, hitems, hprojection⟩, hsplit, htable, hparts⟩)
    · cases hsplit
      cases htable
      have ⟨source, _, _, _, hsource, _⟩ := hparts
      refine ⟨((ts, list.split), ps), run_eq_ok.2 (yields_lift_bind.2
        ⟨(), (Query.yields_source.1 hsource).1, yields_lift_bind.2 ⟨.members list,
          Query.output_eq_ok.2 (Or.inl ⟨list, hgroup, hprojection, hlist, rfl⟩), ?_⟩⟩), rfl⟩
      exact yields_bind.2 ⟨ts, ps, Query.yields_selectMembers.2 hparts, yields_pure.2 rfl⟩
    · cases hsplit
      cases htable
      have ⟨source, _, _, _, hsource, _⟩ := hparts
      refine ⟨((ts, {}), ps), run_eq_ok.2 (yields_lift_bind.2
        ⟨(), (Query.yields_source.1 hsource).1, yields_lift_bind.2 ⟨.groups grouped projection,
          Query.output_eq_ok.2 (Or.inr ⟨items, grouped, projection, hgroup, hitems, hgrouped,
            hprojection, rfl⟩), ?_⟩⟩), rfl⟩
      exact yields_bind.2 ⟨ts, ps, Query.yields_selectGroups.2 hparts, yields_pure.2 rfl⟩

/-! ## Writes -/

section Writes

variable {α : Type} {g : Generator} {e : Entity} {c : Command}

/-- A command of something that is bound. -/
theorem command_bind_eq_ok {m : BindM α} {f : α → List Token} :
    g.command (do return f (← m)) = .ok c ↔
      ∃ a ps, Yields m g.unbound a ps ∧ c = { tokens := f a, params := ps } := by
  rw [command_eq_ok]
  constructor
  · rintro ⟨ts, ps, h, rfl⟩
    obtain ⟨a, ps₁, ha, hpure⟩ := yields_bind.1 h
    cases yields_pure.1 hpure
    exact ⟨a, ps, ha, rfl⟩
  · rintro ⟨a, ps, ha, rfl⟩
    exact ⟨_, ps, yields_bind.2 ⟨a, ps, ha, yields_pure.2 rfl⟩, rfl⟩

/-- A command of something that is bound and of a condition behind it. -/
theorem command_where_eq_ok {m : BindM α} {scope : Scope} {filter : Expr}
    {f : α → List Token → List Token} :
    g.command (do
        let a ← m
        let condition ← Condition.bound scope filter
        return f a condition.tokens) = .ok c ↔
      ∃ a condition ps₁ ps, Yields m g.unbound a ps₁ ∧
        Condition.ofExpr scope filter ps₁ = (.ok condition, ps) ∧
        c = { tokens := f a condition.tokens, params := ps } := by
  rw [command_eq_ok]
  constructor
  · rintro ⟨ts, ps, h, rfl⟩
    obtain ⟨a, ps₁, ha, h⟩ := yields_bind.1 h
    obtain ⟨condition, ps₂, hcondition, hpure⟩ := yields_bind.1 h
    cases yields_pure.1 hpure
    exact ⟨a, condition, ps₁, ps, ha, yields_bound.1 hcondition, rfl⟩
  · rintro ⟨a, condition, ps₁, ps, ha, hcondition, rfl⟩
    exact ⟨_, ps, yields_bind.2 ⟨a, ps₁, ha, yields_bind.2 ⟨condition, ps, yields_bound.2 hcondition,
      yields_pure.2 rfl⟩⟩, rfl⟩

/-- Such a command fails with what is bound, or else with the condition. -/
theorem command_where_eq_error {m : BindM α} {scope : Scope} {filter : Expr}
    {f : α → List Token → List Token} {cause : Error} :
    g.command (do
        let a ← m
        let condition ← Condition.bound scope filter
        return f a condition.tokens) = .error cause ↔
      Refuses m g.unbound cause ∨ ∃ a ps, Yields m g.unbound a ps ∧
        (Condition.ofExpr scope filter ps).1 = .error cause := by
  rw [command_eq_error, refuses_bind]
  refine or_congr_right (exists_congr fun a => exists_congr fun ps => and_congr_right fun _ => ?_)
  rw [refuses_bind, Refuses, run_bound]
  constructor
  · rintro (h | ⟨condition, ps', -, hpure⟩)
    · exact h
    · exact absurd hpure refuses_pure
  · exact Or.inl

theorem insert_eq_ok {item : Row} : g.insert e item = .ok c ↔
    ∃ as ps, Yields (Assignment.ofItem e item) g.unbound as ps ∧
      c = { tokens := e.insertion as, params := ps } := command_bind_eq_ok

theorem insertOutput_eq_ok {item : Row} : g.insertOutput e item = .ok c ↔
    ∃ as ps, Yields (Assignment.ofItem e item) g.unbound as ps ∧
      c = { tokens := e.insertHead (Assignment.members as) ++ Tokens.spaced .output ++ e.outputTokens ++
              [.word .space] ++ Entity.valuesClause as
            params := ps } := command_bind_eq_ok

theorem insertIfAbsent_eq_ok {item : Row} {absentWhen : Expr} :
    g.insertIfAbsent e item absentWhen = .ok c ↔
      ∃ as condition ps₁ ps, Yields (Assignment.ofItem e item) g.unbound as ps₁ ∧
        Condition.ofExpr (.single e) absentWhen ps₁ = (.ok condition, ps) ∧
        c = { tokens := e.insertHead (Assignment.members as) ++ Tokens.spaced .select ++
                Assignment.placeholders as ++ e.absenceClause [] g.dirtyRead condition.tokens
              params := ps } :=
  command_where_eq_ok (f := fun as condition => e.insertHead (Assignment.members as) ++
    Tokens.spaced .select ++ Assignment.placeholders as ++ e.absenceClause [] g.dirtyRead condition)

theorem insertTemplate_eq_ok {template : Row} {caches : Caches}
    (h : (g.insertTemplate e template caches).1 = .ok c) :
    ∃ as ps, Yields (Assignment.ofValues e template) g.unbound as ps ∧
      c = { tokens := e.insertion as, params := ps } := by
  rw [Generator.insertTemplate] at h
  dsimp only at h
  split at h
  · exact command_bind_eq_ok.1 h
  · cases h

theorem update_eq_ok {values : Row} {filter : Expr} : g.update e values filter = .ok c ↔
    ∃ as condition ps₁ ps, Yields (Assignment.ofValues e values) g.unbound as ps₁ ∧
      Condition.ofExpr (.single e) filter ps₁ = (.ok condition, ps) ∧
      c = { tokens := e.updating as condition.tokens, params := ps } := command_where_eq_ok

theorem upsert_eq_ok {values : Row} {filter : Expr} : g.upsert e values filter = .ok c ↔
    ∃ as condition ps₁ ps, Yields (Assignment.ofValues e values) g.unbound as ps₁ ∧
      Condition.ofExpr (.single e) filter ps₁ = (.ok condition, ps) ∧
      c = { tokens := e.updating as condition.tokens ++ Entity.otherwise (e.insertion as)
            params := ps } :=
  command_where_eq_ok (f := fun as condition =>
    e.updating as condition ++ Entity.otherwise (e.insertion as))

theorem delete_eq_ok {filter : Expr} : g.delete e filter = .ok c ↔
    ∃ condition ps, Condition.ofExpr (.single e) filter g.unbound = (.ok condition, ps) ∧
      c = { tokens := Tokens.spaced .delete ++ Tokens.spaced .fromKw ++ [e.reference] ++
              Tokens.clause .whereKw condition.tokens
            params := ps } := by
  rw [Generator.delete, command_bind_eq_ok]
  simp only [yields_bound]

theorem bulkInsert_eq_ok {items : List Row} : g.bulkInsert e items = .ok c ↔
    ∃ rows, TableParameter.ofRows e e.insertable items = .ok rows ∧
      c = { tokens := e.insertHead e.insertable ++ Tokens.spaced .select ++
              Member.columnList none e.insertable ++ Tokens.clause .fromKw [rows.placeholder]
            table := some rows } := by
  rw [Generator.bulkInsert, bind_eq_ok]
  refine exists_congr fun rows => and_congr_right fun _ => ?_
  exact ⟨fun hpure => (Except.ok.inj hpure).symm, fun hc => hc ▸ rfl⟩

theorem bulkUpdate_eq_ok {items : List Row} {template : Expr} : g.bulkUpdate e items template = .ok c ↔
    ∃ matched rows ts, matchMembers e template = .ok matched ∧
      TableParameter.ofRows e e.mapped items = .ok rows ∧ e.bulkUpdating rows matched = .ok ts ∧
      c = { tokens := ts, table := some rows } := by
  rw [Generator.bulkUpdate]
  constructor
  · intro h
    obtain ⟨matched, hmatched, h⟩ := bind_eq_ok.1 h
    obtain ⟨rows, hrows, h⟩ := bind_eq_ok.1 h
    obtain ⟨ts, hts, hpure⟩ := bind_eq_ok.1 h
    exact ⟨matched, rows, ts, hmatched, hrows, hts, (Except.ok.inj hpure).symm⟩
  · rintro ⟨matched, rows, ts, hmatched, hrows, hts, rfl⟩
    exact bind_eq_ok.2 ⟨matched, hmatched, bind_eq_ok.2 ⟨rows, hrows, bind_eq_ok.2 ⟨ts, hts, rfl⟩⟩⟩

theorem bulkUpsert_eq_ok {items : List Row} {template : Expr} : g.bulkUpsert e items template = .ok c ↔
    ∃ matched rows ts, matchMembers e template = .ok matched ∧
      TableParameter.ofRows e e.mapped items = .ok rows ∧ e.bulkUpdating rows matched = .ok ts ∧
      c = { tokens := ts ++ [Token.word .semicolon, .word .space] ++ e.bulkInserting rows matched g.dirtyRead
            table := some rows } := by
  rw [Generator.bulkUpsert]
  constructor
  · intro h
    obtain ⟨matched, hmatched, h⟩ := bind_eq_ok.1 h
    obtain ⟨rows, hrows, h⟩ := bind_eq_ok.1 h
    obtain ⟨ts, hts, hpure⟩ := bind_eq_ok.1 h
    exact ⟨matched, rows, ts, hmatched, hrows, hts, (Except.ok.inj hpure).symm⟩
  · rintro ⟨matched, rows, ts, hmatched, hrows, hts, rfl⟩
    exact bind_eq_ok.2 ⟨matched, hmatched, bind_eq_ok.2 ⟨rows, hrows, bind_eq_ok.2 ⟨ts, hts, rfl⟩⟩⟩

end Writes

/-! ## Deletions with joins -/

/-- The aliased tables of a statement with joins. -/
def Join.scope (e : Entity) (joins : List Join) : Scope :=
  ⟨Join.entities e joins, some (Alias.ofEntities (Join.entities e joins))⟩

/-- A deletion with joins: the table under its alias, the clauses of the joins and the condition. -/
def Generator.deletionTokens (e : Entity) (clauses condition : List Token) : List Token :=
  Tokens.spaced .delete ++ [Token.alias (Alias.ofName e.name 0)] ++
    Tokens.clause .fromKw [e.reference, .word .space, .alias (Alias.ofName e.name 0)] ++ clauses ++
    Tokens.clause .whereKw condition

theorem deleteJoined_eq_ok {g : Generator} {e : Entity} {joins : List Join} {filter : Expr}
    {c : Command} (hjoins : joins ≠ []) :
    g.deleteJoined e joins filter = .ok c ↔ Join.check joins = .ok () ∧
      ∃ clauses condition ps ps₁,
        Join.Clauses ⟨e, Join.scope e joins, g.registry, g.dirtyRead⟩ 1 joins g.unbound clauses ps₁ ∧
          Condition.ofExpr (Join.scope e joins) filter ps₁ = (.ok condition, ps) ∧
          c = { tokens := Generator.deletionTokens e clauses condition.tokens, params := ps } := by
  have hsome : ¬ joins.isEmpty = true := by
    rwa [List.isEmpty_iff]
  rw [Generator.deleteJoined, if_neg hsome, command_eq_ok]
  constructor
  · rintro ⟨ts, ps, h, rfl⟩
    obtain ⟨clauses, ps₁, hclauses, h⟩ := yields_bind.1 h
    obtain ⟨condition, ps₂, hcondition, hpure⟩ := yields_bind.1 h
    cases yields_pure.1 hpure
    obtain ⟨hcheck, hclauses⟩ := Join.yields_clauses.1 hclauses
    exact ⟨hcheck, clauses, condition, ps, ps₁, hclauses, yields_bound.1 hcondition, rfl⟩
  · rintro ⟨hcheck, clauses, condition, ps, ps₁, hclauses, hcondition, rfl⟩
    exact ⟨_, ps, yields_bind.2 ⟨clauses, ps₁, Join.yields_clauses.2 ⟨hcheck, hclauses⟩,
      yields_bind.2 ⟨condition, ps, yields_bound.2 hcondition, yields_pure.2 rfl⟩⟩, rfl⟩

end Rowgraph
