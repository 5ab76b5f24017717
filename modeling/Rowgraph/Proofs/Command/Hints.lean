import Rowgraph.Proofs.Columns.Resolution
import Rowgraph.Proofs.Command.Tables

/-!
# Hints

When uncommitted rows may be seen there is one hint behind each table that a statement reads, and nowhere else:
not behind a table that it writes, even if another reference to that table is read, nor behind shipped rows.
Without its hints the statement is the one that sees committed rows only (`perform_hints`).
-/

set_option autoImplicit false

namespace Rowgraph

open Tokens

/-! ## Rows -/

/-- The tables of a scope, read from position to position. -/
def Scope.sources (scope : Scope) (position : Nat) (entities : List Entity) (dirtyRead : Bool) :
    List TableMention :=
  entities.mapIdx fun i e => .source e.tableName (scope.alias? (position + i)) dirtyRead.toNat

theorem sources_cons (scope : Scope) (position : Nat) (e : Entity) (rest : List Entity) (dirtyRead : Bool) :
    scope.sources position (e :: rest) dirtyRead =
      .source e.tableName (scope.alias? position) dirtyRead.toNat ::
        scope.sources (position + 1) rest dirtyRead := by
  rw [Scope.sources, List.mapIdx_cons, Scope.sources]
  congr 2
  funext i e
  rw [Nat.add_right_comm, Nat.add_assoc]

/-- Each joined table has its hint. Without the hints the clauses are those of a chain without them. -/
theorem hinted_clauses {c : Join.Context} {position : Nat} {joins : List Join} {ps ps' : Parameters}
    {ts : List Token} (h : Join.Clauses c position joins ps ts ps') : ∃ plain,
      Hinted ts plain (c.scope.sources position (joins.map (·.entity)) c.dirtyRead) ∧
        Join.Clauses { c with dirtyRead := false } position joins ps plain ps' := by
  induction h with
  | nil position ps => exact ⟨[], Hinted.nil, .nil position ps⟩
  | @cons position j rest table e condition ps ps₁ ps' ts reference given compiled others ih =>
    obtain ⟨plain, hothers, hplain⟩ := ih
    have hclauses := Join.Clauses.cons (c := { c with dirtyRead := false }) reference given compiled hplain
    obtain ⟨database, schema, rfl⟩ := referenceFrom_eq_ok reference
    have hkind : Bare ([Token.word .space] ++ spaced (Join.kindWord j.kind)) [] := by
      cases j.kind with
      | inner => exact (Hinted.quiet (w := .inner) rfl (by decide) quiet_space).space
      | left => exact (Hinted.quiet (w := .left) rfl (by decide) quiet_space).space
    have htable := hinted_table (w := .join) (Or.inr rfl) database schema j.entity.tableName
      (c.scope.alias? position) c.dirtyRead
    have hon := Hinted.clause (w := .on) rfl (by decide) (Condition.body_ofExpr compiled).quiet
    have hall := ((hkind.append htable).append hon).append hothers
    refine ⟨_, ?_, hclauses⟩
    rw [List.map_cons, sources_cons]
    simpa only [Join.clauseTokens, aliasTokens_eq, hint_false, List.append_assoc, List.nil_append,
      List.cons_append, List.append_nil] using hall

namespace Query

variable {q : Query} {g : Generator} {c : Command} {ps ps' : Parameters} {ts : List Token} {own : Option Bool}
  {setting : Bool}

/-- The rows of a query have a hint behind each table. -/
theorem hinted_rows (h : Yields (q.source g) ps ts ps') (hoff : own.getD setting = false) : ∃ plain,
    Hinted ts plain (q.scope.sources 0 q.entities (q.dirtyRead.getD g.dirtyRead)) ∧
      Yields (({ q with dirtyRead := own } : Query).source { g with dirtyRead := setting }) ps plain ps' := by
  obtain ⟨hcheck, joins, filter, ps₁, hjoins, hfilter, rfl⟩ := yields_source.1 h
  obtain ⟨plain, hclauses, hplain⟩ := hinted_clauses hjoins
  have hroot := (hinted_table (w := .fromKw) (Or.inl rfl) none q.root.schema q.root.tableName
    (q.scope.alias? 0) (q.dirtyRead.getD g.dirtyRead)).space
  have hwhere : Bare filter [] := by
    cases hfilter with
    | none _ given => exact Hinted.nil
    | some given compiled => exact Hinted.clause rfl (by decide) (Condition.body_ofExpr compiled).quiet
  have hfilter' : ({ q with dirtyRead := own } : Query).Filters ps₁ filter ps' := by
    cases hfilter with
    | none _ given => exact .none _ given
    | some given compiled => exact .some given compiled
  -- whichever of the two decides, the joins are those of a chain without hints
  have hcontext : ({ q with dirtyRead := own } : Query).context { g with dirtyRead := setting } =
      { q.context g with dirtyRead := false } := by
    rw [context, ← hoff]
    rfl
  refine ⟨_, ?_, yields_source.2 ⟨hcheck, plain, filter, ps₁, hcontext ▸ hplain, hfilter', rfl⟩⟩
  have hall := (hroot.append hclauses).append hwhere
  rw [entities, Join.entities, sources_cons]
  simp only [sourceTokens, hoff, aliasTokens_eq, clause, Entity.reference, hint_false,
    List.append_assoc, List.nil_append, List.cons_append, List.append_nil] at hall ⊢
  exact hall

/-! ## Queries -/

theorem quiet_top {top : List Token} (h : q.top = .ok top) : Quiet top := by
  rcases top_eq_ok h with rfl | ⟨n, rfl⟩
  · exact quiet_of_all rfl
  · exact quiet_of_all rfl

theorem quiet_distinct (q : Query) : Quiet (if q.distinct then spaced .distinct else []) := by
  split
  · exact quiet_of_all rfl
  · exact quiet_of_all rfl

/-- Nothing is said about tables in front of the rows. -/
theorem bare_selected {top selected : List Token} (htop : Quiet top) (hselected : Quiet selected) :
    Bare (q.selectHead ++ top ++ selected) [] := by
  have hall := quiet_append.2 ⟨quiet_append.2 ⟨quiet_distinct q, htop⟩, hselected⟩
  exact Hinted.leading (w := .select) rfl (by decide) hall

/-- Nothing is said about tables behind them. -/
theorem bare_ordering {orders : List (List Token)} {ending : List Token} (horders : Quiet (separated orders))
    (h : q.ending orders = .ok ending) : Bare ending [] := by
  rcases ending_eq_ok h with ⟨-, rfl⟩ | ⟨-, rfl⟩ | ⟨n, fetched, hfetched, rfl⟩
  · exact Hinted.nil
  · exact Hinted.clause rfl (by decide) horders
  · have horder : Quiet (if orders.isEmpty then anyOrder else separated orders) := by
      split
      · exact quiet_of_all rfl
      · exact horders
    have hfetch : Bare fetched [] := by
      rcases fetch_eq_ok hfetched with rfl | ⟨n, rfl⟩
      · exact Hinted.nil
      · exact Hinted.clause rfl (by decide) (quiet_of_all rfl)
    exact ((Hinted.clause rfl (by decide) horder).append
      (Hinted.clause (w := .offset) rfl (by decide) (quiet_of_all rfl))).append hfetch

theorem MakesMembers.hinted {list : SelectList} (h : q.MakesMembers g list c)
    (hoff : own.getD setting = false) : ∃ plain,
      Hinted c.tokens plain (q.scope.sources 0 q.entities (q.dirtyRead.getD g.dirtyRead)) ∧
        ({ q with dirtyRead := own } : Query).MakesMembers { g with dirtyRead := setting } list
          { c with tokens := plain } := by
  obtain ⟨source, top, orders, ending, hsource, htop, horders, hending, htokens⟩ := h.parts
  obtain ⟨plain, hrows, hplain⟩ := hinted_rows hsource hoff
  refine ⟨q.selectHead ++ top ++ list.tokens ++ plain ++ ending, ?_, h.ungrouped, h.unprojected, h.columns,
    h.split, h.table, plain, top, orders, ending, hplain, htop, horders, hending, rfl⟩
  have hall := ((bare_selected (q := q) (quiet_top htop) (body_ofPicks h.columns).quiet).append hrows).append
    (bare_ordering (body_memberOrders horders).quiet hending)
  rw [htokens]
  simpa only [List.nil_append, List.append_nil] using hall

theorem MakesGroups.hinted {grouped : List Resolved} {projection : Projection}
    (h : q.MakesGroups g grouped projection c) (hoff : own.getD setting = false) : ∃ plain,
      Hinted c.tokens plain (q.scope.sources 0 q.entities (q.dirtyRead.getD g.dirtyRead)) ∧
        ({ q with dirtyRead := own } : Query).MakesGroups { g with dirtyRead := setting } grouped projection
          { c with tokens := plain } := by
  obtain ⟨items, -, hprojected⟩ := h.projected
  obtain ⟨source, top, orders, ending, hsource, htop, horders, hending, htokens⟩ := h.parts
  obtain ⟨plain, hrows, hplain⟩ := hinted_rows hsource hoff
  have hhead : Bare (q.selectHead ++ [] ++ projection.tokens) [] :=
    bare_selected nofun (Grouping.body_project hprojected).quiet
  have hgroups := Hinted.clause (w := .groupBy) rfl (by decide) (Grouping.body_tokens q.scope grouped).quiet
  have hderived := ((hhead.append hrows).append hgroups).derived
  have hstar : Quiet [.word .star] := quiet_of_all rfl
  have houter : Bare (spaced .select ++ top ++ [Token.word .star]) [] :=
    Hinted.leading rfl (by decide) (quiet_append.2 ⟨quiet_top htop, hstar⟩)
  have hlast := bare_ordering (body_groupedOrders horders).quiet hending
  have hall := (((houter.append hderived).append (Hinted.name groupedTable)).append hlast)
  refine ⟨spaced .select ++ top ++ [Token.word .star] ++ clause .fromKw (parenthesized (q.selectHead ++
    projection.tokens ++ plain ++ clause .groupBy (Grouping.tokens q.scope grouped))) ++
    [Token.word .space, .ident groupedTable] ++ ending, ?_, h.isGrouped, h.columns, h.projected, h.split, h.table,
    plain, top, orders, ending, hplain, htop, horders, hending, rfl⟩
  rw [htokens]
  simpa only [List.nil_append, List.append_nil] using hall

end Query

/-! ## Writes -/

section Writes

variable {e : Entity} {as : List Assignment} {condition : List Token}

theorem bare_insertion (h : Assignment.Placed as) :
    Bare (e.insertion as) [.written e.tableName 0] := by
  have hvalues := (body_placeholders h).parenthesized.quiet
  exact (bare_insertHead e (Assignment.members as)).append (Hinted.leading (w := .values) rfl (by decide) hvalues)

theorem bare_updating (h : Assignment.Placed as) (hcondition : Quiet condition) :
    Bare (e.updating as condition) [.written e.tableName 0] :=
  ((bare_update e).append (Hinted.clause (w := .set) rfl (by decide) (body_setItems h).quiet)).append
    (Hinted.clause (w := .whereKw) rfl (by decide) hcondition)

/-- The table whose rows are not to meet a condition is read. -/
theorem hinted_absenceClause (e : Entity) (qualifier : Option String) (dirtyRead : Bool)
    (hcondition : Quiet condition) :
    Hinted (e.absenceClause (qualifierTokens qualifier) dirtyRead condition)
      (e.absenceClause (qualifierTokens qualifier) false condition)
      [.source e.tableName qualifier dirtyRead.toNat] := by
  have hnumber : Bare (spaced .select ++ [Token.int 1]) [] :=
    Hinted.leading rfl (by decide) (quiet_of_all rfl)
  have htable := (hinted_table (w := .fromKw) (Or.inl rfl) none e.schema e.tableName qualifier dirtyRead).space
  have hwhere := Hinted.clause (w := .whereKw) rfl (by decide) hcondition
  have hquery := ((hnumber.append htable).append hwhere).parenthesized
  have htest : Bare (clause .whereKw (spaced .not ++ spaced .exists)) [] :=
    Hinted.clause rfl (by decide) (quiet_of_all rfl)
  have hall := htest.append hquery
  simp only [Entity.absenceClause, clause, Entity.reference, hint_false, List.append_assoc, List.nil_append,
    List.cons_append, List.append_nil] at hall ⊢
  exact hall

variable {g : Generator} {c : Command}

theorem bare_insert {item : Row} (h : g.insert e item = .ok c) :
    Bare c.tokens [.written e.tableName 0] := by
  obtain ⟨as, ps, has, rfl⟩ := insert_eq_ok.1 h
  exact bare_insertion (assigned_of_ofItem has).2.2

theorem bare_insertOutput {item : Row} (h : g.insertOutput e item = .ok c) :
    Bare c.tokens [.written e.tableName 0] := by
  obtain ⟨as, ps, has, rfl⟩ := insertOutput_eq_ok.1 h
  have houtput := quiet_append.2 ⟨(body_outputTokens e).quiet, quiet_space⟩
  have hplaced := (body_placeholders (assigned_of_ofItem has).2.2).parenthesized.quiet
  have hall := ((bare_insertHead e (Assignment.members as)).append
    (Hinted.leading (w := .output) rfl (by decide) houtput)).append
    (Hinted.leading (w := .values) rfl (by decide) hplaced)
  simpa only [Entity.valuesClause, spaced, List.append_assoc, List.nil_append, List.cons_append,
    List.append_nil] using hall

theorem bare_insertTemplate {template : Row} {caches : Caches}
    (h : (g.insertTemplate e template caches).1 = .ok c) :
    Bare c.tokens [.written e.tableName 0] := by
  obtain ⟨as, ps, has, rfl⟩ := insertTemplate_eq_ok h
  exact bare_insertion (assigned_of_ofValues has).2.2

theorem bare_write {values : Row} {filter : Expr} (h : g.update e values filter = .ok c) :
    Bare c.tokens [.written e.tableName 0] := by
  obtain ⟨as, condition, ps₁, ps, has, hcondition, rfl⟩ := update_eq_ok.1 h
  exact bare_updating (assigned_of_ofValues has).2.2 (Condition.body_ofExpr hcondition).quiet

/-- An upsert writes the same table in both of its statements. -/
theorem bare_upsert {values : Row} {filter : Expr} (h : g.upsert e values filter = .ok c) :
    Bare c.tokens [.written e.tableName 0, .ending, .written e.tableName 0] := by
  obtain ⟨as, condition, ps₁, ps, has, hcondition, rfl⟩ := upsert_eq_ok.1 h
  have hplaced := (assigned_of_ofValues has).2.2
  have htest : Bare (clause .ifKw ([Token.word .rowCount, .word .space] ++ spaced .eq ++
      [Token.int 0, .word .space])) [] := Hinted.clause rfl (by decide) (quiet_of_all rfl)
  have hall := (bare_updating (e := e) hplaced (Condition.body_ofExpr hcondition).quiet).append
    (bare_ending.append (htest.append (bare_insertion (e := e) hplaced)))
  simpa only [Entity.otherwise, clause, List.append_assoc, List.nil_append, List.cons_append] using hall

theorem bare_delete {filter : Expr} (h : g.delete e filter = .ok c) :
    Bare c.tokens [.deletion, .source e.tableName none 0] := by
  obtain ⟨condition, ps, hcondition, rfl⟩ := delete_eq_ok.1 h
  have htable := bare_table (w := .fromKw) (Or.inl rfl) none e.schema e.tableName none
  have hall := (bare_deletion.append htable).append
    (Hinted.clause (w := .whereKw) rfl (by decide) (Condition.body_ofExpr hcondition).quiet)
  simpa only [Entity.reference, qualifierTokens, List.append_assoc, List.nil_append, List.cons_append] using hall

/-- The shipped rows are under their alias. -/
theorem bare_rowsSource {w : Word} (hw : w = .fromKw ∨ w = .join) (rows : TableParameter) :
    Bare (spaced w ++ rows.source) [.shipped rows.name (some shippedAlias) 0] := by
  have h := bare_shipped hw rows (some shippedAlias)
  rwa [List.append_assoc] at h

theorem name_ofRows {members : List Member} {items : List Row} {rows : TableParameter}
    (h : TableParameter.ofRows e members items = .ok rows) : rows.name = e.name ++ "Rows" := by
  obtain ⟨typeName, -, h⟩ := bind_eq_ok.1 h
  split at h
  · cases h
  · cases h
    rfl

theorem bare_bulkInsert {items : List Row} (h : g.bulkInsert e items = .ok c) :
    Bare c.tokens [.written e.tableName 0, .shipped (e.name ++ "Rows") none 0] := by
  obtain ⟨rows, hrows, rfl⟩ := bulkInsert_eq_ok.1 h
  have hcolumns := (body_columnList none e.insertable).quiet
  have hall := ((bare_insertHead e e.insertable).append (Hinted.leading (w := .select) rfl (by decide) hcolumns)).append
    (bare_shipped (w := .fromKw) (Or.inl rfl) rows none).space
  rw [← name_ofRows hrows]
  simpa only [clause, spaced, qualifierTokens, List.append_assoc, List.nil_append, List.cons_append,
    List.append_nil] using hall

/-- A bulk update reads no table of the database: the one behind FROM is the one it writes. -/
theorem bare_bulkUpdating {rows : TableParameter} {matched : List Member} {ts : List Token}
    (h : e.bulkUpdating rows matched = .ok ts) :
    Bare ts [.target e.bulkAlias, .source e.tableName (some e.bulkAlias) 0,
      .shipped rows.name (some shippedAlias) 0] := by
  rw [Entity.bulkUpdating] at h
  split at h
  · cases h
  · cases h
    have hassigned := (Body.separated_map (body_equalsShipped e.bulkAlias) (e.bulkAssigned matched)).quiet
    have htable := (bare_table (w := .fromKw) (Or.inl rfl) none e.schema e.tableName (some e.bulkAlias)).space
    have hinner : Bare ([Token.word .space] ++ spaced .inner) [] :=
      (Hinted.quiet (w := .inner) rfl (by decide) quiet_space).space
    have hon := Hinted.clause (w := .on) rfl (by decide) (body_allEqualShipped e.bulkAlias matched).quiet
    have hall := (((((bare_target (Or.inl rfl) e.bulkAlias).append
      (Hinted.clause (w := .set) rfl (by decide) hassigned)).append htable).append hinner).append
      (bare_rowsSource (w := .join) (Or.inr rfl) rows)).append hon
    simpa only [Entity.reference, clause, qualifierTokens, List.append_assoc, List.nil_append,
      List.cons_append] using hall

theorem hinted_bulkInserting (e : Entity) (rows : TableParameter) (matched : List Member) (dirtyRead : Bool) :
    Hinted (e.bulkInserting rows matched dirtyRead) (e.bulkInserting rows matched false)
      [.written e.tableName 0, .shipped rows.name (some shippedAlias) 0,
        .source e.tableName (some e.bulkAlias) dirtyRead.toNat] := by
  have hcolumns := (body_columnList (some shippedAlias) e.insertable).quiet
  have hall := (((bare_insertHead e e.insertable).append
    (Hinted.leading (w := .select) rfl (by decide) hcolumns)).append
    (bare_rowsSource (w := .fromKw) (Or.inl rfl) rows).space).append
    (hinted_absenceClause e (some e.bulkAlias) dirtyRead (body_allEqualShipped e.bulkAlias matched).quiet)
  simp only [Entity.bulkInserting, clause, spaced, qualifierTokens, List.append_assoc, List.nil_append,
    List.cons_append, List.append_nil] at hall ⊢
  exact hall

/-- An insertion unless there is a row reads the table that it writes. -/
theorem hinted_insertIfAbsent {item : Row} {absentWhen : Expr} {setting : Bool}
    (h : g.insertIfAbsent e item absentWhen = .ok c) (hoff : setting = false) : ∃ plain,
    Hinted c.tokens plain [.written e.tableName 0, .source e.tableName none g.dirtyRead.toNat] ∧
      ({ g with dirtyRead := setting } : Generator).insertIfAbsent e item absentWhen =
        .ok { c with tokens := plain } := by
  obtain ⟨as, condition, ps₁, ps, has, hcondition, rfl⟩ := insertIfAbsent_eq_ok.1 h
  have hvalues := (body_placeholders (assigned_of_ofItem has).2.2).quiet
  have hall := ((bare_insertHead e (Assignment.members as)).append
    (Hinted.leading (w := .select) rfl (by decide) hvalues)).append
    (hinted_absenceClause e none g.dirtyRead (Condition.body_ofExpr hcondition).quiet)
  subst hoff
  refine ⟨_, ?_, insertIfAbsent_eq_ok.2 ⟨as, condition, ps₁, ps, has, hcondition, rfl⟩⟩
  simpa only [spaced, qualifierTokens, List.append_assoc, List.nil_append, List.cons_append] using hall

/-- A deletion with joins reads the joined tables. -/
theorem hinted_deleteJoined {joins : List Join} {filter : Expr} {setting : Bool} (hjoins : joins ≠ [])
    (h : g.deleteJoined e joins filter = .ok c) (hoff : setting = false) : ∃ plain,
    Hinted c.tokens plain (.target (Alias.ofName e.name 0) ::
        .source e.tableName (some (Alias.ofName e.name 0)) 0 ::
        (Join.scope e joins).sources 1 (joins.map (·.entity)) g.dirtyRead) ∧
      ({ g with dirtyRead := setting } : Generator).deleteJoined e joins filter =
        .ok { c with tokens := plain } := by
  obtain ⟨hcheck, clauses, condition, ps, ps₁, hclauses, hcondition, rfl⟩ := (deleteJoined_eq_ok hjoins).1 h
  obtain ⟨plain, hhinted, hplain⟩ := hinted_clauses hclauses
  have htable := (bare_table (w := .fromKw) (Or.inl rfl) none e.schema e.tableName
    (some (Alias.ofName e.name 0))).space
  have hall := (((bare_target (w := .delete) (Or.inr rfl) (Alias.ofName e.name 0)).append htable).append
    hhinted).append (Hinted.clause (w := .whereKw) rfl (by decide) (Condition.body_ofExpr hcondition).quiet)
  subst hoff
  refine ⟨Generator.deletionTokens e plain condition.tokens, ?_,
    (deleteJoined_eq_ok hjoins).2 ⟨hcheck, plain, condition, ps, ps₁, hplain, hcondition, rfl⟩⟩
  simpa only [Generator.deletionTokens, clause, spaced, Entity.reference, qualifierTokens, List.append_assoc,
    List.nil_append, List.cons_append, List.append_nil] using hall

theorem bare_bulkUpdate {items : List Row} {template : Expr} (h : g.bulkUpdate e items template = .ok c) :
    Bare c.tokens [.target e.bulkAlias, .source e.tableName (some e.bulkAlias) 0,
      .shipped (e.name ++ "Rows") (some shippedAlias) 0] := by
  obtain ⟨matched, rows, ts, -, hrows, hts, rfl⟩ := bulkUpdate_eq_ok.1 h
  rw [← name_ofRows hrows]
  exact bare_bulkUpdating hts

/-- A bulk upsert writes its table twice, and reads it once to find the rows that are there. -/
theorem hinted_bulkUpsert {items : List Row} {template : Expr} {setting : Bool}
    (h : g.bulkUpsert e items template = .ok c) (hoff : setting = false) : ∃ plain,
    Hinted c.tokens plain [.target e.bulkAlias, .source e.tableName (some e.bulkAlias) 0,
        .shipped (e.name ++ "Rows") (some shippedAlias) 0, .ending, .written e.tableName 0,
        .shipped (e.name ++ "Rows") (some shippedAlias) 0,
        .source e.tableName (some e.bulkAlias) g.dirtyRead.toNat] ∧
      ({ g with dirtyRead := setting } : Generator).bulkUpsert e items template =
        .ok { c with tokens := plain } := by
  obtain ⟨matched, rows, updating, hmatched, hrows, hupdating, rfl⟩ := bulkUpsert_eq_ok.1 h
  subst hoff
  -- the alias that the update wrote is the target no more once its statement has ended
  have hall := (bare_bulkUpdating hupdating).append
    (bare_ending.append (hinted_bulkInserting e rows matched g.dirtyRead).space)
  refine ⟨_, ?_, bulkUpsert_eq_ok.2 ⟨matched, rows, updating, hmatched, hrows, hupdating, rfl⟩⟩
  rw [← name_ofRows hrows]
  simpa only [List.append_assoc, List.nil_append, List.cons_append] using hall

end Writes

/-! ## Operations -/

namespace TableUse

/-- The table with the hint that it is to have: one if it is read and uncommitted rows may be seen. -/
def hinted (dirtyRead : Bool) (u : TableUse) : TableUse :=
  { u with hints := if u.role = .read then dirtyRead.toNat else 0 }

/-- A declared table that is read. -/
def ofRead (declared : String × String) : TableUse := ⟨.read, declared.1, some declared.2, 0⟩

end TableUse

/-- The table of an entity, when it is written. -/
def Entity.written (e : Entity) (qualifier : Option String) : TableUse := ⟨.written, e.tableName, qualifier, 0⟩

/-- The rows that are shipped for an entity. -/
def Entity.shipped (e : Entity) (qualifier : Option String) : TableUse := ⟨.shipped, e.name ++ "Rows", qualifier, 0⟩

namespace Operation

/-- The tables of an operation, and what is done with them. -/
def tables : Operation → List TableUse
  | .select q => (declarations q.entities).map .ofRead
  | .insert e _ => [e.written none]
  | .insertOutput e _ => [e.written none]
  | .insertMany e _ => [e.written none]
  | .insertIfAbsent e _ _ => [e.written none, ⟨.read, e.tableName, none, 0⟩]
  | .insertTemplate e _ => [e.written none]
  | .update e _ _ => [e.written none]
  | .upsert e _ _ => [e.written none, e.written none]
  | .delete e _ => [e.written none]
  | .deleteJoined e [] _ => [e.written none]
  | .deleteJoined e joins _ =>
    e.written (some (Alias.ofName e.name 0)) :: (declarations (Join.entities e joins)).tail.map .ofRead
  | .bulkInsert e _ => [e.written none, e.shipped none]
  | .bulkUpdate e _ _ => [e.written (some e.bulkAlias), e.shipped (some shippedAlias)]
  | .bulkUpsert e _ _ => [e.written (some e.bulkAlias), e.shipped (some shippedAlias), e.written none,
      e.shipped (some shippedAlias), ⟨.read, e.tableName, some e.bulkAlias, 0⟩]

/-- May an operation see uncommitted rows? A query may decide that itself. -/
def readsDirty (g : Generator) : Operation → Bool
  | .select q => q.dirtyRead.getD g.dirtyRead
  | _ => g.dirtyRead

/-- The operation with what a query decides itself replaced. -/
def deciding (own : Option Bool) : Operation → Operation
  | .select q => .select { q with dirtyRead := own }
  | op => op

end Operation

/-- The command without its hints. -/
def Command.unhinted (c : Command) : Command := { c with tokens := Tokens.unhinted c.tokens }

/-- Is there a hint behind each table that is read, and none elsewhere? -/
structure Command.Reads (c : Command) (dirtyRead : Bool) (tables : List TableUse) : Prop where
  uses_eq : uses c.tokens = tables.map (TableUse.hinted dirtyRead)
  count_eq : c.tokens.count (.word .noLock) = ((uses c.tokens).map TableUse.hints).sum

/-- Declared tables are read when none of them is the target. -/
theorem usesOf_under_sources {target : String} {declared : List (String × String)} (dirtyRead : Bool)
    (h : target ∉ declared.map (·.2)) :
    usesOf (.under target) (declared.map fun t => .source t.1 (some t.2) dirtyRead.toNat) =
      (declared.map TableUse.ofRead).map (TableUse.hinted dirtyRead) := by
  induction declared with
  | nil => rfl
  | cons t declared ih =>
    rw [List.map_cons, List.mem_cons, not_or] at h
    rw [List.map_cons, usesOf, ih h.2, if_neg fun heq => h.1 (Option.some.inj heq).symm]
    rfl

/-- Without a target they are read anyway. -/
theorem usesOf_none_sources (dirtyRead : Bool) (declared : List (String × String)) :
    usesOf .none (declared.map fun t => .source t.1 (some t.2) dirtyRead.toNat) =
      (declared.map TableUse.ofRead).map (TableUse.hinted dirtyRead) := by
  induction declared with
  | nil => rfl
  | cons t declared ih =>
    rw [List.map_cons, usesOf, ih]
    rfl

/-- The tables of a scope go under the aliases of their positions. -/
theorem sources_eq (entities : List Entity) (dirtyRead : Bool) :
    (Scope.mk entities (some (Alias.ofEntities entities))).sources 0 entities dirtyRead =
      (declarations entities).map fun t => .source t.1 (some t.2) dirtyRead.toNat := by
  refine List.ext_getElem? fun position => ?_
  rw [Scope.sources, declarations, List.getElem?_map, List.getElem?_mapIdx, List.getElem?_mapIdx, Nat.zero_add]
  cases hentity : entities[position]? with
  | none => rfl
  | some e =>
    rw [Option.map_some, alias?_eq_some rfl hentity]
    rfl

theorem declarations_entities (e : Entity) (joins : List Join) :
    declarations (Join.entities e joins) =
      (e.tableName, Alias.ofName e.name 0) :: (declarations (Join.entities e joins)).tail := by
  rw [Join.entities, declarations, List.mapIdx_cons]
  rfl

/-- The same of the tables behind the root. -/
theorem sources_joined (e : Entity) (joins : List Join) (dirtyRead : Bool) :
    (Join.scope e joins).sources 1 (joins.map (·.entity)) dirtyRead =
      (declarations (Join.entities e joins)).tail.map fun t => .source t.1 (some t.2) dirtyRead.toNat := by
  have hall := congrArg List.tail (sources_eq (Join.entities e joins) dirtyRead)
  rw [List.map_tail, ← hall]
  conv_rhs => rw [Join.entities]
  rw [sources_cons]
  rfl

/-! ## Commands -/

section Commands

variable {made plain : Except Error Command} {c : Command} {cs : List Command} {ts : List Token}
  {ms : List TableMention} {dirtyRead : Bool} {tables : List TableUse}

/-- A command that mentions its tables has their hints, and without them it is the other one. -/
theorem Tokens.Hinted.shows (h : Hinted c.tokens ts ms) (hplain : plain = .ok { c with tokens := ts })
    (huses : usesOf .none ms = tables.map (TableUse.hinted dirtyRead)) :
    c.Reads dirtyRead tables ∧ plain = .ok c.unhinted := by
  refine ⟨⟨h.uses_eq.trans huses, h.count_noLock⟩, ?_⟩
  rw [hplain, Command.unhinted, h.plain_eq]

theorem shows_of_single (hmade : ∀ {c}, made = .ok c → c.Reads dirtyRead tables ∧ plain = .ok c.unhinted)
    (h : made.map ([·]) = .ok cs) :
    (∀ c ∈ cs, c.Reads dirtyRead tables) ∧ plain.map ([·]) = .ok (cs.map Command.unhinted) := by
  obtain ⟨c, hc, rfl⟩ := map_eq_ok.1 h
  obtain ⟨hreads, hplain⟩ := hmade hc
  exact ⟨List.forall_mem_singleton.2 hreads, map_eq_ok.2 ⟨_, hplain, rfl⟩⟩

end Commands

section Perform

variable {g : Generator} {caches : Caches} {op : Operation} {cs : List Command} {c : Command}
  {own : Option Bool} {setting : Bool}

theorem shows_select {q : Query} (h : g.select q = .ok c) (hoff : own.getD setting = false) :
    c.Reads (q.dirtyRead.getD g.dirtyRead) (Operation.select q).tables ∧
      ({ g with dirtyRead := setting } : Generator).select { q with dirtyRead := own } = .ok c.unhinted := by
  have huses := usesOf_none_sources (q.dirtyRead.getD g.dirtyRead) (declarations q.entities)
  rw [← sources_eq] at huses
  rcases select_eq_ok.1 h with ⟨list, hmakes⟩ | ⟨grouped, projection, hmakes⟩
  · obtain ⟨plain, hhinted, hplain⟩ := hmakes.hinted hoff
    exact hhinted.shows (select_eq_ok.2 (Or.inl ⟨list, hplain⟩)) huses
  · obtain ⟨plain, hhinted, hplain⟩ := hmakes.hinted hoff
    exact hhinted.shows (select_eq_ok.2 (Or.inr ⟨grouped, projection, hplain⟩)) huses

/-- The root of a deletion is under the alias behind DELETE, which no joined table has. -/
theorem shows_deleteJoined {e : Entity} {joins : List Join} {filter : Expr}
    (h : g.deleteJoined e joins filter = .ok c) (hoff : setting = false) :
    c.Reads g.dirtyRead (Operation.deleteJoined e joins filter).tables ∧
      ({ g with dirtyRead := setting } : Generator).deleteJoined e joins filter = .ok c.unhinted := by
  rcases eq_or_ne joins [] with rfl | hjoins
  · exact (bare_delete h).shows h rfl
  · obtain ⟨plain, hhinted, hplain⟩ := hinted_deleteJoined hjoins h hoff
    -- a joined table under the alias of the root would count as written
    have hdistinct := nodup_declarations e ((deleteJoined_eq_ok hjoins).1 h).1
    rw [declarations_entities, List.map_cons, List.nodup_cons] at hdistinct
    have huses := usesOf_under_sources g.dirtyRead hdistinct.1
    rw [← sources_joined] at huses
    have htables : (Operation.deleteJoined e joins filter).tables = e.written (some (Alias.ofName e.name 0)) ::
        (declarations (Join.entities e joins)).tail.map TableUse.ofRead := by
      rw [Operation.tables]
      exact hjoins
    refine hhinted.shows hplain ?_
    rw [usesOf, usesOf, if_pos rfl, huses, htables]
    rfl

theorem shows_bulkUpdate {e : Entity} {items : List Row} {template : Expr}
    (h : g.bulkUpdate e items template = .ok c) :
    c.Reads g.dirtyRead (Operation.bulkUpdate e items template).tables ∧
      ({ g with dirtyRead := setting } : Generator).bulkUpdate e items template = .ok c.unhinted := by
  refine (bare_bulkUpdate h).shows h ?_
  rw [usesOf, usesOf, if_pos rfl]
  rfl

theorem shows_bulkUpsert {e : Entity} {items : List Row} {template : Expr}
    (h : g.bulkUpsert e items template = .ok c) (hoff : setting = false) :
    c.Reads g.dirtyRead (Operation.bulkUpsert e items template).tables ∧
      ({ g with dirtyRead := setting } : Generator).bulkUpsert e items template = .ok c.unhinted := by
  obtain ⟨plain, hhinted, hplain⟩ := hinted_bulkUpsert h hoff
  refine hhinted.shows hplain ?_
  rw [usesOf, usesOf, if_pos rfl]
  rfl

/-- Each item of several is inserted without a hint. -/
theorem shows_insertMany {e : Entity} {items : List Row} (h : g.insertMany e items = .ok cs) :
    (∀ c ∈ cs, c.Reads g.dirtyRead (Operation.insertMany e items).tables) ∧
      ({ g with dirtyRead := setting } : Generator).insertMany e items = .ok (cs.map Command.unhinted) := by
  have hinsert : ∀ c ∈ cs, c.Reads g.dirtyRead (Operation.insertMany e items).tables ∧
      Except.ok c = (.ok c.unhinted : Except Error Command) := by
    intro c hc
    obtain ⟨item, -, hitem⟩ := exists_of_mem_mapM h hc
    exact (bare_insert hitem).shows rfl rfl
  have hsame : cs.map Command.unhinted = cs.map id :=
    List.map_congr_left fun c hc => (Except.ok.inj (hinsert c hc).2).symm
  rw [hsame, List.map_id]
  exact ⟨fun c hc => (hinsert c hc).1, h⟩

theorem perform_shows (h : g.perform caches op = .ok cs)
    (hoff : (op.deciding own).readsDirty { g with dirtyRead := setting } = false) :
    (∀ c ∈ cs, c.Reads (op.readsDirty g) op.tables) ∧
      ({ g with dirtyRead := setting } : Generator).perform caches (op.deciding own) =
        .ok (cs.map Command.unhinted) := by
  cases op with
  | select q => exact shows_of_single (fun hc => shows_select hc hoff) h
  | insert e item => exact shows_of_single (fun hc => (bare_insert hc).shows hc rfl) h
  | insertOutput e item => exact shows_of_single (fun hc => (bare_insertOutput hc).shows hc rfl) h
  | insertMany e items => exact shows_insertMany h
  | insertIfAbsent e item absentWhen =>
    refine shows_of_single (fun hc => ?_) h
    obtain ⟨plain, hhinted, hplain⟩ := hinted_insertIfAbsent hc hoff
    exact hhinted.shows hplain rfl
  | insertTemplate e template => exact shows_of_single (fun hc => (bare_insertTemplate hc).shows hc rfl) h
  | update e values filter => exact shows_of_single (fun hc => (bare_write hc).shows hc rfl) h
  | upsert e values filter => exact shows_of_single (fun hc => (bare_upsert hc).shows hc rfl) h
  | delete e filter => exact shows_of_single (fun hc => (bare_delete hc).shows hc rfl) h
  | deleteJoined e joins filter => exact shows_of_single (fun hc => shows_deleteJoined hc hoff) h
  | bulkInsert e items => exact shows_of_single (fun hc => (bare_bulkInsert hc).shows hc rfl) h
  | bulkUpdate e items template => exact shows_of_single shows_bulkUpdate h
  | bulkUpsert e items template => exact shows_of_single (fun hc => shows_bulkUpsert hc hoff) h

end Perform

/-- Without uncommitted rows there is no hint. -/
theorem Command.Reads.notMem {c : Command} {tables : List TableUse} (h : c.Reads false tables) :
    Token.word .noLock ∉ c.tokens := by
  rw [← List.count_eq_zero, h.count_eq, h.uses_eq, List.sum_eq_zero_iff_forall_eq_nat]
  intro n hn
  obtain ⟨u, hu, rfl⟩ := List.mem_map.1 hn
  obtain ⟨v, -, rfl⟩ := List.mem_map.1 hu
  exact ite_self 0

/-- An operation has all its commands. Each table that it reads has one hint behind it if uncommitted rows may be
seen, and there are no other hints. Without its hints each command is the one that is made when the generator, or
the query, decides that they may not be seen. -/
theorem perform_hints {g : Generator} {caches : Caches} {op : Operation} {cs : List Command}
    (h : g.perform caches op = .ok cs) :
    cs.length = op.commandCount ∧
    (∀ c ∈ cs, uses c.tokens = op.tables.map (TableUse.hinted (op.readsDirty g)) ∧
      c.tokens.count (.word .noLock) = ((uses c.tokens).map TableUse.hints).sum ∧
      (op.readsDirty g = false → .word .noLock ∉ c.tokens)) ∧
    ∀ own setting, (op.deciding own).readsDirty { g with dirtyRead := setting } = false →
      ({ g with dirtyRead := setting } : Generator).perform caches (op.deciding own) =
        .ok (cs.map Command.unhinted) := by
  have hoff : (op.deciding (some false)).readsDirty { g with dirtyRead := false } = false := by
    cases op <;> rfl
  refine ⟨length_perform h, fun c hc => ?_, fun own setting hflag => (perform_shows h hflag).2⟩
  have hreads := (perform_shows h hoff).1 c hc
  refine ⟨hreads.uses_eq, hreads.count_eq, fun hflag => ?_⟩
  rw [hflag] at hreads
  exact hreads.notMem

namespace Enrolment

/-- The removal of a club that has members. -/
def removal : Operation :=
  .deleteJoined club [clubMembers] (.compare (.member ⟨0, "Name"⟩) .eq (.value (.text "Chess")))

end Enrolment

open Enrolment in
theorem perform_hints_removal :
    ∃ c, ({ dirtyRead := true } : Generator).perform {} removal = .ok [c] ∧
      uses c.tokens = [⟨.written, "Club", some "clb1", 0⟩, ⟨.read, "Member", some "mmbr2", 1⟩] ∧
      c.tokens.count (.word .noLock) = 1 ∧ ({} : Generator).perform {} removal = .ok [c.unhinted] := by
  have hok : ∃ c, ({ dirtyRead := true } : Generator).perform {} removal = .ok [c] := ⟨_, rfl⟩
  obtain ⟨c, h⟩ := hok
  obtain ⟨-, huses, hplain⟩ := perform_hints h
  obtain ⟨htables, hcount, -⟩ := huses c (List.mem_singleton_self c)
  have hread : uses c.tokens = [⟨.written, "Club", some "clb1", 0⟩, ⟨.read, "Member", some "mmbr2", 1⟩] :=
    htables.trans (by decide)
  refine ⟨c, h, hread, ?_, hplain none false rfl⟩
  rw [hcount, hread]
  rfl

end Rowgraph
