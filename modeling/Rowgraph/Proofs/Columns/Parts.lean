import Rowgraph.Proofs.Agreement
import Rowgraph.Proofs.Columns.Sources
import Rowgraph.Proofs.Command.Made

/-!
# Columns in the parts of a query

A selection names the columns of its members table by table (`SelectList.mentions_ofPicks`), the aggregates
and the grouping columns those of theirs (`Grouping.mentions_project`, `Grouping.mentions_groupBy`), and an
ordering those that it orders by (`Query.mentions_memberOrders`). A grouped query is ordered by the names
that its columns were given (`Query.mentions_groupedOrders`).
-/

set_option autoImplicit false

namespace Rowgraph

/-! ## Members -/

/-- Members table by table, in the order in which they are given within a table. -/
def Scope.tableByTable (scope : Scope) (rs : List Resolved) : List Resolved :=
  (List.range scope.entities.length).flatMap fun position => rs.filter fun r => r.position == position

/-- All mapped members. -/
def Scope.mapped (scope : Scope) : List Resolved :=
  (scope.entities.mapIdx fun position e => e.mapped.map fun m => ⟨position, e, m⟩).flatten

/-- Are these the members that a selection gives? Without a selection all mapped members are. -/
inductive Scope.Selects (scope : Scope) : Option (List Pick) → List Resolved → Prop
  | all : Selects scope none (scope.tableByTable scope.mapped)
  | picked {picks : List Pick} {found : List Resolved}
      (finds : scope.Finds (picks.flatMap fun pick => pick.expr.columnRefs) found) :
      Selects scope (some picks) (scope.tableByTable found)

/-- A member that an expression is. -/
theorem columnRefs_of_member? {e : Expr} {ref : MemberRef} (h : e.member? = some ref) :
    e.columnRefs = [ref] := by
  cases e with
  | member ref' =>
    cases h
    rfl
  | _ => cases h

/-- Members that expressions are, one for each. -/
theorem finds_of_forall₂ {α : Type} {scope : Scope} (expr : α → Expr) {as : List α}
    {rs : List Resolved}
    (h : List.Forall₂ (fun a r => ∃ ref, (expr a).member? = some ref ∧ scope.resolve ref = .ok r)
      as rs) : scope.Finds (as.flatMap fun a => (expr a).columnRefs) rs := by
  induction h with
  | nil => exact .nil
  | cons hr _ ih =>
    obtain ⟨ref, hmember, hresolve⟩ := hr
    rw [List.flatMap_cons, columnRefs_of_member? hmember]
    exact .cons hresolve ih

variable {scope : Scope}

theorem mem_mapped_iff {r : Resolved} :
    r ∈ scope.mapped ↔ scope.entities[r.position]? = some r.entity ∧ r.member ∈ r.entity.mapped := by
  rw [Scope.mapped, List.mem_flatten]
  constructor
  · rintro ⟨block, hblock, hr⟩
    obtain ⟨position, hposition, rfl⟩ := List.mem_mapIdx.1 hblock
    obtain ⟨m, hm, rfl⟩ := List.mem_map.1 hr
    exact ⟨List.getElem?_eq_getElem hposition, hm⟩
  · rintro ⟨hentity, hmember⟩
    obtain ⟨hposition, hget⟩ := List.getElem?_eq_some_iff.1 hentity
    refine ⟨_, List.mem_mapIdx.2 ⟨r.position, hposition, rfl⟩, ?_⟩
    rw [hget]
    exact List.mem_map.2 ⟨r.member, hmember, rfl⟩

/-- Parts that name the columns of their members name, put in a list, the columns of them all. -/
theorem mentions_each {clause : Clause} {α : Type} {refs : α → List MemberRef} {as : List α}
    {parts : List (List Token)}
    (h : List.Forall₂ (fun a ts => ∃ rs, scope.Finds (refs a) rs ∧
      Mentions clause ts (rs.map (scope.named clause))) as parts) :
    ∃ rs, scope.Finds (as.flatMap refs) rs ∧
      Mentions clause (Tokens.separated parts) (rs.map (scope.named clause)) := by
  induction h with
  | nil => exact ⟨[], .nil, .nil⟩
  | cons hpart _ ih =>
    obtain ⟨rs, hfinds, hmentions⟩ := hpart
    obtain ⟨others, hothers, hrest⟩ := ih
    refine ⟨rs ++ others, ?_, ?_⟩
    · rw [List.flatMap_cons]
      exact hfinds.append hothers
    · rw [List.map_append]
      exact hmentions.separated_cons hrest

/-! ## What a query puts out -/

namespace SelectList

theorem pickColumn_eq_ok {pick : Pick} {c : SelectedColumn} (h : pickColumn scope pick = .ok c) :
    ∃ ref, pick.expr.member? = some ref ∧ scope.resolve ref = .ok c.source := by
  rw [pickColumn] at h
  split at h
  · cases h
  · next ref href =>
    obtain ⟨r, hr, hpure⟩ := bind_eq_ok.1 h
    cases hpure
    exact ⟨ref, href, hr⟩

theorem source_grouped (columns : List SelectedColumn) :
    (grouped scope columns).map (·.source) = scope.tableByTable (columns.map (·.source)) := by
  rw [grouped, Scope.tableByTable, List.map_flatMap]
  simp only [List.filter_map, Function.comp_def]

theorem allColumns_eq : allColumns scope = scope.mapped.map fun r => ⟨r, r.member.name⟩ := by
  rw [allColumns, Scope.mapped, List.map_flatten]
  congr 1
  refine List.ext_getElem? fun position => ?_
  simp [List.getElem?_mapIdx, Function.comp_def]

theorem source_allColumns : (allColumns scope).map (·.source) = scope.mapped := by
  rw [allColumns_eq, List.map_map]
  exact List.map_id' _

/-- A name that a column is selected under is no column. -/
theorem mentions_tokens (c : SelectedColumn) :
    Mentions .select (c.tokens scope) [scope.named .select c.source] := by
  have hcolumn : Mentions .select (scope.column c.source) [scope.named .select c.source] :=
    mentions_column (by simp) c.source
  rw [SelectedColumn.tokens]
  split
  · rwa [List.append_nil]
  · exact hcolumn.append (Mentions.naming (by simp) c.output)

/-- A selection names the columns of its members. -/
theorem mentions_ofPicks {picks : Option (List Pick)} {list : SelectList}
    (h : ofPicks scope picks = .ok list) : ∃ rs, scope.Selects picks rs ∧
      Mentions .select list.tokens (rs.map (scope.named .select)) := by
  rw [ofPicks, bind_eq_ok] at h
  obtain ⟨columns, hcolumns, h⟩ := h
  obtain ⟨points, -, hpure⟩ := bind_eq_ok.1 h
  cases hpure
  refine ⟨scope.tableByTable (columns.map (·.source)), ?_, ?_⟩
  · cases picks with
    | none =>
      cases hcolumns
      rw [source_allColumns]
      exact .all
    | some picks =>
      cases picks with
      | nil => cases hcolumns
      | cons pick rest =>
        refine .picked (finds_of_forall₂ Pick.expr ?_)
        rw [List.forall₂_map_right_iff]
        exact (mapM_eq_ok_iff.1 hcolumns).imp fun _ _ hpick => pickColumn_eq_ok hpick
  · rw [← source_grouped, List.map_map]
    exact mentions_list _ fun c _ => mentions_tokens c

end SelectList

namespace Grouping

theorem finds_of_columns {es : List Expr} {rs : List Resolved} (h : columns scope es = .ok rs) :
    scope.Finds (es.flatMap Expr.columnRefs) rs := by
  refine finds_of_forall₂ id ((mapM_eq_ok_iff.1 h).imp fun e r hr => ?_)
  rw [groupedMember] at hr
  split at hr
  · cases hr
  · next ref href => exact ⟨ref, href, hr⟩

theorem mentions_groupBy (rs : List Resolved) :
    Mentions .groupBy (tokens scope rs) (rs.map (scope.named .groupBy)) :=
  mentions_list rs fun r _ => mentions_column (by simp) r

theorem mentions_application {function : Aggregate} {arg : List Token} {cs : List NamedColumn}
    (h : Mentions .select arg cs) : Mentions .select (application function arg) cs := by
  have hparenthesized := h.parenthesized (by simp)
  exact Mentions.plain_append [.function function.functionName] rfl hparenthesized

theorem mentions_averaged {column : List Token} {cs : List NamedColumn}
    (h : Mentions .select column cs) : Mentions .select (averaged column) cs := by
  -- the type behind AS is no name
  have htype : Mentions .select ([Token.word .space] ++ Tokens.spaced .as ++
      [Token.type "decimal", .word .lparen, .int averagePrecision.1, .word .comma, .word .space,
        .int averagePrecision.2, .word .rparen, .word .rparen]) [] := by
    rintro ⟨_, joins, _, declared, columns⟩ rfl rfl
    rw [List.append_nil]
    rfl
  have hcast := (Mentions.plain_append [.word .cast, .word .lparen] rfl h).append htype
  rwa [List.append_nil, ← List.append_assoc, ← List.append_assoc] at hcast

/-- An aggregate names the column of its member, a grouping column its own. -/
theorem mentions_item {grouped : List Resolved} {e : Expr} {ts : List Token}
    {source : Option Resolved} (h : item scope grouped e = .ok (ts, source)) :
    ∃ rs, scope.Finds e.columnRefs rs ∧ Mentions .select ts (rs.map (scope.named .select)) := by
  cases e with
  | aggregate function arg =>
    obtain ⟨ts', haggregate, hpure⟩ := bind_eq_ok.1 h
    cases hpure
    rw [aggregate] at haggregate
    split at haggregate
    · cases haggregate
    · next ref href =>
      obtain ⟨r, hr, hpure⟩ := bind_eq_ok.1 haggregate
      cases hpure
      have hcolumn : Mentions .select (scope.column r) [scope.named .select r] :=
        mentions_column (by simp) r
      refine ⟨[r], ?_, mentions_application ?_⟩
      · rw [Expr.columnRefs, columnRefs_of_member? href]
        exact .cons hr .nil
      · split
        · exact mentions_averaged hcolumn
        · exact hcolumn
  | aggregateRows function =>
    obtain ⟨ts', haggregate, hpure⟩ := bind_eq_ok.1 h
    cases hpure
    rw [aggregateRows] at haggregate
    split at haggregate
    · cases haggregate
      exact ⟨[], .nil, mentions_application (Mentions.plain rfl)⟩
    · cases haggregate
  | member ref =>
    obtain ⟨r, hr, hmember⟩ := bind_eq_ok.1 h
    split at hmember
    · cases hmember
      exact ⟨[r], .cons hr .nil, mentions_column (by simp) r⟩
    · cases hmember
  | _ => cases h

/-- What is taken from each group names the columns of its members; the names it gives are no columns. -/
theorem mentions_project {grouped : List Resolved} {items : List (String × Expr)}
    {projection : Projection} (h : project scope grouped items = .ok projection) :
    projection.columns.map (·.name) = items.map (·.1) ∧
      ∃ rs, scope.Finds (items.flatMap fun item => item.2.columnRefs) rs ∧
        Mentions .select projection.tokens (rs.map (scope.named .select)) := by
  rw [project] at h
  split at h
  · cases h
  · obtain ⟨columns, hcolumns, hpure⟩ := bind_eq_ok.1 h
    cases hpure
    -- of each item the name that it gives and the columns that it names
    have hall : List.Forall₂ (fun (i : String × Expr) (c : List Token × ProjectedColumn) =>
        i.1 = c.2.name ∧ ∃ rs, scope.Finds i.2.columnRefs rs ∧
          Mentions .select c.1 (rs.map (scope.named .select))) items columns := by
      refine (mapM_eq_ok_iff.1 hcolumns).imp fun i c hstep => ?_
      obtain ⟨name, e⟩ := i
      obtain ⟨⟨ts, source⟩, hitem, hpure⟩ := bind_eq_ok.1 hstep
      cases hpure
      obtain ⟨rs, hfinds, hmentions⟩ := mentions_item hitem
      refine ⟨rfl, rs, hfinds, ?_⟩
      have hnamed := hmentions.append (Mentions.naming (by simp) name)
      rwa [List.append_nil, ← List.append_assoc, ← List.append_assoc] at hnamed
    refine ⟨?_, mentions_each (List.forall₂_map_right_iff.2 (hall.imp fun _ _ hc => hc.2))⟩
    rw [List.map_map]
    exact (map_eq_of_forall₂ (hall.imp fun _ _ hc => hc.1)).symm

end Grouping

/-! ## The head and the end of a query -/

namespace Query

variable {q : Query}

/-- The head of a query leads into its columns. -/
theorem read_selectHead (q : Query) (r : Reading) :
    q.selectHead.foldl Reading.next r = r.enter .select := by
  rw [selectHead]
  split
  · rfl
  · rfl

theorem mentions_top {ts : List Token} (h : q.top = .ok ts) : Mentions .select ts [] := by
  rcases top_eq_ok h with rfl | ⟨n, rfl⟩
  · exact Mentions.nil
  · have hcounted : Mentions .select (Tokens.parenthesized [.int n]) [] :=
      (Mentions.token rfl).parenthesized (by simp)
    exact (Mentions.plain_append [.word .top] rfl hcounted).append_plain [.word .space] rfl

theorem mentions_ordered {column : List Token} {cs : List NamedColumn}
    (h : Mentions .orderBy column cs) (direction : Direction) :
    Mentions .orderBy (ordered column direction) cs := by
  refine h.append_plain _ ?_
  cases direction <;> rfl

/-- An ordering by members names their columns. -/
theorem mentions_memberOrders {items : List OrderItem} {orders : List (List Token)}
    (h : items.mapM (memberOrder scope) = .ok orders) :
    ∃ rs, scope.Finds (items.flatMap fun item => item.expr.columnRefs) rs ∧
      Mentions .orderBy (Tokens.separated orders) (rs.map (scope.named .orderBy)) := by
  refine mentions_each ((mapM_eq_ok_iff.1 h).imp fun item ts hitem => ?_)
  rw [memberOrder] at hitem
  split at hitem
  · cases hitem
  · next ref href =>
    obtain ⟨r, hr, hpure⟩ := bind_eq_ok.1 hitem
    cases hpure
    refine ⟨[r], ?_, mentions_ordered (mentions_column (by simp) r) _⟩
    rw [columnRefs_of_member? href]
    exact .cons hr .nil

/-- The name that an ordering of groups goes by is that of a projected column. -/
theorem mem_of_projectedName {columns : List ProjectedColumn} {e : Expr} {name : String}
    (h : projectedName scope columns e = .ok (some name)) : name ∈ columns.map (·.name) := by
  have hfound : ∀ found : Option ProjectedColumn, found.map (·.name) = some name →
      (∀ c, found = some c → c ∈ columns) → name ∈ columns.map (·.name) := by
    intro found hname hmem
    obtain ⟨c, hc, rfl⟩ := Option.map_eq_some_iff.1 hname
    exact List.mem_map_of_mem (hmem c hc)
  cases e with
  | output output => exact hfound _ (Except.ok.inj h) fun c hc => List.mem_of_find?_eq_some hc
  | member ref =>
    obtain ⟨r, -, hpure⟩ := bind_eq_ok.1 h
    exact hfound _ (Except.ok.inj hpure) fun c hc => List.mem_of_find?_eq_some hc
  | _ => cases h

/-- A grouped query is ordered by names that its columns were given. -/
theorem mentions_groupedOrders {items : List OrderItem} {columns : List ProjectedColumn}
    {orders : List (List Token)} (h : items.mapM (groupedOrder scope columns) = .ok orders) :
    ∃ names : List String, (∀ name ∈ names, name ∈ columns.map (·.name)) ∧
      Mentions .orderBy (Tokens.separated orders) (names.map (⟨.orderBy, none, ·⟩)) := by
  replace h := mapM_eq_ok_iff.1 h
  induction h with
  | nil => exact ⟨[], fun name hname => absurd hname List.not_mem_nil, .nil⟩
  | cons hitem _ ih =>
    obtain ⟨names, hnames, hrest⟩ := ih
    obtain ⟨found, hfound, hordered⟩ := bind_eq_ok.1 hitem
    cases found with
    | none => cases hordered
    | some name =>
      cases hordered
      have hname : Mentions .orderBy [.ident name] [⟨.orderBy, none, name⟩] := by
        rintro ⟨_, joins, _, declared, columns⟩ rfl rfl
        rfl
      exact ⟨name :: names, List.forall_mem_cons.2 ⟨mem_of_projectedName hfound, hnames⟩,
        (mentions_ordered hname _).separated_cons hrest⟩

theorem isPlain_fetch {ts : List Token} (h : q.fetch = .ok ts) : ts.all Token.isPlain = true := by
  rcases fetch_eq_ok h with rfl | ⟨n, rfl⟩
  · rfl
  · rfl

/-- The end of a query names the columns that it is ordered by. -/
theorem read_ending {orders : List (List Token)} {ts : List Token} {cs : List NamedColumn}
    (h : q.ending orders = .ok ts) (hmentions : Mentions .orderBy (Tokens.separated orders) cs)
    {r : Reading} (hpending : r.pending = .nothing) :
    ∃ clause, ts.foldl Reading.next r = { r with clause := clause, columns := r.columns ++ cs } := by
  obtain ⟨clause, joins, pending, declared, columns⟩ := r
  cases hpending
  rcases ending_eq_ok h with ⟨rfl, rfl⟩ | ⟨-, rfl⟩ | ⟨n, fetched, hfetched, rfl⟩
  · refine ⟨clause, ?_⟩
    rw [hmentions.eq_nil, List.append_nil]
    rfl
  · exact ⟨.orderBy, hmentions ⟨.orderBy, joins, .nothing, declared, columns⟩ rfl rfl⟩
  · have hplain : (offsetClause (.int n) ++ fetched).all Token.isPlain = true := by
      rw [List.all_append, isPlain_fetch hfetched]
      rfl
    rw [List.append_assoc]
    cases orders with
    | nil =>
      -- what is selected in place of an ordering is no column
      refine ⟨.select, ?_⟩
      rw [hmentions.eq_nil]
      exact Mentions.plain hplain ⟨.select, joins, .nothing, declared, columns⟩ rfl rfl
    | cons order rest =>
      refine ⟨.orderBy, ?_⟩
      exact hmentions.append_plain _ hplain ⟨.orderBy, joins, .nothing, declared, columns⟩ rfl rfl

end Query

end Rowgraph
