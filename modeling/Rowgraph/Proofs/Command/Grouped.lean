import Rowgraph.Proofs.Command.Paging

/-!
# Grouped queries

A grouped query selects everything from a derived table. The select list of that table is what the query
projects, in order and each item under its name: aggregates of members or of whole rows, and columns that it
groups by (`Query.Projects`). The ordering around it goes by names of that list, each the name of the first
item that is meant (`Query.Means`). A query that projects anything else, or is ordered by anything else, is
refused (`select_grouped`).
-/

set_option autoImplicit false

namespace Rowgraph

open Tokens

/-! ## What may be projected -/

namespace Query

/-- Does the query project this expression as this text? A member has to be grouped by. -/
inductive Projects (q : Query) : Expr → List Token → Prop
  | member {ref : MemberRef} {r : Resolved} (grouped : .member ref ∈ q.groupBy)
      (resolves : q.scope.resolve ref = .ok r) : Projects q (.member ref) (q.scope.column r)
  | aggregate (function : Aggregate) {ref : MemberRef} {r : Resolved}
      (resolves : q.scope.resolve ref = .ok r) :
      Projects q (.aggregate function (.member ref)) (Grouping.application function
        (if function = .avg then Grouping.averaged (q.scope.column r) else q.scope.column r))
  | rows : Projects q (.aggregateRows .count) (Grouping.application .count [.word .star])

/-- Are these the columns, each as text, that the query groups by? -/
def GroupsBy (q : Query) (columns : List (List Token)) : Prop :=
  List.Forall₂ (fun e column => ∃ ref r, e = .member ref ∧ q.scope.resolve ref = .ok r ∧
    column = marks (q.scope.column r)) q.groupBy columns

/-- Are these the items of a projection, each under its name? Those that are no aggregates are among the
columns. -/
def ProjectsAll (q : Query) (projection : List (String × Expr)) (columns items : List (List Token)) : Prop :=
  List.Forall₂ (fun projected item => ∃ ts, q.Projects projected.2 ts ∧
    (∀ ref, projected.2 = .member ref → marks ts ∈ columns) ∧
    item = marks ts ++ [.word .as, .ident projected.1]) projection items

/-- Does an ordering mean this projected item? It names it, or it is by the same member. -/
inductive Means : Expr → String × Expr → Prop
  | output (name : String) (e : Expr) : Means (.output name) (name, e)
  | member (name : String) (ref : MemberRef) : Means (.member ref) (name, .member ref)

/-- Is this the first item that an ordering means? -/
def IsFirstMeant (items : List (String × Expr)) (e : Expr) (item : String × Expr) : Prop :=
  ∃ before after, items = before ++ item :: after ∧ Means e item ∧ ∀ other ∈ before, ¬ Means e other

/-- Does each ordering go by the name of the first item that it means, in its direction? -/
def OrdersBy (q : Query) (projection : List (String × Expr)) (orders : List (List Token)) : Prop :=
  List.Forall₂ (fun o order => ∃ item, IsFirstMeant projection o.expr item ∧
    order = [.ident item.1, .word o.direction.word]) q.orderBy orders

end Query

/-- A member is found under one reference only. -/
theorem resolve_injective {scope : Scope} {ref ref' : MemberRef} {r : Resolved}
    (h : scope.resolve ref = .ok r) (h' : scope.resolve ref' = .ok r) : ref = ref' := by
  have hname : ∀ {ref}, scope.resolve ref = .ok r → r.member.name = ref.name := by
    intro ref h
    obtain ⟨-, -, hmember⟩ := resolve_eq_ok h
    rw [Entity.resolve] at hmember
    split at hmember
    · cases hmember
    · next m hfind =>
      split at hmember
      · cases hmember
      · cases hmember
        have hfound := List.find?_some (p := fun m : Member => m.name == ref.name) hfind
        exact eq_of_beq hfound
  cases ref
  cases ref'
  congr 1
  · exact (resolve_eq_ok h).1.symm.trans (resolve_eq_ok h').1
  · exact (hname h).symm.trans (hname h')

namespace Grouping

variable {scope : Scope} {grouped : List Resolved}

theorem groupedMember_eq_ok {e : Expr} {r : Resolved} (h : groupedMember scope e = .ok r) :
    ∃ ref, e = .member ref ∧ scope.resolve ref = .ok r := by
  cases e with
  | member ref => exact ⟨ref, rfl, h⟩
  | _ => cases h

/-- The grouping columns are the members that are grouped by. -/
theorem mem_columns_iff {exprs : List Expr} (h : columns scope exprs = .ok grouped) {ref : MemberRef}
    {r : Resolved} (hr : scope.resolve ref = .ok r) : r ∈ grouped ↔ .member ref ∈ exprs := by
  constructor
  · intro hmem
    obtain ⟨e, he, hgrouped⟩ := exists_of_mem_mapM h hmem
    obtain ⟨ref', rfl, hr'⟩ := groupedMember_eq_ok hgrouped
    rwa [resolve_injective hr hr']
  · intro hmem
    obtain ⟨r', hr', hgrouped⟩ := exists_of_forall₂ (mapM_eq_ok_iff.1 h) hmem
    have hsame : r = r' := Except.ok.inj (hr.symm.trans hgrouped)
    rwa [hsame]

/-- The grouping column that an expression passes on. -/
def passed? (scope : Scope) (e : Expr) : Option Resolved :=
  e.member?.bind fun ref => (scope.resolve ref).toOption

end Grouping

namespace Query

variable {q : Query} {grouped : List Resolved}

/-- An item that may be projected, and what it passes on. -/
theorem projects_of_item (h : Grouping.columns q.scope q.groupBy = .ok grouped) {e : Expr} {ts : List Token}
    {source : Option Resolved} (hitem : Grouping.item q.scope grouped e = .ok (ts, source)) :
    q.Projects e ts ∧ source = Grouping.passed? q.scope e := by
  cases e with
  | aggregate function arg =>
    obtain ⟨ts', haggregate, hpure⟩ := bind_eq_ok.1 hitem
    cases hpure
    cases arg with
    | member ref =>
      obtain ⟨r, hr, hpure⟩ := bind_eq_ok.1 haggregate
      cases hpure
      exact ⟨.aggregate function hr, rfl⟩
    -- nothing but a member is aggregated
    | _ => cases haggregate
  | aggregateRows function =>
    obtain ⟨ts', haggregate, hpure⟩ := bind_eq_ok.1 hitem
    cases hpure
    rw [Grouping.aggregateRows] at haggregate
    split at haggregate
    · next hcount =>
      cases haggregate
      cases hcount
      exact ⟨.rows, rfl⟩
    · cases haggregate
  | member ref =>
    obtain ⟨r, hr, hmember⟩ := bind_eq_ok.1 hitem
    split at hmember
    · next hmem =>
      cases hmember
      refine ⟨.member ((Grouping.mem_columns_iff h hr).1 hmem) hr, ?_⟩
      rw [Grouping.passed?, Expr.member?, Option.bind_some, hr]
      rfl
    · cases hmember
  | _ => cases hitem

/-- A projection has an item for each that is asked for, under its name. -/
theorem projection_eq_ok (h : Grouping.columns q.scope q.groupBy = .ok grouped)
    {items : List (String × Expr)} {projection : Projection}
    (hproject : Grouping.project q.scope grouped items = .ok projection) :
    (∃ its, List.Forall₂ (fun item it => ∃ ts, q.Projects item.2 ts ∧
        it = ts ++ ([Token.word .space] ++ spaced .as ++ [Token.ident item.1])) items its ∧
      projection.tokens = separated its) ∧
    projection.columns = items.map fun item => ⟨item.1, Grouping.passed? q.scope item.2⟩ := by
  rw [Grouping.project] at hproject
  split at hproject
  · cases hproject
  · obtain ⟨columns, hcolumns, hpure⟩ := bind_eq_ok.1 hproject
    cases hpure
    have heach : List.Forall₂ (fun item column => ∃ ts, q.Projects item.2 ts ∧
        column = (ts ++ ([Token.word .space] ++ spaced .as ++ [Token.ident item.1]),
          ProjectedColumn.mk item.1 (Grouping.passed? q.scope item.2))) items columns := by
      refine (mapM_eq_ok_iff.1 hcolumns).imp fun item column hcolumn => ?_
      obtain ⟨⟨ts, source⟩, hitem, hpure⟩ := bind_eq_ok.1 hcolumn
      cases hpure
      obtain ⟨hprojects, rfl⟩ := projects_of_item h hitem
      exact ⟨ts, hprojects, by simp only [List.append_assoc]⟩
    refine ⟨⟨columns.map (·.1), ?_, rfl⟩, ?_⟩
    · rw [List.forall₂_map_right_iff]
      refine heach.imp fun item column => ?_
      rintro ⟨ts, hprojects, rfl⟩
      exact ⟨ts, hprojects, rfl⟩
    · have hsame : List.Forall₂ Eq (columns.map (·.2))
          (items.map fun item => ⟨item.1, Grouping.passed? q.scope item.2⟩) := by
        rw [List.forall₂_map_left_iff, List.forall₂_map_right_iff]
        refine heach.flip.imp fun column item => ?_
        rintro ⟨ts, -, rfl⟩
        rfl
      rwa [List.forall₂_eq_eq_eq] at hsame

/-- The first item found is the first that is meant. -/
theorem isFirstMeant_of_find? {items : List (String × Expr)} {e : Expr} {item : String × Expr}
    {p : String × Expr → Bool} (hp : ∀ item, p item = true ↔ Means e item)
    (h : items.find? p = some item) : IsFirstMeant items e item := by
  obtain ⟨hitem, before, after, hitems, hbefore⟩ := List.find?_eq_some_iff_append.1 h
  refine ⟨before, after, hitems, (hp item).1 hitem, fun other hother hmeans => ?_⟩
  have hnot := hbefore other hother
  rw [(hp other).2 hmeans] at hnot
  cases hnot

/-- An ordering of a grouped query goes by the name of the first item that it means. -/
theorem isFirstMeant_of_projectedName {items : List (String × Expr)} {e : Expr} {name : String}
    (h : projectedName q.scope (items.map fun item => ⟨item.1, Grouping.passed? q.scope item.2⟩) e =
      .ok (some name)) : ∃ item, IsFirstMeant items e item ∧ name = item.1 := by
  -- by name or by member, the first projected column with a property is looked for
  have hfound : ∀ {p : ProjectedColumn → Bool},
      (∀ item, p ⟨item.1, Grouping.passed? q.scope item.2⟩ = true ↔ Means e item) →
      (((items.map fun item => ⟨item.1, Grouping.passed? q.scope item.2⟩).find? p).map
        ProjectedColumn.name = some name) → ∃ item, IsFirstMeant items e item ∧ name = item.1 := by
    intro p hp hname
    rw [List.find?_map, Option.map_map] at hname
    obtain ⟨item, hitem, rfl⟩ := Option.map_eq_some_iff.1 hname
    exact ⟨item, isFirstMeant_of_find? hp hitem, rfl⟩
  cases e with
  | output output =>
    refine hfound (fun item => ?_) (Except.ok.inj h)
    constructor
    · intro hsame
      obtain ⟨name, e⟩ := item
      cases eq_of_beq hsame
      exact .output _ e
    · rintro ⟨⟩
      exact beq_self_eq_true _
  | member ref =>
    obtain ⟨r, hr, hpure⟩ := bind_eq_ok.1 h
    refine hfound (fun item => ?_) (Except.ok.inj hpure)
    constructor
    · -- what passes the member on is a reference to it, and there is only one
      intro hsame
      obtain ⟨name, e⟩ := item
      have hpassed : Grouping.passed? q.scope e = some r := eq_of_beq hsame
      obtain ⟨ref', hmember, hresolve⟩ := Option.bind_eq_some_iff.1 hpassed
      cases e with
      | member ref'' =>
        cases hmember
        cases resolve_injective hr (toOption_eq_some.1 hresolve)
        exact .member name _
      | _ => cases hmember
    · rintro ⟨⟩
      simp [Grouping.passed?, Expr.member?, hr, Except.toOption]
  | _ => cases h

end Query

/-! ## The statement of a grouped query -/

/-- Does the statement select everything from a table in parentheses, which selects these items by these
columns, with nothing but conditions in between? -/
def Tokens.SelectsGroups (ts : List Token) (items columns : List (List Token)) : Prop :=
  ∃ outer inner behind conditions, ts = outer ++ parenthesized inner ++ behind ∧
    phrases outer = [⟨.select, [[.word .star]]⟩] ∧
    phrases inner = ⟨.select, items⟩ :: (conditions ++ [⟨.groupBy, columns⟩]) ∧
    ∀ p ∈ conditions, p.kind.isList = false

namespace Query

variable {q : Query} {g : Generator} {c : Command}

theorem phrases_outer {top : List Token} (h : q.top = .ok top) :
    phrases (spaced .select ++ top ++ [Token.word .star] ++ ([Token.word .space] ++ spaced .fromKw)) =
      [⟨.select, [[.word .star]]⟩] := by
  have hstar : ∀ it ∈ [[Token.word .star]], Item it :=
    List.forall_mem_singleton.2 (Item.of_cons (by simp) (Inner.atoms rfl))
  have hselect := phrased_select false top (top_eq_ok h) hstar
  have hfrom : Phrased ([Token.word .space] ++ spaced .fromKw) [] :=
    (Phrased.silent (w := .fromKw) rfl rfl mute_nil).of_marks rfl
  exact (hselect.append hfrom).phrases_eq

/-- The derived table selects the projection, and groups by the grouping columns. -/
theorem phrases_derived {its columns : List (List Token)} (hits : ∀ it ∈ its, Item it)
    (hcolumns : ∀ column ∈ columns, Item column) {source : List Token} (hsource : Conditional source) :
    ∃ conditions, phrases (q.selectHead ++ separated its ++ source ++ clause .groupBy (separated columns)) =
        ⟨.select, its.map marks⟩ :: (conditions ++ [⟨.groupBy, columns.map marks⟩]) ∧
      ∀ p ∈ conditions, p.kind.isList = false := by
  obtain ⟨conditions, hconditions, hkinds⟩ := hsource
  have hselect := phrased_select q.distinct [] (Or.inl rfl) hits
  rw [List.append_nil, ← List.append_assoc] at hselect
  have hgroups : Phrased (clause .groupBy (separated columns)) [⟨.groupBy, columns.map marks⟩] :=
    Phrased.clause (Phrased.list rfl (fun _ => rfl) hcolumns)
  refine ⟨conditions, ?_, hkinds⟩
  exact ((hselect.append hconditions).append hgroups).phrases_eq.trans (by simp)

theorem groupsBy_of_columns {grouped : List Resolved} (h : Grouping.columns q.scope q.groupBy = .ok grouped) :
    q.GroupsBy ((grouped.map q.scope.column).map marks) := by
  rw [GroupsBy, List.map_map, List.forall₂_map_right_iff]
  refine (mapM_eq_ok_iff.1 h).imp fun e r he => ?_
  obtain ⟨ref, rfl, hr⟩ := Grouping.groupedMember_eq_ok he
  exact ⟨ref, r, rfl, hr, rfl⟩

theorem projectsAll_of_columns {grouped : List Resolved} {projection : List (String × Expr)}
    {its : List (List Token)} (h : Grouping.columns q.scope q.groupBy = .ok grouped)
    (hits : List.Forall₂ (fun item it => ∃ ts, q.Projects item.2 ts ∧
      it = ts ++ ([Token.word .space] ++ spaced .as ++ [Token.ident item.1])) projection its) :
    q.ProjectsAll projection ((grouped.map q.scope.column).map marks) (its.map marks) := by
  rw [ProjectsAll, List.forall₂_map_right_iff]
  refine hits.imp fun item it => ?_
  rintro ⟨ts, hprojects, rfl⟩
  refine ⟨ts, hprojects, fun ref href => ?_, marks_append ts _⟩
  rw [href] at hprojects
  cases hprojects with
  | member hmember hr =>
    have hgrouped := (Grouping.mem_columns_iff h hr).2 hmember
    exact List.mem_map_of_mem (List.mem_map_of_mem hgrouped)

theorem ordersBy_of_mapM {projection : List (String × Expr)} {orders : List (List Token)}
    (h : q.orderBy.mapM (groupedOrder q.scope
      (projection.map fun item => ⟨item.1, Grouping.passed? q.scope item.2⟩)) = .ok orders) :
    q.OrdersBy projection (orders.map marks) := by
  rw [OrdersBy, List.forall₂_map_right_iff]
  refine (mapM_eq_ok_iff.1 h).imp fun o order horder => ?_
  obtain ⟨found, hfound, horder⟩ := bind_eq_ok.1 horder
  cases found with
  | none => cases horder
  | some name =>
    cases horder
    obtain ⟨item, hfirst, rfl⟩ := isFirstMeant_of_projectedName hfound
    refine ⟨item, hfirst, ?_⟩
    cases o.direction <;> rfl

theorem Projects.taken {e : Expr} {ts : List Token} (h : q.Projects e ts) : Grouping.Taken q.scope ts := by
  cases h with
  | member grouped resolves => exact .column _
  | aggregate function resolves =>
    split
    · exact .average function _
    · exact .aggregate function _
  | rows => exact .rows .count

/-- A grouped query reads as what it is made from. -/
theorem MakesGroups.reads {grouped : List Resolved} {projected : Projection}
    (h : q.MakesGroups g grouped projected c) : ∃ projection items columns orders,
      q.projection = some projection ∧ q.GroupsBy columns ∧ q.ProjectsAll projection columns items ∧
      q.OrdersBy projection orders ∧ Tokens.SelectsGroups c.tokens items columns ∧
      Tokens.rowClauses c.tokens = (q.paging orders).map (PlacedClause.mk 0) := by
  obtain ⟨projection, hprojection, hprojected⟩ := h.projected
  obtain ⟨⟨its, hits, htokens⟩, hcolumns⟩ := projection_eq_ok h.columns hprojected
  obtain ⟨source, top, -, ending, hsource, htop, -, -, htext⟩ := h.parts
  obtain ⟨orders, horders, hpaging⟩ := h.rowClauses
  rw [hcolumns] at horders
  have hitems : ∀ it ∈ its, Item it := by
    intro it hit
    obtain ⟨item, -, ts, hprojects, rfl⟩ := exists_of_forall₂ hits.flip hit
    exact item_as hprojects.taken.item item.1
  have hgroups : ∀ column ∈ grouped.map q.scope.column, Item column := by
    intro column hcolumn
    obtain ⟨r, -, rfl⟩ := List.mem_map.1 hcolumn
    exact item_column q.scope r
  obtain ⟨conditions, hphrases, hconditions⟩ :=
    q.phrases_derived hitems hgroups (conditional_source hsource)
  refine ⟨projection, its.map marks, _, _, hprojection, groupsBy_of_columns h.columns,
    projectsAll_of_columns h.columns hits, ordersBy_of_mapM horders, ?_, hpaging⟩
  refine ⟨_, _, [Token.word .space, .ident groupedTable] ++ ending, conditions, ?_, phrases_outer htop,
    hphrases, hconditions⟩
  rw [htext, htokens]
  simp only [Grouping.tokens, clause, List.append_assoc, List.cons_append, List.nil_append]

end Query

/-- A grouped query selects all columns of a derived table. What that table selects are the items of the
projection, each an aggregate of a member that is found, a count of rows, or a column that is grouped by, and
each under its name; what the query is ordered by are names of that list, each of the first item that is meant;
and nothing is to be split. A query that projects anything else or is ordered by anything else is refused. -/
theorem select_grouped (g : Generator) (q : Query) (hgrouped : q.groupBy ≠ []) :
    (∀ c, g.select q = .ok c → c.split = {} ∧ ∃ projection items columns orders,
      q.projection = some projection ∧ q.GroupsBy columns ∧ q.ProjectsAll projection columns items ∧
      q.OrdersBy projection orders ∧ SelectsGroups c.tokens items columns ∧
      rowClauses c.tokens = (q.paging orders).map (PlacedClause.mk 0)) ∧
    ∀ projection, q.projection = some projection →
      ((∃ item ∈ projection, ∀ ts, ¬ q.Projects item.2 ts) ∨
        ∃ o ∈ q.orderBy, ∀ item ∈ projection, ¬ Query.Means o.expr item) →
      ∃ cause, g.select q = .error cause := by
  have hreads : ∀ c, g.select q = .ok c → ∃ grouped projected, q.MakesGroups g grouped projected c := by
    intro c h
    rcases select_eq_ok.1 h with ⟨list, hmakes⟩ | hmakes
    · exact absurd hmakes.ungrouped hgrouped
    · exact hmakes
  constructor
  · intro c h
    obtain ⟨grouped, projected, hmakes⟩ := hreads c h
    exact ⟨hmakes.split, hmakes.reads⟩
  · -- a statement would read as one that projects and orders by nothing else
    intro projection hprojection hbad
    cases h : g.select q with
    | error cause => exact ⟨cause, rfl⟩
    | ok c =>
      exfalso
      obtain ⟨grouped, projected, hmakes⟩ := hreads c h
      obtain ⟨projection', items, columns, orders, hprojection', -, hprojects, horders, -⟩ := hmakes.reads
      cases hprojection.symm.trans hprojection'
      rcases hbad with ⟨item, hitem, hnone⟩ | ⟨o, ho, hnone⟩
      · obtain ⟨-, -, ts, hts, -⟩ := exists_of_forall₂ hprojects hitem
        exact hnone ts hts
      · obtain ⟨-, -, item, ⟨before, after, rfl, hmeans, -⟩, -⟩ := exists_of_forall₂ horders ho
        exact hnone item (List.mem_append_right _ List.mem_cons_self) hmeans

namespace Enrolment

/-- The numbers of the clubs, grouped by their names. -/
def numbersByName : Query := { sizes with projection := some [("Id", .member ⟨0, "Id"⟩)], orderBy := [] }

/-- The sizes of the clubs, in the order of something else. -/
def sizesByAge : Query := { sizes with orderBy := [⟨.output "Age", .asc⟩] }

end Enrolment

open Enrolment in
theorem select_grouped_sizes :
    sizes.groupBy ≠ [] ∧
    (∃ c, ({} : Generator).select sizes = .ok c ∧ c.split = {} ∧ ∃ projection items columns orders,
      sizes.projection = some projection ∧ sizes.GroupsBy columns ∧
      sizes.ProjectsAll projection columns items ∧ sizes.OrdersBy projection orders ∧
      SelectsGroups c.tokens items columns ∧
      rowClauses c.tokens = (sizes.paging orders).map (PlacedClause.mk 0)) ∧
    (∃ cause, ({} : Generator).select numbersByName = .error cause) ∧
    ∃ cause, ({} : Generator).select sizesByAge = .error cause := by
  have hgrouped : sizes.groupBy ≠ [] := List.cons_ne_nil _ _
  have hselect : ∃ c, ({} : Generator).select sizes = .ok c := ⟨_, rfl⟩
  obtain ⟨c, hc⟩ := hselect
  refine ⟨hgrouped, ⟨c, hc, (select_grouped {} sizes hgrouped).1 c hc⟩,
    (select_grouped {} numbersByName hgrouped).2 _ rfl (Or.inl ⟨_, List.mem_singleton.2 rfl, ?_⟩),
    (select_grouped {} sizesByAge hgrouped).2 _ rfl (Or.inr ⟨_, List.mem_singleton.2 rfl, ?_⟩)⟩
  · intro ts hprojects
    cases hprojects with
    | member among resolves => exact absurd among (by decide)
  · intro item hitem hmeans
    cases hmeans with
    | output name e => simp at hitem

end Rowgraph
