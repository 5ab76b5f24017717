import Rowgraph.Proofs.Command.Layout
import Rowgraph.Proofs.Selection.Requested

/-!
# The phrases of queries and deletions

What is behind the columns of a query: the conditions of its joins, the condition on its rows, and its
ordering. None of these phrases is the column list of an insertion, and the lists among them are full. The
columns themselves are full unless there is no column at all (`SelectList.columns_eq_nil_iff`).
-/

set_option autoImplicit false

namespace Rowgraph

open Tokens

/-- Is the phrase a list, and no condition? -/
def PhraseKind.isList : PhraseKind → Bool
  | .on => false
  | .filter => false
  | _ => true

/-- Is there an item in the list, and none that is empty? -/
structure Phrase.IsFull (p : Phrase) : Prop where
  some : p.items ≠ []
  each : [] ∉ p.items

/-- Does the phrase not begin an insertion, and is it full if it is a list? -/
structure Phrase.IsSettled (p : Phrase) : Prop where
  other : p.kind ≠ .columns
  full : p.kind.isList = true → p.IsFull

section Phrases

variable {p : Phrase} {its : List (List Token)} {kind : PhraseKind}

/-- A list of items is full if there is one. -/
theorem isFull_of_items (hne : its ≠ []) (h : ∀ item ∈ its, Item item) :
    (Phrase.mk kind (its.map marks)).IsFull where
  some hnil := hne (List.map_eq_nil_iff.1 hnil)
  each hmem := by
    obtain ⟨item, hitem, hempty⟩ := List.mem_map.1 hmem
    exact (h item hitem).nonempty hempty

theorem isSettled_condition (h : p.kind.isList = false) : p.IsSettled where
  other := by
    intro hkind
    rw [hkind] at h
    cases h
  full := by
    intro hlist
    rw [h] at hlist
    cases hlist

theorem isSettled_list (hkind : kind ≠ .columns) (hne : its ≠ []) (h : ∀ item ∈ its, Item item) :
    (Phrase.mk kind (its.map marks)).IsSettled where
  other := hkind
  full := fun _ => isFull_of_items hne h

end Phrases

/-- Do the tokens hold phrases that all have a property? -/
def Tokens.Hold (P : Phrase → Prop) (ts : List Token) : Prop := ∃ ps, Phrased ts ps ∧ ∀ p ∈ ps, P p

namespace Tokens.Hold

variable {P Q : Phrase → Prop} {ts us : List Token}

theorem nil : Hold P [] := ⟨[], Phrased.nil, fun _ hp => absurd hp List.not_mem_nil⟩

theorem append (h : Hold P ts) (h' : Hold P us) : Hold P (ts ++ us) := by
  obtain ⟨ps, hts, hps⟩ := h
  obtain ⟨qs, hus, hqs⟩ := h'
  exact ⟨ps ++ qs, hts.append hus, fun p hp => (List.mem_append.1 hp).elim (hps p) (hqs p)⟩

theorem of_phrased {p : Phrase} (h : Phrased ts [p]) (hp : P p) : Hold P ts :=
  ⟨[p], h, fun q hq => by rwa [List.mem_singleton.1 hq]⟩

theorem silent {w : Word} (hends : (Token.word w).ends = true) (hw : (Token.word w).opens = false)
    (h : Mute ts) : Hold P (.word w :: ts) :=
  ⟨[], Phrased.silent hends hw h, fun _ hp => absurd hp List.not_mem_nil⟩

/-- Spaces make no difference. -/
theorem of_marks (h : Hold P us) (heq : marks ts = marks us) : Hold P ts := by
  obtain ⟨ps, hus, hps⟩ := h
  exact ⟨ps, hus.of_marks heq, hps⟩

theorem mono (h : Hold P ts) (hPQ : ∀ p, P p → Q p) : Hold Q ts := by
  obtain ⟨ps, hts, hps⟩ := h
  exact ⟨ps, hts, fun p hp => hPQ p (hps p hp)⟩

end Tokens.Hold

/-- Do the tokens hold phrases that are all settled? -/
def Tokens.Settled (ts : List Token) : Prop := Hold Phrase.IsSettled ts

/-- Do the tokens hold conditions and no lists? -/
def Tokens.Conditional (ts : List Token) : Prop := Hold (fun p => p.kind.isList = false) ts

theorem Tokens.Conditional.settled {ts : List Token} (h : Conditional ts) : Settled ts :=
  Hold.mono h fun _ hp => isSettled_condition hp

/-! ## Rows -/

theorem mute_aliasTokens (scope : Scope) (position : Nat) : Mute (Join.aliasTokens scope position) := by
  rw [Join.aliasTokens]
  split
  · exact mute_cons.2 ⟨rfl, mute_cons.2 ⟨rfl, mute_nil⟩⟩
  · exact mute_nil

theorem conditional_where {condition : List Token} (h : Inner condition) :
    Conditional (clause .whereKw condition) :=
  Hold.of_phrased (phrased_where h) rfl

/-- The clause of a join has no phrase but its condition. -/
theorem conditional_clauseTokens {c : Join.Context} {position : Nat} {j : Join} {table : Token}
    {condition : List Token} (htable : table.opens = false) (h : Inner condition) :
    Conditional (Join.clauseTokens c position j table condition) := by
  have hqualifier := mute_append.2 ⟨mute_aliasTokens c.scope position, mute_hint c.dirtyRead⟩
  have hrest : Mute (.word .space :: .word .join :: .word .space :: table ::
      (Join.aliasTokens c.scope position ++ Join.hint c.dirtyRead)) :=
    mute_cons.2 ⟨rfl, mute_cons.2 ⟨rfl, mute_cons.2 ⟨rfl, mute_cons.2 ⟨htable, hqualifier⟩⟩⟩⟩
  have hhead : Conditional (.word (Join.kindWord j.kind) :: .word .space :: .word .join :: .word .space ::
      table :: (Join.aliasTokens c.scope position ++ Join.hint c.dirtyRead)) := by
    cases j.kind with
    | inner => exact Hold.silent rfl rfl hrest
    | left => exact Hold.silent rfl rfl hrest
  have hon : Conditional (clause .on condition) :=
    Hold.of_phrased (Phrased.condition rfl (fun _ => rfl) h) rfl
  refine (Hold.append hhead hon).of_marks ?_
  simp only [Join.clauseTokens, spaced, List.append_assoc, List.cons_append, List.nil_append, marks_space]

theorem conditional_clauses {c : Join.Context} {position : Nat} {joins : List Join} {ps ps' : Parameters}
    {ts : List Token} (h : Join.Clauses c position joins ps ts ps') : Conditional ts := by
  induction h with
  | nil position ps => exact Hold.nil
  | cons reference given compiled others ih =>
    obtain ⟨database, schema, rfl⟩ := referenceFrom_eq_ok reference
    exact Hold.append (conditional_clauseTokens rfl (Condition.inner_ofExpr compiled)) ih

namespace Query

variable {q : Query} {g : Generator} {ps ps' : Parameters} {ts : List Token}

theorem conditional_filters (h : q.Filters ps ts ps') : Conditional ts := by
  cases h with
  | none _ given => exact Hold.nil
  | some given compiled => exact conditional_where (Condition.inner_ofExpr compiled)

theorem conditional_source (h : Yields (q.source g) ps ts ps') : Conditional ts := by
  obtain ⟨-, joins, filter, ps₁, hjoins, hfilter, rfl⟩ := yields_source.1 h
  have htables : Conditional (clause .fromKw [q.root.reference] ++ (Join.aliasTokens q.scope 0 ++
      Join.hint (q.dirtyRead.getD g.dirtyRead))) :=
    ⟨[], phrased_from (mute_append.2 ⟨mute_aliasTokens _ _, mute_hint _⟩),
      fun _ hp => absurd hp List.not_mem_nil⟩
  have hall := Hold.append (Hold.append htables (conditional_clauses hjoins)) (conditional_filters hfilter)
  simpa only [Conditional, sourceTokens, List.append_assoc] using hall

/-! ## Orderings -/

theorem item_ordered {column : List Token} (h : Item column) (direction : Direction) :
    Item (ordered column direction) where
  toInner := h.toInner.append (Inner.atoms (by cases direction <;> rfl))
  nonempty := by
    rw [ordered, marks_append]
    exact List.append_ne_nil_of_left_ne_nil h.nonempty _

end Query

theorem item_column (scope : Scope) (r : Resolved) : Item (scope.column r) where
  toInner := Inner.column scope r
  nonempty := by
    rw [Scope.column]
    split <;> exact List.cons_ne_nil _ _

namespace Query

variable {q : Query} {orders : List (List Token)} {ts : List Token}

theorem item_memberOrders {scope : Scope} {items : List OrderItem}
    (h : items.mapM (memberOrder scope) = .ok orders) : ∀ order ∈ orders, Item order := by
  intro order horder
  obtain ⟨item, -, hitem⟩ := exists_of_mem_mapM h horder
  obtain ⟨r, rfl⟩ := memberOrder_eq_ok hitem
  exact item_ordered (item_column scope r) item.direction

theorem item_groupedOrders {scope : Scope} {columns : List ProjectedColumn} {items : List OrderItem}
    (h : items.mapM (groupedOrder scope columns) = .ok orders) : ∀ order ∈ orders, Item order := by
  intro order horder
  obtain ⟨item, -, hitem⟩ := exists_of_mem_mapM h horder
  obtain ⟨name, rfl⟩ := groupedOrder_eq_ok hitem
  exact item_ordered (Item.of_cons (by simp) (Inner.atoms rfl)) item.direction

theorem settled_orders (hne : orders ≠ []) (h : ∀ order ∈ orders, Item order) :
    Settled (clause .orderBy (separated orders)) :=
  Hold.of_phrased (Phrased.clause (Phrased.list rfl (fun _ => rfl) h)) (isSettled_list (by decide) hne h)

/-- The ordering that orders nothing is a query that selects one item. -/
theorem settled_anyOrder : Settled (clause .orderBy anyOrder) := by
  have hselect : Phrased (spaced .select ++ [Token.word .null]) [⟨.select, [[.word .null]]⟩] :=
    phrased_selectOne (Item.of_cons (by simp) (Inner.atoms rfl))
  have hkeeps : Keeps 0 anyOrder := (Keeps.within (by decide) (by decide)).parenthesized
  refine ⟨[⟨.orderBy, [marks anyOrder]⟩, ⟨.select, [[.word .null]]⟩],
    Phrased.clause (Phrased.opening rfl _ fun us hus => ⟨?_, hselect.reads_parenthesized us⟩), ?_⟩
  · have hitems := hkeeps 0 (Nat.le_refl 0) us
    rw [hus, List.modifyHead_cons, List.append_nil] at hitems
    rw [opened, listed, hitems]
    rfl
  · rintro p hp
    rcases List.mem_pair.1 hp with rfl | rfl
    · exact ⟨by simp, fun _ => ⟨by decide, by decide⟩⟩
    · exact ⟨by simp, fun _ => ⟨by decide, by decide⟩⟩

theorem mute_fetch (h : q.fetch = .ok ts) : Mute ts := by
  rcases fetch_eq_ok h with rfl | ⟨n, rfl⟩
  · exact mute_nil
  · simp [fetchClause, clause, spaced, Token.opens, Word.openers]

/-- The numbers of rows are no phrase. -/
theorem settled_paging (n : Int) {fetched : List Token} (h : Mute fetched) :
    Settled (offsetClause (.int n) ++ fetched) := by
  have hrows : Mute (.word .space :: .int n :: .word .space :: .word .rows :: fetched) :=
    mute_cons.2 ⟨rfl, mute_cons.2 ⟨rfl, mute_cons.2 ⟨rfl, mute_cons.2 ⟨rfl, h⟩⟩⟩⟩
  exact (Hold.silent (w := .offset) rfl rfl hrows).of_marks rfl

theorem settled_ending (horders : ∀ order ∈ orders, Item order) (h : q.ending orders = .ok ts) :
    Settled ts := by
  rcases ending_eq_ok h with ⟨-, rfl⟩ | ⟨hne, rfl⟩ | ⟨n, fetched, hfetched, rfl⟩
  · exact Hold.nil
  · exact settled_orders hne horders
  · rw [List.append_assoc]
    refine Hold.append ?_ (settled_paging _ (mute_fetch hfetched))
    split
    · exact settled_anyOrder
    · next hne =>
      rw [List.isEmpty_iff] at hne
      exact settled_orders hne horders

end Query

/-! ## Columns -/

/-- A name behind something else. -/
theorem item_as {ts : List Token} (h : Item ts) (name : String) :
    Item (ts ++ ([Token.word .space] ++ spaced .as ++ [Token.ident name])) where
  toInner := h.toInner.append (Inner.atoms rfl)
  nonempty := by
    rw [marks_append]
    exact List.append_ne_nil_of_left_ne_nil h.nonempty _

theorem item_selected (scope : Scope) (c : SelectedColumn) : Item (c.tokens scope) := by
  rw [SelectedColumn.tokens]
  split
  · rw [List.append_nil]
    exact item_column scope c.source
  · exact item_as (item_column scope c.source) c.output

/-- A selection gives at least one column. -/
theorem Scope.Asks.picks_eq_none {scope : Scope} {picks : Option (List Pick)} {columns : List SelectedColumn}
    (h : scope.Asks picks (.ok columns)) (hnil : columns = []) : picks = none := by
  cases h with
  | all => rfl
  | columns nonempty answers =>
    rw [hnil] at answers
    cases answers
    exact absurd rfl nonempty

theorem Query.entities_scope (q : Query) : q.scope.entities = q.root :: q.joins.map (·.entity) := rfl

/-- In a select list with points for its joined tables there is a column for each. -/
theorem SelectList.Lays.joins_eq_nil {q : Query} {list : SelectList} {columns : List SelectedColumn}
    (h : list.Lays q.scope columns) (hnil : list.columns = []) : q.joins = [] := by
  cases hjoins : q.joins with
  | nil => rfl
  | cons j rest =>
    have hlength := h.joined
    rw [q.entities_scope, hjoins, List.map_cons, List.length_cons, List.length_cons,
      Nat.add_sub_cancel] at hlength
    have hpoint : 0 < list.split.points.length := by omega
    obtain ⟨c, hc, -⟩ := h.points 0 _ (List.getElem?_eq_getElem hpoint)
    rw [hnil] at hc
    cases hc

/-- A select list has no column just if nothing is picked from one table that has no mapped member. -/
theorem SelectList.columns_eq_nil_iff {q : Query} {list : SelectList}
    (h : SelectList.ofPicks q.scope q.picks = .ok list) :
    list.columns = [] ↔ q.picks = none ∧ q.joins = [] ∧ q.root.mapped = [] := by
  have houtcome := SelectList.outcome_ofPicks q.scope q.picks
  rw [h] at houtcome
  cases houtcome with
  | @made columns _ asked lays =>
    have hcolumns : list.columns = [] ↔ columns = [] :=
      ⟨fun hnil => (hnil ▸ lays.permuted).nil_eq.symm, fun hnil => (hnil ▸ lays.permuted).eq_nil⟩
    constructor
    · intro hnil
      have hnone := asked.picks_eq_none (hcolumns.1 hnil)
      refine ⟨hnone, lays.joins_eq_nil hnil, ?_⟩
      by_contra hmapped
      rw [hnone] at asked
      have hroot : q.scope.Covers none 0 := ⟨q.root, rfl, hmapped⟩
      rw [asked.covers_iff, hcolumns.1 hnil] at hroot
      exact hroot rfl
    · rintro ⟨hpicks, hjoins, hmapped⟩
      rw [hcolumns]
      rw [hpicks] at asked
      cases asked with
      | all =>
        rw [List.map_eq_nil_iff, List.eq_nil_iff_forall_not_mem]
        intro r hr
        obtain ⟨hentity, hmember⟩ := mem_mapped_iff.1 hr
        rw [q.entities_scope, hjoins, List.map_nil] at hentity
        rw [List.mem_singleton.1 (List.mem_of_getElem? hentity), hmapped] at hmember
        exact List.not_mem_nil hmember

/-! ## Groups -/

namespace Grouping

variable {scope : Scope} {grouped : List Resolved}

theorem item_application (function : Aggregate) {arg : List Token} (h : Inner arg) :
    Item (application function arg) := by
  have hinner : Inner ([Token.function function.functionName] ++ parenthesized arg) :=
    (Inner.atoms rfl).append h.parenthesized
  exact Item.of_cons (by simp) hinner

/-- The type that an average is computed in has a comma in its parentheses. -/
theorem inner_averaged {column : List Token} (h : Inner column) : Inner (averaged column) := by
  have hdigits : Inner (parenthesized [.int averagePrecision.1, .word .comma, .word .space,
      .int averagePrecision.2]) := Inner.enclosed (Keeps.within (by decide) (by decide)) (by decide)
  have htype : Inner ([Token.word .space] ++ spaced .as ++ [Token.type "decimal"]) := Inner.atoms rfl
  have hcast : Inner [.word .cast] := Inner.atoms rfl
  have hall := hcast.append (h.append (htype.append hdigits)).parenthesized
  simpa only [averaged, parenthesized, List.append_assoc, List.cons_append, List.nil_append] using hall

/-- An aggregate, or a grouping column, is an item. -/
theorem Taken.item {ts : List Token} (h : Taken scope ts) : Item ts := by
  cases h with
  | column r => exact item_column scope r
  | aggregate function r => exact item_application function (Inner.column scope r)
  | average function r => exact item_application function (inner_averaged (Inner.column scope r))
  | rows function => exact item_application function (Inner.atoms rfl)

/-- A projection is a list of items, and has one at least. -/
theorem project_items {items : List (String × Expr)} {projection : Projection}
    (h : project scope grouped items = .ok projection) :
    ∃ its, its ≠ [] ∧ (∀ it ∈ its, Item it) ∧ projection.tokens = separated its := by
  obtain ⟨its, hne, htokens, hits⟩ := project_eq_ok h
  refine ⟨its, hne, fun it hit => ?_, htokens⟩
  obtain ⟨ts, name, htaken, rfl⟩ := hits it hit
  exact item_as htaken.item name

/-- The grouping columns of a grouped query. -/
theorem settled_groupBy {exprs : List Expr} (hne : exprs ≠ []) (h : columns scope exprs = .ok grouped) :
    Settled (clause .groupBy (tokens scope grouped)) := by
  have hitems : ∀ it ∈ grouped.map scope.column, Item it := by
    intro it hit
    obtain ⟨r, -, rfl⟩ := List.mem_map.1 hit
    exact item_column scope r
  have hgrouped : grouped.map scope.column ≠ [] := by
    intro hnil
    have hlength := (mapM_eq_ok_iff.1 h).length_eq
    rw [List.map_eq_nil_iff.1 hnil, List.length_nil, List.length_eq_zero_iff] at hlength
    exact hne hlength
  exact Hold.of_phrased (Phrased.clause (Phrased.list rfl (fun _ => rfl) hitems))
    (isSettled_list (by decide) hgrouped hitems)

end Grouping

/-! ## Whole queries -/

/-- A table that is a query has the phrases of the query. -/
theorem settled_derived {ts : List Token} (h : Settled ts) (name : String) :
    Settled (clause .fromKw (parenthesized ts) ++ [Token.word .space, .ident name]) := by
  obtain ⟨ps, hts, hps⟩ := h
  refine ⟨ps, ⟨fun us _ => itemsFrom_ended rfl _, fun us _ => ?_⟩, hps⟩
  have hinner := hts.reads_parenthesized (.ident name :: us)
  have hmarks : marks (clause .fromKw (parenthesized ts) ++ [Token.word .space, .ident name]) ++ us =
      .word .fromKw :: (marks (parenthesized ts) ++ .ident name :: us) := by
    rw [marks_append, clause, List.cons_append, marks_space, marks_spaced (by decide), List.cons_append,
      List.cons_append, List.append_assoc]
    rfl
  rw [hmarks]
  exact hinner

namespace Query

variable {q : Query} {g : Generator} {c : Command}

/-- A query for members begins with its columns. -/
theorem MakesMembers.phrases {list : SelectList} (h : q.MakesMembers g list c) :
    (∀ it ∈ list.columns.map (·.tokens q.scope), Item it) ∧ ∃ rest, (∀ p ∈ rest, p.IsSettled) ∧
      Tokens.phrases c.tokens = ⟨.select, (list.columns.map (·.tokens q.scope)).map marks⟩ :: rest := by
  have hitems : ∀ it ∈ list.columns.map (·.tokens q.scope), Item it := by
    intro it hit
    obtain ⟨column, -, rfl⟩ := List.mem_map.1 hit
    exact item_selected q.scope column
  obtain ⟨source, top, orders, ending, hsource, htop, horders, hending, htokens⟩ := h.parts
  have hlist : list.tokens = separated (list.columns.map (·.tokens q.scope)) := by
    have houtcome := SelectList.outcome_ofPicks q.scope q.picks
    rw [h.columns] at houtcome
    cases houtcome with
    | made asked lays => exact lays.tokens
  obtain ⟨rest, hrest, hsettled⟩ :=
    (conditional_source hsource).settled.append (settled_ending (item_memberOrders horders) hending)
  refine ⟨hitems, rest, hsettled, ?_⟩
  have hall := (phrased_select q.distinct top (top_eq_ok htop) hitems).append hrest
  rw [htokens, hlist, ← List.singleton_append, ← hall.phrases_eq]
  simp only [selectHead, List.append_assoc]

/-- A grouped query selects everything from a query whose columns are the projection. -/
theorem MakesGroups.settled {grouped : List Resolved} {projection : Projection}
    (h : q.MakesGroups g grouped projection c) : ∀ p ∈ Tokens.phrases c.tokens, p.IsSettled := by
  obtain ⟨items, -, hprojected⟩ := h.projected
  obtain ⟨its, hne, hitems, hprojection⟩ := Grouping.project_items hprojected
  obtain ⟨source, top, orders, ending, hsource, htop, horders, hending, htokens⟩ := h.parts
  have hstar : ∀ it ∈ [[Token.word .star]], Item it := by
    intro it hit
    rw [List.mem_singleton.1 hit]
    exact Item.of_cons (by simp) (Inner.atoms rfl)
  have houter : Settled (spaced .select ++ top ++ [Token.word .star]) :=
    Hold.of_phrased (phrased_select false top (top_eq_ok htop) hstar)
      (isSettled_list (by decide) (List.cons_ne_nil _ _) hstar)
  have hinner : Settled (q.selectHead ++ projection.tokens ++ source ++
      clause .groupBy (Grouping.tokens q.scope grouped)) := by
    have hcolumns : Settled (q.selectHead ++ projection.tokens) := by
      rw [hprojection]
      have hselect := phrased_select q.distinct [] (Or.inl rfl) hitems
      rw [List.append_nil, ← List.append_assoc] at hselect
      exact Hold.of_phrased hselect (isSettled_list (by decide) hne hitems)
    exact (hcolumns.append (conditional_source hsource).settled).append
      (Grouping.settled_groupBy h.isGrouped h.columns)
  obtain ⟨ps, hps, hsettled⟩ := (houter.append (settled_derived hinner groupedTable)).append
    (settled_ending (item_groupedOrders horders) hending)
  rw [htokens, List.append_assoc _ (clause .fromKw _), hps.phrases_eq]
  exact hsettled

end Query

/-! ## Columns that an insertion gives back -/

/-- A column that an insertion gives back: a zero of its type under its name if the database makes it up, or
else the column, under its name where that is another. -/
def Member.outputItem (m : Member) : List Token :=
  if m.identity then
    ([Token.word .cast] ++
      parenthesized ([Token.int 0, .word .space] ++ spaced .as ++ [Token.type m.castType])) ++
      ([Token.word .space] ++ spaced .as ++ [Token.ident m.name])
  else if m.columnName = m.name then [.word .inserted, .word .dot, .ident m.columnName]
  else [Token.word .inserted, .word .dot, .ident m.columnName] ++
    ([Token.word .space] ++ spaced .as ++ [Token.ident m.name])

theorem outputTokens_eq (e : Entity) : e.outputTokens = separated (e.mapped.map Member.outputItem) := by
  rw [Entity.outputTokens]
  congr 2
  funext m
  rw [Member.outputItem]
  split
  · rfl
  · split
    · rfl
    · rfl

theorem item_outputItem (m : Member) : Item m.outputItem := by
  have hcast : Inner ([Token.word .cast] ++ parenthesized ([Token.int 0, .word .space] ++ spaced .as ++
      [Token.type m.castType])) := (Inner.atoms rfl).append (Inner.atoms rfl).parenthesized
  have hcolumn : Item [.word .inserted, .word .dot, .ident m.columnName] :=
    Item.of_cons (by simp) (Inner.atoms rfl)
  rw [Member.outputItem]
  split
  · exact item_as (Item.of_cons (t := .word .cast) (by decide) hcast) m.name
  · split
    · exact hcolumn
    · exact item_as hcolumn m.name

/-- The columns that an insertion gives back. -/
theorem phrased_output (e : Entity) : Phrased (spaced .output ++ e.outputTokens)
    [⟨.output, (e.mapped.map Member.outputItem).map marks⟩] := by
  rw [outputTokens_eq]
  refine Phrased.list rfl (fun _ => rfl) fun it hit => ?_
  obtain ⟨m, -, rfl⟩ := List.mem_map.1 hit
  exact item_outputItem m

theorem isSettled_output {e : Entity} (h : e.mapped ≠ []) :
    (Phrase.mk .output ((e.mapped.map Member.outputItem).map marks)).IsSettled := by
  refine isSettled_list (by decide) (fun hnil => h (List.map_eq_nil_iff.1 hnil)) fun it hit => ?_
  obtain ⟨m, -, rfl⟩ := List.mem_map.1 hit
  exact item_outputItem m

/-! ## Deletions -/

theorem settled_delete {g : Generator} {e : Entity} {filter : Expr} {c : Command}
    (h : g.delete e filter = .ok c) : Settled c.tokens := by
  obtain ⟨condition, ps, hcondition, rfl⟩ := delete_eq_ok.1 h
  have htable : Mute (.word .space :: (spaced .fromKw ++ [e.reference])) := by
    simp [spaced, Entity.reference, Token.opens, Word.openers]
  exact (Hold.silent (w := .delete) rfl rfl htable).append
    (conditional_where (Condition.inner_ofExpr hcondition)).settled

theorem settled_deleteJoined {g : Generator} {e : Entity} {joins : List Join} {filter : Expr}
    {c : Command} (h : g.deleteJoined e joins filter = .ok c) : Settled c.tokens := by
  cases joins with
  | nil => exact settled_delete h
  | cons j rest =>
    obtain ⟨-, clauses, condition, ps, ps₁, hclauses, hcondition, rfl⟩ :=
      (deleteJoined_eq_ok (List.cons_ne_nil j rest)).1 h
    have htable : Mute (.word .space :: .alias (Alias.ofName e.name 0) ::
        clause .fromKw [e.reference, .word .space, .alias (Alias.ofName e.name 0)]) := by
      simp [clause, spaced, Entity.reference, Token.opens, Word.openers]
    exact ((Hold.silent (w := .delete) rfl rfl htable).append (conditional_clauses hclauses).settled).append
      (conditional_where (Condition.inner_ofExpr hcondition)).settled

end Rowgraph
