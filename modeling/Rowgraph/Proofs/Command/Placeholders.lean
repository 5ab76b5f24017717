import Rowgraph.Proofs.Command.Made
import Rowgraph.Proofs.FirstOccurrences
import Rowgraph.Proofs.Parameter

/-!
# Placeholders and parameters

A part of a statement adds to the parameters just those of its placeholders, in the order in which it
writes them (`Writes`): binding a value does, a condition does because its tests do, and so does
everything that is put together from such parts. In a whole statement the placeholders are therefore
those of its parameters (`perform_placeholders`). Only an upsert writes some of them twice; the bulk
statements bind nothing and have the placeholder of their rows.
-/

set_option autoImplicit false

namespace Rowgraph

namespace Token

/-- The name in a placeholder. -/
def placeholder? : Token → Option String
  | .param name => some name
  | .inlineParam name => some name
  | _ => none

/-- Is the token a placeholder? -/
def isPlaceholder (t : Token) : Bool := t.placeholder?.isSome

@[simp] theorem isPlaceholder_word (w : Word) : (word w).isPlaceholder = false := rfl

@[simp] theorem isPlaceholder_ident (name : String) : (ident name).isPlaceholder = false := rfl

@[simp] theorem isPlaceholder_table (database schema : Option String) (name : String) :
    (table database schema name).isPlaceholder = false := rfl

@[simp] theorem isPlaceholder_alias (name : String) : (Token.alias name).isPlaceholder = false := rfl

@[simp] theorem isPlaceholder_param (name : String) : (param name).isPlaceholder = true := rfl

@[simp] theorem isPlaceholder_int (n : Int) : (int n).isPlaceholder = false := rfl

@[simp] theorem isPlaceholder_function (name : String) : (function name).isPlaceholder = false := rfl

@[simp] theorem isPlaceholder_type (name : String) : (type name).isPlaceholder = false := rfl

end Token

namespace Tokens

/-- The placeholders among tokens. -/
def placeholders (ts : List Token) : List Token := ts.filter Token.isPlaceholder

@[simp] theorem placeholders_nil : placeholders [] = [] := rfl

@[simp] theorem placeholders_append (ts us : List Token) :
    placeholders (ts ++ us) = placeholders ts ++ placeholders us := List.filter_append ..

@[simp] theorem placeholders_cons (t : Token) (ts : List Token) :
    placeholders (t :: ts) = if t.isPlaceholder then t :: placeholders ts else placeholders ts :=
  List.filter_cons

@[simp] theorem placeholders_spaced (w : Word) : placeholders (spaced w) = [] := rfl

@[simp] theorem placeholders_parenthesized (ts : List Token) :
    placeholders (parenthesized ts) = placeholders ts := by
  simp [parenthesized]

@[simp] theorem placeholders_clause (w : Word) (ts : List Token) :
    placeholders (clause w ts) = placeholders ts := by
  simp [clause]

@[simp] theorem placeholders_separated (items : List (List Token)) :
    placeholders (separated items) = placeholders items.flatten := by
  induction items with
  | nil => rfl
  | cons item rest ih =>
    cases rest with
    | nil => simp [separated]
    | cons next rest => simp [separated, ih]

@[simp] theorem placeholders_joined (w : Word) (tests : List (List Token)) :
    placeholders (Condition.joined w tests) = placeholders tests.flatten := by
  induction tests with
  | nil => rfl
  | cons test rest ih =>
    cases rest with
    | nil => simp [Condition.joined]
    | cons next rest => simp [Condition.joined, ih]

/-- Items without placeholders make a list without any. -/
theorem placeholders_flatten {items : List (List Token)} (h : ∀ ts ∈ items, placeholders ts = []) :
    placeholders items.flatten = [] := by
  rw [placeholders, List.filter_flatten, List.flatten_eq_nil_iff]
  intro ts hts
  obtain ⟨item, hitem, rfl⟩ := List.mem_map.1 hts
  exact h item hitem

/-- A list of columns has no placeholders. -/
theorem placeholders_flatten_map {α : Type} {f : α → List Token} (h : ∀ a, placeholders (f a) = [])
    (as : List α) : placeholders (as.map f).flatten = [] := by
  refine placeholders_flatten fun ts hts => ?_
  obtain ⟨a, -, rfl⟩ := List.mem_map.1 hts
  exact h a

@[simp] theorem placeholders_column (scope : Scope) (r : Resolved) :
    placeholders (scope.column r) = [] := by
  rw [Scope.column]
  split <;> rfl

end Tokens

@[simp] theorem placeholder?_placeholder (p : Parameter) :
    p.placeholder.placeholder? = some p.name := by
  rw [Parameter.placeholder]
  split <;> rfl

@[simp] theorem isPlaceholder_placeholder (p : Parameter) : p.placeholder.isPlaceholder = true := by
  rw [Token.isPlaceholder, placeholder?_placeholder, Option.isSome_some]

@[simp] theorem Tokens.placeholders_map_placeholder (entries : List Parameter) :
    placeholders (entries.map Parameter.placeholder) = entries.map Parameter.placeholder := by
  refine List.filter_eq_self.2 fun t ht => ?_
  obtain ⟨p, -, rfl⟩ := List.mem_map.1 ht
  simp

open Tokens

/-! ## Parts that write what they bind -/

/-- Do these tokens have the placeholders of just the parameters that were added? -/
structure Writes (ps : Parameters) (ts : List Token) (ps' : Parameters) : Prop where
  added : ∃ new, ps'.entries = ps.entries ++ new ∧ placeholders ts = new.map Parameter.placeholder
  distinct : ps.names.Nodup → ps'.names.Nodup

namespace Writes

variable {ps ps₁ ps' : Parameters} {ts us : List Token}

/-- What has no placeholders adds no parameters. -/
theorem none (ps : Parameters) (h : placeholders ts = []) : Writes ps ts ps where
  added := ⟨[], by rw [List.append_nil], h⟩
  distinct := id

theorem append (hts : Writes ps ts ps₁) (hus : Writes ps₁ us ps') : Writes ps (ts ++ us) ps' where
  added := by
    obtain ⟨new, hnew, hwritten⟩ := hts.added
    obtain ⟨more, hmore, hothers⟩ := hus.added
    refine ⟨new ++ more, ?_, ?_⟩
    · rw [hmore, hnew, List.append_assoc]
    · rw [placeholders_append, hwritten, hothers, List.map_append]
  distinct h := hus.distinct (hts.distinct h)

/-- Only the placeholders of the tokens matter. -/
theorem of_placeholders (h : Writes ps ts ps') (heq : placeholders us = placeholders ts) :
    Writes ps us ps' where
  added := by
    rw [heq]
    exact h.added
  distinct := h.distinct

end Writes

/-- A value that is bound gets the next placeholder. -/
theorem writes_bind (ps : Parameters) (base : String) (value : Value) (member : Option Member) :
    Writes ps [(ps.bind base value member).1] (ps.bind base value member).2 where
  added := ⟨[ps.entry base value member], rfl, placeholders_map_placeholder [_]⟩
  distinct h := by
    have hfree : ps.freshName base ∉ ps.names := by
      rw [← Parameters.contains_iff, Parameters.not_contains_freshName]
      exact Bool.false_ne_true
    have hnames : (ps.bind base value member).2.names = ps.names ++ [ps.freshName base] := by
      rw [Parameters.names, Parameters.bind, List.map_append]
      rfl
    rw [hnames]
    refine List.nodup_append.2 ⟨h, List.nodup_singleton _, ?_⟩
    intro a ha b hb hab
    rw [List.mem_singleton.1 hb] at hab
    exact hfree (hab ▸ ha)

/-! ## Conditions -/

namespace Condition

variable {scope : Scope}

theorem writes_binding (s : ConditionState) (m : Member) (value : Value) :
    Writes s.params [(s.binding m value).1] (s.binding m value).2.params :=
  writes_bind s.params m.name value (some m)

theorem emitElements_writes {column : List Token} (hcolumn : placeholders column = [])
    (m : Member) (negated : Bool) (values : List Value) :
    ∀ s, Writes s.params (emitElements column m negated values s).1.flatten
      (emitElements column m negated values s).2.params := by
  induction values with
  | nil =>
    intro s
    exact Writes.none s.params rfl
  | cons value rest ih =>
    intro s
    rw [emitElements]
    split
    · -- a test for NULL
      refine (ih s).of_placeholders ?_
      simp [hcolumn]
    · refine ((writes_binding s m value).append (ih _)).of_placeholders ?_
      simp [hcolumn]

theorem Check.emit_writes (c : Check) (s : ConditionState) :
    Writes s.params (c.emit scope s).1 (c.emit scope s).2.params := by
  cases c with
  | compare r op value =>
    have h := writes_binding (s.noting r) r.member value
    rw [noting_params] at h
    refine h.of_placeholders ?_
    simp [Check.emit]
  | compareMember r op r' =>
    rw [Check.emit, noting_params, noting_params]
    exact Writes.none _ (by simp)
  | isNull r negated =>
    rw [Check.emit, noting_params]
    exact Writes.none _ (by simp)
  | like r place text negated =>
    have h := writes_binding (s.noting r) r.member (.text (Like.pattern place text))
    rw [noting_params] at h
    refine h.of_placeholders ?_
    simp [Check.emit]
  | among r elements negated =>
    rw [Check.emit]
    split
    · rw [noting_params]
      exact Writes.none _ (by simp)
    · have h := emitElements_writes (placeholders_column scope r) r.member negated elements
        (s.noting r)
      rw [noting_params] at h
      refine h.of_placeholders ?_
      simp
  | flag r negated =>
    rw [Check.emit, noting_params]
    exact Writes.none _ (by simp)

/-- Two conditions in parentheses write what each of them writes. -/
theorem Plan.emit_writes (scope : Scope) (p : Plan) :
    ∀ s, Writes s.params (p.emit scope s).1 (p.emit scope s).2.params := by
  induction p with
  | check c => exact c.emit_writes
  | and left right hl hr =>
    intro s
    refine ((hl s).append (hr _)).of_placeholders ?_
    simp [Plan.emit]
  | or left right hl hr =>
    intro s
    refine ((hl s).append (hr _)).of_placeholders ?_
    simp [Plan.emit]

theorem ofExpr_writes {e : Expr} {ps ps' : Parameters} {c : Condition}
    (h : ofExpr scope e ps = (.ok c, ps')) : Writes ps c.tokens ps' := by
  obtain ⟨p, -, hemit⟩ := ofExpr_iff.1 h
  have hwrites := p.emit_writes scope ⟨ps, []⟩
  rwa [hemit] at hwrites

end Condition

/-! ## Joins and queries -/

namespace Join

@[simp] theorem placeholders_aliasTokens (scope : Scope) (position : Nat) :
    placeholders (aliasTokens scope position) = [] := by
  rw [aliasTokens]
  split <;> rfl

@[simp] theorem placeholders_hint (dirtyRead : Bool) : placeholders (hint dirtyRead) = [] := by
  rw [hint]
  split <;> rfl

theorem Clauses.writes {c : Context} {position : Nat} {joins : List Join} {ps ps' : Parameters}
    {ts : List Token} (h : Clauses c position joins ps ts ps') : Writes ps ts ps' := by
  induction h with
  | nil position ps => exact Writes.none ps rfl
  | cons reference given compiled others ih =>
    obtain ⟨database, schema, rfl⟩ := referenceFrom_eq_ok reference
    refine ((Condition.ofExpr_writes compiled).append ih).of_placeholders ?_
    simp [clauseTokens]

end Join

@[simp] theorem isPlaceholder_reference (e : Entity) : e.reference.isPlaceholder = false := rfl

namespace SelectList

/-- Only columns are selected. -/
theorem placeholders_ofPicks {scope : Scope} {picks : Option (List Pick)} {list : SelectList}
    (h : ofPicks scope picks = .ok list) : placeholders list.tokens = [] := by
  rw [ofPicks, bind_eq_ok] at h
  obtain ⟨requested, -, h⟩ := h
  obtain ⟨points, -, hpure⟩ := bind_eq_ok.1 h
  cases hpure
  rw [placeholders_separated]
  refine placeholders_flatten_map (fun c => ?_) _
  rw [SelectedColumn.tokens]
  split <;> simp

end SelectList

namespace Grouping

theorem placeholders_tokens (scope : Scope) (grouped : List Resolved) :
    placeholders (tokens scope grouped) = [] := by
  rw [tokens, placeholders_separated]
  exact placeholders_flatten_map (placeholders_column scope) grouped

/-- An aggregate, or a grouping column, binds nothing. -/
theorem Taken.placeholders {scope : Scope} {ts : List Token} (h : Taken scope ts) :
    Tokens.placeholders ts = [] := by
  cases h <;> simp [application, averaged]

theorem placeholders_project {scope : Scope} {grouped : List Resolved} {items : List (String × Expr)}
    {projection : Projection} (h : project scope grouped items = .ok projection) :
    placeholders projection.tokens = [] := by
  obtain ⟨its, -, htokens, hits⟩ := project_eq_ok h
  rw [htokens, placeholders_separated]
  refine placeholders_flatten fun it hit => ?_
  obtain ⟨ts, name, htaken, rfl⟩ := hits it hit
  simp [htaken.placeholders]

end Grouping

namespace Query

variable {q : Query}

/-- Nothing that a query is ordered by is a placeholder. -/
theorem placeholders_ordered {column : List Token} (h : placeholders column = [])
    (direction : Direction) : placeholders (ordered column direction) = [] := by
  simp [ordered, h]

theorem placeholders_memberOrder {scope : Scope} {item : OrderItem} {ts : List Token}
    (h : memberOrder scope item = .ok ts) : placeholders ts = [] := by
  obtain ⟨r, rfl⟩ := memberOrder_eq_ok h
  exact placeholders_ordered (placeholders_column scope r) _

theorem placeholders_groupedOrder {scope : Scope} {columns : List ProjectedColumn} {item : OrderItem}
    {ts : List Token} (h : groupedOrder scope columns item = .ok ts) : placeholders ts = [] := by
  obtain ⟨name, rfl⟩ := groupedOrder_eq_ok h
  exact placeholders_ordered (by simp) _

theorem placeholders_top {ts : List Token} (h : q.top = .ok ts) : placeholders ts = [] := by
  rcases top_eq_ok h with rfl | ⟨n, rfl⟩
  · rfl
  · simp

theorem placeholders_fetch {ts : List Token} (h : q.fetch = .ok ts) : placeholders ts = [] := by
  rcases fetch_eq_ok h with rfl | ⟨n, rfl⟩
  · rfl
  · simp [fetchClause]

theorem placeholders_ending {orders : List (List Token)} {ts : List Token}
    (horders : ∀ order ∈ orders, placeholders order = []) (h : q.ending orders = .ok ts) :
    placeholders ts = [] := by
  have hseparated : placeholders (separated orders) = [] := by
    rw [placeholders_separated]
    exact placeholders_flatten horders
  rcases ending_eq_ok h with ⟨-, rfl⟩ | ⟨-, rfl⟩ | ⟨n, fetched, hfetched, rfl⟩
  · rfl
  · simp [hseparated]
  · split <;> simp [hseparated, anyOrder, offsetClause, placeholders_fetch hfetched]

@[simp] theorem placeholders_selectHead (q : Query) : placeholders q.selectHead = [] := by
  rw [selectHead]
  split <;> rfl

theorem source_writes {g : Generator} {ps ps' : Parameters} {ts : List Token}
    (h : Yields (q.source g) ps ts ps') : Writes ps ts ps' := by
  obtain ⟨-, joins, filter, ps₁, hjoins, hfilter, rfl⟩ := yields_source.1 h
  have hwhere : Writes ps₁ filter ps' := by
    cases hfilter with
    | none _ given => exact Writes.none _ placeholders_nil
    | some given compiled => exact (Condition.ofExpr_writes compiled).of_placeholders (by simp)
  refine (hjoins.writes.append hwhere).of_placeholders ?_
  simp [sourceTokens]

/-- Only the joins and the condition of a query bind values, also where its rows are grouped. -/
theorem select_writes {g : Generator} {c : Command} (h : g.select q = .ok c) :
    Writes g.unbound c.tokens c.params := by
  rcases select_eq_ok.1 h with ⟨list, hmakes⟩ | ⟨grouped, projection, hmakes⟩
  · obtain ⟨source, top, orders, ending, hsource, htop, horders, hending, htokens⟩ := hmakes.parts
    have hnone : ∀ order ∈ orders, placeholders order = [] := by
      intro order horder
      obtain ⟨item, -, hitem⟩ := exists_of_mem_mapM horders horder
      exact placeholders_memberOrder hitem
    refine (source_writes hsource).of_placeholders ?_
    simp [htokens, placeholders_top htop, SelectList.placeholders_ofPicks hmakes.columns,
      placeholders_ending hnone hending]
  · obtain ⟨source, top, orders, ending, hsource, htop, horders, hending, htokens⟩ := hmakes.parts
    obtain ⟨items, -, hprojection⟩ := hmakes.projected
    have hnone : ∀ order ∈ orders, placeholders order = [] := by
      intro order horder
      obtain ⟨item, -, hitem⟩ := exists_of_mem_mapM horders horder
      exact placeholders_groupedOrder hitem
    refine (source_writes hsource).of_placeholders ?_
    simp [htokens, placeholders_top htop, Grouping.placeholders_project hprojection,
      Grouping.placeholders_tokens, placeholders_ending hnone hending]

end Query

/-! ## Assignments -/

theorem bindAll_writes (pairs : List (Member × Value)) :
    ∀ ps : Parameters, Writes ps ((ps.bindAll pairs).1.map (·.placeholder)) (ps.bindAll pairs).2 := by
  induction pairs with
  | nil =>
    intro ps
    exact Writes.none ps rfl
  | cons pair rest ih =>
    intro ps
    obtain ⟨m, value⟩ := pair
    rw [bindAll_cons, List.map_cons]
    exact (writes_bind ps m.name value (some m)).append (ih _)

namespace Assignment

variable {e : Entity} {item values : Row} {ps ps' : Parameters} {as : List Assignment}

theorem ofItem_writes (h : Yields (ofItem e item) ps as ps') :
    Writes ps (as.map (·.placeholder)) ps' := by
  obtain ⟨-, hbind⟩ := yields_ofItem.1 h
  have hwrites := bindAll_writes (e.insertable.map fun m => (m, item.findD m.name)) ps
  rwa [hbind] at hwrites

theorem ofValues_writes (h : Yields (ofValues e values) ps as ps') :
    Writes ps (as.map (·.placeholder)) ps' := by
  obtain ⟨-, ms, -, hbind⟩ := yields_ofValues.1 h
  have hwrites := bindAll_writes (ms.zip (values.columns.map (·.2))) ps
  rwa [hbind] at hwrites

end Assignment

@[simp] theorem placeholders_columnTokens (qualifier : Option String) (m : Member) :
    placeholders (Member.columnTokens qualifier m) = [] := by
  rw [Member.columnTokens.eq_def]
  split <;> rfl

@[simp] theorem placeholders_columnList (qualifier : Option String) (ms : List Member) :
    placeholders (Member.columnList qualifier ms) = [] := by
  rw [Member.columnList, placeholders_separated]
  exact placeholders_flatten_map (placeholders_columnTokens qualifier) ms

@[simp] theorem placeholders_placeholders (as : List Assignment) :
    placeholders (Assignment.placeholders as) = placeholders (as.map (·.placeholder)) := by
  rw [Assignment.placeholders, placeholders_separated]
  congr 1
  induction as with
  | nil => rfl
  | cons a as ih => rw [List.map_cons, List.flatten_cons, List.singleton_append, ih, List.map_cons]

@[simp] theorem placeholders_outputTokens (e : Entity) : placeholders e.outputTokens = [] := by
  rw [Entity.outputTokens, placeholders_separated]
  refine placeholders_flatten_map (fun m => ?_) _
  split
  · simp
  · split <;> simp

@[simp] theorem placeholders_setItems (as : List Assignment) :
    placeholders (as.map Entity.setItem).flatten = placeholders (as.map (·.placeholder)) := by
  induction as with
  | nil => rfl
  | cons a as ih => simp [Entity.setItem, ih]

@[simp] theorem placeholders_insertHead (e : Entity) (ms : List Member) :
    placeholders (e.insertHead ms) = [] := by
  simp [Entity.insertHead]

@[simp] theorem placeholders_insertion (e : Entity) (as : List Assignment) :
    placeholders (e.insertion as) = placeholders (as.map (·.placeholder)) := by
  simp [Entity.insertion, Entity.valuesClause]

@[simp] theorem placeholders_absenceClause (e : Entity) (qualifier : List Token) (dirtyRead : Bool)
    (condition : List Token) :
    placeholders (e.absenceClause qualifier dirtyRead condition) =
      placeholders qualifier ++ placeholders condition := by
  simp [Entity.absenceClause]

@[simp] theorem placeholders_updating (e : Entity) (as : List Assignment) (condition : List Token) :
    placeholders (e.updating as condition) =
      placeholders (as.map (·.placeholder)) ++ placeholders condition := by
  simp [Entity.updating]

/-! ## Whole statements -/

/-- Do the placeholders of a statement and its parameters match? -/
structure Command.IsBound (c : Command) : Prop where
  noRows : c.table = none
  distinct : c.params.names.Nodup
  /-- A placeholder names one parameter, and is written as that parameter asks for. -/
  named : ∀ t ∈ c.tokens, ∀ name, t.placeholder? = some name → ∃ p ∈ c.params.entries,
    p.name = name ∧ (∀ p' ∈ c.params.entries, p'.name = name → p' = p) ∧
      t = if p.inline then .inlineParam name else .param name
  occurs : ∀ p ∈ c.params.entries, p.placeholder ∈ c.tokens
  order : (placeholders c.tokens).eraseDups = c.params.entries.map Parameter.placeholder

/-- Are the rows of a statement its only parameter? -/
structure Command.IsShipped (c : Command) : Prop where
  unbound : c.params.entries = []
  rows : ∃ rows, c.table = some rows ∧ rows.placeholder ∈ c.tokens ∧
    ∀ t ∈ c.tokens, t.isPlaceholder = true → t = rows.placeholder

section Statements

variable {g : Generator} {e : Entity} {c : Command} {ts more : List Token}

/-- Parameters of different names have different placeholders. -/
theorem nodup_placeholders {ps : Parameters} (h : ps.names.Nodup) :
    (ps.entries.map Parameter.placeholder).Nodup := by
  have hnames : (ps.entries.map Parameter.placeholder).map Token.placeholder? =
      ps.names.map some := by
    rw [Parameters.names, List.map_map, List.map_map]
    exact List.map_congr_left fun p _ => placeholder?_placeholder p
  apply List.Nodup.of_map Token.placeholder?
  rw [hnames]
  exact h.map fun _ _ => Option.some.inj

/-- A statement that writes what it binds, and some of it once more. -/
theorem isBound_of_repeated (more : List Token) (h : Writes g.unbound ts c.params)
    (hnone : c.table = none) (htokens : placeholders c.tokens = placeholders ts ++ more)
    (hmore : ∀ t ∈ more, t ∈ placeholders ts) : c.IsBound := by
  have hdistinct : c.params.names.Nodup := h.distinct List.nodup_nil
  obtain ⟨new, hentries, hwritten⟩ := h.added
  rw [show g.unbound.entries = [] from rfl, List.nil_append] at hentries
  rw [← hentries] at hwritten
  -- what is written once more stands behind its first occurrence
  have horder : (placeholders c.tokens).eraseDups = c.params.entries.map Parameter.placeholder := by
    rw [htokens, eraseDups_append_of_subset hmore, hwritten]
    exact eraseDups_of_nodup (nodup_placeholders hdistinct)
  have hmem : ∀ t, (t ∈ c.tokens ∧ t.isPlaceholder = true) ↔
      ∃ p ∈ c.params.entries, p.placeholder = t := by
    intro t
    rw [← List.mem_filter, ← placeholders, ← List.mem_eraseDups, horder, List.mem_map]
  refine ⟨hnone, hdistinct, ?_, ?_, horder⟩
  · intro t ht name hname
    obtain ⟨p, hp, rfl⟩ := (hmem t).1 ⟨ht, by rw [Token.isPlaceholder, hname, Option.isSome_some]⟩
    rw [placeholder?_placeholder] at hname
    cases hname
    refine ⟨p, hp, rfl, fun p' hp' heq => ?_, rfl⟩
    exact List.inj_on_of_nodup_map hdistinct hp' hp heq
  · intro p hp
    exact ((hmem p.placeholder).2 ⟨p, hp, rfl⟩).1

/-- A statement that writes what it binds. -/
theorem isBound_of_writes (h : Writes g.unbound c.tokens c.params) (hnone : c.table = none) :
    c.IsBound :=
  isBound_of_repeated [] h hnone (List.append_nil _).symm fun _ ht => absurd ht List.not_mem_nil

theorem select_isBound {q : Query} (h : g.select q = .ok c) : c.IsBound := by
  refine isBound_of_writes (Query.select_writes h) ?_
  rcases select_eq_ok.1 h with ⟨list, hmakes⟩ | ⟨grouped, projection, hmakes⟩
  · exact hmakes.table
  · exact hmakes.table

theorem insert_isBound {item : Row} (h : g.insert e item = .ok c) : c.IsBound := by
  obtain ⟨as, ps, has, rfl⟩ := insert_eq_ok.1 h
  exact isBound_of_writes ((Assignment.ofItem_writes has).of_placeholders (by simp)) rfl

theorem insertOutput_isBound {item : Row} (h : g.insertOutput e item = .ok c) : c.IsBound := by
  obtain ⟨as, ps, has, rfl⟩ := insertOutput_eq_ok.1 h
  refine isBound_of_writes ((Assignment.ofItem_writes has).of_placeholders ?_) rfl
  simp [Entity.valuesClause]

theorem insertIfAbsent_isBound {item : Row} {absentWhen : Expr}
    (h : g.insertIfAbsent e item absentWhen = .ok c) : c.IsBound := by
  obtain ⟨as, condition, ps₁, ps, has, hcondition, rfl⟩ := insertIfAbsent_eq_ok.1 h
  have hwrites := (Assignment.ofItem_writes has).append (Condition.ofExpr_writes hcondition)
  exact isBound_of_writes (hwrites.of_placeholders (by simp)) rfl

theorem insertTemplate_isBound {template : Row} {caches : Caches}
    (h : (g.insertTemplate e template caches).1 = .ok c) : c.IsBound := by
  obtain ⟨as, ps, has, rfl⟩ := insertTemplate_eq_ok h
  exact isBound_of_writes ((Assignment.ofValues_writes has).of_placeholders (by simp)) rfl

theorem update_isBound {values : Row} {filter : Expr} (h : g.update e values filter = .ok c) :
    c.IsBound := by
  obtain ⟨as, condition, ps₁, ps, has, hcondition, rfl⟩ := update_eq_ok.1 h
  have hwrites := (Assignment.ofValues_writes has).append (Condition.ofExpr_writes hcondition)
  exact isBound_of_writes (hwrites.of_placeholders (by simp)) rfl

/-- An upsert writes the placeholders of its values for the update and for the insertion. -/
theorem upsert_isBound {values : Row} {filter : Expr} (h : g.upsert e values filter = .ok c) :
    c.IsBound := by
  obtain ⟨as, condition, ps₁, ps, has, hcondition, rfl⟩ := upsert_eq_ok.1 h
  have hwrites := (Assignment.ofValues_writes has).append (Condition.ofExpr_writes hcondition)
  refine isBound_of_repeated (placeholders (as.map (·.placeholder))) hwrites rfl ?_ ?_
  · simp [Entity.otherwise]
  · intro t ht
    rw [placeholders_append]
    exact List.mem_append_left _ ht

theorem delete_isBound {filter : Expr} (h : g.delete e filter = .ok c) : c.IsBound := by
  obtain ⟨condition, ps, hcondition, rfl⟩ := delete_eq_ok.1 h
  have hwrites := Condition.ofExpr_writes hcondition
  exact isBound_of_writes (hwrites.of_placeholders (by simp)) rfl

theorem deleteJoined_isBound {joins : List Join} {filter : Expr}
    (h : g.deleteJoined e joins filter = .ok c) : c.IsBound := by
  cases joins with
  | nil => exact delete_isBound h
  | cons j rest =>
    obtain ⟨-, clauses, condition, ps, ps₁, hclauses, hcondition, rfl⟩ :=
      (deleteJoined_eq_ok (List.cons_ne_nil j rest)).1 h
    have hwrites := hclauses.writes.append (Condition.ofExpr_writes hcondition)
    refine isBound_of_writes (hwrites.of_placeholders ?_) rfl
    simp [Generator.deletionTokens]

/-! ## Bulk statements -/

/-- A statement without parameters of its own, all of whose placeholders are that of its rows. -/
theorem isShipped_of_placeholders (rows : TableParameter) (hrows : c.table = some rows)
    (hentries : c.params.entries = []) (hsome : placeholders c.tokens ≠ [])
    (hall : ∀ t ∈ placeholders c.tokens, t = rows.placeholder) : c.IsShipped := by
  obtain ⟨t, ht⟩ := List.exists_mem_of_ne_nil _ hsome
  refine ⟨hentries, rows, hrows, ?_, fun t ht hplaceholder => ?_⟩
  · rw [← hall t ht]
    exact (List.mem_filter.1 ht).1
  · exact hall t (List.mem_filter.2 ⟨ht, hplaceholder⟩)

@[simp] theorem placeholders_source (rows : TableParameter) :
    placeholders rows.source = [rows.placeholder] := rfl

@[simp] theorem placeholders_allEqualShipped (qualifier : String) (ms : List Member) :
    placeholders (Member.allEqualShipped qualifier ms) = [] := by
  rw [Member.allEqualShipped, placeholders_joined]
  exact placeholders_flatten_map (fun m => by simp [Member.equalsShipped]) ms

theorem placeholders_bulkUpdating {rows : TableParameter} {matched : List Member}
    (h : e.bulkUpdating rows matched = .ok ts) : placeholders ts = [rows.placeholder] := by
  rw [Entity.bulkUpdating] at h
  split at h
  · cases h
  · cases h
    have hset : ∀ ms : List Member,
        placeholders (ms.map (Member.equalsShipped e.bulkAlias)).flatten = [] :=
      placeholders_flatten_map fun m => by simp [Member.equalsShipped]
    simp [hset]

theorem bulkInsert_isShipped {items : List Row} (h : g.bulkInsert e items = .ok c) :
    c.IsShipped := by
  obtain ⟨rows, -, rfl⟩ := bulkInsert_eq_ok.1 h
  refine isShipped_of_placeholders rows rfl rfl ?_ ?_
  · simp [TableParameter.placeholder]
  · simp [TableParameter.placeholder]

theorem bulkUpdate_isShipped {items : List Row} {template : Expr}
    (h : g.bulkUpdate e items template = .ok c) : c.IsShipped := by
  obtain ⟨matched, rows, ts, -, -, hts, rfl⟩ := bulkUpdate_eq_ok.1 h
  refine isShipped_of_placeholders rows rfl rfl ?_ ?_
  · simp [placeholders_bulkUpdating hts]
  · simp [placeholders_bulkUpdating hts]

theorem bulkUpsert_isShipped {items : List Row} {template : Expr}
    (h : g.bulkUpsert e items template = .ok c) : c.IsShipped := by
  obtain ⟨matched, rows, ts, -, -, hts, rfl⟩ := bulkUpsert_eq_ok.1 h
  refine isShipped_of_placeholders rows rfl rfl ?_ ?_
  · simp [placeholders_bulkUpdating hts]
  · simp [placeholders_bulkUpdating hts, Entity.bulkInserting]

end Statements

/-- An operation has all its statements, and in every one the placeholders and the parameters match; a bulk
statement has no parameter but its rows. -/
theorem perform_placeholders {g : Generator} {caches : Caches} {op : Operation} {cs : List Command}
    (h : g.perform caches op = .ok cs) :
    cs.length = op.commandCount ∧ ∀ c ∈ cs, if op.isBulk then c.IsShipped else c.IsBound := by
  refine ⟨length_perform h, ?_⟩
  cases op with
  | select q => exact forall_of_single select_isBound h
  | insert e item => exact forall_of_single insert_isBound h
  | insertOutput e item => exact forall_of_single insertOutput_isBound h
  | insertMany e items =>
    -- the only operation with several statements, each of which inserts one item
    intro c hc
    obtain ⟨item, -, hitem⟩ := exists_of_mem_mapM h hc
    exact insert_isBound hitem
  | insertIfAbsent e item absentWhen => exact forall_of_single insertIfAbsent_isBound h
  | insertTemplate e template => exact forall_of_single insertTemplate_isBound h
  | update e values filter => exact forall_of_single update_isBound h
  | upsert e values filter => exact forall_of_single upsert_isBound h
  | delete e filter => exact forall_of_single delete_isBound h
  | deleteJoined e joins filter => exact forall_of_single deleteJoined_isBound h
  | bulkInsert e items => exact forall_of_single bulkInsert_isShipped h
  | bulkUpdate e items template => exact forall_of_single bulkUpdate_isShipped h
  | bulkUpsert e items template => exact forall_of_single bulkUpsert_isShipped h

open Enrolment in
theorem perform_placeholders_chess :
    ∃ c, ({ inlineNumbers := true } : Generator).perform {} chess = .ok [c] ∧ c.IsBound := by
  have hok : ∃ c, ({ inlineNumbers := true } : Generator).perform {} chess = .ok [c] := ⟨_, rfl⟩
  obtain ⟨c, h⟩ := hok
  obtain ⟨-, hbound⟩ := perform_placeholders h
  exact ⟨c, h, hbound c (List.mem_singleton_self c)⟩

end Rowgraph
