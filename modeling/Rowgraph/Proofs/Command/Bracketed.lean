import Mathlib.Data.List.Chain
import Rowgraph.Proofs.Command.QueryLayout
import Rowgraph.Proofs.Text.Reading

/-!
# Names in brackets

A name is written in brackets, and a table by up to three such names with dots between them. A reader that knows
nothing but brackets, dots and how a closing bracket is doubled gets the names back, whatever characters are in
them, and stops behind the last one (`Bracketed.path?_chars`). It would go on only at a closing bracket, or at a
dot and an opening one. What stands behind a name in a statement is neither. It is a space, a comma, a closing
parenthesis, a semicolon, or nothing (`perform_apart`), so that each name of a statement is read back from the
statement's text (`names_read`).
-/

set_option autoImplicit false

namespace Rowgraph

open Tokens

/-! ## Reading names -/

namespace Bracketed

variable {rest : List Char}

/-- The name in brackets that a text begins with, and what follows it. -/
def name? : List Char → Option (String × List Char)
  | '[' :: cs => (Doubled.decode? ']' cs).map fun (text, rest) => (String.ofList text, rest)
  | _ => none

/-- A name and up to so many others, each behind a dot, and what follows them. -/
def path? : Nat → List Char → Option (List String × List Char)
  | 0, cs => (name? cs).map fun (name, rest) => ([name], rest)
  | more + 1, cs => (name? cs).bind fun (name, rest) =>
    match rest with
    | '.' :: '[' :: after => (path? more ('[' :: after)).map fun (names, rest) => (name :: names, rest)
    | _ => some ([name], rest)

/-- Does nothing that follows belong to the names in front of it? -/
def Ends (rest : List Char) : Prop := rest.head? ≠ some ']' ∧ ¬ ['.', '['] <+: rest

/-- A name is read back from its brackets. -/
theorem name?_bracketed (name : String) (h : rest.head? ≠ some ']') :
    name? (bracketed name ++ rest) = some (name, rest) := by
  have hread := Doubled.decode?_encode name.toList h
  rw [bracketed, List.append_assoc, List.singleton_append, List.cons_append, name?, hread, Option.map_some]
  simp

/-- A name is the last one unless a dot and a bracket follow. -/
theorem path?_last (more : Nat) (name : String) (h : Ends rest) :
    path? more (bracketed name ++ rest) = some ([name], rest) := by
  have hread := name?_bracketed name h.1
  cases more with
  | zero => rw [path?, hread, Option.map_some]
  | succ more =>
    rw [path?, hread, Option.bind_some]
    dsimp only
    split
    · -- there would be a dot and a bracket
      next after => exact absurd ⟨after, rfl⟩ h.2
    · rfl

/-- Behind a dot the next name is read. -/
theorem path?_dot (more : Nat) (name next : String) (rest : List Char) :
    path? (more + 1) (bracketed name ++ '.' :: (bracketed next ++ rest)) =
      (path? more (bracketed next ++ rest)).map fun (names, rest) => (name :: names, rest) := by
  have hdot : ('.' :: (bracketed next ++ rest)).head? ≠ some ']' := by simp
  have hread := name?_bracketed name hdot
  rw [path?, hread, Option.bind_some]
  rfl

/-- The names by which a table is written. The default schema stands for one that is missing behind a database. -/
def parts : Option String → Option String → String → List String
  | none, none, name => [name]
  | none, some schema, name => [schema, name]
  | some database, schema, name => [database, schema.getD defaultSchema, name]

/-- The names by which a table is written are read back. -/
theorem path?_table (database schema : Option String) (name : String) (h : Ends rest) :
    path? 2 ((Token.table database schema name).chars ++ rest) = some (parts database schema name, rest) := by
  cases database with
  | none =>
    cases schema with
    | none => exact path?_last 2 name h
    | some schema =>
      rw [Token.chars, List.append_assoc, List.cons_append, path?_dot, path?_last 1 name h]
      rfl
  | some database =>
    rw [Token.chars, List.append_assoc, List.cons_append, List.append_assoc, List.cons_append, path?_dot,
      path?_dot, path?_last 0 name h]
    rfl

end Bracketed

namespace Token

/-- The names that a token writes in brackets. -/
def parts? : Token → Option (List String)
  | .ident name => some [name]
  | .table database schema name => some (Bracketed.parts database schema name)
  | _ => none

/-- Does the token write names in brackets? -/
def isName (t : Token) : Bool := t.parts?.isSome

/-- Does the token separate what stands in front of it from what stands behind? -/
def separates : Token → Bool
  | .word .space => true
  | .word .comma => true
  | .word .rparen => true
  | .word .semicolon => true
  | _ => false

@[simp] theorem isName_word (w : Word) : (word w).isName = false := rfl

@[simp] theorem isName_ident (name : String) : (ident name).isName = true := rfl

@[simp] theorem isName_table (database schema : Option String) (name : String) :
    (table database schema name).isName = true := rfl

@[simp] theorem isName_alias (name : String) : (Token.alias name).isName = false := rfl

@[simp] theorem isName_param (name : String) : (param name).isName = false := rfl

@[simp] theorem isName_int (n : Int) : (int n).isName = false := rfl

@[simp] theorem isName_function (name : String) : (function name).isName = false := rfl

@[simp] theorem isName_type (name : String) : (type name).isName = false := rfl

end Token

/-- The names that a token writes are read back from its text. -/
theorem Bracketed.path?_chars {t : Token} {parts : List String} (h : t.parts? = some parts) {rest : List Char}
    (hends : Ends rest) : path? 2 (t.chars ++ rest) = some (parts, rest) := by
  cases t with
  | ident name =>
    cases h
    exact path?_last 2 name hends
  | table database schema name =>
    cases h
    exact path?_table database schema name hends
  | _ => cases h

/-! ## What stands behind a name -/

namespace Tokens

/-- Do the tokens begin with one that separates, if there is any? -/
def Begins (ts : List Token) : Prop := ∀ t ∈ ts.head?, t.separates = true

/-- Does a token that separates stand behind each name? -/
def Apart (ts : List Token) : Prop := ts.IsChain fun t u => t.isName = true → u.separates = true

/-- May the tokens stand behind a name, and is each of their own names set apart? -/
structure Trails (ts : List Token) : Prop where
  begins : Begins ts
  apart : Apart ts

/-- May anything stand behind the tokens? -/
def Leads (ts : List Token) : Prop := ∀ us, Apart us → Apart (ts ++ us)

end Tokens

section Adjacent

variable {t : Token} {ts us : List Token}

@[simp] theorem begins_nil : Begins [] := fun _ ht => nomatch ht

@[simp] theorem begins_cons : Begins (t :: ts) ↔ t.separates = true := by
  simp [Begins]

@[simp] theorem apart_nil : Apart [] := List.isChain_nil

@[simp] theorem apart_cons : Apart (t :: ts) ↔ (t.isName = true → Begins ts) ∧ Apart ts := by
  rw [Apart, List.isChain_cons, Apart, Begins]
  refine and_congr_left fun _ => ?_
  constructor
  · exact fun h hname u hu => h u hu hname
  · exact fun h u hu hname => h hname u hu

/-- Tokens that may stand behind a name may stand behind any. -/
theorem Tokens.Apart.append (h : Apart ts) (h' : Trails us) : Apart (ts ++ us) :=
  List.isChain_append.2 ⟨h, h'.apart, fun _ _ u hu _ => h'.begins u hu⟩

/-- What stands behind a name of the tokens separates. -/
theorem Tokens.Apart.begins {before after : List Token} (h : Apart (before ++ t :: after))
    (ht : t.isName = true) : Begins after := by
  obtain ⟨-, hbehind, -⟩ := List.isChain_append.1 h
  exact (apart_cons.1 hbehind).1 ht

theorem Tokens.Trails.nil : Trails [] := ⟨begins_nil, apart_nil⟩

theorem Tokens.Trails.append (h : Trails ts) (h' : Trails us) : Trails (ts ++ us) where
  begins := by
    cases ts with
    | nil => exact h'.begins
    | cons t ts => exact begins_cons.2 (begins_cons.1 h.begins)
  apart := h.apart.append h'

theorem Tokens.Trails.cons (ht : t.separates = true) (h : Apart ts) : Trails (t :: ts) where
  begins := begins_cons.2 ht
  apart := by
    refine apart_cons.2 ⟨fun hname => ?_, h⟩
    cases t with
    | ident name => cases ht
    | table database schema name => cases ht
    | _ => cases hname

theorem Tokens.Leads.nil : Leads [] := fun _ hus => hus

theorem Tokens.Leads.append (h : Leads ts) (h' : Leads us) : Leads (ts ++ us) := by
  intro rest hrest
  rw [List.append_assoc]
  exact h _ (h' rest hrest)

/-- Anything may stand behind a token that separates. -/
theorem Tokens.Leads.last (h : Apart ts) (ht : t.separates = true) : Leads (ts ++ [t]) := by
  intro us hus
  rw [List.append_assoc, List.singleton_append]
  exact h.append (.cons ht hus)

theorem leads_spaced (w : Word) : Leads (spaced w) := by
  intro us hus
  simp [spaced, hus]

theorem trails_clause {w : Word} (h : Apart ts) : Trails (clause w ts) :=
  .cons rfl (leads_spaced w ts h)

theorem apart_parenthesized (h : Apart ts) : Apart (parenthesized ts) := by
  have hclose : Trails [Token.word .rparen] := .cons rfl apart_nil
  exact apart_cons.2 ⟨nofun, h.append hclose⟩

theorem apart_between {w : Word} (h : Apart ts) (h' : Apart us) :
    Apart (ts ++ [Token.word .space] ++ spaced w ++ us) := by
  have hword : Trails (.word .space :: (spaced w ++ us)) := .cons rfl (leads_spaced w us h')
  rw [List.append_assoc, List.append_assoc]
  exact h.append hword

theorem apart_separated {items : List (List Token)} (h : ∀ item ∈ items, Apart item) :
    Apart (separated items) := by
  refine separated_of_closed apart_nil (fun {_ us} hts hus => ?_) h
  -- behind an item stands the comma, and the space is no name
  have hspace : Apart (.word .space :: us) := apart_cons.2 ⟨nofun, hus⟩
  exact hts.append (.cons rfl hspace)

theorem apart_joined {w : Word} {tests : List (List Token)} (h : ∀ test ∈ tests, Apart test) :
    Apart (Condition.joined w tests) :=
  Condition.joined_of_closed apart_nil apart_between h

end Adjacent

/-! ## Conditions and lists of columns -/

section Parts

variable {scope : Scope} {ts : List Token}

theorem apart_column (scope : Scope) (r : Resolved) : Apart (scope.column r) := by
  rw [Scope.column]
  split <;> simp

theorem Condition.Operand.apart (h : Condition.Operand scope ts) : Apart ts := by
  cases h with
  | column r => exact apart_column scope r
  | placeholder h => simp
  | number n => simp

theorem Condition.Written.apart (h : Condition.Written scope ts) : Apart ts := by
  induction h with
  | compare op hleft hright => exact apart_between hleft.apart hright.apart
  | isNull r negated =>
    rw [List.append_assoc]
    exact (apart_column scope r).append (.cons rfl (by simp))
  | @like r negated t h =>
    have hpattern : Apart ([t] ++ [Token.word .space, .word .likeEscape]) := by simp [Token.separates]
    exact apart_between (apart_column scope r) hpattern
  | among negated h ih => exact apart_parenthesized (apart_joined ih)
  | and hleft hright ihl ihr => exact apart_between (apart_parenthesized ihl) (apart_parenthesized ihr)
  | or hleft hright ihl ihr => exact apart_between (apart_parenthesized ihl) (apart_parenthesized ihr)

theorem apart_ofExpr {e : Expr} {ps ps' : Parameters} {c : Condition}
    (h : Condition.ofExpr scope e ps = (.ok c, ps')) : Apart c.tokens := (Condition.written_ofExpr h).apart

/-- A list of parts in which names are set apart. -/
theorem apart_separated_map {α : Type} {f : α → List Token} (h : ∀ a, Apart (f a)) (as : List α) :
    Apart (separated (as.map f)) := by
  refine apart_separated fun item hitem => ?_
  obtain ⟨a, -, rfl⟩ := List.mem_map.1 hitem
  exact h a

/-- A part under another name. -/
theorem apart_as (h : Apart ts) (name : String) :
    Apart (ts ++ ([Token.word .space] ++ spaced .as ++ [Token.ident name])) := by
  have hident : Apart [.ident name] := by simp
  have hname := apart_between (w := .as) h hident
  rwa [List.append_assoc, List.append_assoc, ← List.append_assoc [Token.word .space]] at hname

theorem trails_aliasTokens (scope : Scope) (position : Nat) : Trails (Join.aliasTokens scope position) := by
  rw [Join.aliasTokens]
  split
  · exact .cons rfl (by simp)
  · exact .nil

theorem trails_hint (dirtyRead : Bool) : Trails (Join.hint dirtyRead) := by
  cases dirtyRead with
  | true => exact .cons rfl (by simp)
  | false => exact .nil

end Parts

/-! ## Queries -/

section Queries

variable {ts : List Token}

/-- The clauses of joins stand behind the table in front of them. -/
theorem trails_clauses {c : Join.Context} {position : Nat} {joins : List Join} {ps ps' : Parameters}
    (h : Join.Clauses c position joins ps ts ps') : Trails ts := by
  induction h with
  | nil position ps => exact .nil
  | @cons position j rest table e condition ps ps₁ ps' ts reference given compiled others ih =>
    -- behind the table stand its alias and the hint if there are any, and ON in every case
    have hqualifier := (trails_aliasTokens c.scope position).append (trails_hint c.dirtyRead)
    have htable : Apart ([table] ++ (Join.aliasTokens c.scope position ++ Join.hint c.dirtyRead)) :=
      apart_cons.2 ⟨fun _ => hqualifier.begins, hqualifier.apart⟩
    have hhead : Trails (.word .space :: (spaced (Join.kindWord j.kind) ++ (spaced .join ++
        ([table] ++ (Join.aliasTokens c.scope position ++ Join.hint c.dirtyRead))))) :=
      .cons rfl (leads_spaced _ _ (leads_spaced .join _ htable))
    have hclause := (hhead.append (trails_clause (w := .on) (apart_ofExpr compiled))).append ih
    simpa only [Join.clauseTokens, List.append_assoc, List.cons_append, List.nil_append] using hclause

namespace Query

variable {q : Query} {g : Generator} {ps ps' : Parameters}

theorem trails_filters (h : q.Filters ps ts ps') : Trails ts := by
  cases h with
  | none _ given => exact .nil
  | some given compiled => exact trails_clause (apart_ofExpr compiled)

theorem trails_source (h : Yields (q.source g) ps ts ps') : Trails ts := by
  obtain ⟨-, joins, filter, ps₁, hjoins, hfilter, rfl⟩ := yields_source.1 h
  have htable : Trails (clause .fromKw [q.root.reference]) := trails_clause (by simp)
  exact (((htable.append (trails_aliasTokens _ _)).append (trails_hint _)).append
    (trails_clauses hjoins)).append (trails_filters hfilter)

theorem leads_selectHead (q : Query) : Leads q.selectHead := by
  refine (leads_spaced .select).append ?_
  split
  · exact leads_spaced .distinct
  · exact .nil

theorem leads_top (h : q.top = .ok ts) : Leads ts := by
  rcases top_eq_ok h with rfl | ⟨n, rfl⟩
  · exact .nil
  · exact .last (by simp [parenthesized]) rfl

theorem apart_ordered {column : List Token} (h : Apart column) (direction : Direction) :
    Apart (ordered column direction) := h.append (.cons rfl (by simp))

theorem apart_memberOrders {scope : Scope} {items : List OrderItem} {orders : List (List Token)}
    (h : items.mapM (memberOrder scope) = .ok orders) : ∀ order ∈ orders, Apart order := by
  intro order horder
  obtain ⟨item, -, hitem⟩ := exists_of_mem_mapM h horder
  obtain ⟨r, rfl⟩ := memberOrder_eq_ok hitem
  exact apart_ordered (apart_column scope r) item.direction

theorem apart_groupedOrders {scope : Scope} {columns : List ProjectedColumn} {items : List OrderItem}
    {orders : List (List Token)} (h : items.mapM (groupedOrder scope columns) = .ok orders) :
    ∀ order ∈ orders, Apart order := by
  intro order horder
  obtain ⟨item, -, hitem⟩ := exists_of_mem_mapM h horder
  obtain ⟨name, rfl⟩ := groupedOrder_eq_ok hitem
  exact apart_ordered (by simp) item.direction

theorem trails_fetch (h : q.fetch = .ok ts) : Trails ts := by
  rcases fetch_eq_ok h with rfl | ⟨n, rfl⟩
  · exact .nil
  · exact trails_clause (by simp [spaced])

theorem trails_ending {orders : List (List Token)} (horders : ∀ order ∈ orders, Apart order)
    (h : q.ending orders = .ok ts) : Trails ts := by
  have hlist : Apart (separated orders) := apart_separated horders
  rcases ending_eq_ok h with ⟨-, rfl⟩ | ⟨-, rfl⟩ | ⟨n, fetched, hfetched, rfl⟩
  · exact .nil
  · exact trails_clause hlist
  · have hoffset : ∀ n, Trails (offsetClause (.int n)) := fun n => trails_clause (by simp)
    refine Trails.append (Trails.append (trails_clause ?_) (hoffset _)) (trails_fetch hfetched)
    split
    · exact apart_parenthesized (leads_spaced .select _ (by simp))
    · exact hlist

end Query

theorem apart_selected (scope : Scope) (c : SelectedColumn) : Apart (c.tokens scope) := by
  rw [SelectedColumn.tokens]
  split
  · rw [List.append_nil]
    exact apart_column scope c.source
  · exact apart_as (apart_column scope c.source) c.output

namespace Grouping

variable {scope : Scope} {grouped : List Resolved}

theorem apart_application (function : Aggregate) {arg : List Token} (h : Apart arg) :
    Apart (application function arg) := by
  have hclose : Trails [Token.word .rparen] := .cons rfl apart_nil
  have hcall : Apart ([Token.function function.functionName, .word .lparen] ++ arg) := by simp [h]
  exact hcall.append hclose

theorem apart_averaged {column : List Token} (h : Apart column) : Apart (averaged column) := by
  have htype : Trails ([Token.word .space] ++ spaced .as ++ [Token.type "decimal", .word .lparen,
      .int averagePrecision.1, .word .comma, .word .space, .int averagePrecision.2, .word .rparen,
      .word .rparen]) := .cons rfl (by simp [spaced])
  have hcast : Apart ([Token.word .cast, .word .lparen] ++ column) := by simp [h]
  simpa only [averaged, List.append_assoc] using hcast.append htype

theorem Taken.apart (h : Taken scope ts) : Apart ts := by
  cases h with
  | column r => exact apart_column scope r
  | aggregate function r => exact apart_application function (apart_column scope r)
  | average function r => exact apart_application function (apart_averaged (apart_column scope r))
  | rows function => exact apart_application function (by simp)

theorem apart_project {items : List (String × Expr)} {projection : Projection}
    (h : project scope grouped items = .ok projection) : Apart projection.tokens := by
  obtain ⟨its, -, htokens, hits⟩ := project_eq_ok h
  rw [htokens]
  refine apart_separated fun it hit => ?_
  obtain ⟨ts, name, htaken, rfl⟩ := hits it hit
  exact apart_as htaken.apart name

end Grouping

theorem apart_select {g : Generator} {q : Query} {c : Command} (h : g.select q = .ok c) :
    Apart c.tokens := by
  rcases select_eq_ok.1 h with ⟨list, hmakes⟩ | ⟨grouped, projection, hmakes⟩
  · obtain ⟨source, top, orders, ending, hsource, htop, horders, hending, htokens⟩ := hmakes.parts
    have hlist : Apart list.tokens := by
      have houtcome := SelectList.outcome_ofPicks q.scope q.picks
      rw [hmakes.columns] at houtcome
      cases houtcome with
      | made asked lays =>
        rw [lays.tokens]
        exact apart_separated_map (apart_selected q.scope) list.columns
    have hhead := (q.leads_selectHead.append (Query.leads_top htop)) list.tokens hlist
    rw [htokens]
    exact (hhead.append (Query.trails_source hsource)).append
      (Query.trails_ending (Query.apart_memberOrders horders) hending)
  · obtain ⟨source, top, orders, ending, hsource, htop, horders, hending, htokens⟩ := hmakes.parts
    obtain ⟨items, -, hprojected⟩ := hmakes.projected
    have hcolumns : Apart (Grouping.tokens q.scope grouped) :=
      apart_separated_map (apart_column q.scope) grouped
    have hprojection := q.leads_selectHead _ (Grouping.apart_project hprojected)
    -- the grouped query in parentheses, and its name behind them
    have hinner := (hprojection.append (Query.trails_source hsource)).append
      (trails_clause (w := .groupBy) hcolumns)
    have hstar : Apart [Token.word .star] := by simp
    have houter := ((leads_spaced .select).append (Query.leads_top htop)) _ hstar
    have hname : Trails [Token.word .space, .ident Query.groupedTable] := .cons rfl (by simp)
    rw [htokens]
    exact ((houter.append (trails_clause (w := .fromKw) (apart_parenthesized hinner))).append hname).append
      (Query.trails_ending (Query.apart_groupedOrders horders) hending)

end Queries

/-! ## Writes -/

section Writes

variable {g : Generator} {e : Entity} {c : Command} {as : List Assignment} {ts qualifier condition : List Token}

theorem apart_columnTokens (qualifier : Option String) (m : Member) : Apart (m.columnTokens qualifier) := by
  rw [Member.columnTokens.eq_def]
  split <;> simp

theorem apart_columnList (qualifier : Option String) (ms : List Member) :
    Apart (Member.columnList qualifier ms) := apart_separated_map (apart_columnTokens qualifier) ms

theorem apart_placeholders (as : List Assignment) : Apart (Assignment.placeholders as) :=
  apart_separated_map (fun a => by simp) as

/-- A table under an alias or with a hint behind it. -/
theorem apart_reference (e : Entity) (h : Trails ts) : Apart (e.reference :: ts) :=
  apart_cons.2 ⟨fun _ => h.begins, h.apart⟩

theorem leads_insertHead (e : Entity) (ms : List Member) : Leads (e.insertHead ms) := by
  have hcolumns : Trails (.word .space :: parenthesized (Member.columnList none ms)) :=
    .cons rfl (apart_parenthesized (apart_columnList none ms))
  have hhead := leads_spaced .insert _ (leads_spaced .into _ (apart_reference e hcolumns))
  have hlast : Leads _ := .last hhead (t := .word .space) rfl
  simpa only [Entity.insertHead, List.append_assoc, List.cons_append, List.nil_append] using hlast

theorem apart_valuesClause (as : List Assignment) : Apart (Entity.valuesClause as) :=
  leads_spaced .values _ (apart_parenthesized (apart_placeholders as))

theorem apart_insertion (e : Entity) (as : List Assignment) : Apart (e.insertion as) :=
  leads_insertHead e _ _ (apart_valuesClause as)

theorem trails_absenceClause (e : Entity) (hqualifier : Trails qualifier) (dirtyRead : Bool)
    (h : Apart condition) : Trails (e.absenceClause qualifier dirtyRead condition) := by
  have htable : Trails (clause .fromKw [e.reference]) := trails_clause (apart_reference e .nil)
  have hnumber : Apart (spaced .select ++ [Token.int 1]) := leads_spaced .select _ (by simp)
  have hquery := (((hnumber.append htable).append hqualifier).append (trails_hint dirtyRead)).append
    (trails_clause (w := .whereKw) h)
  have htest := (leads_spaced .not).append (leads_spaced .exists) _ (apart_parenthesized hquery)
  exact trails_clause htest

theorem apart_updating (e : Entity) (as : List Assignment) (h : Apart condition) :
    Apart (e.updating as condition) := by
  have hitem : ∀ a, Apart (Entity.setItem a) := by
    intro a
    have hplaceholder : Apart [a.placeholder] := by simp
    exact apart_between (apart_columnTokens none a.member) hplaceholder
  have htable : Apart (spaced .update ++ [e.reference]) := leads_spaced .update _ (apart_reference e .nil)
  exact (htable.append (trails_clause (apart_separated_map hitem as))).append (trails_clause h)

/-- A semicolon stands behind the statement in front. -/
theorem trails_otherwise (h : Apart ts) : Trails (Entity.otherwise ts) := by
  have htest : Apart ([Token.word .rowCount, .word .space] ++ spaced .eq ++ [Token.int 0, .word .space] ++ ts) := by
    simp [spaced, h]
  exact .cons rfl (trails_clause (w := .ifKw) htest).apart

theorem apart_insert {item : Row} (h : g.insert e item = .ok c) : Apart c.tokens := by
  obtain ⟨as, ps, has, rfl⟩ := insert_eq_ok.1 h
  exact apart_insertion e as

theorem apart_outputItem (m : Member) : Apart m.outputItem := by
  have hcast : Apart ([Token.word .cast] ++
      parenthesized ([Token.int 0, .word .space] ++ spaced .as ++ [Token.type m.castType])) := by
    simp [spaced, parenthesized]
  have hcolumn : Apart [.word .inserted, .word .dot, .ident m.columnName] := by simp
  rw [Member.outputItem]
  split
  · exact apart_as hcast m.name
  · split
    · exact hcolumn
    · exact apart_as hcolumn m.name

theorem apart_insertOutput {item : Row} (h : g.insertOutput e item = .ok c) : Apart c.tokens := by
  obtain ⟨as, ps, has, rfl⟩ := insertOutput_eq_ok.1 h
  have houtput : Apart e.outputTokens := by
    rw [outputTokens_eq]
    exact apart_separated_map apart_outputItem e.mapped
  have hhead := (leads_insertHead e (Assignment.members as)).append (leads_spaced .output) _ houtput
  exact Leads.last hhead rfl _ (apart_valuesClause as)

theorem apart_insertIfAbsent {item : Row} {absentWhen : Expr}
    (h : g.insertIfAbsent e item absentWhen = .ok c) : Apart c.tokens := by
  obtain ⟨as, condition, ps₁, ps, has, hcondition, rfl⟩ := insertIfAbsent_eq_ok.1 h
  have hhead := (leads_insertHead e (Assignment.members as)).append (leads_spaced .select) _
    (apart_placeholders as)
  exact hhead.append (trails_absenceClause e .nil g.dirtyRead (apart_ofExpr hcondition))

theorem apart_insertTemplate {template : Row} {caches : Caches}
    (h : (g.insertTemplate e template caches).1 = .ok c) : Apart c.tokens := by
  obtain ⟨as, ps, has, rfl⟩ := insertTemplate_eq_ok h
  exact apart_insertion e as

theorem apart_update {values : Row} {filter : Expr} (h : g.update e values filter = .ok c) :
    Apart c.tokens := by
  obtain ⟨as, condition, ps₁, ps, has, hcondition, rfl⟩ := update_eq_ok.1 h
  exact apart_updating e as (apart_ofExpr hcondition)

theorem apart_upsert {values : Row} {filter : Expr} (h : g.upsert e values filter = .ok c) :
    Apart c.tokens := by
  obtain ⟨as, condition, ps₁, ps, has, hcondition, rfl⟩ := upsert_eq_ok.1 h
  exact (apart_updating e as (apart_ofExpr hcondition)).append
    (trails_otherwise (apart_insertion e as))

theorem apart_delete {filter : Expr} (h : g.delete e filter = .ok c) : Apart c.tokens := by
  obtain ⟨condition, ps, hcondition, rfl⟩ := delete_eq_ok.1 h
  have htable := (leads_spaced .delete).append (leads_spaced .fromKw) _ (apart_reference e .nil)
  exact htable.append (trails_clause (apart_ofExpr hcondition))

theorem apart_deleteJoined {joins : List Join} {filter : Expr}
    (h : g.deleteJoined e joins filter = .ok c) : Apart c.tokens := by
  cases joins with
  | nil => exact apart_delete h
  | cons j rest =>
    obtain ⟨-, clauses, condition, ps, ps₁, hclauses, hcondition, rfl⟩ :=
      (deleteJoined_eq_ok (List.cons_ne_nil j rest)).1 h
    have hroot : Trails [Token.word .space, .alias (Alias.ofName e.name 0)] := .cons rfl (by simp)
    have hhead : Apart (spaced .delete ++ [Token.alias (Alias.ofName e.name 0)]) :=
      leads_spaced .delete _ (by simp)
    -- the table is named behind FROM only; behind DELETE stands its alias
    exact ((hhead.append (trails_clause (w := .fromKw) (apart_reference e hroot))).append
      (trails_clauses hclauses)).append (trails_clause (apart_ofExpr hcondition))

/-! ## Bulk writes -/

theorem apart_equalsShipped (qualifier : String) (m : Member) : Apart (m.equalsShipped qualifier) :=
  apart_between (apart_columnTokens (some qualifier) m) (apart_columnTokens (some shippedAlias) m)

theorem apart_allEqualShipped (qualifier : String) (ms : List Member) :
    Apart (Member.allEqualShipped qualifier ms) := by
  refine apart_joined fun test htest => ?_
  obtain ⟨m, -, rfl⟩ := List.mem_map.1 htest
  exact apart_equalsShipped qualifier m

theorem apart_bulkUpdating {rows : TableParameter} {matched : List Member}
    (h : e.bulkUpdating rows matched = .ok ts) : Apart ts := by
  rw [Entity.bulkUpdating] at h
  split at h
  · cases h
  · cases h
    have hassigned := apart_separated_map (apart_equalsShipped e.bulkAlias) (e.bulkAssigned matched)
    have htable : Apart (spaced .update ++ [Token.alias e.bulkAlias]) := leads_spaced .update _ (by simp)
    have hrows : Trails (.word .space :: ([Token.alias e.bulkAlias, .word .space] ++ (spaced .inner ++
        (spaced .join ++ rows.source)))) := .cons rfl (by simp [spaced, TableParameter.source,
          TableParameter.placeholder])
    have hjoin := trails_clause (w := .fromKw) (apart_reference e hrows)
    have hall := ((htable.append (trails_clause (w := .set) hassigned)).append hjoin).append
      (trails_clause (w := .on) (apart_allEqualShipped e.bulkAlias matched))
    simpa only [clause, List.append_assoc, List.cons_append, List.nil_append] using hall

theorem apart_bulkInserting (e : Entity) (rows : TableParameter) (matched : List Member) (dirtyRead : Bool) :
    Apart (e.bulkInserting rows matched dirtyRead) := by
  have hcolumns := (leads_insertHead e e.insertable).append (leads_spaced .select) _
    (apart_columnList (some shippedAlias) e.insertable)
  have hrows : Trails (clause .fromKw rows.source) :=
    trails_clause (by simp [TableParameter.source, TableParameter.placeholder])
  have hqualifier : Trails [Token.word .space, .alias e.bulkAlias] := .cons rfl (by simp)
  exact (hcolumns.append hrows).append
    (trails_absenceClause e hqualifier dirtyRead (apart_allEqualShipped e.bulkAlias matched))

theorem apart_bulkInsert {items : List Row} (h : g.bulkInsert e items = .ok c) : Apart c.tokens := by
  obtain ⟨rows, -, rfl⟩ := bulkInsert_eq_ok.1 h
  have hcolumns := (leads_insertHead e e.insertable).append (leads_spaced .select) _
    (apart_columnList none e.insertable)
  exact hcolumns.append (trails_clause (by simp))

theorem apart_bulkUpdate {items : List Row} {template : Expr} (h : g.bulkUpdate e items template = .ok c) :
    Apart c.tokens := by
  obtain ⟨matched, rows, ts, -, -, hts, rfl⟩ := bulkUpdate_eq_ok.1 h
  exact apart_bulkUpdating hts

theorem apart_bulkUpsert {items : List Row} {template : Expr} (h : g.bulkUpsert e items template = .ok c) :
    Apart c.tokens := by
  obtain ⟨matched, rows, ts, -, -, hts, rfl⟩ := bulkUpsert_eq_ok.1 h
  have hsecond : Trails (.word .semicolon :: .word .space :: e.bulkInserting rows matched g.dirtyRead) :=
    .cons rfl (apart_cons.2 ⟨nofun, apart_bulkInserting e rows matched g.dirtyRead⟩)
  rw [List.append_assoc]
  exact (apart_bulkUpdating hts).append hsecond

end Writes

/-! ## Whole statements -/

/-- In every statement each name has a separator behind it, or nothing. -/
theorem perform_apart {g : Generator} {caches : Caches} {op : Operation} {cs : List Command}
    (h : g.perform caches op = .ok cs) : ∀ c ∈ cs, Apart c.tokens := by
  cases op with
  | select q => exact forall_of_single apart_select h
  | insert e item => exact forall_of_single apart_insert h
  | insertOutput e item => exact forall_of_single apart_insertOutput h
  | insertMany e items =>
    intro c hc
    obtain ⟨item, -, hitem⟩ := exists_of_mem_mapM h hc
    exact apart_insert hitem
  | insertIfAbsent e item absentWhen => exact forall_of_single apart_insertIfAbsent h
  | insertTemplate e template => exact forall_of_single apart_insertTemplate h
  | update e values filter => exact forall_of_single apart_update h
  | upsert e values filter => exact forall_of_single apart_upsert h
  | delete e filter => exact forall_of_single apart_delete h
  | deleteJoined e joins filter => exact forall_of_single apart_deleteJoined h
  | bulkInsert e items => exact forall_of_single apart_bulkInsert h
  | bulkUpdate e items template => exact forall_of_single apart_bulkUpdate h
  | bulkUpsert e items template => exact forall_of_single apart_bulkUpsert h

/-- A separator is one character, which goes on with no name. -/
theorem Token.chars_of_separates {t : Token} (h : t.separates = true) :
    ∃ c, t.chars = [c] ∧ c ≠ ']' ∧ c ≠ '.' := by
  cases t with
  | word w =>
    cases w with
    | space => exact ⟨' ', rfl, by decide, by decide⟩
    | comma => exact ⟨',', rfl, by decide, by decide⟩
    | rparen => exact ⟨')', rfl, by decide, by decide⟩
    | semicolon => exact ⟨';', rfl, by decide, by decide⟩
    | _ => cases h
  | _ => cases h

/-- What begins with a separator ends the names in front of it. -/
theorem Tokens.Begins.ends {ts : List Token} (h : Begins ts) : Bracketed.Ends (ts.flatMap Token.chars) := by
  cases ts with
  | nil => exact ⟨by simp, by simp⟩
  | cons t ts =>
    obtain ⟨c, hc, hclose, hdot⟩ := Token.chars_of_separates (begins_cons.1 h)
    rw [List.flatMap_cons, hc, List.singleton_append]
    refine ⟨?_, ?_⟩
    · simpa using hclose
    · rw [List.cons_prefix_cons]
      exact fun hprefix => hdot hprefix.1.symm

/-- A name in brackets is read back up to what follows it, if that does not go on with it, and so are the names of
a table. What follows a name of a statement never does, so that all names are read back where they stand in the
statement's text. -/
theorem names_read :
    (∀ (name : String) (rest : List Char), rest.head? ≠ some ']' →
      Bracketed.name? ((Token.ident name).chars ++ rest) = some (name, rest)) ∧
    (∀ (database schema : Option String) (name : String) (rest : List Char), Bracketed.Ends rest →
      Bracketed.path? 2 ((Token.table database schema name).chars ++ rest) =
        some (Bracketed.parts database schema name, rest)) ∧
    ∀ (g : Generator) (caches : Caches) (op : Operation) (cs : List Command), g.perform caches op = .ok cs →
      ∀ c ∈ cs, ∀ before t after, c.tokens = before ++ t :: after → ∀ parts, t.parts? = some parts →
        (∀ u ∈ after.head?, u.chars.head? ≠ some ']') ∧
          Bracketed.path? 2 (c.statement.sql.toList.drop (Tokens.text before).length) =
            some (parts, (Tokens.text after).toList) := by
  refine ⟨fun name rest h => Bracketed.name?_bracketed name h,
    fun database schema name rest h => Bracketed.path?_table database schema name h, ?_⟩
  intro g caches op cs hmade c hc before t after htokens parts hparts
  have hname : t.isName = true := by rw [Token.isName, hparts, Option.isSome_some]
  have hapart := perform_apart hmade c hc
  rw [htokens] at hapart
  have hbegins := hapart.begins hname
  constructor
  · intro u hu
    obtain ⟨c, hc, hclose, -⟩ := Token.chars_of_separates (hbegins u hu)
    rw [hc]
    simpa using hclose
  · -- in the text the name stands behind the text of the tokens before it
    have hdrop : c.statement.sql.toList.drop (Tokens.text before).length =
        t.chars ++ after.flatMap Token.chars := by
      rw [Command.statement, htokens, Tokens.text, Tokens.text, String.toList_ofList, String.length_ofList,
        List.flatMap_append, List.drop_left, List.flatMap_cons]
    rw [hdrop, Tokens.text, String.toList_ofList]
    exact Bracketed.path?_chars hparts hbegins.ends

/-- Names that begin and end with brackets: one alone, a table without a schema, and the table of a deletion. -/
theorem names_read_brackets :
    let clubs : Entity := { name := "[Club]]", members := [{ name := "Id", column := some "]" }] }
    let filter := Expr.compare (.member ⟨0, "Id"⟩) .eq (.value (.int 7))
    let before := spaced .delete ++ spaced .fromKw
    let after := clause .whereKw [.ident "]", .word .space, .word .eq, .word .space, .param "Id"]
    let c : Command :=
      { tokens := before ++ clubs.reference :: after, params := ⟨false, [⟨"Id", .int 7, none, false⟩]⟩ }
    Bracketed.name? ((Token.ident "]a[").chars ++ " = 1".toList) = some ("]a[", " = 1".toList) ∧
    Bracketed.path? 2 ((Token.table (some "d]") none ".t").chars ++ ";".toList) =
      some (["d]", "dbo", ".t"], ";".toList) ∧
    ({} : Generator).perform {} (.delete clubs filter) = .ok [c] ∧
    bracketed "[Club]]" = "[[Club]]]]]".toList ∧
    Bracketed.path? 2 (c.statement.sql.toList.drop (Tokens.text before).length) =
      some (["[Club]]"], (Tokens.text after).toList) := by
  intro clubs filter before after c
  have hmade : ({} : Generator).perform {} (.delete clubs filter) = .ok [c] := rfl
  have hread := names_read.2.2 {} {} _ [c] hmade c List.mem_cons_self before clubs.reference after rfl _ rfl
  exact ⟨names_read.1 "]a[" _ (by decide), names_read.2.1 (some "d]") none ".t" _ ⟨by decide, by decide⟩,
    hmade, rfl, hread.2⟩

end Rowgraph
