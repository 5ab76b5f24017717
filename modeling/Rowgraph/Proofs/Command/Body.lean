import Rowgraph.Proofs.Command.QueryLayout

/-!
# The text within clauses

What stands behind the word of a clause: expressions, names and values, with commas and parentheses around
them (`Tokens.Body`). Conditions, column lists, aggregates and orderings are such text, whatever members they
are made from. A reader of statements that looks for clauses and for tables finds neither in it, and leaves it
at the depth of parentheses at which it came; both are shown once, by induction over the three ways in which
such text is put together.
-/

set_option autoImplicit false

namespace Rowgraph

open Tokens

/-- The words that stand within a clause and begin none. -/
def Word.within : List Word :=
  [.and, .or, .as, .asc, .desc, .like, .notLike, .likeEscape, .isNull, .isNotNull, .null, .cast, .inserted,
    .comma, .dot, .star, .eq, .ne, .lt, .gt, .lte, .gte, .space]

/-- May the token stand within a clause? It begins none, names no table and is no parenthesis. -/
def Token.isWithin : Token → Bool
  | .word w => Word.within.contains w
  | .table _ _ _ => false
  | _ => true

/-- Is this text within a clause? Its parentheses are closed. -/
inductive Tokens.Body : List Token → Prop
  | plain {ts : List Token} (h : ts.all Token.isWithin = true) : Body ts
  | append {ts us : List Token} (h : Body ts) (h' : Body us) : Body (ts ++ us)
  | parenthesized {ts : List Token} (h : Body ts) : Body (parenthesized ts)

namespace Tokens.Body

variable {ts us : List Token}

theorem nil : Body [] := plain rfl

/-- Two parts with a word between them. -/
theorem between {w : Word} (hw : (Token.word w).isWithin = true) (h : Body ts) (h' : Body us) :
    Body (ts ++ [Token.word .space] ++ spaced w ++ us) := by
  have hspace : (Token.word .space).isWithin = true := rfl
  have hword : Body ([Token.word .space] ++ spaced w) := plain (by simp [spaced, hw, hspace])
  rw [List.append_assoc ts]
  exact (h.append hword).append h'

theorem separated {items : List (List Token)} (h : ∀ item ∈ items, Body item) : Body (separated items) := by
  have hcomma : Body [Token.word .comma, .word .space] := plain rfl
  exact separated_of_closed nil (fun hts hus => hts.append (hcomma.append hus)) h

theorem separated_map {α : Type} {f : α → List Token} (h : ∀ a, Body (f a)) (as : List α) :
    Body (Tokens.separated (as.map f)) := by
  refine separated fun item hitem => ?_
  obtain ⟨a, -, rfl⟩ := List.mem_map.1 hitem
  exact h a

theorem joined {w : Word} (hw : (Token.word w).isWithin = true) {tests : List (List Token)}
    (h : ∀ test ∈ tests, Body test) : Body (Condition.joined w tests) :=
  Condition.joined_of_closed nil (between hw) h

/-- A part under a name. -/
theorem named (h : Body ts) (name : String) :
    Body (ts ++ ([Token.word .space] ++ spaced .as ++ [Token.ident name])) := h.append (plain rfl)

theorem column (scope : Scope) (r : Resolved) : Body (scope.column r) := by
  apply plain
  rw [Scope.column]
  split <;> rfl

theorem placeholder {t : Token} (h : t.isPlaceholder = true) : Body [t] := by
  apply plain
  cases t with
  | word w => cases h
  | table database schema name => cases h
  | _ => rfl

end Tokens.Body

/-! ## Conditions -/

namespace Condition

variable {scope : Scope} {ts : List Token}

theorem Operand.body (h : Operand scope ts) : Body ts := by
  cases h with
  | column r => exact Body.column scope r
  | placeholder h => exact Body.placeholder h
  | number n => exact Body.plain rfl

theorem Written.body (h : Written scope ts) : Body ts := by
  induction h with
  | compare op hleft hright => exact Body.between (by cases op <;> rfl) hleft.body hright.body
  | isNull r negated =>
    have htest : Body [.word .space, .word (if negated then .isNotNull else .isNull)] :=
      Body.plain (by cases negated <;> rfl)
    rw [List.append_assoc]
    exact (Body.column scope r).append htest
  | like r negated h =>
    refine Body.between ?_ (Body.column scope r) ((Body.placeholder h).append (Body.plain rfl))
    cases negated <;> rfl
  | among negated h ih => exact (Body.joined (by cases negated <;> rfl) ih).parenthesized
  | and hleft hright ihl ihr => exact Body.between rfl ihl.parenthesized ihr.parenthesized
  | or hleft hright ihl ihr => exact Body.between rfl ihl.parenthesized ihr.parenthesized

theorem body_ofExpr {e : Expr} {ps ps' : Parameters} {c : Condition}
    (h : ofExpr scope e ps = (.ok c, ps')) : Body c.tokens := (written_ofExpr h).body

end Condition

/-! ## Columns and orderings of queries -/

theorem body_selected (scope : Scope) (c : SelectedColumn) : Body (c.tokens scope) := by
  rw [SelectedColumn.tokens]
  split
  · rw [List.append_nil]
    exact Body.column scope c.source
  · exact (Body.column scope c.source).named c.output

theorem body_ofPicks {scope : Scope} {picks : Option (List Pick)} {list : SelectList}
    (h : SelectList.ofPicks scope picks = .ok list) : Body list.tokens := by
  have houtcome := SelectList.outcome_ofPicks scope picks
  rw [h] at houtcome
  cases houtcome with
  | made asked lays =>
    rw [lays.tokens]
    exact Body.separated_map (body_selected scope) list.columns

namespace Grouping

variable {scope : Scope} {grouped : List Resolved}

theorem body_application (function : Aggregate) {arg : List Token} (h : Body arg) :
    Body (application function arg) := by
  have hname : Body [.function function.functionName] := Body.plain rfl
  exact hname.append h.parenthesized

theorem body_averaged {column : List Token} (h : Body column) : Body (averaged column) := by
  have hcast : Body [.word .cast] := Body.plain rfl
  have htype : Body ([Token.word .space] ++ spaced .as ++ [Token.type "decimal"]) := Body.plain rfl
  have hdigits : Body (parenthesized [.int averagePrecision.1, .word .comma, .word .space,
      .int averagePrecision.2]) := (Body.plain rfl).parenthesized
  have hall := hcast.append (h.append (htype.append hdigits)).parenthesized
  simpa only [averaged, parenthesized, List.append_assoc, List.cons_append, List.nil_append] using hall

theorem Taken.body {ts : List Token} (h : Taken scope ts) : Body ts := by
  cases h with
  | column r => exact Body.column scope r
  | aggregate function r => exact body_application function (Body.column scope r)
  | average function r => exact body_application function (body_averaged (Body.column scope r))
  | rows function => exact body_application function (Body.plain rfl)

theorem body_project {items : List (String × Expr)} {projection : Projection}
    (h : project scope grouped items = .ok projection) : Body projection.tokens := by
  obtain ⟨its, -, htokens, hits⟩ := project_eq_ok h
  rw [htokens]
  refine Body.separated fun it hit => ?_
  obtain ⟨ts, name, htaken, rfl⟩ := hits it hit
  exact htaken.body.named name

theorem body_tokens (scope : Scope) (grouped : List Resolved) : Body (tokens scope grouped) :=
  Body.separated_map (Body.column scope) grouped

end Grouping

namespace Query

variable {orders : List (List Token)}

theorem body_ordered {column : List Token} (h : Body column) (direction : Direction) :
    Body (ordered column direction) := h.append (Body.plain (by cases direction <;> rfl))

theorem body_memberOrders {scope : Scope} {items : List OrderItem}
    (h : items.mapM (memberOrder scope) = .ok orders) : Body (separated orders) := by
  refine Body.separated fun order horder => ?_
  obtain ⟨item, -, hitem⟩ := exists_of_mem_mapM h horder
  obtain ⟨r, rfl⟩ := memberOrder_eq_ok hitem
  exact body_ordered (Body.column scope r) item.direction

theorem body_groupedOrders {scope : Scope} {columns : List ProjectedColumn} {items : List OrderItem}
    (h : items.mapM (groupedOrder scope columns) = .ok orders) : Body (separated orders) := by
  refine Body.separated fun order horder => ?_
  obtain ⟨item, -, hitem⟩ := exists_of_mem_mapM h horder
  obtain ⟨name, rfl⟩ := groupedOrder_eq_ok hitem
  exact body_ordered (Body.plain rfl) item.direction

end Query

/-! ## Columns and values of writes -/

theorem body_columnTokens (qualifier : Option String) (m : Member) : Body (m.columnTokens qualifier) := by
  apply Body.plain
  rw [Member.columnTokens.eq_def]
  split <;> rfl

theorem body_columnList (qualifier : Option String) (ms : List Member) :
    Body (Member.columnList qualifier ms) := Body.separated_map (body_columnTokens qualifier) ms

theorem body_placeholders {as : List Assignment} (h : Assignment.Placed as) :
    Body (Assignment.placeholders as) := by
  refine Body.separated fun item hitem => ?_
  obtain ⟨a, ha, rfl⟩ := List.mem_map.1 hitem
  exact Body.placeholder (h a ha)

theorem body_setItems {as : List Assignment} (h : Assignment.Placed as) :
    Body (separated (as.map Entity.setItem)) := by
  refine Body.separated fun item hitem => ?_
  obtain ⟨a, ha, rfl⟩ := List.mem_map.1 hitem
  exact Body.between rfl (body_columnTokens none a.member) (Body.placeholder (h a ha))

theorem body_equalsShipped (qualifier : String) (m : Member) : Body (m.equalsShipped qualifier) :=
  Body.between rfl (body_columnTokens (some qualifier) m) (body_columnTokens (some shippedAlias) m)

theorem body_allEqualShipped (qualifier : String) (ms : List Member) :
    Body (Member.allEqualShipped qualifier ms) := by
  refine Body.joined rfl fun test htest => ?_
  obtain ⟨m, -, rfl⟩ := List.mem_map.1 htest
  exact body_equalsShipped qualifier m

theorem body_outputItem (m : Member) : Body m.outputItem := by
  have hzero : Body (parenthesized ([Token.int 0, .word .space] ++ spaced .as ++ [Token.type m.castType])) :=
    (Body.plain rfl).parenthesized
  have hcast : Body [.word .cast] := Body.plain rfl
  have hcolumn : Body [.word .inserted, .word .dot, .ident m.columnName] := Body.plain rfl
  rw [Member.outputItem]
  split
  · exact (hcast.append hzero).named m.name
  · split
    · exact hcolumn
    · exact hcolumn.named m.name

theorem body_outputTokens (e : Entity) : Body e.outputTokens := by
  rw [outputTokens_eq]
  exact Body.separated_map body_outputItem e.mapped

end Rowgraph
