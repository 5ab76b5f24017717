import Mathlib.Data.List.Basic
import Rowgraph.Proofs.Condition.Plan

/-!
# The columns in a statement

A statement is read token by token (`Reading.next`). What is read is which clause a token stands in, which
tables are declared under which aliases, and which columns are named, each with the clause it stands in and
with the alias in front of it. A name behind AS, and the name of a derived table, is no column. Parts of
statements are read one after the other, so that what a part names does not depend on what stands before it
(`Mentions`); a condition names the columns of its tests (`Plan.mentions`).
-/

set_option autoImplicit false

namespace Rowgraph

/-- A clause of a statement. -/
inductive Clause where
  | select
  /-- Behind FROM or JOIN. -/
  | tables
  /-- The condition of a join, by its number. -/
  | on (join : Nat)
  | filter
  | groupBy
  | orderBy
  deriving DecidableEq

/-- A column as a statement names it. -/
structure NamedColumn where
  clause : Clause
  qualifier : Option String
  name : String
  deriving DecidableEq

/-- What has been read last and says what the next name is. -/
inductive Pending where
  | nothing
  /-- A table; an alias that follows is its own. -/
  | table (name : String)
  | «alias» (name : String)
  /-- An alias and a point. -/
  | qualifier (name : String)
  /-- The word behind which a column gets a name. -/
  | naming
  deriving DecidableEq

/-- The alias that stands in front of a name. -/
def Pending.qualifier? : Pending → Option String
  | .qualifier name => some name
  | _ => none

/-- What has been read of a statement. -/
structure Reading where
  clause : Clause := .select
  /-- The number of joins. -/
  joins : Nat := 0
  pending : Pending := .nothing
  /-- The tables, each with its alias. -/
  declared : List (String × String) := []
  columns : List NamedColumn := []
  deriving DecidableEq

namespace Reading

/-- Goes on in a clause. -/
def enter (r : Reading) (clause : Clause) : Reading := { r with clause := clause, pending := .nothing }

/-- Reads a word. A parenthesis closed behind GROUP BY ends a derived table. -/
def word (r : Reading) : Word → Reading
  | .space => r
  | .dot =>
    match r.pending with
    | .alias name => { r with pending := .qualifier name }
    | _ => r.enter r.clause
  | .as => { r with pending := .naming }
  | .select => r.enter .select
  | .fromKw => r.enter .tables
  | .join => { r.enter .tables with joins := r.joins + 1 }
  | .on => r.enter (.on r.joins)
  | .whereKw => r.enter .filter
  | .groupBy => r.enter .groupBy
  | .orderBy => r.enter .orderBy
  | .rparen => if r.clause = .groupBy then r.enter .tables else r.enter r.clause
  | _ => r.enter r.clause

/-- Reads a name in brackets. -/
def name (r : Reading) (name : String) : Reading :=
  if r.clause = .tables ∨ r.pending = .naming then r.enter r.clause
  else { r.enter r.clause with columns := r.columns ++ [⟨r.clause, r.pending.qualifier?, name⟩] }

/-- Reads an alias: the one of the table before it, or one in front of a column. -/
def «alias» (r : Reading) (name : String) : Reading :=
  match r.pending with
  | .table table => { r.enter r.clause with declared := r.declared ++ [(table, name)] }
  | _ => { r with pending := .alias name }

/-- Reads a token. -/
def next (r : Reading) : Token → Reading
  | .word w => r.word w
  | .ident name => r.name name
  | .table _ _ name => { r with pending := .table name }
  | .alias name => r.alias name
  | _ => r.enter r.clause

/-- Reads a statement. -/
def ofTokens (ts : List Token) : Reading := ts.foldl next {}

end Reading

/-! ## Parts of a clause -/

/-- Is the token no part of a name, and does it leave the clause as it is? -/
def Token.isPlain : Token → Bool
  | .word w => !([.dot, .as, .select, .fromKw, .join, .on, .whereKw, .groupBy, .orderBy,
      .rparen] : List Word).contains w
  | .ident _ => false
  | .table _ _ _ => false
  | .alias _ => false
  | _ => true

/-- Do these tokens name just these columns wherever they stand in the clause? -/
def Mentions (clause : Clause) (ts : List Token) (columns : List NamedColumn) : Prop :=
  ∀ r : Reading, r.clause = clause → r.pending = .nothing →
    ts.foldl Reading.next r = { r with columns := r.columns ++ columns }

theorem next_of_isPlain {t : Token} (h : t.isPlain = true) {r : Reading}
    (hpending : r.pending = .nothing) : r.next t = r := by
  -- what would be forgotten has been forgotten already
  have henter : r.enter r.clause = r := by
    rw [Reading.enter, ← hpending]
  cases t with
  | word w =>
    cases w with
    | space => rfl
    | dot => exact absurd h Bool.false_ne_true
    | «as» => exact absurd h Bool.false_ne_true
    | select => exact absurd h Bool.false_ne_true
    | fromKw => exact absurd h Bool.false_ne_true
    | join => exact absurd h Bool.false_ne_true
    | on => exact absurd h Bool.false_ne_true
    | whereKw => exact absurd h Bool.false_ne_true
    | groupBy => exact absurd h Bool.false_ne_true
    | orderBy => exact absurd h Bool.false_ne_true
    | rparen => exact absurd h Bool.false_ne_true
    | _ => exact henter
  | ident name => exact absurd h Bool.false_ne_true
  | table database schema name => exact absurd h Bool.false_ne_true
  | «alias» name => exact absurd h Bool.false_ne_true
  | _ => exact henter

namespace Mentions

variable {clause : Clause} {ts us : List Token} {cs ds : List NamedColumn}

theorem nil : Mentions clause [] [] := by
  intro r _ _
  rw [List.foldl_nil, List.append_nil]

theorem append (h : Mentions clause ts cs) (h' : Mentions clause us ds) :
    Mentions clause (ts ++ us) (cs ++ ds) := by
  intro r hclause hpending
  have hfirst := h r hclause hpending
  have hsecond := h' { r with columns := r.columns ++ cs } hclause hpending
  rw [List.foldl_append, hfirst, hsecond, List.append_assoc]

theorem plain (h : ts.all Token.isPlain = true) : Mentions clause ts [] := by
  intro r hclause hpending
  rw [List.append_nil]
  induction ts with
  | nil => rfl
  | cons t ts ih =>
    rw [List.all_cons, Bool.and_eq_true] at h
    rw [List.foldl_cons, next_of_isPlain h.1 hpending, ih h.2]

/-- Plain tokens in front of others. -/
theorem plain_append (ts : List Token) (h : ts.all Token.isPlain = true) (h' : Mentions clause us cs) :
    Mentions clause (ts ++ us) cs := (plain h).append h'

/-- Plain tokens behind others. -/
theorem append_plain (h : Mentions clause ts cs) (us : List Token) (h' : us.all Token.isPlain = true) :
    Mentions clause (ts ++ us) cs := by
  have hrest : Mentions clause us [] := plain h'
  have hboth := h.append hrest
  rwa [List.append_nil] at hboth

theorem token {t : Token} (h : t.isPlain = true) : Mentions clause [t] [] := by
  apply plain
  rw [List.all_cons, h]
  rfl

theorem spaced {w : Word} (h : (Token.word w).isPlain = true) :
    Mentions clause (Tokens.spaced w) [] := (token h).append_plain [.word .space] rfl

/-- No tokens name no column. -/
theorem eq_nil (h : Mentions clause [] cs) : cs = [] := by
  have hread := congrArg Reading.columns (h { clause := clause } rfl rfl)
  exact hread.symm

/-- A part in front of a list of parts. -/
theorem separated_cons {tss : List (List Token)} (h : Mentions clause ts cs)
    (h' : Mentions clause (Tokens.separated tss) ds) :
    Mentions clause (Tokens.separated (ts :: tss)) (cs ++ ds) := by
  cases tss with
  | nil =>
    rw [h'.eq_nil, List.append_nil]
    exact h
  | cons next rest => exact h.append (plain_append [.word .comma, .word .space] rfl h')

/-- Something with a word and something else behind it. -/
theorem compared {w : Word} (h : Mentions clause ts cs) (hword : (Token.word w).isPlain = true)
    (h' : Mentions clause us ds) :
    Mentions clause (ts ++ [Token.word .space] ++ Tokens.spaced w ++ us) (cs ++ ds) := by
  have hboth := (h.append_plain [.word .space] rfl).append ((spaced hword).append h')
  rwa [← List.append_assoc, List.nil_append] at hboth

theorem parenthesized (hclause : clause ≠ .groupBy) (h : Mentions clause ts cs) :
    Mentions clause (Tokens.parenthesized ts) cs := by
  -- behind GROUP BY the parenthesis would end a derived table
  have hclose : Mentions clause [.word .rparen] [] := by
    rintro r rfl hpending
    rw [List.append_nil, List.foldl_cons, List.foldl_nil, Reading.next, Reading.word,
      if_neg hclause, Reading.enter, ← hpending]
  have hboth := (plain_append [.word .lparen] rfl h).append hclose
  rwa [List.append_nil] at hboth

/-- A name behind AS is no column. -/
theorem naming (hclause : clause ≠ .tables) (name : String) :
    Mentions clause ([Token.word .space] ++ Tokens.spaced .as ++ [Token.ident name]) [] := by
  rintro ⟨_, joins, _, declared, columns⟩ rfl rfl
  rw [List.append_nil]
  change Reading.name ⟨_, joins, .naming, declared, columns⟩ name = _
  rw [Reading.name, if_pos (Or.inr rfl)]
  rfl

end Mentions

/-! ## Columns -/

/-- A member's column as a clause names it. -/
def Scope.named (scope : Scope) (clause : Clause) (r : Resolved) : NamedColumn :=
  ⟨clause, scope.alias? r.position, r.member.columnName⟩

variable {clause : Clause} {scope : Scope}

/-- A name is a column's wherever none is given. -/
theorem Reading.name_of_column {r : Reading} (hclause : r.clause ≠ .tables)
    (hpending : r.pending ≠ .naming) (name : String) : r.name name =
      { r.enter r.clause with columns := r.columns ++ [⟨r.clause, r.pending.qualifier?, name⟩] } :=
  if_neg (not_or.2 ⟨hclause, hpending⟩)

theorem mentions_column (hclause : clause ≠ .tables) (r : Resolved) :
    Mentions clause (scope.column r) [scope.named clause r] := by
  rintro ⟨inside, joins, _, declared, columns⟩ rfl rfl
  rw [Scope.column, Scope.named]
  cases scope.alias? r.position with
  | some qualifier =>
    let behind : Reading := ⟨inside, joins, .qualifier qualifier, declared, columns⟩
    exact Reading.name_of_column (r := behind) hclause Pending.noConfusion r.member.columnName
  | none =>
    let behind : Reading := ⟨inside, joins, .nothing, declared, columns⟩
    exact Reading.name_of_column (r := behind) hclause Pending.noConfusion r.member.columnName

theorem mentions_separated {α : Type} {f : α → List Token} {c : α → List NamedColumn} (as : List α)
    (h : ∀ a ∈ as, Mentions clause (f a) (c a)) :
    Mentions clause (Tokens.separated (as.map f)) (as.flatMap c) := by
  induction as with
  | nil => exact Mentions.nil
  | cons a as ih =>
    rw [List.map_cons, List.flatMap_cons]
    exact (h a List.mem_cons_self).separated_cons (ih fun b hb => h b (List.mem_cons_of_mem _ hb))

/-- A list of parts that name one column each. -/
theorem mentions_list {α : Type} {f : α → List Token} {c : α → NamedColumn} (as : List α)
    (h : ∀ a ∈ as, Mentions clause (f a) [c a]) :
    Mentions clause (Tokens.separated (as.map f)) (as.map c) := by
  have hall := mentions_separated as h
  rwa [← List.map_eq_flatMap] at hall

theorem mentions_joined {w : Word} (hword : (Token.word w).isPlain = true) {cs : List NamedColumn}
    (tests : List (List Token)) (h : ∀ test ∈ tests, Mentions clause test cs) :
    Mentions clause (Condition.joined w tests) (tests.flatMap fun _ => cs) := by
  induction tests with
  | nil => exact Mentions.nil
  | cons test tests ih =>
    have hrest := ih fun t ht => h t (List.mem_cons_of_mem _ ht)
    cases tests with
    | nil =>
      rw [List.flatMap_cons, List.flatMap_nil, List.append_nil]
      exact h test List.mem_cons_self
    | cons next tests =>
      have hall : [Token.word .space, .word w, .word .space].all Token.isPlain = true := by
        rw [List.all_cons, List.all_cons, hword]
        rfl
      rw [List.flatMap_cons, Condition.joined, List.append_assoc]
      exact (h test List.mem_cons_self).append (Mentions.plain_append _ hall hrest)

/-! ## Conditions -/

namespace Condition

/-- The members whose columns a test names, in order. A list is compared with its column once for each
element. -/
def Check.columns : Check → List Resolved
  | .compare r _ _ => [r]
  | .compareMember r _ r' => [r, r']
  | .isNull r _ => [r]
  | .like r _ _ _ => [r]
  | .among r elements _ => elements.map fun _ => r
  | .flag r _ => [r]

/-- The members whose columns the tests of a condition name, in order. -/
def Plan.columns : Plan → List Resolved
  | .check c => c.columns
  | .and left right => left.columns ++ right.columns
  | .or left right => left.columns ++ right.columns

/-- The placeholder of a value that is bound is no part of a name. -/
theorem isPlain_binding (s : ConditionState) (m : Member) (value : Value) :
    (s.binding m value).1.isPlain = true := by
  change (s.params.entry m.name value (some m)).placeholder.isPlain = true
  rw [Parameter.placeholder]
  split <;> rfl

/-- Every test against an element names the column once. -/
theorem emitElements_mentions {column : List Token} {cs : List NamedColumn}
    (hcolumn : Mentions clause column cs) (m : Member) (negated : Bool) (values : List Value) :
    ∀ s, (∀ test ∈ (emitElements column m negated values s).1, Mentions clause test cs) ∧
      (emitElements column m negated values s).1.length = values.length := by
  induction values with
  | nil => exact fun s => ⟨fun test htest => absurd htest List.not_mem_nil, rfl⟩
  | cons value rest ih =>
    intro s
    rw [emitElements]
    split
    · -- a test for NULL
      obtain ⟨htests, hlength⟩ := ih s
      refine ⟨List.forall_mem_cons.2 ⟨?_, htests⟩, ?_⟩
      · cases negated <;> exact hcolumn.append_plain _ rfl
      · rw [List.length_cons, List.length_cons, hlength]
    · obtain ⟨htests, hlength⟩ := ih (s.binding m value).2
      refine ⟨List.forall_mem_cons.2 ⟨?_, htests⟩, ?_⟩
      · have hword : (Token.word (if negated then .ne else .eq)).isPlain = true := by
          cases negated <;> rfl
        have htest := hcolumn.compared hword (Mentions.token (isPlain_binding s m value))
        rwa [List.append_nil] at htest
      · rw [List.length_cons, List.length_cons, hlength]

/-- The tests against a list name the column once for each element. -/
theorem mentions_elements {column : List Token} {c : NamedColumn} (hcolumn : Mentions clause column [c])
    (m : Member) (negated : Bool) (values : List Value) (s : ConditionState) :
    Mentions clause
      (joined (if negated then .and else .or) (emitElements column m negated values s).1)
      (values.map fun _ => c) := by
  obtain ⟨htests, hlength⟩ := emitElements_mentions hcolumn m negated values s
  have hword : (Token.word (if negated then .and else .or)).isPlain = true := by
    cases negated <;> rfl
  have hjoined := mentions_joined hword _ htests
  rwa [← List.map_eq_flatMap, List.map_const', hlength, ← List.map_const'] at hjoined

theorem isPlain_comparison (op : Comparison) : (Token.word op.word).isPlain = true := by
  cases op <;> rfl

theorem Check.mentions (hclause : clause ≠ .tables) (hgroup : clause ≠ .groupBy) (c : Check)
    (s : ConditionState) :
    Mentions clause (c.emit scope s).1 (c.columns.map (scope.named clause)) := by
  have hcolumn : ∀ r, Mentions clause (scope.column r) [scope.named clause r] :=
    mentions_column hclause
  cases c with
  | compare r op value =>
    exact (hcolumn r).compared (isPlain_comparison op) (Mentions.token (isPlain_binding _ _ _))
  | compareMember r op r' => exact (hcolumn r).compared (isPlain_comparison op) (hcolumn r')
  | isNull r negated =>
    have htest : ([Token.word .space] ++ [Token.word (if negated then .isNotNull else .isNull)] :
        List Token).all Token.isPlain = true := by
      cases negated <;> rfl
    have hboth := (hcolumn r).append_plain _ htest
    rwa [← List.append_assoc] at hboth
  | like r place text negated =>
    have hword : (Token.word (if negated then .notLike else .like)).isPlain = true := by
      cases negated <;> rfl
    have hbinding : Mentions clause
        [((s.noting r).binding r.member (.text (Like.pattern place text))).1] [] :=
      Mentions.token (isPlain_binding _ _ _)
    have hpattern := hbinding.append_plain [.word .space, .word .likeEscape] rfl
    exact (hcolumn r).compared hword hpattern
  | among r elements negated =>
    rw [Check.emit, Check.columns, List.map_map]
    cases elements with
    | nil =>
      cases negated with
      | true => exact Mentions.plain rfl
      | false => exact Mentions.plain rfl
    | cons value rest =>
      exact (mentions_elements (hcolumn r) r.member negated (value :: rest)
        (s.noting r)).parenthesized hgroup
  | flag r negated =>
    have hnumber : (Token.int (if negated then 0 else 1)).isPlain = true := rfl
    exact (hcolumn r).compared rfl (Mentions.token hnumber)

/-- A condition names the columns of its tests, in order. -/
theorem Plan.mentions (scope : Scope) (hclause : clause ≠ .tables) (hgroup : clause ≠ .groupBy)
    (p : Plan) : ∀ s, Mentions clause (p.emit scope s).1 (p.columns.map (scope.named clause)) := by
  induction p with
  | check c => exact c.mentions hclause hgroup
  | and left right hl hr =>
    intro s
    rw [Plan.columns, List.map_append]
    exact ((hl s).parenthesized hgroup).compared rfl ((hr _).parenthesized hgroup)
  | or left right hl hr =>
    intro s
    rw [Plan.columns, List.map_append]
    exact ((hl s).parenthesized hgroup).compared rfl ((hr _).parenthesized hgroup)

end Condition

end Rowgraph
