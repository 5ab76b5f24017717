import Mathlib.Data.List.Forall2
import Rowgraph.Proofs.Condition.Plan
import Rowgraph.Proofs.Condition.Search
import Rowgraph.Proofs.Results

/-!
# The meaning of conditions

A compiled condition, read the way the server reads it, is as true as the expression it was compiled
from (`ofExpr_truth`). The tests that an expression is compiled to have its
truth (`truth?_of_plan?`), and the tokens written for the tests are read as conditions of the same truth
(`plan_means`), with the values that were bound for their placeholders.

There are two things that the columns have to fulfil. What is written for a column stands for that column of
one table (`Scope.Shows`): tables that go under the same alias, or under none, have to agree on the columns of
the same name, and aliases that differ ask for nothing. And a member that stands by itself under a negation is
compared with zero, so it has to be zero wherever it is not one (`Server.IsFlag`).
-/

set_option autoImplicit false

namespace Rowgraph

/-- The truth, or its negation. -/
def Truth.negateIf (negated : Bool) (t : Truth) : Truth := if negated then t.not else t

@[simp] theorem Truth.negateIf_false (t : Truth) : t.negateIf false = t := rfl

@[simp] theorem Truth.negateIf_true (t : Truth) : t.negateIf true = t.not := rfl

@[simp] theorem Truth.negateIf_ofBool (negated b : Bool) :
    (Truth.ofBool b).negateIf negated = .ofBool (b ^^ negated) := by
  cases negated <;> cases b <;> rfl

/-- Is the value NULL, or equal to zero exactly where it is not equal to one? -/
def Server.IsFlag (server : Server) (v : Value) : Prop :=
  v = .null ∨ server.holds .eq v (.int 0) = !server.holds .eq v (.int 1)

/-- The members that stand by themselves under an odd number of negations. -/
def Expr.negatedFlags : Expr → (negated : Bool) → List MemberRef
  | .and left right, negated => left.negatedFlags negated ++ right.negatedFlags negated
  | .or left right, negated => left.negatedFlags negated ++ right.negatedFlags negated
  | .not inner, negated => inner.negatedFlags (!negated)
  | .convert inner, negated => inner.negatedFlags negated
  | .member ref, true => [ref]
  | _, _ => []

/-- Do the columns under the aliases of a scope hold the values of the tables? An alias then stands for one
table, as far as the columns of the same name go. -/
def Scope.Shows (scope : Scope) (tables : Tables) (column : Option String → String → Value) : Prop :=
  ∀ position, position < scope.entities.length → ∀ name,
    column (scope.alias? position) name = tables position name

namespace Condition

/-! ## The truth of tests -/

/-- The truth of a test, given the values of the members. -/
def Check.truth (server : Server) (value : Resolved → Value) : Check → Truth
  | .compare r op v => server.compare op (value r) v
  | .compareMember r op r' => server.compare op (value r) (value r')
  | .isNull r negated => .ofBool ((value r = .null) ^^ negated)
  | .like r place text negated => (server.finds place text (value r)).negateIf negated
  | .among r elements negated => (server.among (value r) elements).negateIf negated
  | .flag r negated => server.compare .eq (value r) (.int (if negated then 0 else 1))

/-- The truth of tests joined by AND and OR. -/
def Plan.truth (server : Server) (value : Resolved → Value) : Plan → Truth
  | .check c => c.truth server value
  | .and left right => (left.truth server value).and (right.truth server value)
  | .or left right => (left.truth server value).or (right.truth server value)

section Expressions

variable {server : Server} {scope : Scope} {tables : Tables} {value : Resolved → Value}

theorem value?_unconverted (e : Expr) :
    e.unconverted.value? scope tables = e.value? scope tables := by
  induction e with
  | convert inner ih => exact ih
  | _ => rfl

theorem value?_of_resolved?
    (hvalue : ∀ ref r, (scope.resolve ref).toOption = some r → tables.value r = value r) {e : Expr}
    {r : Resolved} (h : e.resolved? scope = some r) : e.value? scope tables = some (value r) := by
  obtain ⟨ref, href, hr⟩ := Option.bind_eq_some_iff.1 h
  rw [← value?_unconverted]
  cases he : e.unconverted with
  | member ref' =>
    rw [he, Expr.member?, Option.some.injEq] at href
    rw [href, Expr.value?, hr, Option.map_some, hvalue ref r hr]
  | _ => simp [he, Expr.member?] at href

theorem compare_negateIf (hserver : server.IsDecisive) (negated : Bool) (op : Comparison)
    (a b : Value) : server.compare (if negated then op.negate else op) a b =
      (server.compare op a b).negateIf negated := by
  cases negated with
  | false => rfl
  | true => exact hserver.compare_negate op a b

/-- The test of a comparison has its truth, or the test of the negated comparison the negated one. -/
theorem truth_of_comparisonCheck? (hserver : server.IsDecisive)
    (hvalue : ∀ ref r, (scope.resolve ref).toOption = some r → tables.value r = value r)
    {left right : Expr} {op : Comparison} {negated composite : Bool} {c : Check}
    (h : left.comparisonCheck? scope (if negated then op.negate else op) right composite = some c) :
    ∃ t, Expr.comparison? server scope tables left op right = some t ∧
      c.truth server value = t.negateIf negated := by
  obtain ⟨r, hr, h⟩ := Option.bind_eq_some_iff.1 h
  rw [Expr.comparison?, value?_of_resolved? hvalue hr, Option.bind_eq_bind, Option.bind_some,
    ← value?_unconverted right]
  cases hright : right.unconverted with
  | value v =>
    rw [hright] at h
    cases v with
    | null =>
      -- a comparison with NULL is a test for NULL, and only `=` and `<>` outside of AND and OR are
      cases composite with
      | true => cases h
      | false =>
        cases op <;> cases negated <;> cases h <;>
          exact ⟨_, rfl, by simp [Check.truth]⟩
    | _ =>
      cases h
      exact ⟨_, rfl, compare_negateIf hserver negated op _ _⟩
  | member ref =>
    rw [hright] at h
    obtain ⟨r', hr', h⟩ := Option.bind_eq_some_iff.1 h
    cases h
    rw [← hright, value?_unconverted, value?_of_resolved? hvalue hr', hright]
    exact ⟨_, rfl, compare_negateIf hserver negated op _ _⟩
  | _ =>
    rw [hright] at h
    cases h

theorem truth_of_likeCheck?
    (hvalue : ∀ ref r, (scope.resolve ref).toOption = some r → tables.value r = value r)
    {ref : MemberRef} {arg : Expr} {place : Place} {negated : Bool} {c : Check}
    (h : arg.likeCheck? scope ref place negated = some c) :
    ∃ text v, arg.unconverted = .value (.text text) ∧
      (Expr.member ref).value? scope tables = some v ∧
      c.truth server value = (server.finds place text v).negateIf negated := by
  rw [Expr.likeCheck?] at h
  split at h
  · next text harg =>
    obtain ⟨r, hr, rfl⟩ := Option.map_eq_some_iff.1 h
    exact ⟨text, value r, harg, by rw [Expr.value?, hr, Option.map_some, hvalue ref r hr], rfl⟩
  · cases h

/-- The test of a call has its truth, or the negated one. -/
theorem truth_of_callCheck? (hserver : server.IsDecisive)
    (hvalue : ∀ ref r, (scope.resolve ref).toOption = some r → tables.value r = value r)
    {target arg : Expr} {method : Method} {negated composite : Bool} {c : Check}
    (h : target.callCheck? scope method arg negated composite = some c) :
    ∃ t, Expr.call? server scope tables target method arg = some t ∧
      c.truth server value = t.negateIf negated := by
  -- a match with a text is one whatever the place
  have hlike : ∀ ref place, target.unconverted = .member ref →
      arg.likeCheck? scope ref place negated = some c →
      ∃ text v, arg.unconverted = .value (.text text) ∧ target.value? scope tables = some v ∧
        c.truth server value = (server.finds place text v).negateIf negated := by
    intro ref place htarget hcheck
    rw [← value?_unconverted target, htarget]
    exact truth_of_likeCheck? hvalue hcheck
  rw [Expr.callCheck?.eq_def] at h
  rw [Expr.call?.eq_def]
  split at h
  -- `equals` is a comparison
  · have hcheck : target.comparisonCheck? scope
        (if negated then Comparison.eq.negate else .eq) arg composite = some c := h
    exact truth_of_comparisonCheck? hserver hvalue hcheck
  -- a list contains its elements
  · next elements htarget =>
    obtain ⟨r, hr, rfl⟩ := Option.map_eq_some_iff.1 h
    rw [htarget, value?_of_resolved? hvalue hr]
    exact ⟨_, rfl, rfl⟩
  -- a member contains a text, starts with it or ends with it
  · next ref htarget =>
    obtain ⟨text, v, harg, hv, htruth⟩ := hlike ref .anywhere htarget h
    rw [htarget, harg, hv]
    exact ⟨_, rfl, htruth⟩
  · next ref htarget =>
    obtain ⟨text, v, harg, hv, htruth⟩ := hlike ref .start htarget h
    rw [htarget, harg, hv]
    exact ⟨_, rfl, htruth⟩
  · next ref htarget =>
    obtain ⟨text, v, harg, hv, htruth⟩ := hlike ref .ending htarget h
    rw [htarget, harg, hv]
    exact ⟨_, rfl, htruth⟩
  · cases h

/-- A flag equals zero exactly where it does not equal one. -/
theorem compare_zero {v : Value} (h : server.IsFlag v) :
    server.compare .eq v (.int 0) = (server.compare .eq v (.int 1)).not := by
  rw [Server.compare, Server.compare]
  by_cases hnull : v = .null
  · rw [if_pos (Or.inl hnull), if_pos (Or.inl hnull)]
    rfl
  · rw [if_neg (by simp [hnull]), if_neg (by simp [hnull]), h.resolve_left hnull, Truth.not_ofBool]

/-- The tests of an expression have its truth, or the negated one. -/
theorem truth?_of_plan? (hserver : server.IsDecisive)
    (hvalue : ∀ ref r, (scope.resolve ref).toOption = some r → tables.value r = value r)
    {e : Expr} : ∀ {negated composite : Bool} {p : Plan},
      (∀ ref ∈ e.negatedFlags negated, ∀ r, (scope.resolve ref).toOption = some r →
        server.IsFlag (tables.value r)) →
      e.plan? scope negated composite = some p →
      ∃ t, e.truth? server scope tables = some t ∧ p.truth server value = t.negateIf negated := by
  -- the negation is carried down to the tests; under AND and OR there is none
  induction e with
  | and left right ihl ihr =>
    intro negated composite p hflags h
    cases negated with
    | true => cases h
    | false =>
      obtain ⟨l, hl, h⟩ := Option.bind_eq_some_iff.1 h
      obtain ⟨r, hr, h⟩ := Option.bind_eq_some_iff.1 h
      cases h
      obtain ⟨s, hs, hleft⟩ := ihl (fun ref hmem => hflags ref (List.mem_append_left _ hmem)) hl
      obtain ⟨t, ht, hright⟩ := ihr (fun ref hmem => hflags ref (List.mem_append_right _ hmem)) hr
      exact ⟨s.and t, by rw [Expr.truth?, hs, ht]; rfl, congrArg₂ Truth.and hleft hright⟩
  | or left right ihl ihr =>
    intro negated composite p hflags h
    cases negated with
    | true => cases h
    | false =>
      obtain ⟨l, hl, h⟩ := Option.bind_eq_some_iff.1 h
      obtain ⟨r, hr, h⟩ := Option.bind_eq_some_iff.1 h
      cases h
      obtain ⟨s, hs, hleft⟩ := ihl (fun ref hmem => hflags ref (List.mem_append_left _ hmem)) hl
      obtain ⟨t, ht, hright⟩ := ihr (fun ref hmem => hflags ref (List.mem_append_right _ hmem)) hr
      exact ⟨s.or t, by rw [Expr.truth?, hs, ht]; rfl, congrArg₂ Truth.or hleft hright⟩
  | not inner ih =>
    intro negated composite p hflags h
    obtain ⟨t, ht, htruth⟩ := ih hflags h
    refine ⟨t.not, by rw [Expr.truth?, ht]; rfl, ?_⟩
    rw [htruth]
    cases negated <;> simp
  | convert inner ih => exact ih
  | compare left op right =>
    intro negated composite p _ h
    obtain ⟨c, hc, rfl⟩ := Option.map_eq_some_iff.1 h
    exact truth_of_comparisonCheck? hserver hvalue hc
  | call target method arg =>
    intro negated composite p _ h
    obtain ⟨c, hc, rfl⟩ := Option.map_eq_some_iff.1 h
    exact truth_of_callCheck? hserver hvalue hc
  | member ref =>
    intro negated composite p hflags h
    obtain ⟨r, hr, rfl⟩ := Option.map_eq_some_iff.1 h
    refine ⟨_, by rw [Expr.truth?, Expr.value?, hr]; rfl, ?_⟩
    rw [hvalue ref r hr]
    cases negated with
    | false => rfl
    | true =>
      -- the test is a comparison with zero, not the negation of one with one
      have hflag := hflags ref (List.mem_singleton.2 rfl) r hr
      rw [hvalue ref r hr] at hflag
      exact compare_zero hflag
  | _ =>
    intro negated composite p _ h
    cases h

end Expressions

/-! ## The tokens of tests -/

open Search

/-- Are the tokens read as a condition of the given truth, whatever is bound behind the parameters? -/
def Means (server : Server) (column : Option String → String → Value) (params : Parameters)
    (ts : List Token) (t : Truth) : Prop :=
  ∃ is s, Reads ts is ∧ Fills is s ∧
    ∀ later : Parameters, later.Extends params → s.truth? ⟨server, column, later⟩ = some t

section Tokens

variable {server : Server} {scope : Scope} {column : Option String → String → Value}
  {s s' : ConditionState}

/-- The value of a member where the columns go under the aliases of a scope. -/
def valueOf (scope : Scope) (column : Option String → String → Value) (r : Resolved) : Value :=
  column (scope.alias? r.position) r.member.columnName

theorem extends_binding (s : ConditionState) (m : Member) (value : Value) :
    (s.binding m value).2.params.Extends s.params := Parameters.extends_bind ..

/-- The placeholder of a value is read as an operand of that value. -/
theorem lexes_binding (s : ConditionState) (m : Member) (value : Value) :
    ∃ o : Operand, Lexes [(s.binding m value).1] [.operand o] ∧
      ∀ ctx : Context, ctx.params.Extends (s.binding m value).2.params →
        o.value? ctx = some value := by
  refine ⟨.placeholder (s.nameFor m), lexes_placeholder s.params m.name value (some m),
    fun ctx hlater => ?_⟩
  exact Parameters.value?_of_extends hlater (Parameters.value?_bind s.params m.name value (some m))

theorem truth?_compare {ctx : Context} {a b : Operand} {op : Comparison} {v w : Value}
    (hint : ∀ n, a ≠ .int n) (ha : a.value? ctx = some v) (hb : b.value? ctx = some w) :
    (Predicate.compare a op b).truth? ctx = some (ctx.server.compare op v w) := by
  rw [Predicate.truth?.eq_def]
  cases a with
  | int n => exact absurd rfl (hint n)
  | _ => simp [ha, hb]

theorem truth?_and {ctx : Context} {l r : Search} {a b : Truth} (hl : l.truth? ctx = some a)
    (hr : r.truth? ctx = some b) : (Search.and l r).truth? ctx = some (a.and b) := by
  rw [Search.truth?, hl, hr]
  rfl

theorem truth?_or {ctx : Context} {l r : Search} {a b : Truth} (hl : l.truth? ctx = some a)
    (hr : r.truth? ctx = some b) : (Search.or l r).truth? ctx = some (a.or b) := by
  rw [Search.truth?, hl, hr]
  rfl

/-- A predicate alone. -/
theorem Means.predicate {params : Parameters} {ts : List Token} {p : Predicate} {t : Truth}
    (hts : Reads ts [.predicate p])
    (hp : ∀ later : Parameters, later.Extends params →
      p.truth? ⟨server, column, later⟩ = some t) : Means server column params ts t :=
  ⟨[.predicate p], .predicate p, hts, fills_predicate p, hp⟩

/-- Two conditions in parentheses with a word between them, the second written after the first. -/
theorem Means.junction {params params' : Parameters} {ls rs : List Token} {a b : Truth} {w : Word}
    {item : Item} {join : Search → Search → Search} {k : Truth → Truth → Truth}
    (hw : Reads (Tokens.spaced w) [item])
    (hjoin : ∀ {is js l r}, Fills is l → Fills js r →
      Fills ((Item.lparen :: is ++ [Item.rparen]) ++ [item] ++ (Item.lparen :: js ++ [Item.rparen]))
        (join l r))
    (htruth : ∀ {ctx l r a b}, Search.truth? ctx l = some a → Search.truth? ctx r = some b →
      (join l r).truth? ctx = some (k a b))
    (hl : Means server column params ls a) (hr : Means server column params' rs b)
    (hextends : params'.Extends params) :
    Means server column params'
      (Tokens.parenthesized ls ++ [Token.word .space] ++ Tokens.spaced w ++ Tokens.parenthesized rs)
      (k a b) := by
  obtain ⟨is, l, hreads, hfills, hleft⟩ := hl
  obtain ⟨js, r, hreads', hfills', hright⟩ := hr
  exact ⟨_, join l r, hreads.junction hw hreads', hjoin hfills hfills', fun later hlater =>
    htruth (hleft later (hlater.trans hextends)) (hright later hlater)⟩

/-- A test against an element of a list. -/
theorem element_truth (hserver : server.IsDecisive) (negated : Bool) (v element : Value)
    (h : element ≠ .null) : server.compare (if negated then .ne else .eq) v element =
      (server.isElement v element).negateIf negated := by
  rw [Server.isElement, if_neg h]
  exact compare_negateIf hserver negated .eq v element

/-- The tests against the elements of a list are predicates. -/
theorem emitElements_reads (hserver : server.IsDecisive) {r : Resolved} {negated : Bool}
    (elements : List Value) : ∀ {s s' : ConditionState} {tests : List (List Token)},
      emitElements (scope.column r) r.member negated elements s = (tests, s') →
      s'.params.Extends s.params ∧ ∃ ps : List Predicate,
        List.Forall₂ (fun ts p => Reads ts [.predicate p]) tests ps ∧
        ∀ later : Parameters, later.Extends s'.params →
          List.Forall₂ (fun p v => p.truth? ⟨server, column, later⟩ =
            some ((server.isElement (valueOf scope column r) v).negateIf negated)) ps elements := by
  induction elements with
  | nil =>
    intro s s' tests h
    cases h
    exact ⟨Parameters.Extends.refl _, [], List.Forall₂.nil, fun _ _ => List.Forall₂.nil⟩
  | cons v elements ih =>
    intro s s' tests h
    rw [emitElements] at h
    cases hnull : v.isNull with
    | true =>
      -- NULL is tested for, and nothing is bound
      obtain rfl : v = .null := by cases v <;> first | rfl | cases hnull
      simp only [hnull, if_true] at h
      rcases hrest : emitElements (scope.column r) r.member negated elements s with ⟨rest, s₁⟩
      rw [hrest] at h
      cases h
      obtain ⟨hextends, ps, hreads, htruth⟩ := ih hrest
      refine ⟨hextends, .isNull (columnOf scope r) negated :: ps, ?_, fun later hlater => ?_⟩
      · have htest := reads_isNull (lexes_column scope r) negated
        rw [List.append_assoc] at htest
        exact List.Forall₂.cons htest hreads
      · refine List.Forall₂.cons ?_ (htruth later hlater)
        rw [Server.isElement, if_pos rfl, Truth.negateIf_ofBool]
        rfl
    | false =>
      have hv : v ≠ .null := by
        rintro rfl
        cases hnull
      simp only [hnull, Bool.false_eq_true, if_false] at h
      rcases hrest : emitElements (scope.column r) r.member negated elements
        (s.binding r.member v).2 with ⟨rest, s₁⟩
      rw [hrest] at h
      cases h
      obtain ⟨hextends, ps, hreads, htruth⟩ := ih hrest
      -- the value is bound before those behind it, and stays what it is when they are bound
      obtain ⟨o, hlexes, hvalue⟩ := lexes_binding s r.member v
      refine ⟨hextends.trans (extends_binding s r.member v),
        .compare (columnOf scope r) (if negated then .ne else .eq) o :: ps, ?_, fun later hlater => ?_⟩
      · have htest := reads_compare (lexes_column scope r) (if negated then .ne else .eq) hlexes
        refine List.Forall₂.cons ?_ hreads
        cases negated <;> exact htest
      · refine List.Forall₂.cons ?_ (htruth later hlater)
        rw [← element_truth hserver negated _ v hv]
        exact truth?_compare (fun n h => by cases h) rfl (hvalue _ (hlater.trans hextends))

/-- Joined tests are read as the chain of their predicates. -/
theorem joined_reads (negated : Bool) (tests : List (List Token)) :
    ∀ {test : List Token} {p : Predicate} {ps : List Predicate}, Reads test [.predicate p] →
      List.Forall₂ (fun ts p => Reads ts [.predicate p]) tests ps →
      Reads (joined (if negated then .and else .or) (test :: tests)) (chain negated p ps) := by
  induction tests with
  | nil =>
    intro test p ps htest hrest
    cases hrest
    exact htest
  | cons next tests ih =>
    intro test p ps htest hrest
    cases hrest with
    | cons hnext hrest =>
      have hbetween : Reads (Tokens.spaced (if negated then .and else .or))
          [if negated then .and else .or] := by
        cases negated with
        | false => exact reads_or
        | true => exact reads_and
      exact (htest.append (reads_space.append hbetween)).append (ih hnext hrest)

/-- The truth of predicates joined from the left. -/
theorem truth?_foldl {ctx : Context} {j : Search → Search → Search} {k : Truth → Truth → Truth}
    (hj : ∀ {s t a b}, s.truth? ctx = some a → t.truth? ctx = some b →
      (j s t).truth? ctx = some (k a b)) (ps : List Predicate) :
    ∀ {s : Search} {t : Truth} {ts : List Truth}, s.truth? ctx = some t →
      List.Forall₂ (fun p u => Predicate.truth? ctx p = some u) ps ts →
      ((ps.map Search.predicate).foldl j s).truth? ctx = some (ts.foldl k t) := by
  induction ps with
  | nil =>
    intro s t ts hs hrest
    cases hrest
    exact hs
  | cons p ps ih =>
    intro s t ts hs hrest
    cases hrest with
    | cons hp hrest =>
      have hnext := ih (hj (t := .predicate p) hs hp) hrest
      exact hnext

/-- The tests against the elements of a list, joined, have the truth of being in the list. -/
theorem truth?_among {ctx : Context} {negated : Bool} {v : Value} {p : Predicate}
    {ps : List Predicate} {element : Value} {elements : List Value}
    (h : List.Forall₂ (fun p e => p.truth? ctx =
      some ((ctx.server.isElement v e).negateIf negated)) (p :: ps) (element :: elements)) :
    ((ps.map Search.predicate).foldl (if negated then Search.and else Search.or)
        (.predicate p)).truth? ctx =
      some ((ctx.server.among v (element :: elements)).negateIf negated) := by
  rw [Server.among, List.map_cons, List.foldl_cons, Truth.fails_or]
  cases h with
  | cons hp hps =>
    cases negated with
    | false => exact truth?_foldl truth?_or ps hp (List.forall₂_map_right_iff.2 hps)
    | true =>
      -- none of the elements is the value, test by test
      rw [Truth.negateIf_true, Truth.not_foldl_or]
      exact truth?_foldl truth?_and ps hp
        (List.forall₂_map_right_iff.2 (List.forall₂_map_right_iff.2 hps))

/-- The LIKE with the pattern for a text finds the text. -/
theorem likeTruth_pattern (place : Place) (text : String) (v : Value) :
    likeTruth server v (.text (Like.pattern place text)) = server.finds place text v := by
  rw [likeTruth, Server.finds]
  by_cases hv : v = .null
  · rw [if_pos (Or.inl hv), if_pos hv]
  · rw [if_neg (by simp [hv]), if_neg hv, Server.chars, Like.pattern, String.toList_ofList,
      Like.holds_patternChars]

/-- The tokens of a test mean what the test does. -/
theorem check_means (hserver : server.IsDecisive) {c : Check} {ts : List Token}
    (h : c.emit scope s = (ts, s')) : s'.params.Extends s.params ∧
      Means server column s'.params ts (c.truth server (valueOf scope column)) := by
  cases c with
  | compare r op v =>
    cases h
    have hparams := noting_params s r
    obtain ⟨o, hlexes, hvalue⟩ := lexes_binding (s.noting r) r.member v
    refine ⟨hparams ▸ extends_binding (s.noting r) r.member v,
      Means.predicate (reads_compare (lexes_column scope r) op hlexes) fun later hlater => ?_⟩
    exact truth?_compare (fun n h => by cases h) rfl (hvalue _ hlater)
  | compareMember r op r' =>
    cases h
    rw [noting_params, noting_params]
    refine ⟨Parameters.Extends.refl _, Means.predicate
      (reads_compare (lexes_column scope r) op (lexes_column scope r')) fun later hlater => ?_⟩
    exact truth?_compare (fun n h => by cases h) rfl rfl
  | isNull r negated =>
    cases h
    rw [noting_params]
    exact ⟨Parameters.Extends.refl _, Means.predicate (reads_isNull (lexes_column scope r) negated)
      fun later hlater => rfl⟩
  | like r place text negated =>
    cases h
    have hparams := noting_params s r
    obtain ⟨o, hlexes, hvalue⟩ := lexes_binding (s.noting r) r.member
      (.text (Like.pattern place text))
    refine ⟨hparams ▸ extends_binding (s.noting r) r.member _,
      Means.predicate (reads_like (lexes_column scope r) hlexes negated) fun later hlater => ?_⟩
    rw [Predicate.truth?, hvalue _ hlater, Check.truth, ← likeTruth_pattern]
    rfl
  | among r elements negated =>
    cases elements with
    | nil =>
      -- no element: the comparison of one with one or zero, whatever the member holds
      cases h
      rw [noting_params]
      refine ⟨Parameters.Extends.refl _, Means.predicate
        (reads_compare (lexes_int 1) .eq (lexes_int _)) fun later hlater => ?_⟩
      cases negated <;> rfl
    | cons element elements =>
      rcases htests : emitElements (scope.column r) r.member negated (element :: elements)
        (s.noting r) with ⟨tests, s₁⟩
      rw [Check.emit, htests] at h
      cases h
      obtain ⟨hextends, ps, hreads, htruth⟩ := emitElements_reads hserver (element :: elements) htests
      rw [noting_params] at hextends
      cases hreads with
      | nil => cases htruth _ (Parameters.Extends.refl _)
      | @cons test p tests ps htest hrest =>
        exact ⟨hextends, _, _, (joined_reads negated tests htest hrest).parenthesized,
          (fills_chain negated p ps).parenthesized, fun later hlater =>
            truth?_among (htruth later hlater)⟩
  | flag r negated =>
    cases h
    rw [noting_params]
    refine ⟨Parameters.Extends.refl _, Means.predicate
      (reads_compare (lexes_column scope r) .eq (lexes_int _)) fun later hlater => ?_⟩
    cases negated <;> exact truth?_compare (fun n h => by cases h) rfl rfl

/-- The tokens of tests mean what the tests do. -/
theorem plan_means (hserver : server.IsDecisive) (column : Option String → String → Value)
    {p : Plan} : ∀ {s s' : ConditionState} {ts : List Token}, p.emit scope s = (ts, s') →
      s'.params.Extends s.params ∧
        Means server column s'.params ts (p.truth server (valueOf scope column)) := by
  induction p with
  | check c =>
    intro s s' ts h
    exact check_means hserver h
  | and left right ihl ihr =>
    intro s s' ts h
    rcases hl : left.emit scope s with ⟨l, s₁⟩
    rcases hr : right.emit scope s₁ with ⟨r, s₂⟩
    rw [Plan.emit, hl] at h
    dsimp only at h
    rw [hr] at h
    cases h
    obtain ⟨hext₁, hleft⟩ := ihl hl
    obtain ⟨hext₂, hright⟩ := ihr hr
    exact ⟨hext₂.trans hext₁, hleft.junction reads_and Fills.and truth?_and hright hext₂⟩
  | or left right ihl ihr =>
    intro s s' ts h
    rcases hl : left.emit scope s with ⟨l, s₁⟩
    rcases hr : right.emit scope s₁ with ⟨r, s₂⟩
    rw [Plan.emit, hl] at h
    dsimp only at h
    rw [hr] at h
    cases h
    obtain ⟨hext₁, hleft⟩ := ihl hl
    obtain ⟨hext₂, hright⟩ := ihr hr
    exact ⟨hext₂.trans hext₁, hleft.junction reads_or Fills.or truth?_or hright hext₂⟩

end Tokens

/-- A member that is found stands at a position of the scope. -/
theorem position_lt_of_resolve {scope : Scope} {ref : MemberRef} {r : Resolved}
    (h : (scope.resolve ref).toOption = some r) : r.position < scope.entities.length := by
  cases hr : scope.resolve ref with
  | error e =>
    rw [hr] at h
    cases h
  | ok r' =>
    rw [hr] at h
    cases h
    obtain ⟨entity, hentity, hrest⟩ := bind_eq_ok.1 hr
    obtain ⟨member, -, hpure⟩ := bind_eq_ok.1 hrest
    cases hpure
    rw [Scope.entity] at hentity
    split at hentity
    · next hget => exact (List.getElem?_eq_some_iff.1 hget).1
    · cases hentity

/-- A compiled condition is as true as its expression, whatever is bound behind its parameters, if the columns
show the tables and the members under negations are flags. -/
theorem ofExpr_truth {server : Server} (hserver : server.IsDecisive) {scope : Scope} {e : Expr}
    {params params' : Parameters} {c : Condition} (h : ofExpr scope e params = (.ok c, params'))
    {tables : Tables} {column : Option String → String → Value} (hshows : scope.Shows tables column)
    (hflags : ∀ ref ∈ e.negatedFlags false, ∀ r, (scope.resolve ref).toOption = some r →
      server.IsFlag (tables.value r)) :
    params'.Extends params ∧ ∃ s t, ofTokens? c.tokens = some s ∧
      e.truth? server scope tables = some t ∧
      ∀ later : Parameters, later.Extends params' → s.truth? ⟨server, column, later⟩ = some t := by
  obtain ⟨p, hplan, hemit⟩ := ofExpr_iff.1 h
  have hvalue : ∀ ref r, (scope.resolve ref).toOption = some r →
      tables.value r = valueOf scope column r := fun ref r hr =>
    (hshows r.position (position_lt_of_resolve hr) r.member.columnName).symm
  obtain ⟨t, ht, htruth⟩ := truth?_of_plan? hserver hvalue hflags hplan
  obtain ⟨hextends, is, s, hreads, hfills, hmeans⟩ := plan_means hserver column hemit
  rw [htruth, Truth.negateIf_false] at hmeans
  exact ⟨hextends, s, t, Fills.ofTokens? hreads hfills, ht, hmeans⟩

end Condition

/-! ## Clubs and their members -/

namespace Roster

/-- Clubs under one alias and members under another. -/
def scope : Scope where
  entities := [{ name := "Club", members := [{ name := "Name" }, { name := "IsActive" }] },
    { name := "Member", members := [{ name := "ClubId" }] }]
  aliases := some ["clb1", "mmbr2"]

/-- Numbers are compared as such, other values only with themselves. -/
def server : Server where
  holds op a b :=
    match a, b with
    | .int m, .int n => Search.compareInts op m.toInt n.toInt
    | a, b => Search.compareInts op (if a = b then 0 else 1) 0
  render _ := []

theorem compareInts_negate (op : Comparison) (m n : Int) :
    Search.compareInts op.negate m n = !Search.compareInts op m n := by
  cases op <;> simp [Search.compareInts, Comparison.negate, bne, ← decide_not]

theorem isDecisive : server.IsDecisive := by
  intro op a b _ _
  simp only [server]
  split <;> exact compareInts_negate ..

/-- A club's name, and numbers for all else. -/
def tables (flag clubId : Value) : Tables := fun position name =>
  if position = 1 then clubId else if name = "Name" then .text "5% off" else flag

/-- The columns under the aliases. -/
def columnUnder (flag clubId : Value) : Option String → String → Value
  | some "clb1", name => tables flag clubId 0 name
  | some "mmbr2", name => tables flag clubId 1 name
  | _, _ => .null

theorem shows (flag clubId : Value) : scope.Shows (tables flag clubId) (columnUnder flag clubId) := by
  rintro (_ | _ | position) hposition name
  · rfl
  · rfl
  · exact absurd hposition (by simp [scope])

/-- A part of a name and a flag that is not set, or a member of one of some clubs. -/
def expr : Expr :=
  .or (.and (.call (.member ⟨0, "Name"⟩) .contains (.value (.text "5%")))
      (.not (.member ⟨0, "IsActive"⟩)))
    (.call (.list [.int 7, .null]) .contains (.member ⟨1, "ClubId"⟩))

theorem isFlag_zero : ∀ ref ∈ expr.negatedFlags false, ∀ r,
    (scope.resolve ref).toOption = some r →
      server.IsFlag ((tables (.int 0) .null).value r) := by
  intro ref href r hr
  obtain rfl := List.mem_singleton.1 href
  cases hr
  exact Or.inr (by decide)

/-- A flag that is not set. -/
def notActive : Expr := .not (.member ⟨0, "IsActive"⟩)

/-- A flag compared with zero. -/
def inactive : Condition :=
  ⟨[.alias "clb1", .word .dot, .ident "IsActive", .word .space, .word .eq, .word .space, .int 0],
    [⟨0, { name := "Club", members := [{ name := "Name" }, { name := "IsActive" }] },
      { name := "IsActive" }⟩]⟩

end Roster

open Roster in
theorem ofExpr_truth_roster :
    server.IsDecisive ∧ scope.Shows (tables (.int 0) .null) (columnUnder (.int 0) .null) ∧
      (∀ ref ∈ expr.negatedFlags false, ∀ r, (scope.resolve ref).toOption = some r →
        server.IsFlag ((tables (.int 0) .null).value r)) ∧
      ∃ c params, Condition.ofExpr scope expr {} = (.ok c, params) ∧
        params.Extends {} ∧ ∃ s t, Search.ofTokens? c.tokens = some s ∧
          expr.truth? server scope (tables (.int 0) .null) = some t ∧
          ∀ later : Parameters, later.Extends params →
            s.truth? ⟨server, columnUnder (.int 0) .null, later⟩ = some t := by
  have hok : ∃ c params, Condition.ofExpr scope expr {} = (.ok c, params) := ⟨_, _, rfl⟩
  obtain ⟨c, params, h⟩ := hok
  exact ⟨isDecisive, shows _ _, isFlag_zero, c, params, h,
    Condition.ofExpr_truth isDecisive h (shows _ _) isFlag_zero⟩

open Roster in
/-- The negation of a member that is two is true of the member and not of its column. -/
theorem not_flag_two :
    server.IsDecisive ∧ scope.Shows (tables (.int 2) .null) (columnUnder (.int 2) .null) ∧
      Condition.ofExpr scope notActive {} = (.ok inactive, {}) ∧
      notActive.truth? server scope (tables (.int 2) .null) = some .holds ∧
      ∃ s, Search.ofTokens? inactive.tokens = some s ∧
        s.truth? ⟨server, columnUnder (.int 2) .null, {}⟩ = some .fails :=
  ⟨isDecisive, shows _ _, rfl, rfl, _, rfl, rfl⟩

end Rowgraph
