import Rowgraph.Condition
import Rowgraph.Proofs.Results

/-!
# What a condition is compiled to

Compiling an expression decides first which tests there are and then writes them, one after the other.
The first does not depend on the parameters (`Expr.plan?`), the second cannot fail (`Plan.emit`), and a
compilation that succeeds is one behind the other (`compile_iff`).
-/

set_option autoImplicit false

namespace Rowgraph.Condition

/-- A test of a column. -/
inductive Check where
  | compare (left : Resolved) (op : Comparison) (value : Value)
  | compareMember (left : Resolved) (op : Comparison) (right : Resolved)
  | isNull (r : Resolved) (negated : Bool)
  | like (r : Resolved) (place : Place) (text : String) (negated : Bool)
  | among (r : Resolved) (elements : List Value) (negated : Bool)
  | flag (r : Resolved) (negated : Bool)

/-- The tests of a condition and how they are joined. -/
inductive Plan where
  | check (c : Check)
  | and (left right : Plan)
  | or (left right : Plan)

end Rowgraph.Condition

namespace Rowgraph

open Condition

namespace Expr

/-- The member that an expression is, converted or not. -/
def resolved? (scope : Scope) (e : Expr) : Option Resolved :=
  e.unconverted.member?.bind fun ref => (scope.resolve ref).toOption

/-- The test of a comparison. -/
def comparisonCheck? (scope : Scope) (left : Expr) (op : Comparison) (right : Expr)
    (composite : Bool) : Option Check := do
  let r ← left.resolved? scope
  match right.unconverted with
  | .value .null =>
    if composite then none
    else
      match op with
      | .eq => return .isNull r false
      | .ne => return .isNull r true
      | _ => none
  | .value v => return .compare r op v
  | .member _ => return .compareMember r op (← right.resolved? scope)
  | _ => none

/-- The test of a match with a text. -/
def likeCheck? (scope : Scope) (ref : MemberRef) (arg : Expr) (place : Place) (negated : Bool) :
    Option Check :=
  match arg.unconverted with
  | .value (.text s) => (scope.resolve ref).toOption.map fun r => .like r place s negated
  | _ => none

/-- The test of a call. -/
def callCheck? (scope : Scope) (target : Expr) (method : Method) (arg : Expr)
    (negated composite : Bool) : Option Check :=
  match method, target.unconverted with
  | .equals, _ => comparisonCheck? scope target (if negated then .ne else .eq) arg composite
  | .contains, .list elements => (arg.resolved? scope).map fun r => .among r elements negated
  | .contains, .member ref => likeCheck? scope ref arg .anywhere negated
  | .startsWith, .member ref => likeCheck? scope ref arg .start negated
  | .endsWith, .member ref => likeCheck? scope ref arg .ending negated
  | _, _ => none

/-- The tests of an expression, or of its negation. -/
def plan? (scope : Scope) : Expr → (negated composite : Bool) → Option Plan
  | .and left right, negated, _ =>
    if negated then none
    else do return .and (← left.plan? scope false true) (← right.plan? scope false true)
  | .or left right, negated, _ =>
    if negated then none
    else do return .or (← left.plan? scope false true) (← right.plan? scope false true)
  | .not inner, negated, composite => inner.plan? scope (!negated) composite
  | .compare left op right, negated, composite =>
    (comparisonCheck? scope left (if negated then op.negate else op) right composite).map .check
  | .call target method arg, negated, composite =>
    (callCheck? scope target method arg negated composite).map .check
  | .member ref, negated, _ => (scope.resolve ref).toOption.map fun r => .check (.flag r negated)
  | .convert inner, negated, composite => inner.plan? scope negated composite
  | _, _, _ => none

end Expr

namespace ConditionState

/-- The state with a member noted. -/
def noting (s : ConditionState) (r : Resolved) : ConditionState :=
  if r ∈ s.members then s else { s with members := s.members ++ [r] }

/-- The name of the next parameter for a member. -/
def nameFor (s : ConditionState) (m : Member) : String := s.params.freshName m.name

/-- The placeholder for a value that meets a member, and the state with the value bound. -/
def binding (s : ConditionState) (m : Member) (value : Value) : Token × ConditionState :=
  let (placeholder, params) := s.params.bind m.name value (some m)
  (placeholder, { s with params := params })

end ConditionState

@[simp] theorem noting_params (s : ConditionState) (r : Resolved) : (s.noting r).params = s.params := by
  rw [ConditionState.noting]
  split <;> rfl

namespace Condition

/-- The tests of a column against the elements of a list. -/
def emitElements (column : List Token) (m : Member) (negated : Bool) :
    List Value → ConditionState → List (List Token) × ConditionState
  | [], s => ([], s)
  | value :: rest, s =>
    if value.isNull then
      let (tests, s) := emitElements column m negated rest s
      ((column ++ [.word .space, .word (if negated then .isNotNull else .isNull)]) :: tests, s)
    else
      let (placeholder, s) := s.binding m value
      let (tests, s) := emitElements column m negated rest s
      ((column ++ [.word .space] ++ Tokens.spaced (if negated then .ne else .eq) ++ [placeholder]) ::
        tests, s)

/-- The tokens of a test. -/
def Check.emit (scope : Scope) : Check → ConditionState → List Token × ConditionState
  | .compare r op value, s =>
    let (placeholder, s) := (s.noting r).binding r.member value
    (scope.column r ++ [.word .space] ++ Tokens.spaced op.word ++ [placeholder], s)
  | .compareMember r op r', s =>
    (scope.column r ++ [.word .space] ++ Tokens.spaced op.word ++ scope.column r',
      (s.noting r).noting r')
  | .isNull r negated, s =>
    (scope.column r ++ [.word .space] ++ [.word (if negated then .isNotNull else .isNull)],
      s.noting r)
  | .like r place text negated, s =>
    let (placeholder, s) := (s.noting r).binding r.member (.text (Like.pattern place text))
    (scope.column r ++ [.word .space] ++ Tokens.spaced (if negated then .notLike else .like) ++
      ([placeholder] ++ [.word .space, .word .likeEscape]), s)
  | .among r elements negated, s =>
    if elements.isEmpty then
      ([.int 1] ++ [.word .space] ++ Tokens.spaced .eq ++ [.int (if negated then 1 else 0)],
        s.noting r)
    else
      let (tests, s) := emitElements (scope.column r) r.member negated elements (s.noting r)
      (Tokens.parenthesized (joined (if negated then .and else .or) tests), s)
  | .flag r negated, s =>
    (scope.column r ++ [.word .space] ++ Tokens.spaced .eq ++ [.int (if negated then 0 else 1)],
      s.noting r)

/-- The tokens of tests and of what joins them. -/
def Plan.emit (scope : Scope) : Plan → ConditionState → List Token × ConditionState
  | .check c, s => c.emit scope s
  | .and left right, s =>
    let (l, s) := left.emit scope s
    let (r, s) := right.emit scope s
    (Tokens.parenthesized l ++ [.word .space] ++ Tokens.spaced .and ++ Tokens.parenthesized r, s)
  | .or left right, s =>
    let (l, s) := left.emit scope s
    let (r, s) := right.emit scope s
    (Tokens.parenthesized l ++ [.word .space] ++ Tokens.spaced .or ++ Tokens.parenthesized r, s)

/-- What holds of tests, and of two parts with a word between them, holds of the tests joined by the word. -/
theorem joined_of_closed {P : List Token → Prop} {w : Word} {tests : List (List Token)} (hnil : P [])
    (hbetween : ∀ {ts us : List Token}, P ts → P us →
      P (ts ++ [Token.word .space] ++ Tokens.spaced w ++ us))
    (h : ∀ test ∈ tests, P test) : P (joined w tests) := by
  induction tests with
  | nil => exact hnil
  | cons test rest ih =>
    have hrest := ih fun t ht => h t (List.mem_cons_of_mem _ ht)
    cases rest with
    | nil => exact h test List.mem_cons_self
    | cons next rest =>
      have hboth := hbetween (h test List.mem_cons_self) hrest
      rwa [List.append_assoc test] at hboth

/-! ## Steps that succeed -/

variable {β : Type} {s s' : ConditionState}

theorem yields_read {scope : Scope} {ref : MemberRef} {r : Resolved} :
    Yields (read scope ref) s r s' ↔ (scope.resolve ref).toOption = some r ∧ s' = s.noting r := by
  rw [read, yields_bind]
  constructor
  · rintro ⟨r', s₁, hresolve, hnote⟩
    obtain ⟨hr, rfl⟩ := yields_lift.1 hresolve
    obtain ⟨u, s₂, hu, hpure⟩ := yields_bind.1 hnote
    cases hu
    cases yields_pure.1 hpure
    exact ⟨hr, rfl⟩
  · rintro ⟨hr, rfl⟩
    exact ⟨r, s, yields_lift.2 ⟨hr, rfl⟩, rfl⟩

/-- Reading a member and going on. -/
theorem yields_read_bind {scope : Scope} {ref : MemberRef} {f : Resolved → ConditionM β} {b : β} :
    Yields (read scope ref >>= f) s b s' ↔
      ∃ r, (scope.resolve ref).toOption = some r ∧ Yields (f r) (s.noting r) b s' := by
  rw [yields_bind]
  constructor
  · rintro ⟨r, s₁, hr, hf⟩
    obtain ⟨hresolve, rfl⟩ := yields_read.1 hr
    exact ⟨r, hresolve, hf⟩
  · rintro ⟨r, hr, hf⟩
    exact ⟨r, s.noting r, yields_read.2 ⟨hr, rfl⟩, hf⟩

/-- Binding a value and going on. -/
theorem yields_bindFor_bind {m : Member} {value : Value} {f : Token → ConditionM β} {b : β} :
    Yields (bindFor m value >>= f) s b s' ↔
      Yields (f (s.binding m value).1) (s.binding m value).2 b s' := by
  rw [yields_bind]
  constructor
  · rintro ⟨t, s₁, ht, hf⟩
    cases ht
    exact hf
  · intro hf
    exact ⟨_, _, rfl, hf⟩

/-! ## Compilations that succeed -/

theorem leftMember_toOption (e : Expr) : (leftMember e).toOption = e.unconverted.member? := by
  rw [leftMember]
  cases e.unconverted <;> rfl

/-- Finding the member on the left of a comparison. -/
theorem yields_left {scope : Scope} {e : Expr} {f : Resolved → ConditionM β} {b : β} :
    Yields (liftM (leftMember e) >>= fun ref => read scope ref >>= f) s b s' ↔
      ∃ r, e.resolved? scope = some r ∧ Yields (f r) (s.noting r) b s' := by
  rw [yields_bind, Expr.resolved?, ← leftMember_toOption]
  constructor
  · rintro ⟨ref, s₁, hleft, hread⟩
    obtain ⟨href, rfl⟩ := yields_lift.1 hleft
    obtain ⟨r, hresolve, hf⟩ := yields_read_bind.1 hread
    exact ⟨r, by rw [href, Option.bind_some, hresolve], hf⟩
  · rintro ⟨r, hr, hf⟩
    obtain ⟨ref, href, hresolve⟩ := Option.bind_eq_some_iff.1 hr
    exact ⟨ref, s, yields_lift.2 ⟨href, rfl⟩, yields_read_bind.2 ⟨r, hresolve, hf⟩⟩

section Parts

variable {scope : Scope} {ts : List Token}

theorem comparison_iff {left right : Expr} {op : Comparison} {composite : Bool} :
    Yields (comparison scope left op right composite) s ts s' ↔
      ∃ c, left.comparisonCheck? scope op right composite = some c ∧ c.emit scope s = (ts, s') := by
  rw [comparison, yields_left, Expr.comparisonCheck?]
  cases left.resolved? scope with
  | none => simp
  | some r =>
    -- a value other than NULL is bound, whatever it is
    have hvalue : ∀ v, Yields (do
          let placeholder ← bindFor r.member v
          return scope.column r ++ [.word .space] ++ Tokens.spaced op.word ++ [placeholder])
          (s.noting r) ts s' ↔ (Check.compare r op v).emit scope s = (ts, s') := fun v =>
      yields_bindFor_bind.trans yields_pure
    simp only [Option.some.injEq, exists_eq_left', Option.bind_eq_bind, Option.bind_some]
    cases hright : right.unconverted with
    | value v =>
      cases v with
      | null =>
        cases composite with
        | true => simp [yields_throw]
        | false => cases op <;> simp [yields_throw, yields_pure, Check.emit]
      | _ =>
        simp only [Option.pure_def, Option.some.injEq, exists_eq_left']
        exact hvalue _
    | member ref =>
      rw [yields_read_bind, Expr.resolved?, hright]
      simp only [Expr.member?, Option.bind_some]
      cases (scope.resolve ref).toOption with
      | none => simp
      | some r' =>
        simp only [Option.some.injEq, exists_eq_left', yields_pure, Option.bind_some,
          Option.pure_def]
        rfl
    | _ => simp [yields_throw]

theorem like_iff {ref : MemberRef} {arg : Expr} {place : Place} {negated : Bool} :
    Yields (like scope ref arg place negated) s ts s' ↔
      ∃ c, arg.likeCheck? scope ref place negated = some c ∧ c.emit scope s = (ts, s') := by
  rw [like, Expr.likeCheck?]
  cases arg.unconverted with
  | value v =>
    cases v with
    | text text =>
      simp only [yields_read_bind, yields_bindFor_bind, yields_pure]
      cases (scope.resolve ref).toOption with
      | none => simp
      | some r =>
        simp only [Option.some.injEq, exists_eq_left', Option.map_some]
        rfl
    | _ => simp [yields_throw]
  | _ => simp [yields_throw]

/-- The tests against the elements of a list. -/
theorem elements_iff {column : List Token} {m : Member} {negated : Bool} (values : List Value) :
    ∀ {s s' : ConditionState} {tests : List (List Token)},
      Yields (elements column m negated values) s tests s' ↔
        emitElements column m negated values s = (tests, s') := by
  induction values with
  | nil =>
    intro s s' tests
    exact yields_pure
  | cons value rest ih =>
    intro s s' tests
    have htail : ∀ (test : List Token) (s₁ : ConditionState),
        Yields (do return test :: (← elements column m negated rest)) s₁ tests s' ↔
          (test :: (emitElements column m negated rest s₁).1,
            (emitElements column m negated rest s₁).2) = (tests, s') := by
      intro test s₁
      rw [yields_bind]
      constructor
      · rintro ⟨found, s₂, hfound, hpure⟩
        rw [ih.1 hfound]
        exact yields_pure.1 hpure
      · intro h
        exact ⟨_, _, ih.2 rfl, yields_pure.2 h⟩
    rw [elements, emitElements]
    cases value.isNull with
    | true =>
      simp only [if_true, pure_bind]
      exact htail _ s
    | false =>
      simp only [Bool.false_eq_true, if_false, pure_bind]
      exact yields_bindFor_bind.trans (htail _ _)

theorem membership_iff {values : List Value} {arg : Expr} {negated : Bool} :
    Yields (membership scope values arg negated) s ts s' ↔
      ∃ r, arg.resolved? scope = some r ∧ (Check.among r values negated).emit scope s = (ts, s') := by
  rw [membership, yields_left]
  refine exists_congr fun r => and_congr_right fun _ => ?_
  rw [Check.emit]
  cases values.isEmpty with
  | true => exact yields_pure
  | false =>
    simp only [Bool.false_eq_true, if_false]
    rw [yields_bind]
    constructor
    · rintro ⟨tests, s₁, htests, hpure⟩
      rw [(elements_iff values).1 htests]
      exact yields_pure.1 hpure
    · intro h
      exact ⟨_, _, (elements_iff values).2 rfl, yields_pure.2 h⟩

theorem call_iff {target : Expr} {method : Method} {arg : Expr} {negated composite : Bool} :
    Yields (call scope target method arg negated composite) s ts s' ↔
      ∃ c, target.callCheck? scope method arg negated composite = some c ∧
        c.emit scope s = (ts, s') := by
  rw [call.eq_def, Expr.callCheck?.eq_def]
  cases method with
  | equals => exact comparison_iff
  | contains =>
    cases target.unconverted with
    | list values =>
      rw [membership_iff]
      cases arg.resolved? scope <;> simp
    | member ref =>
      -- a member as the argument is refused with an error of its own
      dsimp only
      rw [← like_iff]
      cases harg : arg.unconverted with
      | member _ => simp [yields_throw, like, harg]
      | _ => rfl
    | _ => simp [yields_throw]
  | startsWith =>
    cases target.unconverted with
    | member ref => exact like_iff
    | _ => simp [yields_throw]
  | endsWith =>
    cases target.unconverted with
    | member ref => exact like_iff
    | _ => simp [yields_throw]

theorem flag_iff {ref : MemberRef} {negated : Bool} :
    Yields (flag scope ref negated) s ts s' ↔
      ∃ r, (scope.resolve ref).toOption = some r ∧ (Check.flag r negated).emit scope s = (ts, s') := by
  rw [flag, yields_read_bind]
  exact exists_congr fun r => and_congr_right fun _ => yields_pure

/-- Two conditions, each the tokens of its tests, joined by AND or OR. -/
theorem junction_iff {w : Word} {left right : ConditionM (List Token)} {l r : Option Plan}
    (hl : ∀ {s ts s'}, Yields left s ts s' ↔ ∃ p, l = some p ∧ p.emit scope s = (ts, s'))
    (hr : ∀ {s ts s'}, Yields right s ts s' ↔ ∃ p, r = some p ∧ p.emit scope s = (ts, s')) :
    Yields (junction w left right false) s ts s' ↔
      ∃ p q, l = some p ∧ r = some q ∧
        (Tokens.parenthesized (p.emit scope s).1 ++ [Token.word .space] ++ Tokens.spaced w ++
          Tokens.parenthesized (q.emit scope (p.emit scope s).2).1,
          (q.emit scope (p.emit scope s).2).2) = (ts, s') := by
  rw [junction, if_neg Bool.false_ne_true, yields_bind]
  constructor
  · rintro ⟨lts, s₁, hleft, hrest⟩
    obtain ⟨rts, s₂, hright, hpure⟩ := yields_bind.1 hrest
    obtain ⟨p, hp, hpemit⟩ := hl.1 hleft
    obtain ⟨q, hq, hqemit⟩ := hr.1 hright
    refine ⟨p, q, hp, hq, ?_⟩
    rw [hpemit, hqemit]
    exact yields_pure.1 hpure
  · rintro ⟨p, q, hp, hq, heq⟩
    exact ⟨_, _, hl.2 ⟨p, hp, rfl⟩,
      yields_bind.2 ⟨_, _, hr.2 ⟨q, hq, rfl⟩, yields_pure.2 heq⟩⟩

/-- An expression is compiled to the tokens of its tests, or not at all. -/
theorem compile_iff {e : Expr} {negated composite : Bool} :
    Yields (compile scope e negated composite) s ts s' ↔
      ∃ p, e.plan? scope negated composite = some p ∧ p.emit scope s = (ts, s') := by
  induction e generalizing negated composite s s' ts with
  | and left right ihl ihr =>
    cases negated with
    -- a negated conjunction is refused, and so is a negated disjunction
    | true => simp [compile, junction, Expr.plan?, yields_throw]
    | false =>
      rw [compile, junction_iff ihl ihr, Expr.plan?]
      cases left.plan? scope false true <;> cases right.plan? scope false true <;> simp [Plan.emit]
  | or left right ihl ihr =>
    cases negated with
    | true => simp [compile, junction, Expr.plan?, yields_throw]
    | false =>
      rw [compile, junction_iff ihl ihr, Expr.plan?]
      cases left.plan? scope false true <;> cases right.plan? scope false true <;> simp [Plan.emit]
  | not inner ih => exact ih
  | convert inner ih => exact ih
  | compare left op right =>
    rw [compile, comparison_iff, Expr.plan?]
    cases left.comparisonCheck? scope _ right composite <;> simp [Plan.emit]
  | call target method arg =>
    rw [compile, call_iff, Expr.plan?]
    cases target.callCheck? scope method arg negated composite <;> simp [Plan.emit]
  | member ref =>
    rw [compile, flag_iff, Expr.plan?]
    cases (scope.resolve ref).toOption <;> simp [Plan.emit]
  | _ => simp [compile, Expr.plan?, yields_throw]

end Parts

/-- The condition of an expression: its tokens, the members it reads and the parameters behind it. -/
theorem ofExpr_iff {scope : Scope} {e : Expr} {params params' : Parameters} {c : Condition} :
    ofExpr scope e params = (.ok c, params') ↔
      ∃ p, e.plan? scope false false = some p ∧
        p.emit scope ⟨params, []⟩ = (c.tokens, ⟨params', c.members⟩) := by
  rw [← compile_iff, Yields, ofExpr]
  rcases (compile scope e false false).run.run ⟨params, []⟩ with ⟨_ | ts, s⟩
  · constructor
    · intro h
      cases h
    · intro h
      cases h
  · obtain ⟨tokens, members⟩ := c
    constructor
    · intro h
      cases h
      rfl
    · intro h
      cases h
      rfl

end Condition

end Rowgraph
