import Rowgraph.Proofs.Agreement
import Rowgraph.Proofs.Command.Made
import Rowgraph.Proofs.Exchange.Likeness
import Rowgraph.Proofs.Parameter

/-!
# Conditions with exchanged constants

Two expressions that differ in constants are compiled alike: both are refused, or both become conditions of
the same tokens and members, and bind parameters that differ in values only (`couples_bound`). The name of
a parameter is made of the names before it and of the member's, its placeholder of the name and of the
question whether it is inline (`bind_alike`), and whether a test can be made at all is decided by the shape
of the expression and by which constants are NULL or texts (`couples_compile`).
-/

set_option autoImplicit false

namespace Rowgraph

variable {k : Likeness}

/-! ## Values that may be exchanged -/

namespace Likeness

theorem bound_refl (v : Value) : k.bound v v := ⟨fun _ => rfl, Or.inl rfl⟩

theorem bound_of_row {v w : Value} (h : k.row v w) : k.bound v w :=
  ⟨fun hinline => k.numeric hinline v w h, Or.inr h⟩

theorem bound_of_constant {v w : Value} (h : k.constant v w) : k.bound v w := ⟨h.2.2, Or.inl h.2.1⟩

/-- A text is exchanged for a text only. -/
theorem bound_text (s t : String) : k.bound (.text s) (.text t) := ⟨fun _ => rfl, Or.inl rfl⟩

end Likeness

/-! ## Parameters -/

namespace Parameters

variable {ps ps' : Parameters}

theorem Alike.names_eq (h : ps.Alike k ps') : ps.names = ps'.names :=
  map_eq_of_forall₂ (h.entries.imp fun _ _ hp => hp.name)

/-- A free name depends on the names that are taken. -/
theorem Alike.freshName_eq (h : ps.Alike k ps') (base : String) :
    ps.freshName base = ps'.freshName base := by
  have hcontains : ps.contains = ps'.contains := by
    funext name
    rw [Bool.eq_iff_iff, contains_iff, contains_iff, h.names_eq]
  rw [freshName, freshName, h.entries.length_eq, hcontains]

theorem Alike.entry_alike (h : ps.Alike k ps') (base : String) {v w : Value} (hvalue : k.bound v w)
    (member : Option Member) :
    Parameter.Alike k (ps.entry base v member) (ps'.entry base w member) where
  name := h.freshName_eq base
  inline := by
    rw [entry, entry]
    dsimp only
    rw [← h.inlineNumbers]
    cases hinline : ps.inlineNumbers with
    | false => rfl
    | true => rw [hvalue.1 (h.numeric hinline)]
  textType := by
    by_cases heq : v.isText = w.isText
    · left
      rw [entry, entry]
      dsimp only
      rw [heq]
    · exact Or.inr ⟨heq, hvalue.2.resolve_left heq⟩

/-- Values that may be exchanged are bound to one placeholder. -/
theorem Alike.bind_alike (h : ps.Alike k ps') (base : String) {v w : Value} (hvalue : k.bound v w)
    (member : Option Member) :
    (ps.bind base v member).1 = (ps'.bind base w member).1 ∧
      (ps.bind base v member).2.Alike k (ps'.bind base w member).2 := by
  have hentry := h.entry_alike base hvalue member
  refine ⟨?_, h.inlineNumbers, h.numeric, ?_⟩
  · rw [bind, bind]
    dsimp only
    rw [Parameter.placeholder, Parameter.placeholder, hentry.name, hentry.inline]
  · exact List.rel_append h.entries (.cons hentry .nil)

end Parameters

/-! ## Expressions -/

namespace Expr

variable {e e' : Expr}

theorem Alike.unconverted (h : Expr.Alike k e e') : Expr.Alike k e.unconverted e'.unconverted := by
  induction h with
  | convert inner ih => exact ih
  | member ref => exact .member ref
  | value h => exact .value h
  | list h => exact .list h
  | and left right => exact .and left right
  | or left right => exact .or left right
  | not inner => exact .not inner
  | compare op left right => exact .compare op left right
  | call method target arg => exact .call method target arg
  | aggregate function arg => exact .aggregate function arg
  | aggregateRows function => exact .aggregateRows function
  | output name => exact .output name

theorem Alike.member?_eq (h : Expr.Alike k e e') : e.member? = e'.member? := by
  cases h <;> rfl

end Expr

/-! ## Conditions -/

/-- Have two conditions read the same members and bound parameters that differ in values only? -/
structure ConditionState.Alike (k : Likeness) (s s' : ConditionState) : Prop where
  params : s.params.Alike k s'.params
  members : s.members = s'.members

namespace Condition

variable {scope : Scope}

theorem couples_bindFor (m : Member) {v w : Value} (h : k.bound v w) :
    Couples (ConditionState.Alike k) (· = ·) (bindFor m v) (bindFor m w) := by
  intro s s' hs
  obtain ⟨hplaceholder, hparams⟩ := hs.params.bind_alike m.name h (some m)
  exact .ok ⟨hplaceholder, hparams, hs.members⟩

theorem couples_note (r : Resolved) :
    Couples (ConditionState.Alike k) (· = ·) (note r) (note r) := by
  intro s s' hs
  refine .ok ⟨rfl, ?_⟩
  dsimp only
  rw [hs.members]
  split
  · exact hs
  · exact ⟨hs.params, rfl⟩

theorem couples_read (ref : MemberRef) :
    Couples (ConditionState.Alike k) (· = ·) (read scope ref) (read scope ref) :=
  (Couples.lift (Agree.refl _)).bind_eq fun r => (couples_note r).bind_eq fun _ => Couples.pure rfl

theorem leftMember_agree {e e' : Expr} (h : Expr.Alike k e e') :
    Agree (· = ·) (leftMember e) (leftMember e') := by
  have hinner := h.unconverted
  rw [leftMember, leftMember]
  generalize e.unconverted = inner at hinner ⊢
  generalize e'.unconverted = inner' at hinner ⊢
  cases hinner with
  | member ref => exact .ok rfl
  | _ => exact .error _ _

/-- A value that meets a member is bound, or is NULL in both conditions. -/
theorem couples_comparison {left left' right right' : Expr} (hl : Expr.Alike k left left')
    (hr : Expr.Alike k right right') (op : Comparison) (composite : Bool) :
    Couples (ConditionState.Alike k) (· = ·) (comparison scope left op right composite)
      (comparison scope left' op right' composite) := by
  have hinner := hr.unconverted
  rw [comparison, comparison]
  refine (Couples.lift (leftMember_agree hl)).bind_eq fun ref => ?_
  refine (couples_read ref).bind_eq fun r => ?_
  have hvalue : ∀ v w, k.constant v w → Couples (ConditionState.Alike k) (· = ·)
      (do
        let placeholder ← bindFor r.member v
        return scope.column r ++ [Token.word .space] ++ Tokens.spaced op.word ++ [placeholder])
      (do
        let placeholder ← bindFor r.member w
        return scope.column r ++ [Token.word .space] ++ Tokens.spaced op.word ++ [placeholder]) :=
    fun v w h => (couples_bindFor r.member (Likeness.bound_of_constant h)).bind_eq fun _ =>
      Couples.pure rfl
  generalize right.unconverted = inner at hinner ⊢
  generalize right'.unconverted = inner' at hinner ⊢
  cases hinner with
  | @value v w h =>
    cases v with
    | null =>
      cases w with
      | null =>
        cases composite with
        | true => exact Couples.throw _ _
        | false => cases op <;> first | exact Couples.pure rfl | exact Couples.throw _ _
      | _ => exact absurd h.1 Bool.noConfusion
    | _ =>
      cases w with
      | null => exact absurd h.1 Bool.noConfusion
      | _ => exact hvalue _ _ h
  | member other => exact (couples_read other).bind_eq fun r' => Couples.pure rfl
  | _ => exact Couples.throw _ _

/-- A pattern is made of a text in both conditions, or in neither. -/
theorem couples_like {arg arg' : Expr} (h : Expr.Alike k arg arg') (ref : MemberRef) (place : Place)
    (negated : Bool) :
    Couples (ConditionState.Alike k) (· = ·) (like scope ref arg place negated)
      (like scope ref arg' place negated) := by
  have hinner := h.unconverted
  rw [like, like]
  generalize arg.unconverted = inner at hinner ⊢
  generalize arg'.unconverted = inner' at hinner ⊢
  cases hinner with
  | @value v w h =>
    cases v with
    | text s =>
      cases w with
      | text t =>
        refine (couples_read ref).bind_eq fun r => ?_
        exact (couples_bindFor r.member (Likeness.bound_text _ _)).bind_eq fun _ =>
          Couples.pure rfl
      | _ => exact absurd h.2.1 Bool.noConfusion
    | _ =>
      cases w with
      | text t => exact absurd h.2.1 Bool.noConfusion
      | _ => exact Couples.throw _ _
  | _ => exact Couples.throw _ _

theorem couples_elements {vs ws : List Value} (h : List.Forall₂ k.element vs ws)
    (column : List Token) (m : Member) (negated : Bool) :
    Couples (ConditionState.Alike k) (· = ·) (elements column m negated vs)
      (elements column m negated ws) := by
  induction h with
  | nil => exact Couples.pure rfl
  | @cons v w vs ws hvalue _ ih =>
    rw [elements, elements, ← hvalue.1]
    have htail : ∀ test, Couples (ConditionState.Alike k) (· = ·)
        (do return test :: (← elements column m negated vs))
        (do return test :: (← elements column m negated ws)) :=
      fun test => ih.bind_eq fun _ => Couples.pure rfl
    cases v.isNull with
    | true => exact (Couples.pure rfl).bind_eq htail
    | false =>
      exact (couples_bindFor m hvalue.2).bind_eq fun _ => (Couples.pure rfl).bind_eq htail

theorem couples_membership {vs ws : List Value} (h : List.Forall₂ k.element vs ws)
    {arg arg' : Expr} (harg : Expr.Alike k arg arg') (negated : Bool) :
    Couples (ConditionState.Alike k) (· = ·) (membership scope vs arg negated)
      (membership scope ws arg' negated) := by
  rw [membership, membership]
  refine (Couples.lift (leftMember_agree harg)).bind_eq fun ref => ?_
  refine (couples_read ref).bind_eq fun r => ?_
  cases h with
  | nil => exact Couples.pure rfl
  | cons hvalue hrest =>
    exact (couples_elements (.cons hvalue hrest) _ _ _).bind_eq fun _ => Couples.pure rfl

theorem couples_flag (ref : MemberRef) (negated : Bool) :
    Couples (ConditionState.Alike k) (· = ·) (flag scope ref negated) (flag scope ref negated) :=
  (couples_read ref).bind_eq fun _ => Couples.pure rfl

theorem couples_call {target target' arg arg' : Expr} (ht : Expr.Alike k target target')
    (ha : Expr.Alike k arg arg') (method : Method) (negated composite : Bool) :
    Couples (ConditionState.Alike k) (· = ·) (call scope target method arg negated composite)
      (call scope target' method arg' negated composite) := by
  -- alike targets have one shape, which decides between a pattern and a list
  have hinner := ht.unconverted
  have harg := ha.unconverted
  rw [call.eq_def, call.eq_def]
  cases method with
  | equals => exact couples_comparison ht ha _ composite
  | contains =>
    generalize target.unconverted = inner at hinner ⊢
    generalize target'.unconverted = inner' at hinner ⊢
    cases hinner with
    | list h => exact couples_membership h ha negated
    | member ref =>
      dsimp only
      have hlike : Couples (ConditionState.Alike k) (· = ·)
          (like scope ref arg .anywhere negated) (like scope ref arg' .anywhere negated) :=
        couples_like ha ref .anywhere negated
      generalize arg.unconverted = inner at harg ⊢
      generalize arg'.unconverted = inner' at harg ⊢
      cases harg with
      | member _ => exact Couples.throw _ _
      | _ => exact hlike
    | _ => exact Couples.throw _ _
  | startsWith =>
    generalize target.unconverted = inner at hinner ⊢
    generalize target'.unconverted = inner' at hinner ⊢
    cases hinner with
    | member ref => exact couples_like ha ref .start negated
    | _ => exact Couples.throw _ _
  | endsWith =>
    generalize target.unconverted = inner at hinner ⊢
    generalize target'.unconverted = inner' at hinner ⊢
    cases hinner with
    | member ref => exact couples_like ha ref .ending negated
    | _ => exact Couples.throw _ _

theorem couples_junction {w : Word} {l l' r r' : ConditionM (List Token)}
    (hl : Couples (ConditionState.Alike k) (· = ·) l l')
    (hr : Couples (ConditionState.Alike k) (· = ·) r r') (negated : Bool) :
    Couples (ConditionState.Alike k) (· = ·) (junction w l r negated)
      (junction w l' r' negated) := by
  rw [junction, junction]
  cases negated with
  | true => exact Couples.throw _ _
  | false => exact hl.bind_eq fun _ => hr.bind_eq fun _ => Couples.pure rfl

/-- Expressions that differ in constants are compiled alike. -/
theorem couples_compile (scope : Scope) {e e' : Expr} (h : Expr.Alike k e e') :
    ∀ negated composite, Couples (ConditionState.Alike k) (· = ·) (compile scope e negated composite)
      (compile scope e' negated composite) := by
  induction h with
  | and left right ihl ihr =>
    intro negated composite
    exact couples_junction (ihl false true) (ihr false true) negated
  | or left right ihl ihr =>
    intro negated composite
    exact couples_junction (ihl false true) (ihr false true) negated
  | not inner ih => exact fun negated composite => ih (!negated) composite
  | convert inner ih => exact ih
  | compare op left right =>
    intro negated composite
    exact couples_comparison left right _ composite
  | call method target arg =>
    intro negated composite
    exact couples_call target arg method negated composite
  | member ref => exact fun negated _ => couples_flag ref negated
  | _ => exact fun _ _ => Couples.throw _ _

theorem ofExpr_fst (scope : Scope) (e : Expr) (ps : Parameters) :
    (ofExpr scope e ps).1 =
      (outcome (compile scope e false false) ⟨ps, []⟩).map fun p => ⟨p.1, p.2.members⟩ := by
  rw [ofExpr, outcome]
  rcases (compile scope e false false).run.run ⟨ps, []⟩ with ⟨_ | ts, s⟩
  · rfl
  · rfl

theorem outcome_bound (scope : Scope) (e : Expr) (ps : Parameters) :
    outcome (bound scope e) ps =
      (outcome (compile scope e false false) ⟨ps, []⟩).map fun p =>
        (⟨p.1, p.2.members⟩, p.2.params) := by
  have hrun : (bound scope e).run.run ps = ofExpr scope e ps := run_bound scope e ps
  rw [outcome, hrun, ofExpr, outcome]
  rcases (compile scope e false false).run.run ⟨ps, []⟩ with ⟨_ | ts, s⟩
  · rfl
  · rfl

/-- Expressions that differ in constants give conditions of the same tokens and members. -/
theorem ofExpr_agree {e e' : Expr} (h : Expr.Alike k e e') {ps ps' : Parameters}
    (hps : ps.Alike k ps') : Agree (· = ·) (ofExpr scope e ps).1 (ofExpr scope e' ps').1 := by
  have hcompile := couples_compile scope h false false ⟨ps, []⟩ ⟨ps', []⟩ ⟨hps, rfl⟩
  rw [ofExpr_fst, ofExpr_fst]
  exact hcompile.map fun p q hpq => by rw [hpq.1, hpq.2.members]

theorem couples_bound {e e' : Expr} (h : Expr.Alike k e e') :
    Couples (Parameters.Alike k) (· = ·) (bound scope e) (bound scope e') := by
  intro ps ps' hps
  have hcompile := couples_compile scope h false false ⟨ps, []⟩ ⟨ps', []⟩ ⟨hps, rfl⟩
  rw [outcome_bound, outcome_bound]
  exact hcompile.map fun p q hpq => ⟨by rw [hpq.1, hpq.2.members], hpq.2.params⟩

end Condition

end Rowgraph
