import Rowgraph.Proofs.Condition.Plan

/-!
# Which expressions are conditions

The grammar of conditions, said of expressions alone (`Expr.IsCondition`), and the theorem that just its
expressions are compiled, whatever parameters are bound already (`ofExpr_isOk_iff`). A conversion may stand
around anything and changes nothing. A test may be negated; of AND and OR only a double negation may be
taken. Whether AND or OR encloses an expression matters to the tests for NULL alone, which stand by
themselves.
-/

set_option autoImplicit false

namespace Rowgraph

/-- Does the reference name a member that has a column, at a position that the scope has? -/
def Scope.Has (scope : Scope) (ref : MemberRef) : Prop :=
  ∃ e m, scope.entities[ref.position]? = some e ∧ e.member? ref.name = some m ∧ m.notMapped = false

namespace Expr

/-- Is the expression a member of the scope? -/
def IsMember (scope : Scope) (e : Expr) : Prop :=
  ∃ ref, e.unconverted = .member ref ∧ scope.Has ref

/-- May the expression stand on the right of a comparison? NULL may not inside AND or OR. -/
inductive IsOperand (scope : Scope) (enclosed : Bool) (op : Comparison) (e : Expr) : Prop
  | value {v : Value} (same : e.unconverted = .value v) (present : v ≠ .null)
  | member (h : e.IsMember scope)
  | null (same : e.unconverted = .value .null) (equality : op = .eq ∨ op = .ne)
      (alone : enclosed = false)

/-- Is the expression a test, which may be negated? -/
inductive IsTest (scope : Scope) (enclosed : Bool) : Expr → Prop
  | member {ref : MemberRef} (h : scope.Has ref) : IsTest scope enclosed (.member ref)
  | compare {left right : Expr} {op : Comparison} (hleft : left.IsMember scope)
      (hright : right.IsOperand scope enclosed op) : IsTest scope enclosed (.compare left op right)
  | equals {target arg : Expr} (htarget : target.IsMember scope)
      (harg : arg.IsOperand scope enclosed .eq) : IsTest scope enclosed (.call target .equals arg)
  | element {target arg : Expr} {values : List Value} (htarget : target.unconverted = .list values)
      (harg : arg.IsMember scope) : IsTest scope enclosed (.call target .contains arg)
  | text {target arg : Expr} {method : Method} {s : String} (hmethod : method ≠ .equals)
      (htarget : target.IsMember scope) (harg : arg.unconverted = .value (.text s)) :
      IsTest scope enclosed (.call target method arg)

/-- Is the expression a condition, inside AND or OR or not? -/
inductive IsCondition (scope : Scope) : Bool → Expr → Prop
  | test {enclosed : Bool} {e : Expr} (h : e.IsTest scope enclosed) : IsCondition scope enclosed e
  | and {enclosed : Bool} {left right : Expr} (hleft : IsCondition scope true left)
      (hright : IsCondition scope true right) : IsCondition scope enclosed (.and left right)
  | or {enclosed : Bool} {left right : Expr} (hleft : IsCondition scope true left)
      (hright : IsCondition scope true right) : IsCondition scope enclosed (.or left right)
  | notTest {enclosed : Bool} {inner : Expr} (h : inner.unconverted.IsTest scope enclosed) :
      IsCondition scope enclosed (.not inner)
  | notNot {enclosed : Bool} {inner e : Expr} (same : inner.unconverted = .not e)
      (h : IsCondition scope enclosed e) : IsCondition scope enclosed (.not inner)
  | convert {enclosed : Bool} {inner : Expr} (h : IsCondition scope enclosed inner) :
      IsCondition scope enclosed (.convert inner)

end Expr

variable {scope : Scope} {enclosed : Bool}

/-! ## Members and operands -/

theorem resolve_isSome_iff {ref : MemberRef} :
    (scope.resolve ref).toOption.isSome ↔ scope.Has ref := by
  rw [Scope.resolve, Scope.entity, Scope.Has]
  cases scope.entities[ref.position]? with
  | none => simp [bind, Except.bind, Except.toOption]
  | some e =>
    simp only [bind, Except.bind, Entity.resolve]
    cases hmember : e.member? ref.name with
    | none => simp [hmember, Except.toOption]
    | some m =>
      cases hmapped : m.notMapped <;>
        simp [hmember, hmapped, Except.toOption, pure, Except.pure]

theorem resolved?_isSome_iff {e : Expr} : (e.resolved? scope).isSome ↔ e.IsMember scope := by
  rw [Expr.resolved?, Expr.IsMember]
  cases e.unconverted with
  | member ref => simp [Expr.member?, resolve_isSome_iff]
  | _ => simp [Expr.member?]

theorem Expr.IsMember.ne_value {e : Expr} (h : e.IsMember scope) (v : Value) :
    e.unconverted ≠ .value v := by
  obtain ⟨ref, hsame, -⟩ := h
  rw [hsame]
  exact Expr.noConfusion

theorem Expr.isOperand_null_iff {right : Expr} {op : Comparison} (h : right.unconverted = .value .null) :
    right.IsOperand scope enclosed op ↔ (op = .eq ∨ op = .ne) ∧ enclosed = false := by
  constructor
  · rintro (⟨hsame, hpresent⟩ | hmember | ⟨-, hop, halone⟩)
    · rw [h] at hsame
      cases hsame
      exact absurd rfl hpresent
    · exact absurd h (hmember.ne_value .null)
    · exact ⟨hop, halone⟩
  · rintro ⟨hop, halone⟩
    exact .null h hop halone

theorem Expr.isOperand_member_iff {right : Expr} {op : Comparison} {ref : MemberRef}
    (h : right.unconverted = .member ref) :
    right.IsOperand scope enclosed op ↔ right.IsMember scope := by
  constructor
  · rintro (⟨hsame, -⟩ | hmember | ⟨hsame, -, -⟩)
    · exact absurd (h.symm.trans hsame) Expr.noConfusion
    · exact hmember
    · exact absurd (h.symm.trans hsame) Expr.noConfusion
  · exact .member

theorem comparisonCheck?_isSome_iff {left right : Expr} {op : Comparison} :
    (left.comparisonCheck? scope op right enclosed).isSome ↔
      left.IsMember scope ∧ right.IsOperand scope enclosed op := by
  rw [← resolved?_isSome_iff, Expr.comparisonCheck?]
  cases left.resolved? scope with
  | none => simp
  | some r =>
    simp only [Option.bind_eq_bind, Option.bind_some, Option.isSome_some, true_and]
    -- the check looks through conversions, and then at what kind of expression is there
    cases hright : right.unconverted with
    | value v =>
      cases v with
      | null =>
        rw [Expr.isOperand_null_iff hright]
        cases enclosed <;> cases op <;> simp
      | _ =>
        have hvalue : right.IsOperand scope enclosed op := .value hright Value.noConfusion
        simp [hvalue]
    | member ref =>
      rw [Expr.isOperand_member_iff hright, ← resolved?_isSome_iff]
      cases right.resolved? scope <;> simp
    | _ =>
      have hoperand : ¬ right.IsOperand scope enclosed op := by
        rintro (⟨hsame, -⟩ | ⟨ref, hsame, -⟩ | ⟨hsame, -, -⟩) <;>
          exact absurd (hright.symm.trans hsame) Expr.noConfusion
      simp [hoperand]

/-- A comparison and the one that negates it take the same operands. -/
theorem isOperand_negate (op : Comparison) {e : Expr} :
    e.IsOperand scope enclosed op.negate ↔ e.IsOperand scope enclosed op := by
  have hequality : ∀ op : Comparison, op.negate = .eq ∨ op.negate = .ne ↔ op = .eq ∨ op = .ne := by
    intro op
    cases op <;> simp [Comparison.negate]
  constructor
  · rintro (⟨hsame, hpresent⟩ | h | ⟨hsame, hop, halone⟩)
    · exact .value hsame hpresent
    · exact .member h
    · exact .null hsame ((hequality op).1 hop) halone
  · rintro (⟨hsame, hpresent⟩ | h | ⟨hsame, hop, halone⟩)
    · exact .value hsame hpresent
    · exact .member h
    · exact .null hsame ((hequality op).2 hop) halone

/-! ## Tests -/

theorem isTest_member_iff {ref : MemberRef} :
    (Expr.member ref).IsTest scope enclosed ↔ scope.Has ref := by
  constructor
  · rintro ⟨h⟩
    exact h
  · exact .member

theorem isTest_compare_iff {left right : Expr} {op : Comparison} :
    (Expr.compare left op right).IsTest scope enclosed ↔
      left.IsMember scope ∧ right.IsOperand scope enclosed op := by
  constructor
  · rintro ⟨⟩
    exact ⟨‹_›, ‹_›⟩
  · rintro ⟨hleft, hright⟩
    exact .compare hleft hright

theorem likeCheck?_isSome_iff {ref : MemberRef} {arg : Expr} {place : Place} {negated : Bool} :
    (arg.likeCheck? scope ref place negated).isSome ↔
      scope.Has ref ∧ ∃ s, arg.unconverted = .value (.text s) := by
  rw [Expr.likeCheck?]
  cases arg.unconverted with
  | value v =>
    cases v with
    | text s => simp [resolve_isSome_iff]
    | _ => simp
  | _ => simp

theorem isTest_call_iff {target arg : Expr} {method : Method} :
    (Expr.call target method arg).IsTest scope enclosed ↔
      (method = .equals ∧ target.IsMember scope ∧ arg.IsOperand scope enclosed .eq) ∨
      (method = .contains ∧ (∃ values, target.unconverted = .list values) ∧ arg.IsMember scope) ∨
      (method ≠ .equals ∧ target.IsMember scope ∧ ∃ s, arg.unconverted = .value (.text s)) := by
  constructor
  · rintro (_ | _ | ⟨htarget, harg⟩ | ⟨htarget, harg⟩ | ⟨hmethod, htarget, harg⟩)
    · exact Or.inl ⟨rfl, htarget, harg⟩
    · exact Or.inr (Or.inl ⟨rfl, ⟨_, htarget⟩, harg⟩)
    · exact Or.inr (Or.inr ⟨hmethod, htarget, _, harg⟩)
  · rintro (⟨rfl, htarget, harg⟩ | ⟨rfl, ⟨values, htarget⟩, harg⟩ | ⟨hmethod, htarget, s, harg⟩)
    · exact .equals htarget harg
    · exact .element htarget harg
    · exact .text hmethod htarget harg

theorem callCheck?_isSome_iff {target arg : Expr} {method : Method} {negated : Bool} :
    (target.callCheck? scope method arg negated enclosed).isSome ↔
      (Expr.call target method arg).IsTest scope enclosed := by
  -- what a text is looked for in, once the target is known to be a member
  have htext : ∀ {ref}, target.unconverted = .member ref → (target.IsMember scope ↔ scope.Has ref) := by
    intro ref hsame
    rw [Expr.IsMember, hsame]
    simp
  have hother : (∀ ref, target.unconverted ≠ .member ref) → ¬ target.IsMember scope := by
    rintro hne ⟨ref, hsame, -⟩
    exact hne ref hsame
  rw [isTest_call_iff, Expr.callCheck?.eq_def]
  cases method with
  | equals =>
    have hne : arg.IsOperand scope enclosed .ne ↔ arg.IsOperand scope enclosed .eq := isOperand_negate .eq
    cases negated <;> simp [comparisonCheck?_isSome_iff, hne]
  | contains =>
    cases htarget : target.unconverted with
    | list values =>
      have hmember := hother (by simp [htarget])
      simp [hmember, resolved?_isSome_iff]
    | member ref => simp [likeCheck?_isSome_iff, htext htarget]
    | _ =>
      have hmember := hother (by simp [htarget])
      simp [hmember]
  | _ =>
    cases htarget : target.unconverted with
    | member ref => simp [likeCheck?_isSome_iff, htext htarget]
    | _ =>
      have hmember := hother (by simp [htarget])
      simp [hmember]

/-! ## Conditions -/

theorem isCondition_and_iff {left right : Expr} :
    (Expr.and left right).IsCondition scope enclosed ↔
      left.IsCondition scope true ∧ right.IsCondition scope true := by
  constructor
  · rintro (⟨⟨⟩⟩ | ⟨hleft, hright⟩)
    exact ⟨hleft, hright⟩
  · rintro ⟨hleft, hright⟩
    exact .and hleft hright

theorem isCondition_or_iff {left right : Expr} :
    (Expr.or left right).IsCondition scope enclosed ↔
      left.IsCondition scope true ∧ right.IsCondition scope true := by
  constructor
  · rintro (⟨⟨⟩⟩ | _ | ⟨hleft, hright⟩)
    exact ⟨hleft, hright⟩
  · rintro ⟨hleft, hright⟩
    exact .or hleft hright

theorem isCondition_convert_iff {inner : Expr} :
    (Expr.convert inner).IsCondition scope enclosed ↔ inner.IsCondition scope enclosed := by
  constructor
  · rintro (⟨⟨⟩⟩ | _ | _ | _ | _ | h)
    exact h
  · exact .convert

theorem isCondition_not_iff {inner : Expr} :
    (Expr.not inner).IsCondition scope enclosed ↔
      inner.unconverted.IsTest scope enclosed ∨
        ∃ e, inner.unconverted = .not e ∧ e.IsCondition scope enclosed := by
  constructor
  · rintro (⟨⟨⟩⟩ | _ | _ | h | ⟨hsame, h⟩)
    · exact Or.inl h
    · exact Or.inr ⟨_, hsame, h⟩
  · rintro (h | ⟨e, hsame, h⟩)
    · exact .notTest h
    · exact .notNot hsame h

/-- What is neither put together nor negated nor converted is a condition where it is a test. -/
theorem isCondition_iff_isTest {e : Expr} (hand : ∀ left right, e ≠ .and left right)
    (hor : ∀ left right, e ≠ .or left right) (hnot : ∀ inner, e ≠ .not inner)
    (hconvert : ∀ inner, e ≠ .convert inner) : e.IsCondition scope enclosed ↔ e.IsTest scope enclosed := by
  constructor
  · intro h
    cases h with
    | test h => exact h
    | and => exact absurd rfl (hand _ _)
    | or => exact absurd rfl (hor _ _)
    | notTest => exact absurd rfl (hnot _)
    | notNot => exact absurd rfl (hnot _)
    | convert => exact absurd rfl (hconvert _)
  · exact .test

/-- What is neither converted nor negated may be negated where it is a test. -/
theorem isCondition_not_iff_isTest {e : Expr} (hself : e.unconverted = e)
    (hnot : ∀ inner, e ≠ .not inner) :
    (Expr.not e).IsCondition scope enclosed ↔ e.IsTest scope enclosed := by
  rw [isCondition_not_iff, hself]
  constructor
  · rintro (h | ⟨inner, hsame, -⟩)
    · exact h
    · exact absurd hsame (hnot inner)
  · exact Or.inl

/-- An expression, or its negation, has tests just where it is a condition. -/
theorem plan?_isSome_iff {e : Expr} :
    ((e.plan? scope false enclosed).isSome ↔ e.IsCondition scope enclosed) ∧
      ((e.plan? scope true enclosed).isSome ↔ (Expr.not e).IsCondition scope enclosed) := by
  -- negation is carried inwards, so both halves go through the induction together
  induction e generalizing enclosed with
  | member ref =>
    rw [isCondition_iff_isTest (by simp) (by simp) (by simp) (by simp),
      isCondition_not_iff_isTest rfl (by simp), isTest_member_iff]
    simp [Expr.plan?, resolve_isSome_iff]
  | compare left op right =>
    rw [isCondition_iff_isTest (by simp) (by simp) (by simp) (by simp),
      isCondition_not_iff_isTest rfl (by simp), isTest_compare_iff]
    simp [Expr.plan?, comparisonCheck?_isSome_iff, isOperand_negate]
  | call target method arg =>
    rw [isCondition_iff_isTest (by simp) (by simp) (by simp) (by simp),
      isCondition_not_iff_isTest rfl (by simp)]
    simp [Expr.plan?, callCheck?_isSome_iff]
  | and left right ihl ihr =>
    have hnot : ¬ (Expr.not (.and left right)).IsCondition scope enclosed := by
      rw [isCondition_not_iff_isTest rfl (by simp)]
      intro h
      cases h
    refine ⟨?_, by simp [Expr.plan?, hnot]⟩
    rw [isCondition_and_iff, ← ihl.1, ← ihr.1, Expr.plan?]
    cases left.plan? scope false true <;> cases right.plan? scope false true <;> simp
  | or left right ihl ihr =>
    have hnot : ¬ (Expr.not (.or left right)).IsCondition scope enclosed := by
      rw [isCondition_not_iff_isTest rfl (by simp)]
      intro h
      cases h
    refine ⟨?_, by simp [Expr.plan?, hnot]⟩
    rw [isCondition_or_iff, ← ihl.1, ← ihr.1, Expr.plan?]
    cases left.plan? scope false true <;> cases right.plan? scope false true <;> simp
  | not inner ih =>
    refine ⟨ih.2, ih.1.trans ?_⟩
    rw [isCondition_not_iff]
    constructor
    · exact fun h => Or.inr ⟨inner, rfl, h⟩
    · rintro (⟨⟨⟩⟩ | ⟨e, hsame, h⟩)
      cases hsame
      exact h
  | convert inner ih =>
    rw [isCondition_convert_iff, isCondition_not_iff, Expr.unconverted, ← isCondition_not_iff]
    exact ih
  | _ =>
    -- constants, lists, aggregates and columns of a result are no tests
    rw [isCondition_not_iff_isTest rfl (by simp)]
    refine ⟨?_, ?_⟩
    · simp only [Expr.plan?, Option.isSome_none, Bool.false_eq_true, false_iff]
      rintro ⟨⟨⟩⟩
    · simp only [Expr.plan?, Option.isSome_none, Bool.false_eq_true, false_iff]
      rintro ⟨⟩

instance Expr.instDecidableIsCondition (scope : Scope) (enclosed : Bool) (e : Expr) :
    Decidable (e.IsCondition scope enclosed) := decidable_of_iff _ plan?_isSome_iff.1

/-- An expression is compiled just where it is a condition of the grammar, whatever parameters there are
already. -/
theorem ofExpr_isOk_iff (e : Expr) (params : Parameters) :
    (∃ c, (Condition.ofExpr scope e params).1 = .ok c) ↔ e.IsCondition scope false := by
  rw [← plan?_isSome_iff.1, Option.isSome_iff_exists]
  constructor
  · rintro ⟨c, hc⟩
    obtain ⟨p, hp, -⟩ := Condition.ofExpr_iff.1 (Prod.ext hc rfl)
    exact ⟨p, hp⟩
  · rintro ⟨p, hp⟩
    exact ⟨⟨_, _⟩, congrArg Prod.fst (Condition.ofExpr_iff.2 ⟨p, hp, rfl⟩)⟩

/-- Of a conjunction only the double negation is a condition. -/
example : let scope := Scope.single { name := "Club", members := [{ name := "IsActive" }] }
    let both := Expr.and (.member ⟨0, "IsActive"⟩) (.convert (.member ⟨0, "IsActive"⟩))
    ¬ (Expr.not both).IsCondition scope false ∧ (Expr.not (.convert (.not both))).IsCondition scope false := by
  decide

end Rowgraph
