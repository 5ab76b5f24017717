import Rowgraph.Proofs.Command.Made
import Rowgraph.Proofs.Condition.Involved

/-!
# Conditions in a scope that is cut

Of a scope that is cut nothing is changed but that the positions behind the cut are hidden. A condition sees its scope
through the members that it finds (`plan?_congr`) and the columns that it writes for them (`Plan.emit_congr`), and
neither changes before the cut. So an expression is compiled in the cut scope just where it is compiled in the whole
one and names no member behind the cut, and then to the same (`ofExpr_restrict`). The condition of a join is therefore
written just where it is a condition of the whole statement that reads no table joined later.
-/

set_option autoImplicit false

namespace Rowgraph

open Condition

variable {scope scope' : Scope} {n : Nat}

/-! ## Members and columns before the cut -/

/-- Before the cut the same is found, or is not found for the same reason. -/
theorem resolve_restrict {ref : MemberRef} (h : ref.position < n) :
    (scope.restrict n).resolve ref = scope.resolve ref := by
  have hentity : (scope.restrict n).entity ref.position = scope.entity ref.position := by
    rw [Scope.entity, Scope.entity, Scope.restrict, List.getElem?_take, if_pos h]
    cases hget : scope.entities[ref.position]? with
    | some entity => rfl
    | none =>
      -- the scope ends before the cut, which takes nothing away
      have hlength := List.getElem?_eq_none_iff.1 hget
      rw [List.take_of_length_le (by omega)]
  rw [Scope.resolve, Scope.resolve, hentity]

theorem column_restrict {r : Resolved} (h : r.position < n) (hmapped : IsMapped scope.entities r) :
    (scope.restrict n).column r = scope.column r := by
  have hposition : r.position < scope.entities.length := (List.getElem?_eq_some_iff.1 hmapped.position).1
  rw [Scope.column, Scope.column, alias?_restrict h hposition]

/-! ## What a condition asks of its scope -/

namespace Expr

theorem resolved?_congr {e : Expr} (h : ∀ ref ∈ e.memberRefs, scope.resolve ref = scope'.resolve ref) :
    e.resolved? scope = e.resolved? scope' := by
  rw [← memberRefs_unconverted] at h
  rw [resolved?, resolved?]
  generalize e.unconverted = inner at h
  cases inner with
  | member ref => exact congrArg Except.toOption (h ref List.mem_cons_self)
  | _ => rfl

theorem comparisonCheck?_congr {left right : Expr} {op : Comparison} {composite : Bool}
    (h : ∀ ref ∈ left.memberRefs ++ right.memberRefs, scope.resolve ref = scope'.resolve ref) :
    left.comparisonCheck? scope op right composite = left.comparisonCheck? scope' op right composite := by
  have hleft := resolved?_congr fun ref href => h ref (List.mem_append_left _ href)
  have hright := resolved?_congr fun ref href => h ref (List.mem_append_right left.memberRefs href)
  rw [comparisonCheck?, comparisonCheck?, hleft, hright]

theorem likeCheck?_congr {ref : MemberRef} {arg : Expr} {place : Place} {negated : Bool}
    (h : scope.resolve ref = scope'.resolve ref) :
    arg.likeCheck? scope ref place negated = arg.likeCheck? scope' ref place negated := by
  rw [likeCheck?, likeCheck?, h]

theorem callCheck?_congr {target arg : Expr} {method : Method} {negated composite : Bool}
    (h : ∀ ref ∈ target.memberRefs ++ arg.memberRefs, scope.resolve ref = scope'.resolve ref) :
    target.callCheck? scope method arg negated composite =
      target.callCheck? scope' method arg negated composite := by
  have hmember : ∀ ref, target.unconverted = .member ref → scope.resolve ref = scope'.resolve ref := by
    intro ref href
    apply h ref (List.mem_append_left _ _)
    rw [← memberRefs_unconverted, href]
    exact List.mem_cons_self
  have harg := resolved?_congr fun ref href => h ref (List.mem_append_right target.memberRefs href)
  rw [callCheck?.eq_def, callCheck?.eq_def]
  cases method with
  | equals => exact comparisonCheck?_congr h
  | contains =>
    cases htarget : target.unconverted with
    | list values => exact congrArg (Option.map _) harg
    | member ref => exact likeCheck?_congr (hmember ref htarget)
    | _ => rfl
  | startsWith =>
    cases htarget : target.unconverted with
    | member ref => exact likeCheck?_congr (hmember ref htarget)
    | _ => rfl
  | endsWith =>
    cases htarget : target.unconverted with
    | member ref => exact likeCheck?_congr (hmember ref htarget)
    | _ => rfl

/-- An expression has the same tests in two scopes that find the same under its references. -/
theorem plan?_congr {e : Expr} (h : ∀ ref ∈ e.memberRefs, scope.resolve ref = scope'.resolve ref)
    (negated composite : Bool) : e.plan? scope negated composite = e.plan? scope' negated composite := by
  induction e generalizing negated composite with
  | and left right ihl ihr =>
    have hleft := ihl fun ref href => h ref (List.mem_append_left _ href)
    have hright := ihr fun ref href => h ref (List.mem_append_right _ href)
    rw [plan?, plan?, hleft, hright]
  | or left right ihl ihr =>
    have hleft := ihl fun ref href => h ref (List.mem_append_left _ href)
    have hright := ihr fun ref href => h ref (List.mem_append_right _ href)
    rw [plan?, plan?, hleft, hright]
  | not inner ih => exact ih h (!negated) composite
  | convert inner ih => exact ih h negated composite
  | compare left op right => exact congrArg (Option.map Plan.check) (comparisonCheck?_congr h)
  | call target method arg => exact congrArg (Option.map Plan.check) (callCheck?_congr h)
  | member ref => rw [plan?, plan?, h ref List.mem_cons_self]
  | _ => rfl

/-- What is compiled in a cut scope names no member behind the cut. -/
theorem position_lt_of_plan? {e : Expr} {negated composite : Bool} {p : Plan}
    (h : e.plan? (scope.restrict n) negated composite = some p) : ∀ ref ∈ e.memberRefs, ref.position < n := by
  intro ref href
  have hfinds : (scope.restrict n).Finds e.memberRefs p.reads := by
    rw [memberRefs_eq]
    exact finds_of_plan? h
  obtain ⟨r, -, hr⟩ := exists_of_forall₂ hfinds href
  rw [← (resolve_eq_ok hr).1]
  exact (resolve_of_restrict hr).2

theorem plan?_restrict_iff {e : Expr} {negated composite : Bool} {p : Plan} :
    e.plan? (scope.restrict n) negated composite = some p ↔
      e.plan? scope negated composite = some p ∧ ∀ ref ∈ e.memberRefs, ref.position < n := by
  have hsame : (∀ ref ∈ e.memberRefs, ref.position < n) →
      e.plan? (scope.restrict n) negated composite = e.plan? scope negated composite :=
    fun hbefore => plan?_congr (fun ref href => resolve_restrict (hbefore ref href)) negated composite
  constructor
  · intro h
    have hbefore := position_lt_of_plan? h
    exact ⟨hsame hbefore ▸ h, hbefore⟩
  · rintro ⟨h, hbefore⟩
    rw [hsame hbefore, h]

end Expr

namespace Condition

theorem Check.emit_congr {c : Check} (h : ∀ r ∈ c.reads, scope.column r = scope'.column r) (s : ConditionState) :
    c.emit scope s = c.emit scope' s := by
  cases c with
  | compareMember r op r' =>
    have hleft := h r List.mem_cons_self
    have hright := h r' (List.mem_cons_of_mem _ List.mem_cons_self)
    rw [emit, emit, hleft, hright]
  | compare r op value => rw [emit, emit, h r List.mem_cons_self]
  | isNull r negated => rw [emit, emit, h r List.mem_cons_self]
  | like r place text negated => rw [emit, emit, h r List.mem_cons_self]
  | among r elements negated => rw [emit, emit, h r List.mem_cons_self]
  | flag r negated => rw [emit, emit, h r List.mem_cons_self]

/-- Tests are written alike where their members have the same columns. -/
theorem Plan.emit_congr {p : Plan} (h : ∀ r ∈ p.reads, scope.column r = scope'.column r) (s : ConditionState) :
    p.emit scope s = p.emit scope' s := by
  induction p generalizing s with
  | check c => exact c.emit_congr h s
  | and left right ihl ihr =>
    have hleft := ihl fun r hr => h r (List.mem_append_left right.reads hr)
    have hright := ihr fun r hr => h r (List.mem_append_right left.reads hr)
    simp only [emit, hleft, hright]
  | or left right ihl ihr =>
    have hleft := ihl fun r hr => h r (List.mem_append_left right.reads hr)
    have hright := ihr fun r hr => h r (List.mem_append_right left.reads hr)
    simp only [emit, hleft, hright]

/-! ## Conditions before the cut -/

theorem emit_restrict {e : Expr} {p : Plan} (h : e.plan? scope false false = some p)
    (hbefore : ∀ ref ∈ e.memberRefs, ref.position < n) (s : ConditionState) :
    p.emit (scope.restrict n) s = p.emit scope s := by
  have hfinds : scope.Finds e.memberRefs p.reads := by
    rw [Expr.memberRefs_eq]
    exact Expr.finds_of_plan? h
  refine p.emit_congr (fun r hr => column_restrict ?_ (hfinds.isMapped r hr)) s
  obtain ⟨ref, href, hresolve⟩ := exists_of_forall₂ hfinds.flip hr
  rw [(resolve_eq_ok hresolve).1]
  exact hbefore ref href

theorem ofExpr_restrict_iff {e : Expr} {ps ps' : Parameters} {c : Condition} :
    ofExpr (scope.restrict n) e ps = (.ok c, ps') ↔
      ofExpr scope e ps = (.ok c, ps') ∧ ∀ ref ∈ e.memberRefs, ref.position < n := by
  rw [ofExpr_iff, ofExpr_iff]
  constructor
  · rintro ⟨p, hplan, hemit⟩
    obtain ⟨hwhole, hbefore⟩ := Expr.plan?_restrict_iff.1 hplan
    rw [emit_restrict hwhole hbefore] at hemit
    exact ⟨⟨p, hwhole, hemit⟩, hbefore⟩
  · rintro ⟨⟨p, hwhole, hemit⟩, hbefore⟩
    rw [← emit_restrict hwhole hbefore] at hemit
    exact ⟨p, Expr.plan?_restrict_iff.2 ⟨hwhole, hbefore⟩, hemit⟩

open Join in
/-- Cutting a scope hides positions and does nothing else: an expression is compiled in the cut scope just where it is
compiled in the whole one and names members before the cut only, and then its tokens, the parameters behind it and the
members it reads are the same. A join whose table is reached is therefore written just where its condition is one of
the whole statement and names members of the tables up to its own only. -/
theorem ofExpr_restrict (scope : Scope) (e : Expr) (ps : Parameters) :
    (∀ n c ps', ofExpr (scope.restrict n) e ps = (.ok c, ps') ↔
      ofExpr scope e ps = (.ok c, ps') ∧ ∀ ref ∈ e.memberRefs, ref.position < n) ∧
    ∀ (c : Context) (position : Nat) (j : Join) (table : Token), c.scope = scope → j.condition = some e →
      c.root.referenceFrom j.entity c.registry = .ok table → ∀ ts ps',
        (Yields (clauseAt c position j) ps ts ps' ↔ ∃ condition, ofExpr scope e ps = (.ok condition, ps') ∧
          (∀ ref ∈ e.memberRefs, ref.position ≤ position) ∧
          ts = clauseTokens c position j table condition.tokens) := by
  refine ⟨fun n c ps' => ofExpr_restrict_iff, ?_⟩
  rintro c position j table rfl hgiven hreference ts ps'
  rw [yields_clauseAt]
  constructor
  · rintro ⟨table', e', condition, hreference', hgiven', hcompiled, hts⟩
    rw [hreference] at hreference'
    cases hreference'
    rw [hgiven] at hgiven'
    cases hgiven'
    obtain ⟨hwhole, hbefore⟩ := ofExpr_restrict_iff.1 hcompiled
    exact ⟨condition, hwhole, fun ref href => Nat.le_of_lt_succ (hbefore ref href), hts⟩
  · rintro ⟨condition, hwhole, hbefore, hts⟩
    have hcompiled := ofExpr_restrict_iff.2 ⟨hwhole, fun ref href => Nat.lt_succ_of_le (hbefore ref href)⟩
    exact ⟨table, e, condition, hreference, hgiven, hcompiled, hts⟩

namespace OneAlias

/-- Clubs and their members, of which only the clubs have an alias. -/
def tables : Scope := ⟨[Enrolment.club, Enrolment.member], some ["clb1"]⟩

/-- What joins the members. -/
def on : Expr := .compare (.member ⟨0, "Id"⟩) .eq (.member ⟨1, "ClubId"⟩)

/-- What it is compiled to. -/
def condition : Condition where
  tokens := [.alias "clb1", .word .dot, .ident "Id", .word .space] ++ Tokens.spaced .eq ++ [.ident "ClubId"]
  members := [⟨0, Enrolment.club, { name := "Id" }⟩, ⟨1, Enrolment.member, { name := "ClubId" }⟩]

/-- The statement that reads the clubs first. -/
def context : Join.Context := ⟨Enrolment.club, tables, {}, false⟩

end OneAlias

open Join OneAlias in
/-- The members are joined where both tables are reached, and not before. -/
theorem ofExpr_restrict_oneAlias :
    ofExpr (tables.restrict 2) on {} = (.ok condition, {}) ∧
    (∀ c ps', ofExpr (tables.restrict 1) on {} ≠ (.ok c, ps')) ∧
    Yields (clauseAt context 1 Enrolment.clubMembers) {}
      (clauseTokens context 1 Enrolment.clubMembers Enrolment.member.reference condition.tokens) {} := by
  have hwhole : ofExpr tables on {} = (.ok condition, {}) := by decide +kernel
  have hbefore : ∀ ref ∈ on.memberRefs, ref.position ≤ 1 := by decide
  refine ⟨?_, ?_, ?_⟩
  · have hbehind : ∀ ref ∈ on.memberRefs, ref.position < 2 := fun ref href => Nat.lt_succ_of_le (hbefore ref href)
    exact ((ofExpr_restrict tables on {}).1 2 condition {}).2 ⟨hwhole, hbehind⟩
  · intro c ps' h
    obtain ⟨-, hfirst⟩ := ((ofExpr_restrict tables on {}).1 1 c ps').1 h
    exact absurd (hfirst ⟨1, "ClubId"⟩ (by decide)) (by decide)
  · have hclause := (ofExpr_restrict tables on {}).2 context 1 Enrolment.clubMembers Enrolment.member.reference
      rfl rfl rfl
    exact (hclause _ {}).2 ⟨condition, hwhole, hbefore, rfl⟩

end Condition

end Rowgraph
