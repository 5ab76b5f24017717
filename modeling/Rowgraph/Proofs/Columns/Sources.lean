import Rowgraph.Grouping
import Rowgraph.Proofs.Columns.Reading

/-!
# Where columns come from

The members whose columns an expression names, as a list of what is written in it (`Expr.columnRefs`), and
how they are found in a scope (`Scope.Finds`). A member looked for in a list is written once and named for
each element, so that the members are first listed with the repetitions that a list is given
(`Expr.refsBy`, `finds_of_plan?`). A compiled condition names the columns of just these members
(`finds_of_ofExpr`). A member found in a scope that is cut is found there in the whole scope too, and stands
at a position before the cut (`finds_of_restrict`); what is found is mapped (`IsMapped`).
-/

set_option autoImplicit false

namespace Rowgraph

open Condition

/-- The members whose columns an expression names, in order. A member looked for in a list is named once for
each element. -/
def Expr.columnRefs : Expr → List MemberRef
  | .member ref => [ref]
  | .and left right => left.columnRefs ++ right.columnRefs
  | .or left right => left.columnRefs ++ right.columnRefs
  | .not inner => inner.columnRefs
  | .compare left _ right => left.columnRefs ++ right.columnRefs
  | .call target _ arg =>
    match target.unconverted with
    | .list values => values.flatMap fun _ => arg.columnRefs
    | _ => target.columnRefs ++ arg.columnRefs
  | .aggregate _ arg => arg.columnRefs
  | .convert inner => inner.columnRefs
  | _ => []

/-- The members that an expression names, in order. One that is looked for in a list is repeated as often as
`times` says of the list. -/
def Expr.refsBy (times : List Value → Nat) : Expr → List MemberRef
  | .member ref => [ref]
  | .and left right => left.refsBy times ++ right.refsBy times
  | .or left right => left.refsBy times ++ right.refsBy times
  | .not inner => inner.refsBy times
  | .compare left _ right => left.refsBy times ++ right.refsBy times
  | .call target _ arg =>
    match target.unconverted with
    | .list values => (List.replicate (times values) (arg.refsBy times)).flatten
    | _ => target.refsBy times ++ arg.refsBy times
  | .aggregate _ arg => arg.refsBy times
  | .convert inner => inner.refsBy times
  | _ => []

/-- The members of a test, with the same repetitions. -/
def Condition.Check.membersBy (times : List Value → Nat) : Check → List Resolved
  | .compare r _ _ => [r]
  | .compareMember r _ r' => [r, r']
  | .isNull r _ => [r]
  | .like r _ _ _ => [r]
  | .among r elements _ => List.replicate (times elements) r
  | .flag r _ => [r]

/-- The members of the tests of a condition, with the same repetitions. -/
def Condition.Plan.membersBy (times : List Value → Nat) : Plan → List Resolved
  | .check c => c.membersBy times
  | .and left right => left.membersBy times ++ right.membersBy times
  | .or left right => left.membersBy times ++ right.membersBy times

/-- Are these the members that are found under the references? -/
def Scope.Finds (scope : Scope) (refs : List MemberRef) (rs : List Resolved) : Prop :=
  List.Forall₂ (fun ref r => scope.resolve ref = .ok r) refs rs

/-- Is it a member that has a column, of the entity at its position? -/
structure IsMapped (entities : List Entity) (r : Resolved) : Prop where
  position : entities[r.position]? = some r.entity
  member : r.member ∈ r.entity.members
  mapped : r.member.notMapped = false

variable {scope : Scope}

/-! ## Members that are found -/

theorem resolve_eq_ok {ref : MemberRef} {r : Resolved} (h : scope.resolve ref = .ok r) :
    r.position = ref.position ∧ scope.entities[ref.position]? = some r.entity ∧
      r.entity.resolve ref.name = .ok r.member := by
  obtain ⟨entity, hentity, hrest⟩ := bind_eq_ok.1 h
  obtain ⟨member, hmember, hpure⟩ := bind_eq_ok.1 hrest
  cases hpure
  rw [Scope.entity] at hentity
  split at hentity
  · next hget =>
    cases hentity
    exact ⟨rfl, hget, hmember⟩
  · cases hentity

theorem isMapped_of_resolve {ref : MemberRef} {r : Resolved} (h : scope.resolve ref = .ok r) :
    IsMapped scope.entities r := by
  obtain ⟨hposition, hget, hmember⟩ := resolve_eq_ok h
  rw [Entity.resolve] at hmember
  split at hmember
  · cases hmember
  · next m hfind =>
    split at hmember
    · cases hmember
    · next hmapped =>
      cases hmember
      exact ⟨by rw [hposition, hget], List.mem_of_find?_eq_some hfind, by simpa using hmapped⟩

namespace Scope.Finds

variable {refs refs' : List MemberRef} {rs rs' : List Resolved}

theorem append (h : scope.Finds refs rs) (h' : scope.Finds refs' rs') :
    scope.Finds (refs ++ refs') (rs ++ rs') := List.rel_append h h'

theorem isMapped (h : scope.Finds refs rs) : ∀ r ∈ rs, IsMapped scope.entities r := by
  induction h with
  | nil => exact fun r hr => absurd hr List.not_mem_nil
  | cons hresolve _ ih => exact List.forall_mem_cons.2 ⟨isMapped_of_resolve hresolve, ih⟩

end Scope.Finds

/-- What a cut scope finds is found in the whole scope, at a position before the cut. -/
theorem resolve_of_restrict {n : Nat} {ref : MemberRef} {r : Resolved}
    (h : (scope.restrict n).resolve ref = .ok r) : scope.resolve ref = .ok r ∧ r.position < n := by
  obtain ⟨hposition, hget, hmember⟩ := resolve_eq_ok h
  rw [Scope.restrict, List.getElem?_take] at hget
  split at hget
  · next hlt =>
    obtain ⟨position, entity, member⟩ := r
    cases hposition
    refine ⟨?_, hlt⟩
    rw [Scope.resolve, Scope.entity, hget]
    exact bind_eq_ok.2 ⟨entity, rfl, bind_eq_ok.2 ⟨member, hmember, rfl⟩⟩
  · cases hget

theorem finds_of_restrict {n : Nat} {refs : List MemberRef} {rs : List Resolved}
    (h : (scope.restrict n).Finds refs rs) :
    scope.Finds refs rs ∧ ∀ r ∈ rs, r.position < n := by
  induction h with
  | nil => exact ⟨.nil, fun r hr => absurd hr List.not_mem_nil⟩
  | cons hresolve _ ih =>
    obtain ⟨hwhole, hlt⟩ := resolve_of_restrict hresolve
    exact ⟨.cons hwhole ih.1, List.forall_mem_cons.2 ⟨hlt, ih.2⟩⟩

/-- The aliases before the cut stay. -/
theorem alias?_restrict {n position : Nat} (h : position < n)
    (hposition : position < scope.entities.length) :
    (scope.restrict n).alias? position = scope.alias? position := by
  rw [Scope.alias?, Scope.alias?, Scope.restrict]
  cases scope.aliases with
  | none => rfl
  | some aliases =>
    have hlt : position < min n scope.entities.length := Nat.lt_min.2 ⟨h, hposition⟩
    rw [Option.map_some, Option.bind_some, Option.bind_some, List.getElem?_take, if_pos hlt]

/-! ## Members that conditions name -/

namespace Expr

variable {e : Expr} {times : List Value → Nat}

theorem columnRefs_eq (e : Expr) : e.columnRefs = e.refsBy List.length := by
  induction e with
  | and left right ihl ihr => rw [columnRefs, refsBy, ihl, ihr]
  | or left right ihl ihr => rw [columnRefs, refsBy, ihl, ihr]
  | compare left op right ihl ihr => rw [columnRefs, refsBy, ihl, ihr]
  | not inner ih => exact ih
  | aggregate function arg ih => exact ih
  | convert inner ih => exact ih
  | call target method arg iht iha =>
    rw [columnRefs, refsBy, iht, iha]
    split
    · rw [List.flatMap_def, List.map_const']
    · rfl
  | _ => rfl

theorem refsBy_unconverted (e : Expr) : e.unconverted.refsBy times = e.refsBy times := by
  induction e with
  | convert inner ih => exact ih
  | _ => rfl

theorem finds_of_resolved? {r : Resolved} (h : e.resolved? scope = some r) :
    scope.Finds (e.refsBy times) [r] := by
  obtain ⟨ref, href, hresolve⟩ := Option.bind_eq_some_iff.1 h
  rw [← refsBy_unconverted]
  generalize e.unconverted = inner at href
  cases inner with
  | member ref' =>
    cases href
    exact .cons (toOption_eq_some.1 hresolve) .nil
  | _ => cases href

theorem refsBy_of_value {v : Value} (h : e.unconverted = .value v) : e.refsBy times = [] := by
  rw [← refsBy_unconverted, h]
  rfl

theorem finds_of_comparisonCheck? {left right : Expr} {op : Comparison} {composite : Bool} {c : Check}
    (h : left.comparisonCheck? scope op right composite = some c) :
    scope.Finds (left.refsBy times ++ right.refsBy times) (c.membersBy times) := by
  obtain ⟨r, hr, h⟩ := Option.bind_eq_some_iff.1 h
  have hleft : scope.Finds (left.refsBy times) [r] := finds_of_resolved? hr
  split at h
  · next hvalue =>
    rw [refsBy_of_value hvalue, List.append_nil]
    cases composite with
    | true => cases h
    | false =>
      cases op with
      | eq =>
        cases h
        exact hleft
      | ne =>
        cases h
        exact hleft
      | _ => cases h
  · next v _ hvalue =>
    cases h
    rw [refsBy_of_value hvalue, List.append_nil]
    exact hleft
  · obtain ⟨r', hr', h⟩ := Option.bind_eq_some_iff.1 h
    cases h
    exact hleft.append (finds_of_resolved? hr')
  · cases h

theorem finds_of_likeCheck? {target arg : Expr} {ref : MemberRef} {place : Place} {negated : Bool}
    {c : Check} (htarget : target.unconverted = .member ref)
    (h : arg.likeCheck? scope ref place negated = some c) :
    scope.Finds (target.refsBy times ++ arg.refsBy times) (c.membersBy times) := by
  rw [likeCheck?] at h
  split at h
  · next hvalue =>
    obtain ⟨r, hr, rfl⟩ := Option.map_eq_some_iff.1 h
    rw [refsBy_of_value hvalue, List.append_nil, ← refsBy_unconverted, htarget]
    exact .cons (toOption_eq_some.1 hr) .nil
  · cases h

/-- A member that is named again and again is found each time. -/
theorem finds_replicate {refs : List MemberRef} {r : Resolved} (h : scope.Finds refs [r]) (n : Nat) :
    scope.Finds (List.replicate n refs).flatten (List.replicate n r) := by
  induction n with
  | zero => exact .nil
  | succ n ih =>
    rw [List.replicate_succ, List.replicate_succ, List.flatten_cons]
    exact h.append ih

theorem finds_of_callCheck? {target arg : Expr} {method : Method} {negated composite : Bool}
    {c : Check} (h : target.callCheck? scope method arg negated composite = some c) :
    scope.Finds ((Expr.call target method arg).refsBy times) (c.membersBy times) := by
  -- only a list repeats its argument
  have hplain : (∀ values, target.unconverted ≠ .list values) →
      (Expr.call target method arg).refsBy times = target.refsBy times ++ arg.refsBy times := by
    intro hnot
    rw [refsBy]
    split
    · next values hlist => exact absurd hlist (hnot values)
    · rfl
  rw [callCheck?.eq_def] at h
  split at h
  · rw [hplain]
    · exact finds_of_comparisonCheck? h
    · intro values hlist
      obtain ⟨r, hr, -⟩ := Option.bind_eq_some_iff.1 h
      rw [resolved?, hlist] at hr
      cases hr
  · next values hlist =>
    obtain ⟨r, hr, rfl⟩ := Option.map_eq_some_iff.1 h
    rw [refsBy, hlist]
    exact finds_replicate (finds_of_resolved? hr) _
  · next ref href =>
    rw [hplain fun values hlist => by rw [href] at hlist; cases hlist]
    exact finds_of_likeCheck? href h
  · next ref href =>
    rw [hplain fun values hlist => by rw [href] at hlist; cases hlist]
    exact finds_of_likeCheck? href h
  · next ref href =>
    rw [hplain fun values hlist => by rw [href] at hlist; cases hlist]
    exact finds_of_likeCheck? href h
  · cases h

/-- The tests of an expression are about its members. -/
theorem finds_of_plan? {negated composite : Bool} {p : Plan}
    (h : e.plan? scope negated composite = some p) :
    scope.Finds (e.refsBy times) (p.membersBy times) := by
  induction e generalizing negated composite p with
  | and left right ihl ihr =>
    rw [plan?] at h
    split at h
    · cases h
    · obtain ⟨l, hl, h⟩ := Option.bind_eq_some_iff.1 h
      obtain ⟨r, hr, h⟩ := Option.bind_eq_some_iff.1 h
      cases h
      exact (ihl hl).append (ihr hr)
  | or left right ihl ihr =>
    rw [plan?] at h
    split at h
    · cases h
    · obtain ⟨l, hl, h⟩ := Option.bind_eq_some_iff.1 h
      obtain ⟨r, hr, h⟩ := Option.bind_eq_some_iff.1 h
      cases h
      exact (ihl hl).append (ihr hr)
  | not inner ih => exact ih h
  | convert inner ih => exact ih h
  | compare left op right =>
    obtain ⟨c, hc, rfl⟩ := Option.map_eq_some_iff.1 h
    exact finds_of_comparisonCheck? hc
  | call target method arg =>
    obtain ⟨c, hc, rfl⟩ := Option.map_eq_some_iff.1 h
    exact finds_of_callCheck? hc
  | member ref =>
    obtain ⟨r, hr, rfl⟩ := Option.map_eq_some_iff.1 h
    exact .cons (toOption_eq_some.1 hr) .nil
  | _ => cases h

end Expr

namespace Condition

/-- A test against a list names the column of its member once for each element. -/
theorem Check.columns_eq (c : Check) : c.columns = c.membersBy List.length := by
  cases c with
  | among r elements negated => exact List.map_const' ..
  | _ => rfl

theorem Plan.columns_eq (p : Plan) : p.columns = p.membersBy List.length := by
  induction p with
  | check c => exact c.columns_eq
  | and left right ihl ihr => rw [columns, membersBy, ihl, ihr]
  | or left right ihl ihr => rw [columns, membersBy, ihl, ihr]

end Condition

/-- A compiled condition names the columns of the members of its expression, in order. -/
theorem finds_of_ofExpr {e : Expr} {ps ps' : Parameters} {c : Condition}
    (h : ofExpr scope e ps = (.ok c, ps')) : ∃ rs, scope.Finds e.columnRefs rs ∧
      ∀ clause, clause ≠ .tables → clause ≠ .groupBy →
        Mentions clause c.tokens (rs.map (scope.named clause)) := by
  obtain ⟨p, hplan, hemit⟩ := ofExpr_iff.1 h
  have hfinds : scope.Finds e.columnRefs p.columns := by
    rw [Expr.columnRefs_eq, p.columns_eq]
    exact Expr.finds_of_plan? hplan
  refine ⟨p.columns, hfinds, fun clause hclause hgroup => ?_⟩
  have hmentions := p.mentions scope hclause hgroup ⟨ps, []⟩
  rwa [hemit] at hmentions

end Rowgraph
