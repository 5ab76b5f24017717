import Rowgraph.Proofs.Columns.Sources
import Rowgraph.Proofs.FirstOccurrences
import Rowgraph.Write.Bulk

/-!
# The members a condition reads

Compiling a condition notes the members it reads. They are the members the expression names, from left to
right and each once (`ofExpr_members`): every test notes its members when it is written, and there is no
test that does not name its member, not even the one for an element of the empty list, which writes no
column. What a bulk write matches on is therefore read off the template alone.
-/

set_option autoImplicit false

namespace Rowgraph

open Condition

/-- The members that an expression names, from left to right. -/
def Expr.memberRefs : Expr → List MemberRef
  | .member ref => [ref]
  | .and left right => left.memberRefs ++ right.memberRefs
  | .or left right => left.memberRefs ++ right.memberRefs
  | .not inner => inner.memberRefs
  | .compare left _ right => left.memberRefs ++ right.memberRefs
  | .call target _ arg => target.memberRefs ++ arg.memberRefs
  | .aggregate _ arg => arg.memberRefs
  | .convert inner => inner.memberRefs
  | _ => []

variable {scope : Scope}

namespace Expr

theorem memberRefs_unconverted (e : Expr) : e.unconverted.memberRefs = e.memberRefs := by
  induction e with
  | convert inner ih => exact ih
  | _ => rfl

/-- Nothing is repeated but by a list. -/
theorem memberRefs_eq (e : Expr) : e.memberRefs = e.refsBy fun _ => 1 := by
  induction e with
  | and left right ihl ihr => rw [memberRefs, refsBy, ihl, ihr]
  | or left right ihl ihr => rw [memberRefs, refsBy, ihl, ihr]
  | compare left op right ihl ihr => rw [memberRefs, refsBy, ihl, ihr]
  | not inner ih => exact ih
  | aggregate function arg ih => exact ih
  | convert inner ih => exact ih
  | call target method arg iht iha =>
    rw [memberRefs, refsBy]
    split
    · next values hlist =>
      rw [← memberRefs_unconverted target, hlist, iha]
      simp [memberRefs]
    · rw [iht, iha]
  | _ => rfl

end Expr

namespace Condition

/-! ## Members that are noted -/

/-- The members that a test reads, in order. -/
def Check.reads (c : Check) : List Resolved := c.membersBy fun _ => 1

/-- The members that the tests of a condition read, in order. -/
def Plan.reads (p : Plan) : List Resolved := p.membersBy fun _ => 1

/-- Every test reads a member. -/
theorem Plan.reads_ne_nil (p : Plan) : p.reads ≠ [] := by
  induction p with
  | check c => cases c <;> exact List.cons_ne_nil _ _
  | and left right hl hr => exact fun h => hl (List.append_eq_nil_iff.1 h).1
  | or left right hl hr => exact fun h => hl (List.append_eq_nil_iff.1 h).1

variable {s : ConditionState} {l : List Resolved}

theorem members_noting (h : s.members = l.eraseDups) (r : Resolved) :
    (s.noting r).members = (l ++ [r]).eraseDups := by
  have hmem : r ∈ s.members ↔ r ∈ l := by rw [h, List.mem_eraseDups]
  rw [ConditionState.noting, eraseDups_concat]
  by_cases hr : r ∈ l
  · rw [if_pos (hmem.2 hr), if_pos hr, h]
  · rw [if_neg (hmem.not.2 hr), if_neg hr, h]

theorem members_emitElements (column : List Token) (m : Member) (negated : Bool) (values : List Value)
    (s : ConditionState) : (emitElements column m negated values s).2.members = s.members := by
  induction values generalizing s with
  | nil => rfl
  | cons value rest ih =>
    rw [emitElements]
    split
    · exact ih s
    · exact ih (s.binding m value).2

theorem Check.members_emit (c : Check) (h : s.members = l.eraseDups) :
    (c.emit scope s).2.members = (l ++ c.reads).eraseDups := by
  cases c with
  | compareMember r op r' =>
    have hboth := members_noting (members_noting h r) r'
    rwa [List.append_assoc] at hboth
  | among r elements negated =>
    rw [emit]
    split
    · exact members_noting h r
    · exact (members_emitElements ..).trans (members_noting h r)
  | compare r op value => exact members_noting h r
  | isNull r negated => exact members_noting h r
  | like r place text negated => exact members_noting h r
  | flag r negated => exact members_noting h r

/-- Behind the members noted already the tests note theirs, from left to right. -/
theorem Plan.members_emit (scope : Scope) (p : Plan) :
    ∀ (s : ConditionState) (l : List Resolved), s.members = l.eraseDups →
      (p.emit scope s).2.members = (l ++ p.reads).eraseDups := by
  induction p with
  | check c => exact fun _ _ => c.members_emit
  | and left right hl hr =>
    intro s l h
    have hboth := hr _ _ (hl s l h)
    rwa [List.append_assoc] at hboth
  | or left right hl hr =>
    intro s l h
    have hboth := hr _ _ (hl s l h)
    rwa [List.append_assoc] at hboth

/-! ## Columns that are written -/

/-- Does each name among the tokens end the column of one of the members? -/
def NamesOnly (scope : Scope) (rs : List Resolved) (ts : List Token) : Prop :=
  ∀ before name behind, ts = before ++ .ident name :: behind →
    ∃ r ∈ rs, r.member.columnName = name ∧ scope.column r <:+ before ++ [.ident name]

namespace NamesOnly

variable {rs : List Resolved} {ts us : List Token}

theorem mono {rs' : List Resolved} (h : NamesOnly scope rs ts) (hrs : ∀ r ∈ rs, r ∈ rs') :
    NamesOnly scope rs' ts := by
  intro before name behind hts
  obtain ⟨r, hr, hcolumn⟩ := h before name behind hts
  exact ⟨r, hrs r hr, hcolumn⟩

/-- Tokens none of which is a name. -/
theorem of_not_mem (h : ∀ name, Token.ident name ∉ ts) : NamesOnly scope rs ts := by
  rintro before name behind rfl
  exact absurd (List.mem_append_right before List.mem_cons_self) (h name)

theorem append (hts : NamesOnly scope rs ts) (hus : NamesOnly scope rs us) :
    NamesOnly scope rs (ts ++ us) := by
  intro before name behind heq
  rcases List.append_eq_append_iff.1 heq with ⟨more, rfl, hmore⟩ | ⟨more, rfl, hmore⟩
  · obtain ⟨r, hr, hname, hcolumn⟩ := hus more name behind hmore
    refine ⟨r, hr, hname, hcolumn.trans ?_⟩
    rw [List.append_assoc]
    exact List.suffix_append ..
  · cases more with
    | nil =>
      obtain ⟨r, hr, hname, hcolumn⟩ := hus [] name behind (by simpa using hmore.symm)
      exact ⟨r, hr, hname, hcolumn.trans (List.suffix_append ..)⟩
    | cons t more =>
      cases hmore
      exact hts before name more rfl

theorem column {r : Resolved} (h : r ∈ rs) : NamesOnly scope rs (scope.column r) := by
  have hcolumn : ∃ qualifier : List Token, scope.column r = qualifier ++ [.ident r.member.columnName] ∧
      ∀ name, Token.ident name ∉ qualifier := by
    rw [Scope.column]
    split
    · exact ⟨[_, _], rfl, by simp⟩
    · exact ⟨[], rfl, by simp⟩
  obtain ⟨qualifier, hcolumn, hnone⟩ := hcolumn
  intro before name behind hts
  rw [hcolumn] at hts
  -- the only name is the last token
  rcases List.append_eq_append_iff.1 hts with ⟨more, rfl, hmore⟩ | ⟨more, rfl, hmore⟩
  · cases more with
    | nil =>
      cases hmore
      rw [List.append_nil, ← hcolumn]
      exact ⟨r, h, rfl, List.suffix_rfl⟩
    | cons t more =>
      have hnil := congrArg List.tail hmore
      simp at hnil
  · cases more with
    | nil =>
      cases hmore
      rw [List.append_nil] at hcolumn
      exact ⟨r, h, rfl, hcolumn ▸ List.suffix_rfl⟩
    | cons t more =>
      cases hmore
      exact absurd (List.mem_append_right before List.mem_cons_self) (hnone name)

/-- A column with tokens behind it none of which is a name. -/
theorem column_append {r : Resolved} (h : r ∈ rs) (hus : ∀ name, Token.ident name ∉ us) :
    NamesOnly scope rs (scope.column r ++ us) := (column h).append (of_not_mem hus)

theorem parenthesized (h : NamesOnly scope rs ts) : NamesOnly scope rs (Tokens.parenthesized ts) := by
  have hopen : NamesOnly scope rs [.word .lparen] := of_not_mem (by simp)
  have hclose : NamesOnly scope rs [.word .rparen] := of_not_mem (by simp)
  exact (hopen.append h).append hclose

/-- Two parts with a word between them. -/
theorem between (w : Word) (hts : NamesOnly scope rs ts) (hus : NamesOnly scope rs us) :
    NamesOnly scope rs (ts ++ [Token.word .space] ++ Tokens.spaced w ++ us) := by
  have hword : NamesOnly scope rs ([Token.word .space] ++ Tokens.spaced w) :=
    of_not_mem (by simp [Tokens.spaced])
  rw [List.append_assoc ts]
  exact (hts.append hword).append hus

theorem joined (w : Word) (tests : List (List Token))
    (h : ∀ test ∈ tests, NamesOnly scope rs test) : NamesOnly scope rs (joined w tests) :=
  joined_of_closed (of_not_mem (by simp)) (between w) h

end NamesOnly

/-- A placeholder is no name. -/
theorem NamesOnly.placeholder {rs : List Resolved} (p : Parameter) :
    NamesOnly scope rs [p.placeholder] := by
  rw [Parameter.placeholder]
  split <;> exact of_not_mem (by simp)

theorem namesOnly_emitElements {rs : List Resolved} {r : Resolved} (h : r ∈ rs) (m : Member)
    (negated : Bool) (values : List Value) (s : ConditionState) :
    ∀ test ∈ (emitElements (scope.column r) m negated values s).1, NamesOnly scope rs test := by
  induction values generalizing s with
  | nil => exact fun test htest => absurd htest List.not_mem_nil
  | cons value rest ih =>
    rw [emitElements]
    split
    · exact List.forall_mem_cons.2 ⟨.column_append h (by simp), ih s⟩
    · refine List.forall_mem_cons.2 ⟨?_, ih _⟩
      exact (NamesOnly.column h).between _ (.placeholder (s.params.entry m.name value (some m)))

theorem Check.namesOnly (c : Check) (s : ConditionState) :
    NamesOnly scope c.reads (c.emit scope s).1 := by
  cases c with
  | compareMember r op r' =>
    exact (NamesOnly.column List.mem_cons_self).between op.word
      (.column (List.mem_cons_of_mem _ List.mem_cons_self))
  | among r elements negated =>
    rw [emit]
    split
    · exact .of_not_mem (by simp [Tokens.spaced])
    · exact (NamesOnly.joined _ _ (namesOnly_emitElements (List.mem_singleton_self r) r.member negated
        elements (s.noting r))).parenthesized
  | compare r op value =>
    exact (NamesOnly.column List.mem_cons_self).between op.word
      (.placeholder ((s.noting r).params.entry r.member.name value (some r.member)))
  | like r place text negated =>
    have hpattern : NamesOnly scope [r] ([_] ++ [Token.word .space, .word .likeEscape]) :=
      (NamesOnly.placeholder ((s.noting r).params.entry r.member.name
        (.text (Like.pattern place text)) (some r.member))).append (.of_not_mem (by simp))
    exact (NamesOnly.column List.mem_cons_self).between _ hpattern
  | isNull r negated =>
    rw [emit, List.append_assoc]
    exact .column_append List.mem_cons_self (by simp)
  | flag r negated =>
    exact (NamesOnly.column List.mem_cons_self).between .eq (.of_not_mem (by simp))

/-- A condition writes the columns of the members it reads and no others. -/
theorem Plan.namesOnly (scope : Scope) (p : Plan) :
    ∀ s, NamesOnly scope p.reads (p.emit scope s).1 := by
  induction p with
  | check c => exact c.namesOnly
  | and left right hl hr =>
    intro s
    have hleft := (hl s).mono fun r hr => List.mem_append_left right.reads hr
    have hright := (hr (left.emit scope s).2).mono fun r hr => List.mem_append_right left.reads hr
    exact hleft.parenthesized.between .and hright.parenthesized
  | or left right hl hr =>
    intro s
    have hleft := (hl s).mono fun r hr => List.mem_append_left right.reads hr
    have hright := (hr (left.emit scope s).2).mono fun r hr => List.mem_append_right left.reads hr
    exact hleft.parenthesized.between .or hright.parenthesized

/-! ## What a template matches on -/

/-- The members of a statement's only entity are told apart as they are in the entity. -/
theorem eraseDups_members {entity : Entity} {refs : List MemberRef} {rs : List Resolved}
    (h : (Scope.single entity).Finds refs rs) :
    rs.eraseDups.map (·.member) = (rs.map (·.member)).eraseDups := by
  let place (m : Member) : Resolved := ⟨0, entity, m⟩
  have hplace : Function.Injective place := fun m m' heq => congrArg Resolved.member heq
  have hrs : rs = (rs.map (·.member)).map place := by
    rw [List.map_map]
    refine (List.map_id' rs).symm.trans (List.map_congr_left fun r hr => ?_)
    have hget := (h.isMapped r hr).position
    obtain ⟨position, entity', member⟩ := r
    cases position with
    | zero =>
      cases hget
      rfl
    | succ position => cases hget
  rw [hrs, eraseDups_map_of_injective hplace, List.map_map, List.map_map]
  exact (List.map_id' _).trans (congrArg List.eraseDups (List.map_id' _).symm)

/-- A template that is a condition has members to match on, whatever it says about them. -/
theorem matchMembers_eq_ok {entity : Entity} {e : Expr} {p : Plan}
    (h : e.plan? (.single entity) false false = some p) :
    matchMembers entity e = .ok (p.reads.map (·.member)).eraseDups := by
  have hmembers : (p.emit (.single entity) ⟨{}, []⟩).2.members = p.reads.eraseDups :=
    p.members_emit (.single entity) ⟨{}, []⟩ [] rfl
  have hok : (ofExpr (.single entity) e {}).1 = .ok ⟨_, (p.emit (.single entity) ⟨{}, []⟩).2.members⟩ :=
    congrArg Prod.fst (ofExpr_iff.2 ⟨p, h, rfl⟩)
  have hsome : (p.reads.eraseDups).isEmpty = false := by
    obtain ⟨r, hr⟩ := List.exists_mem_of_ne_nil _ p.reads_ne_nil
    rw [List.isEmpty_eq_false_iff_exists_mem]
    exact ⟨r, List.mem_eraseDups.2 hr⟩
  have hfinds : (Scope.single entity).Finds (e.refsBy fun _ => 1) p.reads := Expr.finds_of_plan? h
  rw [matchMembers, hok]
  dsimp only
  rw [hmembers, hsome, if_neg Bool.false_ne_true, eraseDups_members hfinds]

/-- A condition reads the members that its expression names, in the order in which it names them and each
once; they have columns, and no other columns are written. A bulk write with the expression as its template
matches on just these members. -/
theorem ofExpr_members {e : Expr} {ps ps' : Parameters} {c : Condition}
    (h : ofExpr scope e ps = (.ok c, ps')) :
    ∃ rs, scope.Finds e.memberRefs rs ∧ c.members = rs.eraseDups ∧ c.members.Nodup ∧
      (∀ r ∈ c.members, IsMapped scope.entities r) ∧
      (∀ before name behind, c.tokens = before ++ .ident name :: behind →
        ∃ r ∈ c.members, r.member.columnName = name ∧ scope.column r <:+ before ++ [.ident name]) ∧
      ∀ entity, scope = .single entity →
        matchMembers entity e = .ok (rs.map (·.member)).eraseDups := by
  obtain ⟨p, hplan, hemit⟩ := ofExpr_iff.1 h
  have hfinds : scope.Finds e.memberRefs p.reads := by
    rw [Expr.memberRefs_eq]
    exact Expr.finds_of_plan? hplan
  have hmembers : c.members = p.reads.eraseDups := by
    have hnoted := p.members_emit scope ⟨ps, []⟩ [] rfl
    rwa [hemit] at hnoted
  have hmem : ∀ r, r ∈ c.members ↔ r ∈ p.reads := by
    intro r
    rw [hmembers, List.mem_eraseDups]
  have hwritten : NamesOnly scope c.members c.tokens := by
    have hreads := p.namesOnly scope ⟨ps, []⟩
    rw [hemit] at hreads
    exact hreads.mono fun r hr => (hmem r).2 hr
  refine ⟨p.reads, hfinds, hmembers, ?_, fun r hr => hfinds.isMapped r ((hmem r).1 hr), hwritten, ?_⟩
  · rw [hmembers]
    exact nodup_eraseDups _
  · rintro entity rfl
    exact matchMembers_eq_ok hplan

/-- Pupils, found by their names. -/
def pupil : Entity :=
  { name := "Pupil", members := [{ name := "Id" }, { name := "Name", column := some "FullName" }] }

/-- A template that writes one of the two members it is matched on. -/
def pupilTemplate : Expr :=
  .and (.call (.list []) .contains (.convert (.member ⟨0, "Id"⟩)))
    (.or (.not (.member ⟨0, "Name"⟩)) (.call (.list [.int 7]) .contains (.member ⟨0, "Name"⟩)))

theorem ofExpr_members_pupil :
    ∃ c ps', ofExpr (.single pupil) pupilTemplate {} = (.ok c, ps') ∧
      ∃ rs, (Scope.single pupil).Finds pupilTemplate.memberRefs rs ∧ c.members = rs.eraseDups ∧
        c.members.Nodup ∧ (∀ r ∈ c.members, IsMapped [pupil] r) ∧
        (∀ before name behind, c.tokens = before ++ .ident name :: behind →
          ∃ r ∈ c.members, r.member.columnName = name ∧
            (Scope.single pupil).column r <:+ before ++ [.ident name]) ∧
        ∀ entity, Scope.single pupil = .single entity →
          matchMembers entity pupilTemplate = .ok (rs.map (·.member)).eraseDups :=
  ⟨_, _, rfl, ofExpr_members rfl⟩

end Condition

end Rowgraph
