import Rowgraph.Proofs.Graph.Chosen

/-!
# Places of objects

What attaching does to the places of an object: the place of the child gets one more object at its
end, and the others keep theirs. An object that is given the objects of identities, one after the
other, has them at its places in that order (`childrenAt_foldlM`).
-/

set_option autoImplicit false

namespace Rowgraph

namespace Object

@[simp] theorem childrenAt_bare (type : Nat) (row : Row) (cell : Cell) :
    (bare type row).childrenAt cell = [] := rfl

@[simp] theorem attach_type (o : Object) (cell : Cell) (child : Object) :
    (o.attach cell child).type = o.type := by
  rw [attach]
  split <;> rfl

@[simp] theorem attach_row (o : Object) (cell : Cell) (child : Object) :
    (o.attach cell child).row = o.row := by
  rw [attach]
  split <;> rfl

/-- A child is attached behind the others, where there may be others. -/
theorem childrenAt_attach_self (o : Object) (cell : Cell)
    (h : cell.cardinality = .one → o.childrenAt cell = []) (child : Object) :
    (o.attach cell child).childrenAt cell = o.childrenAt cell ++ [child] := by
  rw [attach]
  split
  · next hone =>
    rw [h hone, childrenAt, attached, List.filter_append, List.filter_filter]
    simp
  · simp [childrenAt, attached]

theorem childrenAt_attach_of_ne {o : Object} {cell other : Cell} (h : cell ≠ other)
    (child : Object) : (o.attach cell child).childrenAt other = o.childrenAt other := by
  rw [attach]
  split
  · rw [childrenAt, attached, List.filter_append, List.filter_filter,
      List.filter_cons_of_neg (by simpa using h), List.filter_nil, List.append_nil, childrenAt]
    refine congrArg _ (List.filter_congr fun a _ => ?_)
    by_cases ha : a.1 = other
    · simp [ha, h.symm]
    · simp [ha]
  · simp [childrenAt, attached, h]

end Object

/-- The place of an identity's object in its parent. -/
def Identity.cell? (chain : Chain) : Identity → Option Cell
  | .root _ => none
  | .under _ step _ => chain[step]?.map (·.navigation.cell)

theorem Navigation.setter_eq_ok {n : Navigation} {parent child : Object} (hparent : parent.type = n.owner)
    (hchild : child.type = n.child.id) : n.setter parent child = .ok (parent.attach n.cell child) := by
  rw [setter, if_neg (not_not_intro hparent), if_neg (not_not_intro hchild)]

theorem Navigation.eq_attach_of_setter {n : Navigation} {o child o' : Object}
    (h : n.setter o child = .ok o') : o' = o.attach n.cell child := by
  rw [Navigation.setter] at h
  split at h
  · cases h
  · split at h
    · cases h
    · cases h
      rfl

/-- Does the identity's object belong at the place? -/
def Identity.isAt (chain : Chain) (cell : Cell) (id : Identity) : Bool := id.cell? chain == some cell

/-- What a child is attached by fills its place, or does nothing. -/
theorem Identity.eq_of_setter {chain : Chain} {c : Identity} {o child o' : Object}
    (h : c.setter chain.links o child = .ok o') :
    c.cell? chain = none ∧ o' = o ∨ ∃ cell, c.cell? chain = some cell ∧ o' = o.attach cell child := by
  cases c with
  | root mark =>
    cases h
    exact Or.inl ⟨rfl, rfl⟩
  | under parent j mark =>
    rw [Identity.setter, Chain.links, List.getElem?_map] at h
    cases hs : chain[j]? with
    | none =>
      simp only [hs, Option.map_none] at h
      cases h
      exact Or.inl ⟨by simp [cell?, hs], rfl⟩
    | some s =>
      simp only [hs, Option.map_some] at h
      exact Or.inr ⟨s.navigation.cell, by simp [cell?, hs], Navigation.eq_attach_of_setter h⟩

/-- One child more at its place, and the other places as they were. -/
theorem Identity.childrenAt_of_setter {chain : Chain} {c : Identity} {o child o' : Object}
    (h : c.setter chain.links o child = .ok o') (cell : Cell)
    (hroom : cell.cardinality = .one → c.isAt chain cell = true → o.childrenAt cell = []) :
    o'.childrenAt cell = o.childrenAt cell ++ if c.isAt chain cell = true then [child] else [] := by
  rcases Identity.eq_of_setter h with ⟨hnone, rfl⟩ | ⟨own, hown, rfl⟩
  · have hskip : ¬ (c.isAt chain cell = true) := by simp [Identity.isAt, hnone]
    rw [if_neg hskip, List.append_nil]
  · by_cases heq : own = cell
    · subst heq
      have hhere : c.isAt chain own = true := by simp [Identity.isAt, hown]
      rw [if_pos hhere, Object.childrenAt_attach_self o own fun hone => hroom hone hhere]
    · have hskip : ¬ (c.isAt chain cell = true) := by simp [Identity.isAt, hown, heq]
      rw [if_neg hskip, List.append_nil, Object.childrenAt_attach_of_ne heq]

theorem Identity.same_of_setter {chain : Chain} {c : Identity} {o child o' : Object}
    (h : c.setter chain.links o child = .ok o') : o'.type = o.type ∧ o'.row = o.row := by
  rcases Identity.eq_of_setter h with ⟨-, rfl⟩ | ⟨own, -, rfl⟩
  · exact ⟨rfl, rfl⟩
  · exact ⟨o.attach_type own child, o.attach_row own child⟩

/-- Attaching children one after the other. -/
theorem childrenAt_foldlM {chain : Chain} {whole : Identity → Object} (cs : List Identity) :
    ∀ {o o' : Object}, cs.foldlM (fun o c => c.setter chain.links o (whole c)) o = .ok o' →
      o'.type = o.type ∧ o'.row = o.row ∧ ∀ cell,
        (cell.cardinality = .one →
          (o.childrenAt cell).length + (cs.filter (Identity.isAt chain cell)).length ≤ 1) →
        o'.childrenAt cell =
          o.childrenAt cell ++ (cs.filter (Identity.isAt chain cell)).map whole := by
  induction cs with
  | nil =>
    intro o o' h
    cases h
    exact ⟨rfl, rfl, fun cell _ => (List.append_nil _).symm⟩
  | cons c cs ih =>
    intro o o' h
    rw [List.foldlM_cons] at h
    obtain ⟨o₁, hc, hrest⟩ := bind_eq_ok.1 h
    obtain ⟨htype, hrow, hchildren⟩ := ih hrest
    obtain ⟨htype₁, hrow₁⟩ := Identity.same_of_setter hc
    refine ⟨htype.trans htype₁, hrow.trans hrow₁, fun cell hone => ?_⟩
    by_cases hhere : c.isAt chain cell = true
    · rw [List.filter_cons_of_pos hhere, List.length_cons] at hone
      -- the child has room, so the place was empty where there is room for one
      have hstep := Identity.childrenAt_of_setter hc cell fun h1 _ =>
        List.eq_nil_of_length_eq_zero (by have := hone h1; omega)
      rw [if_pos hhere] at hstep
      rw [hchildren cell, hstep, List.filter_cons_of_pos hhere, List.append_assoc]
      · rfl
      · intro h1
        rw [hstep, List.length_append, List.length_singleton]
        have := hone h1
        omega
    · have hstep := Identity.childrenAt_of_setter hc cell fun _ h => absurd h hhere
      rw [if_neg hhere, List.append_nil] at hstep
      rw [List.filter_cons_of_neg hhere] at hone ⊢
      rw [hchildren cell, hstep]
      rwa [hstep]

end Rowgraph
