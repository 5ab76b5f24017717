import Rowgraph.Proofs.Graph.Construction

/-!
# Kept setters

The setter of a join is the one that its construction found in the caches, which tell navigations apart by the
types at their ends and by their names. It may have been made for another navigation between the same types,
that puts objects into another place. Whatever the caches went through, it was made for a navigation of the join's
own key (`Caches.setter_after`), so the link of a join attaches objects of its own types and keeps the types and
the rows of the parents (`Join.IsBuilt.attaches`, `Join.IsBuilt.keeps`).
-/

set_option autoImplicit false

namespace Rowgraph

/-- Is the join, if it is bound, bound to a navigation with the setter that the caches had or were given,
after whatever they went through? -/
def Join.IsBuilt (j : Join) : Prop :=
  ∀ b, j.binding = some b → ∃ history navigation parent,
    (Join.bound navigation parent (Caches.after history)).1.binding = some b

/-- Does attaching by a link leave something about a parent as it is? -/
def Link.Keeps {α : Type} (l : Link) (about : Object → α) : Prop :=
  ∀ parent child o : Object, l.setter parent child = .ok o → about o = about parent

namespace Join.IsBuilt

variable {j : Join} {l : Link}

/-- The setter was made for a navigation between the join's own types. -/
theorem exists_navigation (h : j.IsBuilt) {b : Binding} (hb : j.binding = some b) :
    ∃ made : Navigation, made.owner = b.parentType ∧ made.child.id = b.child.id ∧ b.setter = made.setter := by
  obtain ⟨history, navigation, parent, hbound⟩ := h b hb
  obtain ⟨howner, hchild, -⟩ := SetterKey.mk.inj (CacheUse.key_firstBound history navigation)
  cases hbound
  exact ⟨CacheUse.firstBound history navigation, howner, hchild, Caches.setter_after history navigation⟩

/-- The link of a built join puts objects of its child's type below those of its parents' type. -/
theorem attaches (h : j.IsBuilt) {b : Binding} (hb : j.binding = some b) :
    (Link.mk j.parent j.cardinality b.child b.setter).Attaches b.parentType := by
  obtain ⟨made, howner, hid, hsetter⟩ := h.exists_navigation hb
  intro parent child hparent hchild
  refine ⟨parent.attach made.cell child, ?_, by rw [Object.attach_type, hparent]⟩
  rw [hsetter]
  exact Navigation.setter_eq_ok (hparent.trans howner.symm) (hchild.trans hid.symm)

/-- Attaching changes neither a parent's type nor its own members. -/
theorem keeps (h : j.IsBuilt) (hl : l.IsOf j) : l.Keeps Object.type ∧ l.Keeps Object.row := by
  obtain ⟨b, hb, rfl⟩ := hl
  obtain ⟨made, -, -, hsetter⟩ := h.exists_navigation hb
  have hattach : ∀ parent child o : Object, b.setter parent child = .ok o → o = parent.attach made.cell child := by
    intro parent child o ho
    rw [hsetter] at ho
    exact Navigation.eq_attach_of_setter ho
  constructor
  · intro parent child o ho
    rw [hattach parent child o ho, Object.attach_type]
  · intro parent child o ho
    rw [hattach parent child o ho, Object.attach_row]

end Join.IsBuilt

section Links

variable {root : ObjectType} {joins : List Join} {split : SplitPlan} {links : List Link}

theorem keeps_of_ofJoins (hbuilt : ∀ j ∈ joins, j.IsBuilt) (h : Link.ofJoins root joins split = .ok links) :
    ∀ l ∈ links, l.Keeps Object.type ∧ l.Keeps Object.row := by
  intro l hl
  obtain ⟨i, hi⟩ := List.getElem?_of_mem hl
  obtain ⟨j, b, hj, hb, hlink⟩ := exists_join_of_ofJoins h hi
  exact (hbuilt j (List.mem_of_getElem? hj)).keeps ⟨b, hb, hlink⟩

/-- What every link keeps is kept when children are attached one after the other. -/
theorem about_foldlM_setter {α : Type} {about : Object → α} (hkeeps : ∀ l ∈ links, l.Keeps about)
    (whole : Identity → Object) (cs : List Identity) : ∀ {o o' : Object},
      cs.foldlM (fun o c => c.setter links o (whole c)) o = .ok o' → about o' = about o := by
  induction cs with
  | nil =>
    intro o o' h
    cases h
    rfl
  | cons c cs ih =>
    intro o o' h
    rw [List.foldlM_cons] at h
    obtain ⟨o₁, hc, hrest⟩ := bind_eq_ok.1 h
    rw [ih hrest]
    cases c with
    | root mark =>
      cases hc
      rfl
    | under parent link mark =>
      rw [Identity.setter] at hc
      cases hl : links[link]? with
      | none =>
        rw [hl] at hc
        cases hc
        rfl
      | some l =>
        rw [hl] at hc
        exact hkeeps l (List.mem_of_getElem? hl) o _ o₁ hc

end Links

end Rowgraph
