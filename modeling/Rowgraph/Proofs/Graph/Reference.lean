import Rowgraph.Proofs.Graph.Attached

/-!
# The graph that rows describe

Whenever joined rows can be assembled, the objects that come back are the roots of the one graph that
the identities in the rows describe (`assemble_iff_isGraphOf`), whatever the rows are: with and
without keys, consistent or not.
-/

set_option autoImplicit false

namespace Rowgraph

variable {root : ObjectType}

theorem ofJoinsFrom_isOf {types : List Nat} {joins : List Join} {links : List Link}
    (h : Link.ofJoinsFrom types joins = .ok links) : List.Forall₂ Link.IsOf joins links := by
  induction joins generalizing types links with
  | nil =>
    cases h
    exact List.Forall₂.nil
  | cons j joins ih =>
    rw [Link.ofJoinsFrom] at h
    cases hb : j.binding with
    | none => simp [hb] at h
    | some b =>
      simp only [hb] at h
      split at h
      · obtain ⟨rest, hrest, rfl⟩ := map_eq_ok.1 h
        exact List.Forall₂.cons ⟨b, hb, rfl⟩ (ih hrest)
      · cases h

theorem ofJoins_isOf {joins : List Join} {split : SplitPlan} {links : List Link}
    (h : Link.ofJoins root joins split = .ok links) : List.Forall₂ Link.IsOf joins links := by
  rw [Link.ofJoins] at h
  split at h
  · cases h
  · exact ofJoinsFrom_isOf h

/-- A link is that of the join at its place. -/
theorem exists_join_of_ofJoins {joins : List Join} {split : SplitPlan} {links : List Link}
    (h : Link.ofJoins root joins split = .ok links) {i : Nat} {l : Link} (hl : links[i]? = some l) :
    ∃ j b, joins[i]? = some j ∧ j.binding = some b ∧ l = ⟨j.parent, j.cardinality, b.child, b.setter⟩ := by
  have hof := ofJoins_isOf h
  obtain ⟨hi, rfl⟩ := List.getElem?_eq_some_iff.1 hl
  have hi' : i < joins.length := hof.length_eq ▸ hi
  obtain ⟨b, hb, hlink⟩ := hof.get hi' hi
  exact ⟨joins[i], b, List.getElem?_eq_getElem hi', hb, hlink⟩

/-- A join hangs below an earlier position, whose objects are of the type that the join is bound to. -/
theorem ofJoinsFrom_fits {types : List Nat} {joins : List Join} {links : List Link}
    (h : Link.ofJoinsFrom types joins = .ok links) :
    ∀ (i : Nat) (j : Join) (b : Binding), joins[i]? = some j → j.binding = some b →
      j.parent < types.length + i ∧ (types ++ links.map (·.child.id))[j.parent]? = some b.parentType := by
  induction joins generalizing types links with
  | nil =>
    intro i j b hj
    cases hj
  | cons first rest ih =>
    intro i j b hj hb
    rw [Link.ofJoinsFrom] at h
    cases hfirst : first.binding with
    | none => simp [hfirst] at h
    | some made =>
      simp only [hfirst] at h
      split at h
      · next hfits =>
        obtain ⟨behind, hbehind, rfl⟩ := map_eq_ok.1 h
        cases i with
        | zero =>
          cases hj
          rw [hfirst] at hb
          cases hb
          have hlt := (List.getElem?_eq_some_iff.1 hfits).1
          exact ⟨hlt, by rw [List.getElem?_append_left hlt, hfits]⟩
        | succ i =>
          obtain ⟨hlt, htype⟩ := ih hbehind i j b hj hb
          rw [List.length_append, List.length_singleton, Nat.add_right_comm, Nat.add_assoc] at hlt
          rw [List.append_assoc] at htype
          exact ⟨hlt, htype⟩
      · cases h

theorem ofJoins_fits {joins : List Join} {split : SplitPlan} {links : List Link}
    (h : Link.ofJoins root joins split = .ok links) {i : Nat} {j : Join} {b : Binding}
    (hj : joins[i]? = some j) (hb : j.binding = some b) :
    j.parent ≤ i ∧ (root.id :: links.map (·.child.id))[j.parent]? = some b.parentType := by
  rw [Link.ofJoins] at h
  split at h
  · cases h
  · obtain ⟨hlt, htype⟩ := ofJoinsFrom_fits h i j b hj hb
    rw [List.length_singleton, Nat.add_comm] at hlt
    exact ⟨Nat.le_of_lt_succ hlt, htype⟩

theorem length_points_of_ofJoins {joins : List Join} {split : SplitPlan} {links : List Link}
    (h : Link.ofJoins root joins split = .ok links) : split.points.length = joins.length := by
  rw [Link.ofJoins] at h
  split at h
  · cases h
  · next heq => exact not_not.1 heq

theorem ranges_of_ofRows {links : List Link} {split : SplitPlan} {rows : List Row} {f f' : Forest}
    (h : rows.foldlM (Forest.placeRow root links split) f = .ok f') :
    ∀ row ∈ rows, ∃ ranges, split.ranges row.width = .ok ranges := by
  induction rows generalizing f with
  | nil => simp
  | cons r rows ih =>
    rw [List.foldlM_cons] at h
    obtain ⟨g, hrow, hrest⟩ := bind_eq_ok.1 h
    rw [Forest.placeRow] at hrow
    obtain ⟨ranges, hranges, -⟩ := bind_eq_ok.1 hrow
    intro row hmem
    rcases List.mem_cons.1 hmem with rfl | hmem
    · exact ⟨ranges, hranges⟩
    · exact ih hrest row hmem

/-- Assembled rows all fit the split plan, every object that a mark is taken from can be read, and the
objects that come back are those of the graph of their identities, and no others. -/
theorem assemble_iff_isGraphOf {joins : List Join} {split : SplitPlan} {rows : List Row}
    {objects : List Object} (hjoins : joins ≠ [])
    (h : root.assemble joins split rows = .ok objects) :
    ∃ links, List.Forall₂ Link.IsOf joins links ∧
      (∀ row ∈ rows, ∃ ranges, split.ranges row.width = .ok ranges) ∧
      (∀ id part, (id, part) ∈ occurrences root links split rows → id.mark ≠ .only →
        id.Reads root links part) ∧
      ∀ others, IsGraphOf root links (occurrences root links split rows) others ↔
        others = objects := by
  rw [ObjectType.assemble, if_neg (by simpa using hjoins)] at h
  obtain ⟨links, hlinks, h⟩ := bind_eq_ok.1 h
  obtain ⟨forest, hforest, hroots⟩ := bind_eq_ok.1 h
  have hrep := ofRows_represents hforest
  exact ⟨links, ofJoins_isOf hlinks, ranges_of_ofRows hforest, hrep.reads,
    isGraphOf_iff_of_roots hrep hroots⟩

/-! ## Clubs, their members and the members' cards -/

namespace Clubs

/-- The type of a number whose objects are rows with a key `Id`. -/
def keyed (id : Nat) (name : String) : ObjectType where
  id := id
  entity := { name := name, members := [{ name := "Id", key := true }] }
  decode := .ok

/-- The members of a club. -/
def members : Navigation := ⟨"Members", 0, keyed 1 "Member", 0, .many⟩

/-- The card of a member. -/
def card : Navigation := ⟨"Card", 1, keyed 2 "Card", 0, .one⟩

/-- The joins to the members and their cards. -/
def joins : List Join := [(Join.bound members 0 {}).1, (Join.bound card 1 {}).1]

/-- One column for each table. -/
def split : SplitPlan := ⟨[⟨1, "Id", 1⟩, ⟨2, "Id", 2⟩]⟩

/-- The columns of one object. -/
def columns (id : Value) : Row := ⟨[("Id", id)]⟩

/-- A joined row. -/
def joined (club member card : Value) : Row := ⟨[("Id", club), ("Id", member), ("Id", card)]⟩

/-- A second card comes too late, a club and a member without a key are like no other, and without a
member there is no card. -/
def rows : List Row :=
  [joined (.int 1) (.int 10) (.int 5), joined (.int 1) (.int 10) (.int 6),
    joined (.int 0) .null (.int 7), joined (.int 1) (.int 0) (.int 8)]

/-- What the rows describe. -/
def objects : List Object :=
  [.mk 0 (columns (.int 1)) [
      (members.cell, .mk 1 (columns (.int 10)) [(card.cell, .bare 2 (columns (.int 5)))]),
      (members.cell, .mk 1 (columns (.int 0)) [(card.cell, .bare 2 (columns (.int 8)))])],
    .bare 0 (columns (.int 0))]

end Clubs

open Clubs in
theorem assemble_iff_isGraphOf_clubs :
    joins ≠ [] ∧ (keyed 0 "Club").assemble joins split rows = .ok objects ∧
      ∃ links, List.Forall₂ Link.IsOf joins links ∧
        (∀ row ∈ rows, ∃ ranges, split.ranges row.width = .ok ranges) ∧
        (∀ id part, (id, part) ∈ occurrences (keyed 0 "Club") links split rows →
          id.mark ≠ .only → id.Reads (keyed 0 "Club") links part) ∧
        ∀ others, IsGraphOf (keyed 0 "Club") links
          (occurrences (keyed 0 "Club") links split rows) others ↔ others = objects :=
  ⟨by simp [joins], rfl, assemble_iff_isGraphOf (by simp [joins]) rfl⟩

end Rowgraph
