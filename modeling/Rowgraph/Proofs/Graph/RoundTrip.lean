import Rowgraph.Proofs.Graph.Places
import Rowgraph.Proofs.Graph.Reference

/-!
# Assembling undoes flattening

A forest that has the shape of a chain of joins comes back from the rows that joining its tables
gives: the same roots, and at every place of every object the same children in the same order
(`assemble_flatten`). However often the joins repeat an object, it is one node; the children of an
object first occur in their own order, because each of its rows is continued by all of them.
-/

set_option autoImplicit false

namespace Rowgraph

section Forest

variable {root : ObjectType} {chain : Chain} {layout : Layout} {split : SplitPlan}
  {roots : List Object}

/-! ## What occurs -/

theorem mem_occurring {row : List (Option Entry)} {id : Identity} {part : Row} :
    ∀ {position : Nat}, (id, part) ∈ occurring layout position row ↔
      ∃ k o, row[k]? = some (some (id, o)) ∧ part = layout.part (position + k) o := by
  induction row with
  | nil => simp [occurring]
  | cons c row ih =>
    intro position
    rw [occurring, List.mem_append, ih]
    constructor
    · rintro (hhere | ⟨k, o, hk, rfl⟩)
      · rw [Option.mem_toList, Option.map_eq_some_iff] at hhere
        obtain ⟨⟨id', o⟩, rfl, heq⟩ := hhere
        obtain ⟨rfl, rfl⟩ := Prod.mk.inj heq
        exact ⟨0, o, rfl, rfl⟩
      · exact ⟨k + 1, o, hk, by rw [Nat.add_right_comm, Nat.add_assoc]⟩
    · rintro ⟨_ | k, o, hk, rfl⟩
      · rw [List.getElem?_cons_zero, Option.some.injEq] at hk
        subst hk
        exact Or.inl (by simp)
      · exact Or.inr ⟨k, o, hk, by rw [Nat.add_right_comm, Nat.add_assoc]⟩

/-- Of what occurs in a row, the identities at one position are what its column holds. -/
theorem filter_occurring (layout : Layout) (q : Identity → Bool) {row : List (Option Entry)} :
    ∀ {position : Nat}, (∀ k e, row[k]? = some (some e) → e.1.position = position + k) → ∀ k,
      ((occurring layout position row).map Prod.fst).filter
          (fun id => id.position == position + k && q id) =
        column (fun e => if q e.1 then [e.1] else []) k row := by
  induction row with
  | nil =>
    intro position _ k
    rfl
  | cons c row ih =>
    intro position hrow k
    have hrest : ∀ i e, row[i]? = some (some e) → e.1.position = position + 1 + i := by
      intro i e hi
      rw [hrow (i + 1) e hi, Nat.add_right_comm, Nat.add_assoc]
    rw [occurring, List.map_append, List.filter_append]
    cases k with
    | zero =>
      -- what occurs behind has a later position
      have hnil : ((occurring layout (position + 1) row).map Prod.fst).filter
          (fun id => id.position == position + 0 && q id) = [] := by
        rw [List.filter_eq_nil_iff]
        intro id hid
        obtain ⟨⟨id', part⟩, hmem, rfl⟩ := List.mem_map.1 hid
        obtain ⟨i, o, hi, -⟩ := mem_occurring.1 hmem
        have hpos : id'.position = position + 1 + i := hrest i (id', o) hi
        simp [hpos]
        omega
      rw [hnil, List.append_nil]
      cases c with
      | none => rfl
      | some e =>
        have hpos := hrow 0 e rfl
        cases hq : q e.1 <;> simp [column, hpos, hq]
    | succ k =>
      -- what occurs first has an earlier one
      have hnil : (((c.map fun e => (e.1, layout.part position e.2)).toList).map Prod.fst).filter
          (fun id => id.position == position + (k + 1) && q id) = [] := by
        cases c with
        | none => rfl
        | some e =>
          have hpos := hrow 0 e rfl
          simp [hpos]
      rw [hnil, List.nil_append, ← Nat.add_assoc, Nat.add_right_comm, ih hrest k]
      rfl

/-- Where an identity occurs, its object was chosen. -/
theorem exists_of_mem_distinct (h : Flattenable root chain layout split roots) {id : Identity}
    (hid : id ∈ distinct (occurrences root chain.links split (flatten chain layout roots))) :
    ∃ row ∈ chain.entryRows root roots, ∃ k o, row[k]? = some (some (id, o)) ∧
      Denotes root chain roots k (id, o) := by
  obtain ⟨part, hpart⟩ := mem_distinct.1 hid
  rw [occurrences_flatten h] at hpart
  obtain ⟨row, hrow, hmem⟩ := List.mem_flatMap.1 hpart
  obtain ⟨k, o, hk, -⟩ := mem_occurring.1 hmem
  exact ⟨row, hrow, k, o, hk, (chosen_of_mem_entryRows hrow).2.denotes k _ hk⟩

/-- The part where an identity first occurs is that of its object. -/
theorem lookup_eq_part (h : Flattenable root chain layout split roots) {id : Identity} {o : Object}
    {position : Nat} (ho : Denotes root chain roots position (id, o)) {part : Row}
    (hpart : (occurrences root chain.links split (flatten chain layout roots)).lookup id =
      some part) : part = layout.part position o := by
  obtain ⟨before, after, hsplit, -⟩ := List.lookup_eq_some_iff.1 hpart
  have hmem : (id, part) ∈ occurrences root chain.links split (flatten chain layout roots) := by
    rw [hsplit]
    exact List.mem_append_right _ List.mem_cons_self
  rw [occurrences_flatten h] at hmem
  obtain ⟨row, hrow, hmem⟩ := List.mem_flatMap.1 hmem
  obtain ⟨k, o', hk, rfl⟩ := mem_occurring.1 hmem
  have ho' := (chosen_of_mem_entryRows hrow).2.denotes k _ hk
  have heq := ho.unique h.keys h.shaped ho' rfl
  obtain ⟨-, rfl⟩ := Prod.mk.inj heq
  rw [Nat.zero_add, ← ho'.position_eq, ho.position_eq]

/-- The identities at one position, in the order of their first occurrence. -/
theorem filter_distinct (h : Flattenable root chain layout split roots) (q : Identity → Bool)
    (k : Nat) :
    (distinct (occurrences root chain.links split (flatten chain layout roots))).filter
        (fun id => id.position == k && q id) =
      ((chain.entryRows root roots).flatMap
        (column (fun e => if q e.1 then [e.1] else []) k)).eraseDups := by
  rw [distinct, filter_eraseDups, occurrences_flatten h, List.map_flatMap, List.filter_flatMap]
  refine congrArg List.eraseDups (List.flatMap_congr fun row hrow => ?_)
  have hpos : ∀ i e, row[i]? = some (some e) → e.1.position = 0 + i := by
    intro i e hi
    rw [Nat.zero_add]
    exact ((chosen_of_mem_entryRows hrow).2.denotes i e hi).position_eq
  have hfilter := filter_occurring layout q hpos k
  rwa [Nat.zero_add] at hfilter

/-! ## The order of children -/

theorem rootIdentities_flatten (h : Flattenable root chain layout split roots) :
    rootIdentities (occurrences root chain.links split (flatten chain layout roots)) =
      roots.map fun o => (root.rootEntry o).1 := by
  have hroot : ∀ id : Identity, id.parent?.isNone = (id.position == 0 && true) := by
    intro id
    cases id <;> rfl
  have hnodup : (roots.map fun o => (root.rootEntry o).1).Nodup := by
    refine (List.Nodup.of_map root.key? h.keys.2).map_on fun a ha b hb hab => ?_
    exact key_eq_of_markOf_eq h.keys ha hb (Identity.root.inj hab)
  rw [rootIdentities]
  simp only [hroot]
  rw [filter_distinct h (fun _ => true) 0, Chain.entryRows, eraseDups_column_levels]
  · rw [List.flatMap_map]
    simp only [column, List.getElem?_cons_zero, Option.join_some, Option.map_some, if_true,
      Option.getD_some]
    rw [← List.map_eq_flatMap, eraseDups_of_nodup hnodup]
  · intro row hrow
    obtain ⟨o, -, rfl⟩ := List.mem_map.1 hrow
    exact Nat.one_pos

theorem entries_of_step {j : Nat} {s : Step} (hs : chain[j]? = some s) (e : Entry) :
    chain.entries j e =
      (e.2.childrenAt s.navigation.cell).map fun c => (.under e.1 j (s.markOf c), c) := by
  rw [Chain.entries, hs]
  simp only [Chain.children, hs]

/-- The children of an object behind one step have different identities. -/
theorem nodup_entries {position : Nat} {e : Entry} (hroots : ∀ o ∈ roots, Shaped root chain layout 0 o)
    (he : Denotes root chain roots position e) {j : Nat} {s : Step} (hs : chain[j]? = some s)
    (hposition : s.parent = position) : ((chain.entries j e).map Prod.fst).Nodup := by
  obtain ⟨-, -, -, -, -, -, single, keys, -⟩ := he.shaped hroots
  have hmem := List.mem_of_getElem? hs
  rw [entries_of_step hs, List.map_map]
  cases hcard : s.navigation.cardinality with
  | one =>
    have hlength := single s hmem hposition hcard
    match hcs : e.2.childrenAt s.navigation.cell with
    | [] => exact List.nodup_nil
    | [c] => exact List.nodup_singleton _
    | _ :: _ :: _ =>
      rw [hcs] at hlength
      simp at hlength
  | many =>
    have hkeys := keys s hmem hposition hcard
    refine (List.Nodup.of_map _ hkeys.2).map_on fun a ha b hb hab => ?_
    obtain ⟨-, -, hmark⟩ := Identity.under.inj hab
    simp only [Step.markOf, hcard] at hmark
    exact key_eq_of_markOf_eq hkeys ha hb hmark

/-- Only the object's own entries are below its identity. -/
theorem flatMap_entries (j : Nat) (a : Entry) (id : Identity) :
    ((chain.entries j a).flatMap fun c => if decide (c.1.parent? = some id) then [c.1] else []) =
      if a.1 = id then (chain.entries j a).map Prod.fst else [] := by
  have hparent : ∀ c ∈ chain.entries j a, c.1.parent? = some a.1 := by
    intro c hc
    obtain ⟨s, o, -, -, rfl⟩ := mem_entries hc
    rfl
  split
  · next heq =>
    rw [List.map_eq_flatMap]
    refine List.flatMap_congr fun c hc => ?_
    simp [hparent c hc, heq]
  · next hne =>
    rw [List.flatMap_eq_nil_iff]
    intro c hc
    simp [hparent c hc, hne]

/-- The joins before a step, the step's own and those behind it. -/
theorem Chain.parents_eq_append {j : Nat} {s : Step} (hs : chain[j]? = some s) :
    chain.parents = chain.parents.take j ++ s.parent :: chain.parents.drop (j + 1) ∧
      (chain.parents.take j).length = j := by
  have hget : chain.parents[j]? = some s.parent := by
    rw [Chain.parents, List.getElem?_map, hs]
    rfl
  obtain ⟨hj, hparent⟩ := List.getElem?_eq_some_iff.1 hget
  refine ⟨?_, List.length_take_of_le (Nat.le_of_lt hj)⟩
  rw [← hparent, ← List.drop_eq_getElem_cons hj, List.take_append_drop]

/-- The rows of the joins before a step. -/
theorem chosen_of_mem_levels_take {j : Nat} {s : Step} (hs : chain[j]? = some s)
    {row : List (Option Entry)}
    (hrow : row ∈ levels chain.entries (chain.parents.take j) 0
      (roots.map fun o => [some (root.rootEntry o)])) :
    row.length = j + 1 ∧ Chosen root chain roots row := by
  obtain ⟨hsplit, hbefore⟩ := Chain.parents_eq_append hs
  have hchosen := chosen_of_mem_levels _ hsplit hrow
  rwa [hbefore] at hchosen

/-- An object that occurs stands in a row of the joins before any step from its position. -/
theorem exists_mem_levels_take (h : Flattenable root chain layout split roots) {position : Nat}
    {e : Entry} (he : Denotes root chain roots position e)
    (hid : e.1 ∈ distinct (occurrences root chain.links split (flatten chain layout roots)))
    {j : Nat} {s : Step} (hs : chain[j]? = some s) (hposition : s.parent = position) :
    ∃ row ∈ levels chain.entries (chain.parents.take j) 0
        (roots.map fun o => [some (root.rootEntry o)]), row[s.parent]? = some (some e) := by
  obtain ⟨row, hrow, k, o, hk, hdenotes⟩ := exists_of_mem_distinct h hid
  rw [← he.unique h.keys h.shaped hdenotes rfl] at hk hdenotes
  obtain rfl : k = s.parent := by
    rw [hposition, ← hdenotes.position_eq, he.position_eq]
  -- the joins from the step on only lengthen the row
  rw [Chain.entryRows, (Chain.parents_eq_append hs).1, levels_append] at hrow
  obtain ⟨first, hfirst, hprefix⟩ := exists_prefix_of_mem_levels _ hrow
  have hlt : s.parent < first.length := by
    rw [(chosen_of_mem_levels_take hs hfirst).1]
    exact Nat.lt_succ_of_le (h.valid.parents j s hs)
  refine ⟨first, hfirst, ?_⟩
  rw [← hk, List.prefix_iff_getElem?.1 hprefix _ hlt, List.getElem?_eq_getElem hlt]

/-- Behind a step the children of an object first occur in their own order. -/
theorem children_flatten (h : Flattenable root chain layout split roots) {position : Nat}
    {e : Entry} (he : Denotes root chain roots position e)
    (hid : e.1 ∈ distinct (occurrences root chain.links split (flatten chain layout roots)))
    {j : Nat} {s : Step} (hs : chain[j]? = some s) (hposition : s.parent = position) :
    (distinct (occurrences root chain.links split (flatten chain layout roots))).filter
        (fun id => id.position == j + 1 && id.parent? = some e.1) =
      (chain.entries j e).map Prod.fst := by
  obtain ⟨hsplit, hbefore⟩ := Chain.parents_eq_append hs
  have hlength : ∀ row ∈ levels chain.entries (chain.parents.take j) 0
      (roots.map fun o => [some (root.rootEntry o)]), row.length = j + 1 := fun row hrow =>
    (chosen_of_mem_levels_take hs hrow).1
  -- what a row is continued by below the object's identity
  have hcolumn : ∀ (row : List (Option Entry)) (a : Entry), row[s.parent]? = some (some a) →
      column (fun a => (chain.entries j a).flatMap fun c =>
          if decide (c.1.parent? = some e.1) then [c.1] else []) s.parent row =
        if a.1 = e.1 then (chain.entries j a).map Prod.fst else [] := by
    intro row a ha
    rw [column, join_eq_some.2 ha, Option.map_some, Option.getD_some, flatMap_entries]
  rw [filter_distinct h (fun id => id.parent? = some e.1) (j + 1), Chain.entryRows, hsplit,
    levels_append, levels, hbefore, Nat.zero_add, eraseDups_column_levels, column_joinTable]
  · -- every row so far is continued by all children of the object, or has another one in its place
    refine eraseDups_flatMap_of_forall (nodup_entries h.shaped he hs hposition) ?_ ?_
    · intro row hrow
      cases ha : (row[s.parent]?).join with
      | none =>
        rw [column, ha]
        exact Or.inl rfl
      | some a =>
        have hget := join_eq_some.1 ha
        rw [hcolumn row a hget]
        by_cases heq : a.1 = e.1
        · have hdenotes := (chosen_of_mem_levels_take hs hrow).2.denotes _ a hget
          rw [if_pos heq, hdenotes.unique h.keys h.shaped he heq]
          exact Or.inr rfl
        · exact Or.inl (if_neg heq)
    · obtain ⟨row, hrow, hget⟩ := exists_mem_levels_take h he hid hs hposition
      exact ⟨row, hrow, by rw [hcolumn row _ hget, if_pos rfl]⟩
  · exact hlength
  · intro row hrow
    obtain ⟨r, hr, hmap⟩ := List.mem_flatMap.1 hrow
    obtain ⟨c, -, rfl⟩ := List.mem_map.1 hmap
    rw [List.length_append, hlength r hr]
    exact Nat.lt_succ_self _

/-! ## The objects -/

theorem type?_eq (id : Identity) :
    id.type? root chain.links = (chain.types root)[id.position]? := by
  cases id with
  | root mark => rfl
  | under parent j mark =>
    rw [Identity.type?, Identity.position, Chain.types, List.getElem?_cons_succ, Chain.links,
      List.getElem?_map, List.getElem?_map]
    cases chain[j]? <;> rfl

/-- The children of an identity are those of its object, by the steps from its position. -/
theorem exists_of_mem_children (h : Flattenable root chain layout split roots) {position : Nat}
    {e : Entry} (he : Denotes root chain roots position e) {c : Identity}
    (hc : c ∈ e.1.children
      (distinct (occurrences root chain.links split (flatten chain layout roots)))) :
    ∃ j s o, chain[j]? = some s ∧ s.parent = position ∧ o ∈ e.2.childrenAt s.navigation.cell ∧
      c = .under e.1 j (s.markOf o) := by
  obtain ⟨hmem, hparent⟩ := List.mem_filter.1 hc
  obtain ⟨-, -, k, o, -, hdenotes⟩ := exists_of_mem_distinct h hmem
  rw [decide_eq_true_eq] at hparent
  cases hdenotes with
  | root ho => cases hparent
  | @under position' j e' s _ he' hs hposition ho =>
    obtain rfl := he'.unique h.keys h.shaped he (Option.some.inj hparent)
    exact ⟨j, s, o, hs, by rw [hposition, ← he'.position_eq, he.position_eq], ho, rfl⟩

/-- At the place of a step stand the children by that step, as no other step fills the place. -/
theorem filter_isAt (h : Flattenable root chain layout split roots) {position : Nat} {e : Entry}
    (he : Denotes root chain roots position e)
    (hid : e.1 ∈ distinct (occurrences root chain.links split (flatten chain layout roots)))
    {j : Nat} {s : Step} (hs : chain[j]? = some s) (hposition : s.parent = position) :
    (e.1.children (distinct (occurrences root chain.links split (flatten chain layout roots)))).filter
        (Identity.isAt chain s.navigation.cell) = (chain.entries j e).map Prod.fst := by
  rw [← children_flatten h he hid hs hposition, Identity.children, List.filter_filter]
  refine List.filter_congr fun c hc => ?_
  by_cases hparent : c.parent? = some e.1
  · obtain ⟨i, s', o, hs', hposition', -, rfl⟩ := exists_of_mem_children h he
      (List.mem_filter.2 ⟨hc, decide_eq_true hparent⟩)
    have hcell : (s'.navigation.cell == s.navigation.cell) = (i == j) := by
      rw [Bool.eq_iff_iff, beq_iff_eq, beq_iff_eq]
      constructor
      · exact h.valid.cells i j s' s hs' hs (hposition'.trans hposition.symm)
      · rintro rfl
        rw [hs, Option.some.injEq] at hs'
        rw [hs']
    simp [Identity.isAt, Identity.cell?, hs', Identity.position, hcell]
  · simp [hparent]

/-- An object has nothing at a place that no step from its position fills. -/
theorem childrenAt_eq_nil {position : Nat} {o : Object} (h : Shaped root chain layout position o)
    {cell : Cell} (hcell : ∀ s ∈ chain, s.parent = position → s.navigation.cell ≠ cell) :
    o.childrenAt cell = [] := by
  obtain ⟨-, -, -, -, -, places, -, -, -⟩ := h
  rw [Object.childrenAt, List.map_eq_nil_iff, List.filter_eq_nil_iff]
  intro a ha hat
  obtain ⟨s, hs, hposition, hplace⟩ := places a ha
  rw [beq_iff_eq] at hat
  exact hcell s hs hposition (hplace.symm.trans hat)

theorem filter_isAt_eq_nil (h : Flattenable root chain layout split roots) {position : Nat}
    {e : Entry} (he : Denotes root chain roots position e) {cell : Cell}
    (hcell : ∀ s ∈ chain, s.parent = position → s.navigation.cell ≠ cell) :
    (e.1.children (distinct (occurrences root chain.links split (flatten chain layout roots)))).filter
      (Identity.isAt chain cell) = [] := by
  rw [List.filter_eq_nil_iff]
  intro c hc hat
  obtain ⟨j, s, o, hs, hposition, -, rfl⟩ := exists_of_mem_children h he hc
  simp only [Identity.isAt, Identity.cell?, hs, Option.map_some, beq_iff_eq,
    Option.some.injEq] at hat
  exact hcell s (List.mem_of_getElem? hs) hposition hat

/-- In an assembled graph the object given to an identity is like the one in the forest. -/
theorem alike_of_assembled (h : Flattenable root chain layout split roots)
    {whole : Identity → Object}
    (hwhole : Assembled root chain.links
      (occurrences root chain.links split (flatten chain layout roots)) whole)
    {position : Nat} {o : Object} (hshaped : Shaped root chain layout position o) :
    ∀ {id : Identity}, Denotes root chain roots position (id, o) →
      id ∈ distinct (occurrences root chain.links split (flatten chain layout roots)) →
      Object.Alike o (whole id) := by
  -- down the object: the children of its children are alike by induction
  induction hshaped with
  | @mk position o t columns type reads names width present places single keys children ih =>
    intro id hdenotes hid
    obtain ⟨part, type', object, hlookup, htype, hread, hfold⟩ := hwhole id hid
    rw [type?_eq, hdenotes.position_eq, type, Option.some.injEq] at htype
    rw [← htype, lookup_eq_part h hdenotes hlookup, reads, Except.ok.injEq] at hread
    subst hread
    obtain ⟨htype', hrow, hchildren⟩ := childrenAt_foldlM _ hfold
    refine Object.Alike.mk htype'.symm hrow.symm fun cell => ?_
    by_cases hstep : ∃ s ∈ chain, s.parent = position ∧ s.navigation.cell = cell
    · obtain ⟨s, hs, hposition, rfl⟩ := hstep
      obtain ⟨j, hs⟩ := List.mem_iff_getElem?.1 hs
      have hat := filter_isAt h hdenotes hid hs hposition
      rw [hchildren s.navigation.cell]
      · rw [Object.childrenAt_bare, List.nil_append, hat, entries_of_step hs, List.map_map,
          List.map_map, List.forall₂_map_right_iff, List.forall₂_same]
        intro c hc
        refine ih j s hs hposition c hc (Denotes.under hdenotes hs hposition hc) ?_
        have hmem : Identity.under id j (s.markOf c) ∈ (chain.entries j (id, o)).map Prod.fst := by
          rw [entries_of_step hs, List.map_map]
          exact List.mem_map_of_mem hc
        rw [← hat] at hmem
        exact (List.mem_filter.1 (List.mem_filter.1 hmem).1).1
      · intro hone
        rw [hat, Object.childrenAt_bare, List.length_map, entries_of_step hs, List.length_map,
          List.length_nil, Nat.zero_add]
        exact single s (List.mem_of_getElem? hs) hposition hone
    · -- a place that no step fills is empty on both sides
      have hcell : ∀ s ∈ chain, s.parent = position → s.navigation.cell ≠ cell :=
        fun s hs hposition heq => hstep ⟨s, hs, hposition, heq⟩
      have hleft : o.childrenAt cell = [] := childrenAt_eq_nil
        (Shaped.mk type reads names width present places single keys children) hcell
      have hright := filter_isAt_eq_nil h hdenotes hcell
      rw [hleft, hchildren cell, hright]
      · exact List.Forall₂.nil
      · intro _
        rw [hright, Object.childrenAt_bare]
        exact Nat.zero_le 1

/-! ## Assembling succeeds -/

/-- Does the link find nothing in a part, or an object that can be read? -/
def Link.Accepts (l : Link) (part : Row) : Prop :=
  part.isAbsent = true ∨ ∃ o, l.child.read part = .ok o

theorem placeLink_isOk {l : Link} {part : Row} (h : l.Accepts part) (f : Forest) (index : Nat)
    (nodes : List (Option Nat)) : ∃ r, f.placeLink l index part nodes = .ok r := by
  rw [Forest.placeLink]
  split
  · exact ⟨_, rfl⟩
  · next parent _ =>
    split
    · exact ⟨_, rfl⟩
    · next hpresent =>
      obtain ⟨o, ho⟩ := h.resolve_left hpresent
      suffices ∃ r, f.placeChild l ⟨parent, index⟩ part = .ok r by
        obtain ⟨r, hr⟩ := this
        rw [hr]
        exact ⟨_, rfl⟩
      rw [Forest.placeChild]
      split
      · split
        · exact ⟨_, rfl⟩
        · rw [ho]
          exact ⟨_, rfl⟩
      · rw [ho]
        exact ⟨_, rfl⟩

theorem placeLinks_isOk (row : Row) (links : List Link) :
    ∀ (ranges : List (Nat × Nat)) (index : Nat) (nodes : List (Option Nat)) (f : Forest),
      (∀ a ∈ links.zip ranges, a.1.Accepts (row.slice a.2.1 a.2.2)) →
      ∃ f', Forest.placeLinks row links ranges index nodes f = .ok f' := by
  induction links with
  | nil =>
    intro ranges index nodes f _
    exact ⟨f, by cases ranges <;> rfl⟩
  | cons l links ih =>
    intro ranges index nodes f h
    cases ranges with
    | nil => exact ⟨f, rfl⟩
    | cons range ranges =>
      obtain ⟨⟨node, f'⟩, hplace⟩ := placeLink_isOk (h (l, range) List.mem_cons_self) f index nodes
      rw [Forest.placeLinks, hplace]
      exact ih ranges (index + 1) (nodes ++ [node]) f' fun a ha => h a (List.mem_cons_of_mem _ ha)

theorem placeRow_isOk {links : List Link} {row : Row} {ranges : List (Nat × Nat)}
    (hranges : split.ranges row.width = .ok ranges)
    (hroot : ∀ part ∈ (split.parts row).head?, ∃ o, root.read part = .ok o)
    (hlinks : ∀ a ∈ links.zip (split.parts row).tail, a.1.Accepts a.2) (f : Forest) :
    ∃ f', Forest.placeRow root links split f row = .ok f' := by
  have hparts : split.parts row = ranges.map fun range => row.slice range.1 range.2 := by
    rw [SplitPlan.parts, hranges]
  rw [Forest.placeRow, hranges]
  cases ranges with
  | nil => exact ⟨f, rfl⟩
  | cons range ranges =>
    rw [hparts] at hroot hlinks
    obtain ⟨o, ho⟩ := hroot _ rfl
    have hplaced := placeLinks_isOk row links ranges 0
      [some (f.place none (root.key? o) o).1] (f.place none (root.key? o) o).2 fun a ha => by
        refine hlinks (a.1, row.slice a.2.1 a.2.2) ?_
        rw [List.map_cons, List.tail_cons, List.zip_map_right]
        exact List.mem_map.2 ⟨a, ha, rfl⟩
    simp only [bind, Except.bind, ho]
    exact hplaced

/-- The step: the row of an entry list can be placed into any forest. -/
theorem placeRow_entryRow_isOk (h : Flattenable root chain layout split roots) {row : List (Option Entry)}
    (hrow : row ∈ chain.entryRows root roots) (f : Forest) :
    ∃ f', Forest.placeRow root chain.links split f (layout.row (forget row)) = .ok f' := by
  obtain ⟨-, hchosen⟩ := chosen_of_mem_entryRows hrow
  obtain ⟨hranges, hparts⟩ := parts_of_mem_entryRows h hrow
  have hslot : ∀ k, (layout.slots 0 (forget row))[k]? = (row[k]?).map fun c =>
      layout.slot k (c.map Prod.snd) := by
    intro k
    rw [Layout.getElem?_slots, forget, List.getElem?_map, Option.map_map, Nat.zero_add]
    rfl
  refine placeRow_isOk hranges ?_ ?_ f
  · intro part hpart
    obtain ⟨o, ho⟩ := hchosen.first
    obtain ⟨type, reads, -, -, -, -, -, -, -⟩ := (hchosen.denotes 0 _ ho).shaped h.shaped
    rw [Chain.types, List.getElem?_cons_zero, Option.some.injEq] at type
    rw [hparts, List.head?_eq_getElem?, hslot, ho, Option.map_some, Option.mem_some_iff] at hpart
    subst type hpart
    exact ⟨_, reads⟩
  · intro a ha
    obtain ⟨j, hj⟩ := List.mem_iff_getElem?.1 ha
    obtain ⟨hl, hpart⟩ := List.getElem?_zip_eq_some.1 hj
    rw [Chain.links, List.getElem?_map, Option.map_eq_some_iff] at hl
    obtain ⟨s, hs, hl⟩ := hl
    rw [hparts, List.getElem?_tail, hslot, Option.map_eq_some_iff] at hpart
    obtain ⟨c, hc, hpart⟩ := hpart
    rw [← hl, ← hpart]
    -- nothing is placed for a part that no object was chosen for, and an object's part can be read
    cases c with
    | none => exact Or.inl (Layout.isAbsent_slot_none _)
    | some e =>
      obtain ⟨type, reads, -, -, -, -, -, -, -⟩ := (hchosen.denotes _ e hc).shaped h.shaped
      rw [Chain.getElem?_types_succ hs, Option.some.injEq] at type
      subst type
      exact Or.inr ⟨_, reads⟩

/-- The run: the rows of a flattened forest can all be placed. -/
theorem ofRows_flatten_isOk (h : Flattenable root chain layout split roots) :
    ∃ f, Forest.ofRows root chain.links split (flatten chain layout roots) = .ok f := by
  have hplace : ∀ row ∈ chain.entryRows root roots, ∀ f,
      ∃ f', Forest.placeRow root chain.links split f (layout.row (forget row)) = .ok f' :=
    fun _ hrow => placeRow_entryRow_isOk h hrow
  rw [Forest.ofRows, flatten_eq_map_entryRows root]
  -- over the rows still to come, from whatever forest the others have left
  generalize chain.entryRows root roots = rows at hplace
  generalize ({} : Forest) = f
  induction rows generalizing f with
  | nil => exact ⟨f, rfl⟩
  | cons row rows ih =>
    obtain ⟨f', hf'⟩ := hplace row List.mem_cons_self f
    obtain ⟨f'', hf''⟩ := ih (fun r hr => hplace r (List.mem_cons_of_mem _ hr)) f'
    exact ⟨f'', by rw [List.map_cons, List.foldlM_cons, hf']; exact hf''⟩

theorem Navigation.attaches (s : Step) : s.link.Attaches s.navigation.owner := by
  intro parent child hparent hchild
  exact ⟨parent.attach s.navigation.cell child, Navigation.setter_eq_ok hparent hchild,
    by rw [Object.attach_type, hparent]⟩

theorem attachable_flatten (h : Flattenable root chain layout split roots) :
    Attachable root chain.links
      (distinct (occurrences root chain.links split (flatten chain layout roots))) := by
  intro parent j mark hmem
  obtain ⟨-, -, k, o, -, hdenotes⟩ := exists_of_mem_distinct h hmem
  cases hdenotes with
  | @under position _ e s c he hs hposition hc =>
    obtain ⟨t, ht, howner⟩ := h.valid.owners j s hs
    refine ⟨s.link, t, ?_, ?_, howner ▸ Navigation.attaches s⟩
    · rw [Chain.links, List.getElem?_map, hs]
      rfl
    · rw [type?_eq, he.position_eq, ← hposition, ht]

theorem ofJoinsFrom_of_follows (hvalid : chain.IsValid root) {joins : List Join} {rest : Chain}
    (hjoins : List.Forall₂ Join.Follows joins rest) :
    ∀ done : Chain, chain = done ++ rest →
      Link.ofJoinsFrom ((done.types root).map (·.id)) joins = .ok rest.links := by
  induction hjoins with
  | nil =>
    intro done _
    rfl
  | @cons join s joins rest hjoin _ ih =>
    intro done hchain
    have hs : chain[done.length]? = some s := by
      rw [hchain, List.getElem?_append_right (Nat.le_refl _), Nat.sub_self]
      rfl
    have hle := hvalid.parents _ s hs
    obtain ⟨t, ht, howner⟩ := hvalid.owners _ s hs
    have htypes : (done.types root)[s.parent]? = some t := by
      rw [← ht, hchain, Chain.types, Chain.types, List.map_append, ← List.cons_append]
      refine (List.getElem?_append_left ?_).symm
      rw [List.length_cons, List.length_map]
      exact Nat.lt_succ_of_le hle
    have hparent : ((done.types root).map (·.id))[s.parent]? = some s.navigation.owner := by
      rw [List.getElem?_map, htypes, Option.map_some, howner]
    have hnext : (done.types root).map (·.id) ++ [s.navigation.child.id] =
        (Chain.types root (done ++ [s])).map (·.id) := by
      simp [Chain.types]
    have hrest := ih (done ++ [s]) (by rw [hchain, List.append_assoc]; rfl)
    rw [Link.ofJoinsFrom, hjoin.binding]
    simp only [hjoin.parent, hjoin.cardinality, hparent, if_true, hnext, hrest]
    rfl

theorem ofJoins_of_follows (h : Flattenable root chain layout split roots) {joins : List Join}
    (hjoins : List.Forall₂ Join.Follows joins chain) :
    Link.ofJoins root joins split = .ok chain.links := by
  have hpoints : split.points.length = joins.length := by
    have hranges := SplitPlan.length_of_ranges h.ranges
    rw [length_cuts, Layout.widths, List.length_map, h.names, ← hjoins.length_eq] at hranges
    exact (Nat.succ.inj hranges).symm
  rw [Link.ofJoins, if_neg (not_not_intro hpoints)]
  exact ofJoinsFrom_of_follows h.valid hjoins [] rfl

/-- Without joins an object has nothing below it. -/
theorem alike_of_mem_roots (h : Flattenable root [] layout split roots) {o : Object}
    (ho : o ∈ roots) : root.read (layout.row [some o]) = .ok (.bare o.type o.row) ∧
      Object.Alike o (.bare o.type o.row) := by
  obtain ⟨type, reads, -, -, -, -, -, -, -⟩ := h.shaped o ho
  rw [Chain.types, List.getElem?_cons_zero, Option.some.injEq] at type
  subst type
  refine ⟨?_, Object.Alike.mk rfl rfl fun cell => ?_⟩
  · rw [Layout.row, Layout.slots, Layout.slots, List.flatMap_singleton]
    exact reads
  · have hnil : o.childrenAt cell = [] := childrenAt_eq_nil (h.shaped o ho) fun s hs =>
      absurd hs List.not_mem_nil
    rw [hnil]
    exact List.Forall₂.nil

/-- The forest comes back from the rows that its joined tables have. -/
theorem assemble_flatten (h : Flattenable root chain layout split roots) {joins : List Join}
    (hjoins : List.Forall₂ Join.Follows joins chain) :
    ∃ objects, root.assemble joins split (flatten chain layout roots) = .ok objects ∧
      List.Forall₂ Object.Alike roots objects := by
  cases hjoins with
  | nil =>
    refine ⟨roots.map fun o => .bare o.type o.row, ?_, ?_⟩
    · have hrows : flatten [] layout roots = roots.map fun o => layout.row [some o] :=
        (List.map_eq_flatMap ..).symm
      rw [ObjectType.assemble, if_pos List.isEmpty_nil, ObjectType.readAll, hrows, List.mapM_map]
      exact mapM_eq_ok fun o ho => (alike_of_mem_roots h ho).1
    · rw [List.forall₂_map_right_iff, List.forall₂_same]
      exact fun o ho => (alike_of_mem_roots h ho).2
  | @cons join s joins rest hjoin hrest =>
    have hlinks := ofJoins_of_follows h (List.Forall₂.cons hjoin hrest)
    obtain ⟨f, hf⟩ := ofRows_flatten_isOk h
    have hrep := ofRows_represents hf
    obtain ⟨objects, hobjects⟩ := roots_isOk hrep (attachable_flatten h)
    obtain ⟨whole, hwhole⟩ := assembled_of_roots hrep hobjects
    refine ⟨objects, ?_, ?_⟩
    · rw [ObjectType.assemble, if_neg (by simp), hlinks]
      simp only [bind, Except.bind, hf, hobjects]
    · rw [roots_of_assembled hrep hwhole, rootIdentities_flatten h, List.map_map,
        Except.ok.injEq] at hobjects
      rw [← hobjects, List.forall₂_map_right_iff, List.forall₂_same]
      intro o ho
      refine alike_of_assembled h hwhole (h.shaped o ho) (Denotes.root ho) ?_
      have hroot : (root.rootEntry o).1 ∈ rootIdentities
          (occurrences root (Chain.links (s :: rest)) split (flatten (s :: rest) layout roots)) := by
        rw [rootIdentities_flatten h]
        exact List.mem_map_of_mem ho
      exact (List.mem_filter.1 hroot).1

end Forest

/-! ## Clubs with members and cards -/

namespace Clubs

/-- The joins to the members and their cards as steps. -/
def chain : Chain := [⟨0, members⟩, ⟨1, card⟩]

/-- One column for each table. -/
def layout : Layout := ⟨[["Id"], ["Id"], ["Id"]], fun _ o => o.row⟩

/-- A card. -/
def cardOf (id : Value) : Object := .bare 2 (columns id)

/-- A member with or without a card. -/
def memberOf (id : Value) (cards : List Object) : Object :=
  .mk 1 (columns id) (cards.map fun c => (card.cell, c))

/-- A club with members. -/
def clubOf (id : Value) (ms : List Object) : Object :=
  .mk 0 (columns id) (ms.map fun m => (members.cell, m))

/-- A club with two members, one of them with a card, and an empty club. -/
def forest : List Object :=
  [clubOf (.int 1) [memberOf (.int 11) [cardOf (.int 5)], memberOf (.int 10) []],
    clubOf (.int 2) []]

theorem isValid_chain : chain.IsValid (keyed 0 "Club") where
  parents := by
    rintro (_ | _ | j) s ⟨⟩ <;> decide
  owners := by
    rintro (_ | _ | j) s ⟨⟩
    · exact ⟨keyed 0 "Club", rfl, rfl⟩
    · exact ⟨keyed 1 "Member", rfl, rfl⟩
  cells := by
    rintro (_ | _ | i) (_ | _ | j) a b ⟨⟩ ⟨⟩ hparent hcell <;> first | rfl | cases hparent

theorem shaped_card (n : Int64) :
    Shaped (keyed 0 "Club") chain layout 2 (cardOf (.int n)) := by
  refine Shaped.mk rfl rfl rfl rfl rfl ?_ ?_ ?_ ?_
  · simp [cardOf, Object.bare, Object.attached]
  · simp [chain]
  · simp [chain]
  · rintro (_ | _ | j) s ⟨⟩ hparent <;> cases hparent

theorem shaped_member (n : Int64) {cards : List Object} (hlength : cards.length ≤ 1)
    (hcards : ∀ c ∈ cards, Shaped (keyed 0 "Club") chain layout 2 c) :
    Shaped (keyed 0 "Club") chain layout 1 (memberOf (.int n) cards) := by
  have hat : (memberOf (.int n) cards).childrenAt card.cell = cards := by
    simp [memberOf, Object.childrenAt, Object.attached, List.filter_map, Function.comp_def]
  refine Shaped.mk rfl rfl rfl rfl rfl ?_ ?_ ?_ ?_
  · simp [chain, memberOf, Object.attached]
  · simp [chain, hat, hlength]
  · simp [chain, card]
  · rintro (_ | _ | j) s ⟨⟩ hparent
    · cases hparent
    · rw [hat]
      exact hcards

theorem shaped_club (n : Int64) {ms : List Object} (hkeys : HaveDistinctKeys (keyed 1 "Member") ms)
    (hms : ∀ m ∈ ms, Shaped (keyed 0 "Club") chain layout 1 m) :
    Shaped (keyed 0 "Club") chain layout 0 (clubOf (.int n) ms) := by
  have hat : (clubOf (.int n) ms).childrenAt members.cell = ms := by
    simp [clubOf, Object.childrenAt, Object.attached, List.filter_map, Function.comp_def]
  refine Shaped.mk rfl rfl rfl rfl rfl ?_ ?_ ?_ ?_
  · simp [chain, clubOf, Object.attached]
  · simp [chain, members]
  · simp only [chain, List.mem_cons, List.not_mem_nil, or_false, forall_eq_or_imp, forall_eq, hat]
    refine ⟨fun _ _ => hkeys, fun hparent => ?_⟩
    cases hparent
  · rintro (_ | _ | j) s ⟨⟩ hparent
    · rw [hat]
      exact hms
    · cases hparent

theorem flattenable : Flattenable (keyed 0 "Club") chain layout split forest where
  valid := isValid_chain
  names := rfl
  ranges := rfl
  keys := by
    refine ⟨?_, by decide⟩
    simp only [forest, List.mem_cons, List.not_mem_nil, or_false, forall_eq_or_imp, forall_eq]
    exact ⟨nofun, nofun⟩
  shaped := by
    have hmembers : ∀ m ∈ [memberOf (.int 11) [cardOf (.int 5)], memberOf (.int 10) []],
        Shaped (keyed 0 "Club") chain layout 1 m := by
      simp only [List.mem_cons, List.not_mem_nil, or_false, forall_eq_or_imp, forall_eq]
      exact ⟨shaped_member 11 (Nat.le_refl 1) (by simpa using shaped_card 5),
        shaped_member 10 (Nat.zero_le 1) (by simp)⟩
    simp only [forest, List.mem_cons, List.not_mem_nil, or_false, forall_eq_or_imp, forall_eq]
    refine ⟨shaped_club 1 ⟨?_, by decide⟩ hmembers, shaped_club 2 ⟨by simp, List.nodup_nil⟩ (by simp)⟩
    simp only [List.mem_cons, List.not_mem_nil, or_false, forall_eq_or_imp, forall_eq]
    exact ⟨nofun, nofun⟩

end Clubs

open Clubs in
theorem assemble_flatten_clubs :
    Flattenable (keyed 0 "Club") chain layout split forest ∧
      List.Forall₂ Join.Follows joins chain ∧
      ∃ objects, (keyed 0 "Club").assemble joins split (flatten chain layout forest) = .ok objects ∧
        List.Forall₂ Object.Alike forest objects :=
  have hjoins : List.Forall₂ Join.Follows joins chain := by
    exact List.Forall₂.cons ⟨rfl, rfl, rfl⟩ (List.Forall₂.cons ⟨rfl, rfl, rfl⟩ List.Forall₂.nil)
  ⟨flattenable, hjoins, assemble_flatten flattenable hjoins⟩

end Rowgraph
