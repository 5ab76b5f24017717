import Rowgraph.Proofs.Graph.Flatten
import Rowgraph.Proofs.Graph.Placed

/-!
# Chosen objects and their identities

The rows of a flattened forest, each object with the identity that it has among them (`Entry`). The
identity of an object says where it was reached and by which key, so it belongs to one object of the
forest only (`Denotes.unique`), and the joins of a row choose children of what they chose before
(`Chosen`). What occurs in the rows is then exactly what was chosen (`occurrences_flatten`).
-/

set_option autoImplicit false

namespace Rowgraph

/-- An object of a forest, with its identity. -/
abbrev Entry := Identity × Object

/-- The mark of an object by its key. -/
def ObjectType.markOf (t : ObjectType) (o : Object) : Mark := (t.key? o).elim .only .key

namespace Step

/-- The link that assembling makes of the step. -/
def link (s : Step) : Link :=
  ⟨s.parent, s.navigation.cardinality, s.navigation.child, s.navigation.setter⟩

/-- The mark of an object behind a step. -/
def markOf (s : Step) (o : Object) : Mark :=
  match s.navigation.cardinality with
  | .one => .only
  | .many => s.navigation.child.markOf o

end Step

/-- A root with its identity. -/
def ObjectType.rootEntry (root : ObjectType) (o : Object) : Entry := (.root (root.markOf o), o)

/-- The links that assembling makes of a chain. -/
def Chain.links (chain : Chain) : List Link := chain.map Step.link

/-- The children of an object by a step, with their identities. -/
def Chain.entries (chain : Chain) (step : Nat) (e : Entry) : List Entry :=
  match chain[step]? with
  | none => []
  | some s => (chain.children step e.2).map fun c => (.under e.1 step (s.markOf c), c)

/-- Does the entry stand at a position of a forest? -/
inductive Denotes (root : ObjectType) (chain : Chain) (roots : List Object) : Nat → Entry → Prop
  | root {o : Object} (h : o ∈ roots) : Denotes root chain roots 0 (root.rootEntry o)
  | under {position j : Nat} {e : Entry} {s : Step} {c : Object}
      (parent : Denotes root chain roots position e) (step : chain[j]? = some s)
      (position : s.parent = position) (child : c ∈ e.2.childrenAt s.navigation.cell) :
      Denotes root chain roots (j + 1) (.under e.1 j (s.markOf c), c)

/-- The rows of a forest, each object with its identity. -/
def Chain.entryRows (chain : Chain) (root : ObjectType) (roots : List Object) :
    List (List (Option Entry)) :=
  levels chain.entries chain.parents 0 (roots.map fun o => [some (root.rootEntry o)])

/-- The objects of a row without their identities. -/
def forget (row : List (Option Entry)) : List (Option Object) := row.map (Option.map Prod.snd)

/-- The columns of entries are those of their objects. -/
theorem flatten_eq_map_entryRows (root : ObjectType) (chain : Chain) (layout : Layout)
    (roots : List Object) :
    flatten chain layout roots =
      (chain.entryRows root roots).map fun row => layout.row (forget row) := by
  have hchildren : ∀ k (e : Entry), (chain.entries k e).map Prod.snd = chain.children k e.2 := by
    intro k e
    rw [Chain.entries]
    cases hs : chain[k]? with
    | none => simp [Chain.children, hs]
    | some s => simp [List.map_map, Function.comp_def]
  rw [Chain.entryRows, ← flatMap_leftJoin, List.map_flatMap, List.flatMap_map, flatten]
  refine List.flatMap_congr fun o _ => ?_
  have hrow : ([some (root.rootEntry o)] : List (Option Entry)).map (Option.map Prod.snd) =
      [some o] := rfl
  rw [← hrow, ← leftJoin_map Prod.snd hchildren, List.map_map]
  rfl

section Forest

variable {root : ObjectType} {chain : Chain} {layout : Layout} {roots : List Object}

/-! ## One object for each identity -/

theorem key_eq_of_markOf_eq {t : ObjectType} {objects : List Object}
    (h : HaveDistinctKeys t objects) {a b : Object} (ha : a ∈ objects) (hb : b ∈ objects)
    (hmark : t.markOf a = t.markOf b) : a = b := by
  have hkey : t.key? a = t.key? b := by
    rw [ObjectType.markOf, ObjectType.markOf] at hmark
    cases hka : t.key? a with
    | none => exact absurd hka (h.1 a ha)
    | some ka =>
      cases hkb : t.key? b with
      | none => exact absurd hkb (h.1 b hb)
      | some kb =>
        rw [hka, hkb] at hmark
        exact congrArg some (Mark.key.inj hmark)
  exact List.inj_on_of_nodup_map h.2 ha hb hkey

namespace Denotes

variable {position : Nat} {e : Entry}

theorem position_eq (h : Denotes root chain roots position e) : e.1.position = position := by
  cases h with
  | root h => rfl
  | under parent step position child => rfl

/-- What stands at a position of a forest has the shape of the chain from there. -/
theorem shaped (h : Denotes root chain roots position e)
    (hroots : ∀ o ∈ roots, Shaped root chain layout 0 o) : Shaped root chain layout position e.2 := by
  induction h with
  | root h => exact hroots _ h
  | under parent step position child ih =>
    obtain ⟨-, -, -, -, -, -, -, -, children⟩ := ih
    exact children _ _ step position _ child

/-- The identities of a forest each belong to one object. -/
theorem unique (h : Denotes root chain roots position e) (hkeys : HaveDistinctKeys root roots)
    (hroots : ∀ o ∈ roots, Shaped root chain layout 0 o) {other : Entry} {position' : Nat}
    (h' : Denotes root chain roots position' other) (hid : e.1 = other.1) : e = other := by
  induction h generalizing other position' with
  | @root o h =>
    cases h' with
    | @root o' h' =>
      have hmark : root.markOf o = root.markOf o' := Identity.root.inj hid
      rw [key_eq_of_markOf_eq hkeys h h' hmark]
    | under parent step position child => cases hid
  | @under position j e s c parent step hposition child ih =>
    cases h' with
    | root h' => cases hid
    | @under position' j' e' s' c' parent' step' hposition' child' =>
      obtain ⟨hparent, rfl, hmark⟩ := Identity.under.inj hid
      obtain rfl := ih parent' hparent
      rw [step, Option.some.injEq] at step'
      subst step'
      suffices c = c' by rw [this]
      have hshaped := parent.shaped hroots
      obtain ⟨-, -, -, -, -, -, single, keys, -⟩ := hshaped
      have hs : s ∈ chain := List.mem_of_getElem? step
      cases hcard : s.navigation.cardinality with
      | one =>
        -- behind a reference there is at most one child
        have hlength := single s hs hposition hcard
        obtain ⟨only, honly⟩ := List.length_eq_one_iff.1
          (Nat.le_antisymm hlength (List.length_pos_of_mem child))
        rw [honly, List.mem_singleton] at child child'
        rw [child, child']
      | many =>
        -- behind a collection the children have different keys
        simp only [Step.markOf, hcard] at hmark
        exact key_eq_of_markOf_eq (keys s hs hposition hcard) child child' hmark

end Denotes

theorem mem_entries {j : Nat} {e : Entry} {child : Entry} (h : child ∈ chain.entries j e) :
    ∃ s c, chain[j]? = some s ∧ c ∈ e.2.childrenAt s.navigation.cell ∧
      child = (.under e.1 j (s.markOf c), c) := by
  rw [Chain.entries] at h
  cases hs : chain[j]? with
  | none => simp [hs] at h
  | some s =>
    simp only [hs, Chain.children] at h
    obtain ⟨c, hc, rfl⟩ := List.mem_map.1 h
    exact ⟨s, c, rfl, hc, rfl⟩

/-! ## Rows -/

/-- Are the entries of a row chosen along the chain? The row may end before the chain does. -/
structure Chosen (root : ObjectType) (chain : Chain) (roots : List Object)
    (row : List (Option Entry)) : Prop where
  first : ∃ o, row[0]? = some (some (root.rootEntry o))
  denotes : ∀ k e, row[k]? = some (some e) → Denotes root chain roots k e
  below : ∀ j s e, chain[j]? = some s → row[j + 1]? = some (some e) →
    ∃ parent c, (row[s.parent]?).join = some parent ∧ e = (.under parent.1 j (s.markOf c), c)

theorem join_eq_some {row : List (Option Entry)} {k : Nat} {e : Entry} :
    (row[k]?).join = some e ↔ row[k]? = some (some e) := by
  rw [Option.join_eq_some_iff]

theorem Chosen.concat {row : List (Option Entry)} {j : Nat} {parent : Nat} {c : Option Entry}
    (h : Chosen root chain roots row) (hlength : row.length = j + 1)
    (hparent : chain.parents[j]? = some parent)
    (hc : c ∈ choices (chain.entries j) (row[parent]?).join) :
    Chosen root chain roots (row ++ [c]) := by
  -- a chosen child stands below what was chosen before
  have hnew : ∀ e, c = some e → ∃ s p o, chain[j]? = some s ∧ s.parent = parent ∧
      row[parent]? = some (some p) ∧ o ∈ p.2.childrenAt s.navigation.cell ∧
      e = (.under p.1 j (s.markOf o), o) := by
    rintro e rfl
    rcases mem_choices hc with hnone | ⟨p, child, hp, hchild, heq⟩
    · cases hnone
    · cases heq
      obtain ⟨s, o, hs, ho, rfl⟩ := mem_entries hchild
      rw [Chain.parents, List.getElem?_map, hs, Option.map_some, Option.some.injEq] at hparent
      exact ⟨s, p, o, hs, hparent, join_eq_some.1 hp, ho, rfl⟩
  refine ⟨?_, ?_, ?_⟩
  · obtain ⟨o, ho⟩ := h.first
    exact ⟨o, getElem?_concat_eq_some_iff.2 (Or.inl ho)⟩
  -- at every position the entry is an old one or the new one
  · intro k e hk
    rcases getElem?_concat_eq_some_iff.1 hk with hk | ⟨rfl, hce⟩
    · exact h.denotes k e hk
    · obtain ⟨s, p, o, hs, hsp, hp, ho, rfl⟩ := hnew e hce
      rw [hlength]
      exact Denotes.under (h.denotes parent p hp) hs hsp ho
  · intro i s e hs hi
    rcases getElem?_concat_eq_some_iff.1 hi with hi | ⟨hij, hce⟩
    · obtain ⟨p, o, hp, rfl⟩ := h.below i s e hs hi
      exact ⟨p, o, join_eq_some.2 (getElem?_concat_eq_some_iff.2 (Or.inl (join_eq_some.1 hp))), rfl⟩
    · obtain rfl : i = j := Nat.succ.inj (hij.trans hlength)
      obtain ⟨s', p, o, hs', hsp, hp, ho, rfl⟩ := hnew e hce
      rw [hs, Option.some.injEq] at hs'
      subst hs'
      exact ⟨p, o, join_eq_some.2 (getElem?_concat_eq_some_iff.2 (Or.inl (hsp ▸ hp))), rfl⟩

/-- The rows after some joins of a chain. -/
theorem chosen_of_mem_levels {parents : List Nat} (more : List Nat)
    (hparents : chain.parents = parents ++ more)
    {row : List (Option Entry)}
    (h : row ∈ levels chain.entries parents 0 (roots.map fun o => [some (root.rootEntry o)])) :
    row.length = parents.length + 1 ∧ Chosen root chain roots row := by
  rw [← Nat.zero_add parents.length]
  -- row by row: the root alone, and then one more choice at a time
  refine levels_induction (motive := fun k row => row.length = k + 1 ∧ Chosen root chain roots row)
    ?_ ?_ row h
  · intro first hfirst
    obtain ⟨o, ho, rfl⟩ := List.mem_map.1 hfirst
    refine ⟨rfl, ⟨o, rfl⟩, ?_, ?_⟩
    · rintro (_ | k) e hk
      · cases hk
        exact Denotes.root ho
      · cases hk
    · intro j s e _ hj
      cases hj
  · rintro k parent row c hk ⟨hlength, hrow⟩ hc
    rw [Nat.zero_add] at hlength hc ⊢
    have hparent : chain.parents[k]? = some parent := by
      rw [hparents]
      exact List.getElem?_append_left (List.getElem?_eq_some_iff.1 hk).1 ▸ hk
    exact ⟨by rw [List.length_append, hlength]; rfl, hrow.concat hlength hparent hc⟩

theorem chosen_of_mem_entryRows {row : List (Option Entry)} (h : row ∈ chain.entryRows root roots) :
    row.length = chain.length + 1 ∧ Chosen root chain roots row := by
  have hrow := chosen_of_mem_levels [] (List.append_nil _).symm h
  rwa [Chain.parents, List.length_map] at hrow

/-! ## Occurrences -/

/-- What occurs in a row from a position on, each identity with the part of its object. -/
def occurring (layout : Layout) : Nat → List (Option Entry) → List (Identity × Row)
  | _, [] => []
  | position, c :: rest =>
    (c.map fun e => (e.1, layout.part position e.2)).toList ++ occurring layout (position + 1) rest

theorem ofPart_eq_markOf {t : ObjectType} {part : Row} {o : Object} (n : Nat)
    (hread : t.read part = .ok (.bare o.type o.row)) (hkey : t.key? o ≠ none) :
    Mark.ofPart t n part = t.markOf o := by
  have hin : t.keyIn? part = t.key? o := by
    rw [ObjectType.keyIn?, hread]
    rfl
  rw [Mark.ofPart, hin, ObjectType.markOf]
  cases hk : t.key? o with
  | none => exact absurd hk hkey
  | some k => rfl

theorem Chain.getElem?_types_succ {j : Nat} {s : Step} (h : chain[j]? = some s) :
    (chain.types root)[j + 1]? = some s.navigation.child := by
  rw [Chain.types, List.getElem?_cons_succ, List.getElem?_map, h]
  rfl

theorem Denotes.mark_eq {j : Nat} {parent : Identity} {mark : Mark} {o : Object} {s : Step}
    (h : Denotes root chain roots (j + 1) (.under parent j mark, o)) (hs : chain[j]? = some s)
    (hroots : ∀ o ∈ roots, Shaped root chain layout 0 o) (n : Nat) :
    s.link.mark n (layout.part (j + 1) o) = mark := by
  have hshaped := h.shaped hroots
  cases h with
  | @under position j e s' c hparent step hposition child =>
    rw [hs, Option.some.injEq] at step
    subst step
    obtain ⟨-, -, -, -, -, -, -, keys, -⟩ := hparent.shaped hroots
    cases hcard : s.navigation.cardinality with
    | one => simp [Link.mark, Step.markOf, Step.link, hcard]
    | many =>
      simp only [Link.mark, Step.markOf, Step.link, hcard]
      obtain ⟨type, reads, -, -, -, -, -, -, -⟩ := hshaped
      rw [Chain.getElem?_types_succ hs, Option.some.injEq] at type
      subst type
      have hkeys := keys s (List.mem_of_getElem? hs) hposition hcard
      exact ofPart_eq_markOf n reads (hkeys.1 o child)

/-- The identity found at a position is the one of the object chosen for it, if there is one. -/
theorem identity?_slot (hvalid : chain.IsValid root)
    (hroots : ∀ o ∈ roots, Shaped root chain layout 0 o) {row before after : List (Option Entry)}
    (hrow : Chosen root chain roots row) (n : Nat) {j : Nat} {s : Step} (hs : chain[j]? = some s)
    {c : Option Entry} (hsplit : row = before ++ c :: after) (hbefore : before.length = j + 1) :
    s.link.identity? n j (layout.slot before.length (c.map Prod.snd))
      (before.map (Option.map Prod.fst)) = c.map Prod.fst := by
  have hc : row[j + 1]? = some c := by
    rw [hsplit, ← hbefore, List.getElem?_append_right (Nat.le_refl _), Nat.sub_self]
    rfl
  have hparent : (before.map (Option.map Prod.fst))[s.parent]?.join =
      ((row[s.parent]?).join).map Prod.fst := by
    have hle := hvalid.parents j s hs
    rw [hsplit, List.getElem?_append_left (by omega), List.getElem?_map]
    cases before[s.parent]? <;> rfl
  rw [Link.identity?, show s.link.parent = s.parent from rfl, hparent]
  cases c with
  | none =>
    rw [Option.map_none, Layout.isAbsent_slot_none]
    cases (row[s.parent]?).join <;> rfl
  | some e =>
    -- a chosen object has its parent in the row, and its part does not look absent
    obtain ⟨p, o, hp, rfl⟩ := hrow.below j s e hs hc
    have hdenotes := hrow.denotes _ _ hc
    obtain ⟨-, -, -, -, present, -, -, -, -⟩ := hdenotes.shaped hroots
    have hmark := hdenotes.mark_eq hs hroots n
    rw [hp, hbefore]
    simp only [Option.map_some, Layout.slot, present, Bool.false_eq_true, if_false, hmark]

/-- The identities at the positions behind those looked at are the ones of the chosen objects. -/
theorem occurrencesBelow_slots (hvalid : chain.IsValid root)
    (hroots : ∀ o ∈ roots, Shaped root chain layout 0 o) {row : List (Option Entry)}
    (hrow : Chosen root chain roots row) (n : Nat) (rest : Chain) :
    ∀ (done : Chain) (before after : List (Option Entry)), chain = done ++ rest →
      row = before ++ after → before.length = done.length + 1 → after.length = rest.length →
      occurrencesBelow n (rest.map Step.link) (layout.slots before.length (forget after)) done.length
          (before.map (Option.map Prod.fst)) =
        occurring layout before.length after := by
  induction rest with
  | nil =>
    intro done before after _ _ _ hafter
    rw [List.eq_nil_of_length_eq_zero hafter]
    rfl
  | cons s rest ih =>
    rintro done before (_ | ⟨c, after⟩) hchain hsplit hbefore hafter
    · cases hafter
    have hs : chain[done.length]? = some s := by
      rw [hchain, List.getElem?_append_right (Nat.le_refl _), Nat.sub_self]
      rfl
    have hhere := identity?_slot hvalid hroots hrow n hs hsplit hbefore
    have hstep := ih (done ++ [s]) (before ++ [c]) after (by rw [hchain, List.append_assoc]; rfl)
      (by rw [hsplit, List.append_assoc]; rfl) (by rw [List.length_append, hbefore]; simp)
      (Nat.succ.inj hafter)
    rw [List.length_append, List.length_append, List.map_append] at hstep
    rw [forget, List.map_cons, List.map_cons, Layout.slots, occurrencesBelow, occurring, hhere]
    refine congrArg₂ List.append ?_ hstep
    cases c with
    | none => rfl
    | some e => rfl

/-- What occurs in a row of the flattened forest does not depend on its number. -/
theorem occurrencesIn_slots (hvalid : chain.IsValid root)
    (hkeys : HaveDistinctKeys root roots) (hroots : ∀ o ∈ roots, Shaped root chain layout 0 o)
    {row : List (Option Entry)} (hlength : row.length = chain.length + 1)
    (hrow : Chosen root chain roots row) (n : Nat) :
    occurrencesIn root chain.links n (layout.slots 0 (forget row)) = occurring layout 0 row := by
  cases row with
  | nil => cases hlength
  | cons c after =>
    obtain ⟨o, ho⟩ := hrow.first
    obtain rfl : c = some (root.rootEntry o) := Option.some.inj ho
    have hdenotes := hrow.denotes 0 _ rfl
    have hmem : o ∈ roots := by
      generalize he : root.rootEntry o = e at hdenotes
      cases hdenotes with
      | root h =>
        rw [(Prod.mk.inj he).2]
        exact h
    obtain ⟨type, reads, -, -, -, -, -, -, -⟩ := hroots o hmem
    rw [Chain.types, List.getElem?_cons_zero, Option.some.injEq] at type
    subst type
    have hid : Identity.root (.ofPart root n (layout.slot 0 (some o))) = (root.rootEntry o).1 :=
      congrArg Identity.root (ofPart_eq_markOf n reads (hkeys.1 o hmem))
    have hbelow := occurrencesBelow_slots hvalid hroots hrow n chain [] [some (root.rootEntry o)]
      after rfl rfl rfl (Nat.succ.inj hlength)
    rw [forget, List.map_cons, Layout.slots, occurrencesIn, occurring]
    refine congrArg₂ List.cons ?_ ?_
    · exact congrArg₂ Prod.mk hid rfl
    · exact (congrArg (fun id => occurrencesBelow n chain.links
        (layout.slots (0 + 1) (forget after)) 0 [some id]) hid).trans hbelow

variable {split : SplitPlan}

theorem getElem?_forget {row : List (Option Entry)} {k : Nat} {o : Object}
    (h : (forget row)[k]? = some (some o)) : ∃ id, row[k]? = some (some (id, o)) := by
  rw [forget, List.getElem?_map, Option.map_eq_some_iff] at h
  obtain ⟨c, hc, hco⟩ := h
  obtain ⟨⟨id, o'⟩, rfl, rfl⟩ := Option.map_eq_some_iff.1 hco
  exact ⟨id, hc⟩

/-- The parts of a flattened row are those of the chosen objects. -/
theorem parts_of_mem_entryRows (h : Flattenable root chain layout split roots)
    {row : List (Option Entry)} (hrow : row ∈ chain.entryRows root roots) :
    split.ranges (layout.row (forget row)).width = .ok (cuts 0 layout.widths) ∧
      split.parts (layout.row (forget row)) = layout.slots 0 (forget row) := by
  obtain ⟨hlength, hchosen⟩ := chosen_of_mem_entryRows hrow
  refine Layout.parts_row h.ranges (Layout.map_width_slots ?_ ?_)
  · rw [forget, List.length_map, hlength, h.names]
  · intro k o columns ho hcolumns
    obtain ⟨id, hid⟩ := getElem?_forget ho
    obtain ⟨-, -, names, width, -, -, -, -, -⟩ := (hchosen.denotes k _ hid).shaped h.shaped
    rw [hcolumns, Option.some.injEq] at names
    rw [names]
    exact width

/-- Rows of which the numbers do not matter. -/
theorem occurrencesFrom_map {α : Type} {links : List Link} {rowOf : α → Row}
    {f : α → List (Identity × Row)} {as : List α}
    (h : ∀ a ∈ as, ∀ n, occurrencesIn root links n (split.parts (rowOf a)) = f a) :
    ∀ first, occurrencesFrom root links split first (as.map rowOf) = as.flatMap f := by
  induction as with
  | nil =>
    intro first
    rfl
  | cons a as ih =>
    intro first
    rw [List.map_cons, occurrencesFrom_cons, h a List.mem_cons_self, List.flatMap_cons,
      ih fun b hb => h b (List.mem_cons_of_mem _ hb)]

/-- What occurs in the rows of a flattened forest is what was chosen for them. -/
theorem occurrences_flatten (h : Flattenable root chain layout split roots) :
    occurrences root chain.links split (flatten chain layout roots) =
      (chain.entryRows root roots).flatMap (occurring layout 0) := by
  rw [occurrences, flatten_eq_map_entryRows root]
  refine occurrencesFrom_map (fun row hrow n => ?_) 0
  obtain ⟨hlength, hchosen⟩ := chosen_of_mem_entryRows hrow
  rw [(parts_of_mem_entryRows h hrow).2]
  exact occurrencesIn_slots h.valid h.keys h.shaped hlength hchosen n

end Forest

end Rowgraph
