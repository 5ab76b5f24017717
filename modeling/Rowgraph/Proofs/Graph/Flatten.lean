import Mathlib.Algebra.GroupWithZero.Nat
import Rowgraph.Proofs.Graph.Identity
import Rowgraph.Proofs.Graph.LeftJoin
import Rowgraph.Proofs.Split

/-!
# Flattened forests

What a query answers that joins the tables of a chain. The objects of a forest that has the shape of
the chain (`Shaped`) are chosen by a nested-loop left join, and each choice becomes a row: at every
position the columns of the object there, or NULLs where there is none (`flatten`). Two objects are
alike when they have the same type and the same members, and at every place alike objects in the same
order (`Object.Alike`).
-/

set_option autoImplicit false

namespace Rowgraph

/-- The objects at a place depend on the order among them, not on the order in which different places
were filled. -/
inductive Object.Alike : Object → Object → Prop
  | mk {a b : Object} (type : a.type = b.type) (row : a.row = b.row)
      (children : ∀ cell, List.Forall₂ Object.Alike (a.childrenAt cell) (b.childrenAt cell)) :
      Object.Alike a b

/-- One join of a chain: the position of the parents, and the navigation that leads to the children. -/
structure Step where
  parent : Nat
  navigation : Navigation

/-- The joins behind a root. -/
abbrev Chain := List Step

/-- Is the join bound to the step's navigation, with the setter that the navigation itself has? -/
structure Join.Follows (j : Join) (s : Step) : Prop where
  parent : j.parent = s.parent
  cardinality : j.cardinality = s.navigation.cardinality
  binding : j.binding = some ⟨s.navigation.owner, s.navigation.child, s.navigation.setter⟩

namespace Chain

/-- The positions of the parents. -/
def parents (chain : Chain) : List Nat := chain.map (·.parent)

/-- The types of the objects by position. -/
def types (root : ObjectType) (chain : Chain) : List ObjectType :=
  root :: chain.map (·.navigation.child)

/-- The children of an object by a step. -/
def children (chain : Chain) (step : Nat) (o : Object) : List Object :=
  match chain[step]? with
  | none => []
  | some s => o.childrenAt s.navigation.cell

/-- Does every step lead from a position before it, of the navigation's own type, and do no two steps
from one position fill the same place? -/
structure IsValid (root : ObjectType) (chain : Chain) : Prop where
  parents : ∀ (j : Nat) (s : Step), chain[j]? = some s → s.parent ≤ j
  owners : ∀ (j : Nat) (s : Step), chain[j]? = some s →
    ∃ t, (chain.types root)[s.parent]? = some t ∧ t.id = s.navigation.owner
  cells : ∀ (i j : Nat) (a b : Step), chain[i]? = some a → chain[j]? = some b →
    a.parent = b.parent → a.navigation.cell = b.navigation.cell → i = j

end Chain

/-- The selected columns by position, and the part of a row that an object is written into. -/
structure Layout where
  names : List (List String)
  part : Nat → Object → Row

namespace Layout

/-- The columns at a position of a row. -/
def slot (layout : Layout) (position : Nat) : Option Object → Row
  | some o => layout.part position o
  | none => ⟨((layout.names[position]?).getD []).map fun name => (name, .null)⟩

/-- The columns at the positions from one on. -/
def slots (layout : Layout) : Nat → List (Option Object) → List Row
  | _, [] => []
  | position, o :: rest => layout.slot position o :: layout.slots (position + 1) rest

/-- The row of the objects chosen at the positions. -/
def row (layout : Layout) (chosen : List (Option Object)) : Row :=
  ⟨(layout.slots 0 chosen).flatMap (·.columns)⟩

/-- The number of columns by position. -/
def widths (layout : Layout) : List Nat := layout.names.map List.length

end Layout

/-- The ranges of consecutive columns of the given widths. -/
def cuts : Nat → List Nat → List (Nat × Nat)
  | _, [] => []
  | start, width :: widths => (start, start + width) :: cuts (start + width) widths

/-- Do all objects have a key, and no two the same? -/
def HaveDistinctKeys (t : ObjectType) (objects : List Object) : Prop :=
  (∀ o ∈ objects, t.key? o ≠ none) ∧ (objects.map t.key?).Nodup

/-- May the object stand at a position of a chain, with everything below it? Its part of a row begins
with a value and can be read back, and its children stand at the places of the steps from its
position. -/
inductive Shaped (root : ObjectType) (chain : Chain) (layout : Layout) : Nat → Object → Prop
  | mk {position : Nat} {o : Object} {t : ObjectType} {columns : List String}
      (type : (chain.types root)[position]? = some t)
      (reads : t.read (layout.part position o) = .ok (.bare o.type o.row))
      (names : layout.names[position]? = some columns)
      (width : (layout.part position o).width = columns.length)
      (present : (layout.part position o).isAbsent = false)
      (places : ∀ a ∈ o.attached, ∃ s ∈ chain, s.parent = position ∧ a.1 = s.navigation.cell)
      (single : ∀ s ∈ chain, s.parent = position → s.navigation.cardinality = .one →
        (o.childrenAt s.navigation.cell).length ≤ 1)
      (keys : ∀ s ∈ chain, s.parent = position → s.navigation.cardinality = .many →
        HaveDistinctKeys s.navigation.child (o.childrenAt s.navigation.cell))
      (children : ∀ (j : Nat) (s : Step), chain[j]? = some s → s.parent = position →
        ∀ c ∈ o.childrenAt s.navigation.cell, Shaped root chain layout (j + 1) c) :
      Shaped root chain layout position o

/-- May the forest be flattened along the chain, and does the plan cut the rows where the layout puts
its parts together? -/
structure Flattenable (root : ObjectType) (chain : Chain) (layout : Layout) (split : SplitPlan)
    (roots : List Object) : Prop where
  valid : chain.IsValid root
  names : layout.names.length = chain.length + 1
  ranges : split.ranges layout.widths.sum = .ok (cuts 0 layout.widths)
  keys : HaveDistinctKeys root roots
  shaped : ∀ o ∈ roots, Shaped root chain layout 0 o

/-- The rows of a forest: for each root the left joins of the chain. -/
def flatten (chain : Chain) (layout : Layout) (roots : List Object) : List Row :=
  roots.flatMap fun r => (leftJoin chain.children chain.parents 0 [some r]).map layout.row

/-! ## Columns and parts -/

/-- Cutting parts out of the row that they were put together to, behind other columns. -/
theorem map_slice_cuts (parts : List Row) : ∀ before : List (String × Value),
    (cuts before.length (parts.map (·.width))).map
        (fun range => Row.slice ⟨before ++ parts.flatMap (·.columns)⟩ range.1 range.2) = parts := by
  induction parts with
  | nil =>
    intro before
    rfl
  | cons part parts ih =>
    intro before
    have hrest := ih (before ++ part.columns)
    rw [List.length_append, List.append_assoc] at hrest
    rw [List.map_cons, cuts, List.map_cons, List.flatMap_cons]
    refine congrArg₂ List.cons ?_ hrest
    rw [Row.slice, List.drop_left, Nat.add_sub_cancel_left]
    exact congrArg Row.mk List.take_left

theorem length_cuts (widths : List Nat) : ∀ start, (cuts start widths).length = widths.length := by
  induction widths with
  | nil =>
    intro start
    rfl
  | cons width widths ih =>
    intro start
    rw [cuts, List.length_cons, ih, List.length_cons]

/-- A plan cuts a row into one part more than it has points. -/
theorem SplitPlan.length_of_ranges {split : SplitPlan} {width : Nat} {ranges : List (Nat × Nat)}
    (h : split.ranges width = .ok ranges) : ranges.length = split.points.length + 1 := by
  obtain ⟨-, rfl⟩ := rangesFrom_eq_ok_iff.1 h
  simp [between]

namespace Layout

variable {layout : Layout}

theorem getElem?_slots (chosen : List (Option Object)) : ∀ (position k : Nat),
    (layout.slots position chosen)[k]? = chosen[k]?.map (layout.slot (position + k)) := by
  induction chosen with
  | nil =>
    intro position k
    rfl
  | cons o chosen ih =>
    intro position k
    cases k with
    | zero => rfl
    | succ k =>
      rw [slots, List.getElem?_cons_succ, List.getElem?_cons_succ, ih, Nat.add_right_comm,
        Nat.add_assoc]

/-- A place without an object begins with NULL. -/
theorem isAbsent_slot_none (position : Nat) : (layout.slot position none).isAbsent = true := by
  rw [slot]
  cases (layout.names[position]?).getD [] <;> rfl

/-- The widths of the parts are those of the layout where the objects' own are. -/
theorem map_width_slots {chosen : List (Option Object)}
    (hlength : chosen.length = layout.names.length)
    (hwidth : ∀ (k : Nat) (o : Object) (columns : List String), chosen[k]? = some (some o) →
      layout.names[k]? = some columns → (layout.part k o).width = columns.length) :
    (layout.slots 0 chosen).map (·.width) = layout.widths := by
  refine List.ext_getElem? fun k => ?_
  rw [List.getElem?_map, getElem?_slots, Nat.zero_add, widths, List.getElem?_map]
  cases hn : layout.names[k]? with
  | none =>
    have hk : chosen.length ≤ k := hlength ▸ List.getElem?_eq_none_iff.1 hn
    rw [List.getElem?_eq_none hk]
    rfl
  | some columns =>
    have hk : k < chosen.length := hlength ▸ (List.getElem?_eq_some_iff.1 hn).1
    rw [List.getElem?_eq_getElem hk]
    cases hc : chosen[k] with
    | none => simp [slot, hn, Row.width]
    | some o =>
      have ho : chosen[k]? = some (some o) := by rw [List.getElem?_eq_getElem hk, hc]
      simp [slot, hwidth k o columns ho hn]

/-- The split plan cuts a row of the layout into the parts that it was put together from. -/
theorem parts_row {split : SplitPlan}
    (hsplit : split.ranges layout.widths.sum = .ok (cuts 0 layout.widths))
    {chosen : List (Option Object)}
    (hwidths : (layout.slots 0 chosen).map (·.width) = layout.widths) :
    split.ranges (layout.row chosen).width = .ok (cuts 0 layout.widths) ∧
      split.parts (layout.row chosen) = layout.slots 0 chosen := by
  have hwidth : (layout.row chosen).width = layout.widths.sum := by
    rw [row, Row.width, List.length_flatMap, ← hwidths]
    rfl
  refine ⟨by rw [hwidth, hsplit], ?_⟩
  rw [SplitPlan.parts, hwidth, hsplit, ← hwidths]
  exact map_slice_cuts (layout.slots 0 chosen) []

end Layout

end Rowgraph
