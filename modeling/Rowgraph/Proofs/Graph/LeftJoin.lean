import Rowgraph.Proofs.FirstOccurrences

/-!
# Nested-loop left joins

Each table of a chain hangs below a table before it. Its join takes the rows that there are, level by
level, and continues each of them by every child of what the row holds at the parent's position, or by
nothing where there is no child (`leftJoin`). What a column holds for the first time, and in which
order, is decided when its table is joined and not changed by the tables behind it
(`eraseDups_column_levels`).
-/

set_option autoImplicit false

namespace Rowgraph

variable {α β : Type}

/-- What continues a row below what it holds at the parent's position. -/
def choices (children : α → List α) : Option α → List (Option α)
  | none => [none]
  | some parent =>
    match children parent with
    | [] => [none]
    | cs => cs.map some

/-- The rows that continue a row through tables of which the positions of the parents are given. -/
def leftJoin (children : Nat → α → List α) :
    List Nat → Nat → List (Option α) → List (List (Option α))
  | [], _, row => [row]
  | parent :: parents, table, row =>
    (choices (children table) (row[parent]?).join).flatMap fun c =>
      leftJoin children parents (table + 1) (row ++ [c])

/-- Rows after one more table. -/
def joinTable (children : Nat → α → List α) (parent table : Nat) (rows : List (List (Option α))) :
    List (List (Option α)) :=
  rows.flatMap fun row => (choices (children table) (row[parent]?).join).map fun c => row ++ [c]

/-- Rows after all tables, one table after the other. -/
def levels (children : Nat → α → List α) :
    List Nat → Nat → List (List (Option α)) → List (List (Option α))
  | [], _, rows => rows
  | parent :: parents, table, rows =>
    levels children parents (table + 1) (joinTable children parent table rows)

theorem choices_ne_nil (children : α → List α) (parent : Option α) :
    choices children parent ≠ [] := by
  cases parent with
  | none => simp [choices]
  | some a =>
    rw [choices]
    split <;> simp_all

/-- A choice is nothing or a child. -/
theorem mem_choices {children : α → List α} {parent c : Option α} (h : c ∈ choices children parent) :
    c = none ∨ ∃ a child, parent = some a ∧ child ∈ children a ∧ c = some child := by
  cases parent with
  | none => exact Or.inl (List.mem_singleton.1 h)
  | some a =>
    rw [choices] at h
    split at h
    · exact Or.inl (List.mem_singleton.1 h)
    · obtain ⟨child, hchild, rfl⟩ := List.mem_map.1 h
      exact Or.inr ⟨a, child, rfl, hchild, rfl⟩

/-- What is chosen, the children in their order. -/
theorem choices_flatMap (children : α → List α) (parent : Option α) (f : α → List β) :
    (choices children parent).flatMap (fun c => (c.map f).getD []) =
      (parent.map fun a => (children a).flatMap f).getD [] := by
  cases parent with
  | none => rfl
  | some a =>
    simp only [choices, Option.map_some, Option.getD_some]
    split
    · next h => simp [h]
    · simp [List.flatMap_map]

/-- Joining row by row and joining table by table give the same rows in the same order. -/
theorem flatMap_leftJoin (children : Nat → α → List α) (parents : List Nat) :
    ∀ (table : Nat) (rows : List (List (Option α))),
      rows.flatMap (leftJoin children parents table) = levels children parents table rows := by
  induction parents with
  | nil =>
    intro table rows
    simp only [leftJoin, levels]
    exact List.flatMap_singleton' rows
  | cons parent parents ih =>
    intro table rows
    simp only [leftJoin, levels]
    rw [← ih, joinTable, List.flatMap_assoc]
    simp only [List.flatMap_map]

/-- Rows of annotated values are the annotated rows, where children agree. -/
theorem leftJoin_map (f : β → α) {children : Nat → α → List α} {children' : Nat → β → List β}
    (h : ∀ k b, (children' k b).map f = children k (f b)) (parents : List Nat) :
    ∀ (table : Nat) (row : List (Option β)),
      (leftJoin children' parents table row).map (List.map (Option.map f)) =
        leftJoin children parents table (row.map (Option.map f)) := by
  induction parents with
  | nil =>
    intro table row
    rfl
  | cons parent parents ih =>
    intro table row
    have hchoices : ∀ b? : Option β, (choices (children' table) b?).map (Option.map f) =
        choices (children table) (b?.map f) := by
      intro b?
      cases b? with
      | none => rfl
      | some b =>
        simp only [choices, Option.map_some, ← h]
        cases children' table b with
        | nil => rfl
        | cons c cs => simp
    have hjoin : ((row.map (Option.map f))[parent]?).join = ((row[parent]?).join).map f := by
      rw [List.getElem?_map]
      cases row[parent]? <;> rfl
    rw [leftJoin, leftJoin, List.map_flatMap, hjoin, ← hchoices, List.flatMap_map]
    refine List.flatMap_congr fun c _ => ?_
    rw [ih, List.map_append]
    rfl

theorem levels_append (children : Nat → α → List α) (before after : List Nat) :
    ∀ (table : Nat) (rows : List (List (Option α))),
      levels children (before ++ after) table rows =
        levels children after (table + before.length) (levels children before table rows) := by
  induction before with
  | nil =>
    intro table rows
    rfl
  | cons parent before ih =>
    intro table rows
    rw [List.cons_append, levels, ih, levels, List.length_cons, Nat.add_right_comm, Nat.add_assoc]

/-- What holds of the rows there are and is kept by every table holds of the rows that there are
at the end. -/
theorem levels_induction {children : Nat → α → List α} {motive : Nat → List (Option α) → Prop}
    {parents : List Nat} :
    ∀ {table : Nat} {rows : List (List (Option α))}, (∀ row ∈ rows, motive table row) →
      (∀ k parent row c, parents[k]? = some parent → motive (table + k) row →
        c ∈ choices (children (table + k)) (row[parent]?).join →
        motive (table + k + 1) (row ++ [c])) →
      ∀ row ∈ levels children parents table rows, motive (table + parents.length) row := by
  induction parents with
  | nil =>
    intro table rows hrows _
    exact hrows
  | cons parent parents ih =>
    intro table rows hrows hstep row hrow
    rw [List.length_cons, ← Nat.add_assoc, Nat.add_right_comm]
    have hnext : ∀ next ∈ joinTable children parent table rows, motive (table + 1) next := by
      intro next hnext
      obtain ⟨r, hr, hmap⟩ := List.mem_flatMap.1 hnext
      obtain ⟨c, hc, rfl⟩ := List.mem_map.1 hmap
      exact hstep 0 parent r c rfl (hrows r hr) hc
    refine ih hnext (fun k p r c hk hr hc => ?_) row hrow
    have harith : table + 1 + k = table + (k + 1) := by omega
    rw [harith] at hr hc ⊢
    exact hstep (k + 1) p r c (by rw [List.getElem?_cons_succ, hk]) hr hc

/-- Every row continues one that was there. -/
theorem exists_prefix_of_mem_levels {children : Nat → α → List α} (parents : List Nat) :
    ∀ {table : Nat} {rows : List (List (Option α))} {row : List (Option α)},
      row ∈ levels children parents table rows → ∃ r ∈ rows, r <+: row := by
  induction parents with
  | nil =>
    intro table rows row hrow
    exact ⟨row, hrow, List.prefix_rfl⟩
  | cons parent parents ih =>
    intro table rows row hrow
    obtain ⟨next, hnext, hprefix⟩ := ih hrow
    obtain ⟨r, hr, hmap⟩ := List.mem_flatMap.1 hnext
    obtain ⟨c, -, rfl⟩ := List.mem_map.1 hmap
    exact ⟨r, hr, (List.prefix_append r [c]).trans hprefix⟩

/-! ## Columns -/

/-- What a row holds in a column. -/
def column (f : α → List β) (k : Nat) (row : List (Option α)) : List β :=
  (((row[k]?).join).map f).getD []

theorem column_append (f : α → List β) {k : Nat} {row : List (Option α)} (h : k < row.length)
    (more : List (Option α)) : column f k (row ++ more) = column f k row := by
  rw [column, column, List.getElem?_append_left h]

/-- The new column holds, row by row, the children of what the parent's column holds. -/
theorem column_joinTable (children : Nat → α → List α) (parent table : Nat) (f : α → List β)
    {rows : List (List (Option α))} (hrows : ∀ row ∈ rows, row.length = table + 1) :
    (joinTable children parent table rows).flatMap (column f (table + 1)) =
      rows.flatMap (column (fun a => (children table a).flatMap f) parent) := by
  rw [joinTable, List.flatMap_assoc]
  refine List.flatMap_congr fun row hrow => ?_
  rw [List.flatMap_map, column, ← choices_flatMap]
  refine List.flatMap_congr fun c _ => ?_
  rw [column, List.getElem?_append_right (Nat.le_of_eq (hrows row hrow)), hrows row hrow,
    Nat.sub_self]
  rfl

variable [DecidableEq β]

/-- Joining more tables repeats what a column holds, and adds nothing new to it. -/
theorem eraseDups_column_levels (children : Nat → α → List α) (f : α → List β) (k : Nat)
    (parents : List Nat) : ∀ (table : Nat) {rows : List (List (Option α))},
      (∀ row ∈ rows, k < row.length) →
      ((levels children parents table rows).flatMap (column f k)).eraseDups =
        (rows.flatMap (column f k)).eraseDups := by
  induction parents with
  | nil =>
    intro table rows _
    rfl
  | cons parent parents ih =>
    intro table rows hrows
    rw [levels, ih]
    -- one more table repeats every row, at least once
    · rw [joinTable, List.flatMap_assoc]
      refine eraseDups_flatMap_congr fun row hrow => ?_
      rw [List.flatMap_map]
      simp only [column_append f (hrows row hrow)]
      exact eraseDups_flatMap_const (choices_ne_nil _ _) _
    · intro next hnext
      obtain ⟨row, hrow, hmap⟩ := List.mem_flatMap.1 hnext
      obtain ⟨c, -, rfl⟩ := List.mem_map.1 hmap
      rw [List.length_append]
      exact Nat.lt_add_right _ (hrows row hrow)

end Rowgraph
