import Mathlib.Algebra.Order.BigOperators.Group.List
import Mathlib.Algebra.Order.Group.Nat
import Rowgraph.Proofs.Graph.Readable

/-!
# Rows under other numbers

An object without a key is known by the number of its row. Which numbers the rows have does not matter, as
long as different rows have different ones: other numbers rename the identities, and the graph that the rows
describe stays what it is (`isGraphOf_numbered`).
-/

set_option autoImplicit false

namespace Rowgraph

variable {root : ObjectType} {links : List Link} {split : SplitPlan}

/-! ## Other names for identities -/

/-- The mark with the number of its row changed. -/
def Mark.renumber (σ : Nat → Nat) : Mark → Mark
  | .only => .only
  | .key k => .key k
  | .inRow row => .inRow (σ row)

namespace Identity

/-- The identity with the numbers of rows changed. -/
def renumber (σ : Nat → Nat) : Identity → Identity
  | .root mark => .root (mark.renumber σ)
  | .under parent link mark => .under (parent.renumber σ) link (mark.renumber σ)

variable {σ : Nat → Nat}

theorem mark_renumber (id : Identity) : (id.renumber σ).mark = id.mark.renumber σ := by
  cases id <;> rfl

theorem parent?_renumber (id : Identity) : (id.renumber σ).parent? = id.parent?.map (renumber σ) := by
  cases id <;> rfl

theorem type?_renumber (id : Identity) : (id.renumber σ).type? root links = id.type? root links := by
  cases id <;> rfl

theorem setter_renumber (id : Identity) : (id.renumber σ).setter links = id.setter links := by
  cases id <;> rfl

theorem reads_renumber (id : Identity) (part : Row) :
    (id.renumber σ).Reads root links part ↔ id.Reads root links part := by
  rw [Reads, Reads, type?_renumber]

end Identity

section Renaming

variable {σ : Nat → Nat}

theorem Mark.renumber_eq_only {m : Mark} : m.renumber σ = .only ↔ m = .only := by
  cases m <;> simp [Mark.renumber]

theorem Mark.renumber_injective (hσ : Function.Injective σ) : Function.Injective (Mark.renumber σ) := by
  intro a b h
  cases a <;> cases b <;> simp_all [Mark.renumber]
  exact hσ h

theorem Identity.renumber_injective (hσ : Function.Injective σ) :
    Function.Injective (Identity.renumber σ) := by
  intro a
  induction a with
  | root mark =>
    intro b h
    cases b with
    | root mark' => rw [Mark.renumber_injective hσ (Identity.root.inj h)]
    | under parent link mark' => cases h
  | under parent link mark ih =>
    intro b h
    cases b with
    | root mark' => cases h
    | under parent' link' mark' =>
      obtain ⟨hparent, rfl, hmark⟩ := Identity.under.inj h
      rw [ih hparent, Mark.renumber_injective hσ hmark]

/-- The occurrences with the numbers of rows changed. -/
def renumbered (σ : Nat → Nat) (occ : List (Identity × Row)) : List (Identity × Row) :=
  occ.map fun o => (o.1.renumber σ, o.2)

variable {occ : List (Identity × Row)}

theorem distinct_renumbered (hσ : Function.Injective σ) :
    distinct (renumbered σ occ) = (distinct occ).map (Identity.renumber σ) := by
  rw [distinct, distinct, renumbered, List.map_map,
    ← eraseDups_map_of_injective (Identity.renumber_injective hσ), List.map_map]
  rfl

theorem lookup_renumbered (hσ : Function.Injective σ) (id : Identity) :
    (renumbered σ occ).lookup (id.renumber σ) = occ.lookup id := by
  induction occ with
  | nil => rfl
  | cons o occ ih =>
    obtain ⟨other, part⟩ := o
    rw [renumbered, List.map_cons, List.lookup_cons, List.lookup_cons]
    have hsame : (id.renumber σ == other.renumber σ) = (id == other) := by
      rw [Bool.eq_iff_iff, beq_iff_eq, beq_iff_eq, (Identity.renumber_injective hσ).eq_iff]
    rw [hsame]
    cases id == other with
    | true => rfl
    | false => exact ih

theorem children_renumbered (hσ : Function.Injective σ) (ids : List Identity) (id : Identity) :
    (id.renumber σ).children (ids.map (Identity.renumber σ)) =
      (id.children ids).map (Identity.renumber σ) := by
  rw [Identity.children, Identity.children, List.filter_map]
  refine congrArg _ (List.filter_congr fun c _ => ?_)
  have hparent : (c.renumber σ).parent? = some (id.renumber σ) ↔ c.parent? = some id := by
    rw [Identity.parent?_renumber, ← Option.map_some,
      (Option.map_injective (Identity.renumber_injective hσ)).eq_iff]
  simp [hparent]

theorem rootIdentities_renumbered (hσ : Function.Injective σ) :
    rootIdentities (renumbered σ occ) = (rootIdentities occ).map (Identity.renumber σ) := by
  rw [rootIdentities, rootIdentities, distinct_renumbered hσ, List.filter_map]
  refine congrArg _ (List.filter_congr fun id _ => ?_)
  rw [Function.comp_apply, Identity.parent?_renumber, Option.isNone_map]

theorem assembled_renumbered (hσ : Function.Injective σ) {whole : Identity → Object} :
    Assembled root links (renumbered σ occ) whole ↔
      Assembled root links occ fun id => whole (id.renumber σ) := by
  rw [Assembled, Assembled, distinct_renumbered hσ, List.forall_mem_map]
  refine forall₂_congr fun id _ => ?_
  rw [AssembledAt, AssembledAt, lookup_renumbered hσ, Identity.type?_renumber, distinct_renumbered hσ,
    children_renumbered hσ]
  simp only [List.foldlM_map, Identity.setter_renumber]

theorem isGraphOf_renumbered (hσ : Function.Injective σ) {objects : List Object} :
    IsGraphOf root links (renumbered σ occ) objects ↔ IsGraphOf root links occ objects := by
  constructor
  · rintro ⟨whole, hwhole, rfl⟩
    refine ⟨fun id => whole (id.renumber σ), (assembled_renumbered hσ).1 hwhole, ?_⟩
    rw [rootIdentities_renumbered hσ, List.map_map]
    rfl
  · rintro ⟨whole, hwhole, rfl⟩
    -- the old names are found again behind the new ones
    have : Nonempty Identity := ⟨.root .only⟩
    obtain ⟨back, hback⟩ := (Identity.renumber_injective hσ).hasLeftInverse
    refine ⟨fun id => whole (back id), (assembled_renumbered hσ).2 ?_, ?_⟩
    · simp only [hback _]
      exact hwhole
    · rw [rootIdentities_renumbered hσ, List.map_map]
      exact List.map_congr_left fun id _ => by rw [Function.comp_apply, hback]

theorem readable_renumbered (hσ : Function.Injective σ) (h : Readable root links occ) :
    Readable root links (renumbered σ occ) where
  marked := by
    intro id part hmem hmark
    obtain ⟨⟨id, part⟩, hocc, heq⟩ := List.mem_map.1 hmem
    cases heq
    rw [Identity.reads_renumber]
    refine h.marked id part hocc fun hm => hmark ?_
    rw [Identity.mark_renumber, hm, Mark.renumber]
  first := by
    intro id part hpart
    obtain ⟨before, after, hsplit, -⟩ := List.lookup_eq_some_iff.1 hpart
    have hmem : (id, part) ∈ renumbered σ occ := by simp [hsplit]
    obtain ⟨⟨id, part'⟩, -, heq⟩ := List.mem_map.1 hmem
    cases heq
    rw [Identity.reads_renumber]
    rw [lookup_renumbered hσ] at hpart
    exact h.first id part' hpart

theorem readable_of_renumbered (hσ : Function.Injective σ) (h : Readable root links (renumbered σ occ)) :
    Readable root links occ where
  marked := by
    intro id part hmem hmark
    rw [← Identity.reads_renumber]
    refine h.marked (id.renumber σ) part (List.mem_map_of_mem hmem) fun hm => hmark ?_
    rwa [Identity.mark_renumber, Mark.renumber_eq_only] at hm
  first := by
    intro id part hpart
    rw [← Identity.reads_renumber]
    exact h.first (id.renumber σ) part (by rw [lookup_renumbered hσ, hpart])

end Renaming

/-! ## Numbered rows -/

/-- The objects of rows, each with a number. -/
def numberedOccurrences (root : ObjectType) (links : List Link) (split : SplitPlan)
    (rows : List (Row × Nat)) : List (Identity × Row) :=
  rows.flatMap fun (row, n) => occurrencesIn root links n (split.parts row)

section Numbers

variable (σ : Nat → Nat)

theorem ofPart_renumber (t : ObjectType) (row : Nat) (part : Row) :
    Mark.ofPart t (σ row) part = (Mark.ofPart t row part).renumber σ := by
  rw [Mark.ofPart, Mark.ofPart]
  cases t.keyIn? part <;> rfl

theorem identity?_renumber (l : Link) (row index : Nat) (part : Row) (before : List (Option Identity)) :
    l.identity? (σ row) index part (before.map (Option.map (Identity.renumber σ))) =
      (l.identity? row index part before).map (Identity.renumber σ) := by
  have hmark : l.mark (σ row) part = (l.mark row part).renumber σ := by
    rw [Link.mark, Link.mark]
    cases l.cardinality with
    | one => rfl
    | many => exact ofPart_renumber σ l.child row part
  have hparent : (before.map (Option.map (Identity.renumber σ)))[l.parent]?.join =
      (before[l.parent]?.join).map (Identity.renumber σ) := by
    rw [List.getElem?_map]
    cases before[l.parent]? with
    | none => rfl
    | some id? => rfl
  rw [Link.identity?, Link.identity?, hparent, hmark]
  cases before[l.parent]?.join with
  | none => rfl
  | some parent => cases part.isAbsent <;> simp [Identity.renumber]

theorem occurrencesBelow_renumber (row : Nat) (links : List Link) :
    ∀ (parts : List Row) (index : Nat) (before : List (Option Identity)),
      occurrencesBelow (σ row) links parts index (before.map (Option.map (Identity.renumber σ))) =
        renumbered σ (occurrencesBelow row links parts index before) := by
  induction links with
  | nil =>
    intro parts index before
    rw [occurrencesBelow.eq_def, occurrencesBelow.eq_def]
    rfl
  | cons l links ih =>
    intro parts index before
    cases parts with
    | nil =>
      rw [occurrencesBelow.eq_def, occurrencesBelow.eq_def]
      rfl
    | cons part parts =>
      have hrest := ih parts (index + 1) (before ++ [l.identity? row index part before])
      rw [List.map_append, List.map_singleton] at hrest
      rw [occurrencesBelow, occurrencesBelow, identity?_renumber, hrest, renumbered, renumbered,
        List.map_append]
      congr 1
      cases l.identity? row index part before <;> rfl

theorem occurrencesIn_renumber (row : Nat) (parts : List Row) :
    occurrencesIn root links (σ row) parts = renumbered σ (occurrencesIn root links row parts) := by
  cases parts with
  | nil => rfl
  | cons part parts =>
    have hbelow := occurrencesBelow_renumber σ row links parts 0 [some (.root (.ofPart root row part))]
    rw [List.map_singleton, Option.map_some, Identity.renumber, ← ofPart_renumber] at hbelow
    rw [occurrencesIn, occurrencesIn, hbelow, ofPart_renumber]
    rfl

theorem numberedOccurrences_renumber (rows : List (Row × Nat)) :
    numberedOccurrences root links split (rows.map fun r => (r.1, σ r.2)) =
      renumbered σ (numberedOccurrences root links split rows) := by
  rw [numberedOccurrences, numberedOccurrences, List.flatMap_map, renumbered, List.map_flatMap]
  exact List.flatMap_congr fun r _ => occurrencesIn_renumber σ r.2 (split.parts r.1)

end Numbers

/-- Different numbers are what the places of their rows are renumbered to. -/
theorem exists_renumber {rows : List (Row × Nat)} (h : (rows.map Prod.snd).Nodup) :
    ∃ σ : Nat → Nat, Function.Injective σ ∧
      rows = (rows.map Prod.fst).zipIdx.map fun r => (r.1, σ r.2) := by
  let numbers := rows.map Prod.snd
  -- places behind the last row are sent beyond all numbers
  have hle : ∀ {i n : Nat}, numbers[i]? = some n → n ≤ numbers.sum := fun hi =>
    List.le_sum_of_mem (List.mem_of_getElem? hi)
  refine ⟨fun i => (numbers[i]?).getD (numbers.sum + 1 + i), fun i j hij => ?_, ?_⟩
  · dsimp only at hij
    cases hi : numbers[i]? with
    | none =>
      cases hj : numbers[j]? with
      | none =>
        simp only [hi, hj, Option.getD_none] at hij
        omega
      | some m =>
        have := hle hj
        simp only [hi, hj, Option.getD_none, Option.getD_some] at hij
        omega
    | some n =>
      cases hj : numbers[j]? with
      | none =>
        have := hle hi
        simp only [hi, hj, Option.getD_none, Option.getD_some] at hij
        omega
      | some m =>
        simp only [hi, hj, Option.getD_some] at hij
        exact (List.getElem?_inj (List.getElem?_eq_some_iff.1 hi).1 h).1 (by rw [hi, hj, hij])
  · refine List.ext_getElem? fun i => ?_
    simp only [numbers, List.getElem?_map, List.getElem?_zipIdx, Option.map_map]
    cases hi : rows[i]? with
    | none => rfl
    | some r => simp [hi]

theorem occurrences_eq_numbered (rows : List Row) :
    occurrences root links split rows = numberedOccurrences root links split rows.zipIdx := rfl

/-- Numbered rows have the objects of the same rows in their places, under other names. -/
theorem exists_numbered_eq {rows : List (Row × Nat)} (h : (rows.map Prod.snd).Nodup) :
    ∃ σ : Nat → Nat, Function.Injective σ ∧ numberedOccurrences root links split rows =
      renumbered σ (occurrences root links split (rows.map Prod.fst)) := by
  obtain ⟨σ, hσ, hrows⟩ := exists_renumber h
  refine ⟨σ, hσ, ?_⟩
  rw [occurrences_eq_numbered, ← numberedOccurrences_renumber, ← hrows]

/-- Whatever different numbers rows have, they describe the same graph. -/
theorem isGraphOf_numbered {rows : List (Row × Nat)} (h : (rows.map Prod.snd).Nodup)
    {objects : List Object} :
    IsGraphOf root links (numberedOccurrences root links split rows) objects ↔
      IsGraphOf root links (occurrences root links split (rows.map Prod.fst)) objects := by
  obtain ⟨σ, hσ, heq⟩ := exists_numbered_eq h
  rw [heq, isGraphOf_renumbered hσ]

theorem readable_numbered {rows : List (Row × Nat)} (h : (rows.map Prod.snd).Nodup) :
    Readable root links (numberedOccurrences root links split rows) ↔
      Readable root links (occurrences root links split (rows.map Prod.fst)) := by
  obtain ⟨σ, hσ, heq⟩ := exists_numbered_eq h
  rw [heq]
  exact ⟨readable_of_renumbered hσ, readable_renumbered hσ⟩

end Rowgraph
