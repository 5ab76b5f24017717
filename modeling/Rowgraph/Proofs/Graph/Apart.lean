import Mathlib.Data.List.Perm.Basic
import Rowgraph.Proofs.Graph.Flatten
import Rowgraph.Proofs.Graph.Renumbered

/-!
# Roots on their own

The object of a root depends on no row of another root: joined rows are assembled by assembling the rows of each
root by themselves (`assemble_iff_rootMarks`).
-/

set_option autoImplicit false

namespace Rowgraph

variable {root : ObjectType} {links : List Link} {split : SplitPlan}

/-! ## What belongs to a root -/

/-- The mark of the root that an identity is or stands below. -/
def Identity.rootMark : Identity → Mark
  | .root mark => mark
  | .under parent _ _ => parent.rootMark

/-- The part of a row that its root is read from. -/
def SplitPlan.rootPart (split : SplitPlan) (row : Row) : Row := (split.parts row).headD .empty

/-- The mark of a numbered row, by the key that a row has or has not. -/
def markBy (key? : Row → Option Key) (r : Row × Nat) : Mark :=
  match key? r.1 with
  | some k => .key k
  | none => .inRow r.2

/-- The mark of a numbered row's root. -/
def rootMarkOf (root : ObjectType) (split : SplitPlan) : Row × Nat → Mark :=
  markBy fun row => root.keyIn? (split.rootPart row)

/-- The rows of one root. -/
def rowsOf (root : ObjectType) (split : SplitPlan) (m : Mark) (rows : List (Row × Nat)) : List (Row × Nat) :=
  rows.filter fun r => rootMarkOf root split r = m

/-- The marks of the roots of rows, in the order of their first rows. -/
def rootMarks (root : ObjectType) (split : SplitPlan) (rows : List (Row × Nat)) : List Mark :=
  (rows.map (rootMarkOf root split)).eraseDups

/-- What occurs of one root and below it. -/
def ofRoot (m : Mark) (occ : List (Identity × Row)) : List (Identity × Row) :=
  occ.filter fun o => o.1.rootMark = m

theorem rootMark_of_mem {row : Row} {n : Nat} {o : Identity × Row}
    (h : o ∈ occurrencesIn root links n (split.parts row)) :
    o.1.rootMark = rootMarkOf root split (row, n) := by
  obtain ⟨-, hmark⟩ := occurrencesIn_induction
    (P := fun _ id => id.rootMark = rootMarkOf root split (row, n)) rfl
    (fun _ _ _ _ _ hparent => hparent) o h
  exact hmark

theorem ofRoot_numbered (m : Mark) (rows : List (Row × Nat)) :
    ofRoot m (numberedOccurrences root links split rows) =
      numberedOccurrences root links split (rowsOf root split m rows) := by
  induction rows with
  | nil => rfl
  | cons r rows ih =>
    obtain ⟨row, n⟩ := r
    have hrow : ofRoot m (occurrencesIn root links n (split.parts row)) =
        if rootMarkOf root split (row, n) = m then occurrencesIn root links n (split.parts row) else [] := by
      split
      · next hm =>
        refine List.filter_eq_self.2 fun o ho => ?_
        simpa [hm] using rootMark_of_mem ho
      · next hm =>
        refine List.filter_eq_nil_iff.2 fun o ho => ?_
        simpa [rootMark_of_mem ho] using hm
    rw [numberedOccurrences, List.flatMap_cons, ofRoot, List.filter_append, ← ofRoot, ← ofRoot, hrow,
      ← numberedOccurrences, ih, rowsOf, rowsOf, List.filter_cons]
    by_cases hm : rootMarkOf root split (row, n) = m
    · simp [hm, numberedOccurrences]
    · simp [hm]

section Separation

variable {occ : List (Identity × Row)} {whole : Identity → Object}

theorem distinct_ofRoot (m : Mark) :
    distinct (ofRoot m occ) = (distinct occ).filter fun id => id.rootMark = m := by
  rw [distinct, distinct, filter_eraseDups, List.filter_map]
  rfl

theorem lookup_ofRoot (id : Identity) : (ofRoot id.rootMark occ).lookup id = occ.lookup id := by
  induction occ with
  | nil => rfl
  | cons o occ ih =>
    obtain ⟨other, part⟩ := o
    rw [ofRoot, List.filter_cons, List.lookup_cons]
    cases hsame : id == other with
    | true =>
      rw [beq_iff_eq] at hsame
      simp [hsame]
    | false =>
      rw [← ofRoot]
      split
      · rw [List.lookup_cons, hsame]
        exact ih
      · exact ih

theorem rootMark_of_parent? {id parent : Identity} (h : id.parent? = some parent) :
    id.rootMark = parent.rootMark := by
  cases id with
  | root mark => cases h
  | under p link mark =>
    cases h
    rfl

/-- The children of an identity belong to its root. -/
theorem children_ofRoot (id : Identity) (ids : List Identity) :
    id.children (ids.filter fun c => c.rootMark = id.rootMark) = id.children ids := by
  rw [Identity.children, Identity.children, List.filter_filter]
  refine List.filter_congr fun c _ => ?_
  by_cases hparent : c.parent? = some id
  · simp [hparent, rootMark_of_parent? hparent]
  · simp [hparent]

theorem assembledAt_ofRoot (id : Identity) :
    AssembledAt root links (ofRoot id.rootMark occ) whole id ↔ AssembledAt root links occ whole id := by
  rw [AssembledAt, AssembledAt, lookup_ofRoot, distinct_ofRoot, children_ofRoot]

/-- A graph is assembled when what belongs to each root is. -/
theorem assembled_iff_ofRoot :
    Assembled root links occ whole ↔ ∀ m, Assembled root links (ofRoot m occ) whole := by
  constructor
  · intro h m id hid
    rw [distinct_ofRoot, List.mem_filter, decide_eq_true_eq] at hid
    obtain ⟨hid, rfl⟩ := hid
    exact (assembledAt_ofRoot id).2 (h id hid)
  · intro h id hid
    refine (assembledAt_ofRoot id).1 (h id.rootMark id ?_)
    rw [distinct_ofRoot, List.mem_filter, decide_eq_true_eq]
    exact ⟨hid, rfl⟩

theorem assembled_congr {whole' : Identity → Object} (h : ∀ id ∈ distinct occ, whole id = whole' id)
    (hwhole : Assembled root links occ whole) : Assembled root links occ whole' := by
  intro id hid
  obtain ⟨part, type, object, hpart, htype, hread, hfold⟩ := hwhole id hid
  have hchildren : ∀ c ∈ id.children (distinct occ), whole c = whole' c := fun c hc =>
    h c (List.mem_filter.1 hc).1
  refine ⟨part, type, object, hpart, htype, hread, ?_⟩
  rw [← foldlM_setter_congr _ hchildren, hfold, h id hid]

theorem readable_iff_ofRoot :
    Readable root links occ ↔ ∀ m, Readable root links (ofRoot m occ) := by
  constructor
  · intro h m
    refine ⟨fun id part hmem => h.marked id part (List.mem_filter.1 hmem).1, fun id part hpart => ?_⟩
    obtain ⟨before, after, hsplit, -⟩ := List.lookup_eq_some_iff.1 hpart
    have hmem : (id, part) ∈ ofRoot m occ := by simp [hsplit]
    obtain rfl : id.rootMark = m := by simpa using (List.mem_filter.1 hmem).2
    rw [lookup_ofRoot] at hpart
    exact h.first id part hpart
  · intro h
    refine ⟨fun id part hmem => ?_, fun id part hpart => ?_⟩
    · exact (h id.rootMark).marked id part (List.mem_filter.2 ⟨hmem, by simp⟩)
    · exact (h id.rootMark).first id part (by rw [lookup_ofRoot, hpart])

end Separation

/-! ## The roots of rows -/

theorem parts_ne_nil {row : Row} {ranges : List (Nat × Nat)} (h : split.ranges row.width = .ok ranges) :
    split.parts row ≠ [] := by
  have hlength := SplitPlan.length_of_ranges h
  rw [SplitPlan.parts, h]
  cases ranges with
  | nil => cases hlength
  | cons range ranges =>
    intro hnil
    cases hnil

/-- Below a root there are no other roots. -/
theorem parent?_ne_none_of_mem {n : Nat} {parts : List Row} {mark : Mark} {o : Identity × Row}
    (h : o ∈ occurrencesBelow n links parts 0 [some (Identity.root mark)]) : o.1.parent? ≠ none := by
  have hbefore : ∀ k id, [some (Identity.root mark)][k]? = some (some id) → 0 < k → id.parent? ≠ none := by
    rintro (_ | k) id hk hpos
    · exact absurd hpos (Nat.lt_irrefl 0)
    · cases hk
  obtain ⟨k, hpos, hk⟩ := occurrencesBelow_induction (P := fun k id => 0 < k → id.parent? ≠ none)
    links parts _ 0 rfl hbefore (fun _ _ _ _ _ _ _ => nofun) o h
  exact hk hpos

theorem rootMarkOf_eq {r : Row × Nat} {part : Row} {parts : List Row} (h : split.parts r.1 = part :: parts) :
    rootMarkOf root split r = .ofPart root r.2 part := by
  rw [rootMarkOf, markBy, SplitPlan.rootPart, h]
  rfl

/-- Each row that can be cut has one root. -/
theorem rootIdentities_numbered {rows : List (Row × Nat)} (h : ∀ r ∈ rows, split.parts r.1 ≠ []) :
    rootIdentities (numberedOccurrences root links split rows) =
      (rootMarks root split rows).map .root := by
  have hrow : ∀ r ∈ rows, ((occurrencesIn root links r.2 (split.parts r.1)).map Prod.fst).filter
      (fun id => id.parent?.isNone) = [.root (rootMarkOf root split r)] := by
    intro r hr
    cases hparts : split.parts r.1 with
    | nil => exact absurd hparts (h r hr)
    | cons part parts =>
      have hnil : ((occurrencesBelow r.2 links parts 0 [some (.root (.ofPart root r.2 part))]).map
          Prod.fst).filter (fun id => id.parent?.isNone) = [] := by
        rw [List.filter_eq_nil_iff]
        intro id hid
        obtain ⟨o, ho, rfl⟩ := List.mem_map.1 hid
        simpa using parent?_ne_none_of_mem ho
      rw [occurrencesIn, List.map_cons, List.filter_cons_of_pos rfl, hnil, rootMarkOf_eq hparts]
  rw [rootIdentities, distinct, filter_eraseDups, numberedOccurrences, List.map_flatMap,
    List.filter_flatMap, List.flatMap_congr hrow, ← List.map_eq_flatMap, rootMarks,
    ← eraseDups_map_of_injective fun _ _ => Identity.root.inj, List.map_map]
  rfl

section Marks

variable {rows others : List (Row × Nat)} {m : Mark}

theorem mem_rootMarks : m ∈ rootMarks root split rows ↔ ∃ r ∈ rows, rootMarkOf root split r = m := by
  rw [rootMarks, List.mem_eraseDups, List.mem_map]

theorem filter_rootMarks (hm : m ∈ rootMarks root split rows) :
    (rootMarks root split rows).filter (· == m) = [m] := by
  rw [List.filter_beq, rootMarks, List.count_eq_one_of_mem (nodup_eraseDups _) hm]
  rfl

theorem rootMarks_rowsOf (hm : m ∈ rootMarks root split rows) :
    rootMarks root split (rowsOf root split m rows) = [m] := by
  have hfilter : (rowsOf root split m rows).map (rootMarkOf root split) =
      (rows.map (rootMarkOf root split)).filter (· == m) := by
    rw [List.filter_map]
    rfl
  rw [rootMarks, hfilter, ← filter_eraseDups]
  exact filter_rootMarks hm

theorem rowsOf_eq_nil (hm : m ∉ rootMarks root split rows) : rowsOf root split m rows = [] := by
  rw [rowsOf, List.filter_eq_nil_iff]
  intro r hr h
  exact hm (mem_rootMarks.2 ⟨r, hr, of_decide_eq_true h⟩)

/-- The order of rows decides the order of roots and nothing else about them. -/
theorem rootMarks_perm (h : others.Perm rows) : (rootMarks root split others).Perm (rootMarks root split rows) := by
  refine (List.perm_ext_iff_of_nodup (nodup_eraseDups _) (nodup_eraseDups _)).2 fun m => ?_
  rw [← rootMarks, ← rootMarks, mem_rootMarks, mem_rootMarks]
  exact exists_congr fun r => and_congr_left fun _ => h.mem_iff

end Marks

/-! ## Root by root -/

section Apart

variable {rows : List (Row × Nat)} {objects : List Object}

/-- What holds of nothing holds of all roots if it holds of those of rows. -/
theorem forall_iff_rootMarks {P : List (Identity × Row) → Prop} (hnil : P []) :
    (∀ m, P (ofRoot m (numberedOccurrences root links split rows))) ↔
      ∀ m ∈ rootMarks root split rows, P (numberedOccurrences root links split (rowsOf root split m rows)) := by
  refine forall_congr' fun m => ?_
  rw [ofRoot_numbered]
  refine ⟨fun h _ => h, fun h => ?_⟩
  by_cases hm : m ∈ rootMarks root split rows
  · exact h hm
  · rw [rowsOf_eq_nil hm]
    exact hnil

theorem readable_iff_rootMarks : Readable root links (numberedOccurrences root links split rows) ↔
    ∀ m ∈ rootMarks root split rows,
      Readable root links (numberedOccurrences root links split (rowsOf root split m rows)) := by
  have hnil : Readable root links [] :=
    ⟨fun id part hmem => absurd hmem List.not_mem_nil, fun id part hpart => nomatch hpart⟩
  rw [readable_iff_ofRoot, forall_iff_rootMarks hnil]

theorem assembled_iff_rootMarks {whole : Identity → Object} :
    Assembled root links (numberedOccurrences root links split rows) whole ↔
      ∀ m ∈ rootMarks root split rows,
        Assembled root links (numberedOccurrences root links split (rowsOf root split m rows)) whole := by
  have hnil : Assembled root links [] whole := fun id hid => absurd hid List.not_mem_nil
  rw [assembled_iff_ofRoot, forall_iff_rootMarks (P := fun occ => Assembled root links occ whole) hnil]

/-- The rows of one root have that root alone. -/
theorem rootIdentities_rowsOf {m : Mark} (hparts : ∀ r ∈ rowsOf root split m rows, split.parts r.1 ≠ [])
    (hm : m ∈ rootMarks root split rows) :
    rootIdentities (numberedOccurrences root links split (rowsOf root split m rows)) = [.root m] := by
  rw [rootIdentities_numbered hparts, rootMarks_rowsOf hm]
  rfl

/-- The graph of rows is made of the graphs of their roots. -/
theorem isGraphOf_iff_rootMarks (hparts : ∀ r ∈ rows, split.parts r.1 ≠ []) :
    IsGraphOf root links (numberedOccurrences root links split rows) objects ↔
      ∃ given : Mark → Object, objects = (rootMarks root split rows).map given ∧
        ∀ m ∈ rootMarks root split rows, IsGraphOf root links
          (numberedOccurrences root links split (rowsOf root split m rows)) [given m] := by
  have hown : ∀ m, ∀ r ∈ rowsOf root split m rows, split.parts r.1 ≠ [] := fun m r hr =>
    hparts r (List.mem_filter.1 hr).1
  constructor
  · rintro ⟨whole, hwhole, rfl⟩
    refine ⟨fun m => whole (.root m), ?_, fun m hm => ⟨whole, assembled_iff_rootMarks.1 hwhole m hm, ?_⟩⟩
    · rw [rootIdentities_numbered hparts, List.map_map]
      rfl
    · rw [rootIdentities_rowsOf (hown m) hm]
      rfl
  · rintro ⟨given, rfl, hgiven⟩
    have hroot : ∀ m, ∃ whole : Identity → Object, m ∈ rootMarks root split rows →
        Assembled root links (numberedOccurrences root links split (rowsOf root split m rows)) whole ∧
          whole (.root m) = given m := by
      intro m
      by_cases hm : m ∈ rootMarks root split rows
      · obtain ⟨whole, hwhole, hobjects⟩ := hgiven m hm
        rw [rootIdentities_rowsOf (hown m) hm] at hobjects
        exact ⟨whole, fun _ => ⟨hwhole, (List.cons.inj hobjects).1.symm⟩⟩
      · exact ⟨fun _ => .bare 0 .empty, fun h => absurd h hm⟩
    -- every identity is given its object by its own root
    choose whole hwhole using hroot
    refine ⟨fun id => whole id.rootMark id, assembled_iff_rootMarks.2 fun m hm => ?_, ?_⟩
    · refine assembled_congr (fun id hid => ?_) (hwhole m hm).1
      rw [← ofRoot_numbered, distinct_ofRoot, List.mem_filter, decide_eq_true_eq] at hid
      rw [hid.2]
    · rw [rootIdentities_numbered hparts, List.map_map]
      exact List.map_congr_left fun m hm => (hwhole m hm).2.symm

variable {joins : List Join}

theorem assemble_numbered_eq_ok_iff (hjoins : joins ≠ []) (hnumbers : (rows.map Prod.snd).Nodup) :
    root.assemble joins split (rows.map Prod.fst) = .ok objects ↔
      ∃ links, Link.ofJoins root joins split = .ok links ∧
        (∀ r ∈ rows, ∃ ranges, split.ranges r.1.width = .ok ranges) ∧
        Readable root links (numberedOccurrences root links split rows) ∧
        IsGraphOf root links (numberedOccurrences root links split rows) objects := by
  rw [assemble_eq_ok_iff hjoins]
  simp only [List.forall_mem_map, readable_numbered hnumbers, isGraphOf_numbered hnumbers]

theorem nodup_numbers_rowsOf (hnumbers : (rows.map Prod.snd).Nodup) (m : Mark) :
    ((rowsOf root split m rows).map Prod.snd).Nodup :=
  hnumbers.sublist (List.filter_sublist.map _)

/-- Joined rows are assembled by assembling the rows of each root. -/
theorem assemble_iff_rootMarks (hjoins : joins ≠ []) (hnumbers : (rows.map Prod.snd).Nodup) :
    root.assemble joins split (rows.map Prod.fst) = .ok objects ↔
      (∃ links, Link.ofJoins root joins split = .ok links) ∧
        ∃ given : Mark → Object, objects = (rootMarks root split rows).map given ∧
          ∀ m ∈ rootMarks root split rows,
            root.assemble joins split ((rowsOf root split m rows).map Prod.fst) = .ok [given m] := by
  simp only [assemble_numbered_eq_ok_iff hjoins (nodup_numbers_rowsOf hnumbers _),
    assemble_numbered_eq_ok_iff hjoins hnumbers]
  constructor
  · rintro ⟨links, hlinks, hranges, hreadable, hgraph⟩
    have hparts : ∀ r ∈ rows, split.parts r.1 ≠ [] := fun r hr => parts_ne_nil (hranges r hr).choose_spec
    obtain ⟨given, hobjects, hgiven⟩ := (isGraphOf_iff_rootMarks hparts).1 hgraph
    exact ⟨⟨links, hlinks⟩, given, hobjects, fun m hm => ⟨links, hlinks,
      fun r hr => hranges r (List.mem_filter.1 hr).1, readable_iff_rootMarks.1 hreadable m hm, hgiven m hm⟩⟩
  · rintro ⟨⟨links, hlinks⟩, given, hobjects, hgiven⟩
    have hgiven' : ∀ m ∈ rootMarks root split rows,
        (∀ r ∈ rowsOf root split m rows, ∃ ranges, split.ranges r.1.width = .ok ranges) ∧
        Readable root links (numberedOccurrences root links split (rowsOf root split m rows)) ∧
        IsGraphOf root links (numberedOccurrences root links split (rowsOf root split m rows)) [given m] := by
      intro m hm
      obtain ⟨links', hlinks', h⟩ := hgiven m hm
      cases hlinks.symm.trans hlinks'
      exact h
    have hranges : ∀ r ∈ rows, ∃ ranges, split.ranges r.1.width = .ok ranges := fun r hr =>
      (hgiven' _ (mem_rootMarks.2 ⟨r, hr, rfl⟩)).1 r (List.mem_filter.2 ⟨hr, decide_eq_true rfl⟩)
    have hparts : ∀ r ∈ rows, split.parts r.1 ≠ [] := fun r hr => parts_ne_nil (hranges r hr).choose_spec
    exact ⟨links, hlinks, hranges, readable_iff_rootMarks.2 fun m hm => (hgiven' m hm).2.1,
      (isGraphOf_iff_rootMarks hparts).2 ⟨given, hobjects, fun m hm => (hgiven' m hm).2.2⟩⟩

end Apart

end Rowgraph
