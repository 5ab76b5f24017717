import Mathlib.Data.List.Sigma
import Rowgraph.Proofs.Graph.Apart
import Rowgraph.Proofs.Graph.Setters

/-!
# Roots by their keys

Whichever rows come between them, the rows whose root has a key are assembled to what has that key among all
objects, and rows of different roots may be mixed in any way (`assemble_by_rootKey`). With joins that is one object
for each key. Without joins it is not: the rows of one table are an object each, whatever their keys
(`not_one_object_of_key`).
-/

set_option autoImplicit false

namespace Rowgraph

/-- The key that the root of a row is known by: it is read from the first part of a joined row, and from all
of a row that is not joined. -/
def ObjectType.rootKey? (root : ObjectType) (joins : List Join) (split : SplitPlan) (row : Row) : Option Key :=
  root.keyIn? (if joins.isEmpty then row else split.rootPart row)

section Assembly

variable {root : ObjectType} {links : List Link} {split : SplitPlan} {joins : List Join}

/-! ## The keys of roots -/

/-- The key is one of the object's own members. -/
theorem ObjectType.key?_congr (t : ObjectType) {o o' : Object} (h : o.row = o'.row) : t.key? o = t.key? o' := by
  rw [key?, key?, h]

theorem key?_of_read {t : ObjectType} {part : Row} {o : Object} (h : t.read part = .ok o) :
    t.key? o = t.keyIn? part := by
  rw [ObjectType.keyIn?, h]
  rfl

theorem Mark.key?_ofPart (t : ObjectType) (n : Nat) (part : Row) :
    (Mark.ofPart t n part).key? = t.keyIn? part := by
  rw [ofPart]
  cases t.keyIn? part <;> rfl

/-- The part that a root occurs in has the key of the root's mark. -/
theorem key?_of_root_mem {rows : List (Row × Nat)} {m : Mark} {part : Row}
    (h : (.root m, part) ∈ numberedOccurrences root links split rows) : m.key? = root.keyIn? part := by
  obtain ⟨⟨row, n⟩, -, h⟩ := List.mem_flatMap.1 h
  dsimp only at h
  cases hparts : split.parts row with
  | nil =>
    rw [hparts] at h
    cases h
  | cons first rest =>
    rw [hparts] at h
    rcases List.mem_cons.1 h with heq | hbelow
    · cases heq
      exact Mark.key?_ofPart root n part
    · exact absurd rfl (parent?_ne_none_of_mem hbelow)

/-- A root keeps the key it is known by. -/
theorem key?_of_assembled (hkeeps : ∀ l ∈ links, l.Keeps Object.row) {rows : List (Row × Nat)} {m : Mark}
    {whole : Identity → Object} (h : AssembledAt root links (numberedOccurrences root links split rows) whole (.root m)) :
    root.key? (whole (.root m)) = m.key? := by
  obtain ⟨part, type, object, hpart, htype, hread, hfold⟩ := h
  cases htype
  obtain ⟨before, after, hsplit, -⟩ := List.lookup_eq_some_iff.1 hpart
  have hmem : (.root m, part) ∈ numberedOccurrences root links split rows := by simp [hsplit]
  rw [root.key?_congr (about_foldlM_setter hkeeps whole _ hfold), key?_of_read hread, key?_of_root_mem hmem]

section Numbered

variable {rows others : List (Row × Nat)} {m : Mark}

theorem key?_of_assemble_rowsOf (hjoins : joins ≠ []) (hbuilt : ∀ j ∈ joins, j.IsBuilt)
    (hnumbers : (rows.map Prod.snd).Nodup) (hm : m ∈ rootMarks root split rows) {o : Object}
    (h : root.assemble joins split ((rowsOf root split m rows).map Prod.fst) = .ok [o]) :
    root.key? o = m.key? := by
  obtain ⟨links, hlinks, hranges, -, whole, hwhole, hobjects⟩ :=
    (assemble_numbered_eq_ok_iff hjoins (nodup_numbers_rowsOf hnumbers m)).1 h
  have hparts : ∀ r ∈ rowsOf root split m rows, split.parts r.1 ≠ [] := fun r hr =>
    parts_ne_nil (hranges r hr).choose_spec
  have hroots : rootIdentities
      (numberedOccurrences root links split (rowsOf root split m rows)) = [.root m] :=
    rootIdentities_rowsOf hparts hm
  rw [hroots] at hobjects
  obtain rfl : o = whole (.root m) := (List.cons.inj hobjects).1
  refine key?_of_assembled (fun l hl => (keeps_of_ofJoins hbuilt hlinks l hl).2) (hwhole _ ?_)
  have hmem : .root m ∈ rootIdentities
      (numberedOccurrences root links split (rowsOf root split m rows)) := by
    rw [hroots]
    exact List.mem_singleton_self _
  exact (List.mem_filter.1 hmem).1

theorem rootMarkOf_eq_key_iff {r : Row × Nat} {k : Key} :
    rootMarkOf root split r = .key k ↔ root.keyIn? (split.rootPart r.1) = some k := by
  rw [rootMarkOf, markBy]
  cases root.keyIn? (split.rootPart r.1) <;> simp

theorem rowsOf_key (hjoins : joins ≠ []) (k : Key) :
    (rowsOf root split (.key k) rows).map Prod.fst =
      (rows.map Prod.fst).filter fun row => root.rootKey? joins split row = some k := by
  rw [List.filter_map, rowsOf]
  refine congrArg _ (List.filter_congr fun r _ => ?_)
  simp [rootMarkOf_eq_key_iff, ObjectType.rootKey?, hjoins]

theorem number_of_rootMarkOf {r : Row × Nat} {n : Nat} (h : rootMarkOf root split r = .inRow n) : r.2 = n := by
  rw [rootMarkOf, markBy] at h
  cases hk : root.keyIn? (split.rootPart r.1) with
  | none =>
    rw [hk] at h
    exact Mark.inRow.inj h
  | some k =>
    rw [hk] at h
    cases h

/-- A row without a key is the only one of its root. -/
theorem rowsOf_inRow (hnumbers : (rows.map Prod.snd).Nodup) {r : Row × Nat} (hr : r ∈ rows)
    (hmark : rootMarkOf root split r = .inRow r.2) : rowsOf root split (.inRow r.2) rows = [r] := by
  obtain ⟨before, after, rfl⟩ := List.append_of_mem hr
  have hother : ∀ x ∈ before ++ after, ¬rootMarkOf root split x = .inRow r.2 := by
    intro x hx h
    have hnumber : r.2 ∈ (before ++ after).map Prod.snd := by
      rw [← number_of_rootMarkOf h]
      exact List.mem_map_of_mem hx
    rw [List.map_append, List.map_cons] at hnumbers
    rw [List.map_append] at hnumber
    exact (List.nodup_middle.1 hnumbers).notMem hnumber
  have hnil : (before ++ after).filter (fun x => rootMarkOf root split x = .inRow r.2) = [] :=
    List.filter_eq_nil_iff.2 fun x hx => by simpa using hother x hx
  rw [List.filter_append, List.append_eq_nil_iff] at hnil
  rw [rowsOf, List.filter_append, List.filter_cons_of_pos (by simpa using hmark), hnil.1, hnil.2]
  rfl

/-- Rows in another order have the same rows of each root, if those with a key keep their order. -/
theorem rowsOf_of_perm (hjoins : joins ≠ []) (hnumbers : (rows.map Prod.snd).Nodup) (hperm : others.Perm rows)
    (hkeys : ∀ k, (others.map Prod.fst).filter (fun row => root.rootKey? joins split row = some k) =
      (rows.map Prod.fst).filter fun row => root.rootKey? joins split row = some k)
    (hm : m ∈ rootMarks root split rows) :
    (rowsOf root split m others).map Prod.fst = (rowsOf root split m rows).map Prod.fst := by
  obtain ⟨r, hr, rfl⟩ := mem_rootMarks.1 hm
  cases hk : root.keyIn? (split.rootPart r.1) with
  | some k =>
    rw [rootMarkOf_eq_key_iff.2 hk, rowsOf_key hjoins, rowsOf_key hjoins, hkeys]
  | none =>
    have hmark : rootMarkOf root split r = .inRow r.2 := by
      rw [rootMarkOf, markBy, hk]
    rw [hmark, rowsOf_inRow hnumbers hr hmark]
    have hown : (rowsOf root split (.inRow r.2) others).Perm (rowsOf root split (.inRow r.2) rows) :=
      hperm.filter _
    rw [rowsOf_inRow hnumbers hr hmark, List.perm_singleton] at hown
    rw [hown]

end Numbered

/-! ## Rows of other roots -/

section Joined

variable {rows others : List Row} {objects : List Object}

/-- Rows in another order can take their numbers along. -/
theorem exists_numbered_of_perm (h : others.Perm rows) :
    ∃ numbered : List (Row × Nat), numbered.map Prod.fst = others ∧ numbered.Perm rows.zipIdx := by
  have hrows : List.Forall₂ (fun row r => row = r.1) rows rows.zipIdx := by
    rw [← List.forall₂_map_right_iff, List.zipIdx_map_fst]
    exact List.forall₂_same.2 fun row _ => rfl
  obtain ⟨numbered, hnumbered, hperm⟩ := List.perm_comp_forall₂ h hrows
  rw [← List.forall₂_map_right_iff, List.forall₂_eq_eq_eq] at hnumbered
  exact ⟨numbered, hnumbered.symm, hperm⟩

/-- With joins, the object of a key is one, and that of the rows with the key. -/
theorem assemble_joined_by_rootKey (hjoins : joins ≠ []) (hbuilt : ∀ j ∈ joins, j.IsBuilt)
    (h : root.assemble joins split rows = .ok objects) {k : Key}
    (hk : ∃ row ∈ rows, root.rootKey? joins split row = some k) :
    ∃ o, objects.filter (fun o => root.key? o = some k) = [o] ∧
      root.assemble joins split (rows.filter fun row => root.rootKey? joins split row = some k) = .ok [o] := by
  have hnumbers := List.nodup_zipIdx_map_snd rows
  rw [← List.zipIdx_map_fst 0 rows] at h
  obtain ⟨-, given, rfl, hgiven⟩ := (assemble_iff_rootMarks hjoins hnumbers).1 h
  have hmark : Mark.key k ∈ rootMarks root split rows.zipIdx := by
    obtain ⟨row, hrow, hkey⟩ := hk
    rw [← List.zipIdx_map_fst 0 rows] at hrow
    obtain ⟨r, hr, rfl⟩ := List.mem_map.1 hrow
    refine mem_rootMarks.2 ⟨r, hr, rootMarkOf_eq_key_iff.2 ?_⟩
    simpa [ObjectType.rootKey?, hjoins] using hkey
  -- a root's object has the key of its mark, and the marks of different roots differ
  refine ⟨given (.key k), ?_, ?_⟩
  · have hkey : ∀ m ∈ rootMarks root split rows.zipIdx,
        ((fun o => decide (root.key? o = some k)) ∘ given) m = (m == .key k) := by
      intro m hm
      rw [Function.comp_apply, key?_of_assemble_rowsOf hjoins hbuilt hnumbers hm (hgiven m hm),
        Bool.eq_iff_iff, decide_eq_true_iff, beq_iff_eq]
      cases m <;> simp [Mark.key?]
    rw [List.filter_map, List.filter_congr hkey, filter_rootMarks hmark]
    rfl
  · rw [← hgiven _ hmark, rowsOf_key hjoins, List.zipIdx_map_fst]

theorem assemble_joined_perm (hjoins : joins ≠ []) (h : root.assemble joins split rows = .ok objects)
    (hperm : others.Perm rows)
    (hkeys : ∀ k, others.filter (fun row => root.rootKey? joins split row = some k) =
      rows.filter fun row => root.rootKey? joins split row = some k) :
    ∃ objects', root.assemble joins split others = .ok objects' ∧ objects'.Perm objects := by
  have hnumbers := List.nodup_zipIdx_map_snd rows
  rw [← List.zipIdx_map_fst 0 rows] at h
  obtain ⟨hlinks, given, rfl, hgiven⟩ := (assemble_iff_rootMarks hjoins hnumbers).1 h
  -- the rows take their numbers along, so a row without a key keeps its mark
  obtain ⟨numbered, rfl, hnumbered⟩ := exists_numbered_of_perm hperm
  have hnumbers' : (numbered.map Prod.snd).Nodup := (hnumbered.map _).nodup_iff.2 hnumbers
  rw [← List.zipIdx_map_fst 0 rows] at hkeys
  have hmarks : (rootMarks root split numbered).Perm (rootMarks root split rows.zipIdx) :=
    rootMarks_perm hnumbered
  refine ⟨(rootMarks root split numbered).map given, ?_, hmarks.map given⟩
  refine (assemble_iff_rootMarks hjoins hnumbers').2 ⟨hlinks, given, rfl, fun m hm => ?_⟩
  have hm' := hmarks.mem_iff.1 hm
  rw [rowsOf_of_perm hjoins hnumbers hnumbered hkeys hm', hgiven m hm']

end Joined

section Unjoined

variable {rows others : List Row} {objects : List Object}

theorem assemble_nil_eq_ok_iff : root.assemble [] split rows = .ok objects ↔
    List.Forall₂ (fun row o => root.read row = .ok o) rows objects := mapM_eq_ok_iff

/-- Without joins, the objects of a key are those of the rows with the key. -/
theorem assemble_nil_by_rootKey (h : root.assemble [] split rows = .ok objects) (k : Key) :
    root.assemble [] split (rows.filter fun row => root.rootKey? [] split row = some k) =
      .ok (objects.filter fun o => root.key? o = some k) := by
  rw [assemble_nil_eq_ok_iff] at h ⊢
  refine List.rel_filter ?_ h
  intro row o hread
  simp [ObjectType.rootKey?, key?_of_read hread]

theorem assemble_nil_perm (h : root.assemble [] split rows = .ok objects) (hperm : others.Perm rows) :
    ∃ objects', root.assemble [] split others = .ok objects' ∧ objects'.Perm objects := by
  obtain ⟨objects', hothers, hobjects⟩ := List.perm_comp_forall₂ hperm (assemble_nil_eq_ok_iff.1 h)
  exact ⟨objects', assemble_nil_eq_ok_iff.2 hothers, hobjects⟩

end Unjoined

/-! ## The objects of a key -/

/-- The rows whose root has a key are assembled to the objects of that key; with joins that is one object, and
without joins it is one for each of the rows. Rows of different roots may be mixed in any way: if those of a
key keep their order, the objects only change theirs. -/
theorem assemble_by_rootKey {rows : List Row} {objects : List Object} (hbuilt : ∀ j ∈ joins, j.IsBuilt)
    (h : root.assemble joins split rows = .ok objects) :
    (∀ k, (∃ row ∈ rows, root.rootKey? joins split row = some k) →
      root.assemble joins split (rows.filter fun row => root.rootKey? joins split row = some k) =
        .ok (objects.filter fun o => root.key? o = some k) ∧
      (objects.filter fun o => root.key? o = some k).length =
        if joins.isEmpty then (rows.filter fun row => root.rootKey? joins split row = some k).length else 1) ∧
    ∀ others : List Row, others.Perm rows →
      (∀ k, others.filter (fun row => root.rootKey? joins split row = some k) =
        rows.filter fun row => root.rootKey? joins split row = some k) →
      ∃ objects', root.assemble joins split others = .ok objects' ∧ objects'.Perm objects := by
  cases joins with
  | nil =>
    refine ⟨fun k _ => ?_, fun others hperm _ => assemble_nil_perm h hperm⟩
    have hkey := assemble_nil_by_rootKey h k
    exact ⟨hkey, (assemble_nil_eq_ok_iff.1 hkey).length_eq.symm⟩
  | cons j joins =>
    have hjoins : j :: joins ≠ [] := List.cons_ne_nil j joins
    refine ⟨fun k hk => ?_, fun others hperm hkeys => assemble_joined_perm hjoins h hperm hkeys⟩
    obtain ⟨o, hone, hown⟩ := assemble_joined_by_rootKey hjoins hbuilt h hk
    rw [hone]
    exact ⟨hown, rfl⟩

end Assembly

namespace Clubs

theorem isBuilt_joins : ∀ j ∈ joins, j.IsBuilt := by
  intro j hj b hb
  rcases List.mem_cons.1 hj with rfl | hj
  · exact ⟨[], members, 0, hb⟩
  · cases List.mem_singleton.1 hj
    exact ⟨[], card, 1, hb⟩

/-- The rows with the one of another club first. -/
def otherFirst : List Row :=
  [joined (.int 0) .null (.int 7), joined (.int 1) (.int 10) (.int 5), joined (.int 1) (.int 10) (.int 6),
    joined (.int 1) (.int 0) (.int 8)]

end Clubs

open Clubs in
/-- The rows of a club, without the row of another between them, and all of them mixed in another way. -/
theorem assemble_by_rootKey_clubs :
    (∀ j ∈ joins, j.IsBuilt) ∧ (keyed 0 "Club").assemble joins split rows = .ok objects ∧
      (keyed 0 "Club").assemble joins split
          (rows.filter fun row => (keyed 0 "Club").rootKey? joins split row = some (.int 1)) =
        .ok (objects.filter fun o => (keyed 0 "Club").key? o = some (.int 1)) ∧
      ∃ objects', (keyed 0 "Club").assemble joins split otherFirst = .ok objects' ∧
        objects'.Perm objects := by
  have hobjects : (keyed 0 "Club").assemble joins split rows = .ok objects := rfl
  obtain ⟨hkeys, hmixed⟩ := assemble_by_rootKey isBuilt_joins hobjects
  refine ⟨isBuilt_joins, hobjects, ?_, hmixed otherFirst ?_ fun k => rfl⟩
  · exact (hkeys (.int 1) ⟨joined (.int 1) (.int 10) (.int 5), List.mem_cons_self, rfl⟩).1
  · decide

open Clubs in
/-- Two rows of one table that have the same key are two objects. -/
theorem not_one_object_of_key :
    ¬ ∀ (root : ObjectType) (joins : List Join) (split : SplitPlan) (rows : List Row) (objects : List Object),
      root.assemble joins split rows = .ok objects →
      ∀ k, (∃ row ∈ rows, root.rootKey? joins split row = some k) →
        ∃ o, root.assemble joins split (rows.filter fun row => root.rootKey? joins split row = some k) = .ok [o] ∧
          objects.filter (fun o => root.key? o = some k) = [o] := by
  intro h
  obtain ⟨o, howned, -⟩ := h (keyed 0 "Club") [] {} [columns (.int 1), columns (.int 1)] _ rfl (.int 1)
    ⟨columns (.int 1), List.mem_cons_self, rfl⟩
  have htwo : ((keyed 0 "Club").assemble [] {} ([columns (.int 1), columns (.int 1)].filter fun row =>
      (keyed 0 "Club").rootKey? [] {} row = some (.int 1))).map List.length = .ok 2 := rfl
  rw [howned] at htwo
  cases htwo

end Rowgraph
