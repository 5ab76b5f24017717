import Rowgraph.Proofs.Graph.Reference

/-!
# When rows can be assembled

Not every part of a row is read: below a link to one object only the part where the object first occurs.
Rows can be assembled just where their links exist, each row can be cut, every object can be read where it is
read at all (`Readable`), and the setters attach what is to be attached; what comes back is then the graph of
their identities (`assemble_eq_ok_iff`).
-/

set_option autoImplicit false

namespace Rowgraph

variable {root : ObjectType} {links : List Link}

/-- Can the objects be read where they are read: an object with a mark of its own at each occurrence, and
every object where it first occurs? -/
structure Readable (root : ObjectType) (links : List Link) (occ : List (Identity × Row)) : Prop where
  marked : ∀ id part, (id, part) ∈ occ → id.mark ≠ .only → id.Reads root links part
  first : ∀ id part, occ.lookup id = some part → id.Reads root links part

/-- The occurrence behind others is read if it has a mark of its own or is the first. -/
theorem Readable.reads {occ more : List (Identity × Row)} {id : Identity} {part : Row}
    (h : Readable root links (occ ++ (id, part) :: more))
    (hread : id.mark ≠ .only ∨ id ∉ distinct occ) : id.Reads root links part := by
  rcases hread with hmark | hnew
  · exact h.marked id part (List.mem_append_right _ List.mem_cons_self) hmark
  · refine h.first id part ?_
    rw [List.append_cons]
    exact lookup_append_of_some (lookup_concat_of_not_mem hnew)

/-! ## Placing what can be read -/

section Placing

variable {row : Nat} {occ more : List (Identity × Row)} {f : Forest}

theorem Represents.placeChild_isOk {done : Nat} (h : Represents root links row done occ f)
    {parent : Identity} {index : Nat} {l : Link} {part : Row} (hl : links[index]? = some l)
    (hparent : parent ∈ distinct occ)
    (hreadable : Readable root links (occ ++ (.under parent index (l.mark row part), part) :: more)) :
    ∃ placed, f.placeChild l ⟨(distinct occ).idxOf parent, index⟩ part = .ok placed := by
  -- where the object is read, it is one of the link's type
  have hread : (Identity.under parent index (l.mark row part)).mark ≠ .only ∨
      Identity.under parent index (l.mark row part) ∉ distinct occ → ∃ o, l.child.read part = .ok o := by
    intro hwhere
    obtain ⟨type, o, htype, ho⟩ := hreadable.reads hwhere
    rw [Identity.type?, hl, Option.map_some, Option.some.injEq] at htype
    exact ⟨o, htype ▸ ho⟩
  rw [Forest.placeChild]
  cases hc : l.cardinality with
  | one =>
    have hm : l.mark row part = .only := by rw [Link.mark, hc]
    rw [hm] at hread
    rw [h.findOwned? hparent hl hc]
    by_cases hid : Identity.under parent index .only ∈ distinct occ
    · rw [if_pos hid]
      exact ⟨_, rfl⟩
    · obtain ⟨o, ho⟩ := hread (Or.inr hid)
      rw [if_neg hid, ho]
      exact ⟨_, rfl⟩
  | many =>
    have hm : l.mark row part ≠ .only := by
      rw [Link.mark, hc, Mark.ofPart]
      cases l.child.keyIn? part <;> simp
    obtain ⟨o, ho⟩ := hread (Or.inl hm)
    rw [ho]
    exact ⟨_, rfl⟩

theorem placeLink_isOk_of_readable {index : Nat} {l : Link} {part : Row}
    {before : List (Option Identity)} {nodes : List (Option Nat)}
    (h : Represents root links row (index + 1) occ f) (hl : links[index]? = some l)
    (hstands : Stands occ before nodes)
    (hreadable : Readable root links
      (occ ++ ((l.identity? row index part before).map fun id => (id, part)).toList ++ more)) :
    ∃ placed, f.placeLink l index part nodes = .ok placed := by
  rw [Forest.placeLink, hstands.parent]
  rw [Link.identity?] at hreadable
  cases hp : (before[l.parent]?).join with
  | none => exact ⟨_, rfl⟩
  | some parent =>
    simp only [hp, Option.map_some] at hreadable ⊢
    by_cases habsent : part.isAbsent = true
    · rw [if_pos habsent]
      exact ⟨_, rfl⟩
    · rw [if_neg habsent, Option.map_some, Option.toList_some, List.append_assoc,
        List.singleton_append] at hreadable
      have hparent : parent ∈ distinct occ :=
        hstands.occurs parent (List.mem_of_getElem? (Option.join_eq_some_iff.1 hp))
      obtain ⟨placed, hplaced⟩ := h.placeChild_isOk hl hparent hreadable
      rw [if_neg habsent, hplaced]
      exact ⟨_, rfl⟩

theorem placeLinks_isOk_of_readable {r : Row} (rest : List Link) :
    ∀ (done : List Link) {ranges : List (Nat × Nat)} {occ : List (Identity × Row)} {f : Forest}
      {before : List (Option Identity)} {nodes : List (Option Nat)},
      links = done ++ rest → Represents root links row (done.length + 1) occ f →
      Stands occ before nodes →
      Readable root links (occ ++ occurrencesBelow row rest
        (ranges.map fun (first, last) => r.slice first last) done.length before ++ more) →
      ∃ f', f.placeLinks r rest ranges done.length nodes = .ok f' := by
  -- over the links still to come; `done` counts the positions that were looked at
  induction rest with
  | nil =>
    intro done ranges occ f before nodes _ _ _ _
    exact ⟨f, by rw [Forest.placeLinks.eq_def]⟩
  | cons l rest ih =>
    intro done ranges occ f before nodes hlinks h hstands hreadable
    cases ranges with
    | nil => exact ⟨f, by rw [Forest.placeLinks.eq_def]⟩
    | cons range ranges =>
      obtain ⟨first, last⟩ := range
      have hl : links[done.length]? = some l := by simp [hlinks]
      rw [List.map_cons, occurrencesBelow, ← List.append_assoc] at hreadable
      obtain ⟨⟨node, g⟩, hlink⟩ := placeLink_isOk_of_readable h hl hstands
        (by rw [List.append_assoc] at hreadable; exact hreadable)
      obtain ⟨hrep, hstand⟩ := placeLink_represents h hl hstands hlink
      have hlinks' : links = (done ++ [l]) ++ rest := by simp [hlinks]
      have hlen : (done ++ [l]).length = done.length + 1 := List.length_append
      rw [← hlen] at hreadable
      obtain ⟨f', hf'⟩ := ih (done ++ [l]) hlinks' (by rw [hlen]; exact hrep) hstand hreadable
      refine ⟨f', ?_⟩
      rw [Forest.placeLinks.eq_def]
      exact bind_eq_ok.2 ⟨(node, g), hlink, hlen ▸ hf'⟩

theorem placeRow_isOk_of_readable {split : SplitPlan} {r : Row} {ranges : List (Nat × Nat)}
    (h : Represents root links row 0 occ f) (hranges : split.ranges r.width = .ok ranges)
    (hreadable : Readable root links (occ ++ occurrencesIn root links row (split.parts r) ++ more)) :
    ∃ f', Forest.placeRow root links split f r = .ok f' := by
  rw [Forest.placeRow, hranges]
  rw [SplitPlan.parts, hranges] at hreadable
  cases ranges with
  | nil => exact ⟨f, rfl⟩
  | cons range ranges =>
    obtain ⟨first, last⟩ := range
    let id : Identity := .root (.ofPart root row (r.slice first last))
    have hmark : id.mark ≠ .only := by
      simp only [id, Identity.mark, Mark.ofPart]
      cases root.keyIn? (r.slice first last) <;> simp
    simp only [List.map_cons, occurrencesIn, List.append_assoc, List.cons_append] at hreadable
    obtain ⟨type, o, htype, ho⟩ := hreadable.reads (Or.inl hmark)
    rw [Identity.type?, Option.some.injEq] at htype
    subst htype
    obtain ⟨hrep, hstands⟩ := placeRoot_represents h ho
    obtain ⟨f', hf'⟩ := placeLinks_isOk_of_readable links [] rfl hrep hstands
      (by rw [List.append_assoc, List.append_assoc]; exact hreadable)
    exact ⟨f', bind_eq_ok.2 ⟨_, rfl, bind_eq_ok.2 ⟨o, ho, hf'⟩⟩⟩

theorem foldlM_placeRow_isOk {split : SplitPlan} (rows : List Row) :
    ∀ {row : Nat} {occ : List (Identity × Row)} {f : Forest}, Represents root links row 0 occ f →
      (∀ r ∈ rows, ∃ ranges, split.ranges r.width = .ok ranges) →
      Readable root links (occ ++ occurrencesFrom root links split row rows) →
      ∃ f', rows.foldlM (Forest.placeRow root links split) f = .ok f' := by
  induction rows with
  | nil =>
    intro row occ f _ _ _
    exact ⟨f, rfl⟩
  | cons r rows ih =>
    intro row occ f h hranges hreadable
    rw [occurrencesFrom_cons, ← List.append_assoc] at hreadable
    obtain ⟨ranges, hr⟩ := hranges r List.mem_cons_self
    obtain ⟨g, hg⟩ := placeRow_isOk_of_readable h hr hreadable
    obtain ⟨f', hf'⟩ := ih (placeRow_represents h hg) (fun r' hr' => hranges r' (List.mem_cons_of_mem _ hr'))
      hreadable
    exact ⟨f', by rw [List.foldlM_cons]; exact bind_eq_ok.2 ⟨g, hg, hf'⟩⟩

end Placing

/-- The objects of a forest could be read where they were. -/
theorem Represents.readable {row done : Nat} {occ : List (Identity × Row)} {f : Forest}
    (h : Represents root links row done occ f) : Readable root links occ where
  marked := h.reads
  first := by
    intro id part hpart
    obtain ⟨before, after, hsplit, -⟩ := List.lookup_eq_some_iff.1 hpart
    have hid : id ∈ distinct occ := mem_distinct.2 ⟨part, by simp [hsplit]⟩
    obtain ⟨i, hi, rfl⟩ := List.mem_iff_getElem.1 hid
    obtain ⟨part', type, hpart', htype, hread⟩ := (h.nodes.get hi (h.nodes.length_eq ▸ hi)).object
    have hsame : some part' = some part := hpart'.symm.trans hpart
    cases hsame
    exact ⟨type, _, htype, hread⟩

/-- Joined rows are assembled just where the joins fit the root and the split plan, the plan fits the rows,
and the objects can be read where they are read; they are assembled to the graph of the identities in the
rows. -/
theorem assemble_eq_ok_iff {joins : List Join} {split : SplitPlan} {rows : List Row}
    {objects : List Object} (hjoins : joins ≠ []) :
    root.assemble joins split rows = .ok objects ↔
      ∃ links, Link.ofJoins root joins split = .ok links ∧
        (∀ row ∈ rows, ∃ ranges, split.ranges row.width = .ok ranges) ∧
        Readable root links (occurrences root links split rows) ∧
        IsGraphOf root links (occurrences root links split rows) objects := by
  rw [ObjectType.assemble, if_neg (by simpa using hjoins), bind_eq_ok]
  refine exists_congr fun links => and_congr_right fun _ => ?_
  constructor
  · intro h
    obtain ⟨f, hf, hroots⟩ := bind_eq_ok.1 h
    have hrep := ofRows_represents hf
    exact ⟨ranges_of_ofRows hf, hrep.readable, (isGraphOf_iff_of_roots hrep hroots objects).2 rfl⟩
  · rintro ⟨hranges, hreadable, whole, hwhole, rfl⟩
    obtain ⟨f, hf⟩ := foldlM_placeRow_isOk rows represents_empty hranges hreadable
    exact bind_eq_ok.2 ⟨f, hf, roots_of_assembled (ofRows_represents hf) hwhole⟩

end Rowgraph
