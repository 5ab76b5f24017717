import Rowgraph.Proofs.Graph.Represented
import Rowgraph.Proofs.Results

/-!
# Placing objects

One step of reading rows: an object of a row is looked for among the nodes and placed if it is not
there. On identities the step lets the object's identity occur once more (`Represents.place`,
`Represents.placeLink`), and a run over the links of a row and over the rows adds up to their
occurrences (`ofRows_represents`).
-/

set_option autoImplicit false

namespace Rowgraph

variable {root : ObjectType} {links : List Link}

theorem Identity.owner?_inj {ids : List Identity} {a b : Identity}
    (ha : ∀ p, a.parent? = some p → p ∈ ids) (howner : a.owner? ids = b.owner? ids)
    (hmark : a.mark = b.mark) : a = b := by
  cases a with
  | root m =>
    cases b with
    | root m' => rw [show m = m' from hmark]
    | under p' l' m' => simp [Identity.owner?] at howner
  | under p l m =>
    cases b with
    | root m' => simp [Identity.owner?] at howner
    | under p' l' m' =>
      simp only [Identity.owner?, Option.some.injEq, Owner.mk.injEq] at howner
      obtain ⟨hidx, rfl⟩ := howner
      have hp : p = p' := (List.idxOf_inj (ha p rfl)).1 hidx
      rw [hp, show m = m' from hmark]

theorem findIdx?_of_forall₂ {α β : Type} [DecidableEq α] {R : α → β → Prop} {as : List α}
    {bs : List β} (h : List.Forall₂ R as bs) {p : β → Bool} {target : α}
    (hp : ∀ a ∈ as, ∀ b, R a b → (p b = true ↔ a = target)) :
    bs.findIdx? p = if target ∈ as then some (as.idxOf target) else none := by
  induction h with
  | nil => rfl
  | @cons a b as bs hab hrest ih =>
    rw [List.findIdx?_cons]
    have hhead := hp a List.mem_cons_self b hab
    have htail := ih fun a ha => hp a (List.mem_cons_of_mem _ ha)
    by_cases ha : a = target
    · rw [if_pos (hhead.2 ha), if_pos (ha ▸ List.mem_cons_self), ha, List.idxOf_cons_self]
    · have hb : p b = false := by
        rw [Bool.eq_false_iff]
        exact fun hb => ha (hhead.1 hb)
      rw [hb, htail, List.idxOf_cons_ne _ ha]
      by_cases hmem : target ∈ as
      · simp [hmem]
      · simp [hmem, Ne.symm ha]

namespace Represents

variable {row done : Nat} {occ : List (Identity × Row)} {f : Forest}

/-- The node that is the first of its owner, below a link to one object. -/
theorem findOwned? (h : Represents root links row done occ f) {parent : Identity} {index : Nat}
    {l : Link} (hparent : parent ∈ distinct occ) (hl : links[index]? = some l)
    (hone : l.cardinality = .one) :
    f.findOwned? ⟨(distinct occ).idxOf parent, index⟩ =
      if Identity.under parent index .only ∈ distinct occ then
        some ((distinct occ).idxOf (.under parent index .only)) else none := by
  refine findIdx?_of_forall₂ h.nodes fun id hid node hnode => ?_
  rw [beq_iff_eq, hnode.owner]
  constructor
  · intro howner
    cases id with
    | root m => simp [Identity.owner?] at howner
    | under p i m =>
      simp only [Identity.owner?, Option.some.injEq, Owner.mk.injEq] at howner
      obtain ⟨hidx, rfl⟩ := howner
      have hp : p = parent := ((List.idxOf_inj hparent).1 hidx.symm).symm
      rw [hp, h.only p i m l hid hl hone]
  · rintro rfl
    rfl

/-- The node of an identity with a key. -/
theorem findKey? (h : Represents root links row done occ f) {id : Identity} {k : Key}
    (hk : id.mark = .key k) :
    f.findKey? (id.owner? (distinct occ)) k =
      if id ∈ distinct occ then some ((distinct occ).idxOf id) else none := by
  refine findIdx?_of_forall₂ h.nodes fun other hother node hnode => ?_
  rw [Bool.and_eq_true, beq_iff_eq, beq_iff_eq, hnode.owner, hnode.key]
  constructor
  · rintro ⟨howner, hkey⟩
    have hmark : other.mark = id.mark := by
      rw [hk]
      cases hm : other.mark <;> rw [hm] at hkey <;> simp_all [Mark.key?]
    exact Identity.owner?_inj (fun p hp => h.parents.parent_mem hother hp) howner hmark
  · rintro rfl
    exact ⟨rfl, by rw [hk]; rfl⟩

/-- An object without a key has not been seen before its row is read up to it. -/
theorem not_mem_of_inRow (h : Represents root links row done occ f) {id : Identity}
    (hmark : id.mark = .inRow row) (hpos : id.position = done) : id ∉ distinct occ := by
  intro hid
  rcases h.rows id hid row hmark with hlt | ⟨-, hlt⟩
  · exact absurd hlt (Nat.lt_irrefl row)
  · omega

theorem idxOf_concat (h : Represents root links row done occ f) {id : Identity} {part : Row}
    (hid : id ∉ distinct occ) :
    f.nodes.length = (distinct (occ ++ [(id, part)])).idxOf id := by
  rw [distinct_concat, if_neg hid, List.idxOf_append_of_notMem hid, List.idxOf_cons_self,
    ← h.nodes.length_eq]
  rfl

/-- Placing the object of an identity lets the identity occur once more. -/
theorem place (h : Represents root links row done occ f) (id : Identity) {part : Row}
    {type : ObjectType} {object : Object}
    (hparent : ∀ p, id.parent? = some p → p ∈ distinct occ)
    (htype : id.type? root links = some type) (hread : type.read part = .ok object)
    (honly : ∀ parent index mark l, id = .under parent index mark → links[index]? = some l →
      l.cardinality = .one → mark = .only)
    (hmark : id.mark = .ofPart type row part) (hpos : id.position = done) :
    Represents root links row (done + 1) (occ ++ [(id, part)])
        (f.place (id.owner? (distinct occ)) (type.key? object) object).2 ∧
      (f.place (id.owner? (distinct occ)) (type.key? object) object).1 =
        (distinct (occ ++ [(id, part)])).idxOf id := by
  have hkeyIn : type.keyIn? part = type.key? object := by
    rw [ObjectType.keyIn?, hread]
    rfl
  have hrow : ∀ r, id.mark = .inRow r → r = row ∧ id.position = done := by
    intro r hr
    rw [hmark, Mark.ofPart] at hr
    cases hk : type.keyIn? part with
    | none =>
      rw [hk] at hr
      simp only [Mark.inRow.injEq] at hr
      exact ⟨hr.symm, hpos⟩
    | some k => simp [hk] at hr
  have hadd (hid : id ∉ distinct occ) (hkey : id.mark.key? = type.key? object) :
      Represents root links row (done + 1) (occ ++ [(id, part)])
          (f.add ⟨id.owner? (distinct occ), type.key? object, object⟩).2 ∧
        (f.add ⟨id.owner? (distinct occ), type.key? object, object⟩).1 =
          (distinct (occ ++ [(id, part)])).idxOf id := by
    refine ⟨?_, h.idxOf_concat hid⟩
    rw [← hkey]
    exact h.add hid hparent htype hread honly hrow
  rw [Forest.place]
  cases hk : type.key? object with
  | none =>
    -- without a key the object is new wherever it stands
    have hm : id.mark = .inRow row := by rw [hmark, Mark.ofPart, hkeyIn, hk]
    have hid : id ∉ distinct occ := h.not_mem_of_inRow hm hpos
    rw [← hk]
    simpa [hk] using hadd hid (by rw [hm, hk]; rfl)
  | some k =>
    have hm : id.mark = .key k := by rw [hmark, Mark.ofPart, hkeyIn, hk]
    rw [Option.bind_some, h.findKey? hm]
    by_cases hid : id ∈ distinct occ
    · rw [if_pos hid]
      refine ⟨h.again hid fun _ => ⟨type, object, htype, hread⟩, ?_⟩
      rw [distinct_concat, if_pos hid]
    · rw [if_neg hid]
      simpa [hk] using hadd hid (by rw [hm, hk]; rfl)

/-- The object below a parent by a link. -/
theorem placeChild (h : Represents root links row done occ f) {parent : Identity} {index node : Nat}
    {l : Link} {part : Row} {f' : Forest} (hl : links[index]? = some l)
    (hparent : parent ∈ distinct occ) (hdone : index + 1 = done)
    (hok : f.placeChild l ⟨(distinct occ).idxOf parent, index⟩ part = .ok (node, f')) :
    Represents root links row (done + 1) (occ ++ [(.under parent index (l.mark row part), part)])
        f' ∧
      node = (distinct (occ ++ [(.under parent index (l.mark row part), part)])).idxOf
        (.under parent index (l.mark row part)) := by
  have hparents : ∀ m p, (Identity.under parent index m).parent? = some p → p ∈ distinct occ := by
    rintro m p hp
    rw [Identity.parent?, Option.some.injEq] at hp
    exact hp ▸ hparent
  have htype : ∀ m, (Identity.under parent index m).type? root links = some l.child := by
    intro m
    simp [Identity.type?, hl]
  rw [Forest.placeChild] at hok
  cases hc : l.cardinality with
  | one =>
    -- the first object below the parent stays the only one
    have hm : l.mark row part = .only := by rw [Link.mark, hc]
    rw [hc, h.findOwned? hparent hl hc] at hok
    rw [hm]
    by_cases hid : Identity.under parent index .only ∈ distinct occ
    · simp only [if_pos hid, Except.ok.injEq, Prod.mk.injEq] at hok
      obtain ⟨rfl, rfl⟩ := hok
      refine ⟨h.again hid fun hne => absurd rfl hne, ?_⟩
      rw [distinct_concat, if_pos hid]
    · simp only [if_neg hid] at hok
      obtain ⟨object, hread, hadd⟩ := bind_eq_ok.1 hok
      cases hadd
      refine ⟨?_, h.idxOf_concat hid⟩
      refine h.add hid (hparents _) (htype _) hread ?_ ?_
      · intro p i m l' heq _ _
        cases heq
        rfl
      · intro r hr
        cases hr
  | many =>
    have hm : l.mark row part = .ofPart l.child row part := by rw [Link.mark, hc]
    rw [hc] at hok
    obtain ⟨object, hread, hplace⟩ := bind_eq_ok.1 hok
    have hplaced := h.place (.under parent index (l.mark row part)) (hparents _) (htype _)
      hread (fun p i m l' heq hl' hone => ?_) hm hdone
    · have heq : f.place (some ⟨(distinct occ).idxOf parent, index⟩) (l.child.key? object) object =
          (node, f') := Except.ok.inj hplace
      rw [show (Identity.under parent index (l.mark row part)).owner? (distinct occ) =
        some ⟨(distinct occ).idxOf parent, index⟩ from rfl, heq] at hplaced
      exact hplaced
    · cases heq
      rw [hl] at hl'
      cases hl'
      rw [hc] at hone
      cases hone

end Represents

/-! ## Rows -/

/-- Does a forest know the objects of a row at the positions before? They are given by their nodes
to the forest, and by their identities here. -/
structure Stands (occ : List (Identity × Row)) (before : List (Option Identity))
    (nodes : List (Option Nat)) : Prop where
  nodes : nodes = before.map (Option.map fun id => (distinct occ).idxOf id)
  occurs : ∀ id, some id ∈ before → id ∈ distinct occ

theorem distinct_prefix_append (occ more : List (Identity × Row)) :
    distinct occ <+: distinct (occ ++ more) := by
  rw [distinct, distinct, List.map_append, List.eraseDups_append]
  exact List.prefix_append _ _

theorem Stands.append {occ : List (Identity × Row)} {before : List (Option Identity)}
    {nodes : List (Option Nat)} (h : Stands occ before nodes) (more : List (Identity × Row)) :
    Stands (occ ++ more) before nodes where
  nodes := by
    obtain ⟨rest, hrest⟩ := distinct_prefix_append occ more
    rw [h.nodes]
    refine List.map_congr_left fun id? hid => ?_
    cases id? with
    | none => rfl
    | some id =>
      simp only [Option.map_some, ← hrest, List.idxOf_append_of_mem (h.occurs id hid)]
  occurs := fun id hid => (distinct_prefix_append occ more).subset (h.occurs id hid)

theorem Stands.concat {occ : List (Identity × Row)} {before : List (Option Identity)}
    {nodes : List (Option Nat)} (h : Stands occ before nodes) (here : Option Identity)
    (hhere : ∀ id, here = some id → id ∈ distinct occ) :
    Stands occ (before ++ [here]) (nodes ++ [here.map fun id => (distinct occ).idxOf id]) where
  nodes := by rw [h.nodes, List.map_append, List.map_cons, List.map_nil]
  occurs := by
    intro id hid
    rcases List.mem_append.1 hid with hid | hid
    · exact h.occurs id hid
    · exact hhere id (List.mem_singleton.1 hid).symm

theorem Stands.parent {occ : List (Identity × Row)} {before : List (Option Identity)}
    {nodes : List (Option Nat)} (h : Stands occ before nodes) (position : Nat) :
    (nodes[position]?).join =
      (before[position]?).join.map fun id => (distinct occ).idxOf id := by
  rw [h.nodes, List.getElem?_map]
  cases before[position]? with
  | none => rfl
  | some id? => rfl

/-- One link's object of a row. -/
theorem placeLink_represents {row index : Nat} {occ : List (Identity × Row)} {f f' : Forest}
    {l : Link} {part : Row} {before : List (Option Identity)} {nodes : List (Option Nat)}
    {node : Option Nat} (h : Represents root links row (index + 1) occ f)
    (hl : links[index]? = some l) (hstands : Stands occ before nodes)
    (hok : f.placeLink l index part nodes = .ok (node, f')) :
    Represents root links row (index + 2)
        (occ ++ ((l.identity? row index part before).map fun id => (id, part)).toList) f' ∧
      Stands (occ ++ ((l.identity? row index part before).map fun id => (id, part)).toList)
        (before ++ [l.identity? row index part before]) (nodes ++ [node]) := by
  rw [Forest.placeLink, hstands.parent] at hok
  rw [Link.identity?]
  cases hp : (before[l.parent]?).join with
  | none =>
    -- where there is no parent there is no child
    simp only [hp, Option.map_none, Except.ok.injEq, Prod.mk.injEq] at hok
    obtain ⟨rfl, rfl⟩ := hok
    rw [Option.map_none, Option.toList_none, List.append_nil]
    exact ⟨h.skip, hstands.concat none fun id hid => by cases hid⟩
  | some parent =>
    simp only [hp, Option.map_some] at hok
    by_cases habsent : part.isAbsent = true
    -- a part of nothing but NULLs is no child
    · simp only [habsent, if_true, Except.ok.injEq, Prod.mk.injEq] at hok
      obtain ⟨rfl, rfl⟩ := hok
      simp only [habsent, if_true, Option.map_none, Option.toList_none, List.append_nil]
      exact ⟨h.skip, hstands.concat none fun id hid => by cases hid⟩
    · simp only [habsent] at hok ⊢
      obtain ⟨⟨placed, g⟩, hchild, heq⟩ := map_eq_ok.1 hok
      cases heq
      have hparent : parent ∈ distinct occ := by
        refine hstands.occurs parent ?_
        rw [Option.join_eq_some_iff] at hp
        exact List.mem_of_getElem? hp
      obtain ⟨hrep, hnode⟩ := h.placeChild hl hparent rfl hchild
      refine ⟨hrep, ?_⟩
      rw [hnode]
      refine (hstands.append _).concat (some _) fun id hid => ?_
      cases hid
      exact mem_distinct.2 ⟨part, List.mem_append_right _ List.mem_cons_self⟩

/-- The objects of a row below its root. -/
theorem placeLinks_represents {row : Nat} {r : Row} (rest : List Link) :
    ∀ (done : List Link) {ranges : List (Nat × Nat)} {occ : List (Identity × Row)} {f f' : Forest}
      {before : List (Option Identity)} {nodes : List (Option Nat)},
      links = done ++ rest → Represents root links row (done.length + 1) occ f →
      Stands occ before nodes →
      f.placeLinks r rest ranges done.length nodes = .ok f' →
      ∃ last, Represents root links row last
        (occ ++ occurrencesBelow row rest (ranges.map fun (first, last) => r.slice first last)
          done.length before) f' := by
  -- over the links still to come; `done` counts the positions that were looked at
  induction rest with
  | nil =>
    intro done ranges occ f f' before nodes _ h _ hok
    rw [Forest.placeLinks.eq_def, Except.ok.injEq] at hok
    rw [occurrencesBelow.eq_def, List.append_nil, ← hok]
    exact ⟨_, h⟩
  | cons l rest ih =>
    intro done ranges occ f f' before nodes hlinks h hstands hok
    cases ranges with
    | nil =>
      rw [Forest.placeLinks.eq_def, Except.ok.injEq] at hok
      simp only [List.map_nil, occurrencesBelow, List.append_nil, ← hok]
      exact ⟨_, h⟩
    | cons range ranges =>
      obtain ⟨first, last⟩ := range
      rw [Forest.placeLinks.eq_def] at hok
      obtain ⟨⟨node, g⟩, hlink, hrest⟩ := bind_eq_ok.1 hok
      have hl : links[done.length]? = some l := by simp [hlinks]
      obtain ⟨hrep, hstand⟩ := placeLink_represents h hl hstands hlink
      have hlinks' : links = (done ++ [l]) ++ rest := by simp [hlinks]
      have hlen : (done ++ [l]).length = done.length + 1 := List.length_append
      rw [← hlen] at hrest
      obtain ⟨stop, hstop⟩ := ih (done ++ [l]) hlinks' (hlen ▸ hrep) hstand hrest
      refine ⟨stop, ?_⟩
      rw [hlen, List.append_assoc] at hstop
      exact hstop

/-- The root of a row. -/
theorem placeRoot_represents {row : Nat} {occ : List (Identity × Row)} {f : Forest} {part : Row}
    {object : Object} (h : Represents root links row 0 occ f) (hread : root.read part = .ok object) :
    Represents root links row 1 (occ ++ [(.root (.ofPart root row part), part)])
        (f.place none (root.key? object) object).2 ∧
      Stands (occ ++ [(.root (.ofPart root row part), part)]) [some (.root (.ofPart root row part))]
        [some (f.place none (root.key? object) object).1] := by
  let id : Identity := .root (.ofPart root row part)
  obtain ⟨hrep, hnode⟩ := h.place id (fun p hp => by cases hp) rfl hread
    (fun p i m l heq => by simp [id] at heq) rfl rfl
  refine ⟨hrep, congrArg (fun n => [some n]) hnode, fun other hother => ?_⟩
  rw [List.mem_singleton, Option.some.injEq] at hother
  rw [hother]
  exact mem_distinct.2 ⟨_, List.mem_append_right _ List.mem_cons_self⟩

/-- The objects of a row. -/
theorem placeRow_represents {row : Nat} {split : SplitPlan} {occ : List (Identity × Row)}
    {f f' : Forest} {r : Row} (h : Represents root links row 0 occ f)
    (hok : Forest.placeRow root links split f r = .ok f') :
    Represents root links (row + 1) 0 (occ ++ occurrencesIn root links row (split.parts r)) f' := by
  rw [Forest.placeRow] at hok
  obtain ⟨ranges, hranges, hok⟩ := bind_eq_ok.1 hok
  rw [SplitPlan.parts, hranges]
  cases ranges with
  | nil =>
    cases hok
    simpa [occurrencesIn] using h.next
  | cons range ranges =>
    obtain ⟨first, last⟩ := range
    obtain ⟨object, hread, hok⟩ := bind_eq_ok.1 hok
    obtain ⟨hrep, hstands⟩ := placeRoot_represents h hread
    obtain ⟨stop, hstop⟩ := placeLinks_represents links [] rfl hrep hstands hok
    simpa [occurrencesIn] using hstop.next

theorem occurrencesFrom_cons (split : SplitPlan) (first : Nat) (r : Row) (rows : List Row) :
    occurrencesFrom root links split first (r :: rows) =
      occurrencesIn root links first (split.parts r) ++
        occurrencesFrom root links split (first + 1) rows := by
  rw [occurrencesFrom, List.zipIdx_cons, List.flatMap_cons]
  rfl

theorem foldlM_placeRow_represents {split : SplitPlan} (rows : List Row) :
    ∀ {row : Nat} {occ : List (Identity × Row)} {f f' : Forest},
      Represents root links row 0 occ f →
      rows.foldlM (Forest.placeRow root links split) f = .ok f' →
      Represents root links (row + rows.length) 0
        (occ ++ occurrencesFrom root links split row rows) f' := by
  induction rows with
  | nil =>
    intro row occ f f' h hok
    cases hok
    simpa [occurrencesFrom] using h
  | cons r rows ih =>
    intro row occ f f' h hok
    rw [List.foldlM_cons] at hok
    obtain ⟨g, hrow, hrest⟩ := bind_eq_ok.1 hok
    have hrep := ih (placeRow_represents h hrow) hrest
    rw [List.append_assoc, ← occurrencesFrom_cons] at hrep
    have hlen : row + (r :: rows).length = row + 1 + rows.length := by
      rw [List.length_cons]
      omega
    rw [hlen]
    exact hrep

/-- The forest of rows has the nodes of the identities that occur in them. -/
theorem ofRows_represents {split : SplitPlan} {rows : List Row} {f : Forest}
    (hok : Forest.ofRows root links split rows = .ok f) :
    Represents root links rows.length 0 (occurrences root links split rows) f := by
  have h := foldlM_placeRow_represents rows represents_empty hok
  rwa [Nat.zero_add] at h

end Rowgraph
