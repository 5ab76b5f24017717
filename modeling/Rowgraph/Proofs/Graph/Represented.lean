import Rowgraph.Proofs.FirstOccurrences
import Rowgraph.Proofs.Graph.Identity
import Mathlib.Data.List.Forall2

/-!
# Forests and identities

The forest that rows are turned into has one node for each identity that occurs, in the order of
first occurrence (`Represents`). Finding a node is therefore finding an identity, and placing an
object is letting its identity occur once more: the forest of rows represents their occurrences
(`ofRows_represents`).
-/

set_option autoImplicit false

namespace Rowgraph

variable {root : ObjectType} {links : List Link}

/-! ## Lists that grow at the end -/

theorem getElem?_concat {α : Type} (l : List α) (x : α) (i : Nat) :
    (l ++ [x])[i]? = if i = l.length then some x else l[i]? := by
  rcases Nat.lt_trichotomy i l.length with h | h | h
  · rw [List.getElem?_append_left h, if_neg (Nat.ne_of_lt h)]
  · rw [if_pos h, h, List.getElem?_concat_length]
  · rw [if_neg (Nat.ne_of_gt h), List.getElem?_eq_none (Nat.le_of_lt h), List.getElem?_eq_none]
    rw [List.length_append, List.length_singleton]
    exact h

theorem getElem?_concat_eq_some_iff {α : Type} {l : List α} {x y : α} {i : Nat} :
    (l ++ [x])[i]? = some y ↔ l[i]? = some y ∨ i = l.length ∧ x = y := by
  rw [getElem?_concat]
  by_cases h : i = l.length
  · rw [if_pos h, h, List.getElem?_eq_none (Nat.le_refl _)]
    simp
  · rw [if_neg h]
    simp [h]

/-! ## Occurrences -/

theorem mem_distinct {occ : List (Identity × Row)} {id : Identity} :
    id ∈ distinct occ ↔ ∃ part, (id, part) ∈ occ := by
  simp [distinct]

theorem nodup_distinct (occ : List (Identity × Row)) : (distinct occ).Nodup := nodup_eraseDups _

theorem distinct_concat (occ : List (Identity × Row)) (id : Identity) (part : Row) :
    distinct (occ ++ [(id, part)]) =
      if id ∈ distinct occ then distinct occ else distinct occ ++ [id] := by
  simp only [distinct, List.map_append, List.map_cons, List.map_nil, eraseDups_concat,
    List.mem_eraseDups]

theorem lookup_append_of_some {occ more : List (Identity × Row)} {id : Identity} {part : Row}
    (h : occ.lookup id = some part) : (occ ++ more).lookup id = some part := by
  rw [List.lookup_append, h]
  rfl

theorem lookup_concat_of_not_mem {occ : List (Identity × Row)} {id : Identity} {part : Row}
    (h : id ∉ distinct occ) : (occ ++ [(id, part)]).lookup id = some part := by
  have hnone : occ.lookup id = none := by
    rw [List.lookup_eq_none_iff]
    rintro ⟨other, p⟩ hmem
    have hne : id ≠ other := fun he => h (mem_distinct.2 ⟨p, he ▸ hmem⟩)
    simpa using hne
  rw [List.lookup_append, hnone, List.lookup_cons_self]
  rfl

/-- What holds of an object at its parent's place holds of the object that a part gives, if it gives one. -/
theorem Link.identity?_induction {l : Link} {row index : Nat} {part : Row} {before : List (Option Identity)}
    {P : Nat → Identity → Prop} (hbefore : ∀ k id, before[k]? = some (some id) → P k id)
    (hunder : ∀ parent, P l.parent parent → P (index + 1) (.under parent index (l.mark row part)))
    {id : Identity} (h : l.identity? row index part before = some id) : P (index + 1) id := by
  rw [Link.identity?] at h
  cases hparent : (before[l.parent]?).join with
  | none => simp [hparent] at h
  | some parent =>
    simp only [hparent] at h
    split at h
    · cases h
    · cases h
      exact hunder parent (hbefore _ _ (Option.join_eq_some_iff.1 hparent))

/-- What holds of the objects at the positions before, and of an object below another when it holds of that
one, holds of all objects of the rest of a row. -/
theorem occurrencesBelow_induction {row : Nat} {P : Nat → Identity → Prop} (rest : List Link) :
    ∀ (parts : List Row) (before : List (Option Identity)) (index : Nat), before.length = index + 1 →
      (∀ k id, before[k]? = some (some id) → P k id) →
      (∀ j l parent part, rest[j]? = some l → P l.parent parent →
        P (index + j + 1) (.under parent (index + j) (l.mark row part))) →
      ∀ o ∈ occurrencesBelow row rest parts index before, ∃ k, 0 < k ∧ P k o.1 := by
  induction rest with
  | nil =>
    intro parts before index _ _ _ o ho
    rw [occurrencesBelow.eq_def] at ho
    exact absurd ho List.not_mem_nil
  | cons l rest ih =>
    intro parts before index hlength hbefore hunder o ho
    cases parts with
    | nil =>
      rw [occurrencesBelow.eq_def] at ho
      exact absurd ho List.not_mem_nil
    | cons part parts =>
      have hhere : ∀ id, l.identity? row index part before = some id → P (index + 1) id :=
        fun _ => Link.identity?_induction hbefore fun parent => hunder 0 l parent part rfl
      rw [occurrencesBelow, List.mem_append] at ho
      rcases ho with ho | ho
      · rw [Option.mem_toList, Option.map_eq_some_iff] at ho
        obtain ⟨id, hid, rfl⟩ := ho
        exact ⟨index + 1, Nat.succ_pos index, hhere id hid⟩
      · refine ih parts (before ++ [l.identity? row index part before]) (index + 1)
          (by rw [List.length_append, hlength]; rfl) ?_ ?_ o ho
        · -- the objects before are now one more, the one that this part gives
          intro k id hk
          rcases getElem?_concat_eq_some_iff.1 hk with hk | ⟨rfl, hid⟩
          · exact hbefore k id hk
          · rw [hlength]
            exact hhere id hid
        · intro j l' parent part' hj hparent
          have hnext := hunder (j + 1) l' parent part' hj hparent
          rwa [← Nat.add_assoc, Nat.add_right_comm index j 1] at hnext

/-- What holds of a row's root, and of an object below another when it holds of that one, holds of all
objects of the row. -/
theorem occurrencesIn_induction {row : Nat} {parts : List Row} {P : Nat → Identity → Prop}
    (hroot : P 0 (.root (.ofPart root row (parts.headD .empty))))
    (hunder : ∀ j l parent part, links[j]? = some l → P l.parent parent →
      P (j + 1) (.under parent j (l.mark row part))) :
    ∀ o ∈ occurrencesIn root links row parts, ∃ k, P k o.1 := by
  cases parts with
  | nil => exact fun o ho => absurd ho List.not_mem_nil
  | cons part parts =>
    intro o ho
    rcases List.mem_cons.1 ho with rfl | ho
    · exact ⟨0, hroot⟩
    · have hbefore : ∀ k id, [some (Identity.root (.ofPart root row part))][k]? = some (some id) →
          P k id := by
        rintro (_ | k) id hk
        · cases hk
          exact hroot
        · cases hk
      have hbelow : ∀ j l parent part, links[j]? = some l → P l.parent parent →
          P (0 + j + 1) (.under parent (0 + j) (l.mark row part)) := by
        simpa only [Nat.zero_add] using hunder
      obtain ⟨k, -, hk⟩ := occurrencesBelow_induction links parts _ 0 rfl hbefore hbelow o ho
      exact ⟨k, hk⟩

/-! ## Nodes -/

/-- The owner of an identity's node, the nodes being numbered like the identities. -/
def Identity.owner? (ids : List Identity) : Identity → Option Owner
  | .root _ => none
  | .under parent link _ => some ⟨ids.idxOf parent, link⟩

theorem Identity.owner?_of_prefix {ids more : List Identity} {id : Identity} (h : ids <+: more)
    (hparent : ∀ p, id.parent? = some p → p ∈ ids) : id.owner? more = id.owner? ids := by
  obtain ⟨rest, rfl⟩ := h
  cases id with
  | root mark => rfl
  | under parent link mark =>
    have hmem : parent ∈ ids := hparent parent rfl
    simp only [Identity.owner?, List.idxOf_append_of_mem hmem]

/-- Is a node the one of an identity? -/
structure NodeOf (root : ObjectType) (links : List Link) (occ : List (Identity × Row))
    (id : Identity) (node : Node) : Prop where
  owner : node.owner = id.owner? (distinct occ)
  key : node.key = id.mark.key?
  object : ∃ part type, occ.lookup id = some part ∧ id.type? root links = some type ∧
    type.read part = .ok node.object

/-- Does every identity stand behind its parent? -/
def ParentsFirst (ids : List Identity) : Prop :=
  ∀ before id after, ids = before ++ id :: after → ∀ p, id.parent? = some p → p ∈ before

theorem ParentsFirst.concat {ids : List Identity} {id : Identity} (h : ParentsFirst ids)
    (hid : ∀ p, id.parent? = some p → p ∈ ids) : ParentsFirst (ids ++ [id]) := by
  intro before other after heq p hp
  rcases List.eq_nil_or_concat after with rfl | ⟨init, last, rfl⟩
  · obtain ⟨rfl, hother⟩ := List.append_inj' heq rfl
    simp only [List.cons.injEq, and_true] at hother
    subst hother
    exact hid p hp
  · have hsplit : ids ++ [id] = (before ++ other :: init) ++ [last] := by
      rw [heq]
      simp
    obtain ⟨hids, -⟩ := List.append_inj' hsplit rfl
    exact h before other init hids p hp

theorem ParentsFirst.parent_mem {ids : List Identity} (h : ParentsFirst ids) {id p : Identity}
    (hid : id ∈ ids) (hp : id.parent? = some p) : p ∈ ids := by
  obtain ⟨before, after, rfl⟩ := List.append_of_mem hid
  exact List.mem_append_left _ (h before id after rfl p hp)

/-- Does a forest have the nodes of the identities that occur? Of the row numbered `row`, the
positions up to `done` have been looked at; an object of a row has its mark from there. -/
structure Represents (root : ObjectType) (links : List Link) (row done : Nat)
    (occ : List (Identity × Row)) (f : Forest) : Prop where
  nodes : List.Forall₂ (NodeOf root links occ) (distinct occ) f.nodes
  parents : ParentsFirst (distinct occ)
  /-- Below a link to one object there is nothing else than that object. -/
  only : ∀ parent index mark l, Identity.under parent index mark ∈ distinct occ →
    links[index]? = some l → l.cardinality = .one → mark = .only
  rows : ∀ id ∈ distinct occ, ∀ r, id.mark = .inRow r → r < row ∨ r = row ∧ id.position < done
  reads : ∀ id part, (id, part) ∈ occ → id.mark ≠ .only → id.Reads root links part

theorem represents_empty : Represents root links 0 0 [] {} where
  nodes := List.Forall₂.nil
  parents := by
    intro before id after h
    simp [distinct] at h
  only := by simp [distinct]
  rows := by simp [distinct]
  reads := by simp

namespace Represents

variable {row done : Nat} {occ : List (Identity × Row)} {f : Forest}

/-- The end of a row. -/
theorem next (h : Represents root links row done occ f) :
    Represents root links (row + 1) 0 occ f where
  nodes := h.nodes
  parents := h.parents
  only := h.only
  reads := h.reads
  rows := by
    intro id hid r hr
    rcases h.rows id hid r hr with hlt | ⟨rfl, -⟩
    · exact Or.inl (by omega)
    · exact Or.inl (by omega)

/-- A position without an object. -/
theorem skip (h : Represents root links row done occ f) :
    Represents root links row (done + 1) occ f where
  nodes := h.nodes
  parents := h.parents
  only := h.only
  reads := h.reads
  rows := by
    intro id hid r hr
    rcases h.rows id hid r hr with hlt | ⟨rfl, hpos⟩
    · exact Or.inl hlt
    · exact Or.inr ⟨rfl, by omega⟩

/-- The nodes stay those of their identities when more occurs. -/
theorem nodes_append (h : Represents root links row done occ f) {more : List (Identity × Row)}
    (hmore : distinct occ <+: distinct (occ ++ more)) :
    List.Forall₂ (NodeOf root links (occ ++ more)) (distinct occ) f.nodes := by
  refine List.forall₂_iff_get.2 ⟨h.nodes.length_eq, fun i h₁ h₂ => ?_⟩
  have hnode := h.nodes.get h₁ h₂
  obtain ⟨part, type, hl, ht, hr⟩ := hnode.object
  refine ⟨?_, hnode.key, part, type, lookup_append_of_some hl, ht, hr⟩
  rw [hnode.owner]
  exact (Identity.owner?_of_prefix hmore
    fun p hp => h.parents.parent_mem (List.get_mem _ _) hp).symm

theorem reads_concat (h : Represents root links row done occ f) {id : Identity} {part : Row}
    (hreads : id.mark ≠ .only → id.Reads root links part) (other : Identity) (p : Row)
    (hmem : (other, p) ∈ occ ++ [(id, part)]) (hmark : other.mark ≠ .only) :
    other.Reads root links p := by
  rcases List.mem_append.1 hmem with hmem | hmem
  · exact h.reads other p hmem hmark
  · cases List.mem_singleton.1 hmem
    exact hreads hmark

/-- An identity that occurs again changes nothing. -/
theorem again (h : Represents root links row done occ f) {id : Identity} {part : Row}
    (hid : id ∈ distinct occ) (hreads : id.mark ≠ .only → id.Reads root links part) :
    Represents root links row (done + 1) (occ ++ [(id, part)]) f := by
  have hd : distinct (occ ++ [(id, part)]) = distinct occ := by rw [distinct_concat, if_pos hid]
  refine ⟨?_, ?_, ?_, ?_, h.reads_concat hreads⟩
  · rw [hd]
    exact h.nodes_append (hd ▸ List.prefix_rfl)
  · rw [hd]
    exact h.parents
  · rw [hd]
    exact h.only
  · rw [hd]
    exact h.skip.rows

/-- An identity that occurs for the first time gets a node at the end. -/
theorem add (h : Represents root links row done occ f) {id : Identity} {part : Row}
    {type : ObjectType} {object : Object} (hid : id ∉ distinct occ)
    (hparent : ∀ p, id.parent? = some p → p ∈ distinct occ)
    (htype : id.type? root links = some type) (hread : type.read part = .ok object)
    (honly : ∀ parent index mark l, id = .under parent index mark → links[index]? = some l →
      l.cardinality = .one → mark = .only)
    (hrow : ∀ r, id.mark = .inRow r → r = row ∧ id.position = done) :
    Represents root links row (done + 1) (occ ++ [(id, part)])
      ⟨f.nodes ++ [⟨id.owner? (distinct occ), id.mark.key?, object⟩]⟩ := by
  have hd : distinct (occ ++ [(id, part)]) = distinct occ ++ [id] := by
    rw [distinct_concat, if_neg hid]
  have hmore : distinct occ <+: distinct (occ ++ [(id, part)]) := hd ▸ List.prefix_append _ _
  refine ⟨?_, ?_, ?_, ?_, h.reads_concat fun _ => ⟨type, object, htype, hread⟩⟩
  · rw [hd]
    refine List.rel_append (h.nodes_append hmore) (List.Forall₂.cons ?_ List.Forall₂.nil)
    exact ⟨(Identity.owner?_of_prefix hmore hparent).symm, rfl, part, type,
      lookup_concat_of_not_mem hid, htype, hread⟩
  · rw [hd]
    exact h.parents.concat hparent
  · rw [hd]
    intro parent index mark l hmem
    rcases List.mem_append.1 hmem with hmem | hmem
    · exact h.only parent index mark l hmem
    · exact honly parent index mark l (List.mem_singleton.1 hmem).symm
  · rw [hd]
    intro other hmem r hr
    rcases List.mem_append.1 hmem with hmem | hmem
    · exact h.skip.rows other hmem r hr
    · rw [List.mem_singleton.1 hmem] at hr ⊢
      obtain ⟨rfl, hpos⟩ := hrow r hr
      exact Or.inr ⟨rfl, by omega⟩

end Represents

end Rowgraph
