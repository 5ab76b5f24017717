import Rowgraph.Proofs.Graph.Placed

/-!
# Attaching from the newest node on

A forest that represents identities is folded from its newest node to its oldest. At every moment the
complete objects that are not attached yet are those of the later identities whose parents are still to
come (`pending`), so the fold gives the roots of an assembled graph (`roots_eq_of_assembled`), and
whatever it gives belongs to one (`assembled_of_roots`).
-/

set_option autoImplicit false

namespace Rowgraph

variable {root : ObjectType} {links : List Link}

/-! ## Children -/

theorem not_mem_before {ids before after : List Identity} {id : Identity} (hnodup : ids.Nodup)
    (hsplit : ids = before ++ id :: after) : id ∉ before := by
  intro hmem
  rw [hsplit] at hnodup
  exact (List.nodup_append.1 hnodup).2.2 id hmem id List.mem_cons_self rfl

/-- Children stand behind their parent. -/
theorem mem_after_of_parent? {ids before after : List Identity} (hparents : ParentsFirst ids)
    (hnodup : ids.Nodup) (hsplit : ids = before ++ after) {c p : Identity} (hc : c ∈ ids)
    (hp : c.parent? = some p) (hmem : p ∈ after) : c ∈ after := by
  rw [hsplit] at hc
  rcases List.mem_append.1 hc with hc | hc
  · obtain ⟨pre, post, rfl⟩ := List.append_of_mem hc
    have hsplit' : ids = pre ++ c :: (post ++ after) := by
      rw [hsplit, List.append_assoc, List.cons_append]
    have hpre : p ∈ pre := hparents pre c _ hsplit' p hp
    rw [hsplit] at hnodup
    exact absurd rfl ((List.nodup_append.1 hnodup).2.2 p (List.mem_append_left _ hpre) p hmem)
  · exact hc

theorem children_eq_of_split {ids before after : List Identity} {id : Identity}
    (hparents : ParentsFirst ids) (hnodup : ids.Nodup) (hsplit : ids = before ++ id :: after) :
    id.children ids = id.children after := by
  have hid := not_mem_before hnodup hsplit
  have hself : id.parent? ≠ some id := fun hp => hid (hparents before id after hsplit id hp)
  have hnil : before.filter (fun c => c.parent? = some id) = [] := by
    rw [List.filter_eq_nil_iff]
    intro c hc hp
    rw [decide_eq_true_eq] at hp
    have hids : c ∈ ids := hsplit ▸ List.mem_append_left _ hc
    have hafter := mem_after_of_parent? hparents hnodup hsplit hids hp List.mem_cons_self
    rw [hsplit] at hnodup
    exact (List.nodup_append.1 hnodup).2.2 c hc c hafter rfl
  rw [hsplit, Identity.children, List.filter_append, hnil, List.nil_append,
    List.filter_cons_of_neg (by simpa using hself)]
  rfl

/-- The complete objects that wait for their parents: of the identities `after`, those below one of
`before`. -/
def pending (ids before after : List Identity) (whole : Identity → Object) :
    List (Owner × Object) :=
  (after.filter fun c => c.parent?.any (· ∈ before)).filterMap fun c =>
    (c.owner? ids).map fun owner => (owner, whole c)

theorem pending_cons_root {ids before after : List Identity} {whole : Identity → Object}
    (mark : Mark) :
    pending ids before (.root mark :: after) whole = pending ids before after whole := by
  simp [pending, Identity.parent?]

theorem pending_cons_under {ids before after : List Identity} {whole : Identity → Object}
    {parent : Identity} (link : Nat) (mark : Mark) (h : parent ∈ before) :
    pending ids before (.under parent link mark :: after) whole =
      (⟨ids.idxOf parent, link⟩, whole (.under parent link mark)) ::
        pending ids before after whole := by
  simp [pending, Identity.parent?, Identity.owner?, h]

theorem pending_cons_of_not_mem {ids before after : List Identity} {whole : Identity → Object}
    {parent : Identity} (link : Nat) (mark : Mark) (h : parent ∉ before) :
    pending ids before (.under parent link mark :: after) whole =
      pending ids before after whole := by
  simp [pending, Identity.parent?, h]

theorem pending_congr {ids before after : List Identity} {whole whole' : Identity → Object}
    (h : ∀ c ∈ after, whole c = whole' c) :
    pending ids before after whole = pending ids before after whole' := by
  refine List.filterMap_congr fun c hc => ?_
  rw [h c (List.mem_filter.1 hc).1]

section Split

variable {ids before after : List Identity} {id : Identity}

theorem idxOf_eq_length_iff (hnodup : ids.Nodup) (hsplit : ids = before ++ id :: after)
    {p : Identity} (hp : p ∈ before ++ [id]) : ids.idxOf p = before.length ↔ p = id := by
  have hid := not_mem_before hnodup hsplit
  have hidx : ids.idxOf id = before.length := by
    rw [hsplit, List.idxOf_append_of_notMem hid, List.idxOf_cons_self, Nat.add_zero]
  have hmem : p ∈ ids := by
    rw [hsplit, List.append_cons]
    exact List.mem_append_left _ hp
  constructor
  · intro h
    exact (List.idxOf_inj hmem).1 (h.trans hidx.symm)
  · rintro rfl
    exact hidx

/-- Of the waiting objects, those of the children of the last of `before ++ [id]` go to it. -/
theorem attachAll_pending (hnodup : ids.Nodup) (hsplit : ids = before ++ id :: after)
    (whole : Identity → Object) (cs : List Identity) : ∀ o : Object,
      Forest.attachAll links o
          (((pending ids (before ++ [id]) cs whole).filter fun c => c.1.node == before.length).map
            fun c => (c.1.link, c.2)) =
        (id.children cs).foldlM (fun o c => c.setter links o (whole c)) o := by
  induction cs with
  | nil =>
    intro o
    rfl
  | cons c cs ih =>
    intro o
    cases c with
    | root mark =>
      rw [pending_cons_root, ih o]
      simp [Identity.children, Identity.parent?]
    | under p link mark =>
      by_cases hp : p ∈ before ++ [id]
      · rw [pending_cons_under link mark hp]
        by_cases hid : p = id
        -- a child of `id`: attached now, unless its link does not exist
        · have hidx : (ids.idxOf p == before.length) = true := by
            rw [beq_iff_eq, idxOf_eq_length_iff hnodup hsplit hp]
            exact hid
          have hchild : id.children (.under p link mark :: cs) =
              .under p link mark :: id.children cs := by
            simp [Identity.children, Identity.parent?, hid]
          rw [List.filter_cons_of_pos (by simpa using hidx), List.map_cons, hchild,
            List.foldlM_cons, Forest.attachAll]
          cases hl : links[link]? with
          | none =>
            simp only [hl, Identity.setter]
            exact ih o
          | some l =>
            simp only [hl, Identity.setter]
            cases l.setter o (whole (.under p link mark)) with
            | error e => rfl
            | ok o' => exact ih o'
        -- it waits for an older identity
        · have hidx : ids.idxOf p ≠ before.length := fun h =>
            hid ((idxOf_eq_length_iff hnodup hsplit hp).1 h)
          rw [List.filter_cons_of_neg (by simpa using hidx), ih o]
          simp [Identity.children, Identity.parent?, hid]
      -- its parent is a later identity and has attached it already
      · have hid : p ≠ id := fun h => hp (h ▸ List.mem_append_right _ List.mem_cons_self)
        rw [pending_cons_of_not_mem link mark hp, ih o]
        simp [Identity.children, Identity.parent?, hid]

/-- The other waiting objects go on waiting. -/
theorem pending_filter (hnodup : ids.Nodup) (hsplit : ids = before ++ id :: after)
    (whole : Identity → Object) (cs : List Identity) :
    ((pending ids (before ++ [id]) cs whole).filter fun c => !(c.1.node == before.length)) =
      pending ids before cs whole := by
  have hid := not_mem_before hnodup hsplit
  induction cs with
  | nil => rfl
  | cons c cs ih =>
    cases c with
    | root mark => rw [pending_cons_root, pending_cons_root, ih]
    | under p link mark =>
      by_cases hp : p ∈ before
      · have hne : p ≠ id := fun h => hid (h ▸ hp)
        have hmem : p ∈ before ++ [id] := List.mem_append_left _ hp
        have hidx : ids.idxOf p ≠ before.length := fun h =>
          hne ((idxOf_eq_length_iff hnodup hsplit hmem).1 h)
        rw [pending_cons_under link mark hp, pending_cons_under link mark hmem,
          List.filter_cons_of_pos (by simpa using hidx), ih]
      · rw [pending_cons_of_not_mem link mark hp]
        by_cases hpid : p = id
        · have hmem : p ∈ before ++ [id] := hpid ▸ List.mem_append_right _ List.mem_cons_self
          have hidx : ids.idxOf p = before.length :=
            (idxOf_eq_length_iff hnodup hsplit hmem).2 hpid
          rw [pending_cons_under link mark hmem, List.filter_cons_of_neg (by simpa using hidx), ih]
        · have hmem : p ∉ before ++ [id] := by
            simp [hp, hpid]
          rw [pending_cons_of_not_mem link mark hmem, ih]

/-- One step of the fold: the last identity of `before ++ [id]` gets its children, and is a root or
waits for its parent. -/
theorem rootsFrom_cons (hnodup : ids.Nodup) (hparents : ParentsFirst ids)
    (hsplit : ids = before ++ id :: after) {node : Node} {older : List Node}
    (howner : node.owner = id.owner? ids) (hlength : older.length = before.length)
    {whole : Identity → Object} :
    Forest.rootsFrom links (node :: older) (pending ids (before ++ [id]) after whole) =
      (id.children ids).foldlM (fun o c => c.setter links o (whole c)) node.object >>= fun object =>
        match id.owner? ids with
        | none => do return (← Forest.rootsFrom links older (pending ids before after whole)) ++ [object]
        | some owner => Forest.rootsFrom links older ((owner, object) :: pending ids before after whole)
    := by
  have hothers : ((pending ids (before ++ [id]) after whole).filter
      ((!·) ∘ fun c => c.1.node == older.length)) = pending ids before after whole := by
    rw [hlength]
    exact pending_filter hnodup hsplit whole after
  have hattached : Forest.attachAll links node.object _ = _ :=
    attachAll_pending hnodup hsplit whole after node.object
  rw [← children_eq_of_split hparents hnodup hsplit] at hattached
  rw [Forest.rootsFrom, List.partition_eq_filter_filter, hothers, hlength, howner]
  exact congrArg (· >>= _) hattached

/-- What the step leaves is what waits once the identity has its object. -/
theorem rootsFrom_pending_cons (hparents : ParentsFirst ids)
    (hsplit : ids = before ++ id :: after) {older : List Node} {whole : Identity → Object} :
    (match id.owner? ids with
      | none => do
        return (← Forest.rootsFrom links older (pending ids before after whole)) ++ [whole id]
      | some owner =>
        Forest.rootsFrom links older ((owner, whole id) :: pending ids before after whole)) =
      (Forest.rootsFrom links older (pending ids before (id :: after) whole)).map
        (· ++ if id.parent?.isNone then [whole id] else []) := by
  cases id with
  | root mark =>
    rw [pending_cons_root]
    rfl
  | under parent link mark =>
    have hmem : parent ∈ before := hparents before _ after hsplit parent rfl
    rw [pending_cons_under link mark hmem]
    simp only [Identity.owner?, Identity.parent?, Option.isNone_some, Bool.false_eq_true, if_false,
      List.append_nil]
    cases Forest.rootsFrom links older _ <;> rfl

end Split

/-! ## The fold -/

variable {occ : List (Identity × Row)}

theorem assembledAt_iff {id : Identity} {node : Node} (hnode : NodeOf root links occ id node)
    {whole : Identity → Object} :
    AssembledAt root links occ whole id ↔
      (id.children (distinct occ)).foldlM (fun o c => c.setter links o (whole c)) node.object =
        .ok (whole id) := by
  obtain ⟨part, type, hl, ht, hr⟩ := hnode.object
  constructor
  · rintro ⟨part', type', object, hl', ht', hr', hfold⟩
    rw [hl, Option.some.injEq] at hl'
    rw [ht, Option.some.injEq] at ht'
    rw [← hl', ← ht', hr, Except.ok.injEq] at hr'
    rw [hr']
    exact hfold
  · intro hfold
    exact ⟨part, type, node.object, hl, ht, hr, hfold⟩

theorem foldlM_setter_congr {whole whole' : Identity → Object} (cs : List Identity)
    (h : ∀ c ∈ cs, whole c = whole' c) : ∀ o : Object,
      cs.foldlM (fun o c => c.setter links o (whole c)) o =
        cs.foldlM (fun o c => c.setter links o (whole' c)) o := by
  induction cs with
  | nil =>
    intro o
    rfl
  | cons c cs ih =>
    intro o
    rw [List.foldlM_cons, List.foldlM_cons, h c List.mem_cons_self]
    exact bind_congr (ih fun d hd => h d (List.mem_cons_of_mem _ hd))

section Steps

variable {id : Identity} {node : Node} {older after : List Identity} {nodes : List Node}

/-- The fold goes on with the object that its newest node was completed to. -/
theorem rootsFrom_step (hparents : ParentsFirst (distinct occ))
    (hnode : NodeOf root links occ id node)
    (hrest : List.Forall₂ (NodeOf root links occ) older nodes)
    (hsplit : distinct occ = older.reverse ++ id :: after) {whole whole' : Identity → Object}
    (hfold : (id.children (distinct occ)).foldlM (fun o c => c.setter links o (whole c))
      node.object = .ok (whole' id)) (hlater : ∀ c ∈ after, whole c = whole' c) :
    Forest.rootsFrom links (node :: nodes)
        (pending (distinct occ) (id :: older).reverse after whole) =
      (Forest.rootsFrom links nodes
        (pending (distinct occ) older.reverse (id :: after) whole')).map
          (· ++ if id.parent?.isNone then [whole' id] else []) := by
  have hlength : nodes.length = older.reverse.length := by
    rw [List.length_reverse, hrest.length_eq]
  rw [List.reverse_cons, rootsFrom_cons (nodup_distinct occ) hparents hsplit hnode.owner hlength,
    hfold, pending_congr hlater]
  exact rootsFrom_pending_cons hparents hsplit

/-- A fold that succeeds has completed its newest node. -/
theorem exists_fold_of_rootsFrom (hparents : ParentsFirst (distinct occ))
    (hnode : NodeOf root links occ id node)
    (hrest : List.Forall₂ (NodeOf root links occ) older nodes)
    (hsplit : distinct occ = older.reverse ++ id :: after) {whole : Identity → Object}
    {objects : List Object}
    (hok : Forest.rootsFrom links (node :: nodes)
      (pending (distinct occ) (id :: older).reverse after whole) = .ok objects) :
    ∃ object, (id.children (distinct occ)).foldlM (fun o c => c.setter links o (whole c))
      node.object = .ok object := by
  have hlength : nodes.length = older.reverse.length := by
    rw [List.length_reverse, hrest.length_eq]
  rw [List.reverse_cons,
    rootsFrom_cons (nodup_distinct occ) hparents hsplit hnode.owner hlength] at hok
  obtain ⟨object, hfold, -⟩ := bind_eq_ok.1 hok
  exact ⟨object, hfold⟩

end Steps

/-- With the objects of an assembled graph the fold gives its roots. -/
theorem rootsFrom_of_assembled (hparents : ParentsFirst (distinct occ)) {whole : Identity → Object}
    (hwhole : Assembled root links occ whole) {older : List Identity} {nodes : List Node}
    (hnodes : List.Forall₂ (NodeOf root links occ) older nodes) :
    ∀ after : List Identity, distinct occ = older.reverse ++ after →
      Forest.rootsFrom links nodes (pending (distinct occ) older.reverse after whole) =
        .ok ((older.reverse.filter fun id => id.parent?.isNone).map whole) := by
  induction hnodes with
  | nil =>
    intro after _
    rfl
  | @cons id node older nodes hnode hrest ih =>
    intro after hsplit
    have hsplit' : distinct occ = older.reverse ++ id :: after := by simpa using hsplit
    have hmem : id ∈ distinct occ := by
      rw [hsplit']
      exact List.mem_append_right _ List.mem_cons_self
    have hfold := (assembledAt_iff hnode).1 (hwhole id hmem)
    rw [rootsFrom_step hparents hnode hrest hsplit' hfold fun _ _ => rfl, ih _ hsplit',
      List.reverse_cons, List.filter_append, List.map_append]
    cases hp : id.parent?.isNone <;> simp [Except.map, hp]

/-- An identity is given an object; the later ones keep what they have. -/
theorem exists_whole {ids before after : List Identity} {id : Identity} (hnodup : ids.Nodup)
    (hsplit : ids = before ++ id :: after) (whole : Identity → Object) (object : Object) :
    ∃ whole' : Identity → Object, whole' id = object ∧ ∀ c ∈ after, whole c = whole' c := by
  refine ⟨Function.update whole id object, Function.update_self id object whole, ?_⟩
  intro c hc
  have hne : c ≠ id := by
    rintro rfl
    rw [hsplit] at hnodup
    exact (List.nodup_cons.1 (List.nodup_append.1 hnodup).2.1).1 hc
  exact (Function.update_of_ne hne object whole).symm

/-- What the fold gives belongs to an assembled graph. -/
theorem assembled_of_rootsFrom (hparents : ParentsFirst (distinct occ)) {older : List Identity}
    {nodes : List Node} (hnodes : List.Forall₂ (NodeOf root links occ) older nodes) :
    ∀ (after : List Identity) (whole : Identity → Object) {objects : List Object},
      distinct occ = older.reverse ++ after →
      (∀ id ∈ after, AssembledAt root links occ whole id) →
      Forest.rootsFrom links nodes (pending (distinct occ) older.reverse after whole) = .ok objects →
      ∃ whole', Assembled root links occ whole' := by
  -- `after` has its objects already; those before it do not matter yet
  induction hnodes with
  | nil =>
    intro after whole objects hsplit hafter _
    refine ⟨whole, fun id hid => hafter id ?_⟩
    rwa [hsplit] at hid
  | @cons id node older nodes hnode hrest ih =>
    intro after whole objects hsplit hafter hok
    have hsplit' : distinct occ = older.reverse ++ id :: after := by simpa using hsplit
    obtain ⟨object, hfold⟩ := exists_fold_of_rootsFrom hparents hnode hrest hsplit' hok
    obtain ⟨whole', hself, hlater⟩ := exists_whole (nodup_distinct occ) hsplit' whole object
    have hafter' : ∀ c ∈ id :: after, AssembledAt root links occ whole' c := by
      intro c hc
      rcases List.mem_cons.1 hc with rfl | hc
      -- the identity itself: its children were complete
      · have hchildren : ∀ d ∈ c.children (distinct occ), whole d = whole' d := by
          intro d hd
          rw [children_eq_of_split hparents (nodup_distinct occ) hsplit'] at hd
          exact hlater d (List.mem_filter.1 hd).1
        rw [assembledAt_iff hnode, ← foldlM_setter_congr _ hchildren, hfold, hself]
      -- a later one: neither it nor its children changed
      · obtain ⟨part, type, o, hl, ht, hr, hc'⟩ := hafter c hc
        have hchildren : ∀ d ∈ c.children (distinct occ), whole d = whole' d := by
          intro d hd
          obtain ⟨hd, hp⟩ := List.mem_filter.1 hd
          exact hlater d (mem_after_of_parent? hparents (nodup_distinct occ) hsplit hd
            (by simpa using hp) hc)
        refine ⟨part, type, o, hl, ht, hr, ?_⟩
        rw [← foldlM_setter_congr _ hchildren, hc', hlater c hc]
    rw [← hself] at hfold
    rw [rootsFrom_step hparents hnode hrest hsplit' hfold hlater] at hok
    obtain ⟨roots, hroots, -⟩ := map_eq_ok.1 hok
    exact ih _ whole' hsplit' hafter' hroots

/-! ## When the fold succeeds -/

/-- Does a link put its children below every object of a type, which stays of that type? -/
def Link.Attaches (l : Link) (owner : Nat) : Prop :=
  ∀ parent child : Object, parent.type = owner → child.type = l.child.id →
    ∃ o, l.setter parent child = .ok o ∧ o.type = owner

/-- Do the identities stand below objects that their links can put them under? -/
def Attachable (root : ObjectType) (links : List Link) (ids : List Identity) : Prop :=
  ∀ parent link mark, Identity.under parent link mark ∈ ids →
    ∃ l type, links[link]? = some l ∧ parent.type? root links = some type ∧ l.Attaches type.id

/-- Is the object given to an identity of the identity's type? -/
def IsTyped (root : ObjectType) (links : List Link) (whole : Identity → Object) (id : Identity) :
    Prop :=
  ∃ type, id.type? root links = some type ∧ (whole id).type = type.id

theorem foldlM_setter_isOk {ids : List Identity} (hattach : Attachable root links ids)
    {id : Identity} {type : ObjectType} (htype : id.type? root links = some type)
    {whole : Identity → Object} (cs : List Identity) :
    (∀ c ∈ cs, c ∈ ids ∧ c.parent? = some id ∧ IsTyped root links whole c) →
      ∀ o : Object, o.type = type.id →
        ∃ o', cs.foldlM (fun o c => c.setter links o (whole c)) o = .ok o' ∧ o'.type = type.id := by
  induction cs with
  | nil =>
    intro _ o ho
    exact ⟨o, rfl, ho⟩
  | cons c cs ih =>
    intro hcs o ho
    obtain ⟨hmem, hparent, t, ht, hwhole⟩ := hcs c List.mem_cons_self
    have hrest := ih fun d hd => hcs d (List.mem_cons_of_mem _ hd)
    cases c with
    | root mark => cases hparent
    | under parent link mark =>
      rw [Identity.parent?, Option.some.injEq] at hparent
      subst hparent
      obtain ⟨l, owner, hl, howner, hl'⟩ := hattach parent link mark hmem
      rw [htype, Option.some.injEq] at howner
      subst howner
      have hchild : (whole (.under parent link mark)).type = l.child.id := by
        rw [Identity.type?, hl, Option.map_some, Option.some.injEq] at ht
        rw [hwhole, ht]
      obtain ⟨o₁, hset, ho₁⟩ := hl' o _ ho hchild
      obtain ⟨o₂, hfold, ho₂⟩ := hrest o₁ ho₁
      refine ⟨o₂, ?_, ho₂⟩
      rw [List.foldlM_cons]
      simp only [Identity.setter, hl, hset]
      exact hfold

theorem type_of_read {t : ObjectType} {part : Row} {o : Object} (h : t.read part = .ok o) :
    o.type = t.id := by
  obtain ⟨row, -, rfl⟩ := map_eq_ok.1 h
  rfl

/-- Setters that fit the types of the objects do not fail. -/
theorem rootsFrom_isOk (hparents : ParentsFirst (distinct occ))
    (hattach : Attachable root links (distinct occ)) {older : List Identity} {nodes : List Node}
    (hnodes : List.Forall₂ (NodeOf root links occ) older nodes) :
    ∀ (after : List Identity) (whole : Identity → Object),
      distinct occ = older.reverse ++ after → (∀ id ∈ after, IsTyped root links whole id) →
      ∃ objects, Forest.rootsFrom links nodes (pending (distinct occ) older.reverse after whole) =
        .ok objects := by
  induction hnodes with
  | nil =>
    intro after whole _ _
    exact ⟨[], rfl⟩
  | @cons id node older nodes hnode hrest ih =>
    intro after whole hsplit hafter
    have hsplit' : distinct occ = older.reverse ++ id :: after := by simpa using hsplit
    obtain ⟨part, type, -, htype, hread⟩ := hnode.object
    have hchildren : ∀ c ∈ id.children (distinct occ),
        c ∈ distinct occ ∧ c.parent? = some id ∧ IsTyped root links whole c := by
      intro c hc
      obtain ⟨hmem, hp⟩ := List.mem_filter.1 hc
      rw [children_eq_of_split hparents (nodup_distinct occ) hsplit'] at hc
      exact ⟨hmem, by simpa using hp, hafter c (List.mem_filter.1 hc).1⟩
    obtain ⟨object, hfold, hobject⟩ :=
      foldlM_setter_isOk hattach htype _ hchildren node.object (type_of_read hread)
    obtain ⟨whole', hself, hlater⟩ := exists_whole (nodup_distinct occ) hsplit' whole object
    have hafter' : ∀ c ∈ id :: after, IsTyped root links whole' c := by
      intro c hc
      rcases List.mem_cons.1 hc with rfl | hc
      · exact ⟨type, htype, hself ▸ hobject⟩
      · obtain ⟨t, ht, hc'⟩ := hafter c hc
        exact ⟨t, ht, hlater c hc ▸ hc'⟩
    obtain ⟨roots, hroots⟩ := ih _ whole' hsplit' hafter'
    rw [← hself] at hfold
    refine ⟨roots ++ if id.parent?.isNone then [whole' id] else [], ?_⟩
    rw [rootsFrom_step hparents hnode hrest hsplit' hfold hlater, hroots]
    rfl

/-! ## The roots of a forest -/

variable {row done : Nat} {f : Forest}

theorem roots_of_assembled (h : Represents root links row done occ f) {whole : Identity → Object}
    (hwhole : Assembled root links occ whole) :
    f.roots links = .ok ((rootIdentities occ).map whole) := by
  have hfold := rootsFrom_of_assembled h.parents hwhole (List.forall₂_reverse_iff.2 h.nodes) []
    (by simp)
  rwa [List.reverse_reverse] at hfold

theorem assembled_of_roots (h : Represents root links row done occ f) {objects : List Object}
    (hok : f.roots links = .ok objects) : ∃ whole, Assembled root links occ whole := by
  have hsplit : distinct occ = (distinct occ).reverse.reverse ++ [] := by
    rw [List.reverse_reverse, List.append_nil]
  exact assembled_of_rootsFrom h.parents (List.forall₂_reverse_iff.2 h.nodes) []
    (fun _ => .bare 0 .empty) hsplit (fun id hid => absurd hid List.not_mem_nil) hok

theorem roots_isOk (h : Represents root links row done occ f)
    (hattach : Attachable root links (distinct occ)) : ∃ objects, f.roots links = .ok objects := by
  have hsplit : distinct occ = (distinct occ).reverse.reverse ++ [] := by
    rw [List.reverse_reverse, List.append_nil]
  exact rootsFrom_isOk h.parents hattach (List.forall₂_reverse_iff.2 h.nodes) []
    (fun _ => .bare 0 .empty) hsplit (fun id hid => absurd hid List.not_mem_nil)

/-- A forest that represents identities is folded into the roots of the graph they describe, and into
nothing else. -/
theorem isGraphOf_iff_of_roots (h : Represents root links row done occ f) {objects : List Object}
    (hok : f.roots links = .ok objects) (others : List Object) :
    IsGraphOf root links occ others ↔ others = objects := by
  have hunique : ∀ {found}, IsGraphOf root links occ found → found = objects := by
    rintro found ⟨whole, hwhole, rfl⟩
    rw [roots_of_assembled h hwhole, Except.ok.injEq] at hok
    exact hok
  constructor
  · exact hunique
  · rintro rfl
    obtain ⟨whole, hwhole⟩ := assembled_of_roots h hok
    have hfound := hunique ⟨whole, hwhole, rfl⟩
    exact ⟨whole, hwhole, hfound.symm⟩

end Rowgraph
