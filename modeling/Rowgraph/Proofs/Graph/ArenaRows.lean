import Rowgraph.Proofs.Graph.Arena
import Rowgraph.Proofs.Graph.Flatten
import Rowgraph.Proofs.Graph.Reference

/-!
# Rows in the arena

While rows are read, an arena holds a forest: the slots are the nodes, with the children that the nodes'
owners say, and the maps find what a search among the nodes finds (`Mirrors`). Every parent is older than its
children, so a slot is the child of one slot at most, and once. No index is out of range, since a join's parents
stand at a position before its own and a split plan that fits cuts rows inside of their columns.
-/

set_option autoImplicit false

namespace Rowgraph

open Fault

namespace Forest

/-- A numbered node as a child of another, behind the position of its link. -/
def childOf? (node : Nat) (r : Node × Nat) : Option (Nat × Nat) :=
  r.1.owner.bind fun owner => if owner.node = node then some (owner.link, r.2) else none

/-- The children of a node in the order of creation. -/
def childrenOf (f : Forest) (node : Nat) : List (Nat × Nat) := f.nodes.zipIdx.filterMap (childOf? node)

/-- A numbered node as a root. -/
def rootNumber? (r : Node × Nat) : Option Nat := if r.1.owner.isNone then some r.2 else none

/-- The numbers of the roots. -/
def rootNumbers (f : Forest) : List Nat := f.nodes.zipIdx.filterMap rootNumber?

variable {f : Forest}

theorem childOf?_eq_some_iff {node : Nat} {r : Node × Nat} {link i : Nat} :
    childOf? node r = some (link, i) ↔ r.1.owner = some ⟨node, link⟩ ∧ r.2 = i := by
  rw [childOf?, Option.bind_eq_some_iff]
  constructor
  · rintro ⟨owner, howner, hif⟩
    split at hif
    · next hnode =>
      cases hif
      exact ⟨by rw [howner, ← hnode], rfl⟩
    · cases hif
  · rintro ⟨howner, rfl⟩
    exact ⟨_, howner, if_pos rfl⟩

theorem mem_childrenOf {node link i : Nat} :
    (link, i) ∈ f.childrenOf node ↔ ∃ n, f.nodes[i]? = some n ∧ n.owner = some ⟨node, link⟩ := by
  rw [childrenOf, List.mem_filterMap]
  constructor
  · rintro ⟨⟨n, i'⟩, hmem, hchild⟩
    obtain ⟨howner, rfl⟩ := childOf?_eq_some_iff.1 hchild
    exact ⟨n, List.mem_zipIdx_iff_getElem?.1 hmem, howner⟩
  · rintro ⟨n, hn, howner⟩
    exact ⟨(n, i), List.mem_zipIdx_iff_getElem?.2 hn, childOf?_eq_some_iff.2 ⟨howner, rfl⟩⟩

theorem childrenOf_add (n : Node) (node : Nat) : (f.add n).2.childrenOf node =
    f.childrenOf node ++ (childOf? node (n, f.nodes.length)).toList := by
  rw [childrenOf, add, List.zipIdx_append, List.filterMap_append, ← childrenOf, List.zipIdx_singleton,
    Nat.zero_add, List.filterMap_cons, List.filterMap_nil]
  cases childOf? node (n, f.nodes.length) <;> rfl

theorem rootNumbers_add (n : Node) :
    (f.add n).2.rootNumbers = f.rootNumbers ++ (rootNumber? (n, f.nodes.length)).toList := by
  rw [rootNumbers, add, List.zipIdx_append, List.filterMap_append, ← rootNumbers, List.zipIdx_singleton,
    Nat.zero_add, List.filterMap_cons, List.filterMap_nil]
  cases rootNumber? (n, f.nodes.length) <;> rfl

theorem findKey?_add (n : Node) (owner : Option Owner) (k : Key) :
    (f.add n).2.findKey? owner k =
      (f.findKey? owner k).or (if n.owner = owner ∧ n.key = some k then some f.nodes.length else none) := by
  rw [findKey?, add, List.findIdx?_append, ← findKey?, List.findIdx?_singleton]
  by_cases h : n.owner = owner ∧ n.key = some k
  · simp [h]
  · rw [if_neg h, if_neg (by simpa using h)]
    rfl

theorem findOwned?_add (n : Node) (owner : Owner) :
    (f.add n).2.findOwned? owner =
      (f.findOwned? owner).or (if n.owner = some owner then some f.nodes.length else none) := by
  rw [findOwned?, add, List.findIdx?_append, ← findOwned?, List.findIdx?_singleton]
  by_cases h : n.owner = some owner
  · simp [h]
  · rw [if_neg h, if_neg (by simpa using h)]
    rfl

theorem lt_of_findKey? {owner : Option Owner} {k : Key} {i : Nat} (h : f.findKey? owner k = some i) :
    i < f.nodes.length := (List.findIdx?_eq_some_iff_getElem.1 h).1

theorem lt_of_findOwned? {owner : Owner} {i : Nat} (h : f.findOwned? owner = some i) :
    i < f.nodes.length := (List.findIdx?_eq_some_iff_getElem.1 h).1

end Forest

/-- A new entry of a map is found under its own key. -/
theorem lookup_cons_of_eq_none {κ : Type} [BEq κ] [LawfulBEq κ] [DecidableEq κ] {entries : List (κ × Nat)} {k : κ}
    (h : entries.lookup k = none) (node : Nat) (k' : κ) :
    ((k, node) :: entries).lookup k' = (entries.lookup k').or (if k = k' then some node else none) := by
  rw [List.lookup_cons]
  by_cases hk : k = k'
  · subst hk
    simp [h]
  · rw [if_neg hk, Option.or_none, beq_false_of_ne (Ne.symm hk)]

/-! ## An arena that holds a forest -/

/-- Do all nodes that are no roots belong below older ones, by some of the links? -/
def Forest.IsOrdered (links : List Link) (f : Forest) : Prop :=
  ∀ (i : Nat) (n : Node) (owner : Owner), f.nodes[i]? = some n → n.owner = some owner →
    owner.node < i ∧ owner.link < links.length

/-- Does the arena hold the forest? -/
structure Mirrors (links : List Link) (a : Arena) (f : Forest) : Prop where
  slots : ∀ i : Nat, a.slots[i]? = f.nodes[i]?.map fun n => ⟨some n.object, f.childrenOf i⟩
  roots : a.roots = f.rootNumbers
  rootByKey : ∀ k, a.rootByKey.lookup k = f.findKey? none k
  manyByKey : ∀ parent link k, a.manyByKey.lookup (parent, link, k) = f.findKey? (some ⟨parent, link⟩) k
  oneByParent : ∀ parent link l, links[link]? = some l → l.cardinality = .one →
    a.oneByParent.lookup (parent, link) = f.findOwned? ⟨parent, link⟩
  ordered : f.IsOrdered links

variable {links : List Link} {a : Arena} {f : Forest}

theorem mirrors_empty : Mirrors links {} {} where
  slots _ := rfl
  roots := rfl
  rootByKey _ := rfl
  manyByKey _ _ _ := rfl
  oneByParent _ _ _ _ _ := rfl
  ordered _ _ _ h := nomatch h

namespace Mirrors

theorem length_slots (h : Mirrors links a f) : a.slots.length = f.nodes.length := by
  apply Nat.le_antisymm
  · rw [← List.getElem?_eq_none_iff, h.slots, List.getElem?_eq_none (Nat.le_refl _)]
    rfl
  · have hnone := h.slots a.slots.length
    rw [List.getElem?_eq_none (Nat.le_refl _)] at hnone
    rw [← List.getElem?_eq_none_iff]
    exact Option.map_eq_none_iff.1 hnone.symm

/-- A node that is not there has no children. -/
theorem childrenOf_eq_nil (h : Mirrors links a f) {node : Nat} (hnode : f.nodes.length ≤ node) :
    f.childrenOf node = [] := by
  rw [List.eq_nil_iff_forall_not_mem]
  rintro ⟨link, i⟩ hmem
  obtain ⟨n, hn, howner⟩ := Forest.mem_childrenOf.1 hmem
  have hlt := (h.ordered i n _ hn howner).1
  have hi := (List.getElem?_eq_some_iff.1 hn).1
  dsimp only at hlt
  omega

/-! ### New slots -/

theorem ordered_add (h : Mirrors links a f) {n : Node}
    (hn : ∀ owner, n.owner = some owner → owner.node < f.nodes.length ∧ owner.link < links.length) :
    (f.add n).2.IsOrdered links := by
  intro i n' owner hi howner
  rw [Forest.add, getElem?_concat] at hi
  split at hi
  · next heq =>
    cases hi
    rw [heq]
    exact hn owner howner
  · exact h.ordered i n' owner hi howner

theorem addRoot (h : Mirrors links a f) (key : Option Key) (object : Object) {rootByKey : List (Key × Nat)}
    (hkeys : ∀ k, rootByKey.lookup k =
      (f.findKey? none k).or (if key = some k then some f.nodes.length else none)) :
    Mirrors links { (a.pushRoot object).2 with rootByKey := rootByKey } (f.add ⟨none, key, object⟩).2 where
  slots i := by
    rw [Arena.pushRoot, Arena.push, Forest.add, getElem?_concat, getElem?_concat, h.length_slots,
      ← Forest.add, Forest.childrenOf_add]
    split
    · next hi =>
      rw [hi, h.childrenOf_eq_nil (Nat.le_refl _)]
      rfl
    · rw [h.slots]
      congr 1
      funext n
      rw [show Forest.childOf? i (⟨none, key, object⟩, f.nodes.length) = none from rfl, Option.toList_none,
        List.append_nil]
  roots := by
    rw [Forest.rootNumbers_add, ← h.roots, ← h.length_slots]
    rfl
  rootByKey k := by
    rw [Forest.findKey?_add, hkeys]
    simp
  manyByKey parent link k := by
    rw [Forest.findKey?_add, if_neg (by simp), Option.or_none]
    exact h.manyByKey parent link k
  oneByParent parent link l hl hone := by
    rw [Forest.findOwned?_add, if_neg (by simp), Option.or_none]
    exact h.oneByParent parent link l hl hone
  ordered := h.ordered_add nofun

/-- A slot for a child: its parent has one more child, the last. -/
theorem slots_addChild (h : Mirrors links a f) {parent : Nat} {n : Node} (hn : f.nodes[parent]? = some n)
    (link : Nat) (key : Option Key) (object : Object) (i : Nat) :
    ((a.slots ++ [(⟨some object, []⟩ : Slot)]).set parent
        ⟨some n.object, f.childrenOf parent ++ [(link, f.nodes.length)]⟩)[i]? =
      (f.add ⟨some ⟨parent, link⟩, key, object⟩).2.nodes[i]?.map fun n =>
        ⟨some n.object, (f.add ⟨some ⟨parent, link⟩, key, object⟩).2.childrenOf i⟩ := by
  have hparent : parent < f.nodes.length := (List.getElem?_eq_some_iff.1 hn).1
  rw [Forest.childrenOf_add, Forest.add, getElem?_concat]
  by_cases hi : parent = i
  · subst hi
    have hchild : Forest.childOf? parent (⟨some ⟨parent, link⟩, key, object⟩, f.nodes.length) =
        some (link, f.nodes.length) := Forest.childOf?_eq_some_iff.2 ⟨rfl, rfl⟩
    rw [List.getElem?_set_self, if_neg (Nat.ne_of_lt hparent), hn, hchild]
    · rfl
    · rw [List.length_append, h.length_slots]
      exact Nat.lt_succ_of_lt hparent
  · have hother : Forest.childOf? i (⟨some ⟨parent, link⟩, key, object⟩, f.nodes.length) = none := by
      simp [Forest.childOf?, hi]
    rw [List.getElem?_set_ne hi, getElem?_concat, h.length_slots, hother, Option.toList_none, List.append_nil]
    split
    · next hlast =>
      rw [hlast, h.childrenOf_eq_nil (Nat.le_refl _)]
      rfl
    · exact h.slots i

theorem addChild (h : Mirrors links a f) {parent link : Nat} (hparent : parent < f.nodes.length)
    (hlink : link < links.length) (key : Option Key) (object : Object)
    {manyByKey : List ((Nat × Nat × Key) × Nat)} {oneByParent : List ((Nat × Nat) × Nat)}
    (hmany : ∀ p l k, manyByKey.lookup (p, l, k) = (f.findKey? (some ⟨p, l⟩) k).or
      (if (parent, link) = (p, l) ∧ key = some k then some f.nodes.length else none))
    (hone : ∀ p i l, links[i]? = some l → l.cardinality = .one → oneByParent.lookup (p, i) =
      (f.findOwned? ⟨p, i⟩).or (if (parent, link) = (p, i) then some f.nodes.length else none)) :
    ∃ slots, a.pushChild parent link object = .ok (f.nodes.length, { a with slots := slots }) ∧
      Mirrors links { a with slots := slots, manyByKey := manyByKey, oneByParent := oneByParent }
        (f.add ⟨some ⟨parent, link⟩, key, object⟩).2 := by
  obtain ⟨n, hn⟩ : ∃ n, f.nodes[parent]? = some n := ⟨_, List.getElem?_eq_getElem hparent⟩
  -- the parent is older than the new slot, which therefore changes nothing about the parent's
  let slots : List Slot := a.slots ++ [⟨some object, []⟩]
  have hslot : slots[parent]? = some ⟨some n.object, f.childrenOf parent⟩ := by
    rw [getElem?_concat, h.length_slots, if_neg (Nat.ne_of_lt hparent), h.slots, hn]
    rfl
  have hlength : parent < slots.length := by
    rw [List.length_append, h.length_slots]
    exact Nat.lt_succ_of_lt hparent
  refine ⟨slots.set parent ⟨some n.object, f.childrenOf parent ++ [(link, f.nodes.length)]⟩, ?_, ?_⟩
  · refine bind_eq_ok.2 ⟨_, fetch_eq_ok hslot, bind_eq_ok.2 ⟨_, store_eq_ok hlength _, ?_⟩⟩
    rw [h.length_slots]
    rfl
  · refine ⟨h.slots_addChild hn link key object, ?_, ?_, ?_, ?_, h.ordered_add ?_⟩
    · rw [Forest.rootNumbers_add]
      exact h.roots.trans (List.append_nil _).symm
    · intro k
      rw [Forest.findKey?_add, if_neg (by simp), Option.or_none]
      exact h.rootByKey k
    · intro p l k
      rw [Forest.findKey?_add, hmany]
      simp
    · intro p i l hl hcardinality
      rw [Forest.findOwned?_add, hone p i l hl hcardinality]
      simp
    · rintro owner ⟨⟩
      exact ⟨hparent, hlink⟩

end Mirrors

/-! ## Placing objects -/

/-- Is it the same node that an object is found at or given, in an arena that holds the forest? The forest has
kept its nodes. -/
structure Placed (links : List Link) (before : Forest) (p : Nat × Arena) (q : Nat × Forest) : Prop where
  node : p.1 = q.1
  mirrors : Mirrors links p.2 q.2
  lt : q.1 < q.2.nodes.length
  le : before.nodes.length ≤ q.2.nodes.length

namespace Mirrors

/-- The object is there. -/
theorem placed_found (h : Mirrors links a f) {node : Nat} (hnode : node < f.nodes.length) :
    Placed links f (node, a) (node, f) := ⟨rfl, h, hnode, Nat.le_refl _⟩

/-- The object has a new node. -/
theorem placed_new {n : Node} (h : Mirrors links a (f.add n).2) :
    Placed links f (f.nodes.length, a) (f.add n) where
  node := rfl
  mirrors := h
  lt := by
    rw [Forest.add, List.length_append]
    exact Nat.lt_succ_self _
  le := by
    rw [Forest.add, List.length_append]
    exact Nat.le_succ _

theorem placeRoot_placed (h : Mirrors links a f) (key : Option Key) (object : Object) :
    Placed links f (a.placeRoot key object) (f.place none key object) := by
  rw [Arena.placeRoot.eq_def, Forest.place]
  cases key with
  | none =>
    have hkeys : ∀ k, a.rootByKey.lookup k =
        (f.findKey? none k).or (if none = some k then some f.nodes.length else none) := by
      intro k
      rw [h.rootByKey, if_neg (by simp), Option.or_none]
    have hnew := h.addRoot none object hkeys
    rw [Arena.pushRoot, Arena.push, h.length_slots] at *
    exact placed_new hnew
  | some k =>
    rw [Option.bind_some]
    dsimp only
    rw [h.rootByKey]
    cases hk : f.findKey? none k with
    | some node => exact h.placed_found (Forest.lt_of_findKey? hk)
    | none =>
      have hfresh : a.rootByKey.lookup k = none := by rw [h.rootByKey, hk]
      have hkeys : ∀ k', ((k, f.nodes.length) :: a.rootByKey).lookup k' =
          (f.findKey? none k').or (if some k = some k' then some f.nodes.length else none) := by
        intro k'
        rw [lookup_cons_of_eq_none hfresh, h.rootByKey]
        simp
      have hnew := h.addRoot (some k) object hkeys
      rw [Arena.pushRoot, Arena.push, h.length_slots] at *
      exact placed_new hnew

variable {parent index : Nat} {l : Link}

/-- Entries for single children do not mind a node below a link to many. -/
theorem lookup_oneByParent (h : Mirrors links a f) (hl : links[index]? = some l) (hmany : l.cardinality = .many) :
    ∀ p i l', links[i]? = some l' → l'.cardinality = .one → a.oneByParent.lookup (p, i) =
      (f.findOwned? ⟨p, i⟩).or (if (parent, index) = (p, i) then some f.nodes.length else none) := by
  intro p i l' hl' hone
  rw [h.oneByParent p i l' hl' hone, if_neg, Option.or_none]
  intro heq
  cases heq
  rw [hl] at hl'
  cases hl'
  rw [hmany] at hone
  cases hone

/-- Entries for keys do not mind a node without one. -/
theorem lookup_manyByKey (h : Mirrors links a f) :
    ∀ p i k, a.manyByKey.lookup (p, i, k) = (f.findKey? (some ⟨p, i⟩) k).or
      (if (parent, index) = (p, i) ∧ none = some k then some f.nodes.length else none) := by
  intro p i k
  rw [h.manyByKey, if_neg (by simp), Option.or_none]

theorem placeMany_simulates (h : Mirrors links a f) (hl : links[index]? = some l)
    (hmany : l.cardinality = .many) (hparent : parent < f.nodes.length) (key : Option Key) (object : Object) :
    Simulates reported (Placed links f) (a.placeMany parent index key object)
      (.ok (f.place (some ⟨parent, index⟩) key object)) := by
  have hindex : index < links.length := (List.getElem?_eq_some_iff.1 hl).1
  rw [Arena.placeMany.eq_def, Forest.place]
  cases key with
  | none =>
    obtain ⟨slots, hpush, hnew⟩ :=
      h.addChild hparent hindex none object h.lookup_manyByKey (h.lookup_oneByParent hl hmany)
    rw [hpush]
    exact placed_new hnew
  | some k =>
    rw [Option.bind_some]
    dsimp only
    rw [h.manyByKey]
    cases hk : f.findKey? (some ⟨parent, index⟩) k with
    | some node => exact h.placed_found (Forest.lt_of_findKey? hk)
    | none =>
      have hfresh : a.manyByKey.lookup (parent, index, k) = none := by rw [h.manyByKey, hk]
      have hkeys : ∀ p i k', (((parent, index, k), f.nodes.length) :: a.manyByKey).lookup (p, i, k') =
          (f.findKey? (some ⟨p, i⟩) k').or
            (if (parent, index) = (p, i) ∧ some k = some k' then some f.nodes.length else none) := by
        intro p i k'
        rw [lookup_cons_of_eq_none hfresh, h.manyByKey]
        simp [and_assoc]
      obtain ⟨slots, hpush, hnew⟩ :=
        h.addChild hparent hindex (some k) object hkeys (h.lookup_oneByParent hl hmany)
      apply Simulates.step hpush
      exact placed_new hnew

theorem placeChild_simulates (h : Mirrors links a f) (hl : links[index]? = some l)
    (hparent : parent < f.nodes.length) (part : Row) :
    Simulates reported (Placed links f) (Arena.placeChild links a l.cardinality parent index part)
      (f.placeChild l ⟨parent, index⟩ part) := by
  have hindex : index < links.length := (List.getElem?_eq_some_iff.1 hl).1
  rw [Arena.placeChild.eq_def, Forest.placeChild]
  cases hcardinality : l.cardinality with
  | one =>
    dsimp only
    rw [h.oneByParent parent index l hl hcardinality]
    cases howned : f.findOwned? ⟨parent, index⟩ with
    | some node => exact h.placed_found (Forest.lt_of_findOwned? howned)
    | none =>
      have hfresh : a.oneByParent.lookup (parent, index) = none := by
        rw [h.oneByParent parent index l hl hcardinality, howned]
      have howners : ∀ p i l', links[i]? = some l' → l'.cardinality = .one →
          (((parent, index), f.nodes.length) :: a.oneByParent).lookup (p, i) =
            (f.findOwned? ⟨p, i⟩).or (if (parent, index) = (p, i) then some f.nodes.length else none) := by
        intro p i l' hl' hone
        rw [lookup_cons_of_eq_none hfresh, h.oneByParent p i l' hl' hone]
      apply Simulates.step (fetch_eq_ok hl)
      apply Simulates.bind (Simulates.marked _)
      rintro object _ rfl
      obtain ⟨slots, hpush, hnew⟩ := h.addChild hparent hindex none object h.lookup_manyByKey howners
      apply Simulates.step hpush
      exact placed_new hnew
  | many =>
    apply Simulates.step (fetch_eq_ok hl)
    apply Simulates.bind (Simulates.marked _)
    rintro object _ rfl
    exact h.placeMany_simulates hl hcardinality hparent _ object

end Mirrors

/-! ## Reading rows -/

/-- A plan cuts a row inside of its columns. -/
theorem SplitPlan.inside_of_ranges {split : SplitPlan} {width : Nat} {ranges : List (Nat × Nat)}
    (h : split.ranges width = .ok ranges) : ∀ range ∈ ranges, range.1 ≤ range.2 ∧ range.2 ≤ width := by
  obtain ⟨hfits, rfl⟩ := rangesFrom_eq_ok_iff.1 h
  exact le_of_mem_between hfits (Nat.zero_le width)

/-- Are the positions of a row filled in as far as the forest's, with some left to come? -/
structure Halfway (links : List Link) (left : Nat) (p : List (Option Nat) × Arena)
    (nodes : List (Option Nat)) (f : Forest) : Prop where
  current : p.1 = nodes ++ List.replicate left none
  known : ∀ node, some node ∈ nodes → node < f.nodes.length
  mirrors : Mirrors links p.2 f

namespace Halfway

variable {left : Nat} {current : List (Option Nat)} {nodes : List (Option Nat)}

/-- There is no object at the next position. -/
theorem without (h : Halfway links (left + 1) (current, a) nodes f) :
    Halfway links left (current, a) (nodes ++ [none]) f where
  current := by rw [h.current, List.replicate_succ, List.append_cons]
  known := by
    intro node hmem
    rcases List.mem_append.1 hmem with hmem | hmem
    · exact h.known node hmem
    · cases List.mem_singleton.1 hmem
  mirrors := h.mirrors

/-- The object at the next position is placed. -/
theorem placed (h : Halfway links (left + 1) (current, a) nodes f) {p : Nat × Arena} {q : Nat × Forest}
    (hplaced : Placed links f p q) :
    Halfway links left (current.set nodes.length (some p.1), p.2) (nodes ++ [some q.1]) q.2 where
  current := by
    dsimp only
    rw [show current = _ from h.current, List.replicate_succ, List.set_append_right _ _ (Nat.le_refl _), Nat.sub_self,
      List.set_cons_zero, hplaced.node, List.append_cons]
  known := by
    intro node hmem
    rcases List.mem_append.1 hmem with hmem | hmem
    · exact Nat.lt_of_lt_of_le (h.known node hmem) hplaced.le
    · cases List.mem_singleton.1 hmem
      exact hplaced.lt
  mirrors := hplaced.mirrors

variable {row : Row} {ranges : List (Nat × Nat)} {range : Nat × Nat} {j : Join} {l : Link} {index : Nat}

theorem placeJoin_simulates (h : Halfway links (left + 1) (current, a) nodes f)
    (hlength : nodes.length = index + 1) (hl : links[index]? = some l) (hof : l.IsOf j)
    (hparent : j.parent ≤ index) (hrange : ranges[index + 1]? = some range)
    (hinside : range.1 ≤ range.2 ∧ range.2 ≤ row.width) :
    Simulates reported (fun p q => Halfway links left p (nodes ++ [q.1]) q.2)
      (Arena.placeJoin links row ranges j index current a)
      (f.placeLink l index (row.slice range.1 range.2) nodes) := by
  obtain ⟨b, -, hlink⟩ := hof
  have hlt : j.parent < nodes.length := hlength ▸ Nat.lt_succ_of_le hparent
  obtain ⟨parent?, hparent?⟩ : ∃ parent?, nodes[j.parent]? = some parent? :=
    ⟨_, List.getElem?_eq_getElem hlt⟩
  have hcurrent : current[j.parent]? = some parent? := by
    rw [show current = _ from h.current, List.getElem?_append_left hlt, hparent?]
  rw [Arena.placeJoin.eq_def, Forest.placeLink]
  apply Simulates.step (fetch_eq_ok hcurrent)
  rw [show l.parent = j.parent by rw [hlink], hparent?, Option.join_some]
  cases parent? with
  | none => exact h.without
  | some parent =>
    -- a parent is there, so the part is cut out; it may still be absent itself
    apply Simulates.step (fetch_eq_ok hrange)
    apply Simulates.step (cut_eq_ok hinside)
    dsimp only
    split
    · exact h.without
    · have hnode : parent < f.nodes.length := h.known parent (List.mem_of_getElem? hparent?)
      have hchild := h.mirrors.placeChild_simulates hl hnode (row.slice range.1 range.2)
      rw [show l.cardinality = j.cardinality by rw [hlink]] at hchild
      have hstore : index + 1 < current.length := by
        rw [show current = _ from h.current, List.length_append, List.length_replicate, hlength]
        omega
      apply Simulates.bind_left (hchild.map_right (g := fun q => (some q.1, q.2)) (T := fun p q =>
        Halfway links left (current.set (index + 1) (some p.1), p.2) (nodes ++ [q.1]) q.2) ?_)
      · intro p q hnext
        apply Simulates.step (store_eq_ok hstore _)
        exact hnext
      · intro p q hplaced
        rw [← hlength]
        exact h.placed hplaced

theorem placeJoins_simulates (hranges : ranges.length = links.length + 1)
    (hinside : ∀ range ∈ ranges, range.1 ≤ range.2 ∧ range.2 ≤ row.width) (rest : List Join) :
    ∀ {index : Nat} {current : List (Option Nat)} {a : Arena} {nodes : List (Option Nat)} {f : Forest},
      Halfway links rest.length (current, a) nodes f → nodes.length = index + 1 →
      List.Forall₂ Link.IsOf rest (links.drop index) →
      (∀ (i : Nat) (j : Join), rest[i]? = some j → j.parent ≤ index + i) →
      Simulates reported (Mirrors links) (Arena.placeJoins links row ranges rest index current a)
        (f.placeLinks row (links.drop index) (ranges.drop (index + 1)) index nodes) := by
  -- over the joins still to come; `index` counts those that were looked at
  induction rest with
  | nil =>
    intro index current a nodes f h _ hof _
    rw [List.forall₂_nil_left_iff.1 hof, Arena.placeJoins, Forest.placeLinks.eq_def]
    exact h.mirrors
  | cons j rest ih =>
    intro index current a nodes f h hlength hof hparents
    obtain ⟨l, behind, hj, hrest, hdrop⟩ := List.forall₂_cons_left_iff.1 hof
    have hindex : index < links.length := by
      rw [← Nat.sub_pos_iff_lt, ← List.length_drop, hdrop]
      exact Nat.succ_pos _
    have hsplit := List.drop_eq_getElem_cons hindex
    rw [hdrop, List.cons.injEq] at hsplit
    obtain ⟨rfl, rfl⟩ := hsplit
    have hrange : index + 1 < ranges.length := hranges ▸ Nat.succ_lt_succ hindex
    rw [hdrop, List.drop_eq_getElem_cons hrange, Arena.placeJoins, Forest.placeLinks]
    apply Simulates.bind (h.placeJoin_simulates hlength (List.getElem?_eq_getElem hindex) hj
      (hparents 0 j rfl) (List.getElem?_eq_getElem hrange) (hinside _ (List.getElem_mem hrange)))
    rintro ⟨current', a'⟩ ⟨node?, f'⟩ hnext
    refine ih hnext ?_ hrest fun i j' hj' => ?_
    · rw [List.length_append, List.length_singleton, hlength]
    · have := hparents (i + 1) j' hj'
      omega

end Halfway

section Rows

variable {root : ObjectType} {joins : List Join} {split : SplitPlan}

theorem parent_le_of_ofJoins (h : Link.ofJoins root joins split = .ok links) {i : Nat} {j : Join}
    (hj : joins[i]? = some j) : j.parent ≤ i := by
  have hi : i < links.length := (ofJoins_isOf h).length_eq ▸ (List.getElem?_eq_some_iff.1 hj).1
  obtain ⟨j', b, hj', hb, -⟩ := exists_join_of_ofJoins h (List.getElem?_eq_getElem hi)
  cases hj.symm.trans hj'
  exact (ofJoins_fits h hj hb).1

theorem placeRow_simulates (hlinks : Link.ofJoins root joins split = .ok links) (h : Mirrors links a f)
    (row : Row) : Simulates reported (Mirrors links) (Arena.placeRow root joins links split a row)
      (Forest.placeRow root links split f row) := by
  have hof := ofJoins_isOf hlinks
  rw [Arena.placeRow, Forest.placeRow]
  cases hranges : split.ranges row.width with
  | error e => exact rfl
  | ok ranges =>
    have hlength : ranges.length = links.length + 1 := by
      rw [SplitPlan.length_of_ranges hranges, length_points_of_ofJoins hlinks, hof.length_eq]
    have hinside := SplitPlan.inside_of_ranges hranges
    cases ranges with
    | nil => cases hlength
    | cons range rest =>
      apply Simulates.step rfl
      apply Simulates.step rfl
      apply Simulates.step (cut_eq_ok (hinside range List.mem_cons_self))
      apply Simulates.bind (Simulates.marked _)
      rintro object _ rfl
      have hroot := h.placeRoot_placed (root.key? object) object
      apply Simulates.step rfl
      have hstart : Halfway links joins.length
          ((List.replicate (joins.length + 1) none).set 0 (some (a.placeRoot (root.key? object) object).1),
            (a.placeRoot (root.key? object) object).2)
          [some (f.place none (root.key? object) object).1] (f.place none (root.key? object) object).2 := by
        refine ⟨?_, fun node hmem => ?_, hroot.mirrors⟩
        · rw [hroot.node, List.replicate_succ]
          rfl
        · cases List.mem_singleton.1 hmem
          exact hroot.lt
      apply Halfway.placeJoins_simulates hlength hinside joins hstart rfl hof
      intro i j hj
      simpa using parent_le_of_ofJoins hlinks hj

/-- Rows are read into an arena as they are into a forest. -/
theorem placeRows_simulates (hlinks : Link.ofJoins root joins split = .ok links) (rows : List Row) :
    Simulates reported (Mirrors links) (rows.foldlM (Arena.placeRow root joins links split) {})
      (Forest.ofRows root links split rows) :=
  Simulates.foldlM rows (fun row _ _ _ h => placeRow_simulates hlinks h row) mirrors_empty

end Rows

end Rowgraph
