import Mathlib.Data.List.Sigma
import Rowgraph.Proofs.Graph.ArenaRows
import Rowgraph.Proofs.Graph.Readable
import Rowgraph.Proofs.Graph.Setters

/-!
# The fold of an arena

The slots are completed from the last to the first. When those from `index` on are complete, the objects of the
nodes whose parents are among them have been taken, each once, by its parent; the others are in their slots,
and wait for an older parent or are roots (`Folded`). No child is therefore taken twice, and a root not before the end.
-/

set_option autoImplicit false

namespace Rowgraph

open Fault

/-- Are the slots from a number on complete, and the others as they were? `given` are the complete objects. -/
structure Folded (f : Forest) (index : Nat) (given : Nat → Object) (slots : List Slot) : Prop where
  older : ∀ i < index, slots[i]? = f.nodes[i]?.map fun n => ⟨some n.object, f.childrenOf i⟩
  newer : ∀ i, index ≤ i → slots[i]? = f.nodes[i]?.map fun n =>
    ⟨if n.owner.any fun owner => index ≤ owner.node then none else some (given i), []⟩

/-- The complete objects that wait for an older parent. -/
def Forest.waiting (f : Forest) (index : Nat) (given : Nat → Object) : List (Owner × Object) :=
  (f.nodes.zipIdx.drop index).filterMap fun r =>
    r.1.owner.bind fun owner => if owner.node < index then some (owner, given r.2) else none

variable {links : List Link} {f : Forest} {index : Nat} {given : Nat → Object} {slots : List Slot}

theorem attachAll_cons {link : Nat} {l : Link} (hl : links[link]? = some l) (parent child : Object)
    (rest : List (Nat × Object)) : Forest.attachAll links parent ((link, child) :: rest) =
      l.setter parent child >>= fun parent => Forest.attachAll links parent rest := by
  rw [Forest.attachAll.eq_def]
  simp only [hl]

theorem take_eq_ok {node : Nat} {object : Object} {children : List (Nat × Nat)}
    (h : slots[node]? = some ⟨some object, children⟩) :
    Arena.take slots node = .ok (object, slots.set node ⟨none, children⟩) := by
  have hlt : node < slots.length := (List.getElem?_eq_some_iff.1 h).1
  exact bind_eq_ok.2 ⟨_, fetch_eq_ok h, bind_eq_ok.2 ⟨_, store_eq_ok hlt _, rfl⟩⟩

/-- Children in their slots are attached one after the other, and leave them. -/
theorem attachChildren_simulates (children : List (Nat × Nat)) :
    ∀ (parent : Object) {slots : List Slot}, (children.map Prod.snd).Nodup →
      (∀ c ∈ children, c.1 < links.length ∧ slots[c.2]? = some ⟨some (given c.2), []⟩) →
      Simulates notAttached (fun p object => p.1 = object ∧
          ∀ i, p.2[i]? = if i ∈ children.map Prod.snd then some ⟨none, []⟩ else slots[i]?)
        (Arena.attachChildren links children parent slots)
        (Forest.attachAll links parent (children.map fun c => (c.1, given c.2))) := by
  induction children with
  | nil =>
    intro parent slots _ _
    exact ⟨rfl, fun i => by simp⟩
  | cons c children ih =>
    obtain ⟨link, child⟩ := c
    intro parent slots hnodup hslots
    obtain ⟨hlink, hslot⟩ : link < links.length ∧ slots[child]? = some ⟨some (given child), []⟩ :=
      hslots _ List.mem_cons_self
    obtain ⟨(hfresh : child ∉ children.map Prod.snd), hnodup⟩ := List.nodup_cons.1 hnodup
    have hchild : child < slots.length := (List.getElem?_eq_some_iff.1 hslot).1
    rw [Arena.attachChildren, List.map_cons, List.map_cons,
      attachAll_cons (List.getElem?_eq_getElem hlink)]
    apply Simulates.step (take_eq_ok hslot)
    apply Simulates.step (fetch_eq_ok (List.getElem?_eq_getElem hlink))
    apply Simulates.bind (Simulates.marked _)
    rintro parent _ rfl
    -- no child is in the list twice, so the others still are in their slots
    have hrest : ∀ c ∈ children, c.1 < links.length ∧
        (slots.set child ⟨none, []⟩)[c.2]? = some ⟨some (given c.2), []⟩ := by
      intro c hc
      have hne : child ≠ c.2 := by
        rintro rfl
        exact hfresh (List.mem_map_of_mem hc)
      rw [List.getElem?_set_ne hne]
      exact hslots c (List.mem_cons_of_mem _ hc)
    apply (ih parent hnodup hrest).mono
    rintro ⟨object, slots'⟩ object' ⟨hobject, hslots'⟩
    refine ⟨hobject, fun i => ?_⟩
    rw [hslots']
    by_cases hi : i = child
    · subst hi
      rw [if_neg hfresh, if_pos List.mem_cons_self, List.getElem?_set_self hchild]
    · rw [List.getElem?_set_ne (Ne.symm hi)]
      exact if_congr (by rw [List.mem_cons, or_iff_right hi]) rfl rfl

/-! ## Completing a slot -/

namespace Forest

theorem mem_numbers_childrenOf {node i : Nat} : i ∈ (f.childrenOf node).map Prod.snd ↔
    ∃ n owner, f.nodes[i]? = some n ∧ n.owner = some owner ∧ owner.node = node := by
  rw [List.mem_map]
  constructor
  · rintro ⟨⟨link, i⟩, hmem, rfl⟩
    obtain ⟨n, hn, howner⟩ := mem_childrenOf.1 hmem
    exact ⟨n, _, hn, howner, rfl⟩
  · rintro ⟨n, owner, hn, howner, rfl⟩
    exact ⟨(owner.link, i), mem_childrenOf.2 ⟨n, hn, howner⟩, rfl⟩

theorem mem_rootNumbers {i : Nat} : i ∈ f.rootNumbers ↔ ∃ n, f.nodes[i]? = some n ∧ n.owner = none := by
  rw [rootNumbers, List.mem_filterMap]
  constructor
  · rintro ⟨⟨n, i'⟩, hmem, hroot⟩
    rw [rootNumber?] at hroot
    split at hroot
    · next howner =>
      cases hroot
      exact ⟨n, List.mem_zipIdx_iff_getElem?.1 hmem, Option.isNone_iff_eq_none.1 howner⟩
    · cases hroot
  · rintro ⟨n, hn, howner⟩
    exact ⟨(n, i), List.mem_zipIdx_iff_getElem?.2 hn, by simp [rootNumber?, howner]⟩

theorem lt_of_mem_childrenOf (hordered : f.IsOrdered links) {node i : Nat}
    (h : i ∈ (f.childrenOf node).map Prod.snd) : node < i := by
  obtain ⟨n, owner, hn, howner, rfl⟩ := mem_numbers_childrenOf.1 h
  exact (hordered i n owner hn howner).1

/-- Of chosen elements in order, what tells them apart is in order. -/
theorem map_filterMap_sublist {α β γ : Type} {choose : α → Option β} {g : β → γ} {h : α → γ}
    (hchoose : ∀ a b, choose a = some b → g b = h a) (l : List α) :
    ((l.filterMap choose).map g).Sublist (l.map h) := by
  induction l with
  | nil => exact .slnil
  | cons a l ih =>
    rw [List.filterMap_cons, List.map_cons]
    cases ha : choose a with
    | none => exact .cons _ ih
    | some b =>
      dsimp only
      rw [List.map_cons, hchoose a b ha]
      exact ih.cons_cons _

theorem nodup_childrenOf (f : Forest) (node : Nat) : ((f.childrenOf node).map Prod.snd).Nodup := by
  refine (List.nodup_zipIdx_map_snd f.nodes).sublist (map_filterMap_sublist ?_ _)
  rintro r ⟨link, i⟩ h
  exact (childOf?_eq_some_iff.1 h).2.symm

theorem nodup_rootNumbers (f : Forest) : f.rootNumbers.Nodup := by
  have hchoose : ∀ r i, rootNumber? r = some i → id i = r.2 := by
    intro r i hi
    rw [rootNumber?] at hi
    split at hi
    · cases hi
      rfl
    · cases hi
  have h := (List.nodup_zipIdx_map_snd f.nodes).sublist (map_filterMap_sublist hchoose _)
  rwa [List.map_id] at h

end Forest

/-- A slot with its object leaves the slots of its children empty, and the others as they are. -/
theorem Folded.step (h : Folded f (index + 1) given slots) (hordered : f.IsOrdered links) {n : Node}
    (hn : f.nodes[index]? = some n) {object : Object} {slots' : List Slot}
    (hself : slots'[index]? = some ⟨some object, []⟩)
    (hothers : ∀ i, i ≠ index →
      slots'[i]? = if i ∈ (f.childrenOf index).map Prod.snd then some ⟨none, []⟩ else slots[i]?) :
    Folded f index (Function.update given index object) slots' where
  older i hi := by
    have hchild : i ∉ (f.childrenOf index).map Prod.snd := fun hmem =>
      absurd (Forest.lt_of_mem_childrenOf hordered hmem) (Nat.lt_asymm hi)
    rw [hothers i (Nat.ne_of_lt hi), if_neg hchild, h.older i (Nat.lt_succ_of_lt hi)]
  newer i hi := by
    rcases Nat.eq_or_lt_of_le hi with rfl | hlt
    · have hwaits : n.owner.any (fun owner => index ≤ owner.node) = false := by
        rw [Option.any_eq_false]
        intro owner howner
        simpa using (hordered index n owner hn howner).1
      rw [hself, hn, Option.map_some, hwaits, Function.update_self]
      rfl
    · -- an object that waited until now still does, unless it was a child of the slot
      have hne : i ≠ index := Nat.ne_of_gt hlt
      rw [hothers i hne, h.newer i hlt, Function.update_of_ne hne]
      cases hm : f.nodes[i]? with
      | none =>
        rw [if_neg]
        · rfl
        · rintro hmem
          obtain ⟨m, owner, hm', -⟩ := Forest.mem_numbers_childrenOf.1 hmem
          rw [hm] at hm'
          cases hm'
      | some m =>
        have hmem : i ∈ (f.childrenOf index).map Prod.snd ↔ ∃ owner, m.owner = some owner ∧ owner.node = index := by
          rw [Forest.mem_numbers_childrenOf]
          simp [hm]
        cases hm' : m.owner with
        | none =>
          rw [if_neg (by simp [hmem, hm'])]
          simp [hm']
        | some owner =>
          by_cases howner : owner.node = index
          · rw [if_pos (hmem.2 ⟨owner, hm', howner⟩)]
            simp [hm', howner]
          · rw [if_neg (by simp [hmem, hm', howner])]
            have hle : index + 1 ≤ owner.node ↔ index ≤ owner.node := by omega
            simp only [Option.map_some, hm', Option.any_some, hle]

/-- The children of the next slot are newer, so they are complete and in their slots. -/
theorem Folded.child_waits (h : Folded f (index + 1) given slots) (hordered : f.IsOrdered links) {link i : Nat}
    (hmem : (link, i) ∈ f.childrenOf index) :
    index < i ∧ link < links.length ∧ slots[i]? = some ⟨some (given i), []⟩ := by
  obtain ⟨n, hn, howner⟩ := Forest.mem_childrenOf.1 hmem
  obtain ⟨hlater, hlink⟩ := hordered i n _ hn howner
  refine ⟨hlater, hlink, ?_⟩
  rw [h.newer i hlater, hn]
  simp [howner]

theorem complete_simulates (h : Folded f (index + 1) given slots) (hordered : f.IsOrdered links) {n : Node}
    (hn : f.nodes[index]? = some n) :
    Simulates notAttached (fun slots' object => Folded f index (Function.update given index object) slots')
      (Arena.complete links slots index)
      (Forest.attachAll links n.object ((f.childrenOf index).map fun c => (c.1, given c.2))) := by
  have hslot : slots[index]? = some ⟨some n.object, f.childrenOf index⟩ := by
    rw [h.older index (Nat.lt_succ_self index), hn]
    rfl
  have hlt : index < slots.length := (List.getElem?_eq_some_iff.1 hslot).1
  rw [Arena.complete]
  apply Simulates.step (fetch_eq_ok hslot)
  apply Simulates.step (store_eq_ok hlt _)
  dsimp only
  cases hchildren : f.childrenOf index with
  | nil =>
    -- nothing is attached, and the slot is never without its object
    refine h.step hordered hn (List.getElem?_set_self hlt) fun i hi => ?_
    rw [List.getElem?_set_ne (Ne.symm hi), hchildren]
    rfl
  | cons c rest =>
    have hwaiting : ∀ c ∈ f.childrenOf index, c.1 < links.length ∧
        (slots.set index ⟨none, []⟩)[c.2]? = some ⟨some (given c.2), []⟩ := by
      rintro ⟨link, i⟩ hc
      obtain ⟨hlater, hlink, hi⟩ := h.child_waits hordered hc
      rw [List.getElem?_set_ne (Nat.ne_of_lt hlater)]
      exact ⟨hlink, hi⟩
    have hself : index ∉ (f.childrenOf index).map Prod.snd := fun hmem =>
      Nat.lt_irrefl index (Forest.lt_of_mem_childrenOf hordered hmem)
    have hattach := attachChildren_simulates _ n.object (f.nodup_childrenOf index) hwaiting
    rw [hchildren] at hattach hself
    apply Simulates.step (take_eq_ok (List.getElem?_set_self hlt))
    dsimp only
    rw [List.set_set]
    apply Simulates.bind_left hattach
    rintro ⟨object, slots'⟩ _ ⟨rfl, hslots'⟩
    have hslot' : slots'[index]? = some ⟨none, []⟩ := by
      rw [hslots', if_neg hself, List.getElem?_set_self hlt]
    have hlt' : index < slots'.length := (List.getElem?_eq_some_iff.1 hslot').1
    apply Simulates.step (fetch_eq_ok hslot')
    rw [store_eq_ok hlt']
    refine h.step hordered hn (List.getElem?_set_self hlt') fun i hi => ?_
    rw [List.getElem?_set_ne (Ne.symm hi), hslots', hchildren, List.getElem?_set_ne (Ne.symm hi)]

/-! ## The fold -/

namespace Forest

theorem drop_zipIdx {n : Node} (hn : f.nodes[index]? = some n) :
    f.nodes.zipIdx.drop index = (n, index) :: f.nodes.zipIdx.drop (index + 1) := by
  obtain ⟨hlt, rfl⟩ := List.getElem?_eq_some_iff.1 hn
  rw [List.drop_eq_getElem_cons (by simpa using hlt), List.getElem_zipIdx, Nat.zero_add]

theorem take_zipIdx {n : Node} (hn : f.nodes[index]? = some n) :
    f.nodes.zipIdx.take (index + 1) = f.nodes.zipIdx.take index ++ [(n, index)] := by
  rw [List.take_add_one, List.getElem?_zipIdx, hn]
  simp

theorem number_of_mem_drop {r : Node × Nat} (h : r ∈ f.nodes.zipIdx.drop index) : index ≤ r.2 := by
  obtain ⟨i, hi, rfl⟩ := List.mem_drop_iff_getElem.1 h
  rw [List.getElem_zipIdx]
  dsimp only
  omega

theorem number_of_mem_take {r : Node × Nat} (h : r ∈ f.nodes.zipIdx.take index) :
    r.2 < index ∧ f.nodes[r.2]? = some r.1 := by
  obtain ⟨i, hi, rfl⟩ := List.mem_take_iff_getElem.1 h
  rw [List.getElem_zipIdx, Nat.zero_add]
  have hlt : i < f.nodes.length := by
    have := Nat.lt_min.1 hi
    simpa using this.2
  exact ⟨(Nat.lt_min.1 hi).1, List.getElem?_eq_getElem hlt⟩

/-- All children of a node are behind it. -/
theorem childrenOf_eq_drop (hordered : f.IsOrdered links) (index : Nat) :
    f.childrenOf index = (f.nodes.zipIdx.drop (index + 1)).filterMap (childOf? index) := by
  have hnil : (f.nodes.zipIdx.take (index + 1)).filterMap (childOf? index) = [] := by
    rw [List.filterMap_eq_nil_iff]
    intro r hr
    obtain ⟨hlt, hnode⟩ := number_of_mem_take hr
    cases hchild : childOf? index r with
    | none => rfl
    | some c =>
      obtain ⟨howner, -⟩ := childOf?_eq_some_iff.1 hchild
      have hbefore := (hordered r.2 r.1 _ hnode howner).1
      dsimp only at hbefore
      omega
  rw [childrenOf, ← List.take_append_drop (index + 1) f.nodes.zipIdx, List.filterMap_append, hnil,
    List.nil_append, List.take_append_drop]

/-- Of the waiting objects, those of the children of the next node are given to it. -/
theorem waiting_mine (hordered : f.IsOrdered links) :
    ((f.waiting (index + 1) given).filter fun c => c.1.node == index).map (fun c => (c.1.link, c.2)) =
      (f.childrenOf index).map fun c => (c.1, given c.2) := by
  rw [childrenOf_eq_drop hordered, waiting, List.filter_filterMap, List.map_filterMap, List.map_filterMap]
  refine List.filterMap_congr fun r _ => ?_
  rw [childOf?]
  cases r.1.owner with
  | none => rfl
  | some owner =>
    rw [Option.bind_some, Option.bind_some]
    by_cases howner : owner.node = index
    · simp [howner]
    · by_cases hlt : owner.node < index + 1 <;> simp [howner, hlt]

/-- The others go on waiting. -/
theorem waiting_others :
    (f.waiting (index + 1) given).filter (not ∘ fun c => c.1.node == index) =
      (f.nodes.zipIdx.drop (index + 1)).filterMap fun r =>
        r.1.owner.bind fun owner => if owner.node < index then some (owner, given r.2) else none := by
  rw [waiting, List.filter_filterMap]
  refine List.filterMap_congr fun r _ => ?_
  cases r.1.owner with
  | none => rfl
  | some owner =>
    rw [Option.bind_some, Option.bind_some]
    rcases Nat.lt_trichotomy owner.node index with hlt | heq | hgt
    · have hne := Nat.ne_of_lt hlt
      simp [hlt, hne, Nat.lt_succ_of_lt hlt]
    · simp [heq]
    · have hle : ¬owner.node < index + 1 := by omega
      simp [hle, Nat.lt_asymm hgt]

theorem waiting_length (f : Forest) (given : Nat → Object) : f.waiting f.nodes.length given = [] := by
  rw [waiting, List.drop_eq_nil_of_le (by simp)]
  rfl

theorem take_length_zipIdx (f : Forest) :
    (f.nodes.zipIdx.take f.nodes.length).filterMap rootNumber? = f.rootNumbers := by
  rw [List.take_of_length_le (by simp), rootNumbers]

/-- A node that is complete waits too, unless it is a root. -/
theorem waiting_update (hordered : f.IsOrdered links) {n : Node} (hn : f.nodes[index]? = some n)
    (object : Object) :
    f.waiting index (Function.update given index object) =
      (n.owner.map fun owner => (owner, object)).toList ++
        (f.waiting (index + 1) given).filter (not ∘ fun c => c.1.node == index) := by
  have hrest : (f.nodes.zipIdx.drop (index + 1)).filterMap (fun r => r.1.owner.bind fun owner =>
      if owner.node < index then some (owner, Function.update given index object r.2) else none) =
        (f.waiting (index + 1) given).filter (not ∘ fun c => c.1.node == index) := by
    rw [waiting_others]
    refine List.filterMap_congr fun r hr => ?_
    rw [Function.update_of_ne (Nat.ne_of_gt (number_of_mem_drop hr))]
  rw [waiting, drop_zipIdx hn, List.filterMap_cons, hrest]
  cases howner : n.owner with
  | none => rfl
  | some owner =>
    simp [(hordered index n owner hn howner).1]

/-- The newest of the nodes takes the waiting objects of its children, and then waits itself or is a root. -/
theorem rootsFrom_waiting (hordered : f.IsOrdered links) {n : Node} (hn : f.nodes[index]? = some n) :
    rootsFrom links (f.nodes.take (index + 1)).reverse (f.waiting (index + 1) given) =
      attachAll links n.object ((f.childrenOf index).map fun c => (c.1, given c.2)) >>= fun object =>
        (rootsFrom links (f.nodes.take index).reverse
          (f.waiting index (Function.update given index object))).map fun others =>
            others ++ if n.owner.isNone then [object] else [] := by
  have hnodes : (f.nodes.take (index + 1)).reverse = n :: (f.nodes.take index).reverse := by
    rw [List.take_add_one, hn, Option.toList_some, List.reverse_append, List.reverse_singleton]
    rfl
  have hlength : (f.nodes.take index).reverse.length = index := by
    rw [List.length_reverse, List.length_take, Nat.min_eq_left]
    exact Nat.le_of_lt (List.getElem?_eq_some_iff.1 hn).1
  rw [hnodes, rootsFrom, List.partition_eq_filter_filter, hlength]
  dsimp only
  rw [waiting_mine hordered]
  refine bind_congr fun object => ?_
  rw [waiting_update hordered hn]
  cases n.owner with
  | none => rfl
  | some owner =>
    rw [Option.map_some, Option.toList_some, List.singleton_append]
    simp only [Option.isNone_some, Bool.false_eq_true, if_false, List.append_nil]
    exact (congrFun Except.map_id _).symm

end Forest

/-- The slots are folded as the nodes are: in the end each root's slot holds its object. -/
theorem fold_simulates (hordered : f.IsOrdered links) : ∀ {index : Nat} {given : Nat → Object}
    {slots : List Slot}, index ≤ f.nodes.length → Folded f index given slots →
      Simulates notAttached (fun slots' objects => ∃ given', Folded f 0 given' slots' ∧
          (∀ i, index ≤ i → given' i = given i) ∧
          objects = ((f.nodes.zipIdx.take index).filterMap Forest.rootNumber?).map given')
        (Arena.fold links index slots)
        (Forest.rootsFrom links (f.nodes.take index).reverse (f.waiting index given)) := by
  -- over the slots that are still to be completed; `Folded` is what each step keeps
  intro index
  induction index with
  | zero =>
    intro given slots _ h
    exact ⟨given, h, fun i _ => rfl, rfl⟩
  | succ index ih =>
    intro given slots hle h
    obtain ⟨n, hn⟩ : ∃ n, f.nodes[index]? = some n := ⟨_, List.getElem?_eq_getElem hle⟩
    rw [Forest.rootsFrom_waiting hordered hn, Arena.fold]
    apply Simulates.bind (complete_simulates h hordered hn)
    intro slots' object hfolded
    apply (ih (Nat.le_of_succ_le hle) hfolded).map_right
    rintro slots'' objects ⟨given', hfolded', hgiven', rfl⟩
    have hself : given' index = object := by
      rw [hgiven' index (Nat.le_refl _), Function.update_self]
    refine ⟨given', hfolded', fun i hi => ?_, ?_⟩
    · rw [hgiven' i (Nat.le_of_succ_le hi), Function.update_of_ne (Nat.ne_of_gt hi)]
    · rw [Forest.take_zipIdx hn, List.filterMap_append, List.map_append]
      cases howner : n.owner with
      | none => simp [Forest.rootNumber?, howner, hself]
      | some owner => simp [Forest.rootNumber?, howner]

/-! ## The roots -/

section Roots

variable {root : ObjectType} {joins : List Join} {split : SplitPlan}

/-- Different roots of the right type are taken out of their slots. -/
theorem collect_eq_ok (numbers : List Nat) : ∀ {slots : List Slot}, numbers.Nodup →
    (∀ i ∈ numbers, slots[i]? = some ⟨some (given i), []⟩ ∧ (given i).type = root.id) →
      Arena.collect root numbers slots = .ok (numbers.map given) := by
  induction numbers with
  | nil =>
    intro slots _ _
    rfl
  | cons i numbers ih =>
    intro slots hnodup hslots
    obtain ⟨hslot, htype⟩ := hslots i List.mem_cons_self
    obtain ⟨hfresh, hnodup⟩ := List.nodup_cons.1 hnodup
    have hrest : ∀ j ∈ numbers,
        (slots.set i ⟨none, []⟩)[j]? = some ⟨some (given j), []⟩ ∧ (given j).type = root.id := by
      intro j hj
      have hne : i ≠ j := by
        rintro rfl
        exact hfresh hj
      rw [List.getElem?_set_ne hne]
      exact hslots j (List.mem_cons_of_mem _ hj)
    rw [Arena.collect]
    refine bind_eq_ok.2 ⟨_, take_eq_ok hslot, ?_⟩
    dsimp only
    rw [if_pos htype, ih hnodup hrest]
    rfl

/-- Roots are of the root's type. -/
theorem type_of_assemble (hjoins : joins ≠ []) (hbuilt : ∀ j ∈ joins, j.IsBuilt) {rows : List Row}
    {objects : List Object} (h : root.assemble joins split rows = .ok objects) :
    ∀ o ∈ objects, o.type = root.id := by
  obtain ⟨links, hlinks, -, -, whole, hwhole, rfl⟩ := (assemble_eq_ok_iff hjoins).1 h
  intro o ho
  obtain ⟨id, hid, rfl⟩ := List.mem_map.1 ho
  obtain ⟨hmem, hroot⟩ := List.mem_filter.1 hid
  cases id with
  | under parent link mark => cases hroot
  | root mark =>
    obtain ⟨part, type, object, -, htype, hread, hfold⟩ := hwhole _ hmem
    cases htype
    have hkeeps : ∀ l ∈ links, l.Keeps Object.type := fun l hl => (keeps_of_ofJoins hbuilt hlinks l hl).1
    rw [about_foldlM_setter hkeeps whole _ hfold, type_of_read hread]

/-- The slots before the fold. -/
theorem Mirrors.folded {a : Arena} (h : Mirrors links a f) (given : Nat → Object) :
    Folded f f.nodes.length given a.slots where
  older i _ := h.slots i
  newer i hi := by
    rw [h.slots i, List.getElem?_eq_none hi]
    rfl

end Roots

end Rowgraph
