import Rowgraph.Proofs.Command.Required
import Rowgraph.Proofs.FirstOccurrences
import Rowgraph.Proofs.Graph.Places
import Rowgraph.Proofs.Graph.Reference

/-!
# Construction of joins

Joins are built one after the other, between other uses of the caches, and an application keeps them whatever
becomes of the caches (`Application.after`). For every key the caches hold the setter of the first navigation of
the key that a join was bound to since the last purge, and no other setter (`Caches.KeepsFirst`): a use of the
caches preserves this (`Caches.KeepsFirst.bound`), so it holds after every history (`Caches.keepsFirst_after`).
A join therefore has the setter of that first navigation. It takes the objects of the join's own types, since they
are in the key, but puts children into the place of the navigation that it was made for (`Application.setters_after`).
-/

set_option autoImplicit false

namespace Rowgraph

namespace CacheUse

/-- The navigation that a join is bound to. -/
def navigation? : CacheUse → Option Navigation
  | bound navigation _ => some navigation
  | _ => none

/-- The navigations that joins were bound to since the last purge, in order. -/
def navigations (history : List CacheUse) : List Navigation :=
  (history.rtakeWhile fun use => !use.isPurge).filterMap navigation?

/-- The first navigation of a navigation's key that a join was bound to since the last purge, or else the
navigation itself. -/
def firstBound (history : List CacheUse) (n : Navigation) : Navigation :=
  ((navigations history).find? fun n' => n'.key == n.key).getD n

theorem navigations_concat (history : List CacheUse) {u : CacheUse} (h : u.isPurge = false) :
    navigations (history ++ [u]) = navigations history ++ [u].filterMap navigation? := by
  rw [navigations, List.rtakeWhile_concat_pos _ _ _ (by simp [h]), List.filterMap_append, navigations]

theorem navigations_purged (history : List CacheUse) : navigations (history ++ [CacheUse.purged]) = [] := by
  rw [navigations, List.rtakeWhile_concat_neg _ _ _ (by simp [isPurge]), List.filterMap_nil]

theorem firstBound_cases (history : List CacheUse) (n : Navigation) :
    firstBound history n = n ∨ firstBound history n ∈ navigations history ∧ (firstBound history n).key = n.key := by
  rw [firstBound]
  cases hfirst : (navigations history).find? fun n' => n'.key == n.key with
  | none => exact Or.inl rfl
  | some first =>
    have hkey := List.find?_some hfirst
    exact Or.inr ⟨List.mem_of_find?_eq_some hfirst, beq_iff_eq.1 hkey⟩

theorem key_firstBound (history : List CacheUse) (n : Navigation) : (firstBound history n).key = n.key := by
  rcases firstBound_cases history n with hown | ⟨-, hkey⟩
  · rw [hown]
  · exact hkey

/-- Navigations of one key that say one place have one cell. -/
theorem cell_firstBound {history : List CacheUse} {n : Navigation}
    (h : ∀ n' ∈ navigations history, n'.key = n.key → n'.slot = n.slot ∧ n'.cardinality = n.cardinality) :
    (firstBound history n).cell = n.cell := by
  rcases firstBound_cases history n with hown | ⟨hmem, hkey⟩
  · rw [hown]
  · obtain ⟨hslot, hcardinality⟩ := h _ hmem hkey
    obtain ⟨-, hchild, -⟩ := SetterKey.mk.inj hkey
    rw [Navigation.cell, Navigation.cell, hslot, hchild, hcardinality]

end CacheUse

/-! ## What the caches keep -/

namespace Caches

/-- Do the caches hold, for each key that some of the navigations have, the setter of the first of them, and
nothing else? -/
structure KeepsFirst (c : Caches) (ns : List Navigation) : Prop where
  keys : c.setters.map Prod.fst = (ns.map Navigation.key).eraseDups
  lookup_eq : ∀ key, c.setters.lookup key = (ns.find? fun n => n.key == key).map Navigation.setter

variable {c c' : Caches} {ns : List Navigation}

theorem keepsFirst_empty : empty.KeepsFirst [] where
  keys := rfl
  lookup_eq _ := rfl

theorem KeepsFirst.congr (h : c.KeepsFirst ns) (hsetters : c'.setters = c.setters) : c'.KeepsFirst ns where
  keys := by rw [hsetters, h.keys]
  lookup_eq key := by rw [hsetters, h.lookup_eq]

/-- A key is held just if one of the navigations has it. -/
theorem KeepsFirst.lookup_isSome (h : c.KeepsFirst ns) (key : SetterKey) :
    (c.setters.lookup key).isSome = true ↔ key ∈ ns.map Navigation.key := by
  rw [h.lookup_eq, Option.isSome_map, List.find?_isSome]
  simp [List.mem_map]

theorem setters_setter (c : Caches) (key : SetterKey) (offered : Setter) :
    (c.setter key offered).2.setters =
      if (c.setters.lookup key).isSome then c.setters else c.setters ++ [(key, offered)] := by
  rw [setter]
  cases c.setters.lookup key <;> rfl

theorem setters_requiredMembers (c : Caches) (e : Entity) : (c.requiredMembers e).2.setters = c.setters := by
  rw [requiredMembers]
  split <;> rfl

/-- The step: the setter of one more navigation is kept if it is the first of its key. -/
theorem KeepsFirst.bound (h : c.KeepsFirst ns) (n : Navigation) :
    (c.setter n.key n.setter).2.KeepsFirst (ns ++ [n]) where
  keys := by
    rw [setters_setter, List.map_append, List.map_singleton, eraseDups_concat, ← h.keys]
    simp only [h.lookup_isSome]
    -- a key that is held comes to the keys for the second time, and is dropped there as well
    split
    · rfl
    · rw [List.map_append, List.map_singleton]
  lookup_eq key := by
    rw [setters_setter, lookup_offered, h.lookup_eq, List.find?_append, Option.map_or, List.find?_singleton]
    split <;> rfl

/-- Other uses leave the setters as they are. -/
theorem setters_use (c : Caches) {u : CacheUse} (hpurge : u.isPurge = false) (hnone : u.navigation? = none) :
    (c.use u).setters = c.setters := by
  cases u with
  | bound navigation parent => cases hnone
  | required e => exact setters_requiredMembers c e
  | performed g op =>
    cases op with
    | insertTemplate e template => exact setters_requiredMembers c e
    | _ => rfl
  | purged => cases hpurge

/-- The run: after a history, the first setter of each key bound since the last purge is kept. -/
theorem keepsFirst_after (history : List CacheUse) :
    (after history).KeepsFirst (CacheUse.navigations history) := by
  induction history using List.reverseRecOn with
  | nil => exact keepsFirst_empty
  | append_singleton history u ih =>
    rw [after, List.foldl_concat, ← after]
    -- what neither binds nor purges changes neither the setters nor the navigations
    have hother : u.isPurge = false → u.navigation? = none →
        ((after history).use u).KeepsFirst (CacheUse.navigations (history ++ [u])) := by
      intro hpurge hnone
      rw [CacheUse.navigations_concat history hpurge, List.filterMap_cons_none hnone, List.filterMap_nil,
        List.append_nil]
      exact ih.congr (setters_use _ hpurge hnone)
    cases u with
    | bound navigation parent =>
      rw [CacheUse.navigations_concat history rfl]
      exact ih.bound navigation
    | required e => exact hother rfl rfl
    | performed g op => exact hother rfl rfl
    | purged =>
      rw [CacheUse.navigations_purged]
      exact keepsFirst_empty.congr (setters_purge (after history))

/-- A setter that is asked for after a history is that of the first navigation of its key. -/
theorem setter_after (history : List CacheUse) (n : Navigation) :
    ((after history).setter n.key n.setter).1 = (CacheUse.firstBound history n).setter := by
  rw [setter, (keepsFirst_after history).lookup_eq, CacheUse.firstBound]
  cases (CacheUse.navigations history).find? fun n' => n'.key == n.key <;> rfl

theorem setterCount_after (history : List CacheUse) :
    (after history).setterCount = ((CacheUse.navigations history).map Navigation.key).eraseDups.length := by
  rw [← (keepsFirst_after history).keys, List.length_map, setterCount]

end Caches

/-! ## What a setter does -/

/-- Does an object become another one by a child at a place? The child stands behind the others there, or in the
stead of the one before if there is room for one only, and everything else is as it was. -/
structure Object.Gains (o : Object) (cell : Cell) (child o' : Object) : Prop where
  type : o'.type = o.type
  row : o'.row = o.row
  here : o'.childrenAt cell =
    match cell.cardinality with
    | .one => [child]
    | .many => o.childrenAt cell ++ [child]
  elsewhere : ∀ other, other ≠ cell → o'.childrenAt other = o.childrenAt other

theorem Object.gains_attach (o : Object) (cell : Cell) (child : Object) :
    o.Gains cell child (o.attach cell child) where
  type := o.attach_type cell child
  row := o.attach_row cell child
  here := by
    cases hcardinality : cell.cardinality with
    | one => simp [attach, hcardinality, childrenAt, attached, List.filter_filter]
    | many => simp [attach, hcardinality, childrenAt, attached]
  elsewhere := fun _ hother => Object.childrenAt_attach_of_ne hother.symm child

namespace Navigation

variable {n : Navigation} {o child o' : Object}

/-- A setter takes the objects of the navigation's types, and no others. -/
theorem setter_isOk_iff : (∃ o', n.setter o child = .ok o') ↔ o.type = n.owner ∧ child.type = n.child.id := by
  constructor
  · rintro ⟨o', h⟩
    rw [setter] at h
    split at h
    · cases h
    · next howner =>
      split at h
      · cases h
      · next hchild => exact ⟨not_not.1 howner, not_not.1 hchild⟩
  · rintro ⟨howner, hchild⟩
    exact ⟨_, setter_eq_ok howner hchild⟩

theorem gains_of_setter (h : n.setter o child = .ok o') : o.Gains n.cell child o' := by
  rw [eq_attach_of_setter h]
  exact o.gains_attach n.cell child

end Navigation

/-! ## Applications -/

/-- An application: the caches, and the joins that it has built, in order. -/
structure Application where
  caches : Caches := .empty
  joins : List Join := []

namespace Application

/-- The application after a use of its caches, which builds a join if it binds one. -/
def step (a : Application) : CacheUse → Application
  | .bound navigation parent =>
    let (j, caches) := Join.bound navigation parent a.caches
    ⟨caches, a.joins ++ [j]⟩
  | u => { a with caches := a.caches.use u }

/-- The application after a history, in which it had nothing first. -/
def after (history : List CacheUse) : Application := history.foldl step {}

theorem after_concat (history : List CacheUse) (u : CacheUse) : after (history ++ [u]) = (after history).step u :=
  List.foldl_concat _ _ _ _

theorem caches_after (history : List CacheUse) : (after history).caches = Caches.after history := by
  induction history using List.reverseRecOn with
  | nil => rfl
  | append_singleton history u ih =>
    rw [after_concat, Caches.after, List.foldl_concat, ← Caches.after, ← ih]
    cases u <;> rfl

/-- A step leaves the joins that are there as they are. -/
theorem joins_step (a : Application) (u : CacheUse) : a.joins <+: (a.step u).joins := by
  cases u with
  | bound navigation parent => exact List.prefix_append _ _
  | _ => exact List.prefix_refl _

/-- The joins of a history are the first ones of every history that goes on from it. -/
theorem joins_after_append (before later : List CacheUse) :
    (after before).joins <+: (after (before ++ later)).joins := by
  induction later using List.reverseRecOn with
  | nil => simp
  | append_singleton later u ih =>
    rw [← List.append_assoc, after_concat]
    exact ih.trans (joins_step _ u)

/-- There is one join for each navigation. -/
theorem length_joins_after (history : List CacheUse) :
    (after history).joins.length = (history.filterMap CacheUse.navigation?).length := by
  induction history using List.reverseRecOn with
  | nil => rfl
  | append_singleton history u ih =>
    rw [after_concat, List.filterMap_append, List.length_append, ← ih]
    cases u with
    | bound navigation parent => exact List.length_append
    | _ => rfl

/-- The join of a navigation is built by the caches as they are then, and is there ever after. -/
theorem getElem?_joins_after (before : List CacheUse) (n : Navigation) (parent : Nat) (later : List CacheUse) :
    (after (before ++ .bound n parent :: later)).joins[(before.filterMap CacheUse.navigation?).length]? =
      some (Join.bound n parent (Caches.after before)).1 := by
  have hbuilt : (after (before ++ [CacheUse.bound n parent])).joins =
      (after before).joins ++ [(Join.bound n parent (Caches.after before)).1] := by
    rw [after_concat, ← caches_after]
    rfl
  -- what comes later stands behind the join
  obtain ⟨others, hothers⟩ := joins_after_append (before ++ [CacheUse.bound n parent]) later
  rw [List.append_cons, ← hothers, hbuilt, ← length_joins_after, List.append_assoc,
    List.getElem?_append_right (Nat.le_refl _), Nat.sub_self]
  rfl

/-- After a history the setters in the caches are as many as the keys that were bound since the last purge. A join
has, then and later, the setter of the first navigation of its key since the last purge before it, which takes
parents and children of the join's own types and no others. It puts the children into the join's own place if the
navigations of the key that came before say the same place. -/
theorem setters_after (history : List CacheUse) :
    (after history).caches.setterCount =
        ((CacheUse.navigations history).map Navigation.key).eraseDups.length ∧
      (after history).joins.length = (history.filterMap CacheUse.navigation?).length ∧
      ∀ before navigation parent later, history = before ++ .bound navigation parent :: later →
        ∃ j b, (after history).joins[(before.filterMap CacheUse.navigation?).length]? = some j ∧
          j.binding = some b ∧ b.parentType = navigation.owner ∧ b.child = navigation.child ∧
          b.setter = (CacheUse.firstBound before navigation).setter ∧
          (∀ o child, (∃ o', b.setter o child = .ok o') ↔ o.type = b.parentType ∧ child.type = b.child.id) ∧
          ((∀ n ∈ CacheUse.navigations before, n.key = navigation.key →
              n.slot = navigation.slot ∧ n.cardinality = navigation.cardinality) →
            ∀ o child o', b.setter o child = .ok o' → o.Gains navigation.cell child o') := by
  refine ⟨?_, length_joins_after history, ?_⟩
  · rw [caches_after]
    exact Caches.setterCount_after history
  · rintro before n parent later rfl
    have hbinding : (Join.bound n parent (Caches.after before)).1.binding =
        some ⟨n.owner, n.child, (CacheUse.firstBound before n).setter⟩ := by
      rw [← Caches.setter_after before n]
      rfl
    -- the types are part of the key, so the setter was made for objects of the join's own types
    obtain ⟨howner, hchild, -⟩ := SetterKey.mk.inj (CacheUse.key_firstBound before n)
    refine ⟨_, _, getElem?_joins_after before n parent later, hbinding, rfl, rfl, rfl, ?_, ?_⟩
    · intro o child
      rw [← howner, ← hchild]
      exact Navigation.setter_isOk_iff
    · intro hsame o child o' ho'
      -- the first navigation says the same place, whichever it is
      rw [← CacheUse.cell_firstBound hsame]
      exact Navigation.gains_of_setter ho'

end Application

namespace Clubs

/-- The members of a club at another place. -/
def reserves : Navigation := ⟨"Members", 0, keyed 1 "Member", 1, .many⟩

/-- Reserves are bound behind a purge. -/
def reserved : List CacheUse := [.bound members 0, .purged, .bound reserves 0]

end Clubs

open Clubs in
/-- Another join to the reserves puts them into their place, and so does a join to the members after them, whatever
is purged later. -/
theorem setters_after_clubs :
    (∀ n ∈ CacheUse.navigations reserved, n.key = reserves.key →
        n.slot = reserves.slot ∧ n.cardinality = reserves.cardinality) ∧
      (∃ (j : Join) (b : Binding),
        (Application.after (reserved ++ [CacheUse.bound reserves 0, .purged])).joins[2]? = some j ∧
          j.binding = some b ∧ ∀ o child o', b.setter o child = .ok o' → o.Gains reserves.cell child o') ∧
      ∃ (j : Join) (b : Binding),
        (Application.after (reserved ++ [CacheUse.bound members 0, .purged])).joins[2]? = some j ∧
          j.binding = some b ∧ b.setter = reserves.setter := by
  have hsame : ∀ n ∈ CacheUse.navigations reserved, n.key = reserves.key →
      n.slot = reserves.slot ∧ n.cardinality = reserves.cardinality := by
    intro n hn _
    have hreserves : CacheUse.navigations reserved = [reserves] := rfl
    rw [hreserves, List.mem_singleton] at hn
    rw [hn]
    exact ⟨rfl, rfl⟩
  obtain ⟨-, -, hreserves⟩ := Application.setters_after (reserved ++ [CacheUse.bound reserves 0, .purged])
  obtain ⟨j, b, hj, hb, -, -, -, -, hgains⟩ := hreserves reserved reserves 0 [.purged] rfl
  obtain ⟨-, -, hmembers⟩ := Application.setters_after (reserved ++ [CacheUse.bound members 0, .purged])
  obtain ⟨j', b', hj', hb', -, -, hfirst, -⟩ := hmembers reserved members 0 [.purged] rfl
  exact ⟨hsame, ⟨j, b, hj, hb, hgains hsame⟩, j', b', hj', hb', hfirst⟩

end Rowgraph
