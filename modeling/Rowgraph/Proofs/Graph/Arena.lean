import Rowgraph.Graph.Assembly
import Rowgraph.Proofs.Results

/-!
# The arena

Assembly as it works on memory. Nodes are slots that are numbered in the order of their creation; a slot holds
an object and the numbers of its children, and maps remember which slot stands for which key and which parent.
When all rows are read the slots are folded from the last to the first: the objects of the children are taken
out of their slots and attached to their parent, and in the end the objects of the roots are taken out.

Everything that could go wrong on the way is a fault here: an index behind the end of a list, columns that a row
does not have, an object that is taken out of its slot for the second time, an object of another type that is
to be attached or to be a root (`Fault`). A step of the arena simulates a step of another computation if both
reach related states or fail with the same error, which the arena marks in one way (`Simulates`).
-/

set_option autoImplicit false

namespace Rowgraph

/-- Why assembly stops. -/
inductive Fault where
  /-- An index is behind the end of a list, or a row is cut where it has no columns. -/
  | outOfRange
  /-- The object of a node is to be attached a second time. -/
  | attachedTwice (node : Nat)
  /-- The object of a root is not one of the root's type. -/
  | notRoot (name : String)
  /-- A setter refuses a parent or a child. -/
  | notAttached (e : Error)
  /-- An error of a check or of the application's code is passed on. -/
  | reported (e : Error)

namespace Fault

/-- A result whose error is passed on. -/
def report {α : Type} (x : Except Error α) : Except Fault α := x.mapError reported

/-- The element at an index. -/
def fetch {α : Type} (l : List α) (i : Nat) : Except Fault α :=
  match l[i]? with
  | some a => .ok a
  | none => .error outOfRange

/-- The list with another element at an index. -/
def store {α : Type} (l : List α) (i : Nat) (a : α) : Except Fault (List α) :=
  if i < l.length then .ok (l.set i a) else .error outOfRange

/-- The columns of a row in a range. -/
def cut (row : Row) (range : Nat × Nat) : Except Fault Row :=
  if range.1 ≤ range.2 ∧ range.2 ≤ row.width then .ok (row.slice range.1 range.2) else .error outOfRange

end Fault

open Fault

/-- A node: its object, unless that was taken, and its children, each behind the position of its link. -/
structure Slot where
  object : Option Object
  children : List (Nat × Nat)

/-- The slots in the order of creation, the numbers of the roots, and what stands for which key and parent. -/
structure Arena where
  slots : List Slot := []
  roots : List Nat := []
  rootByKey : List (Key × Nat) := []
  manyByKey : List ((Nat × Nat × Key) × Nat) := []
  oneByParent : List ((Nat × Nat) × Nat) := []

namespace Arena

/-! ## Rows -/

/-- A new slot for an object, and its number. -/
def push (a : Arena) (object : Object) : Nat × Arena :=
  (a.slots.length, { a with slots := a.slots ++ [⟨some object, []⟩] })

/-- A new slot below a parent. -/
def pushChild (a : Arena) (parent link : Nat) (object : Object) : Except Fault (Nat × Arena) := do
  let (node, a) := a.push object
  let slot ← fetch a.slots parent
  let slots ← store a.slots parent { slot with children := slot.children ++ [(link, node)] }
  return (node, { a with slots := slots })

/-- A new slot for a root. -/
def pushRoot (a : Arena) (object : Object) : Nat × Arena :=
  let (node, a) := a.push object
  (node, { a with roots := a.roots ++ [node] })

/-- The slot of a root: the one that stands for its key, or else a new one. -/
def placeRoot (a : Arena) (key : Option Key) (object : Object) : Nat × Arena :=
  match key with
  | none => a.pushRoot object
  | some k =>
    match a.rootByKey.lookup k with
    | some node => (node, a)
    | none =>
      let (node, a) := a.pushRoot object
      (node, { a with rootByKey := (k, node) :: a.rootByKey })

/-- The slot of an object that may be one of many below its parent. -/
def placeMany (a : Arena) (parent link : Nat) (key : Option Key) (object : Object) :
    Except Fault (Nat × Arena) :=
  match key with
  | none => a.pushChild parent link object
  | some k =>
    match a.manyByKey.lookup (parent, link, k) with
    | some node => .ok (node, a)
    | none => do
      let (node, a) ← a.pushChild parent link object
      return (node, { a with manyByKey := ((parent, link, k), node) :: a.manyByKey })

/-- The slot of a link's object below a parent. -/
def placeChild (links : List Link) (a : Arena) (cardinality : Cardinality) (parent link : Nat) (part : Row) :
    Except Fault (Nat × Arena) :=
  match cardinality with
  | .one =>
    match a.oneByParent.lookup (parent, link) with
    | some node => .ok (node, a)
    | none => do
      let l ← fetch links link
      let object ← report (l.child.read part)
      let (node, a) ← a.pushChild parent link object
      return (node, { a with oneByParent := ((parent, link), node) :: a.oneByParent })
  | .many => do
    let l ← fetch links link
    let object ← report (l.child.read part)
    a.placeMany parent link (l.child.key? object) object

/-- The object of one join in a row is placed. `current` holds the row's slots by position. -/
def placeJoin (links : List Link) (row : Row) (ranges : List (Nat × Nat)) (j : Join) (index : Nat)
    (current : List (Option Nat)) (a : Arena) : Except Fault (List (Option Nat) × Arena) := do
  match ← fetch current j.parent with
  | none => return (current, a)
  | some parent =>
    let range ← fetch ranges (index + 1)
    let part ← cut row range
    if part.isAbsent then return (current, a)
    else
      let (node, a) ← placeChild links a j.cardinality parent index part
      return (← store current (index + 1) (some node), a)

/-- The objects of a row below its root are placed, join by join. -/
def placeJoins (links : List Link) (row : Row) (ranges : List (Nat × Nat)) :
    List Join → Nat → List (Option Nat) → Arena → Except Fault Arena
  | [], _, _, a => .ok a
  | j :: rest, index, current, a => do
    let (current, a) ← placeJoin links row ranges j index current a
    placeJoins links row ranges rest (index + 1) current a

/-- The objects of a row are placed. -/
def placeRow (root : ObjectType) (joins : List Join) (links : List Link) (split : SplitPlan) (a : Arena)
    (row : Row) : Except Fault Arena := do
  let ranges ← report (split.ranges row.width)
  let current := List.replicate (joins.length + 1) none
  let range ← fetch ranges 0
  let part ← cut row range
  let object ← report (root.read part)
  let (node, a) := a.placeRoot (root.key? object) object
  let current ← store current 0 (some node)
  placeJoins links row ranges joins 0 current a

/-! ## The fold -/

/-- The object of a slot, which is left without. -/
def take (slots : List Slot) (node : Nat) : Except Fault (Object × List Slot) := do
  let slot ← fetch slots node
  match slot.object with
  | none => .error (attachedTwice node)
  | some object => return (object, ← store slots node { slot with object := none })

/-- Children are taken out of their slots and attached to a parent. -/
def attachChildren (links : List Link) :
    List (Nat × Nat) → Object → List Slot → Except Fault (Object × List Slot)
  | [], parent, slots => .ok (parent, slots)
  | (link, child) :: rest, parent, slots => do
    let (child, slots) ← take slots child
    let l ← fetch links link
    let parent ← (l.setter parent child).mapError notAttached
    attachChildren links rest parent slots

/-- A slot gets its object with all children attached. -/
def complete (links : List Link) (slots : List Slot) (node : Nat) : Except Fault (List Slot) := do
  let slot ← fetch slots node
  let slots ← store slots node { slot with children := [] }
  if slot.children.isEmpty then return slots
  else
    let (parent, slots) ← take slots node
    let (parent, slots) ← attachChildren links slot.children parent slots
    let slot ← fetch slots node
    store slots node { slot with object := some parent }

/-- The slots before a number are completed, from the last to the first. -/
def fold (links : List Link) : Nat → List Slot → Except Fault (List Slot)
  | 0, slots => .ok slots
  | node + 1, slots => do
    let slots ← complete links slots node
    fold links node slots

/-- The objects of the roots are taken out. -/
def collect (root : ObjectType) : List Nat → List Slot → Except Fault (List Object)
  | [], _ => .ok []
  | node :: rest, slots => do
    let (object, slots) ← take slots node
    if object.type = root.id then return object :: (← collect root rest slots)
    else .error (notRoot root.entity.name)

end Arena

/-- The objects that joined rows become, by way of an arena. -/
def ObjectType.assembleInArena (root : ObjectType) (joins : List Join) (split : SplitPlan) (rows : List Row) :
    Except Fault (List Object) :=
  if joins.isEmpty then report (root.readAll rows)
  else do
    let links ← report (Link.ofJoins root joins split)
    let a ← rows.foldlM (Arena.placeRow root joins links split) {}
    let slots ← Arena.fold links a.slots.length a.slots
    Arena.collect root a.roots slots

/-! ## Simulation -/

/-- Does a computation that may have faults reach a related state, or fail with the same error, marked? -/
def Simulates {α β : Type} (mark : Error → Fault) (R : α → β → Prop) : Except Fault α → Except Error β → Prop
  | .ok a, .ok b => R a b
  | .error fault, .error e => fault = mark e
  | _, _ => False

namespace Simulates

variable {α β γ δ : Type} {mark : Error → Fault} {R : α → β → Prop} {S : γ → δ → Prop}
  {x : Except Fault α} {y : Except Error β}

theorem marked (y : Except Error β) : Simulates mark Eq (y.mapError mark) y := by
  cases y with
  | error e => exact rfl
  | ok b => exact rfl

/-- Computations that simulate have both failed alike or both reached related states. -/
theorem cases_iff : Simulates mark R x y ↔
    (∃ e, x = .error (mark e) ∧ y = .error e) ∨ ∃ a b, x = .ok a ∧ y = .ok b ∧ R a b := by
  cases x with
  | error fault =>
    cases y with
    | error e => simp [Simulates]
    | ok b => simp [Simulates]
  | ok a =>
    cases y with
    | error e => simp [Simulates]
    | ok b => simp [Simulates]

theorem bind {f : α → Except Fault γ} {g : β → Except Error δ} (h : Simulates mark R x y)
    (hf : ∀ a b, R a b → Simulates mark S (f a) (g b)) : Simulates mark S (x >>= f) (y >>= g) := by
  rcases cases_iff.1 h with ⟨e, rfl, rfl⟩ | ⟨a, b, rfl, rfl, hab⟩
  · exact rfl
  · exact hf a b hab

theorem mono (h : Simulates mark R x y) {T : α → β → Prop} (hT : ∀ a b, R a b → T a b) : Simulates mark T x y := by
  rcases cases_iff.1 h with ⟨e, rfl, rfl⟩ | ⟨a, b, rfl, rfl, hab⟩
  · exact rfl
  · exact hT a b hab

/-- Related results are results of both. -/
theorem with_result (h : Simulates mark R x y) : Simulates mark (fun a b => R a b ∧ y = .ok b) x y := by
  rcases cases_iff.1 h with ⟨e, rfl, rfl⟩ | ⟨a, b, rfl, rfl, hab⟩
  · exact rfl
  · exact ⟨hab, rfl⟩

theorem bind_left {f : α → Except Fault γ} {T : γ → β → Prop} (h : Simulates mark R x y)
    (hf : ∀ a b, R a b → Simulates mark T (f a) (.ok b)) : Simulates mark T (x >>= f) y := by
  rcases cases_iff.1 h with ⟨e, rfl, rfl⟩ | ⟨a, b, rfl, rfl, hab⟩
  · exact rfl
  · exact hf a b hab

theorem map_right {g : β → δ} {T : α → δ → Prop} (h : Simulates mark R x y) (hg : ∀ a b, R a b → T a (g b)) :
    Simulates mark T x (y.map g) := by
  rcases cases_iff.1 h with ⟨e, rfl, rfl⟩ | ⟨a, b, rfl, rfl, hab⟩
  · exact rfl
  · exact hg a b hab

/-- A step that cannot fail is made first. -/
theorem step {x : Except Fault α} {a : α} {f : α → Except Fault γ} {y : Except Error δ} (hx : x = .ok a)
    (h : Simulates mark S (f a) y) : Simulates mark S (x >>= f) y := by
  subst hx
  exact h

/-- What simulates with equal results only marks errors. -/
theorem eq_marked {x : Except Fault β} (h : Simulates mark Eq x y) : x = y.mapError mark := by
  rcases cases_iff.1 h with ⟨e, rfl, rfl⟩ | ⟨a, b, rfl, rfl, hab⟩
  · exact rfl
  · exact congrArg Except.ok hab

theorem foldlM {ι : Type} {f : α → ι → Except Fault α} {g : β → ι → Except Error β} (is : List ι)
    (hstep : ∀ i ∈ is, ∀ a b, R a b → Simulates mark R (f a i) (g b i)) :
    ∀ {a b}, R a b → Simulates mark R (is.foldlM f a) (is.foldlM g b) := by
  induction is with
  | nil =>
    intro a b h
    exact h
  | cons i is ih =>
    intro a b h
    rw [List.foldlM_cons, List.foldlM_cons]
    apply bind (hstep i List.mem_cons_self a b h)
    intro a' b' h'
    exact ih (fun i' hi' => hstep i' (List.mem_cons_of_mem _ hi')) h'

end Simulates

section Checked

variable {α : Type}

theorem fetch_eq_ok {l : List α} {i : Nat} {a : α} (h : l[i]? = some a) : fetch l i = .ok a := by
  rw [fetch, h]

theorem store_eq_ok {l : List α} {i : Nat} (h : i < l.length) (a : α) : store l i a = .ok (l.set i a) := by
  rw [store, if_pos h]

theorem cut_eq_ok {row : Row} {range : Nat × Nat} (h : range.1 ≤ range.2 ∧ range.2 ≤ row.width) :
    cut row range = .ok (row.slice range.1 range.2) := by
  rw [cut, if_pos h]

end Checked

end Rowgraph
