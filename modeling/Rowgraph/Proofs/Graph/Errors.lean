import Rowgraph.Proofs.Graph.Setters

/-!
# Errors of objects

What can be wrong when joined rows become objects. The joins are looked at first (`ofJoins_failsOnly`); then row
after row is cut and its parts are read, each by the type that its position has (`placeRow_failsOnly`). To attach
what was read never fails, as far as setters come out of the caches: a link hangs below objects of the type it is
bound to, and these stay of their type (`attachable_occurrences`).
-/

set_option autoImplicit false

namespace Rowgraph

/-! ## Joins -/

/-- Is the error that of the first join that is bound to parents of another type than that of the objects
at its parents' position, the types of the positions before it being given? -/
inductive Join.Misbound : List Nat → List Join → Error → Prop
  | here {types : List Nat} {j : Join} {rest : List Join} {b : Binding} (bound : j.binding = some b)
      (differs : types[j.parent]? ≠ some b.parentType) :
      Misbound types (j :: rest) (.invalidNavigation j.entity.name j.parent)
  | behind {types : List Nat} {j : Join} {rest : List Join} {b : Binding} {e : Error}
      (bound : j.binding = some b) (fits : types[j.parent]? = some b.parentType)
      (later : Misbound (types ++ [b.child.id]) rest e) : Misbound types (j :: rest) e

/-- Is the error that of a chain that no rows can be read by? -/
inductive Join.Unfit (root : ObjectType) (joins : List Join) (split : SplitPlan) : Error → Prop
  | splitCount (h : split.points.length ≠ joins.length) :
      Unfit root joins split (.result (.splitCount joins.length split.points.length))
  | unbound {j : Join} (hj : j ∈ joins) (h : j.binding = none) :
      Unfit root joins split (.result (.unboundJoin j.entity.name))
  | misbound {e : Error} (h : Join.Misbound [root.id] joins e) : Unfit root joins split e

theorem ofJoinsFrom_failsOnly {types : List Nat} {joins : List Join} :
    FailsOnly (fun e => (∃ j ∈ joins, j.binding = none ∧ e = .result (.unboundJoin j.entity.name)) ∨
      Join.Misbound types joins e) (Link.ofJoinsFrom types joins) := by
  induction joins generalizing types with
  | nil => exact .ok []
  | cons j rest ih =>
    rw [Link.ofJoinsFrom]
    cases hbound : j.binding with
    | none => exact .error (Or.inl ⟨j, List.mem_cons_self, hbound, rfl⟩)
    | some b =>
      dsimp only
      split
      · next fits =>
        refine FailsOnly.map fun e he => ?_
        rcases ih e he with ⟨j', hj', hnone, he⟩ | h
        · exact Or.inl ⟨j', List.mem_cons_of_mem _ hj', hnone, he⟩
        · exact Or.inr (.behind hbound fits h)
      · next differs => exact .error (Or.inr (.here hbound differs))

theorem ofJoins_failsOnly (root : ObjectType) (joins : List Join) (split : SplitPlan) :
    FailsOnly (Join.Unfit root joins split) (Link.ofJoins root joins split) := by
  rw [Link.ofJoins]
  split
  · next h => exact .error (.splitCount h)
  · intro e he
    rcases ofJoinsFrom_failsOnly e he with ⟨j, hj, hnone, rfl⟩ | h
    · exact .unbound hj hnone
    · exact .misbound h

/-! ## Rows -/

/-- A plan that does not fit a row is an error about the result. -/
theorem category_of_ranges {split : SplitPlan} {width : Nat} {e : Error} (h : split.ranges width = .error e) :
    e.category = .execution := by
  obtain ⟨-, point, -, -, -, -, rfl⟩ := SplitPlan.rangesFrom_eq_error_iff.1 h
  rfl

section Objects

variable {P : Error → Prop} {root : ObjectType} {links : List Link} {split : SplitPlan}

theorem read_failsOnly {t : ObjectType} {part : Row} (h : FailsOnly P (t.decode part)) :
    FailsOnly P (t.read part) := h.map

/-- Rows of one table are refused because of one of them. -/
theorem readAll_failsOnly (rows : List Row) :
    FailsOnly (fun e => ∃ row ∈ rows, root.decode row = .error e) (root.readAll rows) :=
  FailsOnly.mapM fun row hrow => read_failsOnly fun _ he => ⟨row, hrow, he⟩

theorem placeChild_failsOnly {l : Link} {part : Row} (h : FailsOnly P (l.child.decode part)) (f : Forest)
    (owner : Owner) : FailsOnly P (f.placeChild l owner part) := by
  rw [Forest.placeChild]
  cases l.cardinality with
  | one =>
    dsimp only
    cases f.findOwned? owner with
    | some node => exact .ok _
    | none => exact (read_failsOnly h).bind fun object => .ok _
  | many => exact (read_failsOnly h).bind fun object => .ok _

theorem placeLinks_failsOnly (row : Row) (links : List Link) (ranges : List (Nat × Nat))
    (hparts : ∀ (i : Nat) (l : Link) (range : Nat × Nat), links[i]? = some l → ranges[i]? = some range →
      FailsOnly P (l.child.decode (row.slice range.1 range.2)))
    (index : Nat) (nodes : List (Option Nat)) (f : Forest) :
    FailsOnly P (Forest.placeLinks row links ranges index nodes f) := by
  induction links generalizing ranges index nodes f with
  | nil => exact .ok _
  | cons l links ih =>
    cases ranges with
    | nil => exact .ok _
    | cons range ranges =>
      have hrest := ih ranges fun i l' range' => hparts (i + 1) l' range'
      refine FailsOnly.bind ?_ fun placed => hrest (index + 1) (nodes ++ [placed.1]) placed.2
      rw [Forest.placeLink]
      split
      · exact .ok _
      · split
        · exact .ok _
        · exact (placeChild_failsOnly (hparts 0 l range rfl rfl) _ _).map

/-- To place the objects of a row fails where the row cannot be cut and where a part of it cannot be read. -/
theorem placeRow_failsOnly {row : Row} (hranges : FailsOnly P (split.ranges row.width))
    (hroot : ∀ part, (split.parts row)[0]? = some part → FailsOnly P (root.decode part))
    (hlinks : ∀ (i : Nat) (l : Link) (part : Row), links[i]? = some l →
      (split.parts row)[i + 1]? = some part → FailsOnly P (l.child.decode part)) (f : Forest) :
    FailsOnly P (Forest.placeRow root links split f row) := by
  rw [Forest.placeRow]
  cases hcut : split.ranges row.width with
  | error e => exact .error (hranges e hcut)
  | ok ranges =>
    rw [SplitPlan.parts, hcut] at hroot hlinks
    cases ranges with
    | nil => exact .ok f
    | cons range ranges =>
      obtain ⟨first, last⟩ := range
      change FailsOnly P (root.read (row.slice first last) >>= _)
      refine (read_failsOnly (hroot _ rfl)).bind fun object => ?_
      refine placeLinks_failsOnly row links ranges (fun i l range hl hrange => hlinks i l _ hl ?_) 0 _ _
      simp [hrange]

/-- Attaching objects fails where a setter does. -/
theorem attachAll_failsOnly (hlinks : ∀ l ∈ links, ∀ parent child, FailsOnly P (l.setter parent child))
    (parent : Object) (children : List (Nat × Object)) :
    FailsOnly P (Forest.attachAll links parent children) := by
  induction children generalizing parent with
  | nil => exact .ok parent
  | cons c rest ih =>
    rw [Forest.attachAll.eq_def]
    dsimp only
    cases hlink : links[c.1]? with
    | none => exact ih parent
    | some l => exact (hlinks l (List.mem_of_getElem? hlink) parent c.2).bind ih

theorem rootsFrom_failsOnly
    (hlinks : ∀ l ∈ links, ∀ parent child, FailsOnly P (l.setter parent child)) (nodes : List Node)
    (complete : List (Owner × Object)) : FailsOnly P (Forest.rootsFrom links nodes complete) := by
  induction nodes generalizing complete with
  | nil => exact .ok []
  | cons node older ih =>
    rw [Forest.rootsFrom]
    refine (attachAll_failsOnly hlinks _ _).bind fun object => ?_
    cases node.owner with
    | none => exact (ih _).bind fun others => .ok _
    | some owner => exact ih _

end Objects

/-! ## Attaching -/

section Attaching

variable {root : ObjectType} {joins : List Join} {links : List Link} {split : SplitPlan}

/-- The type of an identity's object is the one that its position has. -/
theorem Identity.typeId_eq (id : Identity) : (id.type? root links).map (·.id) =
    (root.id :: links.map (·.child.id))[id.position]? := by
  cases id with
  | root mark => rfl
  | under parent link mark =>
    rw [type?, position, List.getElem?_cons_succ, List.getElem?_map, Option.map_map]
    rfl

/-- An identity below another one is below an identity at the position of its link's parents. -/
theorem position_of_mem_occurrences {rows : List Row} {parent : Identity} {link : Nat} {mark : Mark}
    (h : .under parent link mark ∈ distinct (occurrences root links split rows)) :
    ∃ l, links[link]? = some l ∧ parent.position = l.parent := by
  obtain ⟨part, hmem⟩ := mem_distinct.1 h
  obtain ⟨⟨row, n⟩, -, hrow⟩ := List.mem_flatMap.1 hmem
  let Below (id : Identity) : Prop := ∀ parent link mark, id = .under parent link mark →
    ∃ l, links[link]? = some l ∧ parent.position = l.parent
  have hbelow : ∃ k, (Identity.under parent link mark).position = k ∧ Below (.under parent link mark) := by
    refine occurrencesIn_induction (P := fun k id => id.position = k ∧ Below id) ⟨rfl, nofun⟩ ?_ _ hrow
    intro j l parent part hl hparent
    refine ⟨rfl, fun parent' link' mark' heq => ?_⟩
    cases heq
    exact ⟨l, hl, hparent.1⟩
  exact hbelow.choose_spec.2 parent link mark rfl

/-- By the setters of built joins all objects of rows can be attached. -/
theorem attachable_occurrences (hbuilt : ∀ j ∈ joins, j.IsBuilt)
    (hlinks : Link.ofJoins root joins split = .ok links) (rows : List Row) :
    Attachable root links (distinct (occurrences root links split rows)) := by
  intro parent link mark hmem
  obtain ⟨l, hl, hposition⟩ := position_of_mem_occurrences hmem
  obtain ⟨j, b, hj, hb, rfl⟩ := exists_join_of_ofJoins hlinks hl
  have htype : (parent.type? root links).map (·.id) = some b.parentType := by
    rw [Identity.typeId_eq, hposition]
    exact (ofJoins_fits hlinks hj hb).2
  obtain ⟨type, htype, hid⟩ := Option.map_eq_some_iff.1 htype
  refine ⟨_, type, hl, htype, ?_⟩
  rw [hid]
  exact (hbuilt j (List.mem_of_getElem? hj)).attaches hb

theorem roots_isOk_of_isBuilt (hbuilt : ∀ j ∈ joins, j.IsBuilt)
    (hlinks : Link.ofJoins root joins split = .ok links) {rows : List Row} {f : Forest}
    (h : Forest.ofRows root links split rows = .ok f) : ∃ objects, f.roots links = .ok objects :=
  roots_isOk (ofRows_represents h) (attachable_occurrences hbuilt hlinks rows)

end Attaching

/-! ## Joined rows -/

/-- Is the error one that a row is met with: the plan does not fit it, or its first part cannot be read as a root,
or another part as an object of its join? -/
inductive Row.Refused (root : ObjectType) (joins : List Join) (split : SplitPlan) (row : Row) : Error → Prop
  | misfit {e : Error} (h : split.ranges row.width = .error e) : Refused root joins split row e
  | root {part : Row} {e : Error} (hpart : (split.parts row)[0]? = some part)
      (h : root.decode part = .error e) : Refused root joins split row e
  | child {i : Nat} {j : Join} {b : Binding} {part : Row} {e : Error} (hj : joins[i]? = some j)
      (bound : j.binding = some b) (hpart : (split.parts row)[i + 1]? = some part)
      (h : b.child.decode part = .error e) : Refused root joins split row e

theorem ofRows_failsOnly {root : ObjectType} {joins : List Join} {links : List Link} {split : SplitPlan}
    (hlinks : Link.ofJoins root joins split = .ok links) (rows : List Row) :
    FailsOnly (fun e => ∃ row ∈ rows, row.Refused root joins split e) (Forest.ofRows root links split rows) := by
  apply FailsOnly.foldlM
  intro row hrow f
  apply placeRow_failsOnly
  · intro e he
    exact ⟨row, hrow, .misfit he⟩
  · intro part hpart e he
    exact ⟨row, hrow, .root hpart he⟩
  · intro i l part hl hpart e he
    obtain ⟨j, b, hj, hb, rfl⟩ := exists_join_of_ofJoins hlinks hl
    exact ⟨row, hrow, .child hj hb hpart he⟩

/-- With setters from the caches, joined rows are only refused because of the joins or of one of the rows. -/
theorem assemble_refused {root : ObjectType} {joins : List Join} {split : SplitPlan} (hjoins : joins ≠ [])
    (hbuilt : ∀ j ∈ joins, j.IsBuilt) (rows : List Row) :
    FailsOnly (fun e => Join.Unfit root joins split e ∨ ∃ row ∈ rows, row.Refused root joins split e)
      (root.assemble joins split rows) := by
  rw [ObjectType.assemble, if_neg (by simpa using hjoins)]
  cases hlinks : Link.ofJoins root joins split with
  | error e => exact .error (Or.inl (ofJoins_failsOnly root joins split e hlinks))
  | ok links =>
    change FailsOnly _ (Forest.ofRows root links split rows >>= fun f => f.roots links)
    intro e he
    cases hforest : Forest.ofRows root links split rows with
    | error cause =>
      rw [hforest] at he
      cases he
      exact Or.inr (ofRows_failsOnly hlinks rows e hforest)
    | ok f =>
      -- what was read is attached without an error
      obtain ⟨objects, hobjects⟩ := roots_isOk_of_isBuilt hbuilt hlinks hforest
      rw [bind_eq_ok.2 ⟨f, hforest, hobjects⟩] at he
      cases he

end Rowgraph
