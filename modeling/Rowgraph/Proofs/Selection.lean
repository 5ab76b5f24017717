import Rowgraph.Proofs.Command.Made

/-!
# Splits of selections

The columns of a selection stand table by table, so that each table's part of a row is one stretch of it.
The split points of a selection say where these stretches begin (`offsets_points`), and a row is cut at
them into just these stretches (`select_split_ranges`), provided that the root is among the tables that
give columns. That every joined table does is checked when the query is made; the root is not looked at,
and a selection without a column of the root has a split that fits no row (`not_ranges_rootless`).
-/

set_option autoImplicit false

namespace Rowgraph

/-! ## Cutting at the beginnings of blocks -/

namespace SplitPlan

variable {α : Type}

/-- Do the points say where the blocks begin that stand behind `n` columns? -/
inductive Offsets : Nat → List (List α) → List SplitPoint → Prop
  | nil (n : Nat) : Offsets n [] []
  | cons {n : Nat} {block : List α} {blocks : List (List α)} {point : SplitPoint}
      {points : List SplitPoint} (offset : point.offset = n)
      (rest : Offsets (n + block.length) blocks points) :
      Offsets n (block :: blocks) (point :: points)

/-- A row of blocks none of which is empty is cut into the blocks. -/
theorem rangesFrom_blocks {blocks : List (List α)} :
    ∀ (before first : List α) {points : List SplitPoint} {row : List α},
      row = before ++ first ++ blocks.flatten → first ≠ [] → (∀ block ∈ blocks, block ≠ []) →
      Offsets (before ++ first).length blocks points →
      ∃ ranges, rangesFrom row.length before.length points = .ok ranges ∧
        List.Forall₂ (fun block range => (row.drop range.1).take (range.2 - range.1) = block)
          (first :: blocks) ranges := by
  induction blocks with
  | nil =>
    intro before first points row hrow _ _ hoffsets
    cases hoffsets
    refine ⟨_, rfl, .cons ?_ .nil⟩
    simp [hrow]
  | cons block blocks ih =>
    intro before first points row hrow hfirst hblocks hoffsets
    cases hoffsets with
    | @cons _ _ _ point points hoffset hrest =>
      have hblock : block ≠ [] := hblocks block List.mem_cons_self
      have hinside : ¬ (point.offset ≤ before.length ∨ row.length ≤ point.offset) := by
        have hone := List.length_pos_of_ne_nil hfirst
        have htwo := List.length_pos_of_ne_nil hblock
        rw [hoffset, hrow]
        simp only [List.length_append, List.flatten_cons]
        omega
      have hlength : (before ++ first ++ block).length = (before ++ first).length + block.length :=
        List.length_append
      rw [← hlength] at hrest
      have hcons : row = before ++ first ++ block ++ blocks.flatten := by
        rw [hrow, List.flatten_cons, List.append_assoc _ block]
      obtain ⟨ranges, hranges, hcut⟩ := ih (before ++ first) block hcons hblock
        (fun b hb => hblocks b (List.mem_cons_of_mem _ hb)) hrest
      refine ⟨(before.length, point.offset) :: ranges, ?_, .cons ?_ hcut⟩
      · rw [rangesFrom, if_neg hinside, hoffset, hranges]
        rfl
      · rw [hoffset, hrow]
        simp

end SplitPlan

/-! ## The points of a selection -/

namespace SelectList

/-- The columns of one position, in the order of the request. -/
def columnsAt (columns : List SelectedColumn) (position : Nat) : List SelectedColumn :=
  columns.filter fun c => c.source.position == position

theorem position_of_mem_columnsAt {columns : List SelectedColumn} {position : Nat}
    {c : SelectedColumn} (h : c ∈ columnsAt columns position) : c.source.position = position := by
  simpa using (List.mem_filter.1 h).2

theorem grouped_eq_flatMap (scope : Scope) (columns : List SelectedColumn) :
    grouped scope columns = (List.range scope.entities.length).flatMap (columnsAt columns) := rfl

/-- Grouping moves no column in front of another one of its position. -/
theorem columnsAt_grouped {scope : Scope} (columns : List SelectedColumn) {position : Nat}
    (h : position < scope.entities.length) :
    columnsAt (grouped scope columns) position = columnsAt columns position := by
  -- of the blocks only that of the position has columns of the position
  have hblock : ∀ p, (columnsAt columns p).filter (fun c => c.source.position == position) =
      if p = position then columnsAt columns p else [] := by
    intro p
    split
    · next heq =>
      refine List.filter_eq_self.2 fun c hc => ?_
      rw [position_of_mem_columnsAt hc, heq, beq_self_eq_true]
    · next hne =>
      refine List.filter_eq_nil_iff.2 fun c hc => ?_
      rw [position_of_mem_columnsAt hc]
      simpa using hne
  rw [columnsAt, grouped_eq_flatMap, List.filter_flatMap]
  simp only [hblock]
  obtain ⟨before, behind, hrange⟩ := List.append_of_mem (List.mem_range.2 h)
  have hnodup := List.nodup_range (n := scope.entities.length)
  rw [hrange] at hnodup ⊢
  obtain ⟨-, hcons, hdisjoint⟩ := List.nodup_append.1 hnodup
  have hnone : ∀ ps : List Nat, position ∉ ps →
      ps.flatMap (fun p => if p = position then columnsAt columns p else []) = [] := by
    intro ps hps
    rw [List.flatMap_eq_nil_iff]
    intro p hp
    exact if_neg fun heq : p = position => hps (heq ▸ hp)
  rw [List.flatMap_append, List.flatMap_cons, if_pos rfl, hnone before, hnone behind]
  · simp
  · exact (List.nodup_cons.1 hcons).1
  · intro hmem
    exact hdisjoint _ hmem _ List.mem_cons_self rfl

/-- The point of a position is the first column of its block. -/
theorem pointAt_eq_ok {before block behind : List SelectedColumn} {position : Nat}
    {entity : Entity} {point : SplitPoint}
    (hbefore : ∀ c ∈ before, c.source.position ≠ position)
    (hblock : ∀ c ∈ block, c.source.position = position)
    (hbehind : ∀ c ∈ behind, c.source.position ≠ position) :
    pointAt (before ++ block ++ behind) position entity = .ok point ↔
      ∃ c, block.head? = some c ∧ point = ⟨position, c.output, before.length⟩ := by
  have hat : ∀ cs : List SelectedColumn, (∀ c ∈ cs, c.source.position ≠ position) →
      cs.findIdx? (fun c => c.source.position == position) = none := by
    intro cs hcs
    rw [List.findIdx?_eq_none_iff]
    intro c hc
    simpa using hcs c hc
  cases block with
  | nil =>
    rw [pointAt, List.append_nil, List.findIdx?_append, hat before hbefore, hat behind hbehind]
    simp
  | cons c block =>
    have hfind : (before ++ c :: block ++ behind).findIdx?
        (fun c => c.source.position == position) = some before.length := by
      rw [List.append_assoc, List.findIdx?_append, hat before hbefore]
      simp [List.findIdx?_cons, hblock c List.mem_cons_self]
    have hget : (before ++ c :: block ++ behind)[before.length]? = some c := by
      simp
    rw [pointAt, hfind]
    dsimp only
    rw [hget]
    simp [eq_comm]

open SplitPlan in
/-- The points of consecutive positions say where their blocks begin, and there is no point for an
empty block. -/
theorem offsets_points {columns : List SelectedColumn} {B : Nat → List SelectedColumn}
    (hB : ∀ p, ∀ c ∈ B p, c.source.position = p) (entities : List Entity) :
    ∀ {position : Nat} {before : List SelectedColumn} {points : List SplitPoint},
      columns = before ++ ((List.range' position entities.length).map B).flatten →
      (∀ c ∈ before, c.source.position < position) →
      (entities.zipIdx position).mapM (fun (entity, position) =>
        pointAt columns position entity) = .ok points →
      Offsets before.length ((List.range' position entities.length).map B) points ∧
        ∀ block ∈ (List.range' position entities.length).map B, block ≠ [] := by
  -- over the entities still to come; the blocks of the others are in `before`
  induction entities with
  | nil =>
    intro position before points _ _ h
    cases h
    exact ⟨.nil _, fun block hblock => absurd hblock List.not_mem_nil⟩
  | cons entity entities ih =>
    intro position before points hcolumns hbefore h
    rw [List.zipIdx_cons, List.mapM_cons, bind_eq_ok] at h
    obtain ⟨point, hpoint, h⟩ := h
    obtain ⟨rest, hrest, hpure⟩ := bind_eq_ok.1 h
    cases hpure
    rw [List.length_cons, List.range'_succ, List.map_cons, List.flatten_cons] at *
    have hbehind : ∀ c ∈ ((List.range' (position + 1) entities.length).map B).flatten,
        c.source.position ≠ position := by
      intro c hc
      obtain ⟨block, hblock, hmem⟩ := List.mem_flatten.1 hc
      obtain ⟨p, hp, rfl⟩ := List.mem_map.1 hblock
      have hle := (List.mem_range'_1.1 hp).1
      have hposition := hB p c hmem
      omega
    rw [← List.append_assoc] at hcolumns
    have hlt : ∀ c ∈ before ++ B position, c.source.position < position + 1 := by
      intro c hc
      rcases List.mem_append.1 hc with hc | hc
      · exact Nat.lt_succ_of_lt (hbefore c hc)
      · exact hB position c hc ▸ Nat.lt_succ_self _
    obtain ⟨hoffsets, hblocks⟩ := ih hcolumns hlt hrest
    rw [hcolumns, pointAt_eq_ok (fun c hc => Nat.ne_of_lt (hbefore c hc)) (hB position) hbehind] at hpoint
    obtain ⟨c, hc, rfl⟩ := hpoint
    refine ⟨.cons rfl (by rwa [← List.length_append]), fun block hblock => ?_⟩
    rcases List.mem_cons.1 hblock with rfl | hblock
    · intro hnil
      rw [hnil] at hc
      cases hc
    · exact hblocks block hblock

/-- The columns of a selection are the blocks of its positions, and its points say where those behind the
root's begin. -/
theorem offsets_ofPicks {root : Entity} {rest : List Entity} {aliases : Option (List String)}
    {picks : Option (List Pick)} {list : SelectList}
    (h : ofPicks ⟨root :: rest, aliases⟩ picks = .ok list) :
    let blocks := (List.range' 1 rest.length).map (columnsAt list.columns)
    list.columns = columnsAt list.columns 0 ++ blocks.flatten ∧
      SplitPlan.Offsets (columnsAt list.columns 0).length blocks list.split.points ∧
      ∀ block ∈ blocks, block ≠ [] := by
  rw [ofPicks, bind_eq_ok] at h
  obtain ⟨requested, -, h⟩ := h
  obtain ⟨points, hpoints, hpure⟩ := bind_eq_ok.1 h
  cases hpure
  have hgrouped : ∀ p ∈ 0 :: List.range' 1 rest.length,
      columnsAt (grouped ⟨root :: rest, aliases⟩ requested) p = columnsAt requested p := by
    intro p hp
    apply columnsAt_grouped
    rw [List.mem_cons, List.mem_range'_1] at hp
    simp only [List.length_cons]
    omega
  have hblocks : (List.range' 1 rest.length).map
      (columnsAt (grouped ⟨root :: rest, aliases⟩ requested)) =
        (List.range' 1 rest.length).map (columnsAt requested) :=
    List.map_congr_left fun p hp => hgrouped p (List.mem_cons_of_mem _ hp)
  have hcolumns : grouped ⟨root :: rest, aliases⟩ requested =
      columnsAt requested 0 ++ ((List.range' 1 rest.length).map (columnsAt requested)).flatten := by
    rw [grouped_eq_flatMap, List.length_cons, List.range_eq_range', List.range'_succ,
      List.flatMap_cons, List.flatMap_def]
  have hbefore : ∀ c ∈ columnsAt requested 0, c.source.position < 1 := by
    intro c hc
    rw [position_of_mem_columnsAt hc]
    exact Nat.zero_lt_one
  simp only [hgrouped 0 List.mem_cons_self, hblocks]
  exact ⟨hcolumns, offsets_points (fun p c => position_of_mem_columnsAt) rest hcolumns hbefore hpoints⟩

variable {scope : Scope} {picks : Option (List Pick)} {list : SelectList}

/-- A selection with a column of the root is cut into the columns of each position. -/
theorem ranges_ofPicks {root : Entity} {rest : List Entity} (hscope : scope.entities = root :: rest)
    (h : ofPicks scope picks = .ok list) (hroot : columnsAt list.columns 0 ≠ []) :
    ∃ ranges, list.split.ranges list.columns.length = .ok ranges ∧
      ranges.length = scope.entities.length ∧
      ∀ p range, ranges[p]? = some range →
        (list.columns.drop range.1).take (range.2 - range.1) = columnsAt list.columns p := by
  obtain ⟨entities, aliases⟩ := scope
  cases hscope
  obtain ⟨hcolumns, hoffsets, hblocks⟩ := offsets_ofPicks h
  obtain ⟨ranges, hranges, hcut⟩ := SplitPlan.rangesFrom_blocks []
    (columnsAt list.columns 0) hcolumns hroot hblocks hoffsets
  have hpositions : columnsAt list.columns 0 ::
      (List.range' 1 rest.length).map (columnsAt list.columns) =
        (List.range (rest.length + 1)).map (columnsAt list.columns) := by
    rw [List.range_eq_range', List.range'_succ, List.map_cons]
  rw [hpositions] at hcut
  have hlength : ranges.length = rest.length + 1 := by
    rw [← hcut.length_eq, List.length_map, List.length_range]
  refine ⟨ranges, hranges, hlength, fun p range hrange => ?_⟩
  obtain ⟨hp, rfl⟩ := List.getElem?_eq_some_iff.1 hrange
  have hblock := hcut.get (by simpa [hlength] using hp) hp
  simpa using hblock

/-- A selection without a column of the root fits no row: its first point is where the row begins. -/
theorem ranges_rootless {root first : Entity} {rest : List Entity}
    (hscope : scope.entities = root :: first :: rest) (h : ofPicks scope picks = .ok list)
    (hroot : columnsAt list.columns 0 = []) :
    ∃ point, list.split.points.head? = some point ∧ list.split.ranges list.columns.length =
      .error (.result (.splitMisfit point.column 0 list.columns.length)) := by
  obtain ⟨entities, aliases⟩ := scope
  cases hscope
  obtain ⟨-, hoffsets, -⟩ := offsets_ofPicks h
  rw [hroot, List.length_nil, List.length_cons, List.range'_succ, List.map_cons] at hoffsets
  rw [SplitPlan.ranges]
  generalize list.split.points = points at hoffsets
  cases hoffsets with
  | @cons _ _ _ point _ offset others =>
    refine ⟨point, rfl, ?_⟩
    rw [SplitPlan.rangesFrom, offset, if_pos (Or.inl (Nat.le_refl 0))]

end SelectList

/-- The rows of a query with joins are cut into the columns of each table, in the order in which they are
selected, if the root is among the tables that give columns, and not at all if it is not. -/
theorem select_split_ranges {g : Generator} {q : Query} {c : Command} (h : g.select q = .ok c)
    (hgroup : q.groupBy = []) (hjoins : q.joins ≠ []) :
    ∃ list, SelectList.ofPicks q.scope q.picks = .ok list ∧ c.split = list.split ∧
      list.tokens <:+: c.tokens ∧
      ((∃ column ∈ list.columns, column.source.position = 0) →
        ∃ ranges, c.split.ranges list.columns.length = .ok ranges ∧
          ranges.length = q.entities.length ∧
          ∀ p range, ranges[p]? = some range →
            (list.columns.drop range.1).take (range.2 - range.1) =
              list.columns.filter fun column => column.source.position == p) ∧
      ((∀ column ∈ list.columns, column.source.position ≠ 0) →
        ∃ point, c.split.points.head? = some point ∧ c.split.ranges list.columns.length =
          .error (.result (.splitMisfit point.column 0 list.columns.length))) := by
  rcases select_eq_ok.1 h with ⟨list, hmakes⟩ | ⟨grouped, projection, hmakes⟩
  · obtain ⟨source, top, orders, ending, -, -, -, -, htokens⟩ := hmakes.parts
    refine ⟨list, hmakes.columns, hmakes.split, ?_, ?_, ?_⟩
    · rw [htokens]
      exact ⟨q.selectHead ++ top, source ++ ending, by simp only [List.append_assoc]⟩
    · rintro ⟨column, hcolumn, hposition⟩
      have hroot : SelectList.columnsAt list.columns 0 ≠ [] :=
        List.ne_nil_of_mem (List.mem_filter.2 ⟨hcolumn, by rw [hposition, beq_self_eq_true]⟩)
      rw [hmakes.split]
      exact SelectList.ranges_ofPicks rfl hmakes.columns hroot
    · intro hnone
      have hroot : SelectList.columnsAt list.columns 0 = [] :=
        List.filter_eq_nil_iff.2 fun column hcolumn => by simpa using hnone column hcolumn
      obtain ⟨first, rest, hfirst⟩ := List.exists_cons_of_ne_nil hjoins
      have hscope : q.scope.entities = q.root :: first.entity :: rest.map (·.entity) := by
        rw [Query.scope, Query.entities, Join.entities, hfirst, List.map_cons]
      rw [hmakes.split]
      exact SelectList.ranges_rootless hscope hmakes.columns hroot
  · exact absurd hgroup hmakes.isGrouped

open Enrolment in
theorem select_split_ranges_clubs :
    clubs.groupBy = [] ∧ clubs.joins ≠ [] ∧ ∃ c, ({} : Generator).select clubs = .ok c ∧
      ∃ list, SelectList.ofPicks clubs.scope clubs.picks = .ok list ∧ c.split = list.split ∧
        list.tokens <:+: c.tokens ∧
        ((∃ column ∈ list.columns, column.source.position = 0) →
          ∃ ranges, c.split.ranges list.columns.length = .ok ranges ∧
            ranges.length = clubs.entities.length ∧
            ∀ p range, ranges[p]? = some range →
              (list.columns.drop range.1).take (range.2 - range.1) =
                list.columns.filter fun column => column.source.position == p) ∧
        ((∀ column ∈ list.columns, column.source.position ≠ 0) →
          ∃ point, c.split.points.head? = some point ∧ c.split.ranges list.columns.length =
            .error (.result (.splitMisfit point.column 0 list.columns.length))) := by
  have hjoins : clubs.joins ≠ [] := List.cons_ne_nil _ _
  have hok : ∃ c, ({} : Generator).select clubs = .ok c := ⟨_, rfl⟩
  obtain ⟨c, h⟩ := hok
  exact ⟨rfl, hjoins, c, h, select_split_ranges h rfl hjoins⟩

/-- Clubs with their members, of which the members' keys are selected only. -/
def Enrolment.memberIds : Query := { clubs with picks := some [⟨.member ⟨1, "Id"⟩, none⟩] }

open Enrolment in
/-- A selection of members only passes, and no row can be cut at its split. -/
theorem not_ranges_rootless :
    memberIds.groupBy = [] ∧ memberIds.joins ≠ [] ∧
      ∃ c list, ({} : Generator).select memberIds = .ok c ∧
        SelectList.ofPicks memberIds.scope memberIds.picks = .ok list ∧
        c.split.ranges list.columns.length = .error (.result (.splitMisfit "Id" 0 1)) :=
  ⟨rfl, List.cons_ne_nil _ _, _, _, rfl, rfl, rfl⟩

end Rowgraph
