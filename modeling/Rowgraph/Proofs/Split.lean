import Mathlib.Data.List.Induction
import Rowgraph.Proofs.Results
import Rowgraph.Row
import Rowgraph.Split

/-!
# Ranges of split plans

A plan is checked while the ranges are being made: every point against the bound that was accepted last. What it
comes to is a property of the plan alone (`SplitPlan.Fits`), and the ranges depend on nothing but the offsets
(`SplitPlan.between`): a plan is cut into these ranges if it fits (`SplitPlan.rangesFrom_eq_ok_iff`), and is
refused because of its first point with which it does not fit if it does not (`SplitPlan.rangesFrom_eq_error_iff`).
So the parts of a row follow on each other from its first column to its last, and none of them is empty when
there is a point at all (`SplitPlan.ranges_partition`).
-/

set_option autoImplicit false

namespace Rowgraph

theorem Row.columns_slice_ne_nil {row : Row} {range : Nat × Nat} (h : range.1 < range.2) (hinside : range.2 ≤ row.width) :
    (row.slice range.1 range.2).columns ≠ [] := by
  rw [width] at hinside
  apply List.ne_nil_of_length_pos
  simp only [slice, List.length_take, List.length_drop]
  omega

namespace SplitPlan

/-- Do the offsets increase, and do they lie behind column `start` and inside of a row of `width` columns? -/
structure Fits (width start : Nat) (points : List SplitPoint) : Prop where
  increasing : (points.map SplitPoint.offset).Pairwise (· < ·)
  inside : ∀ point ∈ points, start < point.offset ∧ point.offset < width

/-- The ranges between bounds: from `start` to the first offset, from each offset to the next, and from the last
one to `width`. -/
def between (width start : Nat) (offsets : List Nat) : List (Nat × Nat) :=
  (start :: offsets).zip (offsets ++ [width])

/-- Do ranges cut a row of `width` columns at the offsets, so that each begins where the one before it ends? -/
structure Partition (width : Nat) (offsets : List Nat) (ranges : List (Nat × Nat)) : Prop where
  length_eq : ranges.length = offsets.length + 1
  first : ranges.head?.map Prod.fst = some 0
  last : ranges.getLast?.map Prod.snd = some width
  shared : ranges.IsChain fun range next => range.2 = next.1
  begins : ranges.tail.map Prod.fst = offsets
  inside : ∀ range ∈ ranges, range.1 ≤ range.2 ∧ range.2 ≤ width

variable {width start : Nat} {point : SplitPoint} {points before : List SplitPoint} {offsets : List Nat}
  {ranges : List (Nat × Nat)}

/-! ## Plans that fit -/

theorem fits_nil : Fits width start [] where
  increasing := .nil
  inside := by simp

/-- A point is compared with the bound before it only, as the points behind it are behind that bound as well. -/
theorem fits_cons :
    Fits width start (point :: points) ↔
      (start < point.offset ∧ point.offset < width) ∧ Fits width point.offset points := by
  constructor
  · rintro ⟨increasing, inside⟩
    rw [List.map_cons, List.pairwise_cons] at increasing
    refine ⟨inside point List.mem_cons_self, increasing.2, fun p hp => ⟨?_, ?_⟩⟩
    · exact increasing.1 p.offset (List.mem_map_of_mem hp)
    · exact (inside p (List.mem_cons_of_mem _ hp)).2
  · rintro ⟨hpoint, increasing, inside⟩
    refine ⟨?_, fun p hp => ?_⟩
    · rw [List.map_cons, List.pairwise_cons]
      refine ⟨fun offset hoffset => ?_, increasing⟩
      obtain ⟨p, hp, rfl⟩ := List.mem_map.1 hoffset
      exact (inside p hp).1
    · rcases List.mem_cons.1 hp with rfl | hp
      · exact hpoint
      · have hbehind := inside p hp
        omega

@[simp] theorem between_nil : between width start [] = [(start, width)] := rfl

@[simp] theorem between_cons (offset : Nat) :
    between width start (offset :: offsets) = (start, offset) :: between width offset offsets := rfl

/-- A plan that fits is cut between its offsets, and no other plan is cut. -/
theorem rangesFrom_eq_ok_iff :
    rangesFrom width start points = .ok ranges ↔
      Fits width start points ∧ ranges = between width start (points.map SplitPoint.offset) := by
  induction points generalizing start ranges with
  | nil =>
    rw [rangesFrom, List.map_nil, between_nil, Except.ok.injEq, eq_comm]
    simp [fits_nil]
  | cons point points ih =>
    rw [rangesFrom, fits_cons, List.map_cons, between_cons]
    split
    · next hmisfit =>
      have houtside : ¬ (start < point.offset ∧ point.offset < width) := by omega
      simp [houtside]
    · next hfits =>
      have hinside : start < point.offset ∧ point.offset < width := by omega
      rw [map_eq_ok]
      simp only [ih, hinside, true_and]
      constructor
      · rintro ⟨rest, ⟨hrest, rfl⟩, rfl⟩
        exact ⟨hrest, rfl⟩
      · rintro ⟨hrest, rfl⟩
        exact ⟨_, ⟨hrest, rfl⟩, rfl⟩

/-! ## Plans that do not fit -/

/-- The points before the first misfit are accepted one after the other. -/
theorem rangesFrom_of_misfit (hbefore : Fits width start before) (hmisfit : ¬ Fits width start (before ++ [point]))
    (behind : List SplitPoint) :
    rangesFrom width start (before ++ point :: behind) =
      .error (.result (.splitMisfit point.column point.offset width)) := by
  induction before generalizing start with
  | nil =>
    have houtside : ¬ (start < point.offset ∧ point.offset < width) := fun h =>
      hmisfit (fits_cons.2 ⟨h, fits_nil⟩)
    rw [List.nil_append, rangesFrom, if_pos (by omega)]
  | cons p before ih =>
    obtain ⟨hp, hrest⟩ := fits_cons.1 hbefore
    have hlater : ¬ Fits width p.offset (before ++ [point]) := fun h => hmisfit (fits_cons.2 ⟨hp, h⟩)
    rw [List.cons_append, rangesFrom, if_neg (by omega), ih hrest hlater]
    rfl

/-- A plan that does not fit has a first point with which it does not. -/
theorem exists_first_misfit (h : ¬ Fits width start points) :
    ∃ before point behind, points = before ++ point :: behind ∧ Fits width start before ∧
      ¬ Fits width start (before ++ [point]) := by
  induction points using List.reverseRecOn with
  | nil => exact absurd fits_nil h
  | append_singleton points last ih =>
    -- either the points before the last one fit, or the first misfit is among them
    by_cases hfits : Fits width start points
    · exact ⟨points, last, [], rfl, hfits, h⟩
    · obtain ⟨before, point, behind, rfl, hbefore, hmisfit⟩ := ih hfits
      exact ⟨before, point, behind ++ [last], by simp, hbefore, hmisfit⟩

/-- A plan is refused because of the first point with which it does not fit. -/
theorem rangesFrom_eq_error_iff {e : Error} :
    rangesFrom width start points = .error e ↔
      ∃ before point behind, points = before ++ point :: behind ∧ Fits width start before ∧
        ¬ Fits width start (before ++ [point]) ∧
        e = .result (.splitMisfit point.column point.offset width) := by
  constructor
  · intro h
    have hmisfit : ¬ Fits width start points := by
      intro hfits
      rw [rangesFrom_eq_ok_iff.2 ⟨hfits, rfl⟩] at h
      cases h
    obtain ⟨before, point, behind, rfl, hbefore, hfirst⟩ := exists_first_misfit hmisfit
    rw [rangesFrom_of_misfit hbefore hfirst] at h
    cases h
    exact ⟨before, point, behind, rfl, hbefore, hfirst, rfl⟩
  · rintro ⟨before, point, behind, rfl, hbefore, hmisfit, rfl⟩
    exact rangesFrom_of_misfit hbefore hmisfit behind

/-! ## Ranges between bounds -/

theorem map_fst_between : (between width start offsets).map Prod.fst = start :: offsets := by
  simp [between, List.map_fst_zip]

theorem map_snd_between : (between width start offsets).map Prod.snd = offsets ++ [width] := by
  simp [between, List.map_snd_zip]

/-- Each range begins where the one before it ends. -/
theorem isChain_between : (between width start offsets).IsChain fun range next => range.2 = next.1 := by
  induction offsets generalizing start with
  | nil => exact .singleton _
  | cons offset offsets ih =>
    -- the next range begins with the offset, whether it is the last one or not
    cases offsets with
    | nil => exact .cons_cons rfl ih
    | cons next offsets => exact .cons_cons rfl ih

/-- Of a plan that fits, no range is empty, and none goes beyond the row. -/
theorem lt_of_mem_between (h : Fits width start points) (hstart : start < width) :
    ∀ range ∈ between width start (points.map SplitPoint.offset), range.1 < range.2 ∧ range.2 ≤ width := by
  induction points generalizing start with
  | nil =>
    intro range hrange
    cases List.mem_singleton.1 hrange
    exact ⟨hstart, Nat.le_refl _⟩
  | cons point points ih =>
    obtain ⟨hpoint, hrest⟩ := fits_cons.1 h
    intro range hrange
    rw [List.map_cons, between_cons] at hrange
    rcases List.mem_cons.1 hrange with rfl | hrange
    · exact ⟨hpoint.1, Nat.le_of_lt hpoint.2⟩
    · exact ih hrest hpoint.2 range hrange

/-- A plan without points may stand for a row without columns. -/
theorem le_of_mem_between (h : Fits width start points) (hstart : start ≤ width) :
    ∀ range ∈ between width start (points.map SplitPoint.offset), range.1 ≤ range.2 ∧ range.2 ≤ width := by
  cases points with
  | nil => simpa using hstart
  | cons point points =>
    obtain ⟨hpoint, -⟩ := fits_cons.1 h
    intro range hrange
    obtain ⟨hlt, hle⟩ := lt_of_mem_between h (by omega) range hrange
    exact ⟨Nat.le_of_lt hlt, hle⟩

theorem Fits.partition (h : Fits width 0 points) :
    Partition width (points.map SplitPoint.offset) (between width 0 (points.map SplitPoint.offset)) where
  length_eq := by simp [between]
  first := by rw [← List.head?_map, map_fst_between, List.head?_cons]
  last := by rw [← List.getLast?_map, map_snd_between, List.getLast?_concat]
  shared := isChain_between
  begins := by rw [List.map_tail, map_fst_between, List.tail_cons]
  inside := le_of_mem_between h (Nat.zero_le width)

/-- The columns of the ranges, one range behind the other, are all columns from `start` on. -/
theorem flatMap_between {α : Type} (columns : List α) (h : Fits columns.length start points) :
    ((between columns.length start (points.map SplitPoint.offset)).flatMap fun range =>
      (columns.drop range.1).take (range.2 - range.1)) = columns.drop start := by
  induction points generalizing start with
  | nil =>
    rw [List.map_nil, between_nil, List.flatMap_singleton]
    exact List.take_of_length_le (by simp)
  | cons point points ih =>
    obtain ⟨hpoint, hrest⟩ := fits_cons.1 h
    rw [List.map_cons, between_cons, List.flatMap_cons, ih hrest]
    have hskip : columns.drop point.offset = (columns.drop start).drop (point.offset - start) := by
      rw [List.drop_drop, Nat.add_sub_cancel' (Nat.le_of_lt hpoint.1)]
    rw [hskip, List.take_append_drop]

/-- A plan cuts rows of a width if its offsets increase and lie inside of the row. The ranges then follow on each
other from the first column to the last, so the parts of a row are the row, and if there is a point each of them
has a column. Otherwise the error is that of the first point with which the plan does not fit. -/
theorem ranges_partition (split : SplitPlan) (width : Nat) :
    ((∃ ranges, split.ranges width = .ok ranges) ↔ Fits width 0 split.points) ∧
      (∀ ranges, split.ranges width = .ok ranges →
        Partition width (split.points.map SplitPoint.offset) ranges ∧
          (split.points ≠ [] → ∀ range ∈ ranges, range.1 < range.2) ∧
          ∀ row : Row, row.width = width →
            (ranges.flatMap fun range => (row.slice range.1 range.2).columns) = row.columns ∧
              (split.points ≠ [] → ∀ range ∈ ranges, (row.slice range.1 range.2).columns ≠ [])) ∧
      ∀ e, split.ranges width = .error e ↔
        ∃ before point behind, split.points = before ++ point :: behind ∧ Fits width 0 before ∧
          ¬ Fits width 0 (before ++ [point]) ∧ e = .result (.splitMisfit point.column point.offset width) := by
  refine ⟨?_, ?_, fun e => rangesFrom_eq_error_iff⟩
  · constructor
    · rintro ⟨ranges, hranges⟩
      exact (rangesFrom_eq_ok_iff.1 hranges).1
    · intro hfits
      exact ⟨_, rangesFrom_eq_ok_iff.2 ⟨hfits, rfl⟩⟩
  · intro ranges hranges
    obtain ⟨hfits, rfl⟩ := rangesFrom_eq_ok_iff.1 hranges
    have hlt : split.points ≠ [] →
        ∀ range ∈ between width 0 (split.points.map SplitPoint.offset), range.1 < range.2 ∧ range.2 ≤ width := by
      intro hpoints
      -- a point inside of the row says that the row has columns
      obtain ⟨point, hpoint⟩ := List.exists_mem_of_ne_nil _ hpoints
      have hinside := hfits.inside point hpoint
      exact lt_of_mem_between hfits (by omega)
    refine ⟨hfits.partition, fun hpoints range hrange => (hlt hpoints range hrange).1, ?_⟩
    rintro row rfl
    refine ⟨flatMap_between row.columns hfits, fun hpoints range hrange => ?_⟩
    obtain ⟨hlt, hle⟩ := hlt hpoints range hrange
    exact Row.columns_slice_ne_nil hlt hle

/-- Two columns of a club, three of a member, and the others of a card. -/
def clubPlan : SplitPlan := ⟨[⟨1, "Id", 2⟩, ⟨2, "Id", 5⟩]⟩

/-- In a row of five columns the plan leaves none for the card. -/
theorem ranges_partition_cards :
    clubPlan.ranges 6 = .ok [(0, 2), (2, 5), (5, 6)] ∧ Partition 6 [2, 5] [(0, 2), (2, 5), (5, 6)] ∧
      clubPlan.ranges 5 = .error (.result (.splitMisfit "Id" 5 5)) ∧
      ∃ before point behind, clubPlan.points = before ++ point :: behind ∧ Fits 5 0 before ∧
        ¬ Fits 5 0 (before ++ [point]) ∧
        Error.result (.splitMisfit "Id" 5 5) = .result (.splitMisfit point.column point.offset 5) :=
  ⟨rfl, ((ranges_partition clubPlan 6).2.1 _ rfl).1, rfl, ((ranges_partition clubPlan 5).2.2 _).1 rfl⟩

end SplitPlan

end Rowgraph
