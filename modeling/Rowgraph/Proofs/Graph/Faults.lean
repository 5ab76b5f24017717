import Rowgraph.Proofs.Graph.ArenaFold
import Rowgraph.Proofs.Graph.Errors
import Rowgraph.Proofs.Graph.RootKeys

/-!
# Assembly without faults

Whatever the rows are, and whatever the caches went through before the joins were built, assembly in an arena
has no faults. It goes as assembly does, and fails because the joins do not fit, because the split plan does not
fit a row, or because the application cannot read a part of a row (`assembleInArena_eq_report`).
-/

set_option autoImplicit false

namespace Rowgraph

open Fault

section Assembly

variable {root : ObjectType} {joins : List Join} {split : SplitPlan} {links : List Link}

/-- Once the rows are read nothing can fail: the setters take the objects they are given, each object is taken
once, and those that are left are roots. -/
theorem fold_collect_eq_ok (hjoins : joins ≠ []) (hbuilt : ∀ j ∈ joins, j.IsBuilt)
    (hlinks : Link.ofJoins root joins split = .ok links) {rows : List Row} {a : Arena} {f : Forest}
    (hforest : Forest.ofRows root links split rows = .ok f) (h : Mirrors links a f) :
    ∃ objects, f.roots links = .ok objects ∧
      (Arena.fold links a.slots.length a.slots >>= fun slots => Arena.collect root a.roots slots) =
        .ok objects := by
  obtain ⟨objects, hobjects⟩ := roots_isOk_of_isBuilt hbuilt hlinks hforest
  have hassemble : root.assemble joins split rows = .ok objects := by
    rw [ObjectType.assemble, if_neg (by simpa using hjoins)]
    exact bind_eq_ok.2 ⟨links, hlinks, bind_eq_ok.2 ⟨f, hforest, hobjects⟩⟩
  have htypes := type_of_assemble hjoins hbuilt hassemble
  -- behind the last slot nothing is complete yet, so the fold begins with nothing waiting
  have hfold := fold_simulates h.ordered (Nat.le_refl _) (h.folded fun _ => .bare 0 .empty)
  rw [List.take_length, Forest.waiting_length, Forest.take_length_zipIdx, ← Forest.roots, hobjects] at hfold
  rcases Simulates.cases_iff.1 hfold with ⟨e, -, he⟩ | ⟨slots, _, hslots, hsame, given, hfolded, -, rfl⟩
  · cases he
  · cases hsame
    refine ⟨_, hobjects, ?_⟩
    rw [h.length_slots, h.roots]
    refine bind_eq_ok.2 ⟨slots, hslots, collect_eq_ok f.rootNumbers f.nodup_rootNumbers fun i hi => ?_⟩
    obtain ⟨n, hn, howner⟩ := Forest.mem_rootNumbers.1 hi
    -- a root has no parent that could have taken its object
    refine ⟨?_, htypes _ (List.mem_map_of_mem hi)⟩
    rw [hfolded.newer i (Nat.zero_le i), hn, Option.map_some, howner]
    rfl

theorem assembleInArena_eq (hbuilt : ∀ j ∈ joins, j.IsBuilt) (rows : List Row) :
    root.assembleInArena joins split rows = report (root.assemble joins split rows) := by
  by_cases hjoins : joins = []
  · subst hjoins
    rfl
  apply Simulates.eq_marked
  rw [ObjectType.assembleInArena, ObjectType.assemble, if_neg (by simpa using hjoins),
    if_neg (by simpa using hjoins)]
  cases hlinks : Link.ofJoins root joins split with
  | error e => exact rfl
  | ok links =>
    apply Simulates.step rfl
    apply Simulates.bind (placeRows_simulates hlinks rows).with_result
    rintro a f ⟨hmirrors, hforest⟩
    obtain ⟨objects, hroots, hcollect⟩ := fold_collect_eq_ok hjoins hbuilt hlinks hforest hmirrors
    rw [hroots, hcollect]
    exact rfl

/-- Assembly in an arena goes as assembly does and passes errors on. It has no faults: with joins, its errors are
those of joins that do not fit, of a plan that does not fit a row and of parts that cannot be read. -/
theorem assembleInArena_eq_report (hbuilt : ∀ j ∈ joins, j.IsBuilt) (rows : List Row) :
    root.assembleInArena joins split rows = report (root.assemble joins split rows) ∧
      ∀ fault, root.assembleInArena joins split rows = .error fault → ∃ e, fault = reported e ∧
        if joins.isEmpty then ∃ row ∈ rows, root.decode row = .error e
        else Join.Unfit root joins split e ∨ ∃ row ∈ rows, row.Refused root joins split e := by
  have heq : root.assembleInArena joins split rows = report (root.assemble joins split rows) :=
    assembleInArena_eq hbuilt rows
  refine ⟨heq, fun fault hfault => ?_⟩
  rw [heq] at hfault
  cases hresult : root.assemble joins split rows with
  | ok objects =>
    rw [hresult] at hfault
    cases hfault
  | error e =>
    rw [hresult] at hfault
    cases hfault
    refine ⟨e, rfl, ?_⟩
    by_cases hjoins : joins = []
    · subst hjoins
      exact readAll_failsOnly rows e hresult
    · rw [if_neg (by simpa using hjoins)]
      exact assemble_refused hjoins hbuilt rows e hresult

end Assembly

open Clubs in
/-- The rows of clubs are assembled, and a row without columns for members is refused. -/
theorem assembleInArena_eq_report_clubs :
    (∀ j ∈ joins, j.IsBuilt) ∧ (keyed 0 "Club").assembleInArena joins split rows = .ok objects ∧
      ∃ e, reported (.result (.splitMisfit "Id" 1 1)) = reported e ∧
        if joins.isEmpty then ∃ row ∈ [columns (.int 1)], (keyed 0 "Club").decode row = .error e
        else Join.Unfit (keyed 0 "Club") joins split e ∨
          ∃ row ∈ [columns (.int 1)], row.Refused (keyed 0 "Club") joins split e :=
  ⟨isBuilt_joins, (assembleInArena_eq_report isBuilt_joins rows).1.trans rfl,
    (assembleInArena_eq_report isBuilt_joins [columns (.int 1)]).2 _ rfl⟩

end Rowgraph
