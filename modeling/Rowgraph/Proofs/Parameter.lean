import Mathlib.Data.List.Nodup
import Mathlib.Data.List.Perm.Subperm
import Rowgraph.Parameter

/-!
# Names of parameters

A name that is given to a new parameter is free (`Parameters.not_contains_freshName`): the names tried
for a base are all different, and there is one more of them than there are parameters. The value of a
placeholder is therefore the one it was made for, in every list of parameters that goes on from there
(`Parameters.value?_of_extends`).
-/

set_option autoImplicit false

namespace Rowgraph

theorem toString_nat_inj {m n : Nat} (h : toString m = toString n) : m = n := by
  have hdigits : Nat.toDigits 10 m = Nat.toDigits 10 n := by
    rw [← Nat.toList_repr, ← Nat.toList_repr]
    exact congrArg String.toList h
  rw [← Nat.ofDigitChars_ten_toDigits (n := m), hdigits, Nat.ofDigitChars_ten_toDigits]

theorem toString_nat_ne_empty (n : Nat) : toString n ≠ "" := by
  intro h
  have hdigits : Nat.toDigits 10 n = [] := by
    rw [← Nat.toList_repr]
    exact congrArg String.toList h
  exact Nat.toDigits_ne_nil hdigits

namespace Parameters

/-- Only the first candidate has no number behind the base. -/
theorem candidate_succ_ne_zero (base : String) (n : Nat) :
    candidate base (n + 1) ≠ candidate base 0 := by
  intro h
  rw [candidate, candidate, ← String.append_empty (s := base), String.append_assoc,
    String.append_right_inj, String.empty_append] at h
  exact absurd h (toString_nat_ne_empty _)

theorem candidate_inj {base : String} {m n : Nat} (h : candidate base m = candidate base n) :
    m = n := by
  cases m with
  | zero =>
    cases n with
    | zero => rfl
    | succ n => exact absurd h.symm (candidate_succ_ne_zero base n)
  | succ m =>
    cases n with
    | zero => exact absurd h (candidate_succ_ne_zero base m)
    | succ n =>
      rw [candidate, candidate, String.append_right_inj] at h
      exact toString_nat_inj h

theorem contains_iff {ps : Parameters} {name : String} : ps.contains name = true ↔ name ∈ ps.names := by
  rw [contains, find?, List.find?_isSome, names, List.mem_map]
  simp only [beq_iff_eq]

/-- One of the names tried for a base is free. -/
theorem exists_candidate (ps : Parameters) (base : String) :
    ∃ n ≤ ps.entries.length, ps.contains (candidate base n) = false := by
  -- otherwise the parameters would have one name more than there are parameters
  by_contra hall
  have hmem : ∀ n ≤ ps.entries.length, candidate base n ∈ ps.names := by
    intro n hn
    rw [← contains_iff, ← Bool.not_eq_false]
    exact fun hfree => hall ⟨n, hn, hfree⟩
  have hnodup : ((List.range (ps.entries.length + 1)).map (candidate base)).Nodup :=
    List.nodup_range.map_on fun _ _ _ _ => candidate_inj
  have hsubset : (List.range (ps.entries.length + 1)).map (candidate base) ⊆ ps.names := by
    intro name hname
    obtain ⟨n, hn, rfl⟩ := List.mem_map.1 hname
    exact hmem n (Nat.le_of_lt_succ (List.mem_range.1 hn))
  have hlength := (hnodup.subperm hsubset).length_le
  rw [List.length_map, List.length_range, names, List.length_map] at hlength
  exact Nat.not_succ_le_self _ hlength

/-- The name of a new parameter is free. -/
theorem not_contains_freshName (ps : Parameters) (base : String) :
    ps.contains (ps.freshName base) = false := by
  rw [freshName]
  cases hfind : ((List.range (ps.entries.length + 1)).map (candidate base)).find?
      fun name => !ps.contains name with
  | some name => simpa using List.find?_some hfind
  | none =>
    obtain ⟨n, hn, hfree⟩ := exists_candidate ps base
    have hmem : candidate base n ∈ (List.range (ps.entries.length + 1)).map (candidate base) :=
      List.mem_map_of_mem (List.mem_range.2 (Nat.lt_succ_of_le hn))
    have := List.find?_eq_none.1 hfind _ hmem
    simp [hfree] at this

/-! ## Values of placeholders -/

/-- Are the parameters some others and more behind them? -/
def Extends (later earlier : Parameters) : Prop := earlier.entries <+: later.entries

theorem Extends.refl (ps : Parameters) : ps.Extends ps := List.prefix_rfl

theorem Extends.trans {a b c : Parameters} (h : a.Extends b) (h' : b.Extends c) : a.Extends c :=
  List.IsPrefix.trans h' h

/-- The value of the parameter of a name. -/
def value? (ps : Parameters) (name : String) : Option Value := (ps.find? name).map (·.value)

theorem value?_of_extends {later earlier : Parameters} (h : later.Extends earlier) {name : String}
    {value : Value} (hvalue : earlier.value? name = some value) : later.value? name = some value := by
  obtain ⟨more, hmore⟩ := h
  obtain ⟨p, hp, rfl⟩ := Option.map_eq_some_iff.1 hvalue
  rw [value?, find?, ← hmore, List.find?_append, ← find?, hp]
  rfl

theorem extends_bind (ps : Parameters) (base : String) (value : Value) (member : Option Member) :
    (ps.bind base value member).2.Extends ps := List.prefix_append _ _

/-- The name of a new parameter has the value that was bound. -/
theorem value?_bind (ps : Parameters) (base : String) (value : Value) (member : Option Member) :
    (ps.bind base value member).2.value? (ps.freshName base) = some value := by
  have hnone : ps.find? (ps.freshName base) = none := by
    have hfree := not_contains_freshName ps base
    rwa [contains, Option.isSome_eq_false_iff, Option.isNone_iff_eq_none] at hfree
  rw [value?, find?, bind, List.find?_append, ← find?, hnone]
  simp [entry]

end Parameters

end Rowgraph
