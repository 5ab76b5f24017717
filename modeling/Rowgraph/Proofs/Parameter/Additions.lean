import Mathlib.Data.Nat.Find
import Mathlib.Order.Bounds.Basic
import Rowgraph.Proofs.Command.Placeholders

/-!
# Parameters added one after the other

A name is sought among candidates, the base first and then the base with the numbers from one on, until one is free
(`Parameters.Seeks`). There is no bound in the search itself. It ends because the candidates are all different, so
that the parameters cannot have taken more of them than there are parameters (`seeks_iff`), and what it finds is the
base, or the base with the least number that makes it free. Whatever parameters are added in a row, their names are
therefore all different and the value of a placeholder is the one that it was made for, then and later
(`names_addAll`).
-/

set_option autoImplicit false

namespace Rowgraph

/-- What a new parameter is made of: the base of its name, its value, and the member that it meets if there is one. -/
structure Addition where
  base : String
  value : Value
  member : Option Member := none

namespace Parameters

/-- The parameters with one more. -/
def add (ps : Parameters) (a : Addition) : Parameters := (ps.bind a.base a.value a.member).2

/-- The parameters with more of them, added in order. -/
def addAll (ps : Parameters) (additions : List Addition) : Parameters := additions.foldl add ps

/-- Does the search for a name, from the `n`-th candidate on, find the name, and is the number that of the candidates
it looks at? A candidate that is free ends the search; one that is taken leads on to the next. -/
inductive Seeks (ps : Parameters) (base : String) : Nat → String → Nat → Prop
  | free {n : Nat} (h : ps.contains (candidate base n) = false) : Seeks ps base n (candidate base n) 1
  | taken {n tried : Nat} {name : String} (h : ps.contains (candidate base n) = true)
      (next : Seeks ps base (n + 1) name tried) : Seeks ps base n name (tried + 1)

/-! ## The search -/

variable {ps : Parameters} {base name : String} {n tried : Nat}

/-- The candidates up to one that is free are looked at in turn. -/
theorem Seeks.of_first {m : Nat} (hfree : ps.contains (candidate base (n + m)) = false)
    (htaken : ∀ k, n ≤ k → k < n + m → ps.contains (candidate base k) = true) :
    ps.Seeks base n (candidate base (n + m)) (m + 1) := by
  induction m generalizing n with
  | zero => exact .free hfree
  | succ m ih =>
    have hmove : n + 1 + m = n + (m + 1) := by omega
    refine .taken (htaken n (Nat.le_refl n) (by omega)) ?_
    rw [← hmove] at hfree ⊢
    exact ih hfree fun k hk hlt => htaken k (by omega) (by omega)

/-- A search has one outcome. -/
theorem Seeks.unique (h : ps.Seeks base n name tried) {name' : String} {tried' : Nat}
    (h' : ps.Seeks base n name' tried') : name = name' ∧ tried = tried' := by
  induction h generalizing tried' with
  | free hfree =>
    cases h' with
    | free => exact ⟨rfl, rfl⟩
    | taken htaken =>
      rw [hfree] at htaken
      cases htaken
  | taken htaken _ ih =>
    cases h' with
    | free hfree =>
      rw [hfree] at htaken
      cases htaken
    | taken _ next =>
      obtain ⟨hname, htried⟩ := ih next
      exact ⟨hname, congrArg (· + 1) htried⟩

/-- A new name is the first candidate that is free, and there is one before the candidates outnumber the
parameters. -/
theorem exists_freshName_eq (ps : Parameters) (base : String) :
    ∃ n ≤ ps.entries.length, ps.freshName base = candidate base n ∧
      ps.contains (candidate base n) = false ∧ ∀ k < n, ps.contains (candidate base k) = true := by
  have hexists : ∃ n, ps.contains (candidate base n) = false := by
    obtain ⟨n, -, hfree⟩ := exists_candidate ps base
    exact ⟨n, hfree⟩
  obtain ⟨m, hm, hfree⟩ := exists_candidate ps base
  have hle : Nat.find hexists ≤ ps.entries.length := (Nat.find_min' hexists hfree).trans hm
  have htaken : ∀ k < Nat.find hexists, ps.contains (candidate base k) = true := by
    intro k hk
    rw [← Bool.not_eq_false]
    exact Nat.find_min hexists hk
  refine ⟨Nat.find hexists, hle, ?_, Nat.find_spec hexists, htaken⟩
  have hfound : (List.range (ps.entries.length + 1)).find? ((fun name => !ps.contains name) ∘ candidate base) =
      some (Nat.find hexists) := by
    rw [List.find?_range_eq_some]
    refine ⟨?_, List.mem_range.2 (Nat.lt_succ_of_le hle), fun k hk => ?_⟩
    · rw [Function.comp_apply, Nat.find_spec hexists]
      rfl
    · rw [Function.comp_apply, htaken k hk]
      rfl
  rw [freshName, List.find?_map, hfound]
  rfl

/-- The search ends with the new name, after one candidate more than there are parameters at the latest. -/
theorem seeks_iff (ps : Parameters) (base : String) :
    ∃ tried ≤ ps.entries.length + 1, ∀ name t, ps.Seeks base 0 name t ↔ name = ps.freshName base ∧ t = tried := by
  obtain ⟨n, hn, hname, hfree, htaken⟩ := exists_freshName_eq ps base
  have hseeks : ps.Seeks base 0 (ps.freshName base) (n + 1) := by
    rw [← Nat.zero_add n] at hname hfree
    rw [hname]
    exact .of_first hfree fun k _ hk => htaken k (by omega)
  refine ⟨n + 1, by omega, fun name t => ⟨fun h => h.unique hseeks, ?_⟩⟩
  rintro ⟨rfl, rfl⟩
  exact hseeks

/-- A base that is free is the name. -/
theorem freshName_of_free (h : ps.contains base = false) : ps.freshName base = base := by
  obtain ⟨n, -, hname, -, htaken⟩ := exists_freshName_eq ps base
  cases n with
  | zero => exact hname
  | succ n =>
    have hbase : ps.contains base = true := htaken 0 (Nat.succ_pos n)
    rw [h] at hbase
    cases hbase

/-- A base that is taken gets the least number that makes it free. -/
theorem exists_isLeast_of_taken (h : ps.contains base = true) :
    ∃ n, IsLeast {k | 0 < k ∧ ps.contains (base ++ toString k) = false} n ∧
      ps.freshName base = base ++ toString n := by
  obtain ⟨n, -, hname, hfree, htaken⟩ := exists_freshName_eq ps base
  cases n with
  | zero =>
    have hbase : ps.contains base = false := hfree
    rw [h] at hbase
    cases hbase
  | succ n =>
    refine ⟨n + 1, ⟨⟨Nat.succ_pos n, hfree⟩, ?_⟩, hname⟩
    rintro k ⟨hpos, hk⟩
    by_contra hlt
    obtain ⟨k, rfl⟩ := Nat.exists_eq_succ_of_ne_zero (Nat.pos_iff_ne_zero.1 hpos)
    have hlower := htaken (k + 1) (Nat.lt_of_not_le hlt)
    rw [candidate, hk] at hlower
    cases hlower

/-! ## Additions in a row -/

variable {a : Addition} {additions : List Addition}

/-- A new parameter stands behind the others, which stay as they are. -/
theorem entries_add (ps : Parameters) (a : Addition) :
    (ps.add a).entries = ps.entries ++ [ps.entry a.base a.value a.member] := rfl

theorem addAll_append (ps : Parameters) (as bs : List Addition) : ps.addAll (as ++ bs) = (ps.addAll as).addAll bs :=
  List.foldl_append

theorem nodup_add (h : ps.names.Nodup) (a : Addition) : (ps.add a).names.Nodup := by
  have hfree : ps.freshName a.base ∉ ps.names := by
    rw [← contains_iff, not_contains_freshName]
    exact Bool.false_ne_true
  rw [names, entries_add, List.map_append, List.nodup_append]
  refine ⟨h, List.nodup_singleton _, fun name hname name' hname' => ?_⟩
  rintro rfl
  rw [List.map_singleton, List.mem_singleton] at hname'
  rw [hname'] at hname
  exact hfree hname

theorem extends_addAll (ps : Parameters) (additions : List Addition) : (ps.addAll additions).Extends ps := by
  induction additions generalizing ps with
  | nil => exact .refl ps
  | cons a rest ih => exact (ih (ps.add a)).trans (extends_bind ps a.base a.value a.member)

theorem nodup_addAll (h : ps.names.Nodup) (additions : List Addition) : (ps.addAll additions).names.Nodup := by
  induction additions generalizing ps with
  | nil => exact h
  | cons a rest ih => exact ih (nodup_add h a)

theorem length_addAll (ps : Parameters) (additions : List Addition) :
    (ps.addAll additions).entries.length = ps.entries.length + additions.length := by
  induction additions generalizing ps with
  | nil => rfl
  | cons a rest ih =>
    have hrest := ih (ps.add a)
    rw [entries_add, List.length_append, List.length_singleton] at hrest
    rw [List.length_cons, Nat.add_comm rest.length, ← Nat.add_assoc]
    exact hrest

/-- However many parameters are added, from none on, there is one for each addition and their names are all
different. The search for another name ends after one candidate more than there are parameters at the latest, with the
base if it is free and else with the least number behind the base that makes it free. Each addition puts one parameter
behind the others, under the name found, and changes none; and the name in its placeholder has its value from then
on. -/
theorem names_addAll (inlineNumbers : Bool) (additions : List Addition) :
    let ps := addAll ⟨inlineNumbers, []⟩ additions
    ps.names.Nodup ∧ ps.entries.length = additions.length ∧
      (∀ base,
        (∃ tried ≤ ps.entries.length + 1, ∀ name t, ps.Seeks base 0 name t ↔
          name = ps.freshName base ∧ t = tried) ∧
        (ps.contains base = false → ps.freshName base = base) ∧
        (ps.contains base = true → ∃ n, IsLeast {k | 0 < k ∧ ps.contains (base ++ toString k) = false} n ∧
          ps.freshName base = base ++ toString n)) ∧
      ∀ earlier a later, additions = earlier ++ a :: later →
        let before := addAll ⟨inlineNumbers, []⟩ earlier
        ∃ p : Parameter, p.name = before.freshName a.base ∧ p.value = a.value ∧
          before.bind a.base a.value a.member = (p.placeholder, { before with entries := before.entries ++ [p] }) ∧
          ∃ name, p.placeholder.placeholder? = some name ∧ ps.value? name = some a.value := by
  intro ps
  have hnone : (⟨inlineNumbers, []⟩ : Parameters).names.Nodup := List.nodup_nil
  refine ⟨nodup_addAll hnone additions, ?_, fun base => ?_, ?_⟩
  · exact (length_addAll _ additions).trans (Nat.zero_add _)
  · exact ⟨seeks_iff ps base, freshName_of_free, exists_isLeast_of_taken⟩
  · intro earlier a later hsplit before
    have hlater : ps = (before.add a).addAll later := by
      change addAll _ additions = _
      rw [hsplit, addAll_append]
      rfl
    refine ⟨before.entry a.base a.value a.member, rfl, rfl, rfl, _, placeholder?_placeholder _, ?_⟩
    rw [hlater]
    exact value?_of_extends (extends_addAll _ later) (value?_bind before a.base a.value a.member)

/-- Bases that end in digits, the empty one, and one that is the number of another. -/
theorem names_addAll_digits :
    let additions : List Addition := [⟨"Id1", .int 1, none⟩, ⟨"Id", .int 2, none⟩, ⟨"Id", .int 3, none⟩,
      ⟨"", .int 4, none⟩, ⟨"", .int 5, none⟩, ⟨"1", .int 6, none⟩]
    let ps := addAll ⟨true, []⟩ additions
    ps.names = ["Id1", "Id", "Id2", "", "1", "11"] ∧ ps.names.Nodup ∧ ps.freshName "Id1" = "Id11" ∧
      (∃ n, IsLeast {k | 0 < k ∧ ps.contains ("Id" ++ toString k) = false} n ∧ ps.freshName "Id" = "Id" ++ toString n) ∧
      ∃ name, ps.value? name = some (.int 3) ∧ name = "Id2" := by
  intro additions ps
  obtain ⟨hnodup, -, hsearch, hadded⟩ := names_addAll true additions
  have hnames : ps.names = ["Id1", "Id", "Id2", "", "1", "11"] := by decide
  obtain ⟨p, hname, -, -, name, hplaceholder, hvalue⟩ := hadded (additions.take 2) _ _ rfl
  have hsame : name = "Id2" := by
    rw [placeholder?_placeholder, hname] at hplaceholder
    cases hplaceholder
    decide
  exact ⟨hnames, hnodup, by decide, (hsearch "Id").2.2 (by decide), name, hvalue, hsame⟩

end Parameters

end Rowgraph
