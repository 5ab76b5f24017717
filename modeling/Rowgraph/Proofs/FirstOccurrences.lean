import Mathlib.Data.List.Induction
import Mathlib.Data.List.Nodup

/-!
# First occurrences

What `List.eraseDups` keeps: of equal elements the first, in the order of the list. One more element
at the end matters only if it is new (`eraseDups_concat`), choosing elements and dropping repetitions
commute (`filter_eraseDups`), and a list made of copies of one list without repetitions comes down to
that list (`eraseDups_flatMap_of_forall`).
-/

set_option autoImplicit false

namespace Rowgraph

variable {α β : Type} [DecidableEq α]

theorem eraseDups_concat (l : List α) (a : α) :
    (l ++ [a]).eraseDups = if a ∈ l then l.eraseDups else l.eraseDups ++ [a] := by
  rw [List.eraseDups_append]
  by_cases h : a ∈ l
  · have hnil : [a].removeAll l = [] := by simp [List.removeAll, h]
    rw [hnil, if_pos h, List.eraseDups_nil, List.append_nil]
  · have hone : [a].removeAll l = [a] := by simp [List.removeAll, h]
    rw [hone, if_neg h]
    rfl

theorem nodup_eraseDups (l : List α) : l.eraseDups.Nodup := by
  induction l using List.reverseRecOn with
  | nil => exact List.nodup_nil
  | append_singleton l a ih =>
    rw [eraseDups_concat]
    by_cases h : a ∈ l
    · rw [if_pos h]
      exact ih
    · rw [if_neg h]
      refine List.nodup_append.2 ⟨ih, List.nodup_singleton a, ?_⟩
      intro x hx y hy hxy
      rw [List.mem_singleton] at hy
      subst hxy hy
      exact h (List.mem_eraseDups.1 hx)

theorem eraseDups_of_nodup {l : List α} (h : l.Nodup) : l.eraseDups = l := by
  induction l using List.reverseRecOn with
  | nil => rfl
  | append_singleton l a ih =>
    obtain ⟨hl, -, hdis⟩ := List.nodup_append.1 h
    have ha : a ∉ l := fun hmem => hdis a hmem a (List.mem_singleton.2 rfl) rfl
    rw [eraseDups_concat, if_neg ha, ih hl]

theorem filter_eraseDups (p : α → Bool) (l : List α) :
    l.eraseDups.filter p = (l.filter p).eraseDups := by
  induction l using List.reverseRecOn with
  | nil => rfl
  | append_singleton l a ih =>
    rw [eraseDups_concat, List.filter_append]
    cases hp : p a with
    | false =>
      have hnil : [a].filter p = [] := by simp [hp]
      rw [hnil, List.append_nil, ← ih]
      split
      · rfl
      · rw [List.filter_append, hnil, List.append_nil]
    | true =>
      have hone : [a].filter p = [a] := by simp [hp]
      have hmem : a ∈ l.filter p ↔ a ∈ l := by simp [hp]
      rw [hone, eraseDups_concat, ← ih]
      by_cases h : a ∈ l
      · rw [if_pos h, if_pos (hmem.2 h)]
      · rw [if_neg h, if_neg (hmem.not.2 h), List.filter_append, hone]

/-- Elements that are told apart are dropped as before. -/
theorem eraseDups_map_of_injective [DecidableEq β] {f : α → β} (hf : Function.Injective f) (l : List α) :
    (l.map f).eraseDups = l.eraseDups.map f := by
  induction l using List.reverseRecOn with
  | nil => rfl
  | append_singleton l a ih =>
    rw [List.map_append, List.map_singleton, eraseDups_concat, eraseDups_concat, ih]
    simp only [List.mem_map_of_injective hf]
    split
    · rfl
    · rw [List.map_append, List.map_singleton]

/-- Elements that occur already may be added to the end without effect. -/
theorem eraseDups_append_of_subset {l m : List α} (h : ∀ a ∈ m, a ∈ l) :
    (l ++ m).eraseDups = l.eraseDups := by
  have hnil : m.removeAll l = [] := by
    rw [List.removeAll, List.filter_eq_nil_iff]
    intro a ha
    simp [h a ha]
  rw [List.eraseDups_append, hnil, List.eraseDups_nil, List.append_nil]

/-- Of two parts each may be replaced by one with the same first occurrences. -/
theorem eraseDups_append_congr {l l' m m' : List α} (hl : l.eraseDups = l'.eraseDups)
    (hm : m.eraseDups = m'.eraseDups) : (l ++ m).eraseDups = (l' ++ m').eraseDups := by
  have hmem : ∀ a, a ∈ l ↔ a ∈ l' := fun a => by
    rw [← List.mem_eraseDups, hl, List.mem_eraseDups]
  have hnew : (m.removeAll l).eraseDups = (m'.removeAll l').eraseDups := by
    have hfilter : m'.removeAll l' = m'.filter fun a => !l.elem a := by
      refine List.filter_congr fun a _ => ?_
      simp [hmem a]
    rw [hfilter, List.removeAll, ← filter_eraseDups, ← filter_eraseDups, hm]
  rw [List.eraseDups_append, List.eraseDups_append, hl, hnew]

theorem eraseDups_flatMap_congr {xs : List β} {f g : β → List α}
    (h : ∀ x ∈ xs, (f x).eraseDups = (g x).eraseDups) :
    (xs.flatMap f).eraseDups = (xs.flatMap g).eraseDups := by
  induction xs with
  | nil => rfl
  | cons x xs ih =>
    rw [List.flatMap_cons, List.flatMap_cons]
    exact eraseDups_append_congr (h x List.mem_cons_self) (ih fun y hy =>
      h y (List.mem_cons_of_mem _ hy))

/-- A list made of copies of one list, and of nothing else, comes down to one copy. -/
theorem eraseDups_flatMap_of_forall {xs : List β} {f : β → List α} {block : List α}
    (hblock : block.Nodup) (h : ∀ x ∈ xs, f x = [] ∨ f x = block) (hsome : ∃ x ∈ xs, f x = block) :
    (xs.flatMap f).eraseDups = block := by
  induction xs using List.reverseRecOn with
  | nil => simp at hsome
  | append_singleton xs x ih =>
    have hinit : ∀ y ∈ xs, f y = [] ∨ f y = block := fun y hy =>
      h y (List.mem_append_left _ hy)
    rw [List.flatMap_append, List.flatMap_singleton]
    by_cases hex : ∃ y ∈ xs, f y = block
    -- a copy came before, so the last one adds nothing
    · obtain ⟨y, hy, hfy⟩ := hex
      rw [eraseDups_append_of_subset, ih hinit ⟨y, hy, hfy⟩]
      intro a ha
      rcases h x (by simp) with hx | hx
      · simp [hx] at ha
      · rw [hx, ← hfy] at ha
        exact List.mem_flatMap.2 ⟨y, hy, ha⟩
    -- the last one is the first copy
    · have hnil : xs.flatMap f = [] := by
        rw [List.flatMap_eq_nil_iff]
        intro y hy
        rcases hinit y hy with h' | h'
        · exact h'
        · exact absurd ⟨y, hy, h'⟩ hex
      have hx : f x = block := by
        obtain ⟨y, hy, hfy⟩ := hsome
        rcases List.mem_append.1 hy with hy | hy
        · exact absurd ⟨y, hy, hfy⟩ hex
        · rwa [← List.mem_singleton.1 hy]
      rw [hnil, hx, List.nil_append, eraseDups_of_nodup hblock]

/-- A list written one or more times. -/
theorem eraseDups_flatMap_const {xs : List β} (hxs : xs ≠ []) (l : List α) :
    (xs.flatMap fun _ => l).eraseDups = l.eraseDups := by
  cases xs with
  | nil => exact absurd rfl hxs
  | cons x xs =>
    rw [List.flatMap_cons]
    refine eraseDups_append_of_subset fun a ha => ?_
    obtain ⟨-, -, hmem⟩ := List.mem_flatMap.1 ha
    exact hmem

end Rowgraph
