import Mathlib.Data.List.Forall2
import Mathlib.Tactic.Basic

/-!
# Results

When a chain of steps that may fail succeeds: each step does, and where steps change a state, each
goes on from the state that the one before it left (`Yields`). The errors of a chain are those of its
steps (`FailsOnly`), and it fails at the first that does (`Refuses`).
-/

set_option autoImplicit false

namespace Rowgraph

variable {ε σ α β : Type}

theorem bind_eq_ok {x : Except ε α} {f : α → Except ε β} {b : β} :
    x >>= f = .ok b ↔ ∃ a, x = .ok a ∧ f a = .ok b := by
  cases x with
  | error e =>
    constructor
    · intro h
      cases h
    · rintro ⟨a, ha, -⟩
      cases ha
  | ok a =>
    constructor
    · intro h
      exact ⟨a, rfl, h⟩
    · rintro ⟨a', ha, h⟩
      cases ha
      exact h

theorem map_eq_ok {x : Except ε α} {f : α → β} {b : β} :
    x.map f = .ok b ↔ ∃ a, x = .ok a ∧ f a = b := by
  cases x with
  | error e => simp [Except.map]
  | ok a => simp [Except.map]

/-- A step that succeeds on every element. -/
theorem mapM_eq_ok {f : α → Except ε β} {g : α → β} {as : List α} (h : ∀ a ∈ as, f a = .ok (g a)) :
    as.mapM f = .ok (as.map g) := by
  induction as with
  | nil => rfl
  | cons a as ih =>
    rw [List.mapM_cons, h a List.mem_cons_self, ih fun b hb => h b (List.mem_cons_of_mem _ hb)]
    rfl

theorem toOption_eq_some {x : Except ε α} {a : α} : x.toOption = some a ↔ x = .ok a := by
  cases x with
  | error e => simp [Except.toOption]
  | ok b => simp [Except.toOption]

/-- A step that succeeds on every element yields their results in order. -/
theorem mapM_eq_ok_iff {f : α → Except ε β} {as : List α} {bs : List β} :
    as.mapM f = .ok bs ↔ List.Forall₂ (fun a b => f a = .ok b) as bs := by
  induction as generalizing bs with
  | nil =>
    constructor
    · intro h
      cases h
      exact .nil
    · intro h
      cases h
      rfl
  | cons a as ih =>
    rw [List.mapM_cons, bind_eq_ok]
    constructor
    · rintro ⟨b, hb, h⟩
      obtain ⟨rest, hrest, hpure⟩ := bind_eq_ok.1 h
      cases hpure
      exact .cons hb (ih.1 hrest)
    · intro h
      cases h with
      | cons hb hrest => exact ⟨_, hb, bind_eq_ok.2 ⟨_, ih.2 hrest, rfl⟩⟩

theorem exists_of_forall₂ {R : α → β → Prop} {as : List α} {bs : List β} (h : List.Forall₂ R as bs) {a : α}
    (ha : a ∈ as) : ∃ b ∈ bs, R a b := by
  induction h with
  | nil => cases ha
  | cons hfirst _ ih =>
    rcases List.mem_cons.1 ha with rfl | ha
    · exact ⟨_, List.mem_cons_self, hfirst⟩
    · obtain ⟨b, hb, hR⟩ := ih ha
      exact ⟨b, List.mem_cons_of_mem _ hb, hR⟩

/-- Every result comes from an element. -/
theorem exists_of_mem_mapM {f : α → Except ε β} {as : List α} {bs : List β} (h : as.mapM f = .ok bs)
    {b : β} (hb : b ∈ bs) : ∃ a ∈ as, f a = .ok b := exists_of_forall₂ (mapM_eq_ok_iff.1 h).flip hb

/-! ## Errors -/

theorem mapM_cons_eq_error_iff {f : α → Except ε β} {a : α} {as : List α} {e : ε} :
    (a :: as).mapM f = .error e ↔ f a = .error e ∨ (∃ c, f a = .ok c) ∧ as.mapM f = .error e := by
  rw [List.mapM_cons]
  cases f a with
  | error e' =>
    constructor
    · intro h
      cases h
      exact Or.inl rfl
    · rintro (h | ⟨⟨c, hc⟩, -⟩)
      · cases h
        rfl
      · cases hc
  | ok c =>
    have hrest : (do let c ← (.ok c : Except ε β); let cs ← as.mapM f; pure (c :: cs)) = .error e ↔
        as.mapM f = .error e := by
      cases as.mapM f with
      | error e' => rfl
      | ok cs => exact ⟨nofun, nofun⟩
    rw [hrest]
    constructor
    · exact fun h => Or.inr ⟨⟨c, rfl⟩, h⟩
    · rintro (h | ⟨-, h⟩)
      · cases h
      · exact h

/-- A list of steps fails at the first element on which a step does. -/
theorem mapM_eq_error_iff {f : α → Except ε β} {as : List α} {e : ε} :
    as.mapM f = .error e ↔ ∃ (i : Nat) (a : α), as[i]? = some a ∧ f a = .error e ∧
      ∀ (j : Nat) (b : α), j < i → as[j]? = some b → ∃ c, f b = .ok c := by
  induction as with
  | nil =>
    constructor
    · intro h
      cases h
    · rintro ⟨i, a, ha, -⟩
      cases ha
  | cons a as ih =>
    rw [mapM_cons_eq_error_iff, ih]
    constructor
    · rintro (he | ⟨hfirst, i, b, hb, he, hbefore⟩)
      · exact ⟨0, a, rfl, he, fun j _ hj => absurd hj (Nat.not_lt_zero j)⟩
      · refine ⟨i + 1, b, hb, he, fun j b' hj hb' => ?_⟩
        cases j with
        | zero =>
          cases hb'
          exact hfirst
        | succ j => exact hbefore j b' (Nat.lt_of_succ_lt_succ hj) hb'
    · rintro ⟨i, b, hb, he, hbefore⟩
      cases i with
      | zero =>
        cases hb
        exact Or.inl he
      | succ i =>
        have hfirst := hbefore 0 a (Nat.succ_pos i) rfl
        exact Or.inr ⟨hfirst, i, b, hb, he,
          fun j b' hj hb' => hbefore (j + 1) b' (Nat.succ_lt_succ hj) hb'⟩

/-- Are all errors of a step of this kind? -/
def FailsOnly (P : ε → Prop) (x : Except ε α) : Prop := ∀ e, x = .error e → P e

namespace FailsOnly

variable {P : ε → Prop} {x : Except ε α}

theorem ok (a : α) : FailsOnly P (.ok a : Except ε α) := by
  intro e he
  cases he

theorem error {e : ε} (h : P e) : FailsOnly P (.error e : Except ε α) := by
  intro e' he
  cases he
  exact h

theorem bind {f : α → Except ε β} (h : FailsOnly P x) (hf : ∀ a, FailsOnly P (f a)) :
    FailsOnly P (x >>= f) := by
  cases x with
  | error e => exact error (h e rfl)
  | ok a => exact hf a

theorem map {f : α → β} (h : FailsOnly P x) : FailsOnly P (x.map f) := by
  cases x with
  | error e => exact error (h e rfl)
  | ok a => exact ok (f a)

theorem mapM {f : α → Except ε β} {as : List α} (hf : ∀ a ∈ as, FailsOnly P (f a)) :
    FailsOnly P (as.mapM f) := by
  induction as with
  | nil => exact ok []
  | cons a as ih =>
    rw [List.mapM_cons]
    have hrest := ih fun a' ha' => hf a' (List.mem_cons_of_mem _ ha')
    exact (hf a List.mem_cons_self).bind fun b => hrest.bind fun bs => ok (b :: bs)

theorem foldlM {f : β → α → Except ε β} {as : List α} (hf : ∀ a ∈ as, ∀ b, FailsOnly P (f b a)) (b : β) :
    FailsOnly P (as.foldlM f b) := by
  induction as generalizing b with
  | nil => exact ok b
  | cons a as ih =>
    rw [List.foldlM_cons]
    exact (hf a List.mem_cons_self b).bind (ih fun a' ha' => hf a' (List.mem_cons_of_mem _ ha'))

end FailsOnly

/-! ## Steps with a state -/

/-- Does the step succeed in a state, with the result and the state given? -/
def Yields (x : ExceptT ε (StateM σ) α) (s : σ) (a : α) (s' : σ) : Prop :=
  x.run.run s = (.ok a, s')

section Steps

variable {s s' : σ}

theorem yields_pure {a b : α} :
    Yields (pure a : ExceptT ε (StateM σ) α) s b s' ↔ (a, s) = (b, s') := by
  constructor
  · intro h
    cases h
    rfl
  · intro h
    cases h
    rfl

theorem run_run_bind (x : ExceptT ε (StateM σ) α) (f : α → ExceptT ε (StateM σ) β) (s : σ) :
    (x >>= f).run.run s = match x.run.run s with
      | (.ok a, s₁) => (f a).run.run s₁
      | (.error e, s₁) => (.error e, s₁) := by
  simp only [ExceptT.run_bind, StateT.run_bind]
  rcases x.run.run s with ⟨_ | a, s₁⟩ <;> rfl

theorem yields_bind {x : ExceptT ε (StateM σ) α} {f : α → ExceptT ε (StateM σ) β} {b : β} :
    Yields (x >>= f) s b s' ↔ ∃ a s₁, Yields x s a s₁ ∧ Yields (f a) s₁ b s' := by
  rw [Yields, run_run_bind]
  constructor
  · intro h
    cases hx : x.run.run s with
    | mk result s₁ =>
      rw [hx] at h
      cases result with
      | error e => cases h
      | ok a => exact ⟨a, s₁, hx, h⟩
  · rintro ⟨a, s₁, hx, hf⟩
    rw [hx]
    exact hf

theorem yields_throw {e : ε} {a : α} :
    ¬ Yields (throw e : ExceptT ε (StateM σ) α) s a s' := by
  intro h
  cases h

theorem yields_lift {x : Except ε α} {a : α} :
    Yields (liftM x : ExceptT ε (StateM σ) α) s a s' ↔ x.toOption = some a ∧ s' = s := by
  cases x with
  | error e =>
    constructor
    · intro h
      cases h
    · rintro ⟨h, -⟩
      cases h
  | ok b =>
    constructor
    · intro h
      cases h
      exact ⟨rfl, rfl⟩
    · rintro ⟨h, rfl⟩
      cases h
      rfl

/-- A step without a state, and those behind it. -/
theorem yields_lift_bind {x : Except ε α} {f : α → ExceptT ε (StateM σ) β} {b : β} :
    Yields (liftM x >>= f) s b s' ↔ ∃ a, x = .ok a ∧ Yields (f a) s b s' := by
  rw [yields_bind]
  constructor
  · rintro ⟨a, s₁, ha, hf⟩
    obtain ⟨hok, rfl⟩ := yields_lift.1 ha
    exact ⟨a, toOption_eq_some.1 hok, hf⟩
  · rintro ⟨a, ha, hf⟩
    exact ⟨a, s, yields_lift.2 ⟨toOption_eq_some.2 ha, rfl⟩, hf⟩

/-! ## Steps that fail -/

variable {e : ε}

/-- Does the step fail in a state, with the error given? -/
def Refuses (x : ExceptT ε (StateM σ) α) (s : σ) (e : ε) : Prop := (x.run.run s).1 = .error e

theorem refuses_pure {a : α} : ¬ Refuses (pure a : ExceptT ε (StateM σ) α) s e := by
  intro h
  cases h

/-- Of two steps the first fails, or the second behind it. -/
theorem refuses_bind {x : ExceptT ε (StateM σ) α} {f : α → ExceptT ε (StateM σ) β} :
    Refuses (x >>= f) s e ↔ Refuses x s e ∨ ∃ a s₁, Yields x s a s₁ ∧ Refuses (f a) s₁ e := by
  rw [Refuses, Refuses, run_run_bind]
  cases hx : x.run.run s with
  | mk result s₁ =>
    cases result with
    | error cause =>
      dsimp only
      constructor
      · intro h
        cases h
        exact Or.inl rfl
      · rintro (h | ⟨a, s₂, ha, -⟩)
        · cases h
          rfl
        · rw [Yields, hx] at ha
          cases ha
    | ok a =>
      dsimp only
      constructor
      · exact fun h => Or.inr ⟨a, s₁, hx, h⟩
      · rintro (h | ⟨a', s₂, ha, h⟩)
        · cases h
        · rw [Yields, hx] at ha
          cases ha
          exact h

/-- A step without a state, and those behind it. -/
theorem refuses_lift_bind {x : Except ε α} {f : α → ExceptT ε (StateM σ) β} :
    Refuses (liftM x >>= f) s e ↔ x = .error e ∨ ∃ a, x = .ok a ∧ Refuses (f a) s e := by
  cases x with
  | error cause =>
    constructor
    · intro h
      cases h
      exact Or.inl rfl
    · rintro (h | ⟨a, h, -⟩)
      · cases h
        rfl
      · cases h
  | ok a =>
    constructor
    · exact fun h => Or.inr ⟨a, rfl, h⟩
    · rintro (h | ⟨a', h, hf⟩)
      · cases h
      · cases h
        exact hf

end Steps

end Rowgraph
