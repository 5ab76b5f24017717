import Rowgraph.Proofs.Results

/-!
# Agreement of two runs

Two results agree when both are errors, or both are successes with related values (`Agree`); which error
it is does not matter. Two computations agree when from related states they have results that agree, and
leave related states behind when they succeed (`Couples`). Both are kept by the ways in which steps are
put together, so that two programs agree when their steps do, one by one.
-/

set_option autoImplicit false

namespace Rowgraph

variable {ε σ α β γ δ : Type}

/-- Lists whose elements are mapped alike. -/
theorem map_eq_of_forall₂ {f : α → γ} {g : β → γ} {as : List α} {bs : List β}
    (h : List.Forall₂ (fun a b => f a = g b) as bs) : as.map f = bs.map g := by
  induction h with
  | nil => rfl
  | cons hab _ ih => rw [List.map_cons, List.map_cons, hab, ih]

/-- Are both results errors, or both successes with related values? -/
inductive Agree (R : α → β → Prop) : Except ε α → Except ε β → Prop
  | ok {a : α} {b : β} (h : R a b) : Agree R (.ok a) (.ok b)
  | error (e e' : ε) : Agree R (.error e) (.error e')

namespace Agree

variable {R : α → β → Prop} {Q : γ → δ → Prop} {x : Except ε α} {y : Except ε β}

/-- A result agrees with itself. -/
theorem refl (x : Except ε α) : Agree (· = ·) x x := by
  cases x with
  | error e => exact .error e e
  | ok a => exact .ok rfl

theorem mono {R' : α → β → Prop} (h : Agree R x y) (hR : ∀ a b, R a b → R' a b) : Agree R' x y := by
  cases h with
  | ok hab => exact .ok (hR _ _ hab)
  | error e e' => exact .error e e'

theorem bind {f : α → Except ε γ} {g : β → Except ε δ} (h : Agree R x y)
    (hf : ∀ a b, R a b → Agree Q (f a) (g b)) : Agree Q (x >>= f) (y >>= g) := by
  cases h with
  | ok hab => exact hf _ _ hab
  | error e e' => exact .error e e'

theorem map {f : α → γ} {g : β → δ} (h : Agree R x y) (hf : ∀ a b, R a b → Q (f a) (g b)) :
    Agree Q (x.map f) (y.map g) := by
  cases h with
  | ok hab => exact .ok (hf _ _ hab)
  | error e e' => exact .error e e'

theorem mapM {S : α → β → Prop} {as : List α} {bs : List β} (h : List.Forall₂ S as bs)
    {f : α → Except ε γ} {g : β → Except ε δ} (hf : ∀ a b, S a b → Agree Q (f a) (g b)) :
    Agree (List.Forall₂ Q) (as.mapM f) (bs.mapM g) := by
  induction h with
  | nil => exact .ok .nil
  | cons hab _ ih =>
    rw [List.mapM_cons, List.mapM_cons]
    exact (hf _ _ hab).bind fun c d hcd => ih.bind fun cs ds hcds => .ok (.cons hcd hcds)

/-- A step with one result for both lists. -/
theorem mapM_eq {S : α → β → Prop} {as : List α} {bs : List β} (h : List.Forall₂ S as bs)
    {f : α → Except ε γ} {g : β → Except ε γ} (hf : ∀ a b, S a b → Agree (· = ·) (f a) (g b)) :
    Agree (· = ·) (as.mapM f) (bs.mapM g) := by
  refine (mapM h hf).mono fun cs ds hcs => ?_
  rwa [List.forall₂_eq_eq_eq] at hcs

/-- A step that is the same in both results, and those behind it. -/
theorem bind_eq {x y : Except ε α} {f : α → Except ε γ} {g : α → Except ε δ}
    (h : Agree (· = ·) x y) (hf : ∀ a, Agree Q (f a) (g a)) : Agree Q (x >>= f) (y >>= g) := by
  refine h.bind fun a b hab => ?_
  cases hab
  exact hf a

end Agree

/-! ## Computations with a state -/

/-- The result of a computation and the state behind it, if it succeeds. -/
def outcome (x : ExceptT ε (StateM σ) α) (s : σ) : Except ε (α × σ) :=
  match x.run.run s with
  | (.ok a, s') => .ok (a, s')
  | (.error e, _) => .error e

theorem outcome_bind (x : ExceptT ε (StateM σ) α) (f : α → ExceptT ε (StateM σ) β) (s : σ) :
    outcome (x >>= f) s = outcome x s >>= fun p => outcome (f p.1) p.2 := by
  simp only [outcome, ExceptT.run_bind, StateT.run_bind]
  rcases x.run.run s with ⟨_ | a, s₁⟩
  · rfl
  · rfl

theorem outcome_lift (x : Except ε α) (s : σ) :
    outcome (liftM x : ExceptT ε (StateM σ) α) s = x.map fun a => (a, s) := by
  cases x with
  | error e => rfl
  | ok a => rfl

/-- Do two computations, begun in related states, have results that agree and leave related states? -/
def Couples (S : σ → σ → Prop) (R : α → β → Prop) (x : ExceptT ε (StateM σ) α)
    (y : ExceptT ε (StateM σ) β) : Prop :=
  ∀ s s', S s s' → Agree (fun p q => R p.1 q.1 ∧ S p.2 q.2) (outcome x s) (outcome y s')

namespace Couples

variable {S : σ → σ → Prop} {R : α → β → Prop} {Q : γ → δ → Prop}

theorem pure {a : α} {b : β} (h : R a b) :
    Couples S R (Pure.pure a : ExceptT ε (StateM σ) α) (Pure.pure b) :=
  fun _ _ hs => .ok ⟨h, hs⟩

theorem throw (e e' : ε) : Couples S R (MonadExcept.throw e : ExceptT ε (StateM σ) α)
    (MonadExcept.throw e' : ExceptT ε (StateM σ) β) :=
  fun _ _ _ => .error e e'

theorem lift {x : Except ε α} {y : Except ε β} (h : Agree R x y) :
    Couples S R (liftM x : ExceptT ε (StateM σ) α) (liftM y : ExceptT ε (StateM σ) β) := by
  intro s s' hs
  rw [outcome_lift, outcome_lift]
  exact h.map fun a b hab => ⟨hab, hs⟩

theorem bind {x : ExceptT ε (StateM σ) α} {y : ExceptT ε (StateM σ) β}
    {f : α → ExceptT ε (StateM σ) γ} {g : β → ExceptT ε (StateM σ) δ} (h : Couples S R x y)
    (hf : ∀ a b, R a b → Couples S Q (f a) (g b)) : Couples S Q (x >>= f) (y >>= g) := by
  intro s s' hs
  rw [outcome_bind, outcome_bind]
  exact (h s s' hs).bind fun p q hpq => hf p.1 q.1 hpq.1 p.2 q.2 hpq.2

/-- A step that is the same in both computations, and those behind it. -/
theorem bind_eq {x y : ExceptT ε (StateM σ) α} {f : α → ExceptT ε (StateM σ) γ}
    {g : α → ExceptT ε (StateM σ) δ} (h : Couples S (· = ·) x y)
    (hf : ∀ a, Couples S Q (f a) (g a)) : Couples S Q (x >>= f) (y >>= g) := by
  refine h.bind fun a b hab => ?_
  cases hab
  exact hf a

end Couples

end Rowgraph
