import Mathlib.Data.List.Forall2

/-! Results that may be errors: when they are none, and what they come to if it does not matter
which error they are. -/
namespace RelationalQuery

variable {ε α β γ : Type}

theorem Except.bind_eq_ok {x : Except ε α} {f : α → Except ε β} {b : β} :
    x >>= f = .ok b ↔ ∃ a, x = .ok a ∧ f a = .ok b := by
  cases x with
  | error e => simp [bind, Except.bind]
  | ok a => simp [bind, Except.bind]

theorem Except.forall₂_of_mapM {f : α → Except ε β} {xs : List α} {ys : List β}
    (h : xs.mapM f = .ok ys) : List.Forall₂ (fun x y => f x = .ok y) xs ys := by
  induction xs generalizing ys with
  | nil =>
    cases h
    exact .nil
  | cons x xs ih =>
    rw [List.mapM_cons] at h
    obtain ⟨y, hy, h⟩ := Except.bind_eq_ok.1 h
    obtain ⟨rest, hrest, h⟩ := Except.bind_eq_ok.1 h
    cases h
    exact .cons hy (ih hrest)

theorem exists_mem_of_forall₂ {r : α → β → Prop} {xs : List α} {ys : List β}
    (h : List.Forall₂ r xs ys) {y : β} (hy : y ∈ ys) : ∃ x ∈ xs, r x y := by
  induction h with
  | nil => cases hy
  | cons hr _ ih =>
    obtain rfl | hy := List.mem_cons.1 hy
    · exact ⟨_, by simp, hr⟩
    · obtain ⟨x, hx, hr⟩ := ih hy
      exact ⟨x, by simp [hx], hr⟩

theorem Except.map_eq_ok {f : α → β} {x : Except ε α} {b : β} :
    x.map f = .ok b ↔ ∃ a, x = .ok a ∧ f a = b := by
  cases x <;> simp [Except.map]

def Except.Alike (x : Except ε α) (y : Except ε β) : Prop :=
  (∃ e, x = .error e ∧ y = .error e) ∨ ∃ a b, x = .ok a ∧ y = .ok b

theorem Except.alike_mapM {f : α → Except ε β} {g : α → Except ε γ}
    {xs : List α} (h : ∀ x ∈ xs, Except.Alike (f x) (g x)) :
    Except.Alike (xs.mapM f) (xs.mapM g) := by
  induction xs with
  | nil => exact .inr ⟨[], [], rfl, rfl⟩
  | cons x xs ih =>
    rw [List.mapM_cons, List.mapM_cons]
    obtain ⟨e, hf, hg⟩ | ⟨a, b, hf, hg⟩ := h x (by simp)
    · exact .inl ⟨e, by rw [hf]; rfl, by rw [hg]; rfl⟩
    · obtain ⟨e, hfs, hgs⟩ | ⟨as, bs, hfs, hgs⟩ := ih fun y hy => h y (by simp [hy])
      · exact .inl ⟨e, by rw [hf, hfs]; rfl, by rw [hg, hgs]; rfl⟩
      · exact .inr ⟨a :: as, b :: bs, by rw [hf, hfs]; rfl, by rw [hg, hgs]; rfl⟩

/-! ### Whatever the error -/

theorem toOption_bind (x : Except ε α) (f : α → Except ε β) :
    (x >>= f).toOption = x.toOption.bind fun a => (f a).toOption := by
  cases x <;> rfl

theorem toOption_map (f : α → β) (x : Except ε α) : (f <$> x).toOption = x.toOption.map f := by
  cases x <;> rfl

theorem toOption_eq_some {x : Except ε α} {a : α} : x.toOption = some a ↔ x = .ok a := by
  cases x <;> simp [Except.toOption]

/-- What follows on two results agrees if they are none together and agree where they are some. -/
theorem bind_toOption_eq {x y : Except ε α} {f : α → Option β}
    (h : ∀ a, x = .ok a → ∃ a', y = .ok a' ∧ f a = f a') (h' : ∀ a, y = .ok a → ∃ a', x = .ok a') :
    x.toOption.bind f = y.toOption.bind f := by
  cases x with
  | ok a =>
    obtain ⟨a', rfl, heq⟩ := h a rfl
    exact heq
  | error e =>
    cases y with
    | ok a =>
      obtain ⟨a', ha'⟩ := h' a rfl
      cases ha'
    | error e' => rfl

theorem toOption_mapM_congr {f g : α → Except ε β} {xs : List α}
    (h : ∀ x ∈ xs, (f x).toOption = (g x).toOption) :
    (xs.mapM f).toOption = (xs.mapM g).toOption := by
  induction xs with
  | nil => rfl
  | cons x xs ih =>
    have hx := h x (by simp)
    have hxs := ih fun y hy => h y (by simp [hy])
    simp only [List.mapM_cons, toOption_bind, hx, hxs]

end RelationalQuery
