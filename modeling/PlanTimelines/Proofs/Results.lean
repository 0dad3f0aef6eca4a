import Mathlib.Data.List.Perm.Basic
import PlanTimelines.Draft.State

/-! When a computation that may fail has a result, and what a run of steps keeps. -/

namespace PlanTimelines

variable {ε σ α β : Type}

@[simp] theorem pure_eq_ok {a b : α} : (pure a : Except ε α) = .ok b ↔ a = b := by
  simp [pure, Except.pure]

theorem ok_bind (a : α) (f : α → Except ε β) : (Except.ok a >>= f) = f a := rfl

theorem bind_eq_ok {x : Except ε α} {f : α → Except ε β} {b : β} :
    x >>= f = .ok b ↔ ∃ a, x = .ok a ∧ f a = .ok b := by
  cases x <;> simp [bind, Except.bind]

/-- A refusal ahead of the rest of a computation. -/
theorem throw_ite_eq_ok {c : Prop} [Decidable c] {e : ε} {f : α → Except ε β} {x : Except ε β}
    {b : β} : (if c then throw e >>= f else x) = .ok b ↔ ¬c ∧ x = .ok b := by
  split <;> simp_all [bind, Except.bind, throw, throwThe, MonadExceptOf.throw]

theorem map_eq_ok {x : Except ε α} {f : α → β} {b : β} :
    x.map f = .ok b ↔ ∃ a, x = .ok a ∧ f a = b := by
  cases x <;> simp [Except.map]

theorem map_eq_error {x : Except ε α} {f : α → β} {e : ε} : x.map f = .error e ↔ x = .error e := by
  cases x <;> simp [Except.map]

theorem isError_iff {x : Except ε α} : (∃ e, x = .error e) ↔ ¬∃ a, x = .ok a := by
  cases x <;> simp

theorem mapM_eq_ok {f : α → Except ε β} {xs : List α} {ys : List β} :
    xs.mapM f = .ok ys ↔ List.Forall₂ (fun x y => f x = .ok y) xs ys := by
  induction xs generalizing ys with
  | nil =>
    rw [List.mapM_nil, pure_eq_ok, List.forall₂_nil_left_iff]
    exact eq_comm
  | cons x rest ih =>
    simp only [List.mapM_cons, bind_eq_ok, ih, pure_eq_ok, List.forall₂_cons_left_iff]
    constructor
    · intro h
      obtain ⟨y, hy, ys', hys, rfl⟩ := h
      exact ⟨y, ys', hy, hys, rfl⟩
    · intro h
      obtain ⟨y, ys', hy, hys, rfl⟩ := h
      exact ⟨y, hy, ys', hys, rfl⟩

theorem mapM_isOk {f : α → Except ε β} {xs : List α} :
    (∃ ys, xs.mapM f = .ok ys) ↔ ∀ x ∈ xs, ∃ y, f x = .ok y := by
  induction xs with
  | nil => simp [pure, Except.pure]
  | cons x rest ih =>
    simp only [List.mapM_cons, bind_eq_ok, pure_eq_ok, List.forall_mem_cons, ← ih]
    constructor
    · intro h
      obtain ⟨_, y, hy, ys, hys, rfl⟩ := h
      exact ⟨⟨y, hy⟩, ys, hys⟩
    · intro h
      obtain ⟨⟨y, hy⟩, ys, hys⟩ := h
      exact ⟨y :: ys, y, hy, ys, hys, rfl⟩

/-- Results that a function describes, as long as all inputs pass a test. -/
theorem mapM_eq_ok_map {f : α → Except ε β} {P : α → Prop} {g : α → β}
    (hf : ∀ x y, f x = .ok y ↔ P x ∧ y = g x) {xs : List α} {ys : List β} :
    xs.mapM f = .ok ys ↔ (∀ x ∈ xs, P x) ∧ ys = xs.map g := by
  rw [mapM_eq_ok]
  induction xs generalizing ys with
  | nil => simp
  | cons x rest ih =>
    rw [List.forall₂_cons_left_iff, List.forall_mem_cons, List.map_cons]
    constructor
    · intro h
      obtain ⟨y, ys', hy, hys, rfl⟩ := h
      obtain ⟨hx, rfl⟩ := (hf x y).mp hy
      obtain ⟨hrest, rfl⟩ := ih.mp hys
      exact ⟨⟨hx, hrest⟩, rfl⟩
    · intro h
      obtain ⟨⟨hx, hrest⟩, rfl⟩ := h
      exact ⟨g x, rest.map g, (hf x _).mpr ⟨hx, rfl⟩, ih.mpr ⟨hrest, rfl⟩, rfl⟩

theorem exists_of_mem_mapM {f : α → Except ε β} {xs : List α} {ys : List β}
    (h : xs.mapM f = .ok ys) {y : β} (hy : y ∈ ys) : ∃ x ∈ xs, f x = .ok y := by
  induction mapM_eq_ok.mp h with
  | nil => cases hy
  | @cons x y' xs ys hx _ ih =>
    rcases List.mem_cons.mp hy with rfl | hy
    · exact ⟨x, by simp, hx⟩
    · obtain ⟨x', hx', hfx'⟩ := ih (mapM_eq_ok.mpr ‹_›) hy
      exact ⟨x', by simp [hx'], hfx'⟩

theorem exists_result_of_mem {f : α → Except ε β} {xs : List α} {ys : List β}
    (h : xs.mapM f = .ok ys) {x : α} (hx : x ∈ xs) : ∃ y ∈ ys, f x = .ok y := by
  induction mapM_eq_ok.mp h with
  | nil => cases hx
  | @cons x' y xs ys hy _ ih =>
    rcases List.mem_cons.mp hx with rfl | hx
    · exact ⟨y, by simp, hy⟩
    · obtain ⟨y', hy', hfx⟩ := ih (mapM_eq_ok.mpr ‹_›) hx
      exact ⟨y', by simp [hy'], hfx⟩

/-- The first input without a result decides on the error. -/
theorem mapM_eq_error {f : α → Except ε β} {xs : List α} {e : ε} :
    xs.mapM f = .error e ↔ ∃ before x after, xs = before ++ x :: after ∧
      (∀ y ∈ before, ∃ z, f y = .ok z) ∧ f x = .error e := by
  induction xs with
  | nil => simp [pure, Except.pure]
  | cons x rest ih =>
    rw [List.mapM_cons]
    cases hx : f x with
    | error e' =>
      simp only [bind, Except.bind, Except.error.injEq]
      constructor
      · intro h
        exact ⟨[], x, rest, rfl, by simp, h ▸ hx⟩
      · intro h
        obtain ⟨before, y, after, hxs, hbefore, hy⟩ := h
        cases before with
        | nil =>
          obtain ⟨rfl, -⟩ := List.cons.inj hxs
          exact Except.error.inj (hx.symm.trans hy)
        | cons x' before =>
          obtain ⟨rfl, -⟩ := List.cons.inj hxs
          obtain ⟨z, hz⟩ := hbefore x (by simp)
          cases hx.symm.trans hz
    | ok z =>
      have hrest : ((Except.ok z : Except ε β) >>= fun y => do return y :: (← rest.mapM f)) =
          .error e ↔ rest.mapM f = .error e := by
        cases rest.mapM f <;> simp [bind, Except.bind, pure, Except.pure]
      rw [hrest, ih]
      constructor
      · intro h
        obtain ⟨before, y, after, rfl, hbefore, hy⟩ := h
        exact ⟨x :: before, y, after, rfl, List.forall_mem_cons.mpr ⟨⟨z, hx⟩, hbefore⟩, hy⟩
      · intro h
        obtain ⟨before, y, after, hxs, hbefore, hy⟩ := h
        cases before with
        | nil =>
          obtain ⟨rfl, -⟩ := List.cons.inj hxs
          cases hx.symm.trans hy
        | cons x' before =>
          obtain ⟨rfl, rfl⟩ := List.cons.inj hxs
          exact ⟨before, y, after, rfl, (List.forall_mem_cons.mp hbefore).2, hy⟩

/-- A view that every input shares with its result. -/
theorem map_eq_map_of_mapM {γ : Type} {f : α → Except ε β} {view : α → γ} {view' : β → γ}
    (hview : ∀ x y, f x = .ok y → view' y = view x) {xs : List α} {ys : List β}
    (h : xs.mapM f = .ok ys) : ys.map view' = xs.map view := by
  induction mapM_eq_ok.mp h with
  | nil => rfl
  | cons hy _ ih => rw [List.map_cons, List.map_cons, hview _ _ hy, ih (mapM_eq_ok.mpr ‹_›)]

/-- A change of every result is one of the list of results; errors stay. -/
theorem mapM_map_results {γ : Type} (f : α → Except ε β) (g : β → γ) (xs : List α) :
    xs.mapM (fun x => (f x).map g) = (xs.mapM f).map (List.map g) := by
  induction xs with
  | nil => rfl
  | cons x rest ih =>
    rw [List.mapM_cons, List.mapM_cons, ih]
    cases f x with
    | error e => rfl
    | ok y => cases rest.mapM f <;> rfl

/-- The results come in the order of the inputs. -/
theorem mapM_perm {f : α → Except ε β} {xs xs' : List α} {ys : List β} (hxs : xs.Perm xs')
    (h : xs.mapM f = .ok ys) : ∃ ys', xs'.mapM f = .ok ys' ∧ ys.Perm ys' := by
  obtain ⟨ys', hys', hperm⟩ := List.perm_comp_forall₂ hxs.symm (mapM_eq_ok.mp h)
  exact ⟨ys', mapM_eq_ok.mpr hys', hperm.symm⟩

/-- Related inputs with the same results. -/
theorem mapM_of_forall₂ {R : α → α → Prop} {f g : α → Except ε β}
    (hstep : ∀ x x' y, R x x' → f x = .ok y → g x' = .ok y) {xs xs' : List α} {ys : List β}
    (hR : List.Forall₂ R xs xs') (h : xs.mapM f = .ok ys) : xs'.mapM g = .ok ys := by
  rw [mapM_eq_ok] at h ⊢
  induction hR generalizing ys with
  | nil =>
    obtain rfl := List.forall₂_nil_left_iff.mp h
    exact .nil
  | cons hx _ ih =>
    obtain ⟨y, ys', hy, hys, rfl⟩ := List.forall₂_cons_left_iff.mp h
    exact .cons (hstep _ _ _ hx hy) (ih hys)

/-! ## Runs -/

theorem runSteps_cons_eq_ok {step : σ → α → Except ε σ} {s s' : σ} {a : α} {rest : List α} :
    runSteps step s (a :: rest) = (s', .ok ()) ↔
      ∃ s₁, step s a = .ok s₁ ∧ runSteps step s₁ rest = (s', .ok ()) := by
  rw [runSteps]
  cases step s a <;> simp

/-- The state at which a run stops has what every step keeps. -/
theorem runSteps_keeps {P : σ → Prop} {step : σ → α → Except ε σ}
    (h : ∀ s a s', P s → step s a = .ok s' → P s') (as : List α) {s : σ} (hs : P s) :
    P (runSteps step s as).1 := by
  induction as generalizing s with
  | nil => exact hs
  | cons a rest ih =>
    unfold runSteps
    split
    · rename_i s₁ h₁
      exact ih (h s a s₁ hs h₁)
    · exact hs

end PlanTimelines
