import Mathlib.Tactic.Choose
import PlanTimelines.Proofs.Results
import PlanTimelines.Transition

/-! Slots that are filled once. The analysis of an action reads its conditions and
effects one by one and writes what it finds into slots; a slot that is written again
must be given the same value. What a slot holds at the end does not depend on the
order of the writes: it is the one value that all of them agree on. -/

namespace PlanTimelines

/-! ## One slot -/

section Common

variable {α : Type}

/-- The slot holds the value that all members of the list have in common, and
nothing if the list has no members. -/
def Common (slot : Option α) (values : List α) : Prop :=
  ∀ x, x ∈ values ↔ slot = some x

theorem common_toList {slot slot' : Option α} : Common slot' slot.toList ↔ slot' = slot := by
  constructor
  · intro h
    cases slot with
    | none =>
      cases slot' with
      | none => rfl
      | some v => simpa using (h v).mpr rfl
    | some v => exact (h v).mp (by simp)
  · rintro rfl x
    simp

theorem Common.eq_some {slot : Option α} {values : List α} {x : α} (h : Common slot values)
    (hx : x ∈ values) : slot = some x :=
  (h x).mp hx

theorem common_none {values : List α} : Common none values ↔ values = [] := by
  simp [Common, List.eq_nil_iff_forall_not_mem]

theorem common_some {values : List α} {v : α} :
    Common (some v) values ↔ values ≠ [] ∧ ∀ x ∈ values, x = v := by
  constructor
  · intro h
    refine ⟨List.ne_nil_of_mem ((h v).mpr rfl), fun x hx => ?_⟩
    exact (Option.some.inj (h.eq_some hx)).symm
  · intro h x
    obtain ⟨hne, h⟩ := h
    constructor
    · intro hx
      rw [h x hx]
    · intro h
      cases h
      obtain ⟨y, hy⟩ := List.exists_mem_of_ne_nil values hne
      exact h y hy ▸ hy

theorem common_flatMap {β : Type} {xs : List β} {f : β → List α} {v : α} (hne : xs ≠ [])
    (h : ∀ x ∈ xs, f x = [v]) : Common (some v) (xs.flatMap f) := by
  obtain ⟨x₀, hx₀⟩ := List.exists_mem_of_ne_nil xs hne
  refine common_some.mpr ⟨?_, fun y hy => ?_⟩
  · exact List.ne_nil_of_mem (a := v) (List.mem_flatMap.mpr ⟨x₀, hx₀, by simp [h x₀ hx₀]⟩)
  · obtain ⟨x, hx, hy⟩ := List.mem_flatMap.mp hy
    simpa [h x hx] using hy

/-- A slot that is written in two goes: the first leaves a value that the second
has to agree with. -/
theorem common_append {slot : Option α} {xs ys : List α} :
    Common slot (xs ++ ys) ↔ ∃ mid, Common mid xs ∧ Common slot (mid.toList ++ ys) := by
  constructor
  · intro h
    cases xs with
    | nil => exact ⟨none, common_none.mpr rfl, h⟩
    | cons x rest =>
      have hx : slot = some x := h.eq_some (by simp)
      have hall : ∀ y ∈ x :: rest, y = x := by
        intro y hy
        have hy' := h.eq_some (List.mem_append_left ys hy)
        exact Option.some.inj (hy'.symm.trans hx)
      refine ⟨some x, common_some.mpr ⟨by simp, hall⟩, fun y => ?_⟩
      rw [← h y]
      constructor
      · intro hy
        rcases List.mem_append.mp hy with hy | hy
        · rw [Option.mem_toList] at hy
          simp [Option.some.inj hy]
        · exact List.mem_append_right _ hy
      · intro hy
        rcases List.mem_append.mp hy with hy | hy
        · simp [hall y hy]
        · exact List.mem_append_right _ hy
  · intro h x
    obtain ⟨mid, hmid, h⟩ := h
    rw [← h x, List.mem_append, hmid x, List.mem_append, Option.mem_toList]

end Common

theorem fixOnce_eq_ok {α : Type} [DecidableEq α] {slot slot' : Option α} {value : α}
    {conflict : α → α → ShapeViolation} :
    fixOnce slot value conflict = .ok slot' ↔ Common slot' (slot.toList ++ [value]) := by
  cases slot with
  | none =>
    simp only [fixOnce, Except.ok.injEq, Option.toList_none, List.nil_append]
    exact ⟨fun h => h ▸ common_some.mpr (by simp), fun h => (h.eq_some (by simp)).symm⟩
  | some first =>
    simp only [fixOnce]
    constructor
    · intro h
      split at h
      · rename_i heq
        obtain rfl := Except.ok.inj h
        exact common_some.mpr (by simp [heq])
      · cases h
    · intro h
      have hfirst := h.eq_some (x := first) (by simp)
      have hvalue := h.eq_some (x := value) (by simp)
      rw [if_pos (Option.some.inj (hfirst.symm.trans hvalue)), hfirst]

/-! ## Many slots -/

/-- A state made of slots: they determine it, and they can be filled at will. -/
structure Slotted {σ Slot : Type} {Value : Slot → Type}
    (get : σ → (k : Slot) → Option (Value k)) : Prop where
  ext : ∀ s s', (∀ k, get s k = get s' k) → s = s'
  fill : ∀ f : (k : Slot) → Option (Value k), ∃ s, ∀ k, get s k = f k

/-- A run of steps that each write into slots: it succeeds exactly if every step is
allowed by itself and all writes to a slot agree. -/
theorem Slotted.foldlM_eq_ok {σ α ε Slot : Type} {Value : Slot → Type}
    {get : σ → (k : Slot) → Option (Value k)} (slotted : Slotted get)
    {step : σ → α → Except ε σ} {allowed : α → Prop} {writes : α → (k : Slot) → List (Value k)}
    (hstep : ∀ s a s', step s a = .ok s' ↔
      allowed a ∧ ∀ k, Common (get s' k) ((get s k).toList ++ writes a k))
    (as : List α) (s s' : σ) :
    as.foldlM step s = .ok s' ↔ (∀ a ∈ as, allowed a) ∧
      ∀ k, Common (get s' k) ((get s k).toList ++ as.flatMap (writes · k)) := by
  induction as generalizing s with
  | nil =>
    simp only [List.foldlM_nil, pure_eq_ok, List.flatMap_nil, List.append_nil, common_toList]
    constructor
    · intro h
      subst h
      exact ⟨by simp, fun _ => rfl⟩
    · intro h
      exact slotted.ext s s' fun k => (h.2 k).symm
  | cons a as ih =>
    have split : ∀ k, Common (get s' k) ((get s k).toList ++ (a :: as).flatMap (writes · k)) ↔
        ∃ mid, Common mid ((get s k).toList ++ writes a k) ∧
          Common (get s' k) (mid.toList ++ as.flatMap (writes · k)) := by
      intro k
      rw [List.flatMap_cons, ← List.append_assoc, common_append]
    simp only [List.foldlM_cons, bind_eq_ok, hstep, ih, List.forall_mem_cons, split]
    constructor
    · intro h
      obtain ⟨s₁, ⟨ha, h₁⟩, has, h₂⟩ := h
      exact ⟨⟨ha, has⟩, fun k => ⟨get s₁ k, h₁ k, h₂ k⟩⟩
    · intro h
      obtain ⟨⟨ha, has⟩, h⟩ := h
      choose f h₁ h₂ using h
      obtain ⟨s₁, hs₁⟩ := slotted.fill f
      refine ⟨s₁, ⟨ha, fun k => ?_⟩, has, fun k => ?_⟩
      · rw [hs₁ k]
        exact h₁ k
      · rw [hs₁ k]
        exact h₂ k

end PlanTimelines
