/-! Lists of records that are looked up by a test on their names. -/

namespace PlanTimelines

variable {α : Type}

/-- The last element that passes the test. -/
def findLast? (p : α → Bool) (xs : List α) : Option α :=
  xs.reverse.find? p

/-- Changes the first element that passes the test. -/
def updateFirst (p : α → Bool) (f : α → α) : List α → List α
  | [] => []
  | x :: rest => if p x then f x :: rest else x :: updateFirst p f rest

/-- Changes the last element that passes the test. -/
def updateLast (p : α → Bool) (f : α → α) (xs : List α) : List α :=
  (updateFirst p f xs.reverse).reverse

@[simp] theorem length_updateFirst (p : α → Bool) (f : α → α) (xs : List α) :
    (updateFirst p f xs).length = xs.length := by
  induction xs with
  | nil => rfl
  | cons x rest ih => by_cases h : p x = true <;> simp [updateFirst, h, ih]

@[simp] theorem length_updateLast (p : α → Bool) (f : α → α) (xs : List α) :
    (updateLast p f xs).length = xs.length := by
  simp [updateLast]

/-- A view that the change keeps is kept for the whole list. -/
theorem map_updateFirst {β : Type} (p : α → Bool) (f : α → α) (g : α → β)
    (h : ∀ x, g (f x) = g x) (xs : List α) : (updateFirst p f xs).map g = xs.map g := by
  induction xs with
  | nil => rfl
  | cons x rest ih => by_cases hp : p x = true <;> simp [updateFirst, hp, h, ih]

theorem map_updateLast {β : Type} (p : α → Bool) (f : α → α) (g : α → β)
    (h : ∀ x, g (f x) = g x) (xs : List α) : (updateLast p f xs).map g = xs.map g := by
  simp [updateLast, map_updateFirst p f g h]

/-- The changed element is found in place of the old one. -/
theorem find?_updateFirst (p : α → Bool) (f : α → α) (h : ∀ x, p (f x) = p x)
    (xs : List α) : (updateFirst p f xs).find? p = (xs.find? p).map f := by
  induction xs with
  | nil => rfl
  | cons x rest ih => by_cases hp : p x = true <;> simp [updateFirst, hp, h, ih]

theorem findLast?_updateLast (p : α → Bool) (f : α → α) (h : ∀ x, p (f x) = p x)
    (xs : List α) : findLast? p (updateLast p f xs) = (findLast? p xs).map f := by
  simp [findLast?, updateLast, find?_updateFirst p f h]

/-- A change that keeps every element keeps the list. -/
theorem map_eq_self {f : α → α} {xs : List α} (h : ∀ x ∈ xs, f x = x) : xs.map f = xs :=
  (List.map_congr_left h).trans (List.map_id xs)

theorem map_eq_self_iff {f : α → α} {xs : List α} : xs.map f = xs ↔ ∀ x ∈ xs, f x = x := by
  refine ⟨fun h => ?_, map_eq_self⟩
  rw [← List.map_id xs, List.map_map] at h
  exact List.map_inj_left.mp h

end PlanTimelines
