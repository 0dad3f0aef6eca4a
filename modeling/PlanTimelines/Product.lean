/-! The combinations that take one element from each of several lists. -/

namespace PlanTimelines

/-- All combinations of one element per axis, the first axis varying slowest.
Without axes there is one combination, the empty one. -/
def product {α : Type} : List (List α) → List (List α)
  | [] => [[]]
  | axis :: axes =>
    let rest := product axes
    axis.flatMap fun a => rest.map (a :: ·)

@[simp] theorem product_nil {α : Type} : product ([] : List (List α)) = [[]] := rfl

@[simp] theorem product_cons {α : Type} (axis : List α) (axes : List (List α)) :
    product (axis :: axes) = axis.flatMap fun a => (product axes).map (a :: ·) := rfl

theorem length_eq_of_mem_product {α : Type} {axes : List (List α)} {c : List α}
    (h : c ∈ product axes) : c.length = axes.length := by
  induction axes generalizing c with
  | nil => simp_all
  | cons axis axes ih =>
    simp only [product_cons, List.mem_flatMap, List.mem_map] at h
    obtain ⟨a, -, rest, hr, rfl⟩ := h
    simp [ih hr]

end PlanTimelines
