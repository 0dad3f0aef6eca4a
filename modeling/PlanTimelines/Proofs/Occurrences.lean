import Mathlib.Data.List.Nodup

/-! First occurrences. `List.eraseDups` keeps the first of equal members; it can be
exchanged with a filter and with a function that keeps members apart. All inductions are
on the length, for behind its first member the list is filtered before it goes on. -/

namespace PlanTimelines

variable {α β : Type} [BEq α] [LawfulBEq α] [BEq β] [LawfulBEq β]

theorem nodup_eraseDups (xs : List α) : xs.eraseDups.Nodup := by
  induction hlength : xs.length using Nat.strongRecOn generalizing xs with
  | ind n ih =>
    cases xs with
    | nil => simp
    | cons x rest =>
      subst hlength
      rw [List.eraseDups_cons, List.nodup_cons]
      refine ⟨by simp [List.mem_eraseDups], ih _ ?_ _ rfl⟩
      exact Nat.lt_succ_of_le (List.length_filter_le _ _)

theorem perm_eraseDups {xs ys : List α} (h : xs.Perm ys) : xs.eraseDups.Perm ys.eraseDups := by
  rw [List.perm_ext_iff_of_nodup (nodup_eraseDups xs) (nodup_eraseDups ys)]
  intro x
  rw [List.mem_eraseDups, List.mem_eraseDups, h.mem_iff]

theorem eraseDups_filter (p : α → Bool) (xs : List α) :
    (xs.filter p).eraseDups = xs.eraseDups.filter p := by
  induction hlength : xs.length using Nat.strongRecOn generalizing xs with
  | ind n ih =>
    cases xs with
    | nil => rfl
    | cons x rest =>
      subst hlength
      have hrest := ih _ (Nat.lt_succ_of_le (List.length_filter_le _ _))
        (rest.filter fun y => !y == x) rfl
      by_cases hp : p x = true
      · rw [List.filter_cons_of_pos hp, List.eraseDups_cons, List.eraseDups_cons,
          List.filter_cons_of_pos hp, ← hrest, List.filter_comm]
      · have hsame : (rest.filter fun y => !y == x).filter p = rest.filter p := by
          rw [List.filter_filter]
          refine List.filter_congr fun y _ => ?_
          by_cases hy : y = x
          · subst hy
            simp [hp]
          · simp [hy]
        rw [List.filter_cons_of_neg hp, List.eraseDups_cons, List.filter_cons_of_neg hp, ← hrest,
          hsame]

theorem eraseDups_map {f : α → β} {xs : List α}
    (hf : ∀ x ∈ xs, ∀ y ∈ xs, f x = f y → x = y) :
    (xs.map f).eraseDups = xs.eraseDups.map f := by
  induction hlength : xs.length using Nat.strongRecOn generalizing xs with
  | ind n ih =>
    cases xs with
    | nil => rfl
    | cons x rest =>
      subst hlength
      have hsame : (rest.map f).filter (fun y => !y == f x) =
          (rest.filter fun y => !y == x).map f := by
        rw [List.filter_map]
        refine congrArg (List.map f) (List.filter_congr fun y hy => ?_)
        have hiff : f y = f x ↔ y = x :=
          ⟨hf y (List.mem_cons_of_mem x hy) x List.mem_cons_self, congrArg f⟩
        simp [hiff]
      rw [List.map_cons, List.eraseDups_cons, List.eraseDups_cons, List.map_cons, hsame]
      refine congrArg (f x :: ·) (ih _ (Nat.lt_succ_of_le (List.length_filter_le _ _)) ?_ rfl)
      intro y hy z hz
      exact hf y (List.mem_cons_of_mem x (List.mem_of_mem_filter hy)) z
        (List.mem_cons_of_mem x (List.mem_of_mem_filter hz))

end PlanTimelines
