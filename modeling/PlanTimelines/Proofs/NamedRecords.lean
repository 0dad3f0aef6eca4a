import Mathlib.Data.List.Forall2
import Mathlib.Data.List.Nodup
import Mathlib.Logic.Function.Basic
import PlanTimelines.Records

/-! Records under names, many of them changed at once. A change of the first record of
a name, made for several names one after the other, comes to one pass over the list:
`mapFirsts`. The same for last records: `mapLasts`. -/

namespace PlanTimelines

variable {α κ : Type} [DecidableEq κ]

/-! ## First records -/

/-- Changes the first record of every name; the change is told the name. -/
def mapFirsts (key : α → κ) (f : κ → α → α) : List α → List α
  | [] => []
  | x :: rest => f (key x) x :: mapFirsts key (Function.update f (key x) id) rest

theorem mapFirsts_id (key : α → κ) (xs : List α) : mapFirsts key (fun _ => id) xs = xs := by
  induction xs with
  | nil => rfl
  | cons x rest ih => simp [mapFirsts, ih]

theorem mapFirsts_congr {key : α → κ} {f g : κ → α → α} {xs : List α}
    (h : ∀ x ∈ xs, f (key x) x = g (key x) x) : mapFirsts key f xs = mapFirsts key g xs := by
  induction xs generalizing f g with
  | nil => rfl
  | cons x rest ih =>
    simp only [mapFirsts]
    rw [h x (by simp), ih]
    intro y hy
    by_cases hk : key y = key x
    · simp [hk]
    · simp [Function.update_of_ne hk, h y (by simp [hy])]

/-- Changing one more first record joins the change into the pass. -/
theorem updateFirst_mapFirsts {key : α → κ} {f : κ → α → α} (hf : ∀ k x, key (f k x) = key x)
    (name : κ) (g : α → α) (xs : List α) :
    updateFirst (fun x => key x == name) g (mapFirsts key f xs) =
      mapFirsts key (Function.update f name (g ∘ f name)) xs := by
  induction xs generalizing f with
  | nil => rfl
  | cons x rest ih =>
    by_cases hk : key x = name
    · subst hk
      simp [mapFirsts, updateFirst, hf]
    · have hf' : ∀ k y, key (Function.update f (key x) id k y) = key y := by
        intro k y
        by_cases hkx : k = key x
        · simp [hkx]
        · simp [Function.update_of_ne hkx, hf]
      simp only [mapFirsts, updateFirst, hf, beq_iff_eq, hk, if_false, ih hf',
        Function.update_of_ne hk]
      rw [Function.update_comm (Ne.symm hk), Function.update_of_ne (Ne.symm hk)]

theorem map_mapFirsts {β : Type} {key : α → κ} {f : κ → α → α} {view : α → β}
    (h : ∀ k x, view (f k x) = view x) (xs : List α) :
    (mapFirsts key f xs).map view = xs.map view := by
  induction xs generalizing f with
  | nil => rfl
  | cons x rest ih =>
    simp only [mapFirsts, List.map_cons, h, List.cons.injEq, true_and]
    apply ih
    intro k y
    by_cases hkx : k = key x
    · simp [hkx]
    · simp [Function.update_of_ne hkx, h]

theorem find?_mapFirsts {key : α → κ} {f : κ → α → α} (hf : ∀ k x, key (f k x) = key x)
    (name : κ) (xs : List α) :
    (mapFirsts key f xs).find? (fun x => key x == name) =
      (xs.find? fun x => key x == name).map (f name) := by
  induction xs generalizing f with
  | nil => rfl
  | cons x rest ih =>
    by_cases hk : key x = name
    · subst hk
      simp [mapFirsts, hf]
    · have hf' : ∀ k y, key (Function.update f (key x) id k y) = key y := by
        intro k y
        by_cases hkx : k = key x
        · simp [hkx]
        · simp [Function.update_of_ne hkx, hf]
      simp [mapFirsts, hf, hk, ih hf', Function.update_of_ne (Ne.symm hk)]

theorem mapFirsts_eq_map {key : α → κ} {f : κ → α → α} {xs : List α} (h : (xs.map key).Nodup) :
    mapFirsts key f xs = xs.map fun x => f (key x) x := by
  induction xs generalizing f with
  | nil => rfl
  | cons x rest ih =>
    simp only [List.map_cons, List.nodup_cons, List.mem_map, not_exists, not_and] at h
    simp only [mapFirsts, List.map_cons, ih h.2, List.cons.injEq, true_and]
    refine List.map_congr_left fun y hy => ?_
    rw [Function.update_of_ne (h.1 y hy)]

/-- A view that keeps the names can be taken before the pass. -/
theorem map_mapFirsts_comm {β : Type} {key : α → κ} {key' : β → κ} {f : κ → α → α}
    {f' : κ → β → β} {view : α → β} (hkey : ∀ x, key' (view x) = key x)
    (h : ∀ k x, view (f k x) = f' k (view x)) (xs : List α) :
    (mapFirsts key f xs).map view = mapFirsts key' f' (xs.map view) := by
  induction xs generalizing f f' with
  | nil => rfl
  | cons x rest ih =>
    simp only [mapFirsts, List.map_cons, h, hkey, List.cons.injEq, true_and]
    refine ih fun k y => ?_
    by_cases hkx : k = key x
    · simp [hkx]
    · simp [Function.update_of_ne hkx, h]

/-- A record is changed under its own name unless one before it has the name too. -/
theorem getElem?_mapFirsts {key : α → κ} {f : κ → α → α} (xs : List α) (i : Nat) :
    (mapFirsts key f xs)[i]? = xs[i]?.map fun x =>
      if key x ∈ (xs.take i).map key then x else f (key x) x := by
  induction xs generalizing f i with
  | nil => rfl
  | cons x rest ih =>
    cases i with
    | zero => simp [mapFirsts]
    | succ i =>
      rw [mapFirsts, List.getElem?_cons_succ, List.getElem?_cons_succ, ih]
      refine Option.map_congr fun y _ => ?_
      by_cases hk : key y = key x <;> simp [hk]

theorem length_mapFirsts {key : α → κ} {f : κ → α → α} (xs : List α) :
    (mapFirsts key f xs).length = xs.length := by
  induction xs generalizing f with
  | nil => rfl
  | cons x rest ih => simp [mapFirsts, ih]

/-- A record is changed under its own name or stays as it is. -/
theorem mem_mapFirsts {key : α → κ} {f : κ → α → α} {xs : List α} {y : α}
    (h : y ∈ mapFirsts key f xs) : ∃ x ∈ xs, y = f (key x) x ∨ y = x := by
  induction xs generalizing f with
  | nil => cases h
  | cons x rest ih =>
    rcases List.mem_cons.mp h with rfl | h
    · exact ⟨x, List.mem_cons_self, .inl rfl⟩
    · obtain ⟨x', hx', hy⟩ := ih h
      refine ⟨x', List.mem_cons_of_mem x hx', ?_⟩
      by_cases hk : key x' = key x
      · rw [hk, Function.update_self] at hy
        exact .inr (hy.elim id id)
      · rwa [Function.update_of_ne hk] at hy

/-- If a change to every name leaves no record as it was, no name occurs twice. -/
theorem nodup_of_mapFirsts {key : α → κ} {f : κ → α → α} {P : α → Prop} {xs : List α}
    (hxs : ∀ x ∈ xs, ¬P x) (h : ∀ y ∈ mapFirsts key f xs, P y) : (xs.map key).Nodup := by
  induction xs generalizing f with
  | nil => simp
  | cons x rest ih =>
    simp only [List.mem_cons, forall_eq_or_imp, mapFirsts] at hxs h
    have hrest := ih hxs.2 h.2
    refine List.nodup_cons.mpr ⟨fun hx => ?_, hrest⟩
    obtain ⟨z, hz, hkey⟩ := List.mem_map.mp hx
    have hmem : z ∈ mapFirsts key (Function.update f (key x) id) rest := by
      rw [mapFirsts_eq_map hrest]
      exact List.mem_map.mpr ⟨z, hz, by rw [hkey, Function.update_self]; rfl⟩
    exact hxs.2 z hz (h.2 z hmem)

theorem forall₂_mapFirsts {key : α → κ} {f g : κ → α → α} {R : α → α → Prop}
    (hR : ∀ x, R x x) (h : ∀ k x, R (f k x) (g k x)) (xs : List α) :
    List.Forall₂ R (mapFirsts key f xs) (mapFirsts key g xs) := by
  induction xs generalizing f g with
  | nil => exact .nil
  | cons x rest ih =>
    refine .cons (h _ x) (ih fun k y => ?_)
    by_cases hkx : k = key x
    · simpa [hkx] using hR y
    · simpa [Function.update_of_ne hkx] using h k y

/-! ## Last records -/

/-- Changes the last record of every name. -/
def mapLasts (key : α → κ) (f : κ → α → α) (xs : List α) : List α :=
  (mapFirsts key f xs.reverse).reverse

theorem mapLasts_id (key : α → κ) (xs : List α) : mapLasts key (fun _ => id) xs = xs := by
  simp [mapLasts, mapFirsts_id]

theorem updateLast_mapLasts {key : α → κ} {f : κ → α → α} (hf : ∀ k x, key (f k x) = key x)
    (name : κ) (g : α → α) (xs : List α) :
    updateLast (fun x => key x == name) g (mapLasts key f xs) =
      mapLasts key (Function.update f name (g ∘ f name)) xs := by
  simp [mapLasts, updateLast, updateFirst_mapFirsts hf]

theorem mapLasts_congr {key : α → κ} {f g : κ → α → α} {xs : List α}
    (h : ∀ x ∈ xs, f (key x) x = g (key x) x) : mapLasts key f xs = mapLasts key g xs := by
  unfold mapLasts
  rw [mapFirsts_congr]
  simpa using h

theorem map_mapLasts {β : Type} {key : α → κ} {f : κ → α → α} {view : α → β}
    (h : ∀ k x, view (f k x) = view x) (xs : List α) :
    (mapLasts key f xs).map view = xs.map view := by
  simp [mapLasts, map_mapFirsts h]

theorem map_mapLasts_comm {β : Type} {key : α → κ} {key' : β → κ} {f : κ → α → α}
    {f' : κ → β → β} {view : α → β} (hkey : ∀ x, key' (view x) = key x)
    (h : ∀ k x, view (f k x) = f' k (view x)) (xs : List α) :
    (mapLasts key f xs).map view = mapLasts key' f' (xs.map view) := by
  simp [mapLasts, map_mapFirsts_comm hkey h]

theorem findLast?_mapLasts {key : α → κ} {f : κ → α → α} (hf : ∀ k x, key (f k x) = key x)
    (name : κ) (xs : List α) :
    findLast? (fun x => key x == name) (mapLasts key f xs) =
      (findLast? (fun x => key x == name) xs).map (f name) := by
  simp [findLast?, mapLasts, find?_mapFirsts hf]

theorem mapLasts_eq_map {key : α → κ} {f : κ → α → α} {xs : List α} (h : (xs.map key).Nodup) :
    mapLasts key f xs = xs.map fun x => f (key x) x := by
  unfold mapLasts
  rw [mapFirsts_eq_map (by rw [List.map_reverse]; exact List.nodup_reverse.mpr h),
    List.map_reverse, List.reverse_reverse]

/-- A record is changed under its own name unless one after it has the name too. -/
theorem getElem?_mapLasts {key : α → κ} {f : κ → α → α} (xs : List α) (i : Nat) :
    (mapLasts key f xs)[i]? = xs[i]?.map fun x =>
      if key x ∈ (xs.drop (i + 1)).map key then x else f (key x) x := by
  unfold mapLasts
  by_cases hi : i < xs.length
  · have hlength : (mapFirsts key f xs.reverse).length = xs.length := by
      rw [length_mapFirsts, List.length_reverse]
    have hposition : xs.length - 1 - (xs.length - 1 - i) = i := by omega
    have hafter : xs.length - (xs.length - 1 - i) = i + 1 := by omega
    rw [List.getElem?_reverse (by omega), getElem?_mapFirsts, hlength,
      List.getElem?_reverse (by omega), List.take_reverse, hposition, hafter]
    simp only [List.map_reverse, List.mem_reverse]
  · have hnone : xs[i]? = none := List.getElem?_eq_none (by omega)
    rw [hnone, List.getElem?_eq_none (by simp [length_mapFirsts]; omega)]
    rfl

theorem mem_mapLasts {key : α → κ} {f : κ → α → α} {xs : List α} {y : α}
    (h : y ∈ mapLasts key f xs) : ∃ x ∈ xs, y = f (key x) x ∨ y = x := by
  obtain ⟨x, hx, hy⟩ := mem_mapFirsts (List.mem_reverse.mp h)
  exact ⟨x, List.mem_reverse.mp hx, hy⟩

theorem nodup_of_mapLasts {key : α → κ} {f : κ → α → α} {P : α → Prop} {xs : List α}
    (hxs : ∀ x ∈ xs, ¬P x) (h : ∀ y ∈ mapLasts key f xs, P y) : (xs.map key).Nodup := by
  have hreverse : (xs.reverse.map key).Nodup :=
    nodup_of_mapFirsts (P := P) (by simpa using hxs) (by simpa [mapLasts] using h)
  simpa [List.map_reverse, List.nodup_reverse] using hreverse

theorem forall₂_mapLasts {key : α → κ} {f g : κ → α → α} {R : α → α → Prop}
    (hR : ∀ x, R x x) (h : ∀ k x, R (f k x) (g k x)) (xs : List α) :
    List.Forall₂ R (mapLasts key f xs) (mapLasts key g xs) :=
  List.rel_reverse (forall₂_mapFirsts hR h xs.reverse)

/-! ## One record -/

theorem updateFirst_updateFirst {p : α → Bool} {f g : α → α} (hf : ∀ x, p (f x) = p x)
    (xs : List α) : updateFirst p g (updateFirst p f xs) = updateFirst p (g ∘ f) xs := by
  induction xs with
  | nil => rfl
  | cons x rest ih => by_cases hp : p x = true <;> simp [updateFirst, hp, hf, ih]

theorem updateLast_updateLast {p : α → Bool} {f g : α → α} (hf : ∀ x, p (f x) = p x)
    (xs : List α) : updateLast p g (updateLast p f xs) = updateLast p (g ∘ f) xs := by
  simp [updateLast, updateFirst_updateFirst hf]

/-- A change that keeps what it would change keeps the list. -/
theorem updateFirst_eq_self {p : α → Bool} {f : α → α} {xs : List α}
    (h : ∀ x, xs.find? p = some x → f x = x) : updateFirst p f xs = xs := by
  induction xs with
  | nil => rfl
  | cons x rest ih =>
    by_cases hp : p x = true
    · simp [updateFirst, hp, h x (by simp [hp])]
    · simp only [updateFirst, hp, Bool.false_eq_true, if_false, List.cons.injEq, true_and]
      exact ih fun y hy => h y (by simp [hp, hy])

theorem updateLast_eq_self {p : α → Bool} {f : α → α} {xs : List α}
    (h : ∀ x, findLast? p xs = some x → f x = x) : updateLast p f xs = xs := by
  rw [updateLast, updateFirst_eq_self h, List.reverse_reverse]

theorem updateFirst_append_cons {p : α → Bool} {f : α → α} {before after : List α} {x : α}
    (hbefore : ∀ y ∈ before, p y = false) (hx : p x = true) :
    updateFirst p f (before ++ x :: after) = before ++ f x :: after := by
  induction before with
  | nil => simp [updateFirst, hx]
  | cons y rest ih =>
    obtain ⟨hy, hrest⟩ := List.forall_mem_cons.mp hbefore
    simp [updateFirst, hy, ih hrest]

theorem updateLast_append_cons {p : α → Bool} {f : α → α} {before after : List α} {x : α}
    (hx : p x = true) (hafter : ∀ y ∈ after, p y = false) :
    updateLast p f (before ++ x :: after) = before ++ f x :: after := by
  rw [updateLast, List.reverse_append, List.reverse_cons, List.append_assoc, List.singleton_append,
    updateFirst_append_cons (by simpa using hafter) hx]
  simp

theorem mem_updateFirst {p : α → Bool} {f : α → α} {xs : List α} {y : α}
    (h : y ∈ updateFirst p f xs) : y ∈ xs ∨ ∃ x, xs.find? p = some x ∧ y = f x := by
  induction xs with
  | nil => cases h
  | cons x rest ih =>
    by_cases hp : p x = true
    · simp only [updateFirst, hp, if_true, List.mem_cons] at h
      rcases h with rfl | h
      · exact .inr ⟨x, by simp [hp], rfl⟩
      · exact .inl (List.mem_cons_of_mem x h)
    · simp only [updateFirst, hp, Bool.false_eq_true, if_false, List.mem_cons] at h
      rcases h with rfl | h
      · exact .inl List.mem_cons_self
      · rcases ih h with h | ⟨x', hx', rfl⟩
        · exact .inl (List.mem_cons_of_mem x h)
        · exact .inr ⟨x', by simp [hp, hx'], rfl⟩

theorem mem_updateLast {p : α → Bool} {f : α → α} {xs : List α} {y : α}
    (h : y ∈ updateLast p f xs) : y ∈ xs ∨ ∃ x, findLast? p xs = some x ∧ y = f x := by
  rcases mem_updateFirst (List.mem_reverse.mp h) with h | h
  · exact .inl (List.mem_reverse.mp h)
  · exact .inr h

/-- A record under another name is not changed. -/
theorem find?_updateFirst_of_ne {key : α → κ} {f : α → α} (hf : ∀ x, key (f x) = key x)
    {name other : κ} (h : other ≠ name) (xs : List α) :
    (updateFirst (fun x => key x == name) f xs).find? (fun x => key x == other) =
      xs.find? fun x => key x == other := by
  induction xs with
  | nil => rfl
  | cons x rest ih =>
    by_cases hx : key x = name
    · simp [updateFirst, hx, hf, Ne.symm h]
    · simp [updateFirst, hx, ih, List.find?_cons]

theorem findLast?_updateLast_of_ne {key : α → κ} {f : α → α} (hf : ∀ x, key (f x) = key x)
    {name other : κ} (h : other ≠ name) (xs : List α) :
    findLast? (fun x => key x == other) (updateLast (fun x => key x == name) f xs) =
      findLast? (fun x => key x == other) xs := by
  simp [findLast?, updateLast, find?_updateFirst_of_ne hf h]

/-! ## Looking records up -/

theorem mem_of_findLast? {p : α → Bool} {xs : List α} {x : α} (h : findLast? p xs = some x) :
    x ∈ xs ∧ p x = true :=
  ⟨List.mem_reverse.mp (List.mem_of_find?_eq_some h), List.find?_some h⟩

theorem findLast?_eq_some_iff_append {p : α → Bool} {xs : List α} {x : α} :
    findLast? p xs = some x ↔ p x = true ∧
      ∃ before after, xs = before ++ x :: after ∧ ∀ y ∈ after, p y = false := by
  rw [findLast?, List.find?_eq_some_iff_append]
  refine and_congr_right fun _ => ⟨fun h => ?_, fun h => ?_⟩
  · obtain ⟨after, before, hxs, hafter⟩ := h
    refine ⟨before.reverse, after.reverse, ?_, by simpa using hafter⟩
    simpa using congrArg List.reverse hxs
  · obtain ⟨before, after, rfl, hafter⟩ := h
    exact ⟨after.reverse, before.reverse, by simp, by simpa using hafter⟩

theorem findLast?_map {β : Type} (f : α → β) (p : β → Bool) (xs : List α) :
    findLast? p (xs.map f) = (findLast? (fun x => p (f x)) xs).map f := by
  rw [findLast?, ← List.map_reverse, List.find?_map]
  rfl

theorem findLast?_eq_none {p : α → Bool} {xs : List α} :
    findLast? p xs = none ↔ ∀ x ∈ xs, p x = false := by
  simp [findLast?]

theorem findLast?_concat (p : α → Bool) (xs : List α) (x : α) :
    findLast? p (xs ++ [x]) = if p x then some x else findLast? p xs := by
  by_cases hx : p x = true <;> simp [findLast?, hx]

theorem findLast?_flatMap {β : Type} {p : β → Bool} {f : α → List β} {xs : List α} :
    findLast? p (xs.flatMap f) = xs.reverse.findSome? fun x => findLast? p (f x) := by
  rw [findLast?, List.reverse_flatMap, List.find?_flatMap]
  rfl

/-- Of the lists that are joined, the last one with a find decides. -/
theorem findLast?_flatMap_eq_some {β : Type} {p : β → Bool} {f : α → List β} {xs : List α} {y : β} :
    findLast? p (xs.flatMap f) = some y ↔ ∃ before x after, xs = before ++ x :: after ∧
      findLast? p (f x) = some y ∧ ∀ z ∈ after, findLast? p (f z) = none := by
  rw [findLast?_flatMap, List.findSome?_eq_some_iff]
  constructor
  · intro h
    obtain ⟨after, x, before, hxs, hx, hafter⟩ := h
    refine ⟨before.reverse, x, after.reverse, ?_, hx, by simpa using hafter⟩
    simpa using congrArg List.reverse hxs
  · intro h
    obtain ⟨before, x, after, rfl, hx, hafter⟩ := h
    exact ⟨after.reverse, x, before.reverse, by simp, hx, by simpa using hafter⟩

theorem findLast?_isSome {key : α → κ} {xs : List α} {name : κ} :
    (findLast? (fun x => key x == name) xs).isSome ↔ name ∈ xs.map key := by
  rw [findLast?, List.find?_isSome]
  simp

/-- With distinct names every record is found under its own. -/
theorem find?_of_nodup {key : α → κ} {xs : List α} (h : (xs.map key).Nodup) {x : α}
    (hx : x ∈ xs) : xs.find? (fun y => key y == key x) = some x := by
  induction xs with
  | nil => cases hx
  | cons y rest ih =>
    simp only [List.map_cons, List.nodup_cons, List.mem_map, not_exists, not_and] at h
    rcases List.mem_cons.mp hx with rfl | hx
    · simp
    · simp [Ne.symm (h.1 x hx), ih h.2 hx]

theorem findLast?_of_nodup {key : α → κ} {xs : List α} (h : (xs.map key).Nodup) {x : α}
    (hx : x ∈ xs) : findLast? (fun y => key y == key x) xs = some x := by
  refine find?_of_nodup ?_ (List.mem_reverse.mpr hx)
  rw [List.map_reverse]
  exact List.nodup_reverse.mpr h

end PlanTimelines
