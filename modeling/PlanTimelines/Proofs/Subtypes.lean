import Mathlib.Data.Finset.Card
import Mathlib.Data.Nat.Find
import Mathlib.Logic.Relation
import PlanTimelines.Example.Declarations
import PlanTimelines.Proofs.Instances

/-! Subtypes. A type descends from another if parent links lead there, however many. The
bounded walk finds every such ancestor, also where links run in circles: a shortest walk
meets no type twice, and each type that it leaves is declared. The domain of a subtype is
part of the domain of the type. -/

namespace PlanTimelines

namespace Problem

/-- The type is `ancestor`, or leads to it by parent links. -/
def Descends (p : Problem) (typeName ancestor : String) : Prop :=
  Relation.ReflTransGen (fun t parent => p.parent? t = some parent) typeName ancestor

/-- The type that is met after a number of parent links. -/
def ancestor? (p : Problem) : Nat → String → Option String
  | 0, t => some t
  | n + 1, t => (p.parent? t).bind (p.ancestor? n)

variable (p : Problem)

theorem ancestor?_add (m n : Nat) (t : String) :
    p.ancestor? (m + n) t = (p.ancestor? m t).bind (p.ancestor? n) := by
  induction m generalizing t with
  | zero => simp [ancestor?]
  | succ m ih =>
    rw [Nat.add_right_comm]
    simp only [ancestor?, Option.bind_assoc, ih]

variable {p} {t a : String}

theorem descends_iff_ancestor? : p.Descends t a ↔ ∃ n, p.ancestor? n t = some a := by
  constructor
  · intro h
    induction h with
    | refl => exact ⟨0, rfl⟩
    | @tail b c _ hparent ih =>
      obtain ⟨n, hn⟩ := ih
      refine ⟨n + 1, (p.ancestor?_add n 1 t).trans ?_⟩
      simp [hn, ancestor?, hparent]
  · intro h
    obtain ⟨n, hn⟩ := h
    induction n generalizing t with
    | zero =>
      obtain rfl := Option.some.inj hn
      exact .refl
    | succ n ih =>
      obtain ⟨parent, hparent, hn⟩ := Option.bind_eq_some_iff.mp hn
      exact .head hparent (ih hn)

theorem reachesWithin_iff {steps : Nat} :
    p.reachesWithin a steps t = true ↔ ∃ n ≤ steps, p.ancestor? n t = some a := by
  induction steps generalizing t with
  | zero => simp [reachesWithin, ancestor?]
  | succ steps ih =>
    have hstep : p.reachesWithin a (steps + 1) t = true ↔
        t = a ∨ ∃ n ≤ steps, p.ancestor? (n + 1) t = some a := by
      cases hparent : p.parent? t with
      | none => simp [reachesWithin, ancestor?, hparent]
      | some parent => simp [reachesWithin, ancestor?, hparent, ih]
    rw [hstep]
    constructor
    · intro h
      rcases h with rfl | ⟨n, hn, ha⟩
      · exact ⟨0, Nat.zero_le _, rfl⟩
      · exact ⟨n + 1, Nat.succ_le_succ hn, ha⟩
    · intro h
      obtain ⟨n, hn, ha⟩ := h
      cases n with
      | zero => exact .inl (Option.some.inj ha)
      | succ n => exact .inr ⟨n, Nat.le_of_succ_le_succ hn, ha⟩

/-- Only declared types have parents. -/
theorem mem_of_parent? {parent : String} (h : p.parent? t = some parent) :
    t ∈ p.userTypes.map UserType.name := by
  obtain ⟨decl, hdecl, -⟩ := Option.bind_eq_some_iff.mp h
  exact List.mem_map.mpr ⟨decl, List.mem_of_find?_eq_some hdecl, by
    simpa using List.find?_some hdecl⟩

/-- A type that is left on the way to an ancestor is declared. -/
theorem declared_of_lt {n i : Nat} (hn : p.ancestor? n t = some a) (hi : i < n) :
    ∃ u ∈ p.userTypes.map UserType.name, p.ancestor? i t = some u := by
  obtain ⟨k, rfl⟩ := Nat.exists_eq_add_of_lt hi
  rw [Nat.add_assoc, ancestor?_add] at hn
  obtain ⟨u, hu, hk⟩ := Option.bind_eq_some_iff.mp hn
  obtain ⟨parent, hparent, -⟩ := Option.bind_eq_some_iff.mp hk
  exact ⟨u, mem_of_parent? hparent, hu⟩

/-- A walk that meets a type twice can be cut short. -/
theorem exists_shorter {n i j : Nat} (hn : p.ancestor? n t = some a) (hij : i < j) (hj : j < n)
    (hsame : p.ancestor? i t = p.ancestor? j t) : ∃ m < n, p.ancestor? m t = some a := by
  refine ⟨i + (n - j), by omega, ?_⟩
  rw [ancestor?_add, hsame, ← ancestor?_add, Nat.add_sub_cancel' hj.le, hn]

/-- As many parent links as there are declarations lead to every ancestor. -/
theorem exists_ancestor?_le (h : ∃ n, p.ancestor? n t = some a) :
    ∃ n ≤ p.userTypes.length, p.ancestor? n t = some a := by
  refine ⟨Nat.find h, ?_, Nat.find_spec h⟩
  by_contra hlong
  have hcard : (p.userTypes.map UserType.name).toFinset.card <
      (Finset.range (Nat.find h)).card := by
    have hle := List.toFinset_card_le (p.userTypes.map UserType.name)
    rw [List.length_map] at hle
    rw [Finset.card_range]
    omega
  have hdeclared : ∀ i ∈ Finset.range (Nat.find h),
      (p.ancestor? i t).getD t ∈ (p.userTypes.map UserType.name).toFinset := by
    intro i hi
    obtain ⟨u, hu, hi⟩ := declared_of_lt (Nat.find_spec h) (Finset.mem_range.mp hi)
    simpa [hi] using hu
  -- more types are left than there are declarations, so one is left twice
  obtain ⟨i, hi, j, hj, hne, heq⟩ :=
    Finset.exists_ne_map_eq_of_card_lt_of_maps_to hcard hdeclared
  have hsame : p.ancestor? i t = p.ancestor? j t := by
    obtain ⟨u, -, hu⟩ := declared_of_lt (Nat.find_spec h) (Finset.mem_range.mp hi)
    obtain ⟨w, -, hw⟩ := declared_of_lt (Nat.find_spec h) (Finset.mem_range.mp hj)
    rw [hu, hw] at heq ⊢
    exact congrArg some heq
  obtain ⟨m, hm, hma⟩ : ∃ m < Nat.find h, p.ancestor? m t = some a := by
    rcases Nat.lt_or_gt_of_ne hne with hij | hij
    · exact exists_shorter (Nat.find_spec h) hij (Finset.mem_range.mp hj) hsame
    · exact exists_shorter (Nat.find_spec h) hij (Finset.mem_range.mp hi) hsame.symm
  exact Nat.find_min h hm hma

theorem isSubtype_eq_true : p.isSubtype t a = true ↔ p.Descends t a := by
  unfold isSubtype
  rw [reachesWithin_iff, descends_iff_ancestor?]
  constructor
  · intro h
    obtain ⟨n, -, hn⟩ := h
    exact ⟨n, hn⟩
  · exact exists_ancestor?_le

/-- Longer walks find nothing more. -/
theorem reachesWithin_eq_isSubtype {steps : Nat} (h : p.userTypes.length ≤ steps) :
    p.reachesWithin a steps t = p.isSubtype t a := by
  rw [Bool.eq_iff_iff, isSubtype_eq_true, reachesWithin_iff, descends_iff_ancestor?]
  refine ⟨fun ⟨n, _, hn⟩ => ⟨n, hn⟩, fun hreaches => ?_⟩
  obtain ⟨n, hle, hn⟩ := exists_ancestor?_le hreaches
  exact ⟨n, hle.trans h, hn⟩

/-! ## Domains of subtypes -/

/-- The objects of a subtype are objects of the type, in the same order. -/
theorem objectsOf_sublist (h : p.Descends t a) : (p.objectsOf t).Sublist (p.objectsOf a) := by
  refine List.Sublist.map _ (List.monotone_filter_right _ fun o ho => ?_)
  rw [isSubtype_eq_true] at ho ⊢
  exact ho.trans h

/-- Under any other name than that of the truth values, a domain is that of the type of the
name. -/
theorem objectsOf_of_get?_domains {axis : List String} (h : p.domains.get? t = some axis)
    (hbool : t ≠ "bool") : axis = p.objectsOf t := by
  obtain ⟨before, after, hrows, -⟩ := List.lookup_eq_some_iff.mp h
  have hmem : (t, axis) ∈ p.domains.rows := by
    rw [hrows]
    simp
  rcases List.mem_cons.mp hmem with heq | hmem
  · exact absurd (Prod.mk.inj heq).1 hbool
  · obtain ⟨decl, -, heq⟩ := List.mem_map.mp hmem
    obtain ⟨rfl, rfl⟩ := Prod.mk.inj heq
    rfl

/-- The domain of a declared type. -/
theorem get?_domains_of_mem {decl : UserType} (h : decl ∈ p.userTypes)
    (hbool : decl.name ≠ "bool") : p.domains.get? decl.name = some (p.objectsOf decl.name) := by
  have hsome : (p.domains.get? decl.name).isSome := by
    rw [DomainTable.get?, List.lookup_isSome_iff]
    exact ⟨_, List.mem_cons_of_mem _ (List.mem_map_of_mem h), beq_self_eq_true _⟩
  obtain ⟨axis, haxis⟩ := Option.isSome_iff_exists.mp hsome
  rw [haxis, objectsOf_of_get?_domains haxis hbool]

/-! ## Types in a circle -/

/-- The types are on one circle of parent links: from each of them links lead to the other. -/
def OnCircle (p : Problem) (s t : String) : Prop :=
  Relation.TransGen (fun u parent => p.parent? u = some parent) s t ∧
    Relation.TransGen (fun u parent => p.parent? u = some parent) t s

theorem objectsOf_eq_of_onCircle {s : String} (h : p.OnCircle s t) :
    p.objectsOf s = p.objectsOf t :=
  (objectsOf_sublist h.1.to_reflTransGen).antisymm (objectsOf_sublist h.2.to_reflTransGen)

/-- A type is a subtype of exactly what parent links lead to. The walk along them may be as long
as there are declarations, and no longer one finds more, also where it runs in a circle. The
objects of a declared subtype are those of the type with some left out, and the same ones for
types in a circle. -/
theorem isSubtype_iff_descends (p : Problem) :
    (∀ t a, (p.isSubtype t a = true ↔ p.Descends t a) ∧
      ∀ steps, p.userTypes.length ≤ steps → p.reachesWithin a steps t = p.isSubtype t a) ∧
    ∀ s ∈ p.userTypes, ∀ t ∈ p.userTypes, s.name ≠ "bool" → t.name ≠ "bool" →
      p.isSubtype s.name t.name = true →
        ∃ sub super, p.domains.get? s.name = some sub ∧ p.domains.get? t.name = some super ∧
          sub.Sublist super ∧ (p.OnCircle s.name t.name → sub = super) := by
  refine ⟨fun t a => ⟨isSubtype_eq_true, fun steps h => reachesWithin_eq_isSubtype h⟩, ?_⟩
  intro s hs t ht hbool hbool' hsub
  exact ⟨_, _, get?_domains_of_mem hs hbool, get?_domains_of_mem ht hbool',
    objectsOf_sublist (isSubtype_eq_true.mp hsub), objectsOf_eq_of_onCircle⟩

/-- A scout is a machine, and all machines are rovers. A drone is an aircraft and no machine. -/
theorem vehicles_subtypes :
    (Example.Vehicles.problem.Descends "Scout" "Machine" ∧
      Example.Vehicles.problem.Descends "Drone" "Aircraft" ∧
      ¬Example.Vehicles.problem.Descends "Drone" "Machine") ∧
    (Example.Vehicles.problem.domains.get? "Scout" = some ["s1"] ∧
      Example.Vehicles.problem.domains.get? "Machine" = some ["m1", "s1", "r1"] ∧
      ["s1"].Sublist ["m1", "s1", "r1"]) ∧
    Example.Vehicles.problem.domains.get? "Rover" = some ["m1", "s1", "r1"] := by
  obtain ⟨hiff, hdomains⟩ := isSubtype_iff_descends Example.Vehicles.problem
  have hmachine : ⟨"Machine", some "Rover"⟩ ∈ Example.Vehicles.problem.userTypes := by decide
  have hrover : ⟨"Rover", some "Vehicle"⟩ ∈ Example.Vehicles.problem.userTypes := by decide
  have hscout : ⟨"Scout", some "Rover"⟩ ∈ Example.Vehicles.problem.userTypes := by decide
  have hscouts : Example.Vehicles.problem.domains.get? "Scout" = some ["s1"] := rfl
  have hmachines : Example.Vehicles.problem.domains.get? "Machine" =
      some ["m1", "s1", "r1"] := rfl
  have hcircle : Example.Vehicles.problem.OnCircle "Machine" "Rover" :=
    ⟨.single rfl, .head (b := "Vehicle") rfl (.single rfl)⟩
  refine ⟨⟨?_, ?_, ?_⟩, ⟨hscouts, hmachines, ?_⟩, ?_⟩
  · exact (hiff "Scout" "Machine").1.mp (by decide)
  · exact (hiff "Drone" "Aircraft").1.mp (by decide)
  · exact fun h => absurd ((hiff "Drone" "Machine").1.mpr h) (by decide)
  · obtain ⟨scouts, machines, hscouts', hmachines', hsub, -⟩ :=
      hdomains _ hscout _ hmachine (by decide) (by decide) (by decide)
    obtain rfl := Option.some.inj (hscouts.symm.trans hscouts')
    obtain rfl := Option.some.inj (hmachines.symm.trans hmachines')
    exact hsub
  · obtain ⟨machines, rovers, hmachines', hrovers, -, hsame⟩ :=
      hdomains _ hmachine _ hrover (by decide) (by decide) (by decide)
    obtain rfl := Option.some.inj (hmachines.symm.trans hmachines')
    exact hsame hcircle ▸ hrovers

end Problem

end PlanTimelines
