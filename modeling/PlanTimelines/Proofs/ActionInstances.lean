import PlanTimelines.Proofs.Instances
import PlanTimelines.Proofs.Substitution

/-! The instances of an action. Each binds the parameters to objects of their domains; an
action without parameters is its own instance, for it has nothing to replace. -/

namespace PlanTimelines

/-! ## Choices of objects -/

/-- The parameters bound to objects, in order. -/
def DurativeAction.bindings (a : DurativeAction) (objects : List String) : Bindings :=
  (a.params.map Param.name).zip objects

/-- The objects come from the domains of the parameters, in order. -/
def DomainTable.Admits (table : DomainTable) (params : List Param) (objects : List String) : Prop :=
  List.Forall₂ (fun param object => ∃ axis, table.get? param.typeName = some axis ∧ object ∈ axis)
    params objects

variable {table : DomainTable}

/-- The product of the domains has every choice of objects. -/
theorem mem_product_axes {owner : String} {params : List Param} {axes : List (List String)}
    (h : table.axes owner params = .ok axes) {objects : List String} :
    objects ∈ product axes ↔ table.Admits params objects := by
  unfold DomainTable.Admits
  induction axes_eq_ok.mp h generalizing objects with
  | nil => simp
  | @cons param axis params axes hget hrest ih =>
    simp only [product_cons, List.mem_flatMap, List.mem_map, List.forall₂_cons_left_iff, hget,
      Option.some.injEq, exists_eq_left', ih (axes_eq_ok.mpr hrest)]
    constructor
    · intro h
      obtain ⟨object, hobject, rest, hrest, rfl⟩ := h
      exact ⟨object, rest, hobject, hrest, rfl⟩
    · intro h
      obtain ⟨object, rest, hobject, hrest, rfl⟩ := h
      exact ⟨object, hobject, rest, hrest, rfl⟩

theorem instantiate_nil {a : DurativeAction} (h : a.params = []) :
    a.instantiate a.name [] = a := by
  have hsame : a.instantiate a.name [] = { a with params := [] } :=
    instantiate_eq_iff.mpr fun _ _ => rfl
  rw [hsame, ← h]

/-- An action without parameters has one choice of objects for them, and is its own instance. -/
theorem actionInstances_eq_map (table : DomainTable) (a : DurativeAction) :
    table.actionInstances (.durative a) = (table.axes a.name a.params).map fun axes =>
      (product axes).map fun objects =>
        .durative (a.instantiate (instanceName a.name objects) (a.bindings objects)) := by
  rw [DomainTable.actionInstances_durative]
  by_cases hparams : a.params = []
  · simp [hparams, DomainTable.axes, Except.map, DurativeAction.bindings, instanceName,
      instantiate_nil hparams]
  · rw [if_neg (by simpa using hparams)]
    rfl

/-- An instance of an action binds the parameters to objects of their domains. -/
theorem exists_objects_of_mem_actionInstances {a : DurativeAction} {instances : List Action}
    (h : table.actionInstances (.durative a) = .ok instances) {action : Action}
    (haction : action ∈ instances) :
    ∃ objects, table.Admits a.params objects ∧
      action = .durative (a.instantiate (instanceName a.name objects) (a.bindings objects)) := by
  rw [actionInstances_eq_map] at h
  obtain ⟨axes, haxes, rfl⟩ := map_eq_ok.mp h
  obtain ⟨objects, hobjects, rfl⟩ := List.mem_map.mp haction
  exact ⟨objects, (mem_product_axes haxes).mp hobjects, rfl⟩

/-! ## Bound parameters -/

theorem exists_find?_zip {params : List Param} {objects : List String}
    (hlength : params.length = objects.length) {param : Param} (hparam : param ∈ params) :
    ∃ object, Bindings.find? ((params.map Param.name).zip objects) param.name = some object := by
  rw [← Option.isSome_iff_exists, Bindings.find?, List.lookup_isSome_iff]
  have hnames : ((params.map Param.name).zip objects).map Prod.fst = params.map Param.name :=
    List.map_fst_zip (by simp [hlength])
  have hmem : param.name ∈ ((params.map Param.name).zip objects).map Prod.fst := by
    rw [hnames]
    exact List.mem_map_of_mem hparam
  obtain ⟨binding, hbinding, heq⟩ := List.mem_map.mp hmem
  exact ⟨binding, List.mem_reverse.mpr hbinding, by simp [heq]⟩

/-- Under distinct names each parameter is bound to its own object. -/
theorem exists_find?_bindings {R : Param → String → Prop} {a : DurativeAction}
    (hnodup : (a.params.map Param.name).Nodup) {objects : List String}
    (h : List.Forall₂ R a.params objects) {q : Param} (hq : q ∈ a.params) :
    ∃ object, (a.bindings objects).find? q.name = some object ∧ R q object := by
  obtain ⟨object, hobject⟩ := exists_find?_zip h.length_eq hq
  refine ⟨object, hobject, ?_⟩
  have hbound : (q.name, object) ∈ (a.params.zip objects).map (Prod.map Param.name id) := by
    obtain ⟨before, after, hsplit, -⟩ := List.lookup_eq_some_iff.mp hobject
    rw [← List.zip_map_left, ← List.mem_reverse, hsplit]
    simp
  obtain ⟨⟨q', object'⟩, hzip, heq⟩ := List.mem_map.mp hbound
  obtain ⟨hname, rfl⟩ := Prod.mk.inj heq
  obtain rfl : q' = q :=
    List.inj_on_of_nodup_map hnodup (List.of_mem_zip hzip).1 hq hname
  exact List.forall₂_zip h hzip

end PlanTimelines
