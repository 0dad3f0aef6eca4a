import Mathlib.Data.List.Nodup
import PlanTimelines.Proofs.Results

/-! The instances of fluents, and the draft that they make: one record for each instance,
in the order of the declarations and of the product of the domains. -/

namespace PlanTimelines

/-! ## Products -/

theorem mem_of_mem_product {α : Type} {axes : List (List α)} {c : List α} (h : c ∈ product axes) :
    ∀ a ∈ c, ∃ axis ∈ axes, a ∈ axis := by
  induction axes generalizing c with
  | nil =>
    obtain rfl := List.mem_singleton.mp h
    intro a ha
    cases ha
  | cons axis axes ih =>
    simp only [product_cons, List.mem_flatMap, List.mem_map] at h
    obtain ⟨b, hb, rest, hrest, rfl⟩ := h
    intro a ha
    rcases List.mem_cons.mp ha with rfl | ha
    · exact ⟨axis, List.mem_cons_self, hb⟩
    · obtain ⟨axis', haxis', ha'⟩ := ih hrest a ha
      exact ⟨axis', List.mem_cons_of_mem axis haxis', ha'⟩

theorem nodup_product {α : Type} {axes : List (List α)} (h : ∀ axis ∈ axes, axis.Nodup) :
    (product axes).Nodup := by
  induction axes with
  | nil => simp
  | cons axis axes ih =>
    rw [List.forall_mem_cons] at h
    rw [product_cons, List.nodup_flatMap]
    constructor
    · intro a _
      exact (ih h.2).map (List.cons_injective)
    · refine h.1.imp fun {a b} hne c ha hb => ?_
      obtain ⟨rest, -, rfl⟩ := List.mem_map.mp ha
      obtain ⟨rest', -, heq⟩ := List.mem_map.mp hb
      exact hne (List.cons.inj heq).1.symm

/-! ## Domains -/

variable {p : Problem} {table : DomainTable}

/-- A domain is the truth values or the objects of a declared type. -/
theorem get?_domains {name : String} {axis : List String} (h : p.domains.get? name = some axis) :
    axis = ["true", "false"] ∨ ∃ t ∈ p.userTypes, axis = p.objectsOf t.name := by
  obtain ⟨before, after, hrows, -⟩ := List.lookup_eq_some_iff.mp h
  have hmem : (name, axis) ∈ p.domains.rows := by
    rw [hrows]
    simp
  rcases List.mem_cons.mp hmem with heq | hmem
  · exact .inl (Prod.mk.inj heq).2
  · obtain ⟨t, ht, heq⟩ := List.mem_map.mp hmem
    exact .inr ⟨t, ht, (Prod.mk.inj heq).2.symm⟩

/-- Objects under different names make domains without repetition. -/
theorem nodup_of_get?_domains (hobjects : (p.objects.map ObjectDecl.name).Nodup) {name : String}
    {axis : List String} (h : p.domains.get? name = some axis) : axis.Nodup := by
  rcases get?_domains h with rfl | ⟨t, -, rfl⟩
  · decide
  · exact hobjects.sublist (List.filter_sublist.map ObjectDecl.name)

/-- The domain of one parameter of `owner`. -/
def DomainTable.axis (table : DomainTable) (owner : String) (param : Param) :
    Except ConversionError (List String) :=
  match table.get? param.typeName with
  | none => .error (.unsupportedParameterType owner param.typeName)
  | some axis => .ok axis

theorem axis_eq_ok {owner : String} {param : Param} {axis : List String} :
    table.axis owner param = .ok axis ↔ table.get? param.typeName = some axis := by
  unfold DomainTable.axis
  cases table.get? param.typeName <;> simp

theorem axes_eq_mapM (owner : String) (params : List Param) :
    table.axes owner params = params.mapM (table.axis owner) := by
  induction params with
  | nil => rfl
  | cons param rest ih =>
    rw [DomainTable.axes, List.mapM_cons, ← ih, DomainTable.axis]
    cases table.get? param.typeName with
    | none => rfl
    | some axis => cases table.axes owner rest <;> rfl

theorem axes_eq_ok {owner : String} {params : List Param} {axes : List (List String)} :
    table.axes owner params = .ok axes ↔
      List.Forall₂ (fun param axis => table.get? param.typeName = some axis) params axes := by
  rw [axes_eq_mapM, mapM_eq_ok]
  simp only [axis_eq_ok]

theorem axes_eq_map {owner : String} {params : List Param} {axes : List (List String)}
    (h : table.axes owner params = .ok axes) :
    axes = params.map fun param => (table.get? param.typeName).getD [] := by
  induction axes_eq_ok.mp h with
  | nil => rfl
  | cons hget _ ih => rw [List.map_cons, hget, ← ih (axes_eq_ok.mpr ‹_›), Option.getD_some]

theorem mem_axes {owner : String} {params : List Param} {axes : List (List String)}
    (h : table.axes owner params = .ok axes) {axis : List String} :
    axis ∈ axes ↔ ∃ param ∈ params, table.get? param.typeName = some axis := by
  induction axes_eq_ok.mp h with
  | nil => simp
  | cons hget _ ih =>
    rw [List.mem_cons, ih (axes_eq_ok.mpr ‹_›), List.exists_mem_cons_iff, hget, Option.some.injEq,
      eq_comm]

/-! ## Instances of a fluent -/

theorem fluentInstances_eq_ok {f : Fluent} {instances : List FluentInstance} :
    table.fluentInstances f = .ok instances ↔ ∃ axes, table.axes f.name f.params = .ok axes ∧
      (product axes).map (fun args => ⟨instanceName f.name args, f.name, args, f.valueType⟩) =
        instances := by
  unfold DomainTable.fluentInstances
  exact map_eq_ok

/-- What an instance of a fluent is made of. -/
structure FluentInstance.IsOf (i : FluentInstance) (f : Fluent) : Prop where
  name : i.name = instanceName f.name i.args
  className : i.className = f.name
  valueType : i.valueType = f.valueType
  arity : i.args.length = f.arity

/-- The arguments tell the instances of a fluent apart. -/
theorem FluentInstance.IsOf.eq_of_args_eq {f : Fluent} {i j : FluentInstance} (hi : i.IsOf f)
    (hj : j.IsOf f) (hargs : i.args = j.args) : i = j := by
  have hname : i.name = j.name := by rw [hi.name, hj.name, hargs]
  have hclass : i.className = j.className := hi.className.trans hj.className.symm
  have hvalue : i.valueType = j.valueType := hi.valueType.trans hj.valueType.symm
  cases i
  cases j
  exact FluentInstance.mk.injEq .. ▸ ⟨hname, hclass, hargs, hvalue⟩

theorem isOf_of_mem {f : Fluent} {instances : List FluentInstance}
    (h : table.fluentInstances f = .ok instances) {i : FluentInstance} (hi : i ∈ instances) :
    i.IsOf f := by
  obtain ⟨axes, haxes, rfl⟩ := fluentInstances_eq_ok.mp h
  obtain ⟨args, hargs, rfl⟩ := List.mem_map.mp hi
  refine ⟨rfl, rfl, rfl, ?_⟩
  rw [length_eq_of_mem_product hargs]
  exact (axes_eq_ok.mp haxes).length_eq.symm

/-! ## The draft of the fluents -/

namespace FluentInstance

/-- The record of an instance as a timeline, unless it is a resource or has no domain. -/
def timeline? (table : DomainTable) (i : FluentInstance) : Option DraftTimeline :=
  if i.isResource then none
  else (table.ofValueType? i.valueType).map (.ofValues i.name i.className)

/-- The record of an instance as a resource. -/
def resource? (i : FluentInstance) : Option DraftResource :=
  if i.isResource then some (.unprovided i.name) else none

/-- What an instance becomes. -/
def kind (i : FluentInstance) : Kind :=
  if i.isResource then .resource else .timeline

variable {i : FluentInstance}

theorem timeline?_eq_some {t : DraftTimeline} :
    i.timeline? table = some t ↔ i.isResource = false ∧
      ∃ values, table.ofValueType? i.valueType = some values ∧
        .ofValues i.name i.className values = t := by
  unfold timeline?
  cases i.isResource <;> simp [Option.map_eq_some_iff]

theorem resource?_eq_some {r : DraftResource} :
    i.resource? = some r ↔ i.isResource = true ∧ .unprovided i.name = r := by
  unfold resource?
  cases i.isResource <;> simp

end FluentInstance

/-- The draft with one more record for each of the instances. -/
def Draft.withInstances (d : Draft) (table : DomainTable) (instances : List FluentInstance) :
    Draft :=
  ⟨d.timelines ++ instances.filterMap (·.timeline? table),
    d.resources ++ instances.filterMap (·.resource?)⟩

@[simp] theorem Draft.withInstances_nil (d : Draft) : d.withInstances table [] = d := by
  simp [Draft.withInstances]

theorem Draft.withInstances_append (d : Draft) (before after : List FluentInstance) :
    (d.withInstances table before).withInstances table after =
      d.withInstances table (before ++ after) := by
  simp [Draft.withInstances]

/-- An instance that can be registered: a resource, or over a finite domain. -/
def FluentInstance.Registers (table : DomainTable) (i : FluentInstance) : Prop :=
  i.isResource = false → ∃ values, table.ofValueType? i.valueType = some values

theorem register_eq_ok {d d' : Draft} {i : FluentInstance} :
    (d.register table i).map Prod.fst = .ok d' ↔
      i.Registers table ∧ d.withInstances table [i] = d' := by
  cases hresource : i.isResource with
  | true =>
    simp [Draft.register, Except.map, FluentInstance.Registers, Draft.withInstances,
      Draft.addResource, FluentInstance.timeline?, FluentInstance.resource?, hresource]
  | false =>
    cases hvalues : table.ofValueType? i.valueType with
    | none => simp [Draft.register, Except.map, FluentInstance.Registers, hresource, hvalues]
    | some values =>
      simp [Draft.register, Except.map, FluentInstance.Registers, Draft.withInstances,
        Draft.addTimeline, FluentInstance.timeline?, FluentInstance.resource?, hresource, hvalues]

theorem registerAll_eq_ok {instances : List FluentInstance} {d d' : Draft} :
    instances.foldlM (fun d i => (d.register table i).map Prod.fst) d = .ok d' ↔
      (∀ i ∈ instances, i.Registers table) ∧ d.withInstances table instances = d' := by
  induction instances generalizing d with
  | nil => simp
  | cons i rest ih =>
    simp only [List.foldlM_cons, bind_eq_ok, register_eq_ok, ih, List.forall_mem_cons]
    constructor
    · intro h
      obtain ⟨_, ⟨hi, rfl⟩, hregisters, rfl⟩ := h
      exact ⟨⟨hi, hregisters⟩, (d.withInstances_append [i] rest).symm⟩
    · intro h
      obtain ⟨⟨hi, hregisters⟩, rfl⟩ := h
      exact ⟨_, ⟨hi, rfl⟩, hregisters, d.withInstances_append [i] rest⟩

theorem registerFluent_eq_ok {d d' : Draft} {f : Fluent} :
    d.registerFluent table f = .ok d' ↔ ∃ instances, table.fluentInstances f = .ok instances ∧
      (∀ i ∈ instances, i.Registers table) ∧ d.withInstances table instances = d' := by
  unfold Draft.registerFluent
  simp only [bind_eq_ok, registerAll_eq_ok]

/-- The draft of a problem has the records of all instances of its fluents, in order. It is
made if every parameter has a domain and every instance can be registered. -/
theorem ofProblem_eq_ok {d : Draft} :
    Draft.ofProblem p table = .ok d ↔
      ∃ groups, p.fluents.mapM table.fluentInstances = .ok groups ∧
        (∀ i ∈ groups.flatten, i.Registers table) ∧
        Draft.empty.withInstances table groups.flatten = d := by
  unfold Draft.ofProblem
  -- the run may start at any draft
  generalize Draft.empty = start
  generalize p.fluents = fluents
  induction fluents generalizing start with
  | nil => simp [pure, Except.pure]
  | cons f rest ih =>
    simp only [List.foldlM_cons, List.mapM_cons, bind_eq_ok, pure_eq_ok, registerFluent_eq_ok, ih]
    constructor
    · intro h
      obtain ⟨_, ⟨instances, hinstances, hfirst, rfl⟩, groups, hgroups, hrest, rfl⟩ := h
      refine ⟨instances :: groups, ⟨instances, hinstances, groups, hgroups, rfl⟩, ?_, ?_⟩
      · rw [List.flatten_cons, List.forall_mem_append]
        exact ⟨hfirst, hrest⟩
      · rw [List.flatten_cons, Draft.withInstances_append]
    · intro h
      obtain ⟨_, ⟨instances, hinstances, groups, hgroups, rfl⟩, hregisters, rfl⟩ := h
      rw [List.flatten_cons, List.forall_mem_append] at hregisters
      refine ⟨_, ⟨instances, hinstances, hregisters.1, rfl⟩, groups, hgroups, hregisters.2, ?_⟩
      rw [List.flatten_cons, Draft.withInstances_append]

end PlanTimelines
