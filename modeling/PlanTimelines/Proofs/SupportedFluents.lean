import PlanTimelines.Example.Declarations
import PlanTimelines.Proofs.Instances

/-! The problems whose fluents can be registered. The types of parameters are looked up for each
declaration, and the type of the values for each instance. A fluent over numbers that have no
domain is therefore refused if it has an instance, and accepted if it has none. -/

namespace PlanTimelines

/-- Truth values, integers and objects of a declared type. -/
def ValueType.Supported (table : DomainTable) : ValueType → Prop
  | .bool | .int => True
  | .real => False
  | .user name => table.contains name = true

variable {p : Problem} {table : DomainTable} {f : Fluent}

theorem contains_eq_true {name : String} :
    table.contains name = true ↔ ∃ axis, table.get? name = some axis :=
  Option.isSome_iff_exists

/-! ## Instances -/

theorem product_eq_nil {α : Type} {axes : List (List α)} : product axes = [] ↔ [] ∈ axes := by
  induction axes with
  | nil => simp
  | cons axis axes ih =>
    rw [product_cons, List.flatMap_eq_nil_iff, List.mem_cons, ← ih]
    cases axis with
    | nil => simp
    | cons a axis => simp +contextual

theorem axes_isOk {owner : String} {params : List Param} :
    (∃ axes, table.axes owner params = .ok axes) ↔
      ∀ param ∈ params, table.contains param.typeName = true := by
  rw [axes_eq_mapM, mapM_isOk]
  simp only [axis_eq_ok, contains_eq_true]

/-- A parameter without a value leaves a fluent without instances. -/
theorem fluentInstances_eq_nil {instances : List FluentInstance}
    (h : table.fluentInstances f = .ok instances) :
    instances = [] ↔ ∃ param ∈ f.params, table.get? param.typeName = some [] := by
  obtain ⟨axes, haxes, rfl⟩ := fluentInstances_eq_ok.mp h
  rw [List.map_eq_nil_iff, product_eq_nil, mem_axes haxes]

theorem registers_iff {i : FluentInstance} :
    i.Registers p.domains ↔ i.valueType.Supported p.domains := by
  unfold FluentInstance.Registers FluentInstance.isResource
  cases i.valueType with
  | bool => simp [ValueType.Supported, DomainTable.ofValueType?, Problem.domains_bool]
  | int => simp [ValueType.Supported, ValueType.isInt]
  | real => simp [ValueType.Supported, ValueType.isInt, DomainTable.ofValueType?]
  | user name =>
    simp [ValueType.Supported, ValueType.isInt, DomainTable.ofValueType?, contains_eq_true]

/-- The instances of a fluent share the type of their values. -/
theorem forall_registers_iff {instances : List FluentInstance}
    (h : p.domains.fluentInstances f = .ok instances) :
    (∀ i ∈ instances, i.Registers p.domains) ↔
      f.valueType.Supported p.domains ∨
        ∃ param ∈ f.params, p.domains.get? param.typeName = some [] := by
  have hshared : ∀ i ∈ instances, (i.Registers p.domains ↔ f.valueType.Supported p.domains) :=
    fun i hi => (isOf_of_mem h hi).valueType ▸ registers_iff
  rw [← fluentInstances_eq_nil h]
  cases instances with
  | nil => simp
  | cons i rest =>
    simp only [reduceCtorEq, or_false]
    constructor
    · intro hall
      exact (hshared i List.mem_cons_self).mp (hall i List.mem_cons_self)
    · intro hsupported j hj
      exact (hshared j hj).mpr hsupported

/-! ## Problems -/

/-- The fluents of a problem can be registered if all their parameters are of declared types, and
the values of each are of a supported type or a parameter of it has no value. -/
theorem ofProblem_isOk_iff (p : Problem) :
    (∃ d, Draft.ofProblem p p.domains = .ok d) ↔
      ∀ f ∈ p.fluents,
        (∀ param ∈ f.params, p.domains.contains param.typeName = true) ∧
        (f.valueType.Supported p.domains ∨
          ∃ param ∈ f.params, p.domains.get? param.typeName = some []) := by
  simp only [ofProblem_eq_ok]
  constructor
  · intro h
    obtain ⟨_, groups, hgroups, hregisters, -⟩ := h
    intro f hf
    obtain ⟨instances, hmem, hinstances⟩ := exists_result_of_mem hgroups hf
    obtain ⟨axes, haxes, -⟩ := fluentInstances_eq_ok.mp hinstances
    have hall : ∀ i ∈ instances, i.Registers p.domains :=
      fun i hi => hregisters i (List.mem_flatten.mpr ⟨instances, hmem, hi⟩)
    exact ⟨axes_isOk.mp ⟨axes, haxes⟩, (forall_registers_iff hinstances).mp hall⟩
  · intro h
    have hinstances : ∀ f ∈ p.fluents,
        ∃ instances, p.domains.fluentInstances f = .ok instances := by
      intro f hf
      obtain ⟨axes, haxes⟩ := axes_isOk.mpr (h f hf).1
      exact ⟨_, fluentInstances_eq_ok.mpr ⟨axes, haxes, rfl⟩⟩
    obtain ⟨groups, hgroups⟩ := mapM_isOk.mpr hinstances
    refine ⟨_, groups, hgroups, fun i hi => ?_, rfl⟩
    obtain ⟨instances, hmem, hi⟩ := List.mem_flatten.mp hi
    obtain ⟨f, hf, hinstances⟩ := exists_of_mem_mapM hgroups hmem
    exact (forall_registers_iff hinstances).mpr (h f hf).2 i hi

/-- The fleet has a fluent over the real numbers. -/
theorem empty_fleet_accepted :
    (∃ f ∈ Example.Fleet.problem.fluents, f.valueType = .real) ∧
      ∃ d, Draft.ofProblem Example.Fleet.problem Example.Fleet.problem.domains = .ok d :=
  ⟨⟨Example.Fleet.battery, List.mem_singleton_self _, rfl⟩, _, rfl⟩

end PlanTimelines
