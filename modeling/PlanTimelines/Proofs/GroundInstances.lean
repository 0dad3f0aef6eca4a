import PlanTimelines.Example.Scouts
import PlanTimelines.Proofs.FluentKeys
import PlanTimelines.Proofs.StateVariables
import PlanTimelines.Proofs.Subtypes

/-! The instances of actions and those of fluents. A fluent that an action applies to objects
and to its own parameters is, in every instance of the action, one of the instances of the
fluent: the product of the domains has every combination of objects, and the domain of a
parameter is part of the domain that it is passed on to. -/

namespace PlanTimelines

/-! ## Applications of fluents -/

namespace Term

mutual

/-- The fluents applied in a term, at any depth, with their arguments. -/
def applications : Term → List StateVar
  | .fluent name args => ⟨name, args⟩ :: applicationsOf args
  | .eq lhs rhs => applications lhs ++ applications rhs
  | .not operand => applications operand
  | .and operands => applicationsOf operands
  | .or operands => applicationsOf operands
  | .bool _ | .int _ | .real _ | .object _ | .param _ => []

def applicationsOf : List Term → List StateVar
  | [] => []
  | t :: rest => applications t ++ applicationsOf rest

end

end Term

def Effect.applications (e : Effect) : List StateVar :=
  e.target.toTerm.applications ++ e.value.applications ++
    e.guard.toList.flatMap Term.applications

def SimulatedEffect.applications (s : SimulatedEffect) : List StateVar :=
  s.targets.flatMap fun v => v.toTerm.applications

/-- The fluents applied in the conditions and effects of an action. -/
def DurativeAction.applications (a : DurativeAction) : List StateVar :=
  a.conditions.flatMap (fun c => c.condition.applications) ++
    a.effects.flatMap Effect.applications ++ a.simulated.flatMap SimulatedEffect.applications

mutual

theorem applications_substitute (b : Bindings) :
    (t : Term) → (t.substitute b).applications = t.applications.map (StateVar.substitute b)
  | .fluent name args => by
    rw [Term.substitute, Term.applications, Term.applications, List.map_cons,
      applicationsOf_substituteAll b args, StateVar.substitute]
  | .eq lhs rhs => by
    rw [Term.substitute, Term.applications, Term.applications, List.map_append,
      applications_substitute b lhs, applications_substitute b rhs]
  | .not operand => by
    rw [Term.substitute, Term.applications, Term.applications, applications_substitute b operand]
  | .and operands | .or operands => by
    rw [Term.substitute, Term.applications, Term.applications,
      applicationsOf_substituteAll b operands]
  | .param name => by
    rw [Term.substitute]
    split <;> rfl
  | .bool _ | .int _ | .real _ | .object _ => by
    simp [Term.applications, Term.substitute]

theorem applicationsOf_substituteAll (b : Bindings) :
    (ts : List Term) → Term.applicationsOf (Term.substituteAll b ts) =
      (Term.applicationsOf ts).map (StateVar.substitute b)
  | [] => rfl
  | t :: rest => by
    rw [Term.substituteAll, Term.applicationsOf, Term.applicationsOf, List.map_append,
      applications_substitute b t, applicationsOf_substituteAll b rest]

end

theorem Effect.applications_substitute (b : Bindings) (e : Effect) :
    (e.substitute b).applications = e.applications.map (StateVar.substitute b) := by
  unfold Effect.applications Effect.substitute
  cases e.guard with
  | none =>
    simp [StateVar.toTerm_substitute, PlanTimelines.applications_substitute]
  | some guard =>
    simp [StateVar.toTerm_substitute, PlanTimelines.applications_substitute]

theorem SimulatedEffect.applications_substitute (b : Bindings) (s : SimulatedEffect) :
    (s.substitute b).applications = s.applications.map (StateVar.substitute b) := by
  unfold SimulatedEffect.applications SimulatedEffect.substitute
  rw [List.flatMap_map, List.map_flatMap]
  refine List.flatMap_congr fun v _ => ?_
  rw [StateVar.toTerm_substitute, PlanTimelines.applications_substitute]

/-- An instance applies the fluents that the action applies, with the parameters replaced. -/
theorem applications_instantiate (a : DurativeAction) (name : String) (b : Bindings) :
    (a.instantiate name b).applications = a.applications.map (StateVar.substitute b) := by
  unfold DurativeAction.applications DurativeAction.instantiate
  simp only [List.map_append, List.flatMap_map, List.map_flatMap, TimedCondition.substitute,
    applications_substitute, Effect.applications_substitute,
    SimulatedEffect.applications_substitute]

/-! ## Instances of a fluent -/

/-- What an action with the parameters may pass on for a parameter of a fluent: an object of
its domain, or a parameter of its type or of a subtype. -/
inductive Problem.Suits (p : Problem) (params : List Param) (slot : Param) : Term → Prop
  | object {axis : List String} {name : String} (hget : p.domains.get? slot.typeName = some axis)
    (hname : name ∈ axis) : p.Suits params slot (.object name)
  | sameType {q : Param} (hq : q ∈ params) (htype : q.typeName = slot.typeName) :
    p.Suits params slot (.param q.name)
  | subtype {q : Param} (hq : q ∈ params) (hbool : q.typeName ≠ "bool")
    (hbool' : slot.typeName ≠ "bool") (hsub : p.isSubtype q.typeName slot.typeName = true) :
    p.Suits params slot (.param q.name)

/-- The fluent is applied, with something that suits each of its parameters. -/
structure Problem.Applies (p : Problem) (params : List Param) (f : Fluent) (v : StateVar) :
    Prop where
  name : v.name = f.name
  args : List.Forall₂ (p.Suits params) f.params v.args

variable {p : Problem} {table : DomainTable}

/-- In every instance of the action, what suits a parameter is an object of its domain. -/
theorem exists_object_of_suits {a : DurativeAction} (hnodup : (a.params.map Param.name).Nodup)
    {objects : List String} (hobjects : p.domains.Admits a.params objects) {slot : Param}
    {arg : Term} (harg : p.Suits a.params slot arg) {axis : List String}
    (haxis : p.domains.get? slot.typeName = some axis) :
    ∃ name ∈ axis, arg.substitute (a.bindings objects) = .object name := by
  cases harg with
  | @object axis' name hget hname =>
    obtain rfl := Option.some.inj (haxis.symm.trans hget)
    exact ⟨name, hname, rfl⟩
  | @sameType q hq htype =>
    obtain ⟨object, hfind, axis', hget, hmem⟩ := exists_find?_bindings hnodup hobjects hq
    rw [htype, haxis] at hget
    obtain rfl := Option.some.inj hget
    exact ⟨object, hmem, by rw [Term.substitute, hfind]⟩
  | @subtype q hq hbool hbool' hsub =>
    obtain ⟨object, hfind, axis', hget, hmem⟩ := exists_find?_bindings hnodup hobjects hq
    -- the truth values are no objects, so that both domains are those of declared types
    obtain rfl := Problem.objectsOf_of_get?_domains hget hbool
    obtain rfl := Problem.objectsOf_of_get?_domains haxis hbool'
    have hdescends := Problem.isSubtype_eq_true.mp hsub
    exact ⟨object, (Problem.objectsOf_sublist hdescends).subset hmem, by
      rw [Term.substitute, hfind]⟩

/-- The arguments of an application are objects of the domains of the fluent, in every
instance of the action. -/
theorem exists_objects_of_applies {a : DurativeAction} (hnodup : (a.params.map Param.name).Nodup)
    {objects : List String} (hobjects : p.domains.Admits a.params objects) {slots : List Param}
    {args : List Term} (hargs : List.Forall₂ (p.Suits a.params) slots args)
    {axes : List (List String)}
    (haxes : List.Forall₂ (fun slot axis => p.domains.get? slot.typeName = some axis) slots axes) :
    ∃ names, p.domains.Admits slots names ∧
      args.map (Term.substitute (a.bindings objects)) = names.map .object := by
  induction hargs generalizing axes with
  | nil => exact ⟨[], .nil, rfl⟩
  | cons harg _ ih =>
    obtain ⟨axis, rest, haxis, hrest, rfl⟩ := List.forall₂_cons_left_iff.mp haxes
    obtain ⟨name, hname, hsubst⟩ := exists_object_of_suits hnodup hobjects harg haxis
    obtain ⟨names, hnames, hsubsts⟩ := ih hrest
    exact ⟨name :: names, .cons ⟨axis, haxis, hname⟩ hnames, by
      rw [List.map_cons, List.map_cons, hsubst, hsubsts]⟩

/-- An application of a fluent is, in every instance of the action, an instance of the
fluent. -/
theorem exists_instance_of_applies {a : DurativeAction}
    (hnodup : (a.params.map Param.name).Nodup) {objects : List String}
    (hobjects : p.domains.Admits a.params objects) {f : Fluent} {instances : List FluentInstance}
    (hinstances : p.domains.fluentInstances f = .ok instances) {v : StateVar}
    (hv : p.Applies a.params f v) :
    ∃ i ∈ instances, (v.substitute (a.bindings objects)).key? = some i.name := by
  obtain ⟨axes, haxes, rfl⟩ := fluentInstances_eq_ok.mp hinstances
  obtain ⟨names, hnames, hsubst⟩ :=
    exists_objects_of_applies hnodup hobjects hv.args (axes_eq_ok.mp haxes)
  refine ⟨_, List.mem_map.mpr ⟨names, (mem_product_axes haxes).mpr hnames, rfl⟩, ?_⟩
  have hargs : (v.substitute (a.bindings objects)).objectArgs? = some names := by
    rw [objectArgs?_eq_some, StateVar.substitute, Term.substituteAll_eq_map, hsubst]
  rw [StateVar.key?, hargs]
  exact congrArg (fun name => some (instanceName name names)) hv.name

/-! ## Records of the instances -/

/-- The draft has the record of the instance. -/
def FluentInstance.RecordedIn (table : DomainTable) (d : Draft) (i : FluentInstance) : Prop :=
  (∃ t ∈ d.timelines, i.timeline? table = some t) ∨ ∃ r ∈ d.resources, i.resource? = some r

theorem recordedIn_withInstances {i : FluentInstance} {instances : List FluentInstance}
    (hi : i ∈ instances) (hregisters : i.Registers table) :
    i.RecordedIn table (Draft.empty.withInstances table instances) := by
  rcases instance_kind_eq hregisters with ⟨-, hsome⟩ | ⟨-, -, hsome⟩
  · obtain ⟨t, ht⟩ := Option.isSome_iff_exists.mp hsome
    exact .inl ⟨t, List.mem_filterMap.mpr ⟨i, hi, ht⟩, ht⟩
  · obtain ⟨r, hr⟩ := Option.isSome_iff_exists.mp hsome
    exact .inr ⟨r, List.mem_filterMap.mpr ⟨i, hi, hr⟩, hr⟩

/-- A key with a record is of a kind. -/
theorem kind?_isSome_of_recordedIn {i : FluentInstance} {d : Draft}
    (h : i.RecordedIn table d) : (d.kind? i.name).isSome := by
  rw [kind?_eq_ite]
  rcases h with ⟨t, ht, hrecord⟩ | ⟨r, hr, hrecord⟩
  · rw [if_pos ⟨t, ht, name_of_instance_timeline? hrecord⟩]
    rfl
  · have hfound : ∃ r ∈ d.resources, r.name = i.name := ⟨r, hr, name_of_instance_resource? hrecord⟩
    rw [if_pos hfound]
    split <;> rfl

/-- In every instance of an action, what the action applies to objects and to parameters of
fitting types is an instance of the fluent, with a record under its key. -/
theorem applications_recorded {d : Draft} (hd : Draft.ofProblem p p.domains = .ok d)
    {actions : List Action} (hactions : p.actionInstances p.domains = .ok actions)
    {a : DurativeAction} (ha : .durative a ∈ p.actions)
    (hnodup : (a.params.map Param.name).Nodup) :
    ∃ instances, p.domains.actionInstances (.durative a) = .ok instances ∧
      (∀ action ∈ instances, action ∈ actions) ∧
      ∀ action ∈ instances, ∃ b objects, action = .durative b ∧
        p.domains.Admits a.params objects ∧
        b = a.instantiate (instanceName a.name objects) (a.bindings objects) ∧
        b.applications = a.applications.map (StateVar.substitute (a.bindings objects)) ∧
        ∀ f ∈ p.fluents, ∀ v ∈ a.applications, p.Applies a.params f v →
          ∃ is i, p.domains.fluentInstances f = .ok is ∧ i ∈ is ∧
            (v.substitute (a.bindings objects)).key? = some i.name ∧ i.RecordedIn p.domains d ∧
            (d.kind? i.name).isSome := by
  obtain ⟨groups, hgroups, rfl⟩ := map_eq_ok.mp hactions
  obtain ⟨instances, hmem, hinstances⟩ := exists_result_of_mem hgroups ha
  refine ⟨instances, hinstances, fun action haction => List.mem_flatten.mpr ⟨_, hmem, haction⟩, ?_⟩
  intro action haction
  obtain ⟨objects, hobjects, rfl⟩ := exists_objects_of_mem_actionInstances hinstances haction
  refine ⟨_, objects, rfl, hobjects, rfl, applications_instantiate a _ _, ?_⟩
  intro f hf v _ hv
  obtain ⟨families, hfamilies, hregisters, rfl⟩ := ofProblem_eq_ok.mp hd
  obtain ⟨is, his, hfluent⟩ := exists_result_of_mem hfamilies hf
  obtain ⟨i, hi, hkey⟩ := exists_instance_of_applies hnodup hobjects hfluent hv
  have hflat : i ∈ families.flatten := List.mem_flatten.mpr ⟨is, his, hi⟩
  have hrecorded := recordedIn_withInstances hflat (hregisters i hflat)
  exact ⟨is, i, hfluent, hi, hkey, hrecorded, kind?_isSome_of_recordedIn hrecorded⟩

/-- There is one scout to survey. The fluent that it surveys by is declared for all rovers, and
has a record for the scout. -/
theorem scouts_applications_recorded :
    ∃ d actions,
      Draft.ofProblem Example.Scouts.problem Example.Scouts.problem.domains = .ok d ∧
      Example.Scouts.problem.actionInstances Example.Scouts.problem.domains = .ok actions ∧
      .durative Example.Scouts.survey ∈ Example.Scouts.problem.actions ∧
      (Example.Scouts.survey.params.map Param.name).Nodup ∧
      (∀ v ∈ Example.Scouts.survey.applications,
        Example.Scouts.problem.Applies Example.Scouts.survey.params Example.Scouts.location v) ∧
      ∃ instances,
        Example.Scouts.problem.domains.actionInstances (.durative Example.Scouts.survey) =
          .ok instances ∧
        instances = [.durative (Example.Scouts.survey.instantiate "survey(s1)"
          (Example.Scouts.survey.bindings ["s1"]))] ∧
        (Example.Scouts.atScout.substitute (Example.Scouts.survey.bindings ["s1"])).key? =
          some "at(s1)" ∧
        (∀ action ∈ instances, action ∈ actions) ∧
        ∀ action ∈ instances, ∃ b objects, action = .durative b ∧
          Example.Scouts.problem.domains.Admits Example.Scouts.survey.params objects ∧
          b = Example.Scouts.survey.instantiate
            (instanceName Example.Scouts.survey.name objects)
            (Example.Scouts.survey.bindings objects) ∧
          b.applications = Example.Scouts.survey.applications.map
            (StateVar.substitute (Example.Scouts.survey.bindings objects)) ∧
          ∀ f ∈ Example.Scouts.problem.fluents, ∀ v ∈ Example.Scouts.survey.applications,
            Example.Scouts.problem.Applies Example.Scouts.survey.params f v →
              ∃ is i, Example.Scouts.problem.domains.fluentInstances f = .ok is ∧ i ∈ is ∧
                (v.substitute (Example.Scouts.survey.bindings objects)).key? = some i.name ∧
                i.RecordedIn Example.Scouts.problem.domains d ∧ (d.kind? i.name).isSome := by
  obtain ⟨d, hd⟩ : ∃ d, Draft.ofProblem Example.Scouts.problem
      Example.Scouts.problem.domains = .ok d := ⟨_, rfl⟩
  obtain ⟨actions, hactions⟩ : ∃ actions, Example.Scouts.problem.actionInstances
      Example.Scouts.problem.domains = .ok actions := ⟨_, rfl⟩
  have hsurvey : .durative Example.Scouts.survey ∈ Example.Scouts.problem.actions :=
    List.mem_append_right _ (List.mem_singleton_self _)
  have happlications : Example.Scouts.survey.applications = [Example.Scouts.atScout,
      Example.Scouts.atFirstRover, Example.Scouts.atScout, Example.Scouts.atScout] := rfl
  have hscout : Example.Scouts.problem.Applies Example.Scouts.survey.params
      Example.Scouts.location Example.Scouts.atScout :=
    ⟨rfl, .cons (.subtype (List.mem_cons_self (a := ⟨"s", "Scout"⟩)) (by decide) (by decide)
      (by decide)) .nil⟩
  have hrovers : Example.Scouts.problem.domains.get? "Rover" = some ["r1", "r2", "s1"] := rfl
  have hrover : Example.Scouts.problem.Applies Example.Scouts.survey.params
      Example.Scouts.location Example.Scouts.atFirstRover :=
    ⟨rfl, .cons (.object hrovers (by decide)) .nil⟩
  obtain ⟨instances, hinstances, hrecorded⟩ :=
    applications_recorded hd hactions hsurvey (by decide)
  have hone : Example.Scouts.problem.domains.actionInstances (.durative Example.Scouts.survey) =
      .ok [.durative (Example.Scouts.survey.instantiate "survey(s1)"
        (Example.Scouts.survey.bindings ["s1"]))] := rfl
  exact ⟨d, actions, hd, hactions, hsurvey, by decide, by simp [happlications, hscout, hrover],
    instances, hinstances, Except.ok.inj (hinstances.symm.trans hone), rfl, hrecorded⟩

end PlanTimelines
