import PlanTimelines.Assembly
import PlanTimelines.Proofs.NamedRecords

/-! The names in a draft: of its timelines with their values, and of its resources. The
analysis of an action reads nothing else, and no step of a conversion changes them. -/

namespace PlanTimelines

namespace Draft

/-- The timelines by name, each with the names of its values. -/
def timelineNames (d : Draft) : List (String × List String) :=
  d.timelines.map fun t => (t.name, t.values.map DraftValue.name)

def resourceNames (d : Draft) : List String :=
  d.resources.map DraftResource.name

structure SameNames (d d' : Draft) : Prop where
  timelines : d.timelineNames = d'.timelineNames
  resources : d.resourceNames = d'.resourceNames

end Draft

variable {d d' : Draft}

theorem Draft.SameNames.refl (d : Draft) : d.SameNames d :=
  ⟨rfl, rfl⟩

theorem Draft.SameNames.symm (h : d.SameNames d') : d'.SameNames d :=
  ⟨h.timelines.symm, h.resources.symm⟩

theorem Draft.SameNames.trans {d'' : Draft} (h : d.SameNames d') (h' : d'.SameNames d'') :
    d.SameNames d'' :=
  ⟨h.timelines.trans h'.timelines, h.resources.trans h'.resources⟩

theorem Draft.SameNames.map_name_eq (h : d.SameNames d') :
    d.timelines.map DraftTimeline.name = d'.timelines.map DraftTimeline.name := by
  have hnames : d.timelineNames.map Prod.fst = d'.timelineNames.map Prod.fst := by
    rw [h.timelines]
  unfold Draft.timelineNames at hnames
  rw [List.map_map, List.map_map] at hnames
  exact hnames

theorem Draft.eq_of_records (htimelines : d.timelines = d'.timelines)
    (hresources : d.resources = d'.resources) : d = d' := by
  cases d
  cases d'
  simp_all

/-! ## The analysis reads names -/

theorem hasValue_eq_contains (t : DraftTimeline) (name : String) :
    t.hasValue name = (t.values.map DraftValue.name).contains name := by
  unfold DraftTimeline.hasValue DraftTimeline.value?
  rw [Bool.eq_iff_iff, List.find?_isSome, List.contains_iff_mem, List.mem_map]
  simp

theorem timeline?_names (d : Draft) (name : String) :
    (d.timeline? name).map (fun t => (t.name, t.values.map DraftValue.name)) =
      findLast? (·.1 == name) d.timelineNames := by
  unfold Draft.timelineNames
  rw [findLast?_map]
  rfl

theorem resource?_isSome_eq (d : Draft) (name : String) :
    (d.resource? name).isSome = (findLast? (· == name) d.resourceNames).isSome := by
  unfold Draft.resourceNames
  rw [findLast?_map, Option.isSome_map]
  rfl

theorem kind?_eq_ite (d : Draft) (name : String) :
    d.kind? name =
      if ∃ t ∈ d.timelines, t.name = name then some .timeline
      else if ∃ r ∈ d.resources, r.name = name then some .resource
      else none :=
  if_congr (findLast?_isSome.trans List.mem_map) rfl
    (if_congr (findLast?_isSome.trans List.mem_map) rfl rfl)

theorem Draft.SameNames.kind?_eq (h : d.SameNames d') (name : String) :
    d.kind? name = d'.kind? name := by
  have htimeline : (d.timeline? name).isSome = (d'.timeline? name).isSome := by
    have := (timeline?_names d name).trans (h.timelines ▸ (timeline?_names d' name).symm)
    simpa using congrArg Option.isSome this
  have hresource : (d.resource? name).isSome = (d'.resource? name).isSome := by
    rw [resource?_isSome_eq, resource?_isSome_eq, h.resources]
  unfold Draft.kind?
  rw [htimeline, hresource]

theorem hasValue_eq_names (d : Draft) (timeline value : String) :
    d.hasValue timeline value =
      (findLast? (·.1 == timeline) d.timelineNames).any (·.2.contains value) := by
  rw [← timeline?_names]
  unfold Draft.hasValue
  cases d.timeline? timeline with
  | none => rfl
  | some t => exact hasValue_eq_contains t value

theorem Draft.SameNames.hasValue_eq (h : d.SameNames d') (timeline value : String) :
    d.hasValue timeline value = d'.hasValue timeline value := by
  rw [hasValue_eq_names, hasValue_eq_names, h.timelines]

theorem Draft.SameNames.sourceState_eq (h : d.SameNames d') (policy : EndConditions)
    (a : DurativeAction) : sourceState d policy a = sourceState d' policy a := by
  have hequality : d.equality = d'.equality := by
    funext q
    unfold Draft.equality
    simp only [h.kind?_eq]
  have hconjunct : SourceState.addConjunct d = SourceState.addConjunct d' := by
    funext s q
    unfold SourceState.addConjunct
    rw [hequality]
  have hcondition : SourceState.addCondition d policy = SourceState.addCondition d' policy := by
    funext s c
    unfold SourceState.addCondition
    rw [hconjunct]
  unfold sourceState
  rw [hcondition]

theorem Draft.SameNames.effectState_eq (h : d.SameNames d') (timeline : Option String)
    (a : DurativeAction) : effectState d timeline a = effectState d' timeline a := by
  have huse : d.resourceUse = d'.resourceUse := by
    funext label value
    unfold Draft.resourceUse
    rw [h.kind?_eq]
  have hassign : EffectState.addAssign d = EffectState.addAssign d' := by
    funext s point label value
    unfold EffectState.addAssign
    rw [h.kind?_eq]
  have heffect : EffectState.addEffect d = EffectState.addEffect d' := by
    funext s e
    unfold EffectState.addEffect
    rw [huse, hassign]
  unfold effectState
  rw [heffect]

/-- Drafts with the same names give the same verdict on every action, the violation
that is reported included. -/
theorem Draft.SameNames.ofAction_congr (h : d.SameNames d') (policy : EndConditions)
    (action : Action) :
    Transition.ofAction d policy action = Transition.ofAction d' policy action := by
  have hvalue : d.requireValue = d'.requireValue := by
    funext timeline value part
    unfold Draft.requireValue
    rw [h.hasValue_eq]
  unfold Transition.ofAction Transition.ofDurative
  simp only [h.sourceState_eq, h.effectState_eq, hvalue]

theorem Draft.SameNames.mapM_ofAction_congr (h : d.SameNames d') (policy : EndConditions)
    (actions : List Action) :
    actions.mapM (Transition.ofAction d policy) = actions.mapM (Transition.ofAction d' policy) := by
  have hanalysis : Transition.ofAction d policy = Transition.ofAction d' policy :=
    funext (h.ofAction_congr policy)
  rw [hanalysis]

theorem Draft.SameNames.transitionOf_congr (h : d.SameNames d') (policy : EndConditions)
    (action : Action) : d.transitionOf policy action = d'.transitionOf policy action := by
  unfold Draft.transitionOf
  rw [h.ofAction_congr]

/-! ## Updates keep names -/

theorem sameNames_updateTimeline (d : Draft) (name : String) {f : DraftTimeline → DraftTimeline}
    (hname : ∀ t, (f t).name = t.name)
    (hvalues : ∀ t, (f t).values.map DraftValue.name = t.values.map DraftValue.name) :
    (d.updateTimeline name f).SameNames d := by
  refine ⟨?_, rfl⟩
  unfold Draft.timelineNames Draft.updateTimeline
  apply map_updateLast
  intro t
  rw [hname, hvalues]

theorem sameNames_updateResource (d : Draft) (name : String) {f : DraftResource → DraftResource}
    (hname : ∀ r, (f r).name = r.name) : (d.updateResource name f).SameNames d := by
  refine ⟨rfl, ?_⟩
  unfold Draft.resourceNames Draft.updateResource
  apply map_updateLast
  exact hname

end PlanTimelines
