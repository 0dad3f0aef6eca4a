import PlanTimelines.Conversion
import PlanTimelines.Proofs.DraftNames
import PlanTimelines.Proofs.Instances

/-! Drafts before any action is entered. Initial values and goals fill in fields of
their own: without them the draft is the one that the fluents alone make, in which no
value is claimed, no edge drawn and no resource provided. -/

namespace PlanTimelines

/-! ## The state of a draft -/

def DraftTimeline.withoutState (t : DraftTimeline) : DraftTimeline :=
  { t with initial := none, goal := none }

def DraftResource.withoutState (r : DraftResource) : DraftResource :=
  { r with initial := none }

/-- The draft with all initial values and goals taken out. -/
def Draft.withoutState (d : Draft) : Draft :=
  ⟨d.timelines.map DraftTimeline.withoutState, d.resources.map DraftResource.withoutState⟩

theorem sameNames_withoutState (d : Draft) : d.withoutState.SameNames d := by
  constructor
  · simp [Draft.timelineNames, Draft.withoutState, DraftTimeline.withoutState]
  · simp [Draft.resourceNames, Draft.withoutState, DraftResource.withoutState]

theorem sameNames_of_withoutState_eq {d d' : Draft} (h : d.withoutState = d'.withoutState) :
    d.SameNames d' :=
  (sameNames_withoutState d).symm.trans (h ▸ sameNames_withoutState d')

theorem withoutState_writeInitial (d : Draft) (key : String) (value : Term) :
    (d.writeInitial key value).withoutState = d.withoutState := by
  unfold Draft.writeInitial Draft.withoutState
  split
  · simp only [Draft.updateResource, Draft.mk.injEq, true_and]
    apply map_updateLast
    intro
    rfl
  · simp only [Draft.updateTimeline, Draft.mk.injEq, and_true]
    apply map_updateLast
    intro
    rfl

theorem withoutState_addInitial {d d' : Draft} {entry : InitialEntry}
    (h : d.addInitial entry = .ok d') : d'.withoutState = d.withoutState := by
  unfold Draft.addInitial at h
  split at h
  · cases h
  · split at h
    · cases h
    · obtain rfl := Except.ok.inj h
      exact withoutState_writeInitial d _ _

theorem withoutState_addGoal {d d' : Draft} {goal : Term} (h : d.addGoal goal = .ok d') :
    d'.withoutState = d.withoutState := by
  unfold Draft.addGoal at h
  split at h
  · cases h
  · obtain rfl := Except.ok.inj h
    unfold Draft.withoutState
    simp only [Draft.updateTimeline, Draft.mk.injEq, and_true]
    apply map_updateLast
    intro
    rfl

theorem withoutState_addInitialValues (d : Draft) (p : Problem) (table : DomainTable) :
    (d.addInitialValues p table).1.withoutState = d.withoutState :=
  runSteps_keeps (P := fun s => s.withoutState = d.withoutState)
    (fun _ _ _ hs h => (withoutState_addInitial h).trans hs) _ rfl

theorem withoutState_addGoals (d : Draft) (p : Problem) :
    (d.addGoals p).1.withoutState = d.withoutState :=
  runSteps_keeps (P := fun s => s.withoutState = d.withoutState)
    (fun _ _ _ hs h => (withoutState_addGoal h).trans hs) _ rfl

/-! ## The draft of the fluents -/

/-- Every record is as it was registered. -/
structure Draft.IsFresh (d : Draft) : Prop where
  timelines : ∀ t ∈ d.timelines, ∃ values, t = .ofValues t.name t.className values
  resources : ∀ r ∈ d.resources, r = .unprovided r.name

theorem isFresh_ofProblem {p : Problem} {table : DomainTable} {d : Draft}
    (h : Draft.ofProblem p table = .ok d) : d.IsFresh := by
  obtain ⟨groups, -, -, rfl⟩ := ofProblem_eq_ok.mp h
  constructor
  · intro t ht
    obtain ⟨i, -, hi⟩ := List.mem_filterMap.mp ht
    obtain ⟨-, values, -, rfl⟩ := FluentInstance.timeline?_eq_some.mp hi
    exact ⟨values, rfl⟩
  · intro r hr
    obtain ⟨i, -, hi⟩ := List.mem_filterMap.mp hr
    obtain ⟨-, rfl⟩ := FluentInstance.resource?_eq_some.mp hi
    rfl

theorem withoutState_of_isFresh {d : Draft} (h : d.IsFresh) : d.withoutState = d := by
  obtain ⟨timelines, resources⟩ := d
  simp only [Draft.withoutState, Draft.mk.injEq]
  constructor
  · refine map_eq_self fun t ht => ?_
    obtain ⟨values, hvalues⟩ := h.timelines t ht
    rw [hvalues]
    rfl
  · refine map_eq_self fun r hr => ?_
    rw [h.resources r hr]
    rfl

/-- The draft that the actions are entered into is the one of the fluents, with initial
values and goals filled in. -/
theorem initialDraft_eq_ok {p : Problem} {d : Draft} (h : p.initialDraft = .ok d) :
    Draft.ofProblem p p.domains = .ok d.withoutState := by
  obtain ⟨fresh, hfresh, h⟩ := bind_eq_ok.mp h
  obtain ⟨_, -, h⟩ := bind_eq_ok.mp h
  obtain ⟨_, -, h⟩ := bind_eq_ok.mp h
  rw [← pure_eq_ok.mp h, hfresh]
  have hstate : ((fresh.addInitialValues p p.domains).1.addGoals p).1.withoutState = fresh := by
    rw [withoutState_addGoals, withoutState_addInitialValues,
      withoutState_of_isFresh (isFresh_ofProblem hfresh)]
  exact congrArg Except.ok hstate.symm

/-- Initial values and goals change no names. -/
theorem sameNames_initialDraft {p : Problem} {fresh d : Draft}
    (hfresh : Draft.ofProblem p p.domains = .ok fresh) (hd : p.initialDraft = .ok d) :
    fresh.SameNames d := by
  obtain rfl := Except.ok.inj (hfresh.symm.trans (initialDraft_eq_ok hd))
  exact sameNames_withoutState d

/-- No action has been entered. -/
structure Draft.Unentered (d : Draft) : Prop where
  edges : ∀ t ∈ d.timelines, t.edges = []
  values : ∀ t ∈ d.timelines, ∀ v ∈ t.values, v = .unclaimed v.name
  providers : ∀ r ∈ d.resources, r.providers = []

theorem unentered_of_isFresh {d : Draft} (h : d.withoutState.IsFresh) : d.Unentered := by
  have htimeline : ∀ t ∈ d.timelines, ∃ values : List String,
      t.edges = [] ∧ t.values = values.map .unclaimed := by
    intro t ht
    obtain ⟨values, hvalues⟩ := h.timelines t.withoutState (List.mem_map_of_mem ht)
    exact ⟨values, congrArg DraftTimeline.edges hvalues, congrArg DraftTimeline.values hvalues⟩
  refine ⟨fun t ht => ?_, fun t ht v hv => ?_, fun r hr => ?_⟩
  · obtain ⟨values, hedges, -⟩ := htimeline t ht
    exact hedges
  · obtain ⟨values, -, hvalues⟩ := htimeline t ht
    rw [hvalues] at hv
    obtain ⟨name, -, rfl⟩ := List.mem_map.mp hv
    rfl
  · exact congrArg DraftResource.providers
      (h.resources r.withoutState (List.mem_map_of_mem hr))

theorem unentered_initialDraft {p : Problem} {d : Draft} (h : p.initialDraft = .ok d) :
    d.Unentered :=
  unentered_of_isFresh (isFresh_ofProblem (initialDraft_eq_ok h))

end PlanTimelines
