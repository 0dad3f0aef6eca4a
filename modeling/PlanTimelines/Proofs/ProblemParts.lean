import PlanTimelines.Conversion

/-! The parts of a problem that the steps of a conversion read. The draft before any action
depends on the declarations and on the state, and on nothing else in the problem. -/

namespace PlanTimelines

namespace Problem

/-- The problems declare the same types, objects and fluents. -/
structure SameDeclarations (p p' : Problem) : Prop where
  userTypes : p.userTypes = p'.userTypes
  objects : p.objects = p'.objects
  fluents : p.fluents = p'.fluents

/-- The problems have the same initial state and the same goals. -/
structure SameState (p p' : Problem) : Prop where
  fluentDefaults : p.fluentDefaults = p'.fluentDefaults
  typeDefaults : p.typeDefaults = p'.typeDefaults
  initialValues : p.initialValues = p'.initialValues
  goals : p.goals = p'.goals

variable {p p' : Problem}

theorem SameDeclarations.symm (h : p.SameDeclarations p') : p'.SameDeclarations p :=
  ⟨h.userTypes.symm, h.objects.symm, h.fluents.symm⟩

theorem SameState.symm (h : p.SameState p') : p'.SameState p :=
  ⟨h.fluentDefaults.symm, h.typeDefaults.symm, h.initialValues.symm, h.goals.symm⟩

theorem SameDeclarations.parent?_eq (h : p.SameDeclarations p') (name : String) :
    p.parent? name = p'.parent? name := by
  unfold parent? userType?
  rw [h.userTypes]

theorem SameDeclarations.reachesWithin_eq (h : p.SameDeclarations p') (ancestor : String)
    (steps : Nat) (name : String) :
    p.reachesWithin ancestor steps name = p'.reachesWithin ancestor steps name := by
  induction steps generalizing name with
  | zero => rfl
  | succ steps ih =>
    simp only [reachesWithin, h.parent?_eq]
    cases p'.parent? name with
    | none => rfl
    | some parent => simp only [ih]

theorem SameDeclarations.domains_eq (h : p.SameDeclarations p') : p.domains = p'.domains := by
  have hobjects : p.objectsOf = p'.objectsOf := by
    funext typeName
    unfold objectsOf isSubtype
    simp only [h.reachesWithin_eq, h.userTypes, h.objects]
  unfold domains
  rw [hobjects, h.userTypes]

theorem SameDeclarations.ofProblem_eq (h : p.SameDeclarations p') (table : DomainTable) :
    Draft.ofProblem p table = Draft.ofProblem p' table := by
  unfold Draft.ofProblem
  rw [h.fluents]

theorem SameDeclarations.initialEntries_eq (h : p.SameDeclarations p') (hstate : p.SameState p')
    (table : DomainTable) : p.initialEntries table = p'.initialEntries table := by
  have hdefaults : p.defaultEntries table = p'.defaultEntries table := by
    funext fluent value
    unfold defaultEntries fluent?
    rw [h.fluents]
  unfold initialEntries
  rw [hdefaults, hstate.typeDefaults, hstate.fluentDefaults, hstate.initialValues]

theorem SameDeclarations.initialDraft_eq (h : p.SameDeclarations p') (hstate : p.SameState p') :
    p.initialDraft = p'.initialDraft := by
  have hinitial : ∀ d : Draft, d.addInitialValues p = d.addInitialValues p' := by
    intro d
    funext table
    unfold Draft.addInitialValues
    rw [h.initialEntries_eq hstate]
  have hgoals : ∀ d : Draft, d.addGoals p = d.addGoals p' := by
    intro d
    unfold Draft.addGoals goalLeaves
    rw [hstate.goals]
  unfold initialDraft
  simp only [h.domains_eq, h.ofProblem_eq, hinitial, hgoals]

end Problem

end PlanTimelines
