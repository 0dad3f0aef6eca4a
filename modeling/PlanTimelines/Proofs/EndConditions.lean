import PlanTimelines.Example.Switch
import PlanTimelines.Proofs.ActionInstances
import PlanTimelines.Proofs.EnteredActions
import PlanTimelines.Proofs.ProblemParts

/-! Conditions at the end of an action. To ignore them is to convert the problem that does
not have them: parameters are bound and actions entered in the same way, and the same
violation is met first. To reject them makes no difference to a problem that is accepted,
for then none of its actions has any. -/

namespace PlanTimelines

/-! ## Actions without end conditions -/

def DurativeAction.withoutEndConditions (a : DurativeAction) : DurativeAction :=
  { a with conditions := a.conditions.filter fun c => !c.interval.isAtEnd }

namespace Action

def withoutEndConditions : Action → Action
  | .instantaneous a => .instantaneous a
  | .durative a => .durative a.withoutEndConditions

def endConditions : Action → List TimedCondition
  | .instantaneous _ => []
  | .durative a => a.conditions.filter (·.interval.isAtEnd)

end Action

def Problem.withoutEndConditions (p : Problem) : Problem :=
  { p with actions := p.actions.map Action.withoutEndConditions }

@[simp] theorem Action.name_withoutEndConditions (action : Action) :
    action.withoutEndConditions.name = action.name := by
  cases action <;> rfl

theorem withoutEndConditions_of_endConditions_eq_nil {action : Action}
    (h : action.endConditions = []) : action.withoutEndConditions = action := by
  cases action with
  | instantaneous a => rfl
  | durative a =>
    have hall : ∀ c ∈ a.conditions, (!c.interval.isAtEnd) = true := by
      intro c hc
      simpa using List.filter_eq_nil_iff.mp h c hc
    simp only [Action.withoutEndConditions, DurativeAction.withoutEndConditions,
      List.filter_eq_self.mpr hall]

/-! ## Instances -/

/-- Binding parameters moves no condition to another time. -/
theorem instantiate_withoutEndConditions (a : DurativeAction) (name : String) (b : Bindings) :
    a.withoutEndConditions.instantiate name b = (a.instantiate name b).withoutEndConditions := by
  simp only [DurativeAction.instantiate, DurativeAction.withoutEndConditions, List.filter_map]
  rfl

theorem actionInstances_withoutEndConditions (table : DomainTable) (action : Action) :
    table.actionInstances action.withoutEndConditions =
      (table.actionInstances action).map (List.map Action.withoutEndConditions) := by
  cases action with
  | instantaneous a => rfl
  | durative a =>
    change table.actionInstances (.durative a.withoutEndConditions) = _
    rw [actionInstances_eq_map, actionInstances_eq_map]
    change (table.axes a.name a.params).map _ = _
    cases table.axes a.name a.params with
    | error e => rfl
    | ok axes =>
      simp only [Except.map, List.map_map, instantiate_withoutEndConditions]
      rfl

theorem Problem.actionInstances_withoutEndConditions (p : Problem) (table : DomainTable) :
    p.withoutEndConditions.actionInstances table =
      (p.actionInstances table).map (List.map Action.withoutEndConditions) := by
  have hgroups : (p.actions.map Action.withoutEndConditions).mapM table.actionInstances =
      (p.actions.mapM table.actionInstances).map
        (List.map (List.map Action.withoutEndConditions)) := by
    rw [List.mapM_map, ← mapM_map_results]
    congr 1
    funext action
    exact PlanTimelines.actionInstances_withoutEndConditions table action
  unfold Problem.actionInstances Problem.withoutEndConditions
  rw [hgroups]
  cases p.actions.mapM table.actionInstances with
  | error e => rfl
  | ok groups => simp only [Except.map, List.map_flatten]

/-! ## Analysis and entering -/

/-- The loop over the conditions passes over those at the end, or does not have them. -/
theorem sourceState_ignore (d : Draft) (a : DurativeAction) :
    sourceState d .ignore a = sourceState d .reject a.withoutEndConditions := by
  have hstep : SourceState.addCondition d .ignore = fun s c =>
      if (!c.interval.isAtEnd) = true then s.addCondition d .reject c else pure s := by
    funext s c
    unfold SourceState.addCondition
    cases c.interval.isAtEnd <;> rfl
  unfold sourceState DurativeAction.withoutEndConditions
  rw [List.foldlM_filter, hstep]

theorem ofAction_ignore (d : Draft) (action : Action) :
    Transition.ofAction d .ignore action =
      Transition.ofAction d .reject action.withoutEndConditions := by
  cases action with
  | instantaneous a => rfl
  | durative a =>
    simp only [Transition.ofAction, Transition.ofDurative, Action.withoutEndConditions,
      sourceState_ignore]
    rfl

theorem transitionOf_ignore (d : Draft) (action : Action) :
    d.transitionOf .ignore action = d.transitionOf .reject action.withoutEndConditions := by
  unfold Draft.transitionOf
  rw [ofAction_ignore, Action.name_withoutEndConditions]

theorem enterAll_ignore (d : Draft) (actions : List Action) :
    d.enterAll .ignore actions =
      d.enterAll .reject (actions.map Action.withoutEndConditions) := by
  induction actions generalizing d with
  | nil => rfl
  | cons action rest ih => simp only [Draft.enterAll, List.map_cons, transitionOf_ignore, ih]

theorem endConditions_of_ofAction {d : Draft} {action : Action} {t : Transition}
    (h : Transition.ofAction d .reject action = .ok t) : action.endConditions = [] := by
  cases action with
  | instantaneous a => rfl
  | durative a =>
    refine List.filter_eq_nil_iff.mpr fun c hc hend => ?_
    rcases (ofDurative_eq_ok_iff.mp h).timed c hc with hstart | ⟨-, hpolicy⟩
    · rw [isAtStart_eq_false_of_isAtEnd hend] at hstart
      cases hstart
    · cases hpolicy

/-! ## The conversion -/

theorem convert_ignore (p : Problem) (settings : Settings) :
    p.convert { settings with endConditions := .ignore } =
      p.withoutEndConditions.convert { settings with endConditions := .reject } := by
  have hdeclarations : p.SameDeclarations p.withoutEndConditions := ⟨rfl, rfl, rfl⟩
  have hdraft := hdeclarations.initialDraft_eq ⟨rfl, rfl, rfl, rfl⟩
  unfold Problem.convert
  rw [← hdraft, ← hdeclarations.domains_eq, p.actionInstances_withoutEndConditions]
  cases p.initialDraft with
  | error e => rfl
  | ok d =>
    cases p.actionInstances p.domains with
    | error e => rfl
    | ok actions =>
      simp only [bind, Except.bind, Except.map, enterAll_ignore]

/-- What is accepted although end conditions are rejected has none, and gives the same
result when they are ignored. -/
theorem convert_reject_eq_ok {p : Problem} {settings : Settings} {out : TimelineProblem}
    (hout : p.convert { settings with endConditions := .reject } = .ok out) :
    (∃ actions, p.actionInstances p.domains = .ok actions ∧
      ∀ action ∈ actions, action.endConditions = []) ∧
    p.convert { settings with endConditions := .ignore } = .ok out := by
  obtain ⟨d, actions, ts, table, hd, hactions, hts, hpairwise, htable, rfl⟩ :=
    convert_eq_ok.mp hout
  have hnone : ∀ action ∈ actions, action.endConditions = [] := by
    intro action haction
    obtain ⟨t, -, ht⟩ := exists_result_of_mem hts haction
    exact endConditions_of_ofAction ht
  have hsame : actions.map Action.withoutEndConditions = actions :=
    map_eq_self fun action haction =>
      withoutEndConditions_of_endConditions_eq_nil (hnone action haction)
  have hts' : actions.mapM (Transition.ofAction d .ignore) = .ok ts := by
    rw [funext (ofAction_ignore d), ← hts]
    conv_rhs => rw [← hsame, List.mapM_map]
    rfl
  exact ⟨⟨actions, hactions, hnone⟩, convert_eq_ok.mpr
    ⟨d, actions, ts, table, hd, hactions, hts', hpairwise, htable, rfl⟩⟩

/-- Ignoring end conditions converts the problem without them, with the same result or the
same error. Rejecting them accepts only problems whose actions have none, with the result
that they have otherwise. -/
theorem convert_endConditions (p : Problem) (settings : Settings) :
    p.convert { settings with endConditions := .ignore } =
      p.withoutEndConditions.convert { settings with endConditions := .reject } ∧
    ∀ out, p.convert { settings with endConditions := .reject } = .ok out →
      (∃ actions, p.actionInstances p.domains = .ok actions ∧
        ∀ action ∈ actions, action.endConditions = []) ∧
      p.convert { settings with endConditions := .ignore } = .ok out :=
  ⟨convert_ignore p settings, fun _ => convert_reject_eq_ok⟩

/-- The switch with a condition at its end: it is ignored, or it is taken out and then
rejecting such conditions makes no difference. -/
theorem guarded_switch_converted :
    ∃ out, Example.Switch.guarded.convert { Settings.default with endConditions := .ignore } =
        .ok out ∧
      Example.Switch.guarded.withoutEndConditions.convert
        { Settings.default with endConditions := .reject } = .ok out ∧
      (∃ actions, Example.Switch.guarded.withoutEndConditions.actionInstances
          Example.Switch.guarded.withoutEndConditions.domains = .ok actions ∧
        ∀ action ∈ actions, action.endConditions = []) ∧
      Example.Switch.guarded.withoutEndConditions.convert
        { Settings.default with endConditions := .ignore } = .ok out := by
  have hout : ∃ out, Example.Switch.guarded.convert
      { Settings.default with endConditions := .ignore } = .ok out := ⟨_, rfl⟩
  obtain ⟨out, hout⟩ := hout
  have hwithout := (convert_endConditions Example.Switch.guarded .default).1.symm.trans hout
  obtain ⟨hactions, hignored⟩ :=
    (convert_endConditions Example.Switch.guarded.withoutEndConditions .default).2 out hwithout
  exact ⟨out, hout, hwithout, hactions, hignored⟩

/-- With the condition in place and end conditions rejected, the switch is refused. -/
example : Example.Switch.guarded.convert { Settings.default with endConditions := .reject } =
    .error (.unsupportedAction "activate" (.endCondition "mode")) := rfl

end PlanTimelines
