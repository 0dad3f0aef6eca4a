import PlanTimelines.Example.Kitchen
import PlanTimelines.Proofs.EnteredActions
import PlanTimelines.Proofs.ProblemParts

/-! What the state of a problem decides, and what its actions decide. Initial values and
goals stay in fields of their own: drafts that are equal without them remain so while
actions are entered, and resources are supplied in the same way. Token types are built from
that part of a draft alone, static tokens from the other. -/

namespace PlanTimelines

namespace TimelineProblem

/-- The timelines in order, each with its token types. -/
def dynamics (out : TimelineProblem) : List (String × List TokenType) :=
  out.timelines.map fun t => (t.name, t.tokenTypes)

/-- The timelines in order, each with its static tokens. -/
def statics (out : TimelineProblem) : List (String × List StaticToken) :=
  out.timelines.map fun t => (t.name, t.staticTokens)

end TimelineProblem

/-! ## Without the state -/

theorem withoutState_entered (d : Draft) (ts : List Transition) :
    (d.entered ts).withoutState = d.withoutState.entered ts := by
  unfold Draft.withoutState Draft.entered
  rw [Draft.mk.injEq]
  constructor
  · apply map_mapLasts_comm <;> intros <;> rfl
  · apply map_mapLasts_comm <;> intros <;> rfl

theorem supply_withoutState (d : Draft) : d.withoutState.supply = d.supply := by
  have hclasses : d.withoutState.timelineClasses = d.timelineClasses := by
    simp only [Draft.timelineClasses, Draft.withoutState, List.map_map]
    rfl
  have hrow : d.withoutState.supplyRow ∘ DraftResource.withoutState = d.supplyRow := by
    funext r
    simp only [Function.comp_apply, Draft.supplyRow, hclasses]
    rfl
  have hresources : d.withoutState.resources = d.resources.map DraftResource.withoutState := rfl
  unfold Draft.supply
  rw [hresources, List.mapM_map, hrow]

/-- Token types are built from the draft without its state. -/
theorem dynamics_synthesize (d : Draft) (table : SupplyTable) (minDuration : UInt32) :
    (d.synthesize table minDuration).dynamics =
      (d.withoutState.synthesize table minDuration).dynamics := by
  simp only [TimelineProblem.dynamics, Draft.synthesize, Draft.withoutState, List.map_map]
  rfl

/-- Static tokens are those of the draft before any action. -/
theorem statics_synthesize_entered (d : Draft) (ts : List Transition) (table : SupplyTable)
    (minDuration : UInt32) : ((d.entered ts).synthesize table minDuration).statics =
      d.timelines.map fun dt => (dt.name, dt.staticTokens) := by
  simp only [TimelineProblem.statics, Draft.synthesize, List.map_map]
  apply map_mapLasts
  intro name dt
  rfl

/-! ## Two problems with the same declarations -/

variable {p p' : Problem} {settings : Settings} {out out' : TimelineProblem} {d d' : Draft}

theorem withoutState_initialDraft_eq (h : p.SameDeclarations p') (hd : p.initialDraft = .ok d)
    (hd' : p'.initialDraft = .ok d') : d.withoutState = d'.withoutState := by
  have hfresh := initialDraft_eq_ok hd
  rw [h.ofProblem_eq, h.domains_eq] at hfresh
  exact Except.ok.inj (hfresh.symm.trans (initialDraft_eq_ok hd'))

/-- A default for a whole type is refused. -/
theorem typeDefaults_of_initialDraft (h : p.initialDraft = .ok d) : p.typeDefaults = [] := by
  obtain ⟨fresh, -, h⟩ := bind_eq_ok.mp h
  obtain ⟨_, hentered, -⟩ := bind_eq_ok.mp h
  cases hdefaults : p.typeDefaults with
  | nil => rfl
  | cons default rest =>
    unfold Problem.initialEntries at hentered
    rw [hdefaults] at hentered
    cases hentered

theorem dynamics_eq_of_actions (h : p.SameDeclarations p') (hactions : p.actions = p'.actions)
    (hout : p.convert settings = .ok out) (hout' : p'.convert settings = .ok out') :
    out.dynamics = out'.dynamics := by
  obtain ⟨d, instances, ts, table, hd, hinstances, hts, -, htable, rfl⟩ := convert_eq_ok.mp hout
  obtain ⟨d', instances', ts', table', hd', hinstances', hts', -, htable', rfl⟩ :=
    convert_eq_ok.mp hout'
  have hfresh := withoutState_initialDraft_eq h hd hd'
  have hnames : d.SameNames d' := sameNames_of_withoutState_eq hfresh
  obtain rfl : instances = instances' := by
    unfold Problem.actionInstances at hinstances hinstances'
    rw [hactions, h.domains_eq] at hinstances
    exact Except.ok.inj (hinstances.symm.trans hinstances')
  obtain rfl : ts = ts' := by
    rw [hnames.mapM_ofAction_congr] at hts
    exact Except.ok.inj (hts.symm.trans hts')
  have hentered : (d.entered ts).withoutState = (d'.entered ts).withoutState := by
    rw [withoutState_entered, hfresh, ← withoutState_entered]
  obtain rfl : table = table' := by
    rw [← supply_withoutState, hentered, supply_withoutState] at htable
    exact Except.ok.inj (htable.symm.trans htable')
  rw [dynamics_synthesize, hentered, ← dynamics_synthesize]

theorem statics_eq_of_state (h : p.SameDeclarations p')
    (hdefaults : p.fluentDefaults = p'.fluentDefaults)
    (hvalues : p.initialValues = p'.initialValues) (hgoals : p.goals = p'.goals)
    (hout : p.convert settings = .ok out) (hout' : p'.convert settings = .ok out') :
    out.statics = out'.statics := by
  obtain ⟨d, _, ts, table, hd, -, -, -, -, rfl⟩ := convert_eq_ok.mp hout
  obtain ⟨d', _, ts', table', hd', -, -, -, -, rfl⟩ := convert_eq_ok.mp hout'
  have htypes : p.typeDefaults = p'.typeDefaults :=
    (typeDefaults_of_initialDraft hd).trans (typeDefaults_of_initialDraft hd').symm
  obtain rfl : d = d' := by
    rw [h.initialDraft_eq ⟨hdefaults, htypes, hvalues, hgoals⟩] at hd
    exact Except.ok.inj (hd.symm.trans hd')
  rw [statics_synthesize_entered, statics_synthesize_entered]

/-- Between problems with the same declarations that are both accepted: the actions alone
decide on the token types, and the initial values and goals alone on the static tokens. -/
theorem convert_separates (h : p.SameDeclarations p') (hout : p.convert settings = .ok out)
    (hout' : p'.convert settings = .ok out') :
    (p.actions = p'.actions → out.dynamics = out'.dynamics) ∧
    (p.fluentDefaults = p'.fluentDefaults → p.initialValues = p'.initialValues →
      p.goals = p'.goals → out.statics = out'.statics) :=
  ⟨fun hactions => dynamics_eq_of_actions h hactions hout hout',
    fun hdefaults hvalues hgoals => statics_eq_of_state h hdefaults hvalues hgoals hout hout'⟩

/-- The kitchen beside one whose kettle is hot and has no goal, and beside one in which
nothing heats it. -/
theorem kitchen_separates :
    ∃ out hot idle, Example.Kitchen.problem.convert .default = .ok out ∧
      Example.Kitchen.hot.convert .default = .ok hot ∧
      Example.Kitchen.unheated.convert .default = .ok idle ∧
      out.dynamics = hot.dynamics ∧ out.statics = idle.statics := by
  obtain ⟨out, hot, idle, hout, hhot, hidle⟩ :
      ∃ out hot idle, Example.Kitchen.problem.convert .default = .ok out ∧
        Example.Kitchen.hot.convert .default = .ok hot ∧
        Example.Kitchen.unheated.convert .default = .ok idle :=
    ⟨_, _, _, rfl, rfl, rfl⟩
  have hhotter : Example.Kitchen.problem.SameDeclarations Example.Kitchen.hot :=
    ⟨rfl, rfl, rfl⟩
  have hcolder : Example.Kitchen.problem.SameDeclarations Example.Kitchen.unheated :=
    ⟨rfl, rfl, rfl⟩
  have hdynamics := (convert_separates hhotter hout hhot).1 rfl
  have hstatics := (convert_separates hcolder hout hidle).2 rfl rfl rfl
  exact ⟨out, hot, idle, hout, hhot, hidle, hdynamics, hstatics⟩

end PlanTimelines
