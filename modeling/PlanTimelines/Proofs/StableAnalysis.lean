import PlanTimelines.Example.Kitchen
import PlanTimelines.Proofs.Entering
import PlanTimelines.Proofs.FreshDraft

/-! Drafts on their way through a conversion. Initial values, goals and transitions are written
down in any order, and what is refused may leave something behind. None of this changes a name,
and the analysis of an action reads names only: its verdict stays what it was in the first draft.
So it makes no difference whether the actions are analysed one by one, each before it is entered,
or all of them before the first. -/

namespace PlanTimelines

namespace Draft

/-- The drafts that are reached from a draft by writing things down, whatever they are and
whether they are refused or not. -/
inductive Progresses (d : Draft) : Draft → Prop where
  | start : Progresses d d
  | initialValues {d₁ : Draft} (h : Progresses d d₁) (p : Problem) (table : DomainTable) :
    Progresses d (d₁.addInitialValues p table).1
  | goals {d₁ : Draft} (h : Progresses d d₁) (p : Problem) : Progresses d (d₁.addGoals p).1
  | enter {d₁ : Draft} (h : Progresses d d₁) (t : Transition) : Progresses d (d₁.enter t).1

/-- Enters the transitions that the verdicts on the actions give, one after the other until a
verdict is a refusal or a transition is refused. -/
def enterVerdicts (d : Draft) :
    List (Except ConversionError Transition) → List Entry × Except ConversionError Draft
  | [] => ([], .ok d)
  | .error e :: _ => ([], .error e)
  | .ok t :: rest =>
    match d.enter t with
    | (_, .error e) => ([], .error e)
    | (d', .ok claim) =>
      let (entries, result) := enterVerdicts d' rest
      (⟨t, claim⟩ :: entries, result)

end Draft

/-- The conversion, with the verdicts on all actions made before any of them is entered. -/
def Problem.convertBy (p : Problem) (settings : Settings)
    (verdict : Action → Except ConversionError Transition) :
    Except ConversionError TimelineProblem := do
  let d ← p.initialDraft
  let actions ← p.actionInstances p.domains
  let d ← (d.enterVerdicts (actions.map verdict)).2
  let table ← d.supply
  return d.synthesize table settings.unboundedMinDuration

variable {d d' : Draft}

theorem Draft.Progresses.sameNames (h : d.Progresses d') : d'.SameNames d := by
  induction h with
  | start => exact .refl d
  | initialValues _ p table ih =>
    exact (sameNames_of_withoutState_eq (withoutState_addInitialValues _ p table)).trans ih
  | goals _ p ih => exact (sameNames_of_withoutState_eq (withoutState_addGoals _ p)).trans ih
  | enter _ t ih => exact (enters_enter _ t).sameNames.trans ih

/-- Each action is analysed in the draft that the ones before it leave, and the verdict is the
one that it has in `d`. -/
theorem Draft.SameNames.enterAll_eq (h : d'.SameNames d) (policy : EndConditions)
    (actions : List Action) :
    d'.enterAll policy actions = d'.enterVerdicts (actions.map (d.transitionOf policy)) := by
  induction actions generalizing d' with
  | nil => rfl
  | cons action rest ih =>
    rw [Draft.enterAll, h.transitionOf_congr, List.map_cons]
    cases d.transitionOf policy action with
    | error e => rfl
    | ok t =>
      have hnames := (enters_enter d' t).sameNames.trans h
      simp only [Draft.enterVerdicts]
      generalize d'.enter t = entered at hnames
      obtain ⟨d₁, e | claim⟩ := entered
      · rfl
      · simp only [ih hnames]

theorem convert_eq_convertBy {p : Problem} (hd : Draft.ofProblem p p.domains = .ok d)
    (settings : Settings) :
    p.convert settings = p.convertBy settings (d.transitionOf settings.endConditions) := by
  unfold Problem.convert Problem.convertBy
  cases hinitial : p.initialDraft with
  | error e => rfl
  | ok d' =>
    have hnames := (sameNames_initialDraft hd hinitial).symm
    cases p.actionInstances p.domains with
    | error e => rfl
    | ok actions =>
      simp only [bind, Except.bind, hnames.enterAll_eq]

/-- The analysis of an action does not depend on what has been written down before it: not on
initial values and goals, not on the actions entered, and not on what was refused. Entering
actions one by one, each analysed in the draft it meets, is entering what they were all found to
be in the first draft; and a conversion may analyse all of them before it enters any. -/
theorem ofAction_of_progresses {fresh d : Draft} (h : fresh.Progresses d) :
    (∀ policy action,
      Transition.ofAction d policy action = Transition.ofAction fresh policy action) ∧
    (∀ policy actions,
      d.enterAll policy actions = d.enterVerdicts (actions.map (fresh.transitionOf policy))) ∧
    ∀ (p : Problem) (settings : Settings), Draft.ofProblem p p.domains = .ok fresh →
      p.convert settings = p.convertBy settings (fresh.transitionOf settings.endConditions) :=
  ⟨h.sameNames.ofAction_congr, h.sameNames.enterAll_eq, fun _ settings hfresh =>
    convert_eq_convertBy hfresh settings⟩

/-- The kettle heats as it would have at the start, although the initial values and the goal
have been written down, the generator has been entered and a second one was refused, which left
its edges behind. -/
theorem kitchen_analysed_first :
    let p := Example.Kitchen.problem
    let run : Transition := ⟨"run", "gen", "Off", "Running", "Off", 10, some ⟨"power", 2⟩, none⟩
    let again := { run with action := "run_again" }
    ∃ fresh started aimed d : Draft, Draft.ofProblem p p.domains = .ok fresh ∧
      fresh.addInitialValues p p.domains = (started, .ok ()) ∧
      started.timelines.map DraftTimeline.initial = [some "Off", some "Cold"] ∧
      started.addGoals p = (aimed, .ok ()) ∧
      aimed.timelines.map DraftTimeline.goal = [none, some "Hot"] ∧
      aimed.enter run = (d, .ok .new) ∧ fresh.Progresses d ∧
      (d.enter again).2 = .error (.providerConflict "power" 2) ∧
      Transition.ofAction (d.enter again).1 .ignore (.durative Example.Kitchen.heat) =
        .ok ⟨"heat", "kettle", "Cold", "Heating", "Hot", 4, none, some ⟨"power", 1⟩⟩ ∧
      p.convert .default = p.convertBy .default (fresh.transitionOf .ignore) := by
  intro p run again
  let generator : DraftTimeline := .ofValues "gen" "gen" ["Off", "Running"]
  let kettle : DraftTimeline := .ofValues "kettle" "kettle" ["Cold", "Heating", "Hot"]
  let fresh : Draft := ⟨[generator, kettle], [.unprovided "power"]⟩
  let started : Draft := ⟨[{ generator with initial := some "Off" },
    { kettle with initial := some "Cold" }], [⟨"power", some 0, []⟩]⟩
  let aimed : Draft := ⟨[{ generator with initial := some "Off" },
    { kettle with initial := some "Cold", goal := some "Hot" }], [⟨"power", some 0, []⟩]⟩
  have hfresh : Draft.ofProblem p p.domains = .ok fresh := rfl
  have hrun : fresh.Progresses (aimed.enter run).1 :=
    ((Draft.Progresses.start.initialValues p p.domains).goals p).enter run
  obtain ⟨hanalysis, -, hconvert⟩ := ofAction_of_progresses (hrun.enter again)
  refine ⟨fresh, started, aimed, (aimed.enter run).1, hfresh, rfl, rfl, rfl, rfl, rfl, hrun, rfl,
    ?_, hconvert p .default hfresh⟩
  rw [hanalysis]
  rfl

end PlanTimelines
