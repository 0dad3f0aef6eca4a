import PlanTimelines.Assembly
import PlanTimelines.Draft.State
import PlanTimelines.Synthesis

/-! Converting planning problems into timeline problems. A problem with anything
that is not supported is refused as a whole. -/

namespace PlanTimelines

namespace Problem

/-- The draft with the initial state and the goals, before any action is entered. -/
def initialDraft (p : Problem) : Except ConversionError Draft := do
  let d ← Draft.ofProblem p p.domains
  let (d, entered) := d.addInitialValues p p.domains
  entered
  let (d, entered) := d.addGoals p
  entered
  return d

/-- The timeline problem that a planning problem stands for. -/
def convert (p : Problem) (settings : Settings) : Except ConversionError TimelineProblem := do
  let d ← p.initialDraft
  let actions ← p.actionInstances p.domains
  let d ← (d.enterAll settings.endConditions actions).2
  let table ← d.supply
  return d.synthesize table settings.unboundedMinDuration

end Problem

end PlanTimelines
