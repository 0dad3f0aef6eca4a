import PlanTimelines.Supply
import PlanTimelines.Timeline

/-! Building timelines from a complete draft. -/

namespace PlanTimelines

/-- A disjunction of links, left out if there is none. -/
def Condition.ofLinks : List Link → List Condition
  | [] => []
  | links => [.anyOf links]

namespace DraftTimeline

/-- A token has to lie within a supplier of each resource that it consumes. -/
def coverLinks (table : SupplyTable) (v : DraftValue) : List Link :=
  v.consumes.flatMap fun use =>
    (table.suppliersOf use.resource).map fun s => .cover s.timeline s.value use.amount

def metByLinks (t : DraftTimeline) (v : DraftValue) : List Link :=
  (t.predecessors v.name).map (.metBy t.name)

/-- A token of open duration can be the last one of its timeline, so nothing has to
follow it. -/
def meetsLinks (t : DraftTimeline) (v : DraftValue) : List Link :=
  if v.duration.isSome then (t.successors v.name).map (.meets t.name) else []

def tokenType (t : DraftTimeline) (table : SupplyTable) (minDuration : UInt32)
    (v : DraftValue) : TokenType where
  value := v.name
  conditions :=
    Condition.ofLinks (coverLinks table v) ++ Condition.ofLinks (t.metByLinks v) ++
      Condition.ofLinks (t.meetsLinks v)
  duration :=
    match v.duration with
    | some duration => .fixed duration
    | none => .atLeast minDuration
  capacity := table.capacityOf t.name v.name

/-- The initial value as a fact from time zero on, and the goal. -/
def staticTokens (t : DraftTimeline) : List StaticToken :=
  (t.initial.map fun value => .fact value 0).toList ++ (t.goal.map .goal).toList

def synthesize (t : DraftTimeline) (table : SupplyTable) (minDuration : UInt32) :
    Timeline where
  name := t.name
  tokenTypes := t.values.map (t.tokenType table minDuration)
  staticTokens := t.staticTokens

end DraftTimeline

/-- The timelines in the order of the draft. -/
def Draft.synthesize (d : Draft) (table : SupplyTable) (minDuration : UInt32) :
    TimelineProblem :=
  ⟨d.timelines.map (·.synthesize table minDuration)⟩

end PlanTimelines
