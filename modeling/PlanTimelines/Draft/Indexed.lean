import PlanTimelines.Assembly
import PlanTimelines.Draft.State
import PlanTimelines.Registry

/-! Drafts whose timelines and resources are found through indexes of their names. The steps
are those of a draft, and each ends at once where an index leads to no record. -/

namespace PlanTimelines

/-- `runSteps` with steps that may also end the run without any state to go on from. -/
def runStepsOrEnd {σ α ε δ : Type} (step : σ → α → Except δ (Except ε σ)) (s : σ) :
    List α → Except δ (σ × Except ε Unit)
  | [] => .ok (s, .ok ())
  | a :: rest => do
    match ← step s a with
    | .ok s' => runStepsOrEnd step s' rest
    | .error e => return (s, .error e)

structure IndexedDraft where
  timelines : Registry DraftTimeline
  resources : Registry DraftResource
deriving DecidableEq, Repr

namespace IndexedDraft

def empty : IndexedDraft := ⟨.empty, .empty⟩

/-- The records without the indexes. -/
def draft (x : IndexedDraft) : Draft := ⟨x.timelines.records, x.resources.records⟩

/-! ## Names -/

def addTimeline (x : IndexedDraft) (t : DraftTimeline) : IndexedDraft :=
  { x with timelines := x.timelines.add t.name t }

def addResource (x : IndexedDraft) (r : DraftResource) : IndexedDraft :=
  { x with resources := x.resources.add r.name r }

def timeline? (x : IndexedDraft) (name : String) : Except Dangling (Option DraftTimeline) :=
  x.timelines.lookup name

def resource? (x : IndexedDraft) (name : String) : Except Dangling (Option DraftResource) :=
  x.resources.lookup name

def updateTimeline (x : IndexedDraft) (name : String) (f : DraftTimeline → DraftTimeline) :
    Except Dangling IndexedDraft := do
  return { x with timelines := ← x.timelines.update name f }

def updateResource (x : IndexedDraft) (name : String) (f : DraftResource → DraftResource) :
    Except Dangling IndexedDraft := do
  return { x with resources := ← x.resources.update name f }

/-- What a name means. The indexes alone decide, and that of the timelines first. -/
def kind? (x : IndexedDraft) (name : String) : Option Kind :=
  if x.timelines.index.contains name then some .timeline
  else if x.resources.index.contains name then some .resource
  else none

/-- Adds the record of a fluent instance. -/
def register (x : IndexedDraft) (table : DomainTable) (i : FluentInstance) :
    Except ConversionError (IndexedDraft × Kind) :=
  if i.isResource then .ok (x.addResource (.unprovided i.name), .resource)
  else
    match table.ofValueType? i.valueType with
    | some values => .ok (x.addTimeline (.ofValues i.name i.className values), .timeline)
    | none => .error (.unsupportedFluentType i.name i.valueType.name)

/-! ## Initial values and goals -/

def initialFault? (x : IndexedDraft) (key : String) (value : Term) :
    Except Dangling (Option InitialValueFault) := do
  match ← x.resource? key with
  | some _ =>
    return match value.int? with
      | some 0 => none
      | some n => some (.nonzeroResource n)
      | none => some (.notAnInteger value.text)
  | none =>
    match ← x.timeline? key with
    | none => return some .unknownStateVariable
    | some t =>
      return match value.valueName? with
        | none => some (.notAConstant value.text)
        | some name => if t.hasValue name then none else some (.notAValue name)

def writeInitial (x : IndexedDraft) (key : String) (value : Term) :
    Except Dangling IndexedDraft := do
  match ← x.resource? key with
  | some _ => x.updateResource key fun r => { r with initial := some 0 }
  | none => x.updateTimeline key fun t => { t with initial := value.valueName? }

def addInitial (x : IndexedDraft) (entry : InitialEntry) :
    Except Dangling (Except ConversionError IndexedDraft) := do
  match entry with
  | .error e => return .error e
  | .ok (key, value) =>
    match ← x.initialFault? key value with
    | some fault => return .error (.unsupportedInitialValue key fault)
    | none => return .ok (← x.writeInitial key value)

def addInitialValues (x : IndexedDraft) (p : Problem) (table : DomainTable) :
    Except Dangling (IndexedDraft × Except ConversionError Unit) :=
  runStepsOrEnd addInitial x (p.initialEntries table)

def goalTarget (x : IndexedDraft) (goal : Term) :
    Except Dangling (Except GoalFault (String × String)) := do
  match goal with
  | .eq lhs rhs =>
    match lhs.stateVar?.bind StateVar.key? with
    | none => return .error (.notGround lhs.text)
    | some key =>
      match ← x.resource? key with
      | some _ => return .error (.resource key)
      | none =>
        match ← x.timeline? key with
        | none => return .error (.notATimeline key)
        | some t =>
          match rhs.valueName? with
          | none => return .error (.notAConstant rhs.text)
          | some value =>
            return if t.hasValue value then .ok (key, value) else .error (.notAValue value key)
  | other => return .error (.notAnEquality other.text)

def addGoal (x : IndexedDraft) (goal : Term) :
    Except Dangling (Except ConversionError IndexedDraft) := do
  match ← x.goalTarget goal with
  | .error fault => return .error (.unsupportedGoal fault)
  | .ok (key, value) =>
    return .ok (← x.updateTimeline key fun t => { t with goal := some value })

def addGoals (x : IndexedDraft) (p : Problem) :
    Except Dangling (IndexedDraft × Except ConversionError Unit) :=
  runStepsOrEnd addGoal x p.goalLeaves

/-! ## Transitions -/

def addProvider (x : IndexedDraft) (t : Transition) (use : ResourceUse) :
    Except Dangling (IndexedDraft × Except ConversionError Claim) := do
  match ← x.resource? use.resource with
  | none => return (x, .error (.unsupportedAction t.action (.notAResource use.resource)))
  | some r =>
    if r.providers.isEmpty then
      let x ← x.updateResource use.resource fun r =>
        { r with providers := r.providers ++ [⟨.named t.timeline, t.temporary, use.amount⟩] }
      return (x, .ok .new)
    else return (x, .error (.providerConflict r.name (r.providers.length + 1)))

def claimValue (x : IndexedDraft) (t : Transition) :
    Except Dangling (IndexedDraft × Except ConversionError Claim) := do
  let x ← x.updateTimeline t.timeline fun dt => dt.updateValue t.temporary (·.claim t)
  match t.provides with
  | none => return (x, .ok .new)
  | some use => x.addProvider t use

def reclaim (x : IndexedDraft) (t : Transition) (v : DraftValue) (claimedBy : String) :
    Except Dangling (Except ConversionError Claim) := do
  if v.hasFootprint t then
    match t.provides with
    | none => return .ok .merged
    | some use =>
      let provided := ((← x.resource? use.resource).map (·.providers.length)).getD 0
      return .error (.providerConflict use.resource (provided + 1))
  else
    return .error (.unsupportedAction t.action
      (.conflictingValueClaim t.timeline t.temporary claimedBy))

def enter (x : IndexedDraft) (t : Transition) :
    Except Dangling (IndexedDraft × Except ConversionError Claim) := do
  match ← x.timeline? t.timeline with
  | none => return (x, .error (.unsupportedAction t.action (.notATimeline t.timeline)))
  | some dt =>
    let x ← x.updateTimeline t.timeline (·.addTransition t)
    match dt.value? t.temporary with
    | none =>
      return (x, .error (.unsupportedAction t.action
        (.unknownValue t.timeline t.temporary .temporary)))
    | some v =>
      match v.claimedBy with
      | some claimedBy => return (x, ← x.reclaim t v claimedBy)
      | none => x.claimValue t

end IndexedDraft

/-- The draft with indexes, as if each record had just been registered. -/
def Draft.indexed (d : Draft) : IndexedDraft :=
  ⟨.ofRecords DraftTimeline.name d.timelines, .ofRecords DraftResource.name d.resources⟩

end PlanTimelines
