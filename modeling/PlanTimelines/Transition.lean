import PlanTimelines.Draft
import PlanTimelines.Settings

/-! Transitions: the one shape of action that timelines can express. The action
leads one timeline from a source value through a temporary value, held for a
fixed duration, to a final value. While at the temporary value it may provide or
consume one resource. The checks come in a fixed order, and the first one that
fails is reported. -/

namespace PlanTimelines

structure Transition where
  action : String
  timeline : String
  source : String
  temporary : String
  final : String
  duration : UInt32
  provides : Option ResourceUse
  consumes : Option ResourceUse
deriving DecidableEq, Repr

/-- A 32-bit number, if the integer is one. -/
def word? (n : Int) : Option UInt32 :=
  if 0 ≤ n ∧ n.toNat < UInt32.size then some (UInt32.ofNat n.toNat) else none

/-- A slot takes a first value; after that it must be given the same one again. -/
def fixOnce {α : Type} [DecidableEq α] (slot : Option α) (value : α)
    (conflict : α → α → ShapeViolation) : Except ShapeViolation (Option α) :=
  match slot with
  | none => .ok (some value)
  | some first => if first = value then .ok slot else .error (conflict first value)

/-! ## Duration -/

/-- The duration, if both bounds are the same integer constant in range. -/
def DurationRange.fixed? (d : DurationRange) : Except ShapeViolation UInt32 :=
  match d.lower.int?, d.upper.int? with
  | some lower, some upper =>
    if lower = upper then
      match word? lower with
      | some duration => .ok duration
      | none => .error (.invalidDuration lower)
    else .error (.asymmetricDuration lower upper)
  | _, _ => .error .nonConstantDuration

/-! ## Start conditions -/

/-- What the start conditions read so far ask for. -/
structure SourceState where
  timeline : Option String
  source : Option String
deriving DecidableEq, Repr

/-- The timeline and value of a condition `timeline == value`. -/
def Draft.equality (d : Draft) (condition : Term) : Except ShapeViolation (String × String) :=
  match condition with
  | .eq lhs rhs =>
    match lhs.stateVar?, rhs.valueName? with
    | some v, some value =>
      if d.kind? v.label = some .timeline then .ok (v.label, value)
      else .error (.notATimeline v.label)
    | _, _ => .error .nonEqualityCondition
  | _ => .error .nonEqualityCondition

/-- One conjunct of a start condition. -/
def SourceState.addConjunct (d : Draft) (s : SourceState) (conjunct : Term) :
    Except ShapeViolation SourceState := do
  let (timeline, value) ← d.equality conjunct
  let timeline ← fixOnce s.timeline timeline .multipleStateVariables
  let source ← fixOnce s.source value .conflictingTransitionFrom
  return ⟨timeline, source⟩

/-- The text that an end condition is reported under: the left side of an equality. -/
def endConditionSubject : Term → String
  | .eq lhs _ => lhs.text
  | other => other.text

/-- One condition of the action. -/
def SourceState.addCondition (d : Draft) (policy : EndConditions) (s : SourceState)
    (c : TimedCondition) : Except ShapeViolation SourceState :=
  if c.interval.isAtEnd then
    match policy with
    | .ignore => .ok s
    | .reject => .error (.endCondition (endConditionSubject c.condition))
  else if c.interval.isAtStart then
    c.condition.conjuncts.foldlM (SourceState.addConjunct d) s
  else .error .unsupportedConditionTiming

/-- What the conditions of an action ask for. -/
def sourceState (d : Draft) (policy : EndConditions) (a : DurativeAction) :
    Except ShapeViolation SourceState :=
  a.conditions.foldlM (SourceState.addCondition d policy) ⟨none, none⟩

/-! ## Effects -/

/-- What the effects read so far do. The resource uses are kept apart by the way
they touch the resource. -/
structure EffectState where
  timeline : Option String
  temporary : Option String
  final : Option String
  provided : Option ResourceUse
  withdrawn : Option ResourceUse
  consumed : Option ResourceUse
  released : Option ResourceUse
deriving DecidableEq, Repr

def EffectState.start (timeline : Option String) : EffectState :=
  ⟨timeline, none, none, none, none, none, none⟩

/-- The end of the action that a timing is exactly at. -/
def Timing.point? (t : Timing) : Option ActionPoint :=
  if t.isStart then some .start else if t.isEnd then some .finish else none

/-- The way in which a raised or lowered resource is touched. -/
def Flow.ofChange (raised : Bool) : ActionPoint → Flow
  | .start => if raised then .provided else .consumed
  | .finish => if raised then .released else .withdrawn

/-- The amount by which an effect changes a resource. -/
def Draft.resourceUse (d : Draft) (label : String) (value : Term) :
    Except ShapeViolation ResourceUse :=
  if d.kind? label = some .resource then
    match value.int?.bind word? with
    | some amount => .ok ⟨label, amount⟩
    | none => .error (.invalidResourceAmount label)
  else .error (.notAResource label)

namespace EffectState

def addUse (s : EffectState) (flow : Flow) (use : ResourceUse) :
    Except ShapeViolation EffectState :=
  let conflict := fun _ _ => ShapeViolation.multipleResources flow
  match flow with
  | .provided => (fixOnce s.provided use conflict).map fun u => { s with provided := u }
  | .withdrawn => (fixOnce s.withdrawn use conflict).map fun u => { s with withdrawn := u }
  | .consumed => (fixOnce s.consumed use conflict).map fun u => { s with consumed := u }
  | .released => (fixOnce s.released use conflict).map fun u => { s with released := u }

/-- An assignment at the start sets the temporary value, one at the end the final one. -/
def addAssign (d : Draft) (s : EffectState) (point : ActionPoint) (label : String)
    (value : Term) : Except ShapeViolation EffectState :=
  if d.kind? label = some .timeline then
    match value.valueName? with
    | none => .error (.nonConstantAssignment label)
    | some name => do
      let timeline ← fixOnce s.timeline label .multipleStateVariables
      let conflict := ShapeViolation.conflictingTransitionTarget point
      match point with
      | .start =>
        let temporary ← fixOnce s.temporary name conflict
        return { s with timeline := timeline, temporary := temporary }
      | .finish =>
        let final ← fixOnce s.final name conflict
        return { s with timeline := timeline, final := final }
  else .error (.nonFiniteAssignTarget label)

/-- One effect of the action. -/
def addEffect (d : Draft) (s : EffectState) (e : Effect) :
    Except ShapeViolation EffectState :=
  let label := e.target.label
  if e.isUnconditional then
    match e.timing.point? with
    | none => .error (.unsupportedEffectTiming label)
    | some point =>
      match e.kind with
      | .assign => s.addAssign d point label e.value
      | .increase => do s.addUse (.ofChange true point) (← d.resourceUse label e.value)
      | .decrease => do s.addUse (.ofChange false point) (← d.resourceUse label e.value)
  else .error (.conditionalEffect label)

/-- What is taken or offered at the start is returned at the end in equal amount. -/
def isBalanced (s : EffectState) : Bool :=
  s.provided == s.withdrawn && s.consumed == s.released

end EffectState

/-- What the effects of an action do, on the timeline that its conditions ask for. -/
def effectState (d : Draft) (timeline : Option String) (a : DurativeAction) :
    Except ShapeViolation EffectState :=
  a.effects.foldlM (EffectState.addEffect d) (.start timeline)

/-! ## The whole action -/

/-- The value of a slot that an action has to fill. -/
def require (slot : Option String) (part : TransitionPart) : Except ShapeViolation String :=
  match slot with
  | some value => .ok value
  | none => .error (.missingTransition part)

/-- Refuses a value that the timeline does not have. -/
def Draft.requireValue (d : Draft) (timeline value : String) (part : TransitionPart) :
    Except ShapeViolation Unit :=
  if d.hasValue timeline value then .ok () else .error (.unknownValue timeline value part)

/-- The transition that an action makes. -/
def Transition.ofDurative (d : Draft) (policy : EndConditions) (a : DurativeAction) :
    Except ShapeViolation Transition := do
  if !a.simulated.isEmpty then throw .simulatedEffects
  let duration ← a.duration.fixed?
  let asked ← sourceState d policy a
  let done ← effectState d asked.timeline a
  if !done.isBalanced then throw .resourceAsymmetry
  let timeline ← require done.timeline .source
  let source ← require asked.source .source
  let temporary ← require done.temporary .temporary
  let final ← require done.final .final
  d.requireValue timeline source .source
  d.requireValue timeline temporary .temporary
  d.requireValue timeline final .final
  return ⟨a.name, timeline, source, temporary, final, duration, done.provided, done.consumed⟩

def Transition.ofAction (d : Draft) (policy : EndConditions) (action : Action) :
    Except ShapeViolation Transition :=
  match action with
  | .instantaneous _ => .error .notDurative
  | .durative a => Transition.ofDurative d policy a

end PlanTimelines
