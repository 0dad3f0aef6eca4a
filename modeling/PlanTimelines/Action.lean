import PlanTimelines.Term.Substitution

/-! Actions of a planning problem: when their conditions and effects hold, and
what an action becomes when its parameters are bound. -/

namespace PlanTimelines

inductive Anchor where
  | actionStart
  | actionEnd
  /-- The time of the initial state. -/
  | globalStart
  /-- The time of the final state. -/
  | globalEnd
deriving DecidableEq, Repr

/-- An anchor shifted by a constant delay. -/
structure Timing where
  anchor : Anchor
  delay : Int
deriving DecidableEq, Repr

namespace Timing

def atStart : Timing := ⟨.actionStart, 0⟩

def atEnd : Timing := ⟨.actionEnd, 0⟩

/-- Exactly the start of the action. -/
def isStart (t : Timing) : Bool :=
  t == atStart

/-- Exactly the end of the action. -/
def isEnd (t : Timing) : Bool :=
  t == atEnd

end Timing

/-- The time over which a condition must hold. -/
structure Interval where
  lower : Timing
  upper : Timing
  openLower : Bool
  openUpper : Bool
deriving DecidableEq, Repr

namespace Interval

/-- The single instant of a timing. -/
def instant (t : Timing) : Interval := ⟨t, t, false, false⟩

/-- From the start of the action to its end, both included. -/
def overall : Interval := ⟨.atStart, .atEnd, false, false⟩

/-- Both ends are the start of the action, whether open or not. -/
def isAtStart (i : Interval) : Bool :=
  i.lower.isStart && i.upper.isStart

/-- Both ends are the end of the action, whether open or not. -/
def isAtEnd (i : Interval) : Bool :=
  i.lower.isEnd && i.upper.isEnd

end Interval

structure TimedCondition where
  interval : Interval
  condition : Term

/-- The durations an action may have. -/
structure DurationRange where
  lower : Term
  upper : Term
  openLower : Bool
  openUpper : Bool

def DurationRange.closed (lower upper : Term) : DurationRange :=
  ⟨lower, upper, false, false⟩

def DurationRange.fixed (duration : Int) : DurationRange :=
  closed (.int duration) (.int duration)

inductive EffectKind where
  | assign
  | increase
  | decrease
deriving DecidableEq, Repr

/-- A change of one state variable, made only where the guard holds. -/
structure Effect where
  timing : Timing
  kind : EffectKind
  target : StateVar
  value : Term
  guard : Option Term

/-- No guard, or one that is literally `true`. -/
def Effect.isUnconditional (e : Effect) : Bool :=
  e.guard.all Term.isTrue

/-- A change computed outside the model. -/
structure SimulatedEffect where
  timing : Timing
  targets : List StateVar

/-- A named and typed parameter of a fluent or an action. -/
structure Param where
  name : String
  typeName : String
deriving DecidableEq, Repr

structure DurativeAction where
  name : String
  params : List Param
  duration : DurationRange
  conditions : List TimedCondition
  effects : List Effect
  simulated : List SimulatedEffect

structure InstantaneousAction where
  name : String
  params : List Param
  preconditions : List Term
  effects : List Effect

inductive Action where
  | instantaneous (action : InstantaneousAction)
  | durative (action : DurativeAction)

namespace Action

def name : Action → String
  | .instantaneous a => a.name
  | .durative a => a.name

def params : Action → List Param
  | .instantaneous a => a.params
  | .durative a => a.params

def durative? : Action → Option DurativeAction
  | .instantaneous _ => none
  | .durative a => some a

end Action

/-! ## Substitution -/

def TimedCondition.substitute (b : Bindings) (c : TimedCondition) : TimedCondition :=
  { c with condition := c.condition.substitute b }

def DurationRange.substitute (b : Bindings) (d : DurationRange) : DurationRange :=
  { d with lower := d.lower.substitute b, upper := d.upper.substitute b }

def Effect.substitute (b : Bindings) (e : Effect) : Effect :=
  { e with
    target := e.target.substitute b
    value := e.value.substitute b
    guard := e.guard.map (Term.substitute b) }

def SimulatedEffect.substitute (b : Bindings) (s : SimulatedEffect) : SimulatedEffect :=
  { s with targets := s.targets.map (StateVar.substitute b) }

/-- The action under a new name with its bound parameters replaced everywhere;
it has no parameters left. -/
def DurativeAction.instantiate (a : DurativeAction) (name : String) (b : Bindings) :
    DurativeAction where
  name := name
  params := []
  duration := a.duration.substitute b
  conditions := a.conditions.map (TimedCondition.substitute b)
  effects := a.effects.map (Effect.substitute b)
  simulated := a.simulated.map (SimulatedEffect.substitute b)

/-! ## Building -/

namespace DurativeAction

/-- An action with a duration and nothing else. -/
def ofDuration (name : String) (duration : DurationRange) : DurativeAction :=
  ⟨name, [], duration, [], [], []⟩

def addParam (a : DurativeAction) (name typeName : String) : DurativeAction :=
  { a with params := a.params ++ [⟨name, typeName⟩] }

def addCondition (a : DurativeAction) (interval : Interval) (condition : Term) :
    DurativeAction :=
  { a with conditions := a.conditions ++ [⟨interval, condition⟩] }

def addEffect (a : DurativeAction) (e : Effect) : DurativeAction :=
  { a with effects := a.effects ++ [e] }

def addSimulated (a : DurativeAction) (s : SimulatedEffect) : DurativeAction :=
  { a with simulated := a.simulated ++ [s] }

/-- Sets a state variable, unguarded, when the action starts or ends. -/
def addAssign (a : DurativeAction) (timing : Timing) (target : StateVar) (value : Term) :
    DurativeAction :=
  a.addEffect ⟨timing, .assign, target, value, none⟩

/-- Raises a state variable by a constant amount. -/
def addIncrease (a : DurativeAction) (timing : Timing) (target : StateVar) (amount : Int) :
    DurativeAction :=
  a.addEffect ⟨timing, .increase, target, .int amount, none⟩

/-- Lowers a state variable by a constant amount. -/
def addDecrease (a : DurativeAction) (timing : Timing) (target : StateVar) (amount : Int) :
    DurativeAction :=
  a.addEffect ⟨timing, .decrease, target, .int amount, none⟩

end DurativeAction

end PlanTimelines
