/-! Why a planning problem is refused. Each reason is a constructor, and its
wording is in one place. -/

namespace PlanTimelines

/-- The ends of a durative action. -/
inductive ActionPoint where
  | start
  | finish
deriving DecidableEq, Repr

def ActionPoint.text : ActionPoint → String
  | .start => "start"
  | .finish => "end"

/-- The values that an action leads its timeline through. -/
inductive TransitionPart where
  | source
  | temporary
  | final
deriving DecidableEq, Repr

def TransitionPart.text : TransitionPart → String
  | .source => "transition source"
  | .temporary => "temporary value"
  | .final => "final value"

/-- The four ways in which an action can touch a resource. -/
inductive Flow where
  | provided
  | withdrawn
  | consumed
  | released
deriving DecidableEq, Repr

namespace Flow

def text : Flow → String
  | .provided => "provided"
  | .withdrawn => "withdrawn"
  | .consumed => "consumed"
  | .released => "released"

/-- What an action takes or offers at its start it returns at its end. -/
def point : Flow → ActionPoint
  | .provided | .consumed => .start
  | .withdrawn | .released => .finish

end Flow

/-- Why an action does not have the supported shape. -/
inductive ShapeViolation where
  | notDurative
  | simulatedEffects
  | nonConstantDuration
  | asymmetricDuration (lower upper : Int)
  | invalidDuration (duration : Int)
  | unsupportedConditionTiming
  | nonEqualityCondition
  | notATimeline (fluent : String)
  | multipleStateVariables (first second : String)
  | conflictingTransitionFrom (first second : String)
  | conditionalEffect (fluent : String)
  | unsupportedEffectTiming (fluent : String)
  | notAResource (fluent : String)
  | invalidResourceAmount (resource : String)
  | multipleResources (flow : Flow)
  | nonFiniteAssignTarget (fluent : String)
  | nonConstantAssignment (fluent : String)
  | conflictingTransitionTarget (point : ActionPoint) (first second : String)
  | endCondition (fluent : String)
  | missingTransition (part : TransitionPart)
  | unknownValue (timeline value : String) (part : TransitionPart)
  | resourceAsymmetry
  | conflictingValueClaim (timeline value claimedBy : String)
deriving DecidableEq, Repr

def ShapeViolation.message : ShapeViolation → String
  | .notDurative => "action is not durative"
  | .simulatedEffects => "simulated effects are not supported"
  | .nonConstantDuration => "duration bounds must be integer constants"
  | .asymmetricDuration lower upper =>
    s!"duration lower bound {lower} differs from upper bound {upper}"
  | .invalidDuration duration => s!"duration {duration} is not a valid token duration"
  | .unsupportedConditionTiming => "condition is not attached to the action start"
  | .nonEqualityCondition =>
    "condition is not an equality between a state variable and a value"
  | .notATimeline fluent => s!"`{fluent}` is not a timeline state variable"
  | .multipleStateVariables first second =>
    s!"references state variables `{first}` and `{second}`"
  | .conflictingTransitionFrom first second =>
    s!"start conditions require both `{first}` and `{second}`"
  | .conditionalEffect fluent => s!"effect on `{fluent}` has a guard condition"
  | .unsupportedEffectTiming fluent =>
    s!"effect on `{fluent}` is not at the action start or end"
  | .notAResource fluent => s!"`{fluent}` is not an integer resource"
  | .invalidResourceAmount resource =>
    s!"amount for `{resource}` must be a non-negative integer constant"
  | .multipleResources flow =>
    s!"more than one resource {flow.text} at the action {flow.point.text}"
  | .nonFiniteAssignTarget fluent =>
    s!"assignment target `{fluent}` is not a finite-domain state variable"
  | .nonConstantAssignment fluent => s!"assignment to `{fluent}` is not an object constant"
  | .conflictingTransitionTarget point first second =>
    s!"conflicting {point.text} assignments `{first}` and `{second}`"
  | .endCondition fluent => s!"end condition on `{fluent}` is not allowed"
  | .missingTransition part => s!"missing {part.text}"
  | .unknownValue timeline value part =>
    s!"{part.text} `{value}` is not a value of timeline `{timeline}`"
  | .resourceAsymmetry => "resource use differs between action start and end"
  | .conflictingValueClaim timeline value claimedBy =>
    s!"value `{value}` of `{timeline}` is already claimed by `{claimedBy}` " ++
      "with a different footprint"

/-- Why an initial value is not supported. -/
inductive InitialValueFault where
  | perTypeDefault
  | undeclaredFluent
  | notGround
  | nonzeroResource (value : Int)
  | notAnInteger (term : String)
  | unknownStateVariable
  | notAConstant (term : String)
  | notAValue (value : String)
deriving DecidableEq, Repr

def InitialValueFault.message : InitialValueFault → String
  | .perTypeDefault => "per-type initial defaults are not supported"
  | .undeclaredFluent => "default for an undeclared fluent"
  | .notGround => "state variable is not ground"
  | .nonzeroResource value => s!"resource must start at 0, not {value}"
  | .notAnInteger term => s!"`{term}` is not an integer constant"
  | .unknownStateVariable => "unknown state variable"
  | .notAConstant term => s!"`{term}` is not an object constant"
  | .notAValue value => s!"`{value}` is not a value of the timeline"

/-- Why a goal is not of the form `timeline = value`. -/
inductive GoalFault where
  | notAnEquality (goal : String)
  | notGround (term : String)
  | resource (key : String)
  | notATimeline (key : String)
  | notAConstant (term : String)
  | notAValue (value key : String)
deriving DecidableEq, Repr

def GoalFault.message : GoalFault → String
  | .notAnEquality goal => s!"`{goal}` is not an equality"
  | .notGround term => s!"`{term}` is not a ground state variable"
  | .resource key => s!"resource `{key}` cannot be a goal"
  | .notATimeline key => s!"`{key}` is not a timeline"
  | .notAConstant term => s!"`{term}` is not an object constant"
  | .notAValue value key => s!"`{value}` is not a value of `{key}`"

/-- Why a problem is not converted. -/
inductive ConversionError where
  | unsupportedParameterType (owner typeName : String)
  | unsupportedFluentType (fluent typeName : String)
  | unsupportedInitialValue (fluent : String) (fault : InitialValueFault)
  | unsupportedGoal (fault : GoalFault)
  | unsupportedAction (action : String) (violation : ShapeViolation)
  | providerConflict (resource : String) (providers : Nat)
deriving DecidableEq, Repr

def ConversionError.message : ConversionError → String
  | .unsupportedParameterType owner typeName =>
    s!"Unsupported parameter type `{typeName}` in `{owner}`"
  | .unsupportedFluentType fluent typeName =>
    s!"Unsupported value type `{typeName}` for fluent `{fluent}`"
  | .unsupportedInitialValue fluent fault =>
    s!"Unsupported initial value for `{fluent}`: {fault.message}"
  | .unsupportedGoal fault => s!"Unsupported goal shape: {fault.message}"
  | .unsupportedAction action violation =>
    s!"Unsupported shape in action `{action}`: {violation.message}"
  | .providerConflict resource providers =>
    s!"Resource `{resource}` has {providers} providers, expected exactly one"

end PlanTimelines
