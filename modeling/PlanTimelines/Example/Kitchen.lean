import PlanTimelines.Problem

/-! A generator that provides power to a kettle. While `gen` is `Running` it provides
two units of `power`; while `kettle` is `Heating` it holds one. -/

namespace PlanTimelines.Example.Kitchen

def generator : StateVar := .ofName "gen"

def kettle : StateVar := .ofName "kettle"

def power : StateVar := .ofName "power"

def run : DurativeAction :=
  DurativeAction.ofDuration "run" (.fixed 10)
    |>.addCondition (.instant .atStart) (generator.hasValue "Off")
    |>.addAssign .atStart generator (.object "Running")
    |>.addAssign .atEnd generator (.object "Off")
    |>.addIncrease .atStart power 2
    |>.addDecrease .atEnd power 2

/-- Heating that holds one unit of power and gives back `released` units. -/
def heatReleasing (released : Int) : DurativeAction :=
  DurativeAction.ofDuration "heat" (.fixed 4)
    |>.addCondition (.instant .atStart) (kettle.hasValue "Cold")
    |>.addAssign .atStart kettle (.object "Heating")
    |>.addAssign .atEnd kettle (.object "Hot")
    |>.addDecrease .atStart power 1
    |>.addIncrease .atEnd power released

def heat : DurativeAction := heatReleasing 1

/-- Types, objects and fluents, without actions. -/
def domain : Problem :=
  Problem.empty "kitchen"
    |>.addType "Gen"
    |>.addType "Kettle"
    |>.addObject "Off" "Gen"
    |>.addObject "Running" "Gen"
    |>.addObject "Cold" "Kettle"
    |>.addObject "Heating" "Kettle"
    |>.addObject "Hot" "Kettle"
    |>.addFluent ⟨"gen", [], .user "Gen"⟩
    |>.addFluent ⟨"kettle", [], .user "Kettle"⟩
    |>.addFluent ⟨"power", [], .int⟩

def problem : Problem :=
  domain
    |>.addAction (.durative run)
    |>.addAction (.durative heat)
    |>.addInitialValue generator.toTerm (.object "Off")
    |>.addInitialValue kettle.toTerm (.object "Cold")
    |>.addInitialValue power.toTerm (.int 0)
    |>.addGoal (kettle.hasValue "Hot")

/-- The kitchen, when the kettle is hot already and nothing is asked for. -/
def hot : Problem :=
  { problem with
    name := "hot kitchen"
    initialValues := [(kettle, .object "Hot")]
    goals := [] }

/-- The kitchen without an action that heats. -/
def unheated : Problem :=
  { problem with actions := [.durative run] }

/-- Running the generator, when that takes a unit of the power it provides. -/
def runSelfPowered : DurativeAction :=
  run
    |>.addDecrease .atStart power 1
    |>.addIncrease .atEnd power 1

/-- The kitchen with a generator that runs on its own power. -/
def selfPowered : Problem :=
  { domain with
    name := "self-powered kitchen"
    actions := [.durative runSelfPowered] }

end PlanTimelines.Example.Kitchen
