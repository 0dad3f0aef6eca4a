import PlanTimelines.Problem
import PlanTimelines.Transition

/-! A single switch: `mode` starts at `Idle`, and `activate` leads it to `Active` for
five units of time and back. -/

namespace PlanTimelines.Example.Switch

def mode : StateVar := .ofName "mode"

def activate : DurativeAction :=
  DurativeAction.ofDuration "activate" (.fixed 5)
    |>.addCondition (.instant .atStart) (mode.hasValue "Idle")
    |>.addAssign .atStart mode (.object "Active")
    |>.addAssign .atEnd mode (.object "Idle")

/-- Activation with a duration and a start that are open on one side, so that there is no time
in them. -/
def activateOpen : DurativeAction :=
  { activate with
    duration := { activate.duration with openLower := true }
    conditions := [⟨{ Interval.instant .atStart with openUpper := true }, mode.hasValue "Idle"⟩] }

/-- The way of `activate` through its timeline. -/
def activation : Transition where
  action := "activate"
  timeline := "mode"
  source := "Idle"
  temporary := "Active"
  final := "Idle"
  duration := 5
  provides := none
  consumes := none

/-- Types, objects and fluents, without actions. -/
def domain : Problem :=
  Problem.empty "switch"
    |>.addType "Mode"
    |>.addObject "Idle" "Mode"
    |>.addObject "Active" "Mode"
    |>.addFluent ⟨"mode", [], .user "Mode"⟩

def problem : Problem :=
  domain
    |>.addAction (.durative activate)
    |>.addInitialValue mode.toTerm (.object "Idle")

/-- The switch, when it starts in the middle of what `activate` does. -/
def startedActive : Problem :=
  domain
    |>.addAction (.durative activate)
    |>.addInitialValue mode.toTerm (.object "Active")

/-- The switch, when `activate` is also to find its timeline at `Active` at the end. -/
def guarded : Problem :=
  domain
    |>.addAction (.durative
      (activate.addCondition (.instant .atEnd) (mode.hasValue "Active")))

/-- The mode is declared twice, and it is to be `Active` in the end. -/
def declaredTwice : Problem :=
  domain
    |>.addFluent ⟨"mode", [], .user "Mode"⟩
    |>.addGoal (mode.hasValue "Active")

end PlanTimelines.Example.Switch
