import PlanTimelines.Problem

/-! Two rovers that drive and transmit, with one antenna for both. The parameters of
fluents and actions make five timelines, one resource and five actions of it. -/

namespace PlanTimelines.Example.Rovers

/-- A fluent of the rover that is the parameter of an action. -/
def ofRover (fluent : String) : StateVar := ⟨fluent, [.param "r"]⟩

def antenna : StateVar := .ofName "antenna"

def bandwidth : StateVar := .ofName "bandwidth"

def drive : DurativeAction :=
  DurativeAction.ofDuration "drive" (.fixed 6)
    |>.addParam "r" "Rover"
    |>.addCondition (.instant .atStart) ((ofRover "at").hasValue "base")
    |>.addAssign .atStart (ofRover "at") (.object "track")
    |>.addAssign .atEnd (ofRover "at") (.object "crater")

def transmit : DurativeAction :=
  DurativeAction.ofDuration "transmit" (.fixed 2)
    |>.addParam "r" "Rover"
    |>.addCondition (.instant .atStart) ((ofRover "radio").hasValue "Silent")
    |>.addAssign .atStart (ofRover "radio") (.object "Sending")
    |>.addAssign .atEnd (ofRover "radio") (.object "Sent")
    |>.addDecrease .atStart bandwidth 1
    |>.addIncrease .atEnd bandwidth 1

def deploy : DurativeAction :=
  DurativeAction.ofDuration "deploy" (.fixed 20)
    |>.addCondition (.instant .atStart) (antenna.hasValue "Folded")
    |>.addAssign .atStart antenna (.object "Open")
    |>.addAssign .atEnd antenna (.object "Folded")
    |>.addIncrease .atStart bandwidth 2
    |>.addDecrease .atEnd bandwidth 2

def problem : Problem :=
  Problem.empty "rovers"
    |>.addType "Rover"
    |>.addType "Place"
    |>.addUserType ⟨"Location", some "Place"⟩
    |>.addUserType ⟨"Road", some "Place"⟩
    |>.addType "Radio"
    |>.addType "Antenna"
    |>.addObject "r1" "Rover"
    |>.addObject "r2" "Rover"
    |>.addObject "base" "Location"
    |>.addObject "crater" "Location"
    |>.addObject "track" "Road"
    |>.addObject "Silent" "Radio"
    |>.addObject "Sending" "Radio"
    |>.addObject "Sent" "Radio"
    |>.addObject "Folded" "Antenna"
    |>.addObject "Open" "Antenna"
    |>.addFluent ⟨"at", [⟨"r", "Rover"⟩], .user "Place"⟩
    |>.addFluent ⟨"radio", [⟨"r", "Rover"⟩], .user "Radio"⟩
    |>.addFluent ⟨"antenna", [], .user "Antenna"⟩
    |>.addFluent ⟨"bandwidth", [], .int⟩
    |>.addFluentDefault "at" (.object "base")
    |>.addFluentDefault "radio" (.object "Silent")
    |>.addInitialValue antenna.toTerm (.object "Folded")
    |>.addInitialValue bandwidth.toTerm (.int 0)
    |>.addGoal (.and
      [StateVar.hasValue ⟨"at", [.object "r1"]⟩ "crater",
        StateVar.hasValue ⟨"radio", [.object "r2"]⟩ "Sent"])
    |>.addAction (.durative drive)
    |>.addAction (.durative transmit)
    |>.addAction (.durative deploy)

end PlanTimelines.Example.Rovers
