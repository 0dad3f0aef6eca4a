import PlanTimelines.Example.Rovers

/-! The two rovers and a scout, which is a rover of a smaller type. Only the scout surveys,
from the base and while the first rover is off the track. -/

namespace PlanTimelines.Example.Scouts

/-- Where a rover is. -/
def location : Fluent := ⟨"at", [⟨"r", "Rover"⟩], .user "Place"⟩

def atScout : StateVar := ⟨"at", [.param "s"]⟩

def atFirstRover : StateVar := ⟨"at", [.object "r1"]⟩

def survey : DurativeAction :=
  DurativeAction.ofDuration "survey" (.fixed 3)
    |>.addParam "s" "Scout"
    |>.addCondition (.instant .atStart)
      (.and [atScout.hasValue "base", .not (atFirstRover.hasValue "track")])
    |>.addAssign .atStart atScout (.object "track")
    |>.addAssign .atEnd atScout (.object "base")

def problem : Problem :=
  Rovers.problem
    |>.addUserType ⟨"Scout", some "Rover"⟩
    |>.addObject "s1" "Scout"
    |>.addAction (.durative survey)

end PlanTimelines.Example.Scouts
