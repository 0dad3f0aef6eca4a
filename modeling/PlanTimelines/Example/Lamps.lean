import PlanTimelines.Problem

/-! Two lamps on one supply. All lamps start at `Off` by default, and the second one is said to
start at `On`. -/

namespace PlanTimelines.Example.Lamps

/-- The mode of a lamp. -/
def modeOf (lamp : String) : StateVar := ⟨"mode", [.object lamp]⟩

def problem : Problem :=
  Problem.empty "lamps"
    |>.addType "Lamp"
    |>.addType "Mode"
    |>.addObject "l1" "Lamp"
    |>.addObject "l2" "Lamp"
    |>.addObject "Off" "Mode"
    |>.addObject "On" "Mode"
    |>.addFluent ⟨"mode", [⟨"lamp", "Lamp"⟩], .user "Mode"⟩
    |>.addFluent ⟨"supplied", [], .bool⟩
    |>.addFluent ⟨"power", [], .int⟩
    |>.addFluentDefault "mode" (.object "Off")
    |>.addFluentDefault "power" (.int 0)
    |>.addInitialValue (modeOf "l2").toTerm (.object "On")

/-- The first lamp is to be on and the second one off, and after that the first one off too. -/
def allOff : Problem :=
  problem
    |>.addGoal (.and [(modeOf "l1").hasValue "On", .and [], .and [(modeOf "l2").hasValue "Off"]])
    |>.addGoal ((modeOf "l1").hasValue "Off")

/-- The same goals without conjunctions. -/
def allOffInTurn : Problem :=
  problem
    |>.addGoal ((modeOf "l1").hasValue "On")
    |>.addGoal ((modeOf "l2").hasValue "Off")
    |>.addGoal ((modeOf "l1").hasValue "Off")

end PlanTimelines.Example.Lamps
