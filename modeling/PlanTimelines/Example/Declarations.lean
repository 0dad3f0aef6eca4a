import PlanTimelines.Problem

/-! Small problems with something out of the ordinary in what they declare: a type without
objects, names that have a comma or are numbers, and types in a circle. -/

namespace PlanTimelines.Example

/-! ## Rovers whose battery levels are real numbers

There are no rovers yet. -/

namespace Fleet

def battery : Fluent := ⟨"battery", [⟨"r", "Rover"⟩], .real⟩

def problem : Problem :=
  Problem.empty "fleet"
    |>.addType "Rover"
    |>.addFluent battery

end Fleet

/-! ## Roads from cities to counties

Two of the names have a comma, and the road from `Paris` to `Texas, Lamar` has the same key as
the one from `Paris, Texas` to `Lamar`. -/

namespace Roads

def problem : Problem :=
  Problem.empty "roads"
    |>.addType "City"
    |>.addType "County"
    |>.addObject "Paris" "City"
    |>.addObject "Paris, Texas" "City"
    |>.addObject "Lamar" "County"
    |>.addObject "Texas, Lamar" "County"
    |>.addFluent ⟨"road", [⟨"x", "City"⟩, ⟨"y", "County"⟩], .bool⟩

end Roads

/-! ## Vehicles whose types run in a circle

A rover is a vehicle, a vehicle a machine, and a machine a rover. A scout is a rover, and a drone
is an aircraft, which is not declared. -/

namespace Vehicles

def problem : Problem :=
  Problem.empty "vehicles"
    |>.addUserType ⟨"Rover", some "Vehicle"⟩
    |>.addUserType ⟨"Vehicle", some "Machine"⟩
    |>.addUserType ⟨"Machine", some "Rover"⟩
    |>.addUserType ⟨"Scout", some "Rover"⟩
    |>.addUserType ⟨"Drone", some "Aircraft"⟩
    |>.addObject "m1" "Machine"
    |>.addObject "s1" "Scout"
    |>.addObject "d1" "Drone"
    |>.addObject "r1" "Rover"

end Vehicles

/-! ## A lift door on each of two floors

The floors are named by their numbers. The action that opens the lower door is given the number
in place of the floor. -/

namespace Floors

def lowerDoor : StateVar := ⟨"door", [.int 1]⟩

def openDoor : DurativeAction :=
  DurativeAction.ofDuration "open" (.fixed 5)
    |>.addCondition (.instant .atStart) (.eq lowerDoor.toTerm (.bool false))
    |>.addAssign .atStart lowerDoor (.bool true)
    |>.addAssign .atEnd lowerDoor (.bool false)

def problem : Problem :=
  Problem.empty "floors"
    |>.addType "Floor"
    |>.addObject "1" "Floor"
    |>.addObject "2" "Floor"
    |>.addFluent ⟨"door", [⟨"floor", "Floor"⟩], .bool⟩
    |>.addAction (.durative openDoor)

end Floors

end PlanTimelines.Example
