import PlanTimelines.Json.Decode
import PlanTimelines.Json.Encode
import PlanTimelines.Settings

/-! Settings as JSON. Each field may be missing, and then has its default. -/

namespace PlanTimelines

namespace EndConditions

def toJson : EndConditions → Json
  | .ignore => .string "ignore"
  | .reject => .string "reject"

def ofJson? : Json → Option EndConditions
  | .string "ignore" => some .ignore
  | .string "reject" => some .reject
  | _ => none

end EndConditions

namespace Threads

def toJson : Threads → Json
  | .auto => .string "auto"
  | .none => .string "none"
  | .count threads => .object [("count", .integer threads)]

def ofJson? : Json → Option Threads
  | .string "auto" => some .auto
  | .string "none" => some .none
  | .object [("count", threads)] => threads.nat64?.map .count
  | _ => Option.none

end Threads

namespace Settings

def toJson (s : Settings) : Json :=
  .object [("end_conditions", s.endConditions.toJson),
    ("unbounded_min_duration", .word s.unboundedMinDuration),
    ("synthesis_threads", s.threads.toJson)]

/-- Settings with the fields of a document in place of their own. -/
def updated? (s : Settings) (j : Json) : Option Settings := do
  match j with
  | .object _ =>
    let endConditions ← j.getIfAny? "end_conditions" EndConditions.ofJson?
    let least ← j.getIfAny? "unbounded_min_duration" Json.word?
    let threads ← j.getIfAny? "synthesis_threads" Threads.ofJson?
    return ⟨endConditions.getD s.endConditions, least.getD s.unboundedMinDuration,
      threads.getD s.threads⟩
  | _ => none

def ofJson? (j : Json) : Option Settings :=
  default.updated? j

end Settings

end PlanTimelines
