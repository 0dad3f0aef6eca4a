import PlanTimelines.Json.Decode
import PlanTimelines.Timeline.Export

/-! Reading timeline problems back from JSON. -/

namespace PlanTimelines

def Relation.ofJson? : Json → Option Relation
  | .string "MetBy" => some .metBy
  | .string "Meets" => some .meets
  | .string "Cover" => some .cover
  | _ => none

def Link.ofJson? (j : Json) : Option Link := do
  return ⟨← j.get? "timeline" Json.string?, ← j.get? "value" Json.string?,
    ← j.get? "relation" Relation.ofJson?, ← j.get? "amount" Json.word?⟩

def Condition.ofJson? (j : Json) : Option Condition := do
  match ← j.case? with
  | ("Temporal", contents) => (Link.ofJson? contents).map .single
  | ("Or", contents) => (Json.listOf? Link.ofJson? contents).map .anyOf
  | _ => none

def DurationBounds.ofJson? (j : Json) : Option DurationBounds := do
  return ⟨← j.get? "min" Json.word?, ← j.getIfAny? "max" Json.word?⟩

def TokenType.ofJson? (j : Json) : Option TokenType := do
  return ⟨← j.get? "value" Json.string?, ← j.get? "conditions" (Json.listOf? Condition.ofJson?),
    ← j.get? "duration" DurationBounds.ofJson?, ← j.get? "capacity" Json.word?⟩

def TokenTime.ofJson? : Json → Option TokenTime
  | .string "Goal" => some .goal
  | .object [("Fact", contents)] => do
    return .fact (← contents.getIfAny? "start" Json.word?) (← contents.getIfAny? "end" Json.word?)
  | _ => none

def StaticToken.ofJson? (j : Json) : Option StaticToken := do
  return ⟨← j.get? "value" Json.string?, ← j.get? "time" TokenTime.ofJson?,
    ← j.get? "capacity" Json.word?, ← j.get? "conditions" (Json.listOf? Condition.ofJson?)⟩

def Timeline.ofJson? (j : Json) : Option Timeline := do
  return ⟨← j.get? "name" Json.string?, ← j.get? "token_types" (Json.listOf? TokenType.ofJson?),
    ← j.get? "static_tokens" (Json.listOf? StaticToken.ofJson?)⟩

def TimelineProblem.ofJson? (j : Json) : Option TimelineProblem := do
  return ⟨← j.get? "timelines" (Json.listOf? Timeline.ofJson?)⟩

end PlanTimelines
