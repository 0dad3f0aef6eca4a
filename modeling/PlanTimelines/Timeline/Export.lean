import PlanTimelines.Json.Encode
import PlanTimelines.Timeline

/-! Timeline problems as JSON. A record is an object with its fields in order, an
absent value is `null`, and a case with contents is an object of one field that
names the case. -/

namespace PlanTimelines

def Relation.toJson : Relation → Json
  | .metBy => .string "MetBy"
  | .meets => .string "Meets"
  | .cover => .string "Cover"

def Link.toJson (l : Link) : Json :=
  .object [("timeline", .string l.timeline), ("value", .string l.value),
    ("relation", l.relation.toJson), ("amount", .word l.amount)]

def Condition.toJson : Condition → Json
  | .single link => .object [("Temporal", link.toJson)]
  | .anyOf links => .object [("Or", .listOf Link.toJson links)]

def DurationBounds.toJson (b : DurationBounds) : Json :=
  .object [("min", .word b.min), ("max", .orNull .word b.max)]

def TokenType.toJson (t : TokenType) : Json :=
  .object [("value", .string t.value), ("conditions", .listOf Condition.toJson t.conditions),
    ("duration", t.duration.toJson), ("capacity", .word t.capacity)]

def TokenTime.toJson : TokenTime → Json
  | .goal => .string "Goal"
  | .fact start finish =>
    .object [("Fact", .object [("start", .orNull .word start),
      ("end", .orNull .word finish)])]

def StaticToken.toJson (t : StaticToken) : Json :=
  .object [("value", .string t.value), ("time", t.time.toJson),
    ("capacity", .word t.capacity), ("conditions", .listOf Condition.toJson t.conditions)]

def Timeline.toJson (t : Timeline) : Json :=
  .object [("name", .string t.name), ("token_types", .listOf TokenType.toJson t.tokenTypes),
    ("static_tokens", .listOf StaticToken.toJson t.staticTokens)]

def TimelineProblem.toJson (p : TimelineProblem) : Json :=
  .object [("timelines", .listOf Timeline.toJson p.timelines)]

/-- The exported text of a problem. -/
def TimelineProblem.jsonText (p : TimelineProblem) : String :=
  p.toJson.text

end PlanTimelines
