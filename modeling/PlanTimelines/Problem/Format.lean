import PlanTimelines.Problem
import PlanTimelines.Term.Format

/-! Planning problems as JSON. A record is an object of its fields, a kind without
contents is its name, and a kind with contents is an object of one field that names
it. Fields that are not known are skipped. -/

namespace PlanTimelines

namespace ValueType

def toJson : ValueType → Json
  | .bool => .string "Bool"
  | .int => .string "Int"
  | .real => .string "Real"
  | .user name => .object [("User", .string name)]

def ofJson? : Json → Option ValueType
  | .string "Bool" => some .bool
  | .string "Int" => some .int
  | .string "Real" => some .real
  | .object [("User", .string name)] => some (.user name)
  | _ => none

end ValueType

namespace UserType

def toJson (t : UserType) : Json :=
  .object [("name", .string t.name), ("parent", .orNull .string t.parent)]

def ofJson? (j : Json) : Option UserType := do
  return ⟨← j.get? "name" Json.string?, ← j.getIfAny? "parent" Json.string?⟩

end UserType

namespace ObjectDecl

def toJson (o : ObjectDecl) : Json :=
  .object [("name", .string o.name), ("type_name", .string o.typeName)]

def ofJson? (j : Json) : Option ObjectDecl := do
  return ⟨← j.get? "name" Json.string?, ← j.get? "type_name" Json.string?⟩

end ObjectDecl

namespace Param

def toJson (p : Param) : Json :=
  .object [("name", .string p.name), ("type_name", .string p.typeName)]

def ofJson? (j : Json) : Option Param := do
  return ⟨← j.get? "name" Json.string?, ← j.get? "type_name" Json.string?⟩

end Param

namespace Fluent

def toJson (f : Fluent) : Json :=
  .object [("name", .string f.name), ("parameters", .listOf Param.toJson f.params),
    ("value_type", f.valueType.toJson)]

def ofJson? (j : Json) : Option Fluent := do
  return ⟨← j.get? "name" Json.string?, ← j.get? "parameters" (Json.listOf? Param.ofJson?),
    ← j.get? "value_type" ValueType.ofJson?⟩

end Fluent

namespace Timing

def anchorJson : Anchor → Json
  | .actionStart => .string "Start"
  | .actionEnd => .string "End"
  | .globalStart => .string "GlobalStart"
  | .globalEnd => .string "GlobalEnd"

def anchorOfJson? : Json → Option Anchor
  | .string "Start" => some .actionStart
  | .string "End" => some .actionEnd
  | .string "GlobalStart" => some .globalStart
  | .string "GlobalEnd" => some .globalEnd
  | _ => none

def toJson (t : Timing) : Json :=
  .object [("anchor", anchorJson t.anchor), ("delay", .integer t.delay)]

def ofJson? (j : Json) : Option Timing := do
  return ⟨← j.get? "anchor" anchorOfJson?, ← j.get? "delay" Json.int64?⟩

end Timing

namespace Interval

def toJson (i : Interval) : Json :=
  .object [("lower", i.lower.toJson), ("upper", i.upper.toJson),
    ("open_lower", .bool i.openLower), ("open_upper", .bool i.openUpper)]

def ofJson? (j : Json) : Option Interval := do
  return ⟨← j.get? "lower" Timing.ofJson?, ← j.get? "upper" Timing.ofJson?,
    ← j.get? "open_lower" Json.bool?, ← j.get? "open_upper" Json.bool?⟩

end Interval

namespace TimedCondition

def toJson (c : TimedCondition) : Json :=
  .object [("interval", c.interval.toJson), ("condition", c.condition.toJson)]

def ofJson? (j : Json) : Option TimedCondition := do
  return ⟨← j.get? "interval" Interval.ofJson?, ← j.get? "condition" Term.ofJson?⟩

end TimedCondition

namespace DurationRange

def toJson (d : DurationRange) : Json :=
  .object [("lower", d.lower.toJson), ("upper", d.upper.toJson),
    ("open_lower", .bool d.openLower), ("open_upper", .bool d.openUpper)]

def ofJson? (j : Json) : Option DurationRange := do
  return ⟨← j.get? "lower" Term.ofJson?, ← j.get? "upper" Term.ofJson?,
    ← j.get? "open_lower" Json.bool?, ← j.get? "open_upper" Json.bool?⟩

end DurationRange

namespace Effect

def kindJson : EffectKind → Json
  | .assign => .string "Assign"
  | .increase => .string "Increase"
  | .decrease => .string "Decrease"

def kindOfJson? : Json → Option EffectKind
  | .string "Assign" => some .assign
  | .string "Increase" => some .increase
  | .string "Decrease" => some .decrease
  | _ => none

def toJson (e : Effect) : Json :=
  .object [("timing", e.timing.toJson), ("kind", kindJson e.kind), ("fluent", e.target.toJson),
    ("value", e.value.toJson), ("condition", .orNull Term.toJson e.guard)]

def ofJson? (j : Json) : Option Effect := do
  return ⟨← j.get? "timing" Timing.ofJson?, ← j.get? "kind" kindOfJson?,
    ← j.get? "fluent" StateVar.ofJson?, ← j.get? "value" Term.ofJson?,
    ← j.getIfAny? "condition" Term.ofJson?⟩

end Effect

namespace SimulatedEffect

def toJson (s : SimulatedEffect) : Json :=
  .object [("timing", s.timing.toJson), ("fluents", .listOf StateVar.toJson s.targets)]

def ofJson? (j : Json) : Option SimulatedEffect := do
  return ⟨← j.get? "timing" Timing.ofJson?,
    ← j.get? "fluents" (Json.listOf? StateVar.ofJson?)⟩

end SimulatedEffect

namespace DurativeAction

def toJson (a : DurativeAction) : Json :=
  .object [("name", .string a.name), ("parameters", .listOf Param.toJson a.params),
    ("duration", a.duration.toJson), ("conditions", .listOf TimedCondition.toJson a.conditions),
    ("effects", .listOf Effect.toJson a.effects),
    ("simulated_effects", .listOf SimulatedEffect.toJson a.simulated)]

def ofJson? (j : Json) : Option DurativeAction := do
  return ⟨← j.get? "name" Json.string?, ← j.get? "parameters" (Json.listOf? Param.ofJson?),
    ← j.get? "duration" DurationRange.ofJson?,
    ← j.get? "conditions" (Json.listOf? TimedCondition.ofJson?),
    ← j.get? "effects" (Json.listOf? Effect.ofJson?),
    ← j.get? "simulated_effects" (Json.listOf? SimulatedEffect.ofJson?)⟩

end DurativeAction

namespace InstantaneousAction

def toJson (a : InstantaneousAction) : Json :=
  .object [("name", .string a.name), ("parameters", .listOf Param.toJson a.params),
    ("preconditions", .listOf Term.toJson a.preconditions),
    ("effects", .listOf Effect.toJson a.effects)]

def ofJson? (j : Json) : Option InstantaneousAction := do
  return ⟨← j.get? "name" Json.string?, ← j.get? "parameters" (Json.listOf? Param.ofJson?),
    ← j.get? "preconditions" (Json.listOf? Term.ofJson?),
    ← j.get? "effects" (Json.listOf? Effect.ofJson?)⟩

end InstantaneousAction

namespace Action

def toJson : Action → Json
  | .instantaneous a => .object [("Instantaneous", a.toJson)]
  | .durative a => .object [("Durative", a.toJson)]

def ofJson? (j : Json) : Option Action := do
  match ← j.case? with
  | ("Instantaneous", contents) => (InstantaneousAction.ofJson? contents).map .instantaneous
  | ("Durative", contents) => (DurativeAction.ofJson? contents).map .durative
  | _ => none

end Action

namespace Problem

def toJson (p : Problem) : Json :=
  .object [("name", .string p.name), ("user_types", .listOf UserType.toJson p.userTypes),
    ("objects", .listOf ObjectDecl.toJson p.objects),
    ("fluents", .listOf Fluent.toJson p.fluents),
    ("fluent_defaults", .listOf (.pairOf .string Term.toJson) p.fluentDefaults),
    ("initial_defaults", .listOf (.pairOf ValueType.toJson Term.toJson) p.typeDefaults),
    ("initial_values", .listOf (.pairOf StateVar.toJson Term.toJson) p.initialValues),
    ("goals", .listOf Term.toJson p.goals), ("actions", .listOf Action.toJson p.actions)]

def ofJson? (j : Json) : Option Problem := do
  return {
    name := ← j.get? "name" Json.string?
    userTypes := ← j.get? "user_types" (Json.listOf? UserType.ofJson?)
    objects := ← j.get? "objects" (Json.listOf? ObjectDecl.ofJson?)
    fluents := ← j.get? "fluents" (Json.listOf? Fluent.ofJson?)
    fluentDefaults :=
      ← j.get? "fluent_defaults" (Json.listOf? (Json.pairOf? Json.string? Term.ofJson?))
    typeDefaults :=
      ← j.get? "initial_defaults" (Json.listOf? (Json.pairOf? ValueType.ofJson? Term.ofJson?))
    initialValues :=
      ← j.get? "initial_values" (Json.listOf? (Json.pairOf? StateVar.ofJson? Term.ofJson?))
    goals := ← j.get? "goals" (Json.listOf? Term.ofJson?)
    actions := ← j.get? "actions" (Json.listOf? Action.ofJson?) }

end Problem

end PlanTimelines
