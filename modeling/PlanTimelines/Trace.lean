import PlanTimelines.Conversion
import PlanTimelines.Log

/-! The log of a conversion. -/

namespace PlanTimelines

/-- What a conversion reports on its way. -/
inductive Event where
  | started (problem : String) (fluents actions : Nat)
  | grounded (timelines resources : Nat)
  | entered (entry : Draft.Entry)
  | synthesized (timeline : Timeline)
  | finished (problem : String) (result : TimelineProblem) (milliseconds : Nat)
  | rejected (problem : String) (error : ConversionError) (milliseconds : Nat)

namespace Event

def level : Event → LogLevel
  | .started .. | .grounded .. | .finished .. => .info
  | .entered .. | .synthesized .. => .debug
  | .rejected .. => .warn

/-- The fields of an event; the first one is its name. -/
def fields : Event → List (String × LogValue)
  | .started problem fluents actions =>
    [("event", .text "convert_start"), ("problem", .printed problem),
      ("fluent_count", .count fluents), ("action_count", .count actions)]
  | .grounded timelines resources =>
    [("event", .text "fluents_grounded"), ("timeline_count", .count timelines),
      ("resource_count", .count resources)]
  | .entered entry =>
    let t := entry.transition
    [("event", .text "action_analyzed"), ("action", .printed t.action),
      ("timeline", .printed t.timeline), ("from", .printed t.source),
      ("temporary", .printed t.temporary), ("final_value", .printed t.final),
      ("duration", .count t.duration.toNat), ("merged", .flag (entry.claim == .merged))]
  | .synthesized t =>
    [("event", .text "timeline_synthesized"), ("timeline", .printed t.name),
      ("token_types", .count t.tokenTypes.length),
      ("static_tokens", .count t.staticTokens.length)]
  | .finished problem result milliseconds =>
    [("event", .text "convert_end"), ("problem", .printed problem),
      ("timeline_count", .count result.timelines.length),
      ("token_type_count", .count result.tokenTypeCount),
      ("static_token_count", .count result.staticTokenCount),
      ("duration_ms", .count milliseconds)]
  | .rejected problem error milliseconds =>
    [("event", .text "convert_rejected"), ("problem", .printed problem),
      ("error", .printed error.message), ("duration_ms", .count milliseconds)]

/-- The record of an event in the log. -/
def record (e : Event) : LogRecord :=
  ⟨conversionSource, e.level, e.fields⟩

end Event

namespace Problem

/-- The entries that a conversion makes before it ends or is refused. -/
def entries (p : Problem) (settings : Settings) : List Draft.Entry :=
  match p.initialDraft, p.actionInstances p.domains with
  | .ok d, .ok actions => (d.enterAll settings.endConditions actions).1
  | _, _ => []

/-- The events of a conversion that takes the given time, in order. -/
def events (p : Problem) (settings : Settings) (milliseconds : Nat) : List Event :=
  let grounded :=
    match Draft.ofProblem p p.domains with
    | .ok d => [.grounded d.timelines.length d.resources.length]
    | .error _ => []
  let ending :=
    match p.convert settings with
    | .ok result => result.timelines.map .synthesized ++ [.finished p.name result milliseconds]
    | .error e => [.rejected p.name e milliseconds]
  .started p.name p.fluents.length p.actions.length :: grounded ++
    (p.entries settings).map .entered ++ ending

end Problem

end PlanTimelines
