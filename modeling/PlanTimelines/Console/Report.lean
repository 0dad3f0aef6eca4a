import PlanTimelines.Console.Colour
import PlanTimelines.Decimal.Rounded
import PlanTimelines.Log

/-! The lines that a console shows for the events of a conversion. -/

namespace PlanTimelines.Console

/-- A time span: milliseconds, seconds with two places from one second on, minutes
and whole seconds from one minute on. -/
def timeText (milliseconds : Nat) : String :=
  if milliseconds < 1000 then s!"{milliseconds}ms"
  else if milliseconds < 60000 then
    Decimal.fixedPlaces (milliseconds.toFloat / 1000) 2 ++ "s"
  else s!"{milliseconds / 60000}m {milliseconds % 60000 / 1000}s"

/-- The time since the start of a conversion, at the head of each line. -/
def clockText (seconds : Float) : String :=
  let digits := Decimal.fixedPlaces seconds 3
  paint .brightBlack (String.ofList (List.replicate (7 - digits.length) ' ') ++ digits ++ "s")

/-- The parts of a line, between vertical bars. -/
def columns (parts : List String) : String :=
  " │ ".intercalate parts

def countOf (c : Colour) (r : LogRecord) (name : String) (noun : String) : String :=
  paint c (Decimal.grouped (r.count name)) ++ " " ++ noun

def nameOf (r : LogRecord) (name : String) : String :=
  (r.text? name).getD "?"

/-- The text of an error field. -/
def errorOf (r : LogRecord) : String :=
  (r.text? "error").getD "unknown error"

def startedLine (r : LogRecord) : String :=
  columns
    [bold (paint .brightGreen "▶") ++ " Converting " ++
      bold (paint .white ((r.text? "problem").getD "problem")),
      countOf .brightYellow r "fluent_count" "fluents",
      countOf .brightYellow r "action_count" "actions"]

def groundedLine (r : LogRecord) : String :=
  columns
    [paint .brightBlue "◆" ++ " Grounded",
      countOf .brightYellow r "timeline_count" "timelines",
      countOf .brightYellow r "resource_count" "resources"]

def enteredLine (r : LogRecord) : String :=
  let icon := if r.flag "merged" then paint .brightBlack "≡" else paint .brightGreen "✓"
  let path := " → ".intercalate
    [nameOf r "from", paint .brightMagenta (nameOf r "temporary"), nameOf r "final_value"]
  columns
    [icon ++ " " ++ paint .white (nameOf r "action"),
      paint .brightCyan (nameOf r "timeline") ++ ": " ++ path,
      paint .yellow ("d=" ++ toString (r.count "duration"))]

def synthesizedLine (r : LogRecord) : String :=
  columns
    [paint .brightBlack "·" ++ " " ++ paint .brightCyan (nameOf r "timeline"),
      countOf .white r "token_types" "token types",
      countOf .white r "static_tokens" "static tokens"]

def finishedLine (showTime : Nat → String) (r : LogRecord) : String :=
  columns
    [bold (paint .brightCyan "■") ++ " Conversion complete",
      paint .yellow (showTime (r.count "duration_ms")),
      countOf .brightYellow r "timeline_count" "timelines",
      countOf .brightYellow r "token_type_count" "token types",
      countOf .brightYellow r "static_token_count" "static tokens"]

def rejectedLine (r : LogRecord) : String :=
  columns
    [bold (paint .brightRed "✗") ++ " " ++ bold (paint .brightRed "REJECTED"),
      paint .red (errorOf r)]

def poolFailedLine (r : LogRecord) : String :=
  columns
    [bold (paint .brightYellow "!") ++ " Thread pool of " ++
      paint .brightYellow (Decimal.grouped (r.count "threads")) ++
      " unavailable, synthesizing sequentially",
      errorOf r]

/-- What is said about a record; the details of actions and timelines only if the
record is one. -/
def body? (showTime : Nat → String) (r : LogRecord) : Option String :=
  match (r.text? "event").getD "" with
  | "convert_start" => some (startedLine r)
  | "fluents_grounded" => some (groundedLine r)
  | "action_analyzed" => if r.level.isDetail then some (enteredLine r) else none
  | "timeline_synthesized" => if r.level.isDetail then some (synthesizedLine r) else none
  | "convert_end" => some (finishedLine showTime r)
  | "convert_rejected" => some (rejectedLine r)
  | "synthesis_pool_failed" => some (poolFailedLine r)
  | _ => none

/-- The console's output for a record: one line after the clock, or nothing if the
record does not come from a conversion. How a time span is shown is a parameter. -/
def output (clock : String) (showTime : Nat → String) (r : LogRecord) : String :=
  if r.source.startsWith conversionSource then
    match body? showTime r with
    | some body => clock ++ " " ++ body ++ "\n"
    | none => ""
  else ""

end PlanTimelines.Console
