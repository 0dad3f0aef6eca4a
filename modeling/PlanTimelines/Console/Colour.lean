/-! Colours of a text terminal. -/

namespace PlanTimelines.Console

inductive Colour where
  | red
  | yellow
  | white
  | brightBlack
  | brightRed
  | brightGreen
  | brightYellow
  | brightBlue
  | brightMagenta
  | brightCyan
  | brightWhite
deriving DecidableEq, Repr

/-- The number by which a terminal selects the colour. -/
def Colour.code : Colour → Nat
  | .red => 31
  | .yellow => 33
  | .white => 37
  | .brightBlack => 90
  | .brightRed => 91
  | .brightGreen => 92
  | .brightYellow => 93
  | .brightBlue => 94
  | .brightMagenta => 95
  | .brightCyan => 96
  | .brightWhite => 97

/-- Selects a colour or style by its number. -/
def select (code : Nat) : String :=
  s!"\x1b[{code}m"

/-- The text in a colour; afterwards the default colour holds again. -/
def paint (c : Colour) (s : String) : String :=
  select c.code ++ s ++ select 39

/-- The text in bold type; afterwards all styles are off. -/
def bold (s : String) : String :=
  select 1 ++ s ++ select 0

end PlanTimelines.Console
