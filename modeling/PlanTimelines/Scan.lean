/-! Readers that take a value off the front of a text. -/

namespace PlanTimelines

/-- A reader gives a value and the rest of the text, or fails. -/
abbrev Scan := StateT (List Char) Option

namespace Scan

variable {α : Type}

def run (p : Scan α) (text : List Char) : Option (α × List Char) :=
  StateT.run p text

def peek : Scan (Option Char) := fun text => some (text.head?, text)

/-- One character of a class. -/
def satisfy (isMember : Char → Bool) : Scan Char
  | c :: rest => if isMember c then some (c, rest) else none
  | [] => none

def char (c : Char) : Scan Unit := do
  let _ ← satisfy (· == c)

/-- Takes the character if it comes next, and says whether it did. -/
def skipped (c : Char) : Scan Bool
  | d :: rest => if c == d then some (true, rest) else some (false, d :: rest)
  | [] => some (false, [])

/-- Just these characters. -/
def literal (word : List Char) : Scan Unit := fun text =>
  if word.isPrefixOf text then some ((), text.drop word.length) else none

def takeWhile (isMember : Char → Bool) : Scan (List Char) := fun text =>
  some (text.takeWhile isMember, text.dropWhile isMember)

/-- At least one character of a class. -/
def takeSome (isMember : Char → Bool) : Scan (List Char) := do
  let c ← satisfy isMember
  return c :: (← takeWhile isMember)

def atEnd : Scan Unit
  | [] => some ((), [])
  | _ :: _ => none

def exactly (p : Scan α) : Nat → Scan (List α)
  | 0 => pure []
  | n + 1 => do return (← p) :: (← exactly p n)

/-- At most `n` values, until one cannot be read. -/
def atMost (p : Scan α) : Nat → Scan (List α)
  | 0 => pure []
  | n + 1 => fun text =>
    match p text with
    | none => some ([], text)
    | some (a, rest) => (atMost p n rest).map fun (as, rest) => (a :: as, rest)

/-- As many values as can be read, for a reader that takes at least one character. -/
def many (p : Scan α) : Scan (List α) := fun text =>
  atMost p text.length text

end Scan

end PlanTimelines
