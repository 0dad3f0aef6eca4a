/-! Places in YAML text, and readers that move on from them. -/

namespace PlanTimelines.Yaml

/-- A character that YAML text may have at all. -/
def isAllowed (c : Char) : Bool :=
  c == '\t' || c == '\n' || c == '\r' || (' ' ≤ c && c ≤ '~') || c == '\u0085'
    || ('\u00a0' ≤ c && c != '\ufffe' && c != '\uffff')

/-- All line ends as line feeds. The line and paragraph separators stay as they are. -/
def unifyBreaks : List Char → List Char
  | '\r' :: '\n' :: rest => '\n' :: unifyBreaks rest
  | '\r' :: rest => '\n' :: unifyBreaks rest
  | '\u0085' :: rest => '\n' :: unifyBreaks rest
  | c :: rest => c :: unifyBreaks rest
  | [] => []

def isBreak (c : Char) : Bool :=
  c == '\n' || c == '\u2028' || c == '\u2029'

def isBlank (c : Char) : Bool :=
  c == ' ' || c == '\t'

def isWhite (c : Char) : Bool :=
  isBlank c || isBreak c

/-- A letter, digit, hyphen or underscore. -/
def isWord (c : Char) : Bool :=
  c.isAlphanum || c == '_' || c == '-'

/-- White space comes next, or the end of the text. -/
def startsWhite : List Char → Bool
  | c :: _ => isWhite c
  | [] => true

/-- How many octets characters take in UTF-8. -/
def octetCount (cs : List Char) : Nat :=
  cs.foldl (fun n c => n + c.utf8Size) 0

/-- A place in a text: what is left of it from there on. -/
structure Cursor where
  rest : List Char
  line : Nat
  /-- How many characters of the line come before the place. -/
  column : Nat
  /-- How many octets these characters take. -/
  offset : Nat

namespace Cursor

def ofText (text : List Char) : Cursor :=
  ⟨unifyBreaks text, 0, 0, 0⟩

/-- The place after characters of the same line, with what is left then. -/
def after (c : Cursor) (taken rest : List Char) : Cursor :=
  ⟨rest, c.line, c.column + taken.length, c.offset + octetCount taken⟩

/-- The place after the next character. -/
def next (c : Cursor) : Cursor :=
  match c.rest with
  | [] => c
  | d :: rest => if isBreak d then ⟨rest, c.line + 1, 0, 0⟩ else c.after [d] rest

/-- A mark of the byte order at the start of a line is passed over, but takes a column. -/
def skipByteOrderMark (c : Cursor) : Cursor :=
  if c.column = 0 && c.rest.head? == some '\ufeff' then c.next else c

/-- A line that begins or ends a document. -/
def isAtMark (c : Cursor) : Bool :=
  c.column = 0 && match c.rest with
    | '-' :: '-' :: '-' :: rest | '.' :: '.' :: '.' :: rest => startsWhite rest
    | _ => false

end Cursor

/-- A reader gives a value and the place after it, or fails. -/
abbrev Reader := StateT Cursor Option

namespace Reader

variable {α : Type}

def peek : Reader (Option Char) := do
  return (← get).rest.head?

def skip : Reader Unit :=
  modify Cursor.next

/-- Whether the next character is of a class. -/
def comes (isMember : Char → Bool) : Reader Bool := do
  return (← peek).any isMember

/-- Takes the character if it comes next, and says whether it did. -/
def skipped (c : Char) : Reader Bool := do
  if ← comes (· == c) then
    skip
    return true
  return false

def expect (c : Char) : Reader Unit := do
  if !(← skipped c) then failure

/-- Characters of a class that has no line breaks. -/
def takeWhile (isMember : Char → Bool) : Reader (List Char) := do
  let c ← get
  let taken := c.rest.takeWhile isMember
  set (c.after taken (c.rest.dropWhile isMember))
  return taken

def skipWhile (isMember : Char → Bool) : Reader Unit := do
  let _ ← takeWhile isMember

/-- A comment, up to the end of its line. -/
def skipComment : Reader Unit := do
  if ← comes (· == '#') then skipWhile fun c => !isBreak c

def repeatUpTo (step : Reader (Option α)) : Nat → Reader (List α)
  | 0 => pure []
  | n + 1 => do
    match ← step with
    | none => return []
    | some a => return a :: (← repeatUpTo step n)

/-- What a step gives until it gives nothing. The step takes a character each time, so
there are no more values than characters. -/
def repeated (step : Reader (Option α)) : Reader (List α) := do
  repeatUpTo step (← get).rest.length

end Reader

end PlanTimelines.Yaml
