import PlanTimelines.Toml.Scalar

/-! The lines of TOML documents, and documents as the sum of their lines. -/

namespace PlanTimelines.Toml

open Scan

inductive Line where
  | blank
  | header (path : List String)
  | repeatedHeader (path : List String)
  | entry (path : List String) (item : Item)

/-- An array, in which line ends and comments may stand between the items and a comma
after the last. -/
def array (item : Scan Item) : Scan (List Item) := do
  char '['
  filler
  match ← optional item with
  | none =>
    char ']'
    return []
  | some first =>
    let others ← many do
      filler
      char ','
      filler
      item
    filler
    let _ ← skipped ','
    filler
    char ']'
    return first :: others

/-- A key and its item. -/
def entry (item : Scan Item) : Scan (List String × Item) := do
  let path ← keyPath
  char '='
  blanks
  return (path, ← item)

def addEntry (es : Entries) (path : List String) (item : Item) : Option Entries := do
  es.set? true (← path.getLast?) item path.dropLast

/-- A table in braces. -/
def inlineTable (item : Scan Item) : Scan Entries := do
  char '\x7b'
  let first ← optional (entry item)
  let others ← match first with
    | none => pure []
    | some _ => many do
        blanks
        char ','
        entry item
  blanks
  char '\x7d'
  let entries := first.toList ++ others
  StateT.lift (entries.foldlM (fun es (path, item) => addEntry es path item) [])

/-- An item with arrays and tables in braces nested so deep. -/
def item : Nat → Scan Item
  | 0 => scalar
  | depth + 1 =>
    scalar
      <|> (do return .array (← array (item depth)))
      <|> (do return .inline (← inlineTable (item depth)))

def headerLine : Scan Line := do
  char '['
  let path ← keyPath
  char ']'
  return .header path

def repeatedHeaderLine : Scan Line := do
  literal ['[', '[']
  let path ← keyPath
  literal [']', ']']
  return .repeatedHeader path

def entryLine : Scan Line := do
  let (path, item) ← entry (item 79)
  return .entry path item

/-- A line with all that is on it. -/
def line : Scan Line := do
  let line ← repeatedHeaderLine <|> headerLine <|> entryLine <|> pure .blank
  lineEnd
  return line

/-- The lines of a document. A mark of the byte order may come first. -/
def lines : Scan (List Line) := do
  let _ ← skipped '\ufeff'
  let lines ← many do
    blanks
    if (← peek).isNone then failure
    line
  blanks
  atEnd
  return lines

def Document.add? (d : Document) : Line → Option Document
  | .blank => some d
  | .header path => d.open? path
  | .repeatedHeader path => d.openRepeated? path
  | .entry path item => do d.set? path.dropLast (← path.getLast?) item

/-- The entries of the document that a text stands for. -/
def Entries.ofText? (text : String) : Option Entries := do
  let (lines, _) ← lines.run text.toList
  let document ← lines.foldlM Document.add? .empty
  document.close?

end PlanTimelines.Toml
