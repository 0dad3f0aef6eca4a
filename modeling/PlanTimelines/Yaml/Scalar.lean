import PlanTimelines.Text.Digits
import PlanTimelines.Yaml.Cursor

/-! Scalars in YAML text: plain, in quotes, and as blocks of lines. -/

namespace PlanTimelines.Yaml

open Reader Text

/-! ### White space inside scalars -/

/-- White space between two parts of a scalar. -/
inductive Gap where
  | blanks (text : List Char)
  /-- The first line break and those after it. Blanks at the ends and starts of lines
  do not count. -/
  | breaks (first : List Char) (others : List Char)

namespace Gap

/-- A single line feed becomes a blank; of several the first is dropped. -/
def text : Gap → List Char
  | .blanks text => text
  | .breaks ['\n'] [] => [' ']
  | .breaks ['\n'] others => others
  | .breaks first others => first ++ others

def hasBreak : Gap → Bool
  | .blanks _ => false
  | .breaks _ _ => true

end Gap

/-- A line break and the blanks after it. No tab may stand left of the indentation. -/
def breakAndBlanks (indentation : Nat) : Reader (Option Char) := do
  match ← peek with
  | none => return none
  | some c =>
    if !isBreak c then return none
    skip
    let blanks ← takeWhile isBlank
    if (blanks.take indentation).contains '\t' then failure
    return some c

/-- White space, and the line breaks in it. -/
def gap (indentation : Nat) : Reader Gap := do
  let blanks ← takeWhile isBlank
  match ← repeated (breakAndBlanks indentation) with
  | [] => return .blanks blanks
  | first :: others => return .breaks [first] others

/-! ### Plain scalars -/

/-- The characters of a plain scalar up to white space or an indicator that ends it.
Inside brackets, a colon before another indicator is refused. -/
def plainPart (inFlow : Bool) : List Char → Option (List Char)
  | [] => some []
  | c :: rest =>
    if isWhite c then some []
    else if inFlow && c == ':' && rest.head?.any [',', '?', '[', ']', '\x7b', '\x7d'].contains then
      none
    else if c == ':' && startsWhite rest then some []
    else if inFlow && [',', '[', ']', '\x7b', '\x7d'].contains c then some []
    else (plainPart inFlow rest).map (c :: ·)

def takePlainPart (inFlow : Bool) : Reader (List Char) := do
  let c ← get
  let part ← StateT.lift (plainPart inFlow c.rest)
  set (c.after part (c.rest.drop part.length))
  return part

/-- White space and the part after it. The part is empty where the scalar has ended. -/
def gapAndPart (inFlow : Bool) (indentation : Nat) : Reader (Option (Gap × List Char)) := do
  if !(← comes isWhite) then return none
  let gap ← gap indentation
  let c ← get
  if c.isAtMark || c.rest.head? == some '#' || (!inFlow && c.column < indentation) then
    return some (gap, [])
  return some (gap, ← takePlainPart inFlow)

/-- A plain scalar, and whether a line has ended after it. -/
def plain (inFlow : Bool) (indentation : Nat) : Reader (List Char × Bool) := do
  let first ← takePlainPart inFlow
  let others ← repeated (gapAndPart inFlow indentation)
  let text := first ++ others.flatMap fun (gap, part) =>
    if part.isEmpty then [] else gap.text ++ part
  let lineEnded := match others.getLast? with
    | some (gap, []) => gap.hasBreak
    | _ => false
  return (text, lineEnded)

/-! ### Scalars in quotes -/

/-- The character that a letter after a backslash stands for. -/
def shortEscape? : Char → Option Char
  | '0' => some '\x00'
  | 'a' => some '\x07'
  | 'b' => some '\x08'
  | 't' => some '\t'
  | '\t' => some '\t'
  | 'n' => some '\n'
  | 'v' => some '\x0b'
  | 'f' => some '\x0c'
  | 'r' => some '\r'
  | 'e' => some '\x1b'
  | ' ' => some ' '
  | '"' => some '"'
  | '/' => some '/'
  | '\\' => some '\\'
  | 'N' => some '\u0085'
  | '_' => some '\u00a0'
  | 'L' => some '\u2028'
  | 'P' => some '\u2029'
  | _ => none

/-- How many hexadecimal digits follow a letter after a backslash. -/
def codeLength? : Char → Option Nat
  | 'x' => some 2
  | 'u' => some 4
  | 'U' => some 8
  | _ => none

/-- The character that an escape stands for, after its backslash. -/
def escaped : Reader Char := do
  let c ← StateT.lift (← peek)
  skip
  match shortEscape? c with
  | some d => return d
  | none =>
    let length ← StateT.lift (codeLength? c)
    let digits := (← get).rest.take length
    if digits.length < length || !digits.all (isDigitIn 16) then failure
    let n := ofDigits 16 digits
    if !n.isValidChar then failure
    for _ in digits do skip
    return Char.ofNat n

/-- White space in quotes. No line in quotes may look like the start or end of a
document. -/
def quotedGap (gap : Gap) : Reader (Option (List Char)) := do
  if (← get).isAtMark then failure
  return some gap.text

/-- A piece of a scalar in quotes, up to the quote that ends it. -/
def quotedPiece (quote : Char) : Reader (Option (List Char)) := do
  match (← get).rest with
  | [] => failure
  | c :: rest =>
    if isWhite c then quotedGap (← gap 0)
    else if c == quote then
      if quote == '\'' && rest.head? == some '\'' then
        skip
        skip
        return some ['\'']
      return none
    else if quote == '"' && c == '\\' then
      skip
      if rest.head?.any isBreak then
        skip
        skipWhile isBlank
        quotedGap (.breaks [] (← repeated (breakAndBlanks 0)))
      else return some [← escaped]
    else
      skip
      return some [c]

def quoted (quote : Char) : Reader (List Char) := do
  expect quote
  let pieces ← repeated (quotedPiece quote)
  expect quote
  return pieces.flatten

/-! ### Blocks of lines -/

/-- What becomes of the line breaks at the end of a block. -/
inductive Chomping where
  | strip
  | clip
  | keep

/-- The indicator of the chomping, if there is one. -/
def chomping : Reader (Option Chomping) := do
  if ← skipped '+' then return some .keep
  if ← skipped '-' then return some .strip
  return none

/-- The digit for the width of the indentation, if there is one. It cannot be zero. -/
def indentWidth : Reader (Option Nat) := do
  match ← peek with
  | some c =>
    if !c.isDigit then return none
    if c == '0' then failure
    skip
    return digitValue? c
  | none => return none

/-- The indicators at the head of a block, in either order. -/
def blockHead : Reader (Chomping × Option Nat) := do
  let before ← chomping
  let width ← indentWidth
  let after ← if before.isNone then chomping else pure none
  return ((before <|> after).getD .clip, width)

/-- An empty line of a block: its width and its break. Without a known indentation all
its blanks belong to the indentation. -/
def emptyLine (indentation : Option Nat) : Reader (Option (Nat × Char)) := do
  let column := (← get).column
  let spaces := ((← get).rest.takeWhile (· == ' ')).length
  let taken := match indentation with
    | some i => min spaces (i - column)
    | none => spaces
  for _ in List.range taken do skip
  let width := column + taken
  match ← peek with
  | some c =>
    if c == '\t' && indentation.all (width < ·) then failure
    if !isBreak c then return none
    skip
    return some (width, c)
  | none => return none

/-- A line of a block, its break, and the breaks of empty lines after it. -/
structure BlockLine where
  text : List Char
  lineBreak : List Char
  emptyBreaks : List Char

def blockLine (indentation : Nat) : Reader (Option BlockLine) := do
  let c ← get
  if c.column ≠ indentation || c.rest.isEmpty then return none
  let text ← takeWhile fun c => !isBreak c
  let lineBreak := (← peek).toList
  skip
  let empty ← repeated (emptyLine (some indentation))
  return some ⟨text, lineBreak, empty.map Prod.snd⟩

/-- Lines joined to a text. With folding, a single line feed between two lines that do
not start with a blank becomes a blank, and of several the first is dropped. -/
def joinLines (folds : Bool) (chomping : Chomping) (afterBlank : Bool)
    (lineBreak emptyBreaks : List Char) : List BlockLine → List Char
  | [] =>
    match chomping with
    | .strip => []
    | .clip => lineBreak
    | .keep => lineBreak ++ emptyBreaks
  | line :: lines =>
    let isBlankFirst := line.text.head?.any isBlank
    let joint :=
      if folds && lineBreak == ['\n'] && !afterBlank && !isBlankFirst then
        if emptyBreaks.isEmpty then [' '] else []
      else lineBreak
    joint ++ emptyBreaks ++ line.text
      ++ joinLines folds chomping isBlankFirst line.lineBreak line.emptyBreaks lines

/-- A block inside a collection that starts in the given column. Without an indicator
the block is indented as far as its first line, or as the empty lines before it. -/
def block (folds : Bool) (outer : Option Nat) : Reader (List Char) := do
  let (chomping, width) ← blockHead
  skipWhile isBlank
  skipComment
  if !startsWhite (← get).rest then failure
  skip
  let known := width.map (outer.getD 0 + ·)
  let empty ← repeated (emptyLine known)
  let least := max 1 ((outer.map (· + 1)).getD 0)
  let indentation := known.getD (max least ((empty.map Prod.fst).foldl max (← get).column))
  let lines ← repeated (blockLine indentation)
  return joinLines folds chomping false [] (empty.map Prod.snd) lines

end PlanTimelines.Yaml
