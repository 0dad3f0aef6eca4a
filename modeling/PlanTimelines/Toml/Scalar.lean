import PlanTimelines.Scan
import PlanTimelines.Text.Digits
import PlanTimelines.Toml.Item

/-! Keys, texts, numbers and times in TOML. -/

namespace PlanTimelines.Toml

open Scan Text

def isBlank (c : Char) : Bool :=
  c == ' ' || c == '\t'

/-- No control character, except for the tab. -/
def isVisible (c : Char) : Bool :=
  c == '\t' || (' ' ≤ c && c != '\x7f')

def blanks : Scan Unit := do
  let _ ← takeWhile isBlank

def newline : Scan Unit :=
  literal ['\n'] <|> literal ['\r', '\n']

def comment : Scan Unit := do
  char '#'
  let _ ← takeWhile isVisible

/-- Nothing more on the line than a comment. -/
def lineEnd : Scan Unit := do
  blanks
  let _ ← optional comment
  newline <|> atEnd

/-- Blanks, comments and ends of lines. -/
def filler : Scan Unit := do
  blanks
  let _ ← many do
    let _ ← optional comment
    newline
    blanks

/-! ### Texts -/

/-- The character with a code of so many hexadecimal digits. -/
def coded (digits : Nat) : Scan Char := do
  let n := ofDigits 16 (← exactly (satisfy (isDigitIn 16)) digits)
  if n.isValidChar then return Char.ofNat n else failure

/-- What a backslash stands for together with the characters after it. -/
def escaped : Scan Char := do
  char '\\'
  match ← satisfy fun _ => true with
  | 'b' => return '\x08'
  | 't' => return '\t'
  | 'n' => return '\n'
  | 'f' => return '\x0c'
  | 'r' => return '\r'
  | '"' => return '"'
  | '\\' => return '\\'
  | 'u' => coded 4
  | 'U' => coded 8
  | _ => failure

def quotedCharacter : Scan Char :=
  satisfy (fun c => isVisible c && c != '"' && c != '\\') <|> escaped

def literalCharacter : Scan Char :=
  satisfy fun c => isVisible c && c != '\''

/-- A text in quotes, on one line and with escapes. -/
def quotedText : Scan String := do
  char '"'
  let text ← many quotedCharacter
  char '"'
  return String.ofList text

/-- A text in apostrophes, on one line and without escapes. -/
def literalText : Scan String := do
  char '\''
  let text ← many literalCharacter
  char '\''
  return String.ofList text

/-- One or two quotes inside a text that three quotes end. -/
def innerQuotes (quote : Char) : Scan (List Char) := fun text =>
  let run := text.takeWhile (· == quote)
  if run.length = 1 ∨ run.length = 2 then some (run, text.drop run.length) else none

/-- The end of a text in three quotes. Up to two more quotes belong to the text. -/
def closingQuotes (quote : Char) : Scan (List Char) := fun text =>
  let run := text.takeWhile (· == quote)
  if 3 ≤ run.length ∧ run.length ≤ 5 then some (run.drop 3, text.drop run.length) else none

/-- A text in three quotes, without a line end that comes first. -/
def longText (quote : Char) (part : Scan (List Char)) : Scan String := do
  literal [quote, quote, quote]
  let _ ← optional newline
  let parts ← many (part <|> innerQuotes quote)
  let last ← closingQuotes quote
  return String.ofList (parts.flatten ++ last)

def lineBreak : Scan (List Char) := do
  newline
  return ['\n']

/-- A backslash that ends a line hides the line end and all blank space after it. -/
def hiddenBreak : Scan (List Char) := do
  char '\\'
  blanks
  newline
  let _ ← many do
    let _ ← takeWhile isBlank
    newline
  blanks
  return []

def longQuotedText : Scan String :=
  longText '"' ((do return [← quotedCharacter]) <|> lineBreak <|> hiddenBreak)

def longLiteralText : Scan String :=
  longText '\'' ((do return [← literalCharacter]) <|> lineBreak)

def text : Scan String :=
  longQuotedText <|> quotedText <|> longLiteralText <|> literalText

/-! ### Keys -/

def isBareKey (c : Char) : Bool :=
  c.isAlphanum || c == '_' || c == '-'

def bareKey : Scan String := do
  return String.ofList (← takeSome isBareKey)

def keyStep : Scan String := do
  blanks
  let step ← quotedText <|> literalText <|> bareKey
  blanks
  return step

/-- A key as the steps between its dots, fewer than 80. -/
def keyPath : Scan (List String) := do
  let first ← keyStep
  let others ← many do
    char '.'
    keyStep
  if others.length < 79 then return first :: others else failure

/-! ### Numbers -/

/-- Digits, with single underscores between them. -/
def digits (base : Nat) : Scan (List Char) := do
  let first ← satisfy (isDigitIn base)
  let others ← many do
    let _ ← skipped '_'
    satisfy (isDigitIn base)
  return first :: others

/-- Whether a minus comes first. A plus is passed over. -/
def isNegative : Scan Bool := do
  if ← skipped '-' then return true
  let _ ← skipped '+'
  return false

/-- Digits of a decimal number before its point: a single zero, or no zero in front. -/
def whole : Scan (List Char) := do
  if ← skipped '0' then return ['0'] else digits 10

def integerIn (sign : Char) (base : Nat) : Scan Int := do
  literal ['0', sign]
  return ofDigits base (← digits base)

def decimalInteger : Scan Int := do
  let negative ← isNegative
  let n : Int := ofDigits 10 (← whole)
  return if negative then -n else n

/-- A whole number of 64 bits. -/
def integer : Scan Int := do
  let n ← integerIn 'x' 16 <|> integerIn 'o' 8 <|> integerIn 'b' 2 <|> decimalInteger
  if Int64.minValue.toInt ≤ n ∧ n ≤ Int64.maxValue.toInt then return n else failure

def fraction : Scan (List Char) := do
  char '.'
  digits 10

def exponent : Scan Int := do
  let _ ← satisfy fun c => c == 'e' || c == 'E'
  let negative ← isNegative
  let n : Int := ofDigits 10 (← digits 10)
  return if negative then -n else n

/-- Whether `digits · 10 ^ exponent` has no finite value of 64 bits near it: it is at
least halfway from the largest one to the next power of two. -/
def isTooLarge (digits : List Char) (exponent : Int) : Bool :=
  let significant := digits.dropWhile (· == '0')
  let magnitude := significant.length + exponent
  let n := ofDigits 10 significant
  let limit := Nat.pow 2 1024 - Nat.pow 2 970
  if significant.isEmpty ∨ magnitude < 300 then false
  else if 320 < magnitude then true
  else if 0 ≤ exponent then limit ≤ n * Nat.pow 10 exponent.toNat
  else limit * Nat.pow 10 (-exponent).toNat ≤ n

/-- A number with a point or an exponent. One above all finite values is refused, one
below all of them is not. -/
def decimal : Scan Unit := do
  let negative ← isNegative
  let before ← whole
  let after ← optional fraction
  let power ← optional exponent
  if after.isNone && power.isNone then failure
  let places := after.getD []
  if !negative && isTooLarge (before ++ places) (power.getD 0 - places.length) then failure

def infinityOrNaN : Scan Unit := do
  let _ ← isNegative
  literal ['i', 'n', 'f'] <|> literal ['n', 'a', 'n']

/-! ### Times -/

/-- A number of so many digits between two bounds. -/
def field (width low high : Nat) : Scan Nat := do
  let n := ofDigits 10 (← exactly (satisfy (isDigitIn 10)) width)
  if low ≤ n ∧ n ≤ high then return n else failure

def isLeapYear (year : Nat) : Bool :=
  year % 4 = 0 ∧ (year % 100 ≠ 0 ∨ year % 400 = 0)

def daysInMonth (year month : Nat) : Nat :=
  if month = 2 then (if isLeapYear year then 29 else 28)
  else if month = 4 ∨ month = 6 ∨ month = 9 ∨ month = 11 then 30
  else 31

def date : Scan Unit := do
  let year ← field 4 0 9999
  char '-'
  let month ← field 2 1 12
  char '-'
  let _ ← field 2 1 (daysInMonth year month)

def timeOfDay : Scan Unit := do
  let _ ← field 2 0 23
  char ':'
  let _ ← field 2 0 59
  char ':'
  let _ ← field 2 0 60
  let _ ← optional do
    char '.'
    takeSome (isDigitIn 10)

/-- The distance from universal time. -/
def offset : Scan Unit := do
  let c ← satisfy (['Z', 'z', '+', '-'].contains ·)
  if c == '+' || c == '-' then
    let _ ← field 2 0 23
    char ':'
    let _ ← field 2 0 59

/-- A date, a time of day, or both. -/
def dateOrTime : Scan Unit :=
  timeOfDay <|> do
    date
    let _ ← optional do
      let _ ← satisfy (['T', 't', ' '].contains ·)
      timeOfDay
      optional offset

/-! ### All of them -/

def boolean : Scan Bool :=
  (do literal ['t', 'r', 'u', 'e']; return true)
    <|> (do literal ['f', 'a', 'l', 's', 'e']; return false)

/-- An item that holds no others. -/
def scalar : Scan Item :=
  (do return .string (← text))
    <|> (do return .boolean (← boolean))
    <|> (do dateOrTime; return .time)
    <|> (do decimal; return .real)
    <|> (do infinityOrNaN; return .real)
    <|> (do return .integer (← integer))

end PlanTimelines.Toml
