import PlanTimelines.Yaml.Scalar

/-! The tokens of YAML text, and those among them that are names, tags and directives. -/

namespace PlanTimelines.Yaml

inductive ScalarStyle where
  | plain
  /-- In single or double quotes. -/
  | quoted
  /-- A block that keeps its lines. -/
  | literal
  /-- A block that folds its lines. -/
  | folded
deriving DecidableEq, Repr

inductive Token where
  | version (major minor : Nat)
  /-- A handle and the start of the tags that are written with it. -/
  | tagHandle (handle : String) (start : List UInt8)
  | documentStart
  | documentEnd
  | sequenceStart
  | mappingStart
  /-- The end of an indented sequence or mapping. -/
  | blockEnd
  | openBracket
  | closeBracket
  | openBrace
  | closeBrace
  | comma
  /-- The hyphen before an item. -/
  | item
  /-- The start of a key, written or not. -/
  | key
  /-- The colon before a value. -/
  | value
  | alias (name : String)
  | anchor (name : String)
  | tag (handle : String) (rest : List UInt8)
  | scalar (style : ScalarStyle) (text : String)
deriving DecidableEq, Repr

open Reader Text

/-! ### Names -/

/-- Indicators that may stand directly after a name. -/
def nameEnds : List Char :=
  ['?', ':', ',', ']', '\x7d', '%', '@', '\x60']

/-- The name of an anchor or alias, after its indicator. -/
def name : Reader String := do
  skip
  let name ← takeWhile isWord
  let rest := (← get).rest
  if name.isEmpty then failure
  if !startsWhite rest && !rest.head?.any nameEnds.contains then failure
  return String.ofList name

/-! ### Tags -/

/-- How many octets a character has that starts with this one. -/
def octetCount? (first : Nat) : Option Nat :=
  if first < 0x80 then some 1
  else if first < 0xc0 then none
  else if first < 0xe0 then some 2
  else if first < 0xf0 then some 3
  else if first < 0xf8 then some 4
  else none

def octet : Reader Nat := do
  expect '%'
  let digits := (← get).rest.take 2
  if digits.length < 2 || !digits.all (isDigitIn 16) then failure
  skip
  skip
  return ofDigits 16 digits

def laterOctets : Nat → Reader (List UInt8)
  | 0 => pure []
  | n + 1 => do
    let o ← octet
    if o < 0x80 || 0xc0 ≤ o then failure
    return UInt8.ofNat o :: (← laterOctets n)

/-- The octets of one character, in hexadecimal. -/
def octets : Reader (List UInt8) := do
  let first ← octet
  let count ← StateT.lift (octetCount? first)
  return UInt8.ofNat first :: (← laterOctets (count - 1))

/-- The characters of a tag beside letters and digits. -/
def tagMarks : List Char :=
  [';', '/', '?', ':', '@', '&', '=', '+', '$', '.', '%', '!', '~', '*', '\'', '(', ')']

def isTagCharacter (allowsBrackets : Bool) (c : Char) : Bool :=
  isWord c || tagMarks.contains c || (allowsBrackets && [',', '[', ']'].contains c)

/-- The text of a tag as octets. -/
def tagText (allowsBrackets : Bool) : Reader (List UInt8) := do
  let parts ← repeated do
    match ← peek with
    | some '%' => return some (← octets)
    | some c =>
      if !isTagCharacter allowsBrackets c then return none
      skip
      return some (String.singleton c).toUTF8.toList
    | none => return none
  return parts.flatten

/-- The octets before the first that is zero. -/
def beforeZero (octets : List UInt8) : List UInt8 :=
  octets.takeWhile (· != 0)

/-- A word with exclamation marks around it, or the first mark and what follows it. -/
def handle : Reader (List Char × Bool) := do
  expect '!'
  let word ← takeWhile isWord
  let isClosed ← skipped '!'
  return (word, isClosed)

/-- A tag: in angle brackets, after a handle, or after a single mark. A mark alone is a
tag of its own. -/
def tag : Reader Token := do
  if (← get).rest.drop 1 |>.head?.any (· == '<') then
    skip
    skip
    let rest ← tagText true
    if rest.isEmpty then failure
    expect '>'
    return .tag "" (beforeZero rest)
  let (word, isClosed) ← handle
  let rest ← tagText false
  if isClosed then
    if rest.isEmpty then failure
    return .tag (String.ofList ('!' :: word ++ ['!'])) (beforeZero rest)
  let rest := beforeZero ((String.ofList word).toUTF8.toList ++ rest)
  return if rest.isEmpty then .tag "" [33] else .tag "!" rest

/-- A tag is set apart by white space, or by a comma inside brackets. -/
def separateTag (inFlow : Bool) : Reader Token := do
  let tag ← tag
  let rest := (← get).rest
  if !(startsWhite rest || (inFlow && rest.head? == some ',')) then failure
  return tag

/-! ### Directives -/

/-- A part of a version, of at most nine digits. -/
def versionPart : Reader Nat := do
  let digits ← takeWhile Char.isDigit
  if digits.isEmpty || 9 < digits.length then failure
  return ofDigits 10 digits

def version : Reader Token := do
  skipWhile isBlank
  let major ← versionPart
  expect '.'
  return .version major (← versionPart)

def tagHandle : Reader Token := do
  skipWhile isBlank
  let (word, isClosed) ← handle
  if !isClosed && !word.isEmpty then failure
  if !(← comes isBlank) then failure
  skipWhile isBlank
  let start ← tagText true
  if start.isEmpty || !startsWhite (← get).rest then failure
  let handle := '!' :: word ++ if isClosed then ['!'] else []
  return .tagHandle (String.ofList handle) (beforeZero start)

/-- A line that starts with a percent sign. -/
def directive : Reader Token := do
  expect '%'
  let name ← takeWhile isWord
  if !startsWhite (← get).rest then failure
  let token ← match String.ofList name with
    | "YAML" => version
    | "TAG" => tagHandle
    | _ => failure
  skipWhile isBlank
  skipComment
  if !startsWhite (← get).rest then failure
  skip
  return token

end PlanTimelines.Yaml
