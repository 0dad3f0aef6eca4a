import PlanTimelines.Yaml.Token

/-! The tokens of a YAML text in order. Indentation opens and closes sequences and
mappings, and a colon makes a key of what came before it on its line. -/

namespace PlanTimelines.Yaml

open Reader

/-- A token that becomes a key if a colon follows it. -/
structure PossibleKey where
  /-- How many tokens come before it. -/
  position : Nat
  line : Nat
  column : Nat
  /-- How many octets of its line come before it. -/
  offset : Nat
  /-- In its column nothing but a key can start. -/
  isRequired : Bool

/-- How far a text has been cut into tokens. -/
structure Layout where
  cursor : Cursor
  tokens : Array Token
  /-- The columns of the open sequences and mappings, the innermost first. -/
  indents : List Nat
  mayStartKey : Bool
  key : Option PossibleKey
  /-- The possible keys around each open bracket, the innermost first. -/
  outerKeys : List (Option PossibleKey)

namespace Layout

def ofText (text : List Char) : Layout :=
  ⟨.ofText text, #[], [], true, none, []⟩

def inFlow (l : Layout) : Bool :=
  !l.outerKeys.isEmpty

/-- The first column inside the innermost open collection. -/
def innerColumn (l : Layout) : Nat :=
  (l.indents.head?.map (· + 1)).getD 0

/-- A token at the end. -/
def push (l : Layout) (token : Token) : Layout :=
  { l with tokens := l.tokens.push token }

def insert (l : Layout) (position : Nat) (token : Token) : Layout :=
  { l with tokens := l.tokens.insertIdxIfInBounds position token }

/-- Starts a collection in a column, if none is open there or further right. -/
def indent (l : Layout) (column position : Nat) (token : Token) : Layout :=
  if l.inFlow || l.indents.head?.any (column ≤ ·) then l
  else { l.insert position token with indents := column :: l.indents }

/-- Ends the collections that are open in columns of a class. -/
def dedent (l : Layout) (isLeft : Nat → Bool) : Layout :=
  if l.inFlow then l
  else
    { l with
      tokens := l.tokens ++ (l.indents.takeWhile isLeft).map fun _ => Token.blockEnd
      indents := l.indents.dropWhile isLeft }

/-- Ends the collections to the right of a column. -/
def dedentTo (l : Layout) (column : Nat) : Layout :=
  l.dedent (column < ·)

def dedentAll (l : Layout) : Layout :=
  l.dedent fun _ => true

/-- Gives a possible key up. A required one cannot be given up. -/
def forget (key : Option PossibleKey) : Option (Option PossibleKey) :=
  if key.any PossibleKey.isRequired then none else some none

/-- Gives a key up once its line or 1024 octets have been passed. -/
def expire (c : Cursor) (key : Option PossibleKey) : Option (Option PossibleKey) :=
  if key.any fun k => k.line < c.line || k.offset + 1024 < c.offset then forget key else some key

def expireKeys (l : Layout) : Option Layout := do
  return { l with
    key := ← expire l.cursor l.key
    outerKeys := ← l.outerKeys.mapM (expire l.cursor) }

def forgetKey (l : Layout) : Option Layout := do
  return { l with key := ← forget l.key }

/-- Marks the token that comes next as a possible key. -/
def noteKey (l : Layout) : Option Layout := do
  if !l.mayStartKey then return l
  let _ ← forget l.key
  let isRequired := !l.inFlow && l.indents.head? == some l.cursor.column
  let c := l.cursor
  return { l with key := some ⟨l.tokens.size, c.line, c.column, c.offset, isRequired⟩ }

/-- Takes a token off the text. -/
def read (l : Layout) (reader : Reader Token) : Option Layout := do
  let (token, cursor) ← reader.run l.cursor
  return { l.push token with cursor }

/-- Takes an indicator of so many characters off the text. -/
def indicator (l : Layout) (length : Nat) (token : Token) : Option Layout :=
  l.read do
    for _ in List.range length do skip
    return token

/-! ### White space -/

/-- Blanks, a comment and a line end. Where a key may start, tabs are not blanks. A mark
of the byte order may come first. -/
def lineRest (l : Layout) : Option Layout :=
  let isSpace := fun c => c == ' ' || ((l.inFlow || !l.mayStartKey) && c == '\t')
  match (do skipWhile isSpace; skipComment).run l.cursor.skipByteOrderMark with
  | none => none
  | some (_, cursor) =>
    if cursor.rest.head?.any isBreak then
      some { l with cursor := cursor.next, mayStartKey := l.mayStartKey || !l.inFlow }
    else some { l with cursor }

/-- Passes over white space and comments, of at most so many lines. -/
def skipSpace (l : Layout) : Nat → Option Layout
  | 0 => some l
  | n + 1 => do
    let next ← l.lineRest
    if next.cursor.line = l.cursor.line then return next else next.skipSpace n

/-! ### Tokens -/

/-- A mark between documents. -/
def documentMark (l : Layout) (token : Token) : Option Layout := do
  let l ← l.dedentAll.forgetKey
  { l with mayStartKey := false }.indicator 3 token

def directiveLine (l : Layout) : Option Layout := do
  let l ← l.dedentAll.forgetKey
  { l with mayStartKey := false }.read directive

def openFlow (l : Layout) (token : Token) : Option Layout := do
  let l ← l.noteKey
  { l with outerKeys := l.key :: l.outerKeys, key := none, mayStartKey := true }.indicator 1 token

def closeFlow (l : Layout) (token : Token) : Option Layout := do
  let l ← l.forgetKey
  let l := match l.outerKeys with
    | key :: outerKeys => { l with key, outerKeys }
    | [] => l
  { l with mayStartKey := false }.indicator 1 token

def nextEntry (l : Layout) : Option Layout := do
  let l ← l.forgetKey
  { l with mayStartKey := true }.indicator 1 .comma

/-- A hyphen, question mark or colon with nothing before it that belongs to it. Outside
brackets it may start a collection. -/
def entryIndicator (l : Layout) (collection token : Token) : Option Layout := do
  if !l.inFlow && !l.mayStartKey then none
  let l ← (l.indent l.cursor.column l.tokens.size collection).forgetKey
  { l with mayStartKey := !l.inFlow || token == Token.item }.indicator 1 token

/-- A colon after its key. -/
def valueOfKey (l : Layout) (key : PossibleKey) : Option Layout :=
  let l := (l.insert key.position .key).indent key.column key.position .mappingStart
  { l with key := none, mayStartKey := false }.indicator 1 .value

def value (l : Layout) : Option Layout :=
  match l.key with
  | some key => l.valueOfKey key
  | none => l.entryIndicator .mappingStart .value

/-- A token that may be a key, or belong to one. -/
def content (l : Layout) (reader : Reader Token) : Option Layout := do
  let l ← l.noteKey
  { l with mayStartKey := false }.read reader

def plainScalar (l : Layout) : Option Layout := do
  let l ← l.noteKey
  let ((text, lineEnded), cursor) ← (plain l.inFlow l.innerColumn).run l.cursor
  let l := { l with cursor, mayStartKey := lineEnded }
  return l.push (.scalar .plain (String.ofList text))

def quotedScalar (l : Layout) (quote : Char) : Option Layout :=
  l.content do return .scalar .quoted (String.ofList (← quoted quote))

def blockScalar (l : Layout) (style : ScalarStyle) : Option Layout := do
  let l ← l.forgetKey
  { l with mayStartKey := true }.read do
    skip
    return .scalar style (String.ofList (← block (style == ScalarStyle.folded) l.indents.head?))

/-- Characters with which a plain scalar cannot start. -/
def indicators : List Char :=
  [',', '[', ']', '\x7b', '\x7d', '#', '&', '*', '!', '|', '>', '\'', '"', '%', '@', '\x60']

/-- Whether a plain scalar can start with a character before the rest of a text. -/
def startsPlain (l : Layout) (c : Char) (rest : List Char) : Bool :=
  if c == '-' then !rest.head?.any isBlank
  else if c == '?' || c == ':' then !l.inFlow && !startsWhite rest
  else
    !(isWhite c || indicators.contains c)

/-- The token that starts with a character before the rest of a text. -/
def tokenAt (l : Layout) (c : Char) (rest : List Char) : Option Layout :=
  let isSeparate := startsWhite rest
  if l.cursor.column = 0 && c == '%' then l.directiveLine
  else if l.cursor.isAtMark then l.documentMark (if c == '-' then .documentStart else .documentEnd)
  else if c == '[' then l.openFlow .openBracket
  else if c == '\x7b' then l.openFlow .openBrace
  else if c == ']' then l.closeFlow .closeBracket
  else if c == '\x7d' then l.closeFlow .closeBrace
  else if c == ',' then l.nextEntry
  else if c == '-' && isSeparate then l.entryIndicator .sequenceStart .item
  else if c == '?' && (l.inFlow || isSeparate) then l.entryIndicator .mappingStart .key
  else if c == ':' && (l.inFlow || isSeparate) then l.value
  else if c == '*' then l.content do return .alias (← name)
  else if c == '&' then l.content do return .anchor (← name)
  else if c == '!' then l.content (separateTag l.inFlow)
  else if c == '|' && !l.inFlow then l.blockScalar .literal
  else if c == '>' && !l.inFlow then l.blockScalar .folded
  else if c == '\'' || c == '"' then l.quotedScalar c
  else if l.startsPlain c rest then l.plainScalar
  else none

/-- All tokens of a text with so many characters left. -/
def run (l : Layout) : Nat → Option (Array Token)
  | 0 => none
  | n + 1 => do
    let l ← l.skipSpace (l.cursor.rest.length + 1)
    let l := (← l.expireKeys).dedentTo l.cursor.column
    match l.cursor.rest with
    | [] => return (← l.dedentAll.forgetKey).tokens
    | c :: rest => (← l.tokenAt c rest).run n

end Layout

/-- The tokens of a text, if it can be cut into tokens. -/
def tokens? (text : String) : Option (List Token) := do
  let text := text.toList
  if !text.all isAllowed then none
  let tokens ← (Layout.ofText text).run (text.length + 1)
  return tokens.toList

end PlanTimelines.Yaml
