import PlanTimelines.Yaml.Layout

/-! Nodes of YAML documents. -/

namespace PlanTimelines.Yaml

/-- What may stand before a node: the number of its anchor, and its tag in full. -/
structure Properties where
  anchor : Option Nat
  tag : Option String
deriving DecidableEq, Repr

def Properties.none : Properties := ⟨Option.none, Option.none⟩

inductive Node where
  /-- Stands for the node whose anchor has the number. -/
  | alias (anchor : Nat)
  | scalar (properties : Properties) (style : ScalarStyle) (text : String)
  | sequence (properties : Properties) (items : List Node)
  | mapping (properties : Properties) (entries : List (Node × Node))

namespace Node

/-- A node that is not written. -/
def empty (properties : Properties) : Node :=
  .scalar properties .plain ""

/-! ### Anchors -/

def own (properties : Properties) (n : Node) : List (Nat × Node) :=
  properties.anchor.toList.map fun anchor => (anchor, n)

mutual

/-- All nodes that have anchors, in the order in which they start. -/
def anchored : Node → List (Nat × Node)
  | .alias _ => []
  | .scalar properties style text => own properties (.scalar properties style text)
  | .sequence properties items =>
    own properties (.sequence properties items) ++ anchoredItems items
  | .mapping properties entries =>
    own properties (.mapping properties entries) ++ anchoredEntries entries

def anchoredItems : List Node → List (Nat × Node)
  | [] => []
  | item :: items => anchored item ++ anchoredItems items

def anchoredEntries : List (Node × Node) → List (Nat × Node)
  | [] => []
  | (key, value) :: entries => anchored key ++ anchored value ++ anchoredEntries entries

end

/-- The node itself, or the one that an alias stands for: the last node of a document
whose anchor has its number. -/
def resolve (root : Node) : Node → Option Node
  | .alias anchor => root.anchored.reverse.lookup anchor
  | n => some n

end Node

/-! ### Nodes from tokens -/

/-- Tokens that are still to be read, the anchors so far with their numbers, and the
handles of tags. -/
structure Pending where
  tokens : List Token
  anchors : List (String × Nat)
  handles : List (String × List UInt8)

namespace Pending

def ofTokens (tokens : List Token) : Pending :=
  ⟨tokens, [], []⟩

abbrev Parser := StateT Pending Option

def peek : Parser (Option Token) := do
  return (← get).tokens.head?

def skip : Parser Unit :=
  modify fun p => { p with tokens := p.tokens.tail }

def skipped (token : Token) : Parser Bool := do
  if (← peek) = some token then
    skip
    return true
  return false

def expect (token : Token) : Parser Unit := do
  if !(← skipped token) then failure

/-- Whether one of the tokens comes next. -/
def comes (tokens : List Token) : Parser Bool := do
  return (← peek).any tokens.contains

/-- The number of a new anchor: how many names there have been before. An anchor that
is set again so shares its number with the next new name. -/
def setAnchor (name : String) : Parser Nat := do
  let p ← get
  let anchor := p.anchors.length
  set { p with anchors := (name, anchor) :: p.anchors.filter (·.1 != name) }
  return anchor

/-- A tag in full. Octets that are no text count as no tag. -/
def fullTag (handle : String) (rest : List UInt8) : Parser (Option String) := do
  let start ← if handle.isEmpty then pure [] else StateT.lift ((← get).handles.lookup handle)
  return String.fromUTF8? ⟨(start ++ rest).toArray⟩

/-- An anchor, if one comes next. -/
def anchor : Parser (Option Nat) := do
  match ← peek with
  | some (.anchor name) =>
    skip
    return some (← setAnchor name)
  | _ => return none

/-- A tag, if one comes next. -/
def tag : Parser (Option (Option String)) := do
  match ← peek with
  | some (.tag handle rest) =>
    skip
    return some (← fullTag handle rest)
  | _ => return none

/-- An anchor and a tag in either order, and whether there are any. -/
def properties : Parser (Properties × Bool) := do
  let before ← anchor
  let tag ← tag
  let after ← if before.isNone && tag.isSome then anchor else pure none
  let anchor := before <|> after
  return (⟨anchor, tag.join⟩, anchor.isSome || tag.isSome)

/-- Where the value of a key in an indented mapping is left out. -/
def keyEnds : List Token := [.key, .value, .blockEnd]

mutual

/-- A node. Indented collections cannot be inside brackets. An item of a mapping can be
a sequence that is not indented further. -/
def node : Nat → Bool → Bool → Parser Node
  | 0, _, _ => failure
  | n + 1, isIndented, inMapping => do
    match ← peek with
    | some (.alias name) =>
      skip
      return .alias (← StateT.lift ((← get).anchors.lookup name))
    | _ =>
      let (properties, areGiven) ← properties
      match ← peek with
      | some (.scalar style text) =>
        skip
        return .scalar properties style text
      | some .openBracket =>
        skip
        return .sequence properties (← flowItems n true)
      | some .openBrace =>
        skip
        return .mapping properties (← flowEntries n true)
      | token =>
        if inMapping && token = some .item then
          return .sequence properties (← levelItems n)
        else if isIndented && token = some .sequenceStart then
          skip
          return .sequence properties (← items n)
        else if isIndented && token = some .mappingStart then
          skip
          return .mapping properties (← entries n)
        else if areGiven then return .empty properties
        else failure

/-- A node, unless one of the tokens comes next. -/
def nodeUnless : Nat → List Token → Bool → Bool → Parser Node
  | 0, _, _, _ => failure
  | n + 1, tokens, isIndented, inMapping => do
    if ← comes tokens then return .empty .none
    node n isIndented inMapping

/-- The items of an indented sequence. -/
def items : Nat → Parser (List Node)
  | 0 => failure
  | n + 1 => do
    if ← skipped .blockEnd then return []
    expect .item
    let item ← nodeUnless n [.item, .blockEnd] true false
    return item :: (← items n)

/-- The items of a sequence that is not indented further than the mapping around it. -/
def levelItems : Nat → Parser (List Node)
  | 0 => failure
  | n + 1 => do
    if !(← skipped .item) then return []
    let item ← nodeUnless n (.item :: keyEnds) true false
    return item :: (← levelItems n)

/-- The entries of an indented mapping. -/
def entries : Nat → Parser (List (Node × Node))
  | 0 => failure
  | n + 1 => do
    if ← skipped .blockEnd then return []
    expect .key
    let key ← nodeUnless n keyEnds true true
    let value ← valueUnless n keyEnds true true
    return (key, value) :: (← entries n)

/-- A value after its colon, if there is one. -/
def valueUnless : Nat → List Token → Bool → Bool → Parser Node
  | 0, _, _, _ => failure
  | n + 1, tokens, isIndented, inMapping => do
    if ← skipped .value then nodeUnless n tokens isIndented inMapping
    else return .empty .none

/-- The items in brackets. A key among them makes a mapping of a single entry. -/
def flowItems : Nat → Bool → Parser (List Node)
  | 0, _ => failure
  | n + 1, isFirst => do
    if ← skipped .closeBracket then return []
    if !isFirst then expect .comma
    if ← skipped .closeBracket then return []
    let item ←
      if ← skipped .key then pure (.mapping .none [← flowPair n])
      else node n false false
    return item :: (← flowItems n false)

/-- A single entry in brackets. Where its key is left out, one more token is. -/
def flowPair : Nat → Parser (Node × Node)
  | 0 => failure
  | n + 1 => do
    let ends : List Token := [.comma, .closeBracket]
    let isMissing ← comes (.value :: ends)
    let key ← nodeUnless n (.value :: ends) false false
    if isMissing then skip
    return (key, ← valueUnless n ends false false)

/-- The entries in braces. -/
def flowEntries : Nat → Bool → Parser (List (Node × Node))
  | 0, _ => failure
  | n + 1, isFirst => do
    if ← skipped .closeBrace then return []
    if !isFirst then expect .comma
    if ← skipped .closeBrace then return []
    let ends : List Token := [.comma, .closeBrace]
    let entry ←
      if ← skipped .key then
        let key ← nodeUnless n (.value :: ends) false false
        pure (key, ← valueUnless n ends false false)
      else pure (← node n false false, .empty .none)
    return entry :: (← flowEntries n false)

end

/-- The handles that every document has, after its own. -/
def commonHandles : List (String × List UInt8) :=
  [("!", "!".toUTF8.toList), ("!!", "tag:yaml.org,2002:".toUTF8.toList)]

/-- The directives of a document. A version or a handle can be given only once. -/
def directives (hasVersion : Bool) : Nat → Parser Unit
  | 0 => failure
  | n + 1 => do
    match ← peek with
    | some (.version major minor) =>
      skip
      if hasVersion || major ≠ 1 || (minor ≠ 1 && minor ≠ 2) then failure
      directives true n
    | some (.tagHandle handle start) =>
      skip
      let p ← get
      if (p.handles.lookup handle).isSome then failure
      set { p with handles := p.handles ++ [(handle, start)] }
      directives hasVersion n
    | _ => modify fun p => { p with handles := p.handles ++ commonHandles }

def isDirective : Token → Bool
  | .version _ _ | .tagHandle _ _ => true
  | _ => false

/-- The node of a document. It is empty where there is no document, and may be left out
after the mark that starts one. -/
def document (size : Nat) : Parser Node := do
  match ← peek with
  | none => return .empty .none
  | some token =>
    directives false size
    if token = .documentStart || isDirective token then
      expect .documentStart
      if (← peek).all fun t => isDirective t || t = .documentStart || t = .documentEnd then
        return .empty .none
    node size true false

end Pending

/-- The only document of a text. Marks may end it. -/
def Node.ofText? (text : String) : Option Node := do
  let tokens ← tokens? text
  let (root, p) ← (Pending.document (4 * tokens.length + 8)).run (.ofTokens tokens)
  if p.tokens.all (· = .documentEnd) then return root else none

end PlanTimelines.Yaml
