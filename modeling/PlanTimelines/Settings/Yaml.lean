import PlanTimelines.Settings
import PlanTimelines.Text.Digits
import PlanTimelines.Yaml.Node

/-! Settings as YAML. A missing field has its default, and unknown keys count for
nothing. -/

namespace PlanTimelines

namespace Yaml

/-- An unsigned 64-bit number: decimal without zeros in front, or in base 16, 8 or 2. A
plus may come first. -/
def number? (text : List Char) : Option Nat := do
  let digits := match text with
    | '+' :: digits => digits
    | digits => digits
  let n ← match digits with
    | '0' :: 'x' :: digits => Text.numeral? 16 digits
    | '0' :: 'o' :: digits => Text.numeral? 8 digits
    | '0' :: 'b' :: digits => Text.numeral? 2 digits
    | '0' :: _ :: _ => none
    | digits => Text.numeral? 10 digits
  if n < UInt64.size then some n else none

namespace Node

/-- The case that a scalar names, by a tag with an exclamation mark or else by its
text, and its contents if there is such a tag. -/
def choice? : Node → Option (String × Option (ScalarStyle × String))
  | .scalar properties style text =>
    match (properties.tag.getD "").toList with
    | ['!'] => some ("!", some (style, text))
    | '!' :: name => some (String.ofList name, some (style, text))
    | _ => some (text, none)
  | _ => none

/-- The text of a scalar. -/
def text? : Node → Option String
  | .scalar _ _ text => some text
  | _ => none

/-- The number in a plain scalar, or in a block with the tag of whole numbers. -/
def number? : Node → Option Nat
  | .scalar properties style text =>
    if style = .plain ∨ (style = .literal ∧ properties.tag = some "tag:yaml.org,2002:int") then
      Yaml.number? text.toList
    else none
  | _ => none

/-- An unsigned 32-bit number. -/
def word? (n : Node) : Option UInt32 := do
  let n ← n.number?
  if n < UInt32.size then some (UInt32.ofNat n) else none

/-- The entries of a node that stands for a structure. A scalar that is not written
stands for one without entries. -/
def fields? : Node → Option (List (Node × Node))
  | .mapping _ entries => some entries
  | .scalar _ .plain "" => some []
  | _ => none

end Node

/-- The contents of a case that has none. -/
def isVoid : ScalarStyle × String → Bool
  | (style, text) => style == .plain && ["", "~", "null", "Null", "NULL"].contains text

/-- The field with a key, which can be given only once. -/
def field? {α : Type} (root : Node) (entries : List (String × Node)) (key : String)
    (read : Node → Option α) : Option (Option α) :=
  match entries.filter (·.1 == key) with
  | [] => some none
  | [(_, value)] => do return some (← read (← root.resolve value))
  | _ => none

end Yaml

def EndConditions.ofYaml? (n : Yaml.Node) : Option EndConditions := do
  let (name, contents) ← n.choice?
  match name, contents.all Yaml.isVoid with
  | "ignore", true => some .ignore
  | "reject", true => some .reject
  | _, _ => none

def Threads.ofYaml? (n : Yaml.Node) : Option Threads := do
  let (name, contents) ← n.choice?
  match name, contents with
  | "count", some (.plain, text) => (Yaml.number? text.toList).map .count
  | "auto", _ => if contents.all Yaml.isVoid then some .auto else Option.none
  | "none", _ => if contents.all Yaml.isVoid then some .none else Option.none
  | _, _ => Option.none

/-- Settings from the root of a document. All keys have to be scalars. -/
def Settings.ofYaml? (root : Yaml.Node) : Option Settings := do
  let entries ← (← root.fields?).mapM fun (key, value) => do
    return (← (← root.resolve key).text?, value)
  let endConditions ← Yaml.field? root entries "end_conditions" EndConditions.ofYaml?
  let least ← Yaml.field? root entries "unbounded_min_duration" Yaml.Node.word?
  let threads ← Yaml.field? root entries "synthesis_threads" Threads.ofYaml?
  return ⟨endConditions.getD default.endConditions, least.getD default.unboundedMinDuration,
    threads.getD default.threads⟩

end PlanTimelines
