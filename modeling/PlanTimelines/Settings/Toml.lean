import PlanTimelines.Settings
import PlanTimelines.Toml.Line

/-! Settings as TOML. A missing field has its default, and unknown keys count for
nothing. -/

namespace PlanTimelines

namespace Toml.Item

/-- The case that an item names, with its contents if the item is a table. A table has to
have exactly one entry, however it is written. -/
def choice? : Item → Option (String × Option Item)
  | .string name => some (name, none)
  | .inline [(name, contents)] | .table _ [(name, contents)] => some (name, some contents)
  | _ => none

/-- The contents of a case that has none: an empty array or table. -/
def isVoid : Item → Bool
  | .array items => items.isEmpty
  | .inline entries | .table _ entries => entries.isEmpty
  | .tables elements => elements.isEmpty
  | _ => false

def natural? : Item → Option Nat
  | .integer n => if 0 ≤ n then some n.toNat else none
  | _ => none

/-- An unsigned 32-bit number. -/
def word? (i : Item) : Option UInt32 := do
  let n ← i.natural?
  if n < UInt32.size then some (UInt32.ofNat n) else none

end Toml.Item

def EndConditions.ofToml? (i : Toml.Item) : Option EndConditions := do
  let (name, contents) ← i.choice?
  match name, contents.all Toml.Item.isVoid with
  | "ignore", true => some .ignore
  | "reject", true => some .reject
  | _, _ => none

def Threads.ofToml? (i : Toml.Item) : Option Threads := do
  let (name, contents) ← i.choice?
  match name, contents.all Toml.Item.isVoid with
  | "auto", true => some .auto
  | "none", true => some .none
  | "count", _ => (← contents).natural?.map .count
  | _, _ => Option.none

def Settings.ofToml? (es : Toml.Entries) : Option Settings := do
  let endConditions ← (es.get? "end_conditions").mapM EndConditions.ofToml?
  let least ← (es.get? "unbounded_min_duration").mapM Toml.Item.word?
  let threads ← (es.get? "synthesis_threads").mapM Threads.ofToml?
  return ⟨endConditions.getD default.endConditions, least.getD default.unboundedMinDuration,
    threads.getD default.threads⟩

end PlanTimelines
