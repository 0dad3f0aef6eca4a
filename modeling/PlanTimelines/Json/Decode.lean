import PlanTimelines.Json

/-! Reading values out of documents. A document of another form gives nothing. -/

namespace PlanTimelines.Json

/-- A field of an object, the last one of its name. A field that is `null` counts as
absent. -/
def field? (j : Json) (key : String) : Option Json :=
  match j with
  | .object fields =>
    match fields.reverse.lookup key with
    | some .null => none
    | found => found
  | _ => none

def string? : Json → Option String
  | .string s => some s
  | _ => none

def bool? : Json → Option Bool
  | .bool b => some b
  | _ => none

def array? : Json → Option (List Json)
  | .array items => some items
  | _ => none

/-- A whole number from `low` to `high`. -/
def integerIn? (low high : Int) : Json → Option Int
  | .integer n => if low ≤ n ∧ n ≤ high then some n else none
  | _ => none

/-- A signed 64-bit number. -/
def int64? (j : Json) : Option Int :=
  j.integerIn? Int64.minValue.toInt Int64.maxValue.toInt

/-- An unsigned 64-bit number. -/
def nat64? (j : Json) : Option Nat :=
  (j.integerIn? 0 (UInt64.size - 1)).map Int.toNat

/-- An unsigned 32-bit number. -/
def word? (j : Json) : Option UInt32 :=
  (j.integerIn? 0 (UInt32.size - 1)).map fun n => UInt32.ofNat n.toNat

/-- Any number. -/
def real? : Json → Option Float
  | .real x => some x
  | .integer n => some (Float.ofInt n)
  | _ => none

/-- A field that has to be there. -/
def get? {α : Type} (j : Json) (key : String) (read : Json → Option α) : Option α :=
  (j.field? key).bind read

/-- A field that may be absent. -/
def getIfAny? {α : Type} (j : Json) (key : String) (read : Json → Option α) :
    Option (Option α) :=
  match j.field? key with
  | none => some none
  | some found => (read found).map some

def listOf? {α : Type} (read : Json → Option α) (j : Json) : Option (List α) :=
  j.array?.bind (·.mapM read)

/-- An array of two. -/
def pairOf? {α β : Type} (first : Json → Option α) (second : Json → Option β) :
    Json → Option (α × β)
  | .array [a, b] => do return (← first a, ← second b)
  | _ => none

/-- An object with one field, which names a case. -/
def case? : Json → Option (String × Json)
  | .object [(name, contents)] => some (name, contents)
  | _ => none

end PlanTimelines.Json
