import PlanTimelines.Json

/-! Common pieces of documents. -/

namespace PlanTimelines.Json

/-- An unsigned 32-bit number. -/
def word (n : UInt32) : Json :=
  .integer n.toNat

/-- An absent value is `null`. -/
def orNull {α : Type} (encode : α → Json) : Option α → Json
  | none => .null
  | some a => encode a

def listOf {α : Type} (encode : α → Json) (items : List α) : Json :=
  .array (items.map encode)

/-- A pair is an array of two. -/
def pairOf {α β : Type} (first : α → Json) (second : β → Json) (p : α × β) : Json :=
  .array [first p.1, second p.2]

end PlanTimelines.Json
