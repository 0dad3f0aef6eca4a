import PlanTimelines.Json.Decode
import PlanTimelines.Json.Encode
import PlanTimelines.Term

/-! Terms as JSON: an object of one field, which names the kind of term. -/

namespace PlanTimelines

def stateVarJson (name : String) (args : List Json) : Json :=
  .object [("name", .string name), ("args", .array args)]

namespace Term

mutual

def toJson : Term → Json
  | .bool value => .object [("Bool", .bool value)]
  | .int value => .object [("Int", .integer value)]
  | .real value => .object [("Real", .real value)]
  | .object name => .object [("Object", .string name)]
  | .param name => .object [("Param", .string name)]
  | .fluent name args => .object [("Fluent", stateVarJson name (toJsons args))]
  | .eq lhs rhs => .object [("Eq", .array [toJson lhs, toJson rhs])]
  | .not operand => .object [("Not", toJson operand)]
  | .and operands => .object [("And", .array (toJsons operands))]
  | .or operands => .object [("Or", .array (toJsons operands))]

def toJsons : List Term → List Json
  | [] => []
  | t :: rest => toJson t :: toJsons rest

end

/-- Reads a term whose nesting is below `depth`. -/
def ofJsonWithin? : Nat → Json → Option Term
  | 0, _ => none
  | depth + 1, j => do
    let (kind, contents) ← j.case?
    let term := ofJsonWithin? depth
    match kind with
    | "Bool" => contents.bool?.map .bool
    | "Int" => contents.int64?.map .int
    | "Real" => contents.real?.map .real
    | "Object" => contents.string?.map .object
    | "Param" => contents.string?.map .param
    | "Fluent" =>
      return .fluent (← contents.get? "name" Json.string?)
        (← contents.get? "args" (Json.listOf? term))
    | "Eq" => (Json.pairOf? term term contents).map fun (lhs, rhs) => .eq lhs rhs
    | "Not" => (term contents).map .not
    | "And" => (Json.listOf? term contents).map .and
    | "Or" => (Json.listOf? term contents).map .or
    | _ => none

/-- Documents that nest deeper than this are not read. -/
def maxDepth : Nat := 128

def ofJson? (j : Json) : Option Term :=
  ofJsonWithin? maxDepth j

end Term

namespace StateVar

def toJson (v : StateVar) : Json :=
  stateVarJson v.name (Term.toJsons v.args)

def ofJson? (j : Json) : Option StateVar := do
  return ⟨← j.get? "name" Json.string?, ← j.get? "args" (Json.listOf? Term.ofJson?)⟩

end StateVar

end PlanTimelines
