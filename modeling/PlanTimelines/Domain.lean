import PlanTimelines.Problem

/-! The finite domains of a problem: for each declared type the names of its
objects, and the two truth values under the name `bool`. -/

namespace PlanTimelines

/-- Domains by type name. The first row of a name counts. -/
structure DomainTable where
  rows : List (String × List String)
deriving DecidableEq, Repr

/-- The truth values come first, so that no declared type replaces them. -/
def Problem.domains (p : Problem) : DomainTable :=
  ⟨("bool", ["true", "false"]) :: p.userTypes.map fun t => (t.name, p.objectsOf t.name)⟩

namespace DomainTable

def get? (table : DomainTable) (typeName : String) : Option (List String) :=
  table.rows.lookup typeName

def contains (table : DomainTable) (typeName : String) : Bool :=
  (table.get? typeName).isSome

/-- The values a fluent of the type can take; numbers have no finite domain. -/
def ofValueType? (table : DomainTable) : ValueType → Option (List String)
  | .bool => table.get? "bool"
  | .user name => table.get? name
  | .int | .real => none

end DomainTable

theorem Problem.domains_bool (p : Problem) :
    p.domains.get? "bool" = some ["true", "false"] := by
  simp [DomainTable.get?, Problem.domains]

end PlanTimelines
