import PlanTimelines.Draft

/-! Which tokens supply which resource. Every resource has exactly one provider. -/

namespace PlanTimelines

/-- A provider with its timeline reference resolved to a name. -/
structure Supplier where
  timeline : String
  value : String
  amount : UInt32
deriving DecidableEq, Repr

/-- The suppliers of a resource. -/
structure SupplyRow where
  resource : String
  suppliers : List Supplier
deriving DecidableEq, Repr

structure SupplyTable where
  rows : List SupplyRow
deriving DecidableEq, Repr

namespace SupplyTable

/-- The suppliers in the last row of a resource. -/
def suppliersOf (table : SupplyTable) (resource : String) : List Supplier :=
  ((findLast? (·.resource == resource) table.rows).map SupplyRow.suppliers).getD []

/-- What a token of a timeline's value supplies; the last supplier counts. -/
def capacityOf (table : SupplyTable) (timeline value : String) : UInt32 :=
  let here := fun s : Supplier => s.timeline == timeline && s.value == value
  ((findLast? here (table.rows.flatMap SupplyRow.suppliers)).map Supplier.amount).getD 0

end SupplyTable

namespace Draft

/-- The row of a resource: its one provider, on every timeline that is meant. -/
def supplyRow (d : Draft) (r : DraftResource) : Except ConversionError SupplyRow :=
  match r.providers with
  | [provider] =>
    match provider.timeline.resolve d.timelineClasses with
    | [] => .error (.providerConflict r.name 0)
    | timelines =>
      .ok ⟨r.name, timelines.map fun t => ⟨t, provider.value, provider.amount⟩⟩
  | providers => .error (.providerConflict r.name providers.length)

/-- The supply of all resources; fails at the first one in order that does not have
exactly one provider, or whose provider is on no timeline. -/
def supply (d : Draft) : Except ConversionError SupplyTable :=
  (d.resources.mapM d.supplyRow).map SupplyTable.mk

end Draft

end PlanTimelines
