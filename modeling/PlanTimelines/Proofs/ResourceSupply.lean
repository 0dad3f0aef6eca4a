import PlanTimelines.Proofs.DraftNames
import PlanTimelines.Proofs.Results
import PlanTimelines.Supply

/-! The supply of the resources in any draft: providers may refer to classes of timelines,
values may provide several resources, and names may occur again. A resource is looked up by its
last record, the capacity of a value by the last provider there. -/

namespace PlanTimelines

/-! ## What a draft says of its supply -/

namespace Draft

/-- What a provider supplies on the timelines that it means, in their order. -/
def suppliersFrom (d : Draft) (provider : Provider) : List Supplier :=
  (d.timelines.filter fun dt => provider.timeline.refersTo dt.name dt.className).map fun dt =>
    ⟨dt.name, provider.value, provider.amount⟩

/-- A resource has exactly one provider, and this one means some timeline. -/
def HasSupply (d : Draft) (r : DraftResource) : Prop :=
  ∃ provider, r.providers = [provider] ∧
    ∃ dt ∈ d.timelines, provider.timeline.refersTo dt.name dt.className = true

/-- A provider is at a value of the timelines of a name. -/
def ProvidesAt (d : Draft) (provider : Provider) (timeline value : String) : Prop :=
  provider.value = value ∧
    ∃ dt ∈ d.timelines, dt.name = timeline ∧
      provider.timeline.refersTo dt.name dt.className = true

/-- A table has the supply that a draft describes. -/
structure SuppliedBy (d : Draft) (table : SupplyTable) : Prop where
  /-- Of the resources under a name the last one counts. -/
  known : ∀ name r, d.resource? name = some r →
    ∃ provider, r.providers = [provider] ∧ table.suppliersOf name = d.suppliersFrom provider
  unknown : ∀ name, d.resource? name = none → table.suppliersOf name = []
  /-- Of the resources that are provided at a value the last one counts. -/
  capacity : ∀ timeline value,
    (∃ before r after provider, d.resources = before ++ r :: after ∧ r.providers = [provider] ∧
      d.ProvidesAt provider timeline value ∧
      (∀ u ∈ after, ∀ other ∈ u.providers, ¬d.ProvidesAt other timeline value) ∧
      table.capacityOf timeline value = provider.amount) ∨
    (∀ r ∈ d.resources, ∀ provider ∈ r.providers, ¬d.ProvidesAt provider timeline value) ∧
      table.capacityOf timeline value = 0

/-- The row of a resource that has a supply. -/
def supplied (d : Draft) (r : DraftResource) : SupplyRow :=
  ⟨r.name, r.providers.flatMap d.suppliersFrom⟩

end Draft

variable {d : Draft} {r : DraftResource} {provider : Provider} {table : SupplyTable}

/-! ## When there is a table -/

theorem map_resolve_timelineClasses (d : Draft) (provider : Provider) :
    ((provider.timeline.resolve d.timelineClasses).map fun name =>
      (⟨name, provider.value, provider.amount⟩ : Supplier)) = d.suppliersFrom provider := by
  unfold TimelineRef.resolve Draft.timelineClasses Draft.suppliersFrom
  rw [List.filter_map, List.map_map, List.map_map]
  rfl

theorem resolve_timelineClasses_ne_nil {ref : TimelineRef} :
    ref.resolve d.timelineClasses ≠ [] ↔
      ∃ dt ∈ d.timelines, ref.refersTo dt.name dt.className = true := by
  simp [TimelineRef.resolve, Draft.timelineClasses, List.filter_map, List.filter_eq_nil_iff]

theorem supplyRow_eq_ok {r : DraftResource} {row : SupplyRow} :
    d.supplyRow r = .ok row ↔ ∃ provider, r.providers = [provider] ∧
      provider.timeline.resolve d.timelineClasses ≠ [] ∧
      row = ⟨r.name, (provider.timeline.resolve d.timelineClasses).map fun timeline =>
        ⟨timeline, provider.value, provider.amount⟩⟩ := by
  unfold Draft.supplyRow
  split
  · rename_i provider hproviders
    rw [hproviders]
    split
    · rename_i hnil
      simp [hnil]
    · rename_i hne
      simp only [Except.ok.injEq, List.cons.injEq, and_true, exists_eq_left']
      exact ⟨fun h => ⟨hne, h.symm⟩, fun h => h.2.symm⟩
  · rename_i hproviders
    simp only [reduceCtorEq, false_iff, not_exists, not_and]
    intro provider heq
    exact absurd heq (hproviders provider)

theorem hasSupply_iff : d.HasSupply r ↔ ∃ provider, r.providers = [provider] ∧
    provider.timeline.resolve d.timelineClasses ≠ [] := by
  simp only [Draft.HasSupply, resolve_timelineClasses_ne_nil]

theorem supplyRow_eq_supplied {row : SupplyRow} :
    d.supplyRow r = .ok row ↔ d.HasSupply r ∧ row = d.supplied r := by
  rw [supplyRow_eq_ok, hasSupply_iff]
  constructor
  · intro h
    obtain ⟨provider, hone, hresolve, rfl⟩ := h
    refine ⟨⟨provider, hone, hresolve⟩, ?_⟩
    rw [map_resolve_timelineClasses, Draft.supplied, hone, List.flatMap_singleton]
  · intro h
    obtain ⟨⟨provider, hone, hresolve⟩, rfl⟩ := h
    refine ⟨provider, hone, hresolve, ?_⟩
    rw [map_resolve_timelineClasses, Draft.supplied, hone, List.flatMap_singleton]

theorem supplyRow_eq_error {e : ConversionError} : d.supplyRow r = .error e ↔
    ¬d.HasSupply r ∧
      e = .providerConflict r.name (if r.providers.length = 1 then 0 else r.providers.length) := by
  by_cases hsupply : d.HasSupply r
  · have hrow : d.supplyRow r = .ok (d.supplied r) := supplyRow_eq_supplied.mpr ⟨hsupply, rfl⟩
    simp [hrow, hsupply]
  · suffices herror : d.supplyRow r = .error
        (.providerConflict r.name (if r.providers.length = 1 then 0 else r.providers.length)) by
      simp [herror, hsupply, eq_comm]
    unfold Draft.supplyRow
    split
    · rename_i provider hone
      have hnil : provider.timeline.resolve d.timelineClasses = [] := by
        by_contra hresolve
        exact hsupply (hasSupply_iff.mpr ⟨provider, hone, hresolve⟩)
      simp [hnil, hone]
    · rename_i hmany
      have hlength : r.providers.length ≠ 1 := by
        intro hone
        obtain ⟨provider, hprovider⟩ := List.length_eq_one_iff.mp hone
        exact hmany provider hprovider
      rw [if_neg hlength]

theorem supply_eq_ok : d.supply = .ok table ↔
    (∀ r ∈ d.resources, d.HasSupply r) ∧ table = ⟨d.resources.map d.supplied⟩ := by
  unfold Draft.supply
  simp only [map_eq_ok, mapM_eq_ok_map fun _ _ => supplyRow_eq_supplied]
  constructor
  · intro h
    obtain ⟨rows, ⟨hsupply, rfl⟩, rfl⟩ := h
    exact ⟨hsupply, rfl⟩
  · intro h
    obtain ⟨hsupply, rfl⟩ := h
    exact ⟨_, ⟨hsupply, rfl⟩, rfl⟩

theorem supply_isOk :
    (∃ table, d.supply = .ok table) ↔ ∀ r ∈ d.resources, d.HasSupply r := by
  simp only [supply_eq_ok, exists_and_left, exists_eq, and_true]

theorem supply_eq_error {e : ConversionError} : d.supply = .error e ↔
    ∃ before r after, d.resources = before ++ r :: after ∧ (∀ u ∈ before, d.HasSupply u) ∧
      ¬d.HasSupply r ∧
      e = .providerConflict r.name
        (if r.providers.length = 1 then 0 else r.providers.length) := by
  unfold Draft.supply
  rw [map_eq_error, mapM_eq_error]
  simp only [supplyRow_eq_supplied, supplyRow_eq_error, exists_and_left, exists_eq, and_true]

/-! ## What is in the table -/

theorem map_resource_rows (h : d.supply = .ok table) :
    table.rows.map SupplyRow.resource = d.resourceNames := by
  obtain ⟨-, rfl⟩ := supply_eq_ok.mp h
  exact List.map_map

theorem suppliersOf_map_supplied (d : Draft) (name : String) :
    SupplyTable.suppliersOf ⟨d.resources.map d.supplied⟩ name =
      ((d.resource? name).map fun r => r.providers.flatMap d.suppliersFrom).getD [] := by
  unfold SupplyTable.suppliersOf Draft.resource?
  rw [findLast?_map, Option.map_map]
  rfl

/-- A supplier at a value of a timeline. -/
def Supplier.isAt (timeline value : String) (s : Supplier) : Bool :=
  s.timeline == timeline && s.value == value

theorem mem_suppliersFrom {s : Supplier} : s ∈ d.suppliersFrom provider ↔
    ∃ dt ∈ d.timelines, provider.timeline.refersTo dt.name dt.className = true ∧
      s = ⟨dt.name, provider.value, provider.amount⟩ := by
  unfold Draft.suppliersFrom
  simp only [List.mem_map, List.mem_filter, and_assoc, eq_comm]

theorem exists_isAt_suppliersFrom {timeline value : String} :
    (∃ s ∈ d.suppliersFrom provider, s.isAt timeline value = true) ↔
      d.ProvidesAt provider timeline value := by
  simp only [mem_suppliersFrom, Supplier.isAt, Bool.and_eq_true, beq_iff_eq]
  constructor
  · intro h
    obtain ⟨s, ⟨dt, hdt, hmeans, rfl⟩, htimeline, hvalue⟩ := h
    exact ⟨hvalue, dt, hdt, htimeline, hmeans⟩
  · intro h
    obtain ⟨hvalue, dt, hdt, htimeline, hmeans⟩ := h
    exact ⟨_, ⟨dt, hdt, hmeans, rfl⟩, htimeline, hvalue⟩

theorem findLast?_suppliersFrom_eq_none {timeline value : String} :
    findLast? (Supplier.isAt timeline value) (d.suppliersFrom provider) = none ↔
      ¬d.ProvidesAt provider timeline value := by
  rw [findLast?_eq_none, ← exists_isAt_suppliersFrom]
  simp

/-- The suppliers of a provider differ in their timelines only. -/
theorem findLast?_suppliersFrom_eq_some {timeline value : String} {s : Supplier}
    (h : findLast? (Supplier.isAt timeline value) (d.suppliersFrom provider) = some s) :
    d.ProvidesAt provider timeline value ∧ s.amount = provider.amount := by
  obtain ⟨hmem, hat⟩ := mem_of_findLast? h
  obtain ⟨dt, -, -, rfl⟩ := mem_suppliersFrom.mp hmem
  exact ⟨exists_isAt_suppliersFrom.mp ⟨_, hmem, hat⟩, rfl⟩

theorem findLast?_suppliers_eq_none {timeline value : String} :
    findLast? (Supplier.isAt timeline value) (r.providers.flatMap d.suppliersFrom) = none ↔
      ∀ provider ∈ r.providers, ¬d.ProvidesAt provider timeline value := by
  rw [findLast?_flatMap, List.findSome?_eq_none_iff]
  simp only [List.mem_reverse, findLast?_suppliersFrom_eq_none]

theorem capacityOf_map_supplied (d : Draft) (timeline value : String) :
    SupplyTable.capacityOf ⟨d.resources.map d.supplied⟩ timeline value =
      ((findLast? (Supplier.isAt timeline value)
        (d.resources.flatMap fun r => r.providers.flatMap d.suppliersFrom)).map
          Supplier.amount).getD 0 := by
  show ((findLast? (Supplier.isAt timeline value)
    ((d.resources.map d.supplied).flatMap SupplyRow.suppliers)).map Supplier.amount).getD 0 = _
  rw [List.flatMap_map]
  rfl

theorem suppliedBy_of_supply_eq_ok (h : d.supply = .ok table) : d.SuppliedBy table := by
  obtain ⟨hsupply, rfl⟩ := supply_eq_ok.mp h
  refine ⟨fun name r hr => ?_, fun name hnone => ?_, fun timeline value => ?_⟩
  · obtain ⟨provider, hone, -⟩ := hsupply r (mem_of_findLast? hr).1
    refine ⟨provider, hone, ?_⟩
    simp [suppliersOf_map_supplied, hr, hone]
  · simp [suppliersOf_map_supplied, hnone]
  · rw [capacityOf_map_supplied]
    cases hfind : findLast? (Supplier.isAt timeline value)
      (d.resources.flatMap fun r => r.providers.flatMap d.suppliersFrom) with
    | some s =>
      obtain ⟨before, r, after, hresources, hr, hafter⟩ := findLast?_flatMap_eq_some.mp hfind
      obtain ⟨provider, hone, -⟩ := hsupply r (by simp [hresources])
      rw [hone, List.flatMap_singleton] at hr
      obtain ⟨hat, hamount⟩ := findLast?_suppliersFrom_eq_some hr
      refine .inl ⟨before, r, after, provider, hresources, hone, hat, fun u hu => ?_, hamount⟩
      exact findLast?_suppliers_eq_none.mp (hafter u hu)
    | none =>
      refine .inr ⟨fun r hr => ?_, rfl⟩
      rw [findLast?_flatMap, List.findSome?_eq_none_iff] at hfind
      exact findLast?_suppliers_eq_none.mp (hfind r (List.mem_reverse.mpr hr))

/-- The supply of any draft. There is a table exactly if every resource has one provider and
this one means some timeline; otherwise the error names the first resource for which this fails,
with the number of its providers, or zero if its one provider means no timeline. The table has
the suppliers of the last resource of a name, on all timelines that its provider means, and the
capacity of a value is the amount of the last resource that is provided there. -/
theorem supply_of_providers (d : Draft) :
    ((∃ table, d.supply = .ok table) ↔ ∀ r ∈ d.resources, d.HasSupply r) ∧
    (∀ e, d.supply = .error e ↔
      ∃ before r after, d.resources = before ++ r :: after ∧ (∀ u ∈ before, d.HasSupply u) ∧
        ¬d.HasSupply r ∧
        e = .providerConflict r.name
          (if r.providers.length = 1 then 0 else r.providers.length)) ∧
    ∀ table, d.supply = .ok table → d.SuppliedBy table :=
  ⟨supply_isOk, fun _ => supply_eq_error, fun _ => suppliedBy_of_supply_eq_ok⟩

-- Heat of any heater, in the later one of two records; the earlier one loses the capacity.
example :
    let d : Draft :=
      ⟨[.ofValues "h1" "heater" ["On"], .ofValues "h2" "heater" ["On"]],
        [⟨"heat", none, [⟨.named "h1", "On", 5⟩]⟩,
          ⟨"heat", none, [⟨.anyOfClass "heater", "On", 3⟩]⟩]⟩
    d.supply.map (fun table => (table.suppliersOf "heat", table.capacityOf "h1" "On")) =
      .ok ([⟨"h1", "On", 3⟩, ⟨"h2", "On", 3⟩], 3) := rfl

end PlanTimelines
