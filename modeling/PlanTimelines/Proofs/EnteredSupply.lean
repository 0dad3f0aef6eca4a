import PlanTimelines.Proofs.EnteredDraft
import PlanTimelines.Proofs.ResourceSupply

/-! The supply of the resources in a draft after transitions. Every resource has to be
offered, and two records of one name cannot both be: the transitions reach the last one
only. -/

namespace PlanTimelines

variable {d : Draft} {ts : List Transition} {t : Transition}

/-! ## Providers after transitions -/

theorem resolve_named_eq_nil {name : String} {classes : List (String × String)} :
    (TimelineRef.named name).resolve classes = [] ↔ ∀ c ∈ classes, c.1 ≠ name := by
  simp only [TimelineRef.resolve, TimelineRef.refersTo, List.map_eq_nil_iff, List.filter_eq_nil_iff,
    beq_iff_eq]
  constructor
  · intro h c hc hname
    exact h c hc hname.symm
  · intro h c hc hname
    exact h c hc hname.symm

theorem timelineClasses_entered (d : Draft) (ts : List Transition) :
    (d.entered ts).timelineClasses = d.timelineClasses := by
  apply map_mapLasts
  intro name dt
  rfl

/-- Of compatible transitions one alone offers a resource. -/
theorem filterMap_provider?_eq_singleton (hts : ts.Pairwise Transition.Compatible) (ht : t ∈ ts)
    {use : ResourceUse} (hprovides : t.provides = some use) :
    ts.filterMap (·.provider? use.resource) =
      [⟨.named t.timeline, t.temporary, use.amount⟩] := by
  obtain ⟨before, after, rfl⟩ := List.append_of_mem ht
  obtain ⟨-, hafter, hbefore⟩ := List.pairwise_append.mp hts
  have hnone : ∀ u ∈ before, ¬u.Provides use.resource := fun u hu hprov =>
    (hbefore u hu t (by simp)).providers _ hprov ⟨use, hprovides, rfl⟩
  have hnone' : ∀ u ∈ after, ¬u.Provides use.resource := fun u hu =>
    ((List.pairwise_cons.mp hafter).1 u hu).providers _ ⟨use, hprovides, rfl⟩
  rw [List.filterMap_append, filterMap_provider?_eq_nil.mpr hnone, List.filterMap_cons,
    filterMap_provider?_eq_nil.mpr hnone', provider?_of_provides hprovides, if_pos rfl]
  rfl

/-- A timeline that a transition refers to can be resolved. -/
theorem resolve_of_knows (h : d.Knows t) :
    (TimelineRef.named t.timeline).resolve d.timelineClasses ≠ [] := by
  obtain ⟨dt, -, hdt, -⟩ := h.value
  obtain ⟨hmem, hname⟩ := mem_of_findLast? hdt
  rw [ne_eq, resolve_named_eq_nil]
  intro hall
  exact hall (dt.name, dt.className) (List.mem_map.mpr ⟨dt, hmem, rfl⟩) (by simpa using hname)

/-- The row of a resource that a transition offers. -/
theorem supplyRow_entered (hts : ts.Pairwise Transition.Compatible) (ht : t ∈ ts)
    (hknows : d.Knows t) {use : ResourceUse} (hprovides : t.provides = some use)
    {r : DraftResource} (hr : r.name = use.resource) :
    (d.entered ts).supplyRow (r.entered r.name ts) =
      .ok ⟨r.name, ((TimelineRef.named t.timeline).resolve d.timelineClasses).map fun timeline =>
        ⟨timeline, t.temporary, use.amount⟩⟩ := by
  rw [supplyRow_eq_ok, timelineClasses_entered]
  refine ⟨⟨.named t.timeline, t.temporary, use.amount⟩, ?_, resolve_of_knows hknows, rfl⟩
  rw [hr]
  exact filterMap_provider?_eq_singleton hts ht hprovides

theorem supply_entered_isOk (hd : d.Unentered) (hts : ts.Pairwise Transition.Compatible)
    (hknows : ∀ t ∈ ts, d.Knows t) :
    (∃ table, (d.entered ts).supply = .ok table) ↔
      d.resourceNames.Nodup ∧ ∀ name ∈ d.resourceNames, ∃ t ∈ ts, t.Provides name := by
  rw [supply_isOk]
  constructor
  · intro h
    have hnames : d.resourceNames.Nodup := by
      refine nodup_of_mapLasts (f := fun name r => r.entered name ts)
        (P := fun r => r.providers ≠ []) (fun r hr hne => hne (hd.providers r hr))
        (fun r hr => ?_)
      obtain ⟨provider, hproviders, -⟩ := h r hr
      simp [hproviders]
    refine ⟨hnames, fun name hname => ?_⟩
    obtain ⟨r, hr, rfl⟩ := List.mem_map.mp hname
    have hmem : r.entered r.name ts ∈ (d.entered ts).resources := by
      rw [resources_entered_of_nodup hnames]
      exact List.mem_map.mpr ⟨r, hr, rfl⟩
    obtain ⟨provider, hproviders, -⟩ := h _ hmem
    by_contra hnone
    have hnil : ts.filterMap (·.provider? r.name) = [] :=
      filterMap_provider?_eq_nil.mpr fun t ht hprov => hnone ⟨t, ht, hprov⟩
    have hproviders' : ts.filterMap (·.provider? r.name) = [provider] := hproviders
    rw [hnil] at hproviders'
    cases hproviders'
  · intro h r' hr'
    obtain ⟨hnames, hprovided⟩ := h
    rw [resources_entered_of_nodup hnames] at hr'
    obtain ⟨r, hr, rfl⟩ := List.mem_map.mp hr'
    obtain ⟨t, ht, use, hprovides, huse⟩ := hprovided r.name (List.mem_map_of_mem hr)
    have hrow := supplyRow_entered hts ht (hknows t ht) hprovides huse.symm
    exact (supplyRow_eq_supplied.mp hrow).1

/-! ## The supply table -/

theorem provider?_eq_some {name : String} {provider : Provider} :
    t.provider? name = some provider ↔ ∃ use, t.provides = some use ∧ use.resource = name ∧
      provider = ⟨.named t.timeline, t.temporary, use.amount⟩ := by
  cases hprovides : t.provides with
  | none => simp [Transition.provider?, hprovides]
  | some use =>
    rw [provider?_of_provides hprovides]
    simp [eq_comm]

/-- The row of a resource that the transition offers. -/
def Transition.supplyRow (t : Transition) (use : ResourceUse) : SupplyRow :=
  ⟨use.resource, [⟨t.timeline, t.temporary, use.amount⟩]⟩

theorem resolve_named_of_nodup (h : (d.timelines.map DraftTimeline.name).Nodup) {name : String}
    (hname : name ∈ d.timelines.map DraftTimeline.name) :
    (TimelineRef.named name).resolve d.timelineClasses = [name] := by
  have hclasses : d.timelineClasses.map Prod.fst = d.timelines.map DraftTimeline.name := by
    unfold Draft.timelineClasses
    rw [List.map_map]
    rfl
  have hfilter : (TimelineRef.named name).resolve d.timelineClasses =
      (d.timelineClasses.map Prod.fst).filter (· == name) := by
    rw [List.filter_map]
    refine congrArg (List.map Prod.fst) (List.filter_congr fun c _ => ?_)
    exact Bool.beq_comm
  rw [hfilter, hclasses, List.filter_beq, List.count_eq_one_of_mem h hname]
  rfl

/-- The rows are those of the transitions that offer something. -/
theorem mem_rows_entered (hd : d.Unentered) (hts : ts.Pairwise Transition.Compatible)
    (hknows : ∀ t ∈ ts, d.Knows t) (hnames : (d.timelines.map DraftTimeline.name).Nodup)
    {table : SupplyTable} (htable : (d.entered ts).supply = .ok table) {row : SupplyRow} :
    row ∈ table.rows ↔ ∃ t ∈ ts, ∃ use, t.provides = some use ∧ row = t.supplyRow use := by
  obtain ⟨hresources, -⟩ := (supply_entered_isOk hd hts hknows).mp ⟨table, htable⟩
  obtain ⟨rows, hrows, rfl⟩ := map_eq_ok.mp htable
  have resolve {t : Transition} (ht : t ∈ ts) :
      (TimelineRef.named t.timeline).resolve d.timelineClasses = [t.timeline] := by
    obtain ⟨dt, -, hdt, -⟩ := (hknows t ht).value
    obtain ⟨hmem, hname⟩ := mem_of_findLast? hdt
    exact resolve_named_of_nodup hnames (List.mem_map.mpr ⟨dt, hmem, by simpa using hname⟩)
  constructor
  · intro hrow
    obtain ⟨r, hr, hsupply⟩ := exists_of_mem_mapM hrows hrow
    rw [resources_entered_of_nodup hresources] at hr
    obtain ⟨r₀, -, rfl⟩ := List.mem_map.mp hr
    obtain ⟨provider, hproviders, -, rfl⟩ := supplyRow_eq_ok.mp hsupply
    have hprovider : provider ∈ ts.filterMap (·.provider? r₀.name) :=
      List.mem_of_mem_head? (congrArg List.head? hproviders)
    obtain ⟨t, ht, hsome⟩ := List.mem_filterMap.mp hprovider
    obtain ⟨use, hprovides, hname, rfl⟩ := provider?_eq_some.mp hsome
    refine ⟨t, ht, use, hprovides, ?_⟩
    rw [timelineClasses_entered, resolve ht]
    simp [Transition.supplyRow, hname, DraftResource.name_entered]
  · intro h
    obtain ⟨t, ht, use, hprovides, rfl⟩ := h
    obtain ⟨r, hr⟩ := (hknows t ht).resource use hprovides
    have hname := name_of_resource? hr
    have hmem : r.entered r.name ts ∈ (d.entered ts).resources := by
      rw [resources_entered_of_nodup hresources]
      exact List.mem_map.mpr ⟨r, (mem_of_findLast? hr).1, rfl⟩
    obtain ⟨row, hrow, hsupply⟩ := exists_result_of_mem hrows hmem
    rw [supplyRow_entered hts ht (hknows t ht) hprovides hname, resolve ht, hname] at hsupply
    obtain rfl := Except.ok.inj hsupply
    exact hrow

theorem suppliersOf_of_mem {table : SupplyTable}
    (hnames : (table.rows.map SupplyRow.resource).Nodup) {row : SupplyRow}
    (hrow : row ∈ table.rows) : table.suppliersOf row.resource = row.suppliers := by
  unfold SupplyTable.suppliersOf
  rw [findLast?_of_nodup hnames hrow]
  rfl

/-- What a value supplies is the amount of a supplier there, or nothing without any. -/
theorem capacityOf_cases (table : SupplyTable) (timeline value : String) :
    (∃ row ∈ table.rows, ∃ s ∈ row.suppliers, s.timeline = timeline ∧ s.value = value ∧
      table.capacityOf timeline value = s.amount) ∨
    (∀ row ∈ table.rows, ∀ s ∈ row.suppliers, ¬(s.timeline = timeline ∧ s.value = value)) ∧
      table.capacityOf timeline value = 0 := by
  unfold SupplyTable.capacityOf
  cases hfind : findLast? (fun s : Supplier => s.timeline == timeline && s.value == value)
    (table.rows.flatMap SupplyRow.suppliers) with
  | some s =>
    obtain ⟨hmem, hs⟩ := mem_of_findLast? hfind
    obtain ⟨row, hrow, hs'⟩ := List.mem_flatMap.mp hmem
    simp only [Bool.and_eq_true, beq_iff_eq] at hs
    exact .inl ⟨row, hrow, s, hs', hs.1, hs.2, by simp [hfind]⟩
  | none =>
    refine .inr ⟨fun row hrow s hs hhere => ?_, by simp [hfind]⟩
    have hnone := List.find?_eq_none.mp hfind s
      (List.mem_reverse.mpr (List.mem_flatMap.mpr ⟨row, hrow, hs⟩))
    exact hnone (by simp [hhere])

end PlanTimelines
