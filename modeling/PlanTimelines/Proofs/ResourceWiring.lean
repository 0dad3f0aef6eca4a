import PlanTimelines.Proofs.Acceptance
import PlanTimelines.Proofs.OutputEdges

/-! The resources in the result of a conversion. Consumers and providers know each other by
names only, and a consumer may be entered before its provider; in the result every consumer
lies within the one provider of what it consumes, and every provider has its own amount. -/

namespace PlanTimelines

/-- The wiring of the resources among the token types of a result, from the transitions of
the actions. -/
structure TimelineProblem.Wired (out : TimelineProblem) (resources : List String)
    (ts : List Transition) : Prop where
  /-- One action alone provides a resource. -/
  provided : ∀ resource ∈ resources, ∃! i : Fin ts.length, ts[i].Provides resource
  consumed : ∀ t ∈ ts, ∀ use, t.consumes = some use → use.resource ∈ resources
  /-- What is consumed comes from the provider, and this is the first condition. -/
  covered : ∀ t ∈ ts, ∀ use, t.consumes = some use → ∀ u ∈ ts, u.Provides use.resource →
    ∃ timeline type, out.timeline? t.timeline = some timeline ∧
      timeline.tokenType? t.temporary = some type ∧
      type.groups .cover = [.anyOf [.cover u.timeline u.temporary use.amount]] ∧
      type.conditions.head? = some (.anyOf [.cover u.timeline u.temporary use.amount])
  uncovered : ∀ timeline ∈ out.timelines, ∀ type ∈ timeline.tokenTypes,
    (∀ t ∈ claimants ts timeline.name type.value, t.consumes = none) → type.groups .cover = []
  /-- No condition is made of two consumptions. -/
  unmixed : ∀ timeline ∈ out.timelines, ∀ type ∈ timeline.tokenTypes,
    ∀ c ∈ type.groups .cover, ∃ u ∈ ts, ∃ use : ResourceUse, u.Provides use.resource ∧
      c = .anyOf [.cover u.timeline u.temporary use.amount]
  /-- The one provider at a value, if there is one, determines its capacity. -/
  capacity : ∀ timeline ∈ out.timelines, ∀ type ∈ timeline.tokenTypes,
    (∃ t use, (claimants ts timeline.name type.value).filter (·.provides.isSome) = [t] ∧
      t.provides = some use ∧ type.capacity = use.amount) ∨
    (∀ t ∈ claimants ts timeline.name type.value, t.provides = none) ∧ type.capacity = 0

variable {d : Draft} {ts : List Transition} {t : Transition}

/-! ## Consumption -/

theorem consumes_claimedFrom {v : DraftValue} {us : List Transition} {use : ResourceUse}
    (hne : us ≠ []) (hus : ∀ u ∈ us, u.consumes = some use) :
    (v.claimedFrom us).consumes = [use] := by
  cases us with
  | nil => exact absurd rfl hne
  | cons u rest =>
    have hconsumes : u.consumes = some use := hus u List.mem_cons_self
    simp [DraftValue.claimedFrom, DraftValue.claim, hconsumes]

/-- A value is as it was or claimed by the first transition through it. -/
theorem mem_values_entered {dt : DraftTimeline} {v : DraftValue} (h : v ∈ (dt.entered ts).values) :
    ∃ v₀ ∈ dt.values, v₀.name = v.name ∧
      (v = v₀ ∨ ∃ t ∈ ts, t.temporary = v.name ∧ v = v₀.claim t) := by
  obtain ⟨v₀, hv₀, rfl | rfl⟩ := mem_mapFirsts h
  · refine ⟨v₀, hv₀, (name_claimedFrom ..).symm, ?_⟩
    rw [name_claimedFrom]
    cases hclaimants : ts.filter (·.temporary == v₀.name) with
    | nil => exact .inl rfl
    | cons t rest =>
      have ht : t ∈ ts.filter (·.temporary == v₀.name) := hclaimants ▸ List.mem_cons_self
      obtain ⟨hmem, hname⟩ := List.mem_filter.mp ht
      exact .inr ⟨t, hmem, by simpa using hname, rfl⟩
  · exact ⟨v, hv₀, rfl, .inl rfl⟩

theorem consumes_of_mem_values_entered {dt : DraftTimeline} {v : DraftValue}
    (hvalues : ∀ v ∈ dt.values, v = .unclaimed v.name) (hv : v ∈ (dt.entered ts).values) :
    v.consumes = [] ∨
      ∃ t ∈ ts, t.temporary = v.name ∧ ∃ use, t.consumes = some use ∧ v.consumes = [use] := by
  obtain ⟨v₀, hv₀, hname, rfl | ⟨t, ht, htemporary, rfl⟩⟩ := mem_values_entered hv
  · rw [hvalues v hv₀]
    exact .inl rfl
  · cases hconsumes : t.consumes with
    | none => exact .inl (by simp [DraftValue.claim, hconsumes])
    | some use =>
      exact .inr ⟨t, ht, htemporary, use, hconsumes, by simp [DraftValue.claim, hconsumes]⟩

theorem head?_conditions_tokenType {dt : DraftTimeline} {table : SupplyTable}
    {minDuration : UInt32} {v : DraftValue} {links : List Link}
    (h : DraftTimeline.coverLinks table v = links) (hne : links ≠ []) :
    (dt.tokenType table minDuration v).conditions.head? = some (.anyOf links) := by
  unfold DraftTimeline.tokenType
  rw [h, Condition.ofLinks_of_ne_nil hne]
  rfl

/-! ## Provision -/

/-- Of the transitions through a value one at most provides something: the others would
provide the same. -/
theorem filter_provides_claimants (hts : ts.Pairwise Transition.Compatible)
    (timeline value : String) :
    (∃ t use, (claimants ts timeline value).filter (·.provides.isSome) = [t] ∧
      t.provides = some use) ∨ ∀ t ∈ claimants ts timeline value, t.provides = none := by
  have hmem : ∀ t ∈ (claimants ts timeline value).filter (·.provides.isSome),
      t.timeline = timeline ∧ t.temporary = value ∧ ∃ use, t.provides = some use := by
    intro t ht
    obtain ⟨hclaimant, hsome⟩ := List.mem_filter.mp ht
    exact ⟨(mem_claimants.mp hclaimant).2.1, (mem_claimants.mp hclaimant).2.2,
      Option.isSome_iff_exists.mp hsome⟩
  have hpairwise : ((claimants ts timeline value).filter (·.provides.isSome)).Pairwise
      Transition.Compatible :=
    ((hts.filter _).filter _).filter _
  cases hproviders : (claimants ts timeline value).filter (·.provides.isSome) with
  | nil =>
    refine .inr fun t ht => ?_
    simpa using List.filter_eq_nil_iff.mp hproviders t ht
  | cons t rest =>
    rw [hproviders] at hmem hpairwise
    obtain ⟨htimeline, htemporary, use, hprovides⟩ := hmem t List.mem_cons_self
    cases rest with
    | nil => exact .inl ⟨t, use, rfl, hprovides⟩
    | cons u rest =>
      have hu : u ∈ t :: u :: rest := by simp
      have hcompatible : t.Compatible u := List.rel_of_pairwise_cons hpairwise List.mem_cons_self
      have hsame : t.provides = u.provides := (hcompatible.footprint
        (htimeline.trans (hmem u hu).1.symm) (htemporary.trans (hmem u hu).2.1.symm)).2.1
      exact absurd ⟨use, hsame.symm.trans hprovides, rfl⟩
        (hcompatible.providers use.resource ⟨use, hprovides, rfl⟩)

/-! ## The entered draft -/

section Entered

variable {table : SupplyTable} (hd : d.Unentered) (hts : ts.Pairwise Transition.Compatible)
  (hknows : ∀ t ∈ ts, d.Knows t) (hnames : (d.timelines.map DraftTimeline.name).Nodup)
  (htable : (d.entered ts).supply = .ok table)

include hd hts hknows hnames htable

theorem suppliersOf_entered {use : ResourceUse} (ht : t ∈ ts) (hprovides : t.provides = some use) :
    table.suppliersOf use.resource = [⟨t.timeline, t.temporary, use.amount⟩] := by
  obtain ⟨hresources, -⟩ := (supply_entered_isOk hd hts hknows).mp ⟨table, htable⟩
  have hrow : t.supplyRow use ∈ table.rows :=
    (mem_rows_entered hd hts hknows hnames htable).mpr ⟨t, ht, use, hprovides, rfl⟩
  have hrows : (table.rows.map SupplyRow.resource).Nodup := by
    rw [map_resource_rows htable, (sameNames_entered d ts).resources]
    exact hresources
  exact suppliersOf_of_mem hrows hrow

theorem coverLinks_entered {v : DraftValue} {use : ResourceUse} (hconsumes : v.consumes = [use])
    (ht : t ∈ ts) (hprovides : t.Provides use.resource) :
    DraftTimeline.coverLinks table v = [.cover t.timeline t.temporary use.amount] := by
  obtain ⟨offer, hoffer, hresource⟩ := hprovides
  have hsuppliers := suppliersOf_entered hd hts hknows hnames htable ht hoffer
  rw [hresource] at hsuppliers
  simp [DraftTimeline.coverLinks, hconsumes, hsuppliers]

theorem capacityOf_entered (timeline value : String) :
    (∃ t use, (claimants ts timeline value).filter (·.provides.isSome) = [t] ∧
      t.provides = some use ∧ table.capacityOf timeline value = use.amount) ∨
    (∀ t ∈ claimants ts timeline value, t.provides = none) ∧
      table.capacityOf timeline value = 0 := by
  have hrows {row : SupplyRow} :
      row ∈ table.rows ↔ ∃ t ∈ ts, ∃ use, t.provides = some use ∧ row = t.supplyRow use :=
    mem_rows_entered hd hts hknows hnames htable
  rcases capacityOf_cases table timeline value with
    ⟨row, hrow, s, hs, htimeline, hvalue, hcapacity⟩ | ⟨hnone, hcapacity⟩
  · obtain ⟨t, ht, use, hprovides, rfl⟩ := hrows.mp hrow
    obtain rfl := List.mem_singleton.mp hs
    have hclaimant : t ∈ claimants ts timeline value :=
      mem_claimants.mpr ⟨ht, htimeline, hvalue⟩
    rcases filter_provides_claimants hts timeline value with ⟨u, -, hu, -⟩ | hnone
    · have hmem : t ∈ (claimants ts timeline value).filter (·.provides.isSome) :=
        List.mem_filter.mpr ⟨hclaimant, by simp [hprovides]⟩
      rw [hu] at hmem
      obtain rfl := List.mem_singleton.mp hmem
      exact .inl ⟨t, use, hu, hprovides, hcapacity⟩
    · rw [hnone t hclaimant] at hprovides
      cases hprovides
  · refine .inr ⟨fun t ht => ?_, hcapacity⟩
    obtain ⟨hmem, htimeline, hvalue⟩ := mem_claimants.mp ht
    cases hprovides : t.provides with
    | none => rfl
    | some use =>
      have hrow : t.supplyRow use ∈ table.rows := hrows.mpr ⟨t, hmem, use, hprovides, rfl⟩
      exact absurd ⟨htimeline, hvalue⟩
        (hnone _ hrow ⟨t.timeline, t.temporary, use.amount⟩ List.mem_cons_self)

/-- The token type of a value that a consumer leads through. -/
theorem covered_synthesize_entered (minDuration : UInt32) {u : Transition} {use : ResourceUse}
    (ht : t ∈ ts) (hconsumes : t.consumes = some use) (hu : u ∈ ts)
    (hprovides : u.Provides use.resource) :
    ∃ timeline type,
      ((d.entered ts).synthesize table minDuration).timeline? t.timeline = some timeline ∧
      timeline.tokenType? t.temporary = some type ∧
      type.groups .cover = [.anyOf [.cover u.timeline u.temporary use.amount]] ∧
      type.conditions.head? = some (.anyOf [.cover u.timeline u.temporary use.amount]) := by
  obtain ⟨dt, v, hdt, hv⟩ := (hknows t ht).value
  obtain ⟨hmem, hname⟩ := mem_of_findLast? hdt
  have hline : dt.name = t.timeline := by simpa using hname
  have hclaimed : (v.claimedFrom (claimants ts t.timeline t.temporary)).consumes = [use] := by
    refine consumes_claimedFrom (List.ne_nil_of_mem (mem_claimants.mpr ⟨ht, rfl, rfl⟩)) ?_
    intro w hw
    obtain ⟨hmem, htimeline, htemporary⟩ := mem_claimants.mp hw
    obtain ⟨-, -, hsame⟩ := footprint_of_pairwise hts hmem ht htimeline htemporary
    exact hsame.trans hconsumes
  have hcover := coverLinks_entered hd hts hknows hnames htable hclaimed hu hprovides
  have htimeline :
      ((d.entered ts).synthesize table minDuration).timeline? dt.name = _ :=
    timeline?_synthesize_entered hnames hmem
  rw [hline] at htimeline
  refine ⟨_, _, htimeline, tokenType?_synthesize_entered hv table minDuration, ?_, ?_⟩
  · rw [groups_cover_tokenType]
    exact congrArg Condition.ofLinks hcover
  · exact head?_conditions_tokenType hcover (by simp)

theorem wired_synthesize_entered (minDuration : UInt32)
    (hconsumes : ∀ t ∈ ts, ∀ use, t.consumes = some use → ∃ r, d.resource? use.resource = some r) :
    ((d.entered ts).synthesize table minDuration).Wired d.resourceNames ts := by
  obtain ⟨-, hprovided⟩ := (supply_entered_isOk hd hts hknows).mp ⟨table, htable⟩
  have hconsumed : ∀ t ∈ ts, ∀ use, t.consumes = some use → use.resource ∈ d.resourceNames := by
    intro t ht use huse
    obtain ⟨r, hr⟩ := hconsumes t ht use huse
    exact List.mem_map.mpr ⟨r, (mem_of_findLast? hr).1, name_of_resource? hr⟩
  have htype : ∀ timeline ∈ ((d.entered ts).synthesize table minDuration).timelines,
      ∀ type ∈ timeline.tokenTypes, ∃ v : DraftValue, type.value = v.name ∧
        type.capacity = table.capacityOf timeline.name v.name ∧
        type.groups .cover = Condition.ofLinks (DraftTimeline.coverLinks table v) ∧
        (v.consumes = [] ∨ ∃ t ∈ claimants ts timeline.name v.name, ∃ use,
          t.consumes = some use ∧ v.consumes = [use]) := by
    intro timeline htimeline type htype
    obtain ⟨dt, hdt, rfl⟩ := (mem_timelines_synthesize_entered hnames).mp htimeline
    obtain ⟨v, hv, rfl⟩ := List.mem_map.mp htype
    refine ⟨v, rfl, rfl, groups_cover_tokenType .., ?_⟩
    rcases consumes_of_mem_values_entered (hd.values dt hdt) hv with h | ⟨t, ht, hname, huse⟩
    · exact .inl h
    · exact .inr ⟨t, List.mem_filter.mpr ⟨ht, by simpa using hname⟩, huse⟩
  constructor
  · intro resource hresource
    obtain ⟨t, ht, hprovides⟩ := hprovided resource hresource
    obtain ⟨i, hi, rfl⟩ := List.mem_iff_getElem.mp ht
    refine ⟨⟨i, hi⟩, hprovides, fun j hj => by_contra fun hne => ?_⟩
    exact (pairwise_compatible_iff.mp hts).2 j i j.isLt hi (fun h => hne (Fin.ext h)) resource
      hj hprovides
  · exact hconsumed
  · intro t ht use huse u hu hprovides
    exact covered_synthesize_entered hd hts hknows hnames htable minDuration ht huse hu hprovides
  · intro timeline htimeline type htype' hnone
    obtain ⟨v, hvalue, -, hgroups, hconsumes⟩ := htype timeline htimeline type htype'
    rcases hconsumes with hnil | ⟨t, ht, use, huse, -⟩
    · rw [hgroups, Condition.ofLinks_eq_nil]
      simp [DraftTimeline.coverLinks, hnil]
    · rw [hnone t (hvalue ▸ ht)] at huse
      cases huse
  · intro timeline htimeline type htype' c hc
    obtain ⟨v, -, -, hgroups, hconsumes⟩ := htype timeline htimeline type htype'
    rw [hgroups] at hc
    rcases hconsumes with hnil | ⟨t, ht, use, huse, hv⟩
    · simp [DraftTimeline.coverLinks, hnil, Condition.ofLinks] at hc
    · obtain ⟨u, hu, hprovides⟩ :=
        hprovided _ (hconsumed t (mem_claimants.mp ht).1 use huse)
      rw [coverLinks_entered hd hts hknows hnames htable hv hu hprovides] at hc
      exact ⟨u, hu, use, hprovides, List.mem_singleton.mp hc⟩
  · intro timeline htimeline type htype'
    obtain ⟨v, hvalue, hcapacity, -⟩ := htype timeline htimeline type htype'
    rw [hvalue, hcapacity]
    exact capacityOf_entered hd hts hknows hnames htable timeline.name v.name

end Entered

/-! ## The conversion -/

/-- In the result of a conversion the resources are wired as the actions say. -/
theorem convert_wired {p : Problem} {settings : Settings} {out : TimelineProblem} {fresh : Draft}
    (hfresh : Draft.ofProblem p p.domains = .ok fresh)
    (hnames : (fresh.timelines.map DraftTimeline.name).Nodup)
    (hout : p.convert settings = .ok out) :
    ∃ actions ts, p.actionInstances p.domains = .ok actions ∧
      actions.mapM (Transition.ofAction fresh settings.endConditions) = .ok ts ∧
      out.Wired fresh.resourceNames ts := by
  obtain ⟨d, actions, ts, table, hd, hactions, hts, hpairwise, htable, rfl⟩ :=
    convert_eq_ok.mp hout
  have hsame := sameNames_initialDraft hfresh hd
  refine ⟨actions, ts, hactions, by rw [hsame.mapM_ofAction_congr, hts], ?_⟩
  rw [hsame.resources]
  refine wired_synthesize_entered (unentered_initialDraft hd) hpairwise (knows_of_mapM hts)
    (hsame.map_name_eq ▸ hnames) htable _ fun t ht use huse => ?_
  obtain ⟨action, -, haction⟩ := exists_of_mem_mapM hts ht
  exact resource?_of_consumes haction huse

/-- The power of the kitchen comes from the generator and goes to the kettle. -/
theorem kitchen_wired :
    ∃ out, Example.Kitchen.problem.convert .default = .ok out ∧ out.Wired ["power"]
      [⟨"run", "gen", "Off", "Running", "Off", 10, some ⟨"power", 2⟩, none⟩,
        ⟨"heat", "kettle", "Cold", "Heating", "Hot", 4, none, some ⟨"power", 1⟩⟩] := by
  obtain ⟨out, hout⟩ : ∃ out, Example.Kitchen.problem.convert .default = .ok out := ⟨_, rfl⟩
  refine ⟨out, hout, ?_⟩
  obtain ⟨actions, ts, hactions, hts, hwired⟩ :=
    convert_wired (p := Example.Kitchen.problem) rfl (by decide) hout
  obtain rfl := Except.ok.inj hactions
  obtain rfl := Except.ok.inj hts
  exact hwired

end PlanTimelines
