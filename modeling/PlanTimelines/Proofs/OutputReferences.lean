import PlanTimelines.Proofs.DraftConsistency
import PlanTimelines.Proofs.EnteredSupply
import PlanTimelines.Proofs.StateValues
import PlanTimelines.Proofs.TokenTypes

/-! The references in the result of a conversion. Links and static tokens name timelines and
values; the names are written down in one step and read in another, and names may repeat. All
of them lead to a token type of the result, for the draft is consistent when it is read. -/

namespace PlanTimelines

/-- Every name in the result is the name of something in the result. -/
structure TimelineProblem.Closed (out : TimelineProblem) : Prop where
  links : ∀ timeline ∈ out.timelines, ∀ type ∈ timeline.tokenTypes, ∀ c ∈ type.conditions,
    ∀ l ∈ c.links, ∃ target ∈ out.timelines, target.name = l.timeline ∧
      ∃ targetType ∈ target.tokenTypes, targetType.value = l.value
  staticTokens : ∀ timeline ∈ out.timelines, ∀ s ∈ timeline.staticTokens,
    ∃ type ∈ timeline.tokenTypes, type.value = s.value

variable {d d' : Draft} {dt : DraftTimeline} {table : SupplyTable} {minDuration : UInt32}

/-! ## Values and token types -/

theorem exists_tokenType_of_hasValue {value : String} (h : dt.hasValue value = true) :
    ∃ type ∈ (dt.synthesize table minDuration).tokenTypes, type.value = value := by
  rw [hasValue_eq_contains, List.contains_iff_mem] at h
  obtain ⟨v, hv, rfl⟩ := List.mem_map.mp h
  exact ⟨_, List.mem_map_of_mem hv, rfl⟩

theorem mem_links_tokenType {v : DraftValue} {c : Condition} {l : Link}
    (hc : c ∈ (dt.tokenType table minDuration v).conditions) (hl : l ∈ c.links) :
    l ∈ DraftTimeline.coverLinks table v ∨ l ∈ dt.metByLinks v ∨ l ∈ dt.meetsLinks v := by
  have mem_of_mem_ofLinks {links : List Link} (hc : c ∈ Condition.ofLinks links) : l ∈ links := by
    obtain ⟨-, rfl⟩ := mem_ofLinks.mp hc
    exact hl
  rcases (mem_conditions_tokenType ..).mp hc with hc | hc | hc
  · exact .inl (mem_of_mem_ofLinks hc)
  · exact .inr (.inl (mem_of_mem_ofLinks hc))
  · exact .inr (.inr (mem_of_mem_ofLinks hc))

/-! ## Links -/

/-- Neighbours are ends of edges. -/
theorem hasValue_of_mem_neighbourLinks (hdt : dt.Consistent) {v : DraftValue} {l : Link}
    (hl : l ∈ dt.metByLinks v ∨ l ∈ dt.meetsLinks v) :
    l.timeline = dt.name ∧ dt.hasValue l.value = true := by
  rcases hl with hl | hl
  · obtain ⟨u, hu, rfl⟩ := List.mem_map.mp hl
    obtain ⟨edge, hedge, rfl⟩ := List.mem_map.mp hu
    exact ⟨rfl, (hdt.ends edge (List.mem_of_mem_filter hedge)).1⟩
  · unfold DraftTimeline.meetsLinks at hl
    split at hl
    · obtain ⟨w, hw, rfl⟩ := List.mem_map.mp hl
      obtain ⟨edge, hedge, rfl⟩ := List.mem_map.mp hw
      exact ⟨rfl, (hdt.ends edge (List.mem_of_mem_filter hedge)).2⟩
    · cases hl

theorem mem_suppliersOf {resource : String} {s : Supplier} (h : s ∈ table.suppliersOf resource) :
    ∃ row ∈ table.rows, s ∈ row.suppliers := by
  unfold SupplyTable.suppliersOf at h
  cases hrow : findLast? (·.resource == resource) table.rows with
  | none => simp [hrow] at h
  | some row =>
    rw [hrow] at h
    exact ⟨row, (mem_of_findLast? hrow).1, h⟩

theorem mem_resolve_named {name timeline : String} {classes : List (String × String)}
    (h : timeline ∈ (TimelineRef.named name).resolve classes) : timeline = name := by
  obtain ⟨c, hc, rfl⟩ := List.mem_map.mp h
  have hname := List.of_mem_filter hc
  simp only [TimelineRef.refersTo, beq_iff_eq] at hname
  exact hname.symm

/-- A supplier is a value of a timeline in the draft. -/
theorem hasValue_of_mem_rows (hd : d.Consistent) (htable : d.supply = .ok table)
    {row : SupplyRow} {s : Supplier} (hrow : row ∈ table.rows) (hs : s ∈ row.suppliers) :
    ∃ dt ∈ d.timelines, dt.name = s.timeline ∧ dt.hasValue s.value = true := by
  obtain ⟨rows, hrows, rfl⟩ := map_eq_ok.mp htable
  obtain ⟨r, hr, hsupplyRow⟩ := exists_of_mem_mapM hrows hrow
  obtain ⟨provider, hproviders, -, rfl⟩ := supplyRow_eq_ok.mp hsupplyRow
  obtain ⟨timeline, htimeline, rfl⟩ := List.mem_map.mp hs
  obtain ⟨name, v, hnamed, hv, -⟩ := hd.providers r hr provider (by simp [hproviders])
  rw [hnamed] at htimeline
  obtain rfl := mem_resolve_named htimeline
  obtain ⟨dt, hdt, hvalue⟩ := value?_eq_some.mp hv
  obtain ⟨hmem, hname⟩ := mem_of_findLast? hdt
  exact ⟨dt, hmem, by simpa using hname, by simp [DraftTimeline.hasValue, hvalue]⟩

theorem closed_synthesize (hd : d.Consistent) (hstate : d.StateKnown)
    (htable : d.supply = .ok table) : (d.synthesize table minDuration).Closed := by
  have target_of_hasValue {name value : String}
      (h : ∃ dt ∈ d.timelines, dt.name = name ∧ dt.hasValue value = true) :
      ∃ target ∈ (d.synthesize table minDuration).timelines, target.name = name ∧
        ∃ targetType ∈ target.tokenTypes, targetType.value = value := by
    obtain ⟨dt, hdt, hname, hvalue⟩ := h
    exact ⟨_, List.mem_map_of_mem hdt, hname, exists_tokenType_of_hasValue hvalue⟩
  refine ⟨fun timeline htimeline type htype c hc l hl => ?_, fun timeline htimeline s hs => ?_⟩
  · obtain ⟨dt, hdt, rfl⟩ := List.mem_map.mp htimeline
    obtain ⟨v, -, rfl⟩ := List.mem_map.mp htype
    apply target_of_hasValue
    rcases mem_links_tokenType hc hl with hl | hl
    · obtain ⟨use, -, hl⟩ := List.mem_flatMap.mp hl
      obtain ⟨s, hs, rfl⟩ := List.mem_map.mp hl
      obtain ⟨row, hrow, hs⟩ := mem_suppliersOf hs
      exact hasValue_of_mem_rows hd htable hrow hs
    · obtain ⟨hname, hvalue⟩ := hasValue_of_mem_neighbourLinks (hd.timelines dt hdt) hl
      exact ⟨dt, hdt, hname.symm, hvalue⟩
  · obtain ⟨dt, hdt, rfl⟩ := List.mem_map.mp htimeline
    exact exists_tokenType_of_hasValue (hasValue_of_mem_staticTokens (hstate dt hdt) hs)

/-! ## The conversion -/

theorem transitionOf_eq_ok {policy : EndConditions} {action : Action} {t : Transition} :
    d.transitionOf policy action = .ok t ↔ Transition.ofAction d policy action = .ok t := by
  unfold Draft.transitionOf
  split
  · rename_i h
    simp [h]
  · rename_i h
    simp [h]

/-- A conversion makes a run. -/
theorem reaches_of_enterAll {policy : EndConditions} {actions : List Action}
    {outcomes : List (Except ConversionError Claim)} {d₁ : Draft}
    (hreaches : d.Reaches d₁ outcomes) (h : (d₁.enterAll policy actions).2 = .ok d') :
    ∃ outcomes', d.Reaches d' outcomes' := by
  induction actions generalizing d₁ outcomes with
  | nil =>
    obtain rfl := Except.ok.inj h
    exact ⟨outcomes, hreaches⟩
  | cons action rest ih =>
    simp only [Draft.enterAll] at h
    split at h
    · cases h
    · rename_i t haction
      split at h
      · cases h
      · rename_i henter
        exact ih (.enter hreaches (transitionOf_eq_ok.mp haction) henter) h

/-- The result of a conversion refers to nothing outside, and its conditions can be told by
their relations. -/
theorem convert_closed {p : Problem} {settings : Settings} {out : TimelineProblem}
    (hout : p.convert settings = .ok out) : out.Closed ∧
      ∀ timeline ∈ out.timelines, ∀ type ∈ timeline.tokenTypes, type.Grouped := by
  obtain ⟨d, actions, ts, table, hd, -, hts, hpairwise, htable, rfl⟩ := convert_eq_ok.mp hout
  have hunentered := unentered_initialDraft hd
  obtain ⟨_, hreaches⟩ := reaches_of_enterAll .start
    ((enterAll_eq_ok hunentered).mpr ⟨ts, hts, hpairwise, rfl⟩)
  have hconsistent := hreaches.consistent (consistent_of_unentered hunentered)
  have hstate := stateKnown_entered (stateKnown_initialDraft hd) ts
  refine ⟨closed_synthesize hconsistent hstate htable, fun timeline htimeline type htype => ?_⟩
  obtain ⟨dt, -, rfl⟩ := List.mem_map.mp htimeline
  obtain ⟨v, -, rfl⟩ := List.mem_map.mp htype
  exact grouped_tokenType ..

/-- A kitchen in which the generator is declared twice: power is supplied by two timelines of
one name, the first of which never runs. -/
theorem kitchen_twice_closed :
    ∃ out, (Example.Kitchen.problem.addFluent ⟨"gen", [], .user "Gen"⟩).convert .default = .ok out ∧
      out.timelines.map Timeline.name = ["gen", "kettle", "gen"] ∧
      out.Closed ∧ ∀ timeline ∈ out.timelines, ∀ type ∈ timeline.tokenTypes, type.Grouped := by
  obtain ⟨out, hout, hnames⟩ : ∃ out, (Example.Kitchen.problem.addFluent
      ⟨"gen", [], .user "Gen"⟩).convert .default = .ok out ∧
        out.timelines.map Timeline.name = ["gen", "kettle", "gen"] := ⟨_, rfl, rfl⟩
  exact ⟨out, hout, hnames, convert_closed hout⟩

end PlanTimelines
