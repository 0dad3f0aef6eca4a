import PlanTimelines.Example.Kitchen
import PlanTimelines.Proofs.EnteredActions
import PlanTimelines.Proofs.Occurrences
import PlanTimelines.Proofs.TokenTypes

/-! The neighbours and the durations in the result of a conversion. They are those of the
transitions on the timeline, and nothing is lost or added on the way: not when transitions
share values, and not when a claim is merged with an earlier one. -/

namespace PlanTimelines

/-! ## Neighbours in transitions -/

/-- The values that come before a value in transitions of one timeline, each where it
first does. -/
def predecessorsIn (ts : List Transition) (value : String) : List String :=
  (((ts.flatMap Transition.edges).filter (·.2 == value)).map Prod.fst).eraseDups

/-- The values that come after a value. -/
def successorsIn (ts : List Transition) (value : String) : List String :=
  (((ts.flatMap Transition.edges).filter (·.1 == value)).map Prod.snd).eraseDups

variable {ts : List Transition} {value : String}

theorem mem_edges {t : Transition} {source target : String} :
    (source, target) ∈ t.edges ↔
      source = t.source ∧ target = t.temporary ∨ source = t.temporary ∧ target = t.final := by
  simp [Transition.edges]

theorem mem_predecessorsIn {u : String} :
    u ∈ predecessorsIn ts value ↔ ∃ t ∈ ts, (u, value) ∈ t.edges := by
  simp [predecessorsIn, List.mem_eraseDups]

theorem mem_successorsIn {w : String} :
    w ∈ successorsIn ts value ↔ ∃ t ∈ ts, (value, w) ∈ t.edges := by
  simp [successorsIn, List.mem_eraseDups]

theorem nodup_predecessorsIn : (predecessorsIn ts value).Nodup :=
  nodup_eraseDups _

theorem nodup_successorsIn : (successorsIn ts value).Nodup :=
  nodup_eraseDups _

/-- What a token type owes to the transitions of its timeline. -/
structure TokenType.FollowsFrom (type : TokenType) (timeline : String) (minDuration : UInt32)
    (ts : List Transition) : Prop where
  /-- There is one group with all predecessors, or none if there are no predecessors. -/
  metBy : type.groups .metBy =
    Condition.ofLinks ((predecessorsIn ts type.value).map (.metBy timeline))
  fixed : ∀ duration, type.duration = .fixed duration ↔
    ∃ t ∈ ts, t.temporary = type.value ∧ t.duration = duration
  unbounded : (¬∃ t ∈ ts, t.temporary = type.value) → type.duration = .atLeast minDuration
  meets_iff : type.groups .meets ≠ [] ↔ ∃ t ∈ ts, t.temporary = type.value
  meets : (∃ t ∈ ts, t.temporary = type.value) →
    type.groups .meets = [.anyOf ((successorsIn ts type.value).map (.meets timeline))]
  nodup : ∀ c ∈ type.groups .metBy ++ type.groups .meets, c.links.Nodup

/-! ## Neighbours in the entered draft -/

theorem predecessors_entered (dt : DraftTimeline) (ts : List Transition) (value : String) :
    (dt.entered ts).predecessors value = predecessorsIn ts value := by
  unfold DraftTimeline.predecessors predecessorsIn
  rw [eraseDups_map, eraseDups_filter]
  · rfl
  · rintro ⟨u, v⟩ hx ⟨u', v'⟩ hy rfl
    simp only [List.mem_filter, beq_iff_eq] at hx hy
    rw [hx.2, hy.2]

theorem successors_entered (dt : DraftTimeline) (ts : List Transition) (value : String) :
    (dt.entered ts).successors value = successorsIn ts value := by
  unfold DraftTimeline.successors successorsIn
  rw [eraseDups_map, eraseDups_filter]
  · rfl
  · rintro ⟨v, w⟩ hx ⟨v', w'⟩ hy rfl
    simp only [List.mem_filter, beq_iff_eq] at hx hy
    rw [hx.2, hy.2]

theorem metByLinks_entered (dt : DraftTimeline) (ts : List Transition) (v : DraftValue) :
    (dt.entered ts).metByLinks v = (predecessorsIn ts v.name).map (.metBy dt.name) := by
  unfold DraftTimeline.metByLinks
  rw [predecessors_entered]
  rfl

theorem meetsLinks_entered (dt : DraftTimeline) (ts : List Transition) (v : DraftValue) :
    (dt.entered ts).meetsLinks v =
      if v.duration.isSome then (successorsIn ts v.name).map (.meets dt.name) else [] := by
  unfold DraftTimeline.meetsLinks
  rw [successors_entered]
  rfl

theorem nodup_metByLinks_entered (dt : DraftTimeline) (ts : List Transition) (v : DraftValue) :
    ((dt.entered ts).metByLinks v).Nodup := by
  rw [metByLinks_entered]
  exact nodup_predecessorsIn.map fun _ _ h => (Link.mk.inj h).2.1

theorem nodup_meetsLinks_entered (dt : DraftTimeline) (ts : List Transition) (v : DraftValue) :
    ((dt.entered ts).meetsLinks v).Nodup := by
  rw [meetsLinks_entered]
  split
  · exact nodup_successorsIn.map fun _ _ h => (Link.mk.inj h).2.1
  · exact List.nodup_nil

/-! ## Token types of the entered draft -/

/-- The duration of a value that nothing else claimed is that of the transitions. -/
theorem duration_claimedFrom {v : DraftValue} (hv : v.duration = none) {us : List Transition}
    (hus : ∀ t ∈ us, ∀ u ∈ us, t.duration = u.duration) (duration : UInt32) :
    (v.claimedFrom us).duration = some duration ↔ ∃ t ∈ us, t.duration = duration := by
  cases us with
  | nil => simp [DraftValue.claimedFrom, hv]
  | cons u rest =>
    simp only [DraftValue.claimedFrom, DraftValue.claim, Option.some.injEq]
    constructor
    · intro h
      exact ⟨u, List.mem_cons_self, h⟩
    · intro h
      obtain ⟨t, ht, rfl⟩ := h
      exact hus u List.mem_cons_self t ht

theorem tokenType_followsFrom (dt : DraftTimeline) {v : DraftValue} (table : SupplyTable)
    (minDuration : UInt32) (hv : ∀ duration, v.duration = some duration ↔
      ∃ t ∈ ts, t.temporary = v.name ∧ t.duration = duration) :
    ((dt.entered ts).tokenType table minDuration v).FollowsFrom dt.name minDuration ts := by
  have hclaimed : v.duration.isSome = true ↔ ∃ t ∈ ts, t.temporary = v.name := by
    simp only [Option.isSome_iff_exists, hv]
    exact ⟨fun ⟨_, t, ht, hname, _⟩ => ⟨t, ht, hname⟩, fun ⟨t, ht, hname⟩ => ⟨_, t, ht, hname, rfl⟩⟩
  have hmeets : (∃ t ∈ ts, t.temporary = v.name) →
      ((dt.entered ts).tokenType table minDuration v).groups .meets =
        [.anyOf ((successorsIn ts v.name).map (.meets dt.name))] := by
    intro h
    obtain ⟨t, ht, hname⟩ := h
    have hfinal : t.final ∈ successorsIn ts v.name :=
      mem_successorsIn.mpr ⟨t, ht, mem_edges.mpr (.inr ⟨hname.symm, rfl⟩)⟩
    rw [groups_meets_tokenType, meetsLinks_entered, if_pos (hclaimed.mpr ⟨t, ht, hname⟩),
      Condition.ofLinks_of_ne_nil]
    simpa using List.ne_nil_of_mem hfinal
  refine ⟨?_, fun duration => ?_, fun h => ?_, ⟨fun h => ?_, fun h => ?_⟩, hmeets, fun c hc => ?_⟩
  · rw [groups_metBy_tokenType, metByLinks_entered]
    rfl
  · exact (duration_tokenType_eq_fixed _ table minDuration v).trans (hv duration)
  · exact duration_tokenType_of_none _ _ _ (Option.not_isSome_iff_eq_none.mp (mt hclaimed.mp h))
  · rw [groups_meets_tokenType, ne_eq, Condition.ofLinks_eq_nil] at h
    refine hclaimed.mp (by_contra fun hnone => h ?_)
    exact if_neg hnone
  · rw [hmeets h]
    simp
  · rw [groups_metBy_tokenType, groups_meets_tokenType] at hc
    rcases List.mem_append.mp hc with hc | hc
    · obtain ⟨-, rfl⟩ := mem_ofLinks.mp hc
      exact nodup_metByLinks_entered dt ts v
    · obtain ⟨-, rfl⟩ := mem_ofLinks.mp hc
      exact nodup_meetsLinks_entered dt ts v

/-- Compatible transitions claim a value for one duration, so its token type follows from all of
them. -/
theorem tokenType_claimedFrom_followsFrom {d : Draft} (hd : d.Unentered)
    (hts : ts.Pairwise Transition.Compatible) {dt : DraftTimeline} (hdt : dt ∈ d.timelines)
    {v : DraftValue} (hv : v ∈ dt.values) (table : SupplyTable) (minDuration : UInt32) :
    ((dt.entered (ts.filter (·.timeline == dt.name))).tokenType table minDuration
        (v.claimedFrom (claimants ts dt.name v.name))).FollowsFrom
      dt.name minDuration (ts.filter (·.timeline == dt.name)) := by
  have hunclaimed : v.duration = none := by
    rw [hd.values dt hdt v hv]
    rfl
  have hclaimants : ∀ t ∈ claimants ts dt.name v.name, ∀ u ∈ claimants ts dt.name v.name,
      t.duration = u.duration := by
    intro t ht u hu
    obtain ⟨htmem, htline, htvalue⟩ := mem_claimants.mp ht
    obtain ⟨humem, huline, huvalue⟩ := mem_claimants.mp hu
    exact (footprint_of_pairwise hts htmem humem (htline.trans huline.symm)
      (htvalue.trans huvalue.symm)).1
  refine tokenType_followsFrom dt table minDuration fun duration => ?_
  refine (duration_claimedFrom hunclaimed hclaimants duration).trans ?_
  simp only [claimants, name_claimedFrom, List.mem_filter, beq_iff_eq, and_assoc]

/-! ## Names in the result -/

/-- The timelines by name, each with the values of its token types. -/
def TimelineProblem.timelineNames (out : TimelineProblem) : List (String × List String) :=
  out.timelines.map fun t => (t.name, t.tokenTypes.map TokenType.value)

theorem timelineNames_synthesize (d : Draft) (table : SupplyTable) (minDuration : UInt32) :
    (d.synthesize table minDuration).timelineNames = d.timelineNames := by
  unfold TimelineProblem.timelineNames Draft.timelineNames Draft.synthesize
  rw [List.map_map]
  refine List.map_congr_left fun dt _ => ?_
  have hvalues : (dt.values.map (dt.tokenType table minDuration)).map TokenType.value =
      dt.values.map DraftValue.name := by
    rw [List.map_map]
    rfl
  exact congrArg (Prod.mk dt.name) hvalues

/-- The result has the timelines and the values that the fluents of the problem have, each of
them and in the same order. -/
theorem timelineNames_of_convert {p : Problem} {settings : Settings} {out : TimelineProblem}
    {fresh : Draft} (hfresh : Draft.ofProblem p p.domains = .ok fresh)
    (hout : p.convert settings = .ok out) : out.timelineNames = fresh.timelineNames := by
  obtain ⟨d, _, ts, _, hd, -, -, -, -, rfl⟩ := convert_eq_ok.mp hout
  rw [timelineNames_synthesize, (sameNames_entered d ts).timelines,
    (sameNames_initialDraft hfresh hd).timelines]

/-! ## The conversion -/

theorem tokenType?_synthesize (dt : DraftTimeline) (table : SupplyTable) (minDuration : UInt32)
    (value : String) : (dt.synthesize table minDuration).tokenType? value =
      (dt.value? value).map (dt.tokenType table minDuration) := by
  unfold Timeline.tokenType? DraftTimeline.synthesize DraftTimeline.value?
  rw [List.find?_map]
  rfl

theorem tokenType?_synthesize_entered {dt : DraftTimeline} {v : DraftValue}
    (hv : dt.value? value = some v) (table : SupplyTable) (minDuration : UInt32) :
    ((dt.entered ts).synthesize table minDuration).tokenType? value =
      some ((dt.entered ts).tokenType table minDuration
        (v.claimedFrom (ts.filter (·.temporary == value)))) := by
  rw [tokenType?_synthesize, value?_entered, hv]
  rfl

/-- With distinct names every timeline of the result is that of its own transitions. -/
theorem mem_timelines_synthesize_entered {d : Draft} {table : SupplyTable} {minDuration : UInt32}
    (hnames : (d.timelines.map DraftTimeline.name).Nodup) {timeline : Timeline} :
    timeline ∈ ((d.entered ts).synthesize table minDuration).timelines ↔ ∃ dt ∈ d.timelines,
      (dt.entered (ts.filter (·.timeline == dt.name))).synthesize table minDuration = timeline := by
  unfold Draft.synthesize
  rw [timelines_entered_of_nodup hnames, List.map_map, List.mem_map]
  rfl

theorem timeline?_synthesize_entered {d : Draft} {table : SupplyTable} {minDuration : UInt32}
    (hnames : (d.timelines.map DraftTimeline.name).Nodup) {dt : DraftTimeline}
    (hdt : dt ∈ d.timelines) :
    ((d.entered ts).synthesize table minDuration).timeline? dt.name =
      some ((dt.entered (ts.filter (·.timeline == dt.name))).synthesize table minDuration) := by
  unfold TimelineProblem.timeline? Draft.synthesize
  rw [timelines_entered_of_nodup hnames, List.map_map, List.find?_map]
  exact congrArg (Option.map _) (find?_of_nodup hnames hdt)

/-- The timelines and values of the fluents are all in the result, and every token type there
has the neighbours and the duration that the actions on its timeline give it. -/
theorem convert_tokenTypes_followFrom {p : Problem} {settings : Settings} {out : TimelineProblem}
    {fresh : Draft} (hfresh : Draft.ofProblem p p.domains = .ok fresh)
    (hnames : (fresh.timelines.map DraftTimeline.name).Nodup)
    (hout : p.convert settings = .ok out) :
    ∃ actions ts, p.actionInstances p.domains = .ok actions ∧
      actions.mapM (Transition.ofAction fresh settings.endConditions) = .ok ts ∧
      out.timelineNames = fresh.timelineNames ∧
      ∀ timeline ∈ out.timelines, ∀ value type, timeline.tokenType? value = some type →
        type.value = value ∧ type.FollowsFrom timeline.name settings.unboundedMinDuration
          (ts.filter (·.timeline == timeline.name)) := by
  have houtNames := timelineNames_of_convert hfresh hout
  obtain ⟨d, actions, ts, table, hd, hactions, hts, hpairwise, -, rfl⟩ := convert_eq_ok.mp hout
  have hsame := sameNames_initialDraft hfresh hd
  refine ⟨actions, ts, hactions, by rw [hsame.mapM_ofAction_congr, hts], houtNames, ?_⟩
  intro timeline htimeline value type htype
  obtain ⟨dt, hdt, rfl⟩ :=
    (mem_timelines_synthesize_entered (hsame.map_name_eq ▸ hnames)).mp htimeline
  rw [tokenType?_synthesize, value?_entered, Option.map_map] at htype
  obtain ⟨v, hv, rfl⟩ := Option.map_eq_some_iff.mp htype
  obtain rfl : v.name = value := by simpa using List.find?_some hv
  exact ⟨name_claimedFrom _ _, tokenType_claimedFrom_followsFrom (unentered_initialDraft hd)
    hpairwise hdt (List.mem_of_find?_eq_some hv) table _⟩

/-- The token types of the kitchen, from the two transitions of its actions. -/
theorem kitchen_tokenTypes_followFrom :
    ∃ out, Example.Kitchen.problem.convert .default = .ok out ∧
      out.timelineNames = [("gen", ["Off", "Running"]), ("kettle", ["Cold", "Heating", "Hot"])] ∧
      ∀ timeline ∈ out.timelines, ∀ value type, timeline.tokenType? value = some type →
        type.value = value ∧ type.FollowsFrom timeline.name 1
          (List.filter (·.timeline == timeline.name)
            [⟨"run", "gen", "Off", "Running", "Off", 10, some ⟨"power", 2⟩, none⟩,
              ⟨"heat", "kettle", "Cold", "Heating", "Hot", 4, none, some ⟨"power", 1⟩⟩]) := by
  obtain ⟨out, hout⟩ : ∃ out, Example.Kitchen.problem.convert .default = .ok out := ⟨_, rfl⟩
  refine ⟨out, hout, ?_⟩
  obtain ⟨actions, ts, hactions, hts, hnames, h⟩ :=
    convert_tokenTypes_followFrom (p := Example.Kitchen.problem) rfl (by decide) hout
  obtain rfl := Except.ok.inj hactions
  obtain rfl := Except.ok.inj hts
  exact ⟨hnames, h⟩

end PlanTimelines
