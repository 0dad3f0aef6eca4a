import PlanTimelines.Example.Switch
import PlanTimelines.Proofs.OutputEdges
import PlanTimelines.Proofs.StateValues

/-! Actions one after another in the result of a conversion. A chain of actions on a timeline
makes a sequence of tokens, temporary ones between resting ones, and the token types of the
timeline admit it. The types belong to the values and not to the actions, so a token where one
action ends is not at rest if another action leads through its value. -/

namespace PlanTimelines

/-! ## Chains -/

/-- Transitions that start at a value, each where the one before it ends. -/
inductive Chained : String → List Transition → Prop where
  | nil (value : String) : Chained value []
  | cons (t : Transition) {rest : List Transition} :
      Chained t.final rest → Chained t.source (t :: rest)

/-- The values that a chain leads through. -/
def tokenValues (initial : String) (chain : List Transition) : List String :=
  initial :: chain.flatMap fun t => [t.temporary, t.final]

/-- The values between the transitions of a chain, and those at its ends. -/
def restingValues (initial : String) (chain : List Transition) : List String :=
  initial :: chain.map Transition.final

namespace Timeline

/-- A token of the second value may come after one of the first. -/
def Follows (timeline : Timeline) (u v : String) : Prop :=
  ∃ type links, timeline.tokenType? v = some type ∧
    type.groups .metBy = [.anyOf links] ∧ .metBy timeline.name u ∈ links

/-- A token of the temporary value lasts as long as the transition does and may lead to the
final value. -/
def Performs (timeline : Timeline) (t : Transition) : Prop :=
  ∃ type links, timeline.tokenType? t.temporary = some type ∧
    type.duration = .fixed t.duration ∧
    type.groups .meets = [.anyOf links] ∧ .meets timeline.name t.final ∈ links

/-- A token of the value may last as long as it likes, and nothing has to follow it. -/
def Rests (timeline : Timeline) (value : String) : Prop :=
  ∃ type, timeline.tokenType? value = some type ∧ type.duration.max = none ∧
    type.groups .meets = []

/-- The token types of a timeline with these transitions let a chain happen from a value on. -/
structure Admits (timeline : Timeline) (ts : List Transition) (initial : String)
    (chain : List Transition) : Prop where
  follows : (tokenValues initial chain).IsChain timeline.Follows
  performs : ∀ t ∈ chain, timeline.Performs t
  rests : ∀ value ∈ restingValues initial chain,
    timeline.Rests value ↔ ∀ t ∈ ts, t.temporary ≠ value
  /-- A token at a value that a transition leads through goes on as this one does. -/
  moves : ∀ value ∈ restingValues initial chain, ∀ t ∈ ts, t.temporary = value →
    timeline.Performs t

theorem Performs.not_rests {timeline : Timeline} {t : Transition} (h : timeline.Performs t) :
    ¬timeline.Rests t.temporary := by
  intro hrests
  obtain ⟨type, -, htype, hduration, -⟩ := h
  obtain ⟨type', htype', hmax, -⟩ := hrests
  obtain rfl := Option.some.inj (htype.symm.trans htype')
  rw [hduration] at hmax
  cases hmax

/-! ## From token types to chains -/

/-- The value has a token type that follows from the transitions. -/
def Typed (timeline : Timeline) (minDuration : UInt32) (ts : List Transition)
    (value : String) : Prop :=
  ∃ type, timeline.tokenType? value = some type ∧ type.value = value ∧
    type.FollowsFrom timeline.name minDuration ts

variable {timeline : Timeline} {minDuration : UInt32} {ts : List Transition} {t : Transition}

theorem Typed.follows {u v : String} (h : timeline.Typed minDuration ts v) (ht : t ∈ ts)
    (hedge : (u, v) ∈ t.edges) : timeline.Follows u v := by
  obtain ⟨type, htype, hvalue, hfollows⟩ := h
  have hmem : Link.metBy timeline.name u ∈
      (predecessorsIn ts type.value).map (.metBy timeline.name) :=
    List.mem_map_of_mem (mem_predecessorsIn.mpr ⟨t, ht, hvalue ▸ hedge⟩)
  refine ⟨type, _, htype, ?_, hmem⟩
  rw [hfollows.metBy, Condition.ofLinks_of_ne_nil (List.ne_nil_of_mem hmem)]

theorem Typed.performs (h : timeline.Typed minDuration ts t.temporary) (ht : t ∈ ts) :
    timeline.Performs t := by
  obtain ⟨type, htype, hvalue, hfollows⟩ := h
  have hmem : Link.meets timeline.name t.final ∈
      (successorsIn ts type.value).map (.meets timeline.name) :=
    List.mem_map_of_mem (mem_successorsIn.mpr ⟨t, ht, mem_edges.mpr (.inr ⟨hvalue, rfl⟩)⟩)
  have hduration := (hfollows.fixed t.duration).mpr ⟨t, ht, hvalue.symm, rfl⟩
  exact ⟨type, _, htype, hduration, hfollows.meets ⟨t, ht, hvalue.symm⟩, hmem⟩

theorem Typed.rests {value : String} (h : timeline.Typed minDuration ts value)
    (hts : ∀ t ∈ ts, t.temporary ≠ value) : timeline.Rests value := by
  obtain ⟨type, htype, rfl, hfollows⟩ := h
  have hnone : ¬∃ t ∈ ts, t.temporary = type.value := by
    intro hsome
    obtain ⟨t, ht, htemporary⟩ := hsome
    exact hts t ht htemporary
  refine ⟨type, htype, ?_, not_not.mp (mt hfollows.meets_iff.mp hnone)⟩
  rw [hfollows.unbounded hnone]
  rfl

/-- What lets every transition of a chain happen lets the chain happen. -/
theorem isChain_follows {initial : String} {chain : List Transition}
    (hchain : Chained initial chain)
    (hfollows : ∀ t ∈ chain, ∀ u v, (u, v) ∈ t.edges → timeline.Follows u v) :
    (tokenValues initial chain).IsChain timeline.Follows := by
  -- What remains is a chain from the final value on, so its first token is the second new one.
  induction hchain with
  | nil value => exact .singleton value
  | cons t hrest ih =>
    have hstep := hfollows t List.mem_cons_self
    have hfirst := hstep t.source t.temporary (mem_edges.mpr (.inl ⟨rfl, rfl⟩))
    have hsecond := hstep t.temporary t.final (mem_edges.mpr (.inr ⟨rfl, rfl⟩))
    exact .cons_cons hfirst (.cons_cons hsecond
      (ih fun u hu => hfollows u (List.mem_cons_of_mem t hu)))

/-- A timeline admits the chains of its transitions, given token types for the values that
these lead through. -/
theorem admits_of_typed {initial : String} {chain : List Transition}
    (hinitial : timeline.Typed minDuration ts initial)
    (hends : ∀ t ∈ ts, ∀ value ∈ [t.source, t.temporary, t.final],
      timeline.Typed minDuration ts value)
    (hmem : chain ⊆ ts) (hchain : Chained initial chain) : timeline.Admits ts initial chain := by
  have hperforms : ∀ t ∈ ts, timeline.Performs t :=
    fun t ht => (hends t ht t.temporary (by simp)).performs ht
  constructor
  · refine isChain_follows hchain fun t ht u v hedge => ?_
    have hv : v ∈ [t.source, t.temporary, t.final] := by
      rcases mem_edges.mp hedge with ⟨-, rfl⟩ | ⟨-, rfl⟩ <;> simp
    exact (hends t (hmem ht) v hv).follows (hmem ht) hedge
  · exact fun t ht => hperforms t (hmem ht)
  · intro value hvalue
    have htyped : timeline.Typed minDuration ts value := by
      rcases List.mem_cons.mp hvalue with rfl | hvalue
      · exact hinitial
      · obtain ⟨t, ht, rfl⟩ := List.mem_map.mp hvalue
        exact hends t (hmem ht) t.final (by simp)
    refine ⟨fun hrests t ht htemporary => ?_, htyped.rests⟩
    exact (hperforms t ht).not_rests (htemporary ▸ hrests)
  · exact fun _ _ t ht _ => hperforms t ht

end Timeline

/-! ## The entered draft -/

variable {d : Draft} {ts : List Transition} {dt : DraftTimeline}

theorem typed_synthesize_entered (hd : d.Unentered) (hts : ts.Pairwise Transition.Compatible)
    (hdt : dt ∈ d.timelines) {value : String} (hvalue : dt.hasValue value = true)
    (table : SupplyTable) (minDuration : UInt32) :
    ((dt.entered (ts.filter (·.timeline == dt.name))).synthesize table minDuration).Typed
      minDuration (ts.filter (·.timeline == dt.name)) value := by
  obtain ⟨v, hv⟩ := Option.isSome_iff_exists.mp hvalue
  obtain rfl : v.name = value := by simpa using List.find?_some hv
  exact ⟨_, tokenType?_synthesize_entered hv table minDuration, name_claimedFrom ..,
    tokenType_claimedFrom_followsFrom hd hts hdt (List.mem_of_find?_eq_some hv) table minDuration⟩

theorem mem_staticTokens_of_initial {initial : String} (h : dt.initial = some initial) :
    .fact initial 0 ∈ dt.staticTokens := by
  simp [DraftTimeline.staticTokens, h]

/-! ## The conversion -/

/-- The timelines are all in the result, with their values and initial values. What the actions
on a timeline can do one after another from its initial value on, its tokens can do in the
result. -/
theorem convert_admits_chains {p : Problem} {settings : Settings} {out : TimelineProblem}
    {fresh : Draft} (hfresh : Draft.ofProblem p p.domains = .ok fresh)
    (hnames : (fresh.timelines.map DraftTimeline.name).Nodup)
    (hout : p.convert settings = .ok out) :
    ∃ actions ts, p.actionInstances p.domains = .ok actions ∧
      actions.mapM (Transition.ofAction fresh settings.endConditions) = .ok ts ∧
      out.timelineNames = fresh.timelineNames ∧
      (∀ d, p.initialDraft = .ok d → ∀ dt ∈ d.timelines, ∀ initial, dt.initial = some initial →
        ∃ timeline ∈ out.timelines,
          timeline.name = dt.name ∧ .fact initial 0 ∈ timeline.staticTokens) ∧
      ∀ timeline ∈ out.timelines, ∀ initial, .fact initial 0 ∈ timeline.staticTokens →
        ∀ chain ⊆ ts.filter (·.timeline == timeline.name), Chained initial chain →
          timeline.Admits (ts.filter (·.timeline == timeline.name)) initial chain := by
  have houtNames := timelineNames_of_convert hfresh hout
  obtain ⟨d, actions, ts, table, hd, hactions, hts, hpairwise, -, rfl⟩ := convert_eq_ok.mp hout
  have hsame := sameNames_initialDraft hfresh hd
  have hunentered := unentered_initialDraft hd
  rw [hsame.map_name_eq] at hnames
  refine ⟨actions, ts, hactions, by rw [hsame.mapM_ofAction_congr, hts], houtNames, ?_, ?_⟩
  · intro d' hd' dt hdt initial hinitial
    obtain rfl := Except.ok.inj (hd.symm.trans hd')
    exact ⟨_, (mem_timelines_synthesize_entered hnames).mpr ⟨dt, hdt, rfl⟩, rfl,
      mem_staticTokens_of_initial hinitial⟩
  -- What is left are the chains, on a timeline of the result and so of the draft.
  intro timeline htimeline initial hfact chain hmem hchain
  obtain ⟨dt, hdt, rfl⟩ := (mem_timelines_synthesize_entered hnames).mp htimeline
  have htyped {value : String} (hvalue : dt.hasValue value = true) :=
    typed_synthesize_entered hunentered hpairwise hdt hvalue table settings.unboundedMinDuration
  have hinitial : dt.hasValue initial = true :=
    hasValue_of_mem_staticTokens (stateKnown_initialDraft hd dt hdt) hfact
  refine Timeline.admits_of_typed (htyped hinitial) (fun t ht value hvalue => ?_) hmem hchain
  obtain ⟨hmem, htimeline⟩ := List.mem_filter.mp ht
  obtain ⟨action, -, haction⟩ := exists_of_mem_mapM hts hmem
  have hline : t.timeline = dt.name := eq_of_beq htimeline
  have hfind : d.timeline? t.timeline = some dt := hline ▸ findLast?_of_nodup hnames hdt
  exact htyped (hasValue_of_hasEnds (hasEnds_of_ofAction haction) hfind value hvalue)

/-- The switch can be activated twice in a row. -/
theorem switch_admits_chains :
    ∃ out timeline, Example.Switch.problem.convert .default = .ok out ∧
      timeline ∈ out.timelines ∧ .fact "Idle" 0 ∈ timeline.staticTokens ∧
      timeline.Admits [Example.Switch.activation] "Idle"
        [Example.Switch.activation, Example.Switch.activation] := by
  obtain ⟨out, timeline, hout, htimeline, hname, hfact⟩ : ∃ out timeline,
      Example.Switch.problem.convert .default = .ok out ∧ timeline ∈ out.timelines ∧
        timeline.name = "mode" ∧ .fact "Idle" 0 ∈ timeline.staticTokens :=
    ⟨_, _, rfl, List.mem_cons_self, rfl, List.mem_cons_self⟩
  refine ⟨out, timeline, hout, htimeline, hfact, ?_⟩
  obtain ⟨actions, ts, hactions, hts, -, -, hadmits⟩ :=
    convert_admits_chains (p := Example.Switch.problem) rfl (by decide) hout
  obtain rfl := Except.ok.inj hactions
  obtain rfl : [Example.Switch.activation] = ts := Except.ok.inj hts
  have h := hadmits timeline htimeline "Idle" hfact
  rw [hname] at h
  refine h _ (by decide) ?_
  exact .cons Example.Switch.activation (.cons Example.Switch.activation (.nil "Idle"))

/-- A switch that is `Active` from the start has to be `Idle` after five units of time, though
no action has begun. -/
theorem started_active_does_not_rest :
    ∃ fresh out timeline,
      Draft.ofProblem Example.Switch.startedActive Example.Switch.startedActive.domains =
        .ok fresh ∧
      (fresh.timelines.map DraftTimeline.name).Nodup ∧
      Example.Switch.startedActive.convert .default = .ok out ∧ timeline ∈ out.timelines ∧
      .fact "Active" 0 ∈ timeline.staticTokens ∧ Chained "Active" [] ∧
      "Active" ∈ restingValues "Active" [] ∧ ¬timeline.Rests "Active" := by
  refine ⟨_, _, _, rfl, by decide, rfl, List.mem_cons_self, List.mem_cons_self, .nil "Active",
    List.mem_cons_self, ?_⟩
  intro h
  obtain ⟨type, htype, hmax, -⟩ := h
  cases htype
  cases hmax

end PlanTimelines
