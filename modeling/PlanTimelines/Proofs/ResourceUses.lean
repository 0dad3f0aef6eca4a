import PlanTimelines.Example.Kitchen
import PlanTimelines.Proofs.ResourceWiring

/-! The resources that an action touches. An accepted action provides one resource at most and
consumes one at most, and touches no other. That it does not do both at once is not checked:
if it does, and with the same resource, its token has to lie within itself. -/

namespace PlanTimelines

/-! ## Changes of resources -/

/-- Some effect of the action touches the resource in this way. -/
def DurativeAction.Changes (a : DurativeAction) (flow : Flow) (resource : String) : Prop :=
  ∃ e ∈ a.effects, e.IsA flow.kind flow.point.timing ∧ e.target.label = resource

namespace Transition

/-- The transition holds some of the resource. -/
def Consumes (t : Transition) (resource : String) : Prop :=
  ∃ use, t.consumes = some use ∧ use.resource = resource

/-- What is provided is withdrawn again, and what is consumed is released. -/
def Exchanges (t : Transition) : Flow → String → Prop
  | .provided | .withdrawn => t.Provides
  | .consumed | .released => t.Consumes

/-- The transition touches at most one resource, and in one way. -/
def OneSided (t : Transition) : Prop :=
  t.provides = none ∨ t.consumes = none

end Transition

variable {d : Draft} {policy : EndConditions} {action : Action} {t : Transition}

/-- An exchange is of the resource that its changes touch, those at either end. -/
theorem DurativeAction.Exchanges.resource_iff {a : DurativeAction}
    {first last kind : EffectKind} {timing : Timing} {use : Option ResourceUse}
    (h : a.Exchanges first last use)
    (hends : ∀ e : Effect, e.IsA kind timing → e.IsA first .atStart ∨ e.IsA last .atEnd)
    (hoccurs : use ≠ none → ∃ e ∈ a.effects, e.IsA kind timing) (resource : String) :
    (∃ u, use = some u ∧ u.resource = resource) ↔
      ∃ e ∈ a.effects, e.IsA kind timing ∧ e.target.label = resource := by
  constructor
  · intro huse
    obtain ⟨u, rfl, rfl⟩ := huse
    obtain ⟨e, he, hchange⟩ := hoccurs (Option.some_ne_none u)
    obtain ⟨amount, -, hsame⟩ := h.same e he (hends e hchange)
    exact ⟨e, he, hchange, by rw [Option.some.inj hsame]⟩
  · intro hchanged
    obtain ⟨e, he, hchange, rfl⟩ := hchanged
    obtain ⟨amount, -, hsame⟩ := h.same e he (hends e hchange)
    exact ⟨_, hsame, rfl⟩

/-- The transition exchanges what the effects change. -/
theorem exchanges_iff_changes {a : DurativeAction} (h : a.Makes d policy t) (flow : Flow)
    (resource : String) : t.Exchanges flow resource ↔ a.Changes flow resource := by
  cases flow with
  | provided =>
    exact h.provides.resource_iff (fun _ => .inl) (fun hne => (h.provides.both hne).1) resource
  | withdrawn =>
    exact h.provides.resource_iff (fun _ => .inr) (fun hne => (h.provides.both hne).2) resource
  | consumed =>
    exact h.consumes.resource_iff (fun _ => .inl) (fun hne => (h.consumes.both hne).1) resource
  | released =>
    exact h.consumes.resource_iff (fun _ => .inr) (fun hne => (h.consumes.both hne).2) resource

/-- A change of a resource at one of the ends of an action is of one of the four kinds. -/
theorem exists_flow {e : Effect} (hkind : e.kind ≠ .assign)
    (htiming : e.timing = .atStart ∨ e.timing = .atEnd) :
    ∃ flow : Flow, e.IsA flow.kind flow.point.timing := by
  cases hchange : e.kind with
  | assign => exact absurd hchange hkind
  | increase =>
    rcases htiming with htiming | htiming
    · exact ⟨.provided, hchange, htiming⟩
    · exact ⟨.released, hchange, htiming⟩
  | decrease =>
    rcases htiming with htiming | htiming
    · exact ⟨.consumed, hchange, htiming⟩
    · exact ⟨.withdrawn, hchange, htiming⟩

theorem oneSided_iff : t.OneSided ↔ ¬((∃ r, t.Provides r) ∧ ∃ r, t.Consumes r) := by
  unfold Transition.OneSided Transition.Provides Transition.Consumes
  cases t.provides <;> cases t.consumes <;> simp

/-- An accepted action provides what it raises at the start and lowers at the end, consumes
what it lowers at the start and raises at the end, and changes no other resource. There is one
resource at most of each sort, and one at most in all unless the action raises a resource and
lowers one at the start. -/
theorem ofAction_resources (h : Transition.ofAction d policy action = .ok t) :
    ∃ a, action = .durative a ∧
      (∀ flow resource, t.Exchanges flow resource ↔ a.Changes flow resource) ∧
      (∀ e ∈ a.effects, e.kind ≠ .assign →
        t.Provides e.target.label ∨ t.Consumes e.target.label) ∧
      (∀ flow r s, a.Changes flow r → a.Changes flow s → r = s) ∧
      (t.OneSided ↔ ¬((∃ r, a.Changes .provided r) ∧ ∃ r, a.Changes .consumed r)) := by
  obtain ⟨a, rfl, hmakes⟩ := (ofAction_eq_ok_iff d policy action t).mp h
  have hiff := exchanges_iff_changes hmakes
  refine ⟨a, rfl, hiff, fun e he hkind => ?_, fun flow r s hr hs => ?_, ?_⟩
  · obtain ⟨flow, hflow⟩ := exists_flow hkind (hmakes.atAnEnd e he)
    have hexchanges : t.Exchanges flow e.target.label := (hiff flow _).mpr ⟨e, he, hflow, rfl⟩
    cases flow with
    | provided | withdrawn => exact .inl hexchanges
    | consumed | released => exact .inr hexchanges
  · rw [← hiff] at hr hs
    cases flow <;>
    · obtain ⟨u, hu, rfl⟩ := hr
      obtain ⟨u', hu', rfl⟩ := hs
      rw [Option.some.inj (hu.symm.trans hu')]
  · rw [oneSided_iff]
    simp only [← hiff]
    rfl

/-- The generator of the kitchen provides power and consumes none. -/
theorem kitchen_resources :
    ∃ d, Draft.ofProblem Example.Kitchen.problem Example.Kitchen.problem.domains = .ok d ∧
      Transition.ofAction d .reject (.durative Example.Kitchen.run) =
        .ok ⟨"run", "gen", "Off", "Running", "Off", 10, some ⟨"power", 2⟩, none⟩ ∧
      Example.Kitchen.run.Changes .withdrawn "power" ∧
      ¬((∃ r, Example.Kitchen.run.Changes .provided r) ∧
        ∃ r, Example.Kitchen.run.Changes .consumed r) := by
  obtain ⟨d, hd, haction⟩ :
      ∃ d, Draft.ofProblem Example.Kitchen.problem Example.Kitchen.problem.domains = .ok d ∧
        Transition.ofAction d .reject (.durative Example.Kitchen.run) =
          .ok ⟨"run", "gen", "Off", "Running", "Off", 10, some ⟨"power", 2⟩, none⟩ :=
    ⟨_, rfl, rfl⟩
  obtain ⟨a, ha, hiff, -, -, honeSided⟩ := ofAction_resources haction
  obtain rfl := Action.durative.inj ha
  exact ⟨d, hd, haction, (hiff .withdrawn "power").mp ⟨_, rfl, rfl⟩, honeSided.mp (.inr rfl)⟩

/-! ## Tokens within themselves -/

/-- A token of the type, on a timeline of the name, has to lie within a token like itself. -/
def TokenType.WithinItself (type : TokenType) (timeline : String) : Prop :=
  ∃ c ∈ type.groups .cover, ∃ amount, .cover timeline type.value amount ∈ c.links

/-- Where the resources are wired, just the tokens of the actions that provide and consume the
same resource have to lie within themselves. -/
theorem TimelineProblem.Wired.withinItself_iff {out : TimelineProblem} {resources : List String}
    {ts : List Transition} (h : out.Wired resources ts) (hts : ts.Pairwise Transition.Compatible)
    {timeline : Timeline} {type : TokenType}
    (htimeline : out.timeline? timeline.name = some timeline)
    (htype : timeline.tokenType? type.value = some type) :
    type.WithinItself timeline.name ↔ ∃ t ∈ claimants ts timeline.name type.value,
      ∃ resource, t.Provides resource ∧ t.Consumes resource := by
  -- the token type of a consumer, and that it has one cover alone
  have hcover : ∀ t ∈ claimants ts timeline.name type.value, ∀ use, t.consumes = some use →
      ∀ u ∈ ts, u.Provides use.resource →
        type.groups .cover = [.anyOf [.cover u.timeline u.temporary use.amount]] := by
    intro t ht use huse u hu hprovides
    obtain ⟨hmem, hline, hvalue⟩ := mem_claimants.mp ht
    obtain ⟨timeline', type', htimeline', htype', hgroups, -⟩ :=
      h.covered t hmem use huse u hu hprovides
    rw [hline, htimeline] at htimeline'
    obtain rfl := Option.some.inj htimeline'
    rw [hvalue, htype] at htype'
    obtain rfl := Option.some.inj htype'
    exact hgroups
  constructor
  · intro hwithin
    obtain ⟨c, hc, amount, hlink⟩ := hwithin
    have hconsumer : ∃ t ∈ claimants ts timeline.name type.value, ∃ use,
        t.consumes = some use := by
      by_contra hnone
      rw [h.uncovered timeline (List.mem_of_find?_eq_some htimeline) type
        (List.mem_of_find?_eq_some htype) fun t ht => Option.eq_none_iff_forall_ne_some.mpr
          fun use huse => hnone ⟨t, ht, use, huse⟩] at hc
      cases hc
    obtain ⟨t, ht, use, huse⟩ := hconsumer
    obtain ⟨hmem, hline, hvalue⟩ := mem_claimants.mp ht
    obtain ⟨i, hprovides, -⟩ := h.provided use.resource (h.consumed t hmem use huse)
    have hi : ts[i] ∈ ts := List.getElem_mem i.isLt
    rw [hcover t ht use huse ts[i] hi hprovides, List.mem_singleton] at hc
    subst hc
    have hself := List.mem_singleton.mp hlink
    simp only [Link.cover, Link.mk.injEq] at hself
    obtain ⟨hline', hvalue', -⟩ := hself
    -- the provider leads through the same value, so it consumes the same
    obtain ⟨-, -, hsame⟩ := footprint_of_pairwise hts hi hmem (hline'.symm.trans hline.symm)
      (hvalue'.symm.trans hvalue.symm)
    exact ⟨ts[i], mem_claimants.mpr ⟨hi, hline'.symm, hvalue'.symm⟩, use.resource, hprovides,
      use, hsame.trans huse, rfl⟩
  · intro hboth
    obtain ⟨t, ht, resource, hprovides, use, huse, rfl⟩ := hboth
    obtain ⟨hmem, hline, hvalue⟩ := mem_claimants.mp ht
    have hgroups := hcover t ht use huse t hmem hprovides
    rw [hline, hvalue] at hgroups
    exact ⟨_, hgroups ▸ List.mem_singleton_self _, use.amount, List.mem_singleton_self _⟩

/-- In the result of a conversion, the tokens that have to lie within themselves are those of
the actions that provide and consume the same resource. -/
theorem convert_withinItself_iff {p : Problem} {settings : Settings} {out : TimelineProblem}
    {fresh : Draft} (hfresh : Draft.ofProblem p p.domains = .ok fresh)
    (hnames : (fresh.timelines.map DraftTimeline.name).Nodup)
    (hout : p.convert settings = .ok out) :
    ∃ actions ts, p.actionInstances p.domains = .ok actions ∧
      actions.mapM (Transition.ofAction fresh settings.endConditions) = .ok ts ∧
      ∀ timeline ∈ out.timelines, ∀ value type, timeline.tokenType? value = some type →
        (type.WithinItself timeline.name ↔ ∃ t ∈ claimants ts timeline.name value,
          ∃ resource, t.Provides resource ∧ t.Consumes resource) := by
  obtain ⟨d, actions, ts, table, hd, hactions, hts, hpairwise, htable, rfl⟩ :=
    convert_eq_ok.mp hout
  have hsame := sameNames_initialDraft hfresh hd
  rw [hsame.map_name_eq] at hnames
  have hwired := wired_synthesize_entered (unentered_initialDraft hd) hpairwise
    (knows_of_mapM hts) hnames htable settings.unboundedMinDuration fun t ht use huse => by
      obtain ⟨action, -, haction⟩ := exists_of_mem_mapM hts ht
      exact resource?_of_consumes haction huse
  refine ⟨actions, ts, hactions, by rw [hsame.mapM_ofAction_congr, hts], ?_⟩
  intro timeline htimeline value type htype
  obtain rfl : type.value = value := by simpa using List.find?_some htype
  refine hwired.withinItself_iff hpairwise ?_ htype
  obtain ⟨dt, hdt, rfl⟩ := (mem_timelines_synthesize_entered hnames).mp htimeline
  exact timeline?_synthesize_entered hnames hdt

/-- The generator that runs on its own power is accepted, though it provides and consumes, and
while it runs it has to lie within its own running. -/
theorem selfPowered_withinItself :
    ∃ d out timeline type,
      Draft.ofProblem Example.Kitchen.selfPowered Example.Kitchen.selfPowered.domains = .ok d ∧
      Transition.ofAction d .ignore (.durative Example.Kitchen.runSelfPowered) =
        .ok ⟨"run", "gen", "Off", "Running", "Off", 10, some ⟨"power", 2⟩,
          some ⟨"power", 1⟩⟩ ∧
      Example.Kitchen.selfPowered.convert .default = .ok out ∧ timeline ∈ out.timelines ∧
      timeline.tokenType? "Running" = some type ∧ type.WithinItself timeline.name :=
  ⟨_, _, _, _, rfl, rfl, rfl, List.mem_cons_self, rfl, _, List.mem_cons_self, 1,
    List.mem_cons_self⟩

end PlanTimelines
