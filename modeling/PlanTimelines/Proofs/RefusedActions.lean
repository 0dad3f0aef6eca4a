import PlanTimelines.Example.Conflicts
import PlanTimelines.Proofs.EnteredActions
import PlanTimelines.Proofs.EnteredSupply

/-! Refusals while actions are entered, and when resources are supplied. A draft after
transitions knows which of them claimed a value first and which one provides a resource, so
that a refusal can only be of two kinds, and names the transition that stands in the way.
What is then left to refuse is a resource that no transition provides. -/

namespace PlanTimelines

variable {d d' : Draft} {policy : EndConditions} {ts : List Transition} {t u : Transition}
  {e : ConversionError}

/-! ## Runs that fail -/

theorem enterAll_append (d : Draft) (before after : List Action) :
    (d.enterAll policy (before ++ after)).2 =
      (d.enterAll policy before).2 >>= fun d' => (d'.enterAll policy after).2 := by
  induction before generalizing d with
  | nil => rfl
  | cons action rest ih =>
    simp only [List.cons_append, Draft.enterAll]
    cases d.transitionOf policy action with
    | error e => rfl
    | ok t =>
      simp only
      cases d.enter t with
      | mk d' outcome =>
        cases outcome with
        | error e => rfl
        | ok claim => exact ih d'

/-! ## A refused transition -/

/-- One of the transitions offers the resource, and no other does. -/
def ProvidedOnce (ts : List Transition) (resource : String) : Prop :=
  ∃ before u after, ts = before ++ u :: after ∧ u.Provides resource ∧
    ∀ w ∈ before ++ after, ¬w.Provides resource

/-- The transitions have the same duration, and provide and consume the same. -/
def Transition.SameFootprint (t u : Transition) : Prop :=
  t.duration = u.duration ∧ t.provides = u.provides ∧ t.consumes = u.consumes

/-- Why a transition is refused after others have been entered: the first one through its
temporary value has another footprint, or its resource is provided already. -/
inductive Transition.Refused (ts : List Transition) (t : Transition) : ConversionError → Prop where
  | conflictingClaim {u : Transition}
    (hfirst : (claimants ts t.timeline t.temporary).head? = some u)
    (hfootprint : ¬u.SameFootprint t) :
    Refused ts t (.unsupportedAction t.action
      (.conflictingValueClaim t.timeline t.temporary u.action))
  | secondProvider {use : ResourceUse} (hprovides : t.provides = some use)
    (hfirst : ∀ u, (claimants ts t.timeline t.temporary).head? = some u → u.SameFootprint t)
    (honce : ProvidedOnce ts use.resource) :
    Refused ts t (.providerConflict use.resource 2)

/-- A transition is refused for one reason. -/
theorem Transition.Refused.unique {e' : ConversionError} (h : t.Refused ts e)
    (h' : t.Refused ts e') : e = e' := by
  cases h with
  | conflictingClaim hfirst hfootprint =>
    cases h' with
    | conflictingClaim hfirst' _ =>
      obtain rfl := Option.some.inj (hfirst.symm.trans hfirst')
      rfl
    | secondProvider _ hsame _ => exact absurd (hsame _ hfirst) hfootprint
  | secondProvider hprovides hsame _ =>
    cases h' with
    | conflictingClaim hfirst hfootprint => exact absurd (hsame _ hfirst) hfootprint
    | secondProvider hprovides' _ _ =>
      obtain rfl := Option.some.inj (hprovides.symm.trans hprovides')
      rfl

theorem providedOnce_of_mem (hts : ts.Pairwise Transition.Compatible) (hu : u ∈ ts)
    {resource : String} (hprovides : u.Provides resource) : ProvidedOnce ts resource := by
  obtain ⟨before, after, rfl⟩ := List.append_of_mem hu
  obtain ⟨-, hafter, hbefore⟩ := List.pairwise_append.mp hts
  refine ⟨before, u, after, rfl, hprovides, fun w hw hwprov => ?_⟩
  rcases List.mem_append.mp hw with hw | hw
  · exact (hbefore w hw u (by simp)).providers resource hwprov hprovides
  · exact ((List.pairwise_cons.mp hafter).1 w hw).providers resource hprovides hwprov

/-- A value that is claimed is so by the first transition through it. -/
theorem first_claimant_of_claimed (hd : d.Unentered) {dt : DraftTimeline} {v : DraftValue}
    {timeline value claimedBy : String} (htimeline : (d.entered ts).timeline? timeline = some dt)
    (hvalue : dt.value? value = some v) (hclaimed : v.claimedBy = some claimedBy) :
    ∃ u, (claimants ts timeline value).head? = some u ∧ u.action = claimedBy ∧
      ∀ t, v.hasFootprint t = true ↔ u.SameFootprint t := by
  obtain ⟨v₀, hv₀, rfl⟩ := lookup_entered hd htimeline hvalue
  cases h : claimants ts timeline value with
  | nil =>
    rw [h] at hclaimed
    cases hv₀.symm.trans hclaimed
  | cons u rest =>
    rw [h] at hclaimed
    exact ⟨u, rfl, Option.some.inj hclaimed, fun t => hasFootprint_claim⟩

theorem providersWithOneMore_entered (hts : ts.Pairwise Transition.Compatible)
    (hu : u ∈ ts) {use : ResourceUse} (hprovides : u.provides = some use) {r : DraftResource}
    (hresource : (d.entered ts).resource? use.resource = some r) :
    (d.entered ts).providersWithOneMore use.resource = 2 := by
  have hproviders := providers_of_entered hresource
  rw [filterMap_provider?_eq_singleton hts hu hprovides] at hproviders
  simp [Draft.providersWithOneMore, hresource, hproviders]

theorem refused_of_enter_entered (hd : d.Unentered) (hts : ts.Pairwise Transition.Compatible)
    (ht : d.Knows t) (h : (d.entered ts).enter t = (d', .error e)) : t.Refused ts e := by
  have henters := enters_enter (d.entered ts) t
  rw [h] at henters
  obtain ⟨⟨dt₀, v₀, htimeline₀, hvalue₀⟩, hresource₀⟩ := ht
  cases henters with
  | unknownTimeline hnone =>
    rw [timeline?_entered, htimeline₀] at hnone
    cases hnone
  | unknownValue htimeline hnone =>
    rw [timeline?_entered, htimeline₀] at htimeline
    obtain rfl := Option.some.inj htimeline
    rw [value?_entered, hvalue₀] at hnone
    cases hnone
  | conflictingClaim htimeline hvalue hclaimed hfootprint =>
    obtain ⟨u, hfirst, rfl, hsame⟩ := first_claimant_of_claimed hd htimeline hvalue hclaimed
    refine .conflictingClaim hfirst fun hu => ?_
    rw [(hsame t).mpr hu] at hfootprint
    cases hfootprint
  | providedAgain htimeline hvalue hclaimed hfootprint hprovides =>
    obtain ⟨u, hfirst, -, hsame⟩ := first_claimant_of_claimed hd htimeline hvalue hclaimed
    have hfootprint := (hsame t).mp hfootprint
    have hu := (mem_claimants.mp (List.mem_of_mem_head? hfirst)).1
    have huprovides := hfootprint.2.1.trans hprovides
    obtain ⟨r, hr⟩ := hresource₀ _ hprovides
    have hresource := (resource?_entered d ts _).trans (congrArg _ hr)
    rw [providersWithOneMore_entered hts hu huprovides hresource]
    refine .secondProvider hprovides (fun w hw => ?_)
      (providedOnce_of_mem hts hu ⟨_, huprovides, rfl⟩)
    obtain rfl := Option.some.inj (hfirst.symm.trans hw)
    exact hfootprint
  | notAResource htimeline hvalue hclaimed hprovides hnone =>
    obtain ⟨r, hr⟩ := hresource₀ _ hprovides
    rw [resource?_entered, hr] at hnone
    cases hnone
  | secondProvider htimeline hvalue hclaimed hprovides hresource hproviders =>
    rw [providers_of_entered hresource, ne_eq, filterMap_provider?_eq_nil] at hproviders
    push Not at hproviders
    obtain ⟨u, hu, use', huse', hname⟩ := hproviders
    rw [← hname] at hresource ⊢
    rw [providersWithOneMore_entered hts hu huse' hresource, hname]
    refine .secondProvider hprovides (fun w hw => ?_)
      (providedOnce_of_mem hts hu ⟨_, huse', hname⟩)
    rw [claimants_of_unclaimed hd htimeline hvalue hclaimed] at hw
    cases hw

/-- Entering a transition after others fails exactly if it is refused because of them. -/
theorem enter_entered_eq_error (hd : d.Unentered) (hts : ts.Pairwise Transition.Compatible)
    (ht : d.Knows t) : ((d.entered ts).enter t).2 = .error e ↔ t.Refused ts e := by
  constructor
  · intro h
    exact refused_of_enter_entered hd hts ht (Prod.ext rfl h)
  · intro h
    cases henter : (d.entered ts).enter t with
    | mk d' outcome =>
      cases outcome with
      | error e' =>
        obtain rfl := (refused_of_enter_entered hd hts ht henter).unique h
        rfl
      | ok claim =>
        exfalso
        have hcompatible := compatible_of_enter_entered hd hts henter
        cases h with
        | conflictingClaim hfirst hfootprint =>
          obtain ⟨hu, htimeline, htemporary⟩ := mem_claimants.mp (List.mem_of_mem_head? hfirst)
          exact hfootprint ((hcompatible _ hu).footprint htimeline htemporary)
        | secondProvider hprovides _ honce =>
          obtain ⟨before, u, after, rfl, huprov, -⟩ := honce
          exact (hcompatible u (by simp)).providers _ huprov ⟨_, hprovides, rfl⟩

/-! ## Resources that are not supplied -/

/-- After transitions every resource record has one provider, on a timeline that exists, or
none. -/
theorem providers_of_mem_entered (hd : d.Unentered) (hts : ts.Pairwise Transition.Compatible)
    (hknows : ∀ t ∈ ts, d.Knows t) {r : DraftResource} (hr : r ∈ (d.entered ts).resources) :
    r.providers = [] ∨ ∃ provider, r.providers = [provider] ∧
      provider.timeline.resolve (d.entered ts).timelineClasses ≠ [] := by
  obtain ⟨r₀, hr₀, rfl | rfl⟩ := mem_mapLasts hr
  · cases hproviders : (r₀.entered r₀.name ts).providers with
    | nil => exact .inl rfl
    | cons provider rest =>
      have hmem : provider ∈ ts.filterMap (·.provider? r₀.name) := by
        have hfirst : provider ∈ (r₀.entered r₀.name ts).providers := by simp [hproviders]
        exact hfirst
      obtain ⟨t, ht, hsome⟩ := List.mem_filterMap.mp hmem
      obtain ⟨use, hprovides, hname, rfl⟩ := provider?_eq_some.mp hsome
      have hsingle : (r₀.entered r₀.name ts).providers =
          [⟨.named t.timeline, t.temporary, use.amount⟩] := by
        rw [← filterMap_provider?_eq_singleton hts ht hprovides, hname]
        rfl
      refine .inr ⟨_, hproviders.symm.trans hsingle, ?_⟩
      rw [timelineClasses_entered]
      exact resolve_of_knows (hknows t ht)
  · exact .inl (hd.providers r hr₀)

theorem hasSupply_entered_iff (hd : d.Unentered) (hts : ts.Pairwise Transition.Compatible)
    (hknows : ∀ t ∈ ts, d.Knows t) {r : DraftResource} (hr : r ∈ (d.entered ts).resources) :
    (d.entered ts).HasSupply r ↔ r.providers ≠ [] := by
  rcases providers_of_mem_entered hd hts hknows hr with hnil | ⟨provider, hone, hresolve⟩
  · simp [Draft.HasSupply, hnil]
  · exact ⟨fun _ => by simp [hone], fun _ => hasSupply_iff.mpr ⟨provider, hone, hresolve⟩⟩

/-- The supply fails exactly if a resource has no provider, and names the first of these. -/
theorem supply_entered_eq_error (hd : d.Unentered) (hts : ts.Pairwise Transition.Compatible)
    (hknows : ∀ t ∈ ts, d.Knows t) : (d.entered ts).supply = .error e ↔
      ∃ before r after, (d.entered ts).resources = before ++ r :: after ∧
        (∀ r' ∈ before, r'.providers ≠ []) ∧ r.providers = [] ∧
        e = .providerConflict r.name 0 := by
  have hsupply {r : DraftResource} (hr : r ∈ (d.entered ts).resources) :=
    hasSupply_entered_iff hd hts hknows hr
  rw [supply_eq_error]
  constructor
  · intro h
    obtain ⟨before, r, after, hresources, hbefore, hr, rfl⟩ := h
    have hnil : r.providers = [] := by
      by_contra hne
      exact hr ((hsupply (by simp [hresources])).mpr hne)
    refine ⟨before, r, after, hresources, fun r' hr' => ?_, hnil, by simp [hnil]⟩
    exact (hsupply (by simp [hresources, hr'])).mp (hbefore r' hr')
  · intro h
    obtain ⟨before, r, after, hresources, hbefore, hnil, rfl⟩ := h
    refine ⟨before, r, after, hresources, fun r' hr' => ?_, fun hr => ?_, by simp [hnil]⟩
    · exact (hsupply (by simp [hresources, hr'])).mpr (hbefore r' hr')
    · exact (hsupply (by simp [hresources])).mp hr hnil

/-! ## The conversion -/

namespace Problem

/-- The conversion comes to entering the transition of an action, into the draft that the
actions before it have left. -/
def ComesTo (p : Problem) (settings : Settings) (before : List Action) (action : Action)
    (d : Draft) (t : Transition) : Prop :=
  ∃ initial after, p.initialDraft = .ok initial ∧
    p.actionInstances p.domains = .ok (before ++ action :: after) ∧
    (initial.enterAll settings.endConditions before).2 = .ok d ∧
    Transition.ofAction d settings.endConditions action = .ok t

/-- The conversion has entered all actions, which have left the draft. -/
def Completes (p : Problem) (settings : Settings) (d : Draft) : Prop :=
  ∃ initial actions, p.initialDraft = .ok initial ∧
    p.actionInstances p.domains = .ok actions ∧
    (initial.enterAll settings.endConditions actions).2 = .ok d

end Problem

variable {p : Problem} {settings : Settings}

theorem action_of_ofAction {action : Action} (h : Transition.ofAction d policy action = .ok t) :
    t.action = action.name := by
  cases action with
  | instantaneous a => cases h
  | durative a => exact (ofDurative_eq_ok_iff.mp h).action

/-- An action that is refused ends the conversion. -/
theorem Problem.ComesTo.convert_eq_error {before : List Action} {action : Action}
    (h : p.ComesTo settings before action d t) (henter : (d.enter t).2 = .error e) :
    p.convert settings = .error e := by
  obtain ⟨initial, after, hinitial, hactions, hbefore, htransition⟩ := h
  have henters : (initial.enterAll settings.endConditions (before ++ action :: after)).2 =
      .error e := by
    rw [enterAll_append, hbefore]
    change (d.enterAll settings.endConditions (action :: after)).2 = .error e
    simp only [Draft.enterAll, Draft.transitionOf, htransition]
    cases houtcome : d.enter t with
    | mk d' outcome =>
      rw [houtcome] at henter
      obtain rfl : outcome = .error e := henter
      rfl
  unfold Problem.convert
  rw [hinitial, hactions]
  simp only [bind, Except.bind, henters]

theorem Problem.Completes.convert_eq_error (h : p.Completes settings d)
    (hsupply : d.supply = .error e) : p.convert settings = .error e := by
  obtain ⟨initial, actions, hinitial, hactions, henters⟩ := h
  unfold Problem.convert
  rw [hinitial, hactions]
  simp only [bind, Except.bind, henters, hsupply]

/-- What has been entered before, when the conversion comes to an action. -/
theorem Problem.ComesTo.transitions {before : List Action} {action : Action}
    (h : p.ComesTo settings before action d t) :
    ∃ ts, before.mapM (Transition.ofAction d settings.endConditions) = .ok ts ∧
      ts.map Transition.action = before.map Action.name ∧ t.action = action.name ∧
      ∀ e, (d.enter t).2 = .error e ↔ t.Refused ts e := by
  obtain ⟨initial, after, hinitial, -, hbefore, htransition⟩ := h
  have hunentered := unentered_initialDraft hinitial
  obtain ⟨ts, hts, hpairwise, rfl⟩ := (enterAll_eq_ok hunentered).mp hbefore
  have hnames := sameNames_entered initial ts
  rw [← hnames.mapM_ofAction_congr] at hts
  refine ⟨ts, hts, ?_, action_of_ofAction htransition, fun e => ?_⟩
  · exact map_eq_map_of_mapM (fun _ _ => action_of_ofAction) hts
  · rw [hnames.ofAction_congr] at htransition
    exact enter_entered_eq_error hunentered hpairwise (knows_of_ofAction htransition)

/-- What is left to refuse once all actions have been entered. -/
theorem Problem.Completes.resources (h : p.Completes settings d) :
    (∃ fresh, Draft.ofProblem p p.domains = .ok fresh ∧ d.resourceNames = fresh.resourceNames) ∧
      (∀ r ∈ d.resources, ∀ provider ∈ r.providers,
        provider.timeline.resolve d.timelineClasses ≠ []) ∧
      ∀ e, d.supply = .error e ↔ ∃ before r after, d.resources = before ++ r :: after ∧
        (∀ r' ∈ before, r'.providers ≠ []) ∧ r.providers = [] ∧
        e = .providerConflict r.name 0 := by
  obtain ⟨initial, actions, hinitial, -, henters⟩ := h
  have hunentered := unentered_initialDraft hinitial
  obtain ⟨ts, hts, hpairwise, rfl⟩ := (enterAll_eq_ok hunentered).mp henters
  refine ⟨⟨_, initialDraft_eq_ok hinitial, ?_⟩, fun r hr provider hprovider => ?_, fun e => ?_⟩
  · exact ((sameNames_entered initial ts).trans (sameNames_withoutState initial).symm).resources
  · rcases providers_of_mem_entered hunentered hpairwise (knows_of_mapM hts) hr with
      hnil | ⟨only, hone, hresolve⟩
    · rw [hnil] at hprovider
      cases hprovider
    · rw [hone, List.mem_singleton] at hprovider
      rwa [hprovider]
  · exact supply_entered_eq_error hunentered hpairwise (knows_of_mapM hts)

/-- Errors that tell what is wrong. An action is refused exactly if the first action before
it that claims its temporary value does so with another footprint, or if one action before it
provides its resource; the error names that action, or the resource with two providers. Once
all actions are entered, the conversion fails exactly if a resource has no provider, and the
error names the first of these. -/
theorem convert_refusals (p : Problem) (settings : Settings) :
    (∀ before action d t, p.ComesTo settings before action d t →
      ∃ ts, before.mapM (Transition.ofAction d settings.endConditions) = .ok ts ∧
        ts.map Transition.action = before.map Action.name ∧ t.action = action.name ∧
        ∀ e, ((d.enter t).2 = .error e ↔ t.Refused ts e) ∧
          (t.Refused ts e → p.convert settings = .error e)) ∧
    ∀ d, p.Completes settings d →
      (∃ fresh, Draft.ofProblem p p.domains = .ok fresh ∧
        d.resourceNames = fresh.resourceNames) ∧
      (∀ r ∈ d.resources, ∀ provider ∈ r.providers,
        provider.timeline.resolve d.timelineClasses ≠ []) ∧
      ∀ e, (d.supply = .error e ↔ ∃ before r after, d.resources = before ++ r :: after ∧
          (∀ r' ∈ before, r'.providers ≠ []) ∧ r.providers = [] ∧
          e = .providerConflict r.name 0) ∧
        (d.supply = .error e → p.convert settings = .error e) := by
  constructor
  · intro before action d t h
    obtain ⟨ts, hts, hnames, haction, hrefused⟩ := h.transitions
    refine ⟨ts, hts, hnames, haction, fun e => ⟨hrefused e, fun he => ?_⟩⟩
    exact h.convert_eq_error ((hrefused e).mpr he)
  · intro d h
    obtain ⟨hfresh, hresolve, hsupply⟩ := h.resources
    exact ⟨hfresh, hresolve, fun e => ⟨hsupply e, h.convert_eq_error⟩⟩

/-- The generator under a second name is refused after running it and heating the kettle, and
a kitchen in which nothing provides power once all its actions are entered. -/
theorem conflicts_refused :
    (∃ d t ts, Example.Conflicts.duplicateProvider.ComesTo .default
        [.durative Example.Kitchen.run, .durative Example.Kitchen.heat]
        (.durative { Example.Kitchen.run with name := "run_again" }) d t ∧
      t.Refused ts (.providerConflict "power" 2) ∧
      Example.Conflicts.duplicateProvider.convert .default =
        .error (.providerConflict "power" 2)) ∧
    ∃ d before r after, Example.Conflicts.unprovidedResource.Completes .default d ∧
      d.resources = before ++ r :: after ∧ (∀ r' ∈ before, r'.providers ≠ []) ∧
      r.providers = [] ∧
      Example.Conflicts.unprovidedResource.convert .default =
        .error (.providerConflict r.name 0) := by
  constructor
  · obtain ⟨d, t, hcomes, hrefused⟩ : ∃ d t, Example.Conflicts.duplicateProvider.ComesTo .default
        [.durative Example.Kitchen.run, .durative Example.Kitchen.heat]
        (.durative { Example.Kitchen.run with name := "run_again" }) d t ∧
        (d.enter t).2 = .error (.providerConflict "power" 2) :=
      ⟨_, _, ⟨_, _, rfl, rfl, rfl, rfl⟩, rfl⟩
    obtain ⟨ts, -, -, -, herror⟩ :=
      (convert_refusals Example.Conflicts.duplicateProvider .default).1 _ _ d t hcomes
    have ht := (herror _).1.mp hrefused
    exact ⟨d, t, ts, hcomes, ht, (herror _).2 ht⟩
  · obtain ⟨d, hcompletes, e, hsupply⟩ : ∃ d,
        Example.Conflicts.unprovidedResource.Completes .default d ∧ ∃ e, d.supply = .error e :=
      ⟨_, ⟨_, _, rfl, rfl, rfl⟩, _, rfl⟩
    obtain ⟨-, -, herror⟩ :=
      (convert_refusals Example.Conflicts.unprovidedResource .default).2 d hcompletes
    obtain ⟨before, r, after, hresources, hbefore, hnil, rfl⟩ := (herror e).1.mp hsupply
    exact ⟨d, before, r, after, hcompletes, hresources, hbefore, hnil, (herror _).2 hsupply⟩

end PlanTimelines
