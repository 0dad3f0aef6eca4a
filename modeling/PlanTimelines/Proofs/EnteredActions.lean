import Mathlib.Data.List.Pairwise
import PlanTimelines.Proofs.AcceptedActions
import PlanTimelines.Proofs.EnteredDraft

/-! Runs over the actions of a problem. The run ends with a draft exactly if every action
makes a transition and any two of these are compatible, and then the draft is the one of
all transitions at once. -/

namespace PlanTimelines

variable {d : Draft} {policy : EndConditions} {ts : List Transition} {t : Transition}

/-! ## One action -/

theorem timeline?_of_hasValue {timeline value : String} (h : d.hasValue timeline value = true) :
    ∃ dt v, d.timeline? timeline = some dt ∧ dt.value? value = some v := by
  unfold Draft.hasValue DraftTimeline.hasValue at h
  obtain ⟨dt, hdt, hvalue⟩ := (Option.any_eq_true _ _).mp h
  obtain ⟨v, hv⟩ := Option.isSome_iff_exists.mp hvalue
  exact ⟨dt, v, hdt, hv⟩

theorem resource?_of_kind? {name : String} (h : d.kind? name = some .resource) :
    ∃ r, d.resource? name = some r := by
  unfold Draft.kind? at h
  split at h
  · cases h
  · split at h
    · rename_i hresource
      exact Option.isSome_iff_exists.mp hresource
    · cases h

/-- The timeline of the transition has the values that it leads through. -/
def Draft.HasEnds (d : Draft) (t : Transition) : Prop :=
  ∀ value ∈ [t.source, t.temporary, t.final], d.hasValue t.timeline value = true

theorem hasEnds_of_ofAction {action : Action} (h : Transition.ofAction d policy action = .ok t) :
    d.HasEnds t := by
  cases action with
  | instantaneous a => cases h
  | durative a => exact (ofDurative_eq_ok_iff.mp h).hasValues

theorem hasValue_of_hasEnds {dt : DraftTimeline} (h : d.HasEnds t)
    (hdt : d.timeline? t.timeline = some dt) :
    ∀ value ∈ [t.source, t.temporary, t.final], dt.hasValue value = true := by
  intro value hvalue
  have hends := h value hvalue
  unfold Draft.hasValue at hends
  rwa [hdt] at hends

/-- What an action takes and gives back is a resource. -/
theorem resource?_of_exchanges {a : DurativeAction} {first last : EffectKind} {use : ResourceUse}
    (hchanges : ∀ e ∈ a.effects, e.kind ≠ .assign → d.kind? e.target.label = some .resource)
    (h : a.Exchanges first last (some use)) (hfirst : first ≠ .assign) :
    ∃ r, d.resource? use.resource = some r := by
  obtain ⟨⟨e, he, hkind⟩, -⟩ := h.both (by simp)
  obtain ⟨amount, -, hamount⟩ := h.same e he (.inl hkind)
  obtain rfl : use = ⟨e.target.label, amount⟩ := Option.some.inj hamount
  exact resource?_of_kind? (hchanges e he (by rw [hkind.1]; exact hfirst))

theorem resource?_of_consumes {action : Action} {use : ResourceUse}
    (h : Transition.ofAction d policy action = .ok t) (hconsumes : t.consumes = some use) :
    ∃ r, d.resource? use.resource = some r := by
  cases action with
  | instantaneous a => cases h
  | durative a =>
    have hmakes := ofDurative_eq_ok_iff.mp h
    exact resource?_of_exchanges hmakes.changes (hconsumes ▸ hmakes.consumes) (by decide)

/-- A transition that the analysis gives refers to records that exist. -/
theorem knows_of_ofAction {action : Action} (h : Transition.ofAction d policy action = .ok t) :
    d.Knows t := by
  refine ⟨timeline?_of_hasValue (hasEnds_of_ofAction h t.temporary (by simp)), fun use huse => ?_⟩
  cases action with
  | instantaneous a => cases h
  | durative a =>
    have hmakes := ofDurative_eq_ok_iff.mp h
    exact resource?_of_exchanges hmakes.changes (huse ▸ hmakes.provides) (by decide)

theorem knows_of_mapM {actions : List Action}
    (h : actions.mapM (Transition.ofAction d policy) = .ok ts) :
    ∀ t ∈ ts, d.Knows t := by
  intro t ht
  obtain ⟨action, -, haction⟩ := exists_of_mem_mapM h ht
  exact knows_of_ofAction haction

theorem transitionOf_entered (ts : List Transition) (policy : EndConditions) (action : Action) :
    (d.entered ts).transitionOf policy action = d.transitionOf policy action :=
  (sameNames_entered d ts).transitionOf_congr policy action

/-- Transitions of which any two are compatible are so with themselves as well, as far as
the footprint goes. -/
theorem footprint_of_pairwise (hts : ts.Pairwise Transition.Compatible) {u w : Transition}
    (hu : u ∈ ts) (hw : w ∈ ts) (htimeline : u.timeline = w.timeline)
    (htemporary : u.temporary = w.temporary) :
    u.duration = w.duration ∧ u.provides = w.provides ∧ u.consumes = w.consumes := by
  by_cases heq : u = w
  · subst heq
    exact ⟨rfl, rfl, rfl⟩
  · exact (hts.forall hu hw heq).footprint htimeline htemporary

/-- A transition that is entered is compatible with the ones before it. -/
theorem compatible_of_enter_entered (hd : d.Unentered)
    (hts : ts.Pairwise Transition.Compatible) {d' : Draft} {claim : Claim}
    (h : (d.entered ts).enter t = (d', .ok claim)) : ∀ u ∈ ts, u.Compatible t := by
  have henters := enters_enter (d.entered ts) t
  rw [h] at henters
  intro u hu
  have footprint_of_unclaimed (hnil : claimants ts t.timeline t.temporary = [])
      (htimeline : u.timeline = t.timeline) (htemporary : u.temporary = t.temporary) :
      u.duration = t.duration ∧ u.provides = t.provides ∧ u.consumes = t.consumes := by
    have hmem := mem_claimants.mpr ⟨hu, htimeline, htemporary⟩
    rw [hnil] at hmem
    cases hmem
  have not_provides (hprovides : t.provides = none) (resource : String) :
      ¬t.Provides resource := by
    intro ⟨use, huse, _⟩
    rw [hprovides] at huse
    cases huse
  cases henters with
  | merged htimeline hvalue hclaimed hfootprint hprovides =>
    refine ⟨fun hut hutmp => ?_, fun resource _ => not_provides hprovides resource⟩
    obtain ⟨w, hw, v₀, rfl⟩ := claimant_of_claimed hd htimeline hvalue hclaimed
    obtain ⟨hwts, hwt, hwtmp⟩ := mem_claimants.mp hw
    obtain ⟨h₁, h₂, h₃⟩ := footprint_of_pairwise hts hu hwts (hut.trans hwt.symm)
      (hutmp.trans hwtmp.symm)
    obtain ⟨h₁', h₂', h₃'⟩ := hasFootprint_claim.mp hfootprint
    exact ⟨h₁.trans h₁', h₂.trans h₂', h₃.trans h₃'⟩
  | claimed htimeline hvalue hclaimed hprovides =>
    have hnil := claimants_of_unclaimed hd htimeline hvalue hclaimed
    exact ⟨footprint_of_unclaimed hnil, fun resource _ => not_provides hprovides resource⟩
  | provider htimeline hvalue hclaimed hprovides hresource hproviders =>
    have hnil := claimants_of_unclaimed hd htimeline hvalue hclaimed
    refine ⟨footprint_of_unclaimed hnil, fun resource huprov ⟨use, huse, hname⟩ => ?_⟩
    rw [hprovides] at huse
    obtain rfl := Option.some.inj huse
    rw [providers_of_entered hresource, filterMap_provider?_eq_nil] at hproviders
    exact hproviders u hu (hname ▸ huprov)

/-! ## All actions -/

/-- The run over the actions, from a draft that transitions have been entered into. -/
theorem enterAll_entered_eq_ok (hd : d.Unentered) (hts : ts.Pairwise Transition.Compatible)
    {actions : List Action} {d' : Draft} :
    ((d.entered ts).enterAll policy actions).2 = .ok d' ↔
      ∃ us, actions.mapM (Transition.ofAction d policy) = .ok us ∧
        (ts ++ us).Pairwise Transition.Compatible ∧ d' = d.entered (ts ++ us) := by
  induction actions generalizing ts with
  | nil =>
    simp only [Draft.enterAll, Except.ok.injEq, List.mapM_nil, pure_eq_ok]
    constructor
    · intro h
      subst h
      exact ⟨[], rfl, by simpa using hts, by simp⟩
    · intro h
      obtain ⟨_, rfl, -, h⟩ := h
      simpa using h.symm
  | cons action rest ih =>
    simp only [Draft.enterAll, transitionOf_entered, List.mapM_cons, bind_eq_ok, pure_eq_ok]
    cases haction : Transition.ofAction d policy action with
    | error violation => simp [Draft.transitionOf, haction]
    | ok t =>
      simp only [Draft.transitionOf, haction, Except.ok.injEq]
      by_cases hcompatible : ∀ u ∈ ts, u.Compatible t
      · obtain ⟨claim, henter⟩ :=
          enter_entered_of_compatible hd (knows_of_ofAction haction) hcompatible
        have hts' : (ts ++ [t]).Pairwise Transition.Compatible := by
          rw [List.pairwise_append]
          exact ⟨hts, List.pairwise_singleton _ _, by simpa using hcompatible⟩
        rw [henter]
        simp only [ih hts', List.append_assoc, List.singleton_append]
        constructor
        · intro h
          obtain ⟨us, hus, hpairwise, rfl⟩ := h
          exact ⟨t :: us, ⟨t, rfl, us, hus, rfl⟩, hpairwise, rfl⟩
        · intro h
          obtain ⟨_, ⟨_, rfl, us, hus, rfl⟩, hpairwise, rfl⟩ := h
          exact ⟨us, hus, hpairwise, rfl⟩
      · constructor
        · intro h
          cases henter : (d.entered ts).enter t with
          | mk d₁ outcome =>
            cases outcome with
            | error e =>
              rw [henter] at h
              cases h
            | ok claim => exact absurd (compatible_of_enter_entered hd hts henter) hcompatible
        · intro h
          obtain ⟨_, ⟨_, rfl, us, -, rfl⟩, hpairwise, -⟩ := h
          refine absurd (fun u hu => ?_) hcompatible
          exact (List.pairwise_append.mp hpairwise).2.2 u hu t (by simp)

/-- The run over the actions of a problem, from a draft without any. -/
theorem enterAll_eq_ok (hd : d.Unentered) {actions : List Action} {d' : Draft} :
    (d.enterAll policy actions).2 = .ok d' ↔
      ∃ ts, actions.mapM (Transition.ofAction d policy) = .ok ts ∧
        ts.Pairwise Transition.Compatible ∧ d' = d.entered ts := by
  have h : ((d.entered []).enterAll policy actions).2 = .ok d' ↔ _ :=
    enterAll_entered_eq_ok hd .nil
  rw [Draft.entered_nil hd] at h
  simpa using h

/-- A conversion in terms of the transitions of the actions. -/
theorem convert_eq_ok {p : Problem} {settings : Settings} {out : TimelineProblem} :
    p.convert settings = .ok out ↔ ∃ d actions ts table,
      p.initialDraft = .ok d ∧ p.actionInstances p.domains = .ok actions ∧
      actions.mapM (Transition.ofAction d settings.endConditions) = .ok ts ∧
      ts.Pairwise Transition.Compatible ∧ (d.entered ts).supply = .ok table ∧
      (d.entered ts).synthesize table settings.unboundedMinDuration = out := by
  unfold Problem.convert
  simp only [bind_eq_ok, pure_eq_ok]
  constructor
  · intro h
    obtain ⟨d, hd, actions, hactions, d', hd', table, htable, rfl⟩ := h
    obtain ⟨ts, hts, hpairwise, rfl⟩ := (enterAll_eq_ok (unentered_initialDraft hd)).mp hd'
    exact ⟨d, actions, ts, table, hd, hactions, hts, hpairwise, htable, rfl⟩
  · intro h
    obtain ⟨d, actions, ts, table, hd, hactions, hts, hpairwise, htable, rfl⟩ := h
    refine ⟨d, hd, actions, hactions, _, ?_, table, htable, rfl⟩
    exact (enterAll_eq_ok (unentered_initialDraft hd)).mpr ⟨ts, hts, hpairwise, rfl⟩

end PlanTimelines
