import PlanTimelines.Proofs.DraftConsistency
import PlanTimelines.Proofs.RedundantActions

/-! A transition entered twice in a row, into any draft. Whichever way the first entry ends, a
refusal halfway included, it leaves a draft in which the transition has nothing more to write:
its edges are drawn, and its temporary value is claimed by it or cannot be claimed. The second
entry takes another way all the same, through a claim where the first one found none. -/

namespace PlanTimelines

/-- What entering a transition does to the draft that entering it before, with some outcome, has
left. -/
structure Draft.Repeats (d : Draft) (t : Transition) (first : Except ConversionError Claim) :
    Prop where
  unchanged : (d.enter t).1 = d
  merged : (∃ claim, first = .ok claim) → t.provides = none → (d.enter t).2 = .ok .merged
  refused : ¬((∃ claim, first = .ok claim) ∧ t.provides = none) →
    ∃ e, (d.enter t).2 = .error e
  /-- A value claimed for a resource that is none counts as its provider afterwards. -/
  same : ∀ e, first = .error e →
    (∀ action resource, e ≠ .unsupportedAction action (.notAResource resource)) →
      (d.enter t).2 = .error e

variable {d d' : Draft} {t : Transition} {dt : DraftTimeline} {v : DraftValue}

/-! ## The draft that is left -/

theorem mem_edges_addTransition (dt : DraftTimeline) (t : Transition) :
    (t.source, t.temporary) ∈ (dt.addTransition t).edges ∧
      (t.temporary, t.final) ∈ (dt.addTransition t).edges :=
  ⟨edges_subset_addTransition (by simp [Transition.edges]),
    edges_subset_addTransition (by simp [Transition.edges])⟩

theorem withEdges_withEdges : (d.withEdges t).withEdges t = d.withEdges t := by
  refine withEdges_eq_self fun dt hdt => ?_
  rw [timeline?_withEdges] at hdt
  obtain ⟨dt₀, -, rfl⟩ := Option.map_eq_some_iff.mp hdt
  rw [if_pos rfl]
  exact mem_edges_addTransition dt₀ t

theorem withEdges_withClaim : (d.withClaim t).withEdges t = d.withClaim t := by
  refine withEdges_eq_self fun dt hdt => ?_
  rw [timeline?_withClaim, timeline?_withEdges, Option.map_map] at hdt
  obtain ⟨dt₀, -, rfl⟩ := Option.map_eq_some_iff.mp hdt
  simp only [Function.comp_apply, if_true]
  exact mem_edges_addTransition dt₀ t

theorem withEdges_withProvider {use : ResourceUse} :
    ((d.withClaim t).withProvider t use).withEdges t = (d.withClaim t).withProvider t use := by
  have hcomm : ((d.withClaim t).withProvider t use).withEdges t =
      ((d.withClaim t).withEdges t).withProvider t use := rfl
  rw [hcomm, withEdges_withClaim]

/-- The edges leave the values as they are. -/
theorem exists_value_withEdges (hdt : d.timeline? t.timeline = some dt) :
    ∃ dt', (d.withEdges t).timeline? t.timeline = some dt' ∧
      dt'.value? t.temporary = dt.value? t.temporary := by
  refine ⟨dt.addTransition t, ?_, ?_⟩
  · rw [timeline?_withEdges, hdt, Option.map_some, if_pos rfl]
  · rw [addTransition_eq]
    rfl

theorem exists_value_withClaim (hdt : d.timeline? t.timeline = some dt)
    (hv : dt.value? t.temporary = some v) :
    ∃ dt', (d.withClaim t).timeline? t.timeline = some dt' ∧
      dt'.value? t.temporary = some (v.claim t) := by
  rw [← value?_eq_some, value?_withClaim_self, value?_eq_some.mpr ⟨dt, hdt, hv⟩]
  rfl

/-! ## The second time -/

theorem repeats_of_refused {e : ConversionError} (h : d.enter t = (d, .error e)) :
    d.Repeats t (.error e) := by
  refine ⟨congrArg Prod.fst h, fun hok => ?_, fun _ => ⟨e, congrArg Prod.snd h⟩, ?_⟩
  · obtain ⟨claim, hclaim⟩ := hok
    cases hclaim
  · intro e' he' _
    obtain rfl := Except.error.inj he'
    exact congrArg Prod.snd h

theorem repeats_of_merged {claim : Claim} (hprovides : t.provides = none)
    (h : d.enter t = (d, .ok .merged)) : d.Repeats t (.ok claim) := by
  refine ⟨congrArg Prod.fst h, fun _ _ => congrArg Prod.snd h, fun hnot => ?_, fun e he => ?_⟩
  · exact absurd ⟨⟨claim, rfl⟩, hprovides⟩ hnot
  · cases he

/-- The one refusal that is not repeated is for a resource that there is none of. -/
theorem repeats_of_provided {use : ResourceUse} {e : ConversionError}
    {first : Except ConversionError Claim} (hprovides : t.provides = some use)
    (h : d.enter t = (d, .error e)) (hfirst : ∀ e', first = .error e' →
      ∃ action resource, e' = .unsupportedAction action (.notAResource resource)) :
    d.Repeats t first := by
  refine ⟨congrArg Prod.fst h, fun _ hnone => ?_, fun _ => ⟨e, congrArg Prod.snd h⟩,
    fun e' he' hother => ?_⟩
  · cases hprovides.symm.trans hnone
  · obtain ⟨action, resource, rfl⟩ := hfirst e' he'
    exact absurd rfl (hother action resource)

/-- The temporary value has just been claimed. -/
theorem enter_of_claim (hedges : d.withEdges t = d) (hdt : d.timeline? t.timeline = some dt)
    (hv : dt.value? t.temporary = some (v.claim t)) :
    d.enter t = (d,
      match t.provides with
      | none => .ok .merged
      | some use =>
        .error (.providerConflict use.resource (d.providersWithOneMore use.resource))) := by
  have hfootprint : (v.claim t).hasFootprint t = true := hasFootprint_claim.mpr ⟨rfl, rfl, rfl⟩
  rw [enter_of_claimed hedges hdt hv rfl]
  exact congrArg (Prod.mk d) (reclaim_of_hasFootprint hfootprint t.action)

theorem Draft.Enters.repeats {outcome : Except ConversionError Claim}
    (h : d.Enters t d' outcome) : d'.Repeats t outcome := by
  cases h with
  | unknownTimeline htimeline =>
    refine repeats_of_refused ?_
    simp only [Draft.enter, htimeline]
  | unknownValue htimeline hvalue =>
    obtain ⟨dt', hdt', hsame⟩ := exists_value_withEdges htimeline
    refine repeats_of_refused ?_
    simp only [Draft.enter, hdt', hsame, hvalue]
    exact Prod.ext withEdges_withEdges rfl
  | conflictingClaim htimeline hvalue hclaimed hfootprint =>
    obtain ⟨dt', hdt', hsame⟩ := exists_value_withEdges htimeline
    refine repeats_of_refused ?_
    rw [enter_of_claimed withEdges_withEdges hdt' (hsame.trans hvalue) hclaimed, Draft.reclaim,
      if_neg (by simp [hfootprint])]
  | providedAgain htimeline hvalue hclaimed hfootprint hprovides =>
    obtain ⟨dt', hdt', hsame⟩ := exists_value_withEdges htimeline
    refine repeats_of_refused ?_
    rw [enter_of_claimed withEdges_withEdges hdt' (hsame.trans hvalue) hclaimed,
      reclaim_of_hasFootprint hfootprint]
    simp only [hprovides]
    rfl
  | merged htimeline hvalue hclaimed hfootprint hprovides =>
    obtain ⟨dt', hdt', hsame⟩ := exists_value_withEdges htimeline
    refine repeats_of_merged hprovides ?_
    rw [enter_of_claimed withEdges_withEdges hdt' (hsame.trans hvalue) hclaimed,
      reclaim_of_hasFootprint hfootprint]
    simp only [hprovides]
  | claimed htimeline hvalue hclaimed hprovides =>
    obtain ⟨dt', hdt', hv'⟩ := exists_value_withClaim htimeline hvalue
    refine repeats_of_merged hprovides ?_
    rw [enter_of_claim withEdges_withClaim hdt' hv']
    simp only [hprovides]
  | notAResource htimeline hvalue hclaimed hprovides hresource =>
    -- The value keeps the claim, so the second refusal is for a second provider.
    obtain ⟨dt', hdt', hv'⟩ := exists_value_withClaim htimeline hvalue
    have hagain := enter_of_claim withEdges_withClaim hdt' hv'
    simp only [hprovides] at hagain
    refine repeats_of_provided hprovides hagain fun e he => ?_
    exact ⟨_, _, (Except.error.inj he).symm⟩
  | secondProvider htimeline hvalue hclaimed hprovides =>
    obtain ⟨dt', hdt', hv'⟩ := exists_value_withClaim htimeline hvalue
    refine repeats_of_refused ?_
    rw [enter_of_claim withEdges_withClaim hdt' hv']
    simp only [hprovides]
    rfl
  | @provider _ _ use _ htimeline hvalue hclaimed hprovides =>
    obtain ⟨dt', hdt', hv'⟩ := exists_value_withClaim htimeline hvalue
    have hagain : ((d.withClaim t).withProvider t use).enter t = _ :=
      enter_of_claim withEdges_withProvider hdt' hv'
    simp only [hprovides] at hagain
    refine repeats_of_provided hprovides hagain fun e he => ?_
    cases he

/-- Entering a transition twice comes to entering it once, whether it is refused or not. The
second time it is merged if it was entered and provides nothing, and refused otherwise, for the
same reason as the first time unless this was that what it provides is no resource. -/
theorem enter_enter (d : Draft) (t : Transition) : (d.enter t).1.Repeats t (d.enter t).2 :=
  (enters_enter d t).repeats

-- Power is no resource here, but the second refusal counts the generator as a provider of it.
example :
    let d : Draft := ⟨[.ofValues "gen" "gen" ["Off", "Running"]], []⟩
    let t : Transition := ⟨"run", "gen", "Off", "Running", "Off", 10, some ⟨"power", 2⟩, none⟩
    (d.enter t).2 = .error (.unsupportedAction "run" (.notAResource "power")) ∧
      ((d.enter t).1.enter t).2 = .error (.providerConflict "power" 1) := ⟨rfl, rfl⟩

end PlanTimelines
