import PlanTimelines.Example.Kitchen
import PlanTimelines.Proofs.EnteredActions
import PlanTimelines.Proofs.EnteredSupply

/-! Which problems are accepted. Actions are entered one after the other and the first
refusal ends the conversion, but whether there is one does not depend on the order: it is
a condition on the transitions of all actions taken together. -/

namespace PlanTimelines

/-- What the transitions of the actions have to be, in a draft of the fluents alone. -/
structure Draft.Accepts (fresh : Draft) (ts : List Transition) : Prop where
  /-- Transitions through one value are held for the same time, and provide and consume
  the same. -/
  footprints : ∀ t ∈ ts, ∀ u ∈ ts, t.timeline = u.timeline → t.temporary = u.temporary →
    t.duration = u.duration ∧ t.provides = u.provides ∧ t.consumes = u.consumes
  /-- No two of them offer the same resource, even if they are equal. -/
  providedOnce : ∀ (i j : Nat) (hi : i < ts.length) (hj : j < ts.length), i ≠ j →
    ∀ resource, ts[i].Provides resource → ¬ts[j].Provides resource
  distinctResources : fresh.resourceNames.Nodup
  provided : ∀ name ∈ fresh.resourceNames, ∃ t ∈ ts, t.Provides name

theorem pairwise_compatible_iff {ts : List Transition} :
    ts.Pairwise Transition.Compatible ↔
      (∀ t ∈ ts, ∀ u ∈ ts, t.timeline = u.timeline → t.temporary = u.temporary →
        t.duration = u.duration ∧ t.provides = u.provides ∧ t.consumes = u.consumes) ∧
      ∀ (i j : Nat) (hi : i < ts.length) (hj : j < ts.length), i ≠ j →
        ∀ resource, ts[i].Provides resource → ¬ts[j].Provides resource := by
  constructor
  · intro hts
    refine ⟨fun t ht u hu => footprint_of_pairwise hts ht hu, fun i j hi hj hne resource hti => ?_⟩
    have hpositions := List.pairwise_iff_getElem.mp hts
    rcases Nat.lt_or_gt_of_ne hne with hlt | hgt
    · exact (hpositions i j hi hj hlt).providers resource hti
    · exact (hpositions j i hj hi hgt).symm.providers resource hti
  · intro h
    obtain ⟨hfootprints, hproviders⟩ := h
    rw [List.pairwise_iff_getElem]
    intro i j hi hj hlt
    exact ⟨hfootprints _ (List.getElem_mem hi) _ (List.getElem_mem hj),
      hproviders i j hi hj (Nat.ne_of_lt hlt)⟩

/-- Given that the state and the actions of a problem can be read at all, the conversion
succeeds exactly if the draft of the fluents accepts the transitions of the actions. -/
theorem convert_isOk_iff_accepts {p : Problem} {settings : Settings} {fresh d : Draft}
    {actions : List Action} {ts : List Transition}
    (hfresh : Draft.ofProblem p p.domains = .ok fresh) (hd : p.initialDraft = .ok d)
    (hactions : p.actionInstances p.domains = .ok actions)
    (hts : actions.mapM (Transition.ofAction fresh settings.endConditions) = .ok ts) :
    (∃ out, p.convert settings = .ok out) ↔ fresh.Accepts ts := by
  have hnames := sameNames_initialDraft hfresh hd
  have hts' : actions.mapM (Transition.ofAction d settings.endConditions) = .ok ts := by
    rw [← hnames.mapM_ofAction_congr, hts]
  have hsupply := fun hpairwise =>
    supply_entered_isOk (unentered_initialDraft hd) hpairwise (knows_of_mapM hts')
  rw [← hnames.resources] at hsupply
  constructor
  · intro h
    obtain ⟨out, hout⟩ := h
    obtain ⟨d', actions', us, table, hd', hactions', hus, hpairwise, htable, -⟩ :=
      convert_eq_ok.mp hout
    obtain rfl := Except.ok.inj (hd.symm.trans hd')
    obtain rfl := Except.ok.inj (hactions.symm.trans hactions')
    obtain rfl := Except.ok.inj (hts'.symm.trans hus)
    obtain ⟨hfootprints, hproviders⟩ := pairwise_compatible_iff.mp hpairwise
    obtain ⟨hdistinct, hprovided⟩ := (hsupply hpairwise).mp ⟨table, htable⟩
    exact ⟨hfootprints, hproviders, hdistinct, hprovided⟩
  · intro h
    have hpairwise := pairwise_compatible_iff.mpr ⟨h.footprints, h.providedOnce⟩
    obtain ⟨table, htable⟩ := (hsupply hpairwise).mpr ⟨h.distinctResources, h.provided⟩
    exact ⟨_, convert_eq_ok.mpr
      ⟨d, actions, ts, table, hd, hactions, hts', hpairwise, htable, rfl⟩⟩

/-- The kitchen is accepted, and its draft accepts what running the generator and heating
the kettle do. -/
theorem kitchen_accepted :
    (∃ out, Example.Kitchen.problem.convert .default = .ok out) ∧
      Draft.Accepts ⟨[.ofValues "gen" "gen" ["Off", "Running"],
          .ofValues "kettle" "kettle" ["Cold", "Heating", "Hot"]], [.unprovided "power"]⟩
        [⟨"run", "gen", "Off", "Running", "Off", 10, some ⟨"power", 2⟩, none⟩,
          ⟨"heat", "kettle", "Cold", "Heating", "Hot", 4, none, some ⟨"power", 1⟩⟩] := by
  have hout : ∃ out, Example.Kitchen.problem.convert .default = .ok out := ⟨_, rfl⟩
  exact ⟨hout, (convert_isOk_iff_accepts rfl rfl rfl rfl).mp hout⟩

end PlanTimelines
