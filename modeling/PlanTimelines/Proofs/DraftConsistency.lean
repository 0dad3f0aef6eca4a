import PlanTimelines.Example.Conflicts
import PlanTimelines.Proofs.EnteredActions

/-! Drafts in the middle of a run. A transition that is refused has left its edges behind by
then, and perhaps the claim on its temporary value. `Draft.Consistent` is what a draft has
all the same, whatever was entered or refused before. Only that every value which provides a
resource is known to the resource may be lost, and only by a refusal. -/

namespace PlanTimelines

/-! ## Consistent drafts -/

/-- A value holds all that a claim writes, and then has edges on both sides, or nothing. -/
structure DraftTimeline.Sound (dt : DraftTimeline) (v : DraftValue) : Prop where
  claimed_iff : v.claimedBy ≠ none ↔ v.duration ≠ none
  unclaimed : v.claimedBy = none → v.consumes = [] ∧ v.provides = none
  consumes : v.claimedBy ≠ none → v.consumes.length ≤ 1
  incoming : v.claimedBy ≠ none → ∃ source, (source, v.name) ∈ dt.edges
  outgoing : v.claimedBy ≠ none → ∃ target, (v.name, target) ∈ dt.edges

structure DraftTimeline.Consistent (dt : DraftTimeline) : Prop where
  nodup : dt.edges.Nodup
  ends : ∀ edge ∈ dt.edges, dt.hasValue edge.1 = true ∧ dt.hasValue edge.2 = true
  values : ∀ v ∈ dt.values, dt.Sound v

namespace Draft

/-- The value of a timeline. -/
def value? (d : Draft) (timeline value : String) : Option DraftValue :=
  (d.timeline? timeline).bind (·.value? value)

structure Consistent (d : Draft) : Prop where
  timelines : ∀ dt ∈ d.timelines, dt.Consistent
  oneProvider : ∀ r ∈ d.resources, r.providers.length ≤ 1
  /-- A provider is a value of a timeline that provides just this. -/
  providers : ∀ r ∈ d.resources, ∀ provider ∈ r.providers, ∃ timeline v,
    provider.timeline = .named timeline ∧ d.value? timeline provider.value = some v ∧
      v.provides = some ⟨r.name, provider.amount⟩

/-- Every value that provides a resource is the one provider of the resource. -/
def ProvidersRecorded (d : Draft) : Prop :=
  ∀ dt ∈ d.timelines, ∀ v ∈ dt.values, ∀ use, v.provides = some use →
    ∃ r, d.resource? use.resource = some r ∧
      r.providers = [⟨.named dt.name, v.name, use.amount⟩]

/-- Drafts that a run leads to, with the outcomes on the way, the last one first. A step
enters what the analysis makes of some action in the draft at hand; a refusal does not end
the run. -/
inductive Reaches (d : Draft) : Draft → List (Except ConversionError Claim) → Prop where
  | start : Reaches d d []
  | enter {d₁ d₂ : Draft} {outcomes : List (Except ConversionError Claim)}
    {outcome : Except ConversionError Claim} {policy : EndConditions} {action : Action}
    {t : Transition} (hreaches : Reaches d d₁ outcomes)
    (haction : Transition.ofAction d₁ policy action = .ok t)
    (henter : d₁.enter t = (d₂, outcome)) : Reaches d d₂ (outcome :: outcomes)

end Draft

/-! ## One timeline -/

variable {d d' : Draft} {dt : DraftTimeline} {t : Transition}

theorem mem_edges_addEdge {source target : String} {edge : String × String} :
    edge ∈ (dt.addEdge source target).edges ↔ edge ∈ dt.edges ∨ edge = (source, target) := by
  rw [edges_addEdge]
  split
  · rename_i hmem
    exact ⟨.inl, fun h => h.elim id fun heq => heq ▸ hmem⟩
  · simp

theorem hasValue_addEdge (source target value : String) :
    (dt.addEdge source target).hasValue value = dt.hasValue value := by
  unfold DraftTimeline.addEdge
  split <;> rfl

theorem values_addEdge (source target : String) :
    (dt.addEdge source target).values = dt.values := by
  unfold DraftTimeline.addEdge
  split <;> rfl

/-- More edges do no harm to a value. -/
theorem DraftTimeline.Sound.mono {dt' : DraftTimeline} {v : DraftValue} (h : dt.Sound v)
    (hedges : ∀ edge ∈ dt.edges, edge ∈ dt'.edges) : dt'.Sound v := by
  refine ⟨h.claimed_iff, h.unclaimed, h.consumes, fun hclaimed => ?_, fun hclaimed => ?_⟩
  · obtain ⟨source, hsource⟩ := h.incoming hclaimed
    exact ⟨source, hedges _ hsource⟩
  · obtain ⟨target, htarget⟩ := h.outgoing hclaimed
    exact ⟨target, hedges _ htarget⟩

theorem consistent_addEdge (h : dt.Consistent) {source target : String}
    (hsource : dt.hasValue source = true) (htarget : dt.hasValue target = true) :
    (dt.addEdge source target).Consistent := by
  refine ⟨?_, fun edge hedge => ?_, fun v hv => ?_⟩
  · rw [edges_addEdge]
    split
    · exact h.nodup
    · rename_i hmem
      exact List.concat_eq_append ▸ h.nodup.concat hmem
  · rw [hasValue_addEdge, hasValue_addEdge]
    rcases mem_edges_addEdge.mp hedge with hedge | rfl
    · exact h.ends edge hedge
    · exact ⟨hsource, htarget⟩
  · rw [values_addEdge] at hv
    exact (h.values v hv).mono fun edge hedge => mem_edges_addEdge.mpr (.inl hedge)

theorem consistent_addTransition (h : dt.Consistent)
    (ht : ∀ value ∈ [t.source, t.temporary, t.final], dt.hasValue value = true) :
    (dt.addTransition t).Consistent := by
  refine consistent_addEdge (consistent_addEdge h (ht _ (by simp)) (ht _ (by simp))) ?_ ?_
  · rw [hasValue_addEdge]
    exact ht _ (by simp)
  · rw [hasValue_addEdge]
    exact ht _ (by simp)

theorem edges_subset_addTransition {edge : String × String} (h : edge ∈ t.edges) :
    edge ∈ (dt.addTransition t).edges := by
  unfold DraftTimeline.addTransition
  simp only [mem_edges_addEdge]
  simp only [Transition.edges, List.mem_cons, List.not_mem_nil, or_false] at h
  exact h.elim (fun h => .inl (.inr h)) .inr

/-- A claim is sound on a value that the edges of the transition lead through. -/
theorem consistent_updateValue (h : dt.Consistent) (ht : ∀ edge ∈ t.edges, edge ∈ dt.edges) :
    (dt.updateValue t.temporary (·.claim t)).Consistent := by
  refine ⟨h.nodup, fun edge hedge => ?_, fun v hv => ?_⟩
  · rw [hasValue_eq_contains, hasValue_eq_contains, map_name_updateValue,
      ← hasValue_eq_contains, ← hasValue_eq_contains]
    exact h.ends edge hedge
  · rcases mem_updateFirst hv with hv | ⟨v, hfind, rfl⟩
    · exact (h.values v hv).mono fun _ hedge => hedge
    · have hname : v.name = t.temporary := by simpa using List.find?_some hfind
      have hedges : dt.Sound (v.claim t) := by
        refine ⟨by simp [DraftValue.claim], fun hnone => ?_, fun _ => ?_, fun _ => ?_, fun _ => ?_⟩
        · cases hnone
        · exact Option.length_toList_le
        · exact ⟨t.source, hname ▸ ht _ (by simp [Transition.edges])⟩
        · exact ⟨t.final, hname ▸ ht _ (by simp [Transition.edges])⟩
      exact hedges.mono fun _ hedge => hedge

/-! ## Records after entering -/

theorem timeline?_updateTimeline {f : DraftTimeline → DraftTimeline}
    (hf : ∀ dt, (f dt).name = dt.name) (name other : String) :
    (d.updateTimeline name f).timeline? other =
      (d.timeline? other).map fun dt => if other = name then f dt else dt := by
  by_cases h : other = name
  · subst h
    simp only [if_true]
    exact findLast?_updateLast _ f (fun dt => by rw [hf]) d.timelines
  · simp only [h, if_false, Option.map_id']
    exact findLast?_updateLast_of_ne hf h d.timelines

theorem timeline?_withEdges (name : String) : (d.withEdges t).timeline? name =
    (d.timeline? name).map fun dt => if name = t.timeline then dt.addTransition t else dt := by
  apply timeline?_updateTimeline
  intro dt
  rw [addTransition_eq]

theorem timeline?_withClaim (name : String) : (d.withClaim t).timeline? name =
    ((d.withEdges t).timeline? name).map fun dt =>
      if name = t.timeline then dt.updateValue t.temporary (·.claim t) else dt := by
  apply timeline?_updateTimeline
  intro dt
  rfl

theorem value?_withEdges : (d.withEdges t).value? = d.value? := by
  funext timeline value
  unfold Draft.value?
  rw [timeline?_withEdges]
  cases d.timeline? timeline with
  | none => rfl
  | some dt =>
    by_cases h : timeline = t.timeline
    · simp only [h, if_true, Option.map_some, Option.bind_some]
      rw [addTransition_eq]
      rfl
    · simp [h]

theorem value?_withClaim_self : (d.withClaim t).value? t.timeline t.temporary =
    (d.value? t.timeline t.temporary).map (·.claim t) := by
  rw [← value?_withEdges (d := d) (t := t)]
  unfold Draft.value?
  rw [timeline?_withClaim]
  cases (d.withEdges t).timeline? t.timeline with
  | none => rfl
  | some dt =>
    simp only [if_true, Option.map_some, Option.bind_some]
    exact find?_updateFirst (·.name == t.temporary) (·.claim t) (fun _ => rfl) dt.values

theorem value?_withClaim_of_ne {timeline value : String}
    (h : ¬(timeline = t.timeline ∧ value = t.temporary)) :
    (d.withClaim t).value? timeline value = d.value? timeline value := by
  rw [← value?_withEdges (d := d) (t := t)]
  unfold Draft.value?
  rw [timeline?_withClaim]
  cases (d.withEdges t).timeline? timeline with
  | none => rfl
  | some dt =>
    by_cases htimeline : timeline = t.timeline
    · simp only [htimeline, if_true, Option.map_some, Option.bind_some]
      apply find?_updateFirst_of_ne
      · intro v
        rfl
      · intro hvalue
        exact h ⟨htimeline, hvalue⟩
    · simp [htimeline]

theorem value?_eq_some {timeline value : String} {v : DraftValue} :
    d.value? timeline value = some v ↔
      ∃ dt, d.timeline? timeline = some dt ∧ dt.value? value = some v := by
  unfold Draft.value?
  rw [Option.bind_eq_some_iff]

theorem Draft.Consistent.sound (h : d.Consistent) {timeline value : String} {v : DraftValue}
    (hv : d.value? timeline value = some v) : ∃ dt ∈ d.timelines, dt.Sound v := by
  obtain ⟨dt, hdt, hfind⟩ := value?_eq_some.mp hv
  have hmem := (mem_of_findLast? hdt).1
  exact ⟨dt, hmem, (h.timelines dt hmem).values v (List.mem_of_find?_eq_some hfind)⟩

/-! ## One step -/

theorem mem_timelines_withEdges (h : dt ∈ (d.withEdges t).timelines) :
    dt ∈ d.timelines ∨ ∃ dt₀, d.timeline? t.timeline = some dt₀ ∧ dt = dt₀.addTransition t :=
  mem_updateLast h

theorem mem_timelines_withClaim (h : dt ∈ (d.withClaim t).timelines) :
    dt ∈ (d.withEdges t).timelines ∨ ∃ dt₀, d.timeline? t.timeline = some dt₀ ∧
      dt = (dt₀.addTransition t).updateValue t.temporary (·.claim t) := by
  rcases mem_updateLast h with h | ⟨dt₁, hdt₁, rfl⟩
  · exact .inl h
  · have hfind : (d.withEdges t).timeline? t.timeline = some dt₁ := hdt₁
    rw [timeline?_withEdges] at hfind
    obtain ⟨dt₀, hdt₀, rfl⟩ := Option.map_eq_some_iff.mp hfind
    exact .inr ⟨dt₀, hdt₀, by simp⟩

theorem consistent_withEdges (h : d.Consistent) (ht : d.HasEnds t) :
    (d.withEdges t).Consistent := by
  refine ⟨fun dt hdt => ?_, h.oneProvider, fun r hr provider hprovider => ?_⟩
  · rcases mem_timelines_withEdges hdt with hdt | ⟨dt₀, hdt₀, rfl⟩
    · exact h.timelines dt hdt
    · exact consistent_addTransition (h.timelines dt₀ (mem_of_findLast? hdt₀).1)
        (hasValue_of_hasEnds ht hdt₀)
  · rw [value?_withEdges]
    exact h.providers r hr provider hprovider

/-- A provider stays as it is: only a value without a claim is claimed. -/
theorem consistent_withClaim (h : d.Consistent) (ht : d.HasEnds t) {v : DraftValue}
    (hv : d.value? t.timeline t.temporary = some v) (hclaimed : v.claimedBy = none) :
    (d.withClaim t).Consistent := by
  refine ⟨fun dt hdt => ?_, h.oneProvider, fun r hr provider hprovider => ?_⟩
  · rcases mem_timelines_withClaim hdt with hdt | ⟨dt₀, hdt₀, rfl⟩
    · exact (consistent_withEdges h ht).timelines dt hdt
    · refine consistent_updateValue ?_ fun _ hedge => edges_subset_addTransition hedge
      exact consistent_addTransition (h.timelines dt₀ (mem_of_findLast? hdt₀).1)
        (hasValue_of_hasEnds ht hdt₀)
  · obtain ⟨timeline, w, hnamed, hw, hprovides⟩ := h.providers r hr provider hprovider
    refine ⟨timeline, w, hnamed, ?_, hprovides⟩
    rw [value?_withClaim_of_ne, hw]
    rintro ⟨rfl, hvalue⟩
    rw [hvalue, hv] at hw
    obtain rfl := Option.some.inj hw
    obtain ⟨dt, -, hsound⟩ := h.sound hv
    rw [(hsound.unclaimed hclaimed).2] at hprovides
    cases hprovides

theorem consistent_withProvider (h : d.Consistent) {v : DraftValue} {use : ResourceUse}
    {r : DraftResource} (hv : d.value? t.timeline t.temporary = some v)
    (hprovides : v.provides = some use) (hresource : d.resource? use.resource = some r)
    (hproviders : r.providers = []) : (d.withProvider t use).Consistent := by
  have hmem : ∀ r' ∈ (d.withProvider t use).resources, r' ∈ d.resources ∨
      r' = { r with providers := [⟨.named t.timeline, t.temporary, use.amount⟩] } := by
    intro r' hr'
    rcases mem_updateLast hr' with hr' | ⟨r₀, hr₀, rfl⟩
    · exact .inl hr'
    · obtain rfl := Option.some.inj (hr₀.symm.trans hresource)
      exact .inr (by rw [hproviders]; rfl)
  refine ⟨h.timelines, fun r' hr' => ?_, fun r' hr' provider hprovider => ?_⟩
  · rcases hmem r' hr' with hr' | rfl
    · exact h.oneProvider r' hr'
    · simp
  · rcases hmem r' hr' with hr' | rfl
    · exact h.providers r' hr' provider hprovider
    · obtain rfl := List.mem_singleton.mp hprovider
      exact ⟨t.timeline, v, rfl, hv, by rw [hprovides, name_of_resource? hresource]⟩

/-- What a step keeps, in whichever way it ends. -/
theorem Draft.Enters.consistent {outcome : Except ConversionError Claim}
    (h : d.Enters t d' outcome) (hd : d.Consistent) (ht : d.HasEnds t) : d'.Consistent := by
  cases h with
  | unknownTimeline => exact hd
  | unknownValue | conflictingClaim | providedAgain | merged => exact consistent_withEdges hd ht
  | claimed htimeline hvalue hclaimed | notAResource htimeline hvalue hclaimed
  | secondProvider htimeline hvalue hclaimed =>
    exact consistent_withClaim hd ht (value?_eq_some.mpr ⟨_, htimeline, hvalue⟩) hclaimed
  | provider htimeline hvalue hclaimed hprovides hresource hproviders =>
    have hv := value?_eq_some.mpr ⟨_, htimeline, hvalue⟩
    have hclaim := value?_withClaim_self.trans (congrArg (Option.map (·.claim t)) hv)
    exact consistent_withProvider (consistent_withClaim hd ht hv hclaimed) hclaim hprovides
      hresource hproviders

/-- A value after a claim is one from before or the one that is claimed. -/
theorem mem_values_withClaim {v : DraftValue} (hdt : dt ∈ (d.withClaim t).timelines)
    (hv : v ∈ dt.values) : (∃ dt₀ ∈ d.timelines, dt₀.name = dt.name ∧ v ∈ dt₀.values) ∨
      dt.name = t.timeline ∧ v.name = t.temporary ∧ v.provides = t.provides := by
  have name_of_timeline? {dt₀ : DraftTimeline} (hdt₀ : d.timeline? t.timeline = some dt₀) :
      dt₀ ∈ d.timelines ∧ dt₀.name = t.timeline := by
    simpa using mem_of_findLast? hdt₀
  rcases mem_timelines_withClaim hdt with hdt | ⟨dt₀, hdt₀, rfl⟩
  · rcases mem_timelines_withEdges hdt with hdt | ⟨dt₀, hdt₀, rfl⟩
    · exact .inl ⟨dt, hdt, rfl, hv⟩
    · rw [addTransition_eq] at hv ⊢
      exact .inl ⟨dt₀, (name_of_timeline? hdt₀).1, rfl, hv⟩
  · rw [addTransition_eq] at hv ⊢
    rcases mem_updateFirst hv with hv | ⟨w, hw, rfl⟩
    · exact .inl ⟨dt₀, (name_of_timeline? hdt₀).1, rfl, hv⟩
    · have hname : w.name = t.temporary := by simpa using List.find?_some hw
      exact .inr ⟨(name_of_timeline? hdt₀).2, hname, rfl⟩

theorem providersRecorded_withEdges (h : d.ProvidersRecorded) :
    (d.withEdges t).ProvidersRecorded := by
  intro dt hdt v hv use huse
  rcases mem_timelines_withEdges hdt with hdt | ⟨dt₀, hdt₀, rfl⟩
  · exact h dt hdt v hv use huse
  · rw [addTransition_eq] at hv ⊢
    exact h dt₀ (mem_of_findLast? hdt₀).1 v hv use huse

theorem providersRecorded_withClaim (h : d.ProvidersRecorded) (hprovides : t.provides = none) :
    (d.withClaim t).ProvidersRecorded := by
  intro dt hdt v hv use huse
  rcases mem_values_withClaim hdt hv with ⟨dt₀, hdt₀, hname, hv⟩ | ⟨-, -, hsame⟩
  · rw [← hname]
    exact h dt₀ hdt₀ v hv use huse
  · rw [hsame, hprovides] at huse
    cases huse

theorem providersRecorded_withProvider (h : d.ProvidersRecorded) {use : ResourceUse}
    {r : DraftResource} (hprovides : t.provides = some use)
    (hresource : d.resource? use.resource = some r) (hproviders : r.providers = []) :
    ((d.withClaim t).withProvider t use).ProvidersRecorded := by
  intro dt hdt v hv use' huse'
  rcases mem_values_withClaim hdt hv with ⟨dt₀, hdt₀, hname, hv⟩ | ⟨hname, hvalue, hsame⟩
  · obtain ⟨r', hr', hproviders'⟩ := h dt₀ hdt₀ v hv use' huse'
    have hne : use'.resource ≠ use.resource := by
      intro heq
      rw [heq, hresource] at hr'
      obtain rfl := Option.some.inj hr'
      rw [hproviders] at hproviders'
      cases hproviders'
    refine ⟨r', ?_, hname ▸ hproviders'⟩
    rw [← hr']
    apply findLast?_updateLast_of_ne
    · intro r
      rfl
    · exact hne
  · obtain rfl : use = use' := Option.some.inj (hprovides.symm.trans (hsame.symm.trans huse'))
    refine ⟨{ r with providers := [⟨.named dt.name, v.name, use.amount⟩] }, ?_, rfl⟩
    have hupdate := findLast?_updateLast (·.name == use.resource)
      (fun r : DraftResource => { r with
        providers := r.providers ++ [⟨.named t.timeline, t.temporary, use.amount⟩] })
      (fun _ => rfl) d.resources
    refine hupdate.trans ((congrArg _ hresource).trans ?_)
    simp [hproviders, hname, hvalue]

/-- What a step that is not refused keeps. -/
theorem Draft.Enters.providersRecorded {claim : Claim} (h : d.Enters t d' (.ok claim))
    (hd : d.ProvidersRecorded) : d'.ProvidersRecorded := by
  cases h with
  | merged => exact providersRecorded_withEdges hd
  | claimed _ _ _ hprovides => exact providersRecorded_withClaim hd hprovides
  | provider _ _ _ hprovides hresource hproviders =>
    exact providersRecorded_withProvider hd hprovides hresource hproviders

/-! ## Runs -/

theorem consistent_of_unentered (h : d.Unentered) : d.Consistent := by
  refine ⟨fun dt hdt => ⟨?_, ?_, fun v hv => ?_⟩, fun r hr => ?_, fun r hr => ?_⟩
  · rw [h.edges dt hdt]
    exact .nil
  · simp [h.edges dt hdt]
  · rw [h.values dt hdt v hv]
    constructor <;> simp [DraftValue.unclaimed]
  · simp [h.providers r hr]
  · simp [h.providers r hr]

theorem providersRecorded_of_unentered (h : d.Unentered) : d.ProvidersRecorded := by
  intro dt hdt v hv use huse
  rw [h.values dt hdt v hv] at huse
  cases huse

theorem enters_of_enter {outcome : Except ConversionError Claim}
    (h : d.enter t = (d', outcome)) : d.Enters t d' outcome := by
  have henters := enters_enter d t
  rw [h] at henters
  exact henters

/-- A run changes no names. -/
theorem Draft.Reaches.sameNames {outcomes : List (Except ConversionError Claim)}
    (h : d.Reaches d' outcomes) : d'.SameNames d := by
  induction h with
  | start => exact .refl d
  | enter _ _ henter ih => exact (enters_of_enter henter).sameNames.trans ih

theorem Draft.Reaches.consistent {outcomes : List (Except ConversionError Claim)}
    (h : d.Reaches d' outcomes) (hd : d.Consistent) : d'.Consistent := by
  induction h with
  | start => exact hd
  | enter _ haction henter ih =>
    exact (enters_of_enter henter).consistent ih (hasEnds_of_ofAction haction)

theorem Draft.Reaches.providersRecorded {outcomes : List (Except ConversionError Claim)}
    (h : d.Reaches d' outcomes) (hd : d.ProvidersRecorded)
    (hok : ∀ outcome ∈ outcomes, ∃ claim, outcome = .ok claim) : d'.ProvidersRecorded := by
  induction h with
  | start => exact hd
  | enter _ _ henter ih =>
    obtain ⟨claim, rfl⟩ := hok _ List.mem_cons_self
    refine (enters_of_enter henter).providersRecorded (ih fun outcome houtcome => ?_)
    exact hok outcome (List.mem_cons_of_mem _ houtcome)

/-- Every draft that a run reaches from the draft of the fluents. -/
theorem reaches_consistent {p : Problem} {table : DomainTable} {fresh d : Draft}
    {outcomes : List (Except ConversionError Claim)}
    (hfresh : Draft.ofProblem p table = .ok fresh) (hreaches : fresh.Reaches d outcomes) :
    d.Consistent ∧
      ((∀ outcome ∈ outcomes, ∃ claim, outcome = .ok claim) → d.ProvidersRecorded) := by
  have hisFresh := isFresh_ofProblem hfresh
  have hunentered := unentered_of_isFresh ((withoutState_of_isFresh hisFresh).symm ▸ hisFresh)
  exact ⟨hreaches.consistent (consistent_of_unentered hunentered),
    hreaches.providersRecorded (providersRecorded_of_unentered hunentered)⟩

/-- The generator of the kitchen is run, refused when it is run under another name, and the
kettle is heated after that; and the same without the refusal. -/
theorem kitchen_reaches_consistent :
    ∃ fresh refused d : Draft,
      Draft.ofProblem Example.Kitchen.problem Example.Kitchen.problem.domains = .ok fresh ∧
      (fresh.Reaches refused [.ok .new, .error (.providerConflict "power" 2), .ok .new] ∧
        refused.Consistent) ∧
      fresh.Reaches d [.ok .new, .ok .new] ∧ d.Consistent ∧ d.ProvidersRecorded := by
  let fresh : Draft := ⟨[.ofValues "gen" "gen" ["Off", "Running"],
    .ofValues "kettle" "kettle" ["Cold", "Heating", "Hot"]], [.unprovided "power"]⟩
  have hfresh : Draft.ofProblem Example.Kitchen.problem Example.Kitchen.problem.domains =
      .ok fresh := rfl
  have hrun : Transition.ofAction fresh .ignore (.durative Example.Kitchen.run) =
      .ok ⟨"run", "gen", "Off", "Running", "Off", 10, some ⟨"power", 2⟩, none⟩ := rfl
  have hagain (d : Draft) (hnames : d.SameNames fresh) : Transition.ofAction d .ignore
      (.durative { Example.Kitchen.run with name := "run_again" }) =
      .ok ⟨"run_again", "gen", "Off", "Running", "Off", 10, some ⟨"power", 2⟩, none⟩ := by
    rw [hnames.ofAction_congr]
    rfl
  have hheat (d : Draft) (hnames : d.SameNames fresh) : Transition.ofAction d .ignore
      (.durative Example.Kitchen.heat) =
      .ok ⟨"heat", "kettle", "Cold", "Heating", "Hot", 4, none, some ⟨"power", 1⟩⟩ := by
    rw [hnames.ofAction_congr]
    rfl
  have hreaches : fresh.Reaches _ [.ok .new] := .enter .start hrun rfl
  have hconflict : fresh.Reaches _ [.error (.providerConflict "power" 2), .ok .new] :=
    .enter hreaches (hagain _ hreaches.sameNames) rfl
  obtain ⟨refused, hrefused⟩ : ∃ refused,
      fresh.Reaches refused [.ok .new, .error (.providerConflict "power" 2), .ok .new] :=
    ⟨_, .enter hconflict (hheat _ hconflict.sameNames) rfl⟩
  obtain ⟨d, hheated⟩ : ∃ d, fresh.Reaches d [.ok .new, .ok .new] :=
    ⟨_, .enter hreaches (hheat _ hreaches.sameNames) rfl⟩
  obtain ⟨hconsistent, hrecorded⟩ := reaches_consistent hfresh hheated
  refine ⟨fresh, refused, d, hfresh, ⟨hrefused, (reaches_consistent hfresh hrefused).1⟩, hheated,
    hconsistent, hrecorded ?_⟩
  simp

end PlanTimelines
