import PlanTimelines.Proofs.Entering
import PlanTimelines.Proofs.FreshDraft

/-! The draft that a list of transitions leaves. `Draft.entered` writes it down at once:
the edges of a timeline are those of its transitions, a value is claimed by the first
transition that leads through it, and a resource has the providers that the transitions
name. Entering the transitions one by one leads there, as long as they are compatible,
and is refused at the first one that is not. -/

namespace PlanTimelines

/-! ## Compatible transitions -/

namespace Transition

def edges (t : Transition) : List (String × String) :=
  [(t.source, t.temporary), (t.temporary, t.final)]

/-- The transition offers the resource. -/
def Provides (t : Transition) (resource : String) : Prop :=
  ∃ use, t.provides = some use ∧ use.resource = resource

/-- Transitions that share a temporary value have the same footprint, and no two offer
the same resource. -/
structure Compatible (t u : Transition) : Prop where
  footprint : t.timeline = u.timeline → t.temporary = u.temporary →
    t.duration = u.duration ∧ t.provides = u.provides ∧ t.consumes = u.consumes
  providers : ∀ resource, t.Provides resource → ¬u.Provides resource

theorem Compatible.symm {t u : Transition} (h : t.Compatible u) : u.Compatible t := by
  refine ⟨fun htimeline htemporary => ?_, fun resource hu ht => h.providers resource ht hu⟩
  obtain ⟨h₁, h₂, h₃⟩ := h.footprint htimeline.symm htemporary.symm
  exact ⟨h₁.symm, h₂.symm, h₃.symm⟩

instance : Std.Symm Compatible := ⟨fun _ _ => Compatible.symm⟩

/-- The transition as a provider of the resource. -/
def provider? (t : Transition) (resource : String) : Option Provider :=
  match t.provides with
  | some use =>
    if use.resource = resource then some ⟨.named t.timeline, t.temporary, use.amount⟩ else none
  | none => none

theorem provider?_eq_none {t : Transition} {resource : String} :
    t.provider? resource = none ↔ ¬t.Provides resource := by
  unfold provider? Provides
  cases t.provides with
  | none => simp
  | some use => simp

end Transition

/-! ## The entered draft -/

/-- A value after transitions that lead through it: the first one claims it. -/
def DraftValue.claimedFrom (v : DraftValue) : List Transition → DraftValue
  | [] => v
  | t :: _ => v.claim t

namespace DraftTimeline

/-- A timeline after transitions of its own. -/
def entered (dt : DraftTimeline) (ts : List Transition) : DraftTimeline :=
  { dt with
    edges := (ts.flatMap Transition.edges).eraseDups
    values := mapFirsts DraftValue.name
      (fun name v => v.claimedFrom (ts.filter (·.temporary == name))) dt.values }

end DraftTimeline

/-- A resource after transitions. -/
def DraftResource.entered (r : DraftResource) (name : String) (ts : List Transition) :
    DraftResource :=
  { r with providers := ts.filterMap (·.provider? name) }

/-- A draft after transitions. -/
def Draft.entered (d : Draft) (ts : List Transition) : Draft where
  timelines := mapLasts DraftTimeline.name
    (fun name dt => dt.entered (ts.filter (·.timeline == name))) d.timelines
  resources := mapLasts DraftResource.name (fun name r => r.entered name ts) d.resources

@[simp] theorem name_claimedFrom (v : DraftValue) (ts : List Transition) :
    (v.claimedFrom ts).name = v.name := by
  cases ts <;> rfl

theorem name_entered (dt : DraftTimeline) (ts : List Transition) : (dt.entered ts).name = dt.name :=
  rfl

theorem DraftResource.name_entered (r : DraftResource) (name : String) (ts : List Transition) :
    (r.entered name ts).name = r.name :=
  rfl

theorem value?_entered (dt : DraftTimeline) (ts : List Transition) (name : String) :
    (dt.entered ts).value? name =
      (dt.value? name).map (·.claimedFrom (ts.filter (·.temporary == name))) :=
  find?_mapFirsts (fun _ _ => name_claimedFrom _ _) name dt.values

theorem timeline?_entered (d : Draft) (ts : List Transition) (name : String) :
    (d.entered ts).timeline? name =
      (d.timeline? name).map (·.entered (ts.filter (·.timeline == name))) :=
  findLast?_mapLasts (fun _ dt => name_entered dt _) name d.timelines

theorem resource?_entered (d : Draft) (ts : List Transition) (name : String) :
    (d.entered ts).resource? name = (d.resource? name).map (·.entered name ts) :=
  findLast?_mapLasts (fun name r => DraftResource.name_entered r name ts) name d.resources

theorem sameNames_entered (d : Draft) (ts : List Transition) : (d.entered ts).SameNames d := by
  constructor
  · apply map_mapLasts
    intro name dt
    simp only [DraftTimeline.entered, Prod.mk.injEq, true_and]
    exact map_mapFirsts (fun _ _ => name_claimedFrom _ _) dt.values
  · apply map_mapLasts
    intro name r
    rfl

/-- With distinct names every record is the last one of its name. -/
theorem timelines_entered_of_nodup {d : Draft} (h : (d.timelines.map DraftTimeline.name).Nodup)
    (ts : List Transition) : (d.entered ts).timelines =
      d.timelines.map fun dt => dt.entered (ts.filter (·.timeline == dt.name)) :=
  mapLasts_eq_map h

theorem resources_entered_of_nodup {d : Draft} (h : d.resourceNames.Nodup)
    (ts : List Transition) :
    (d.entered ts).resources = d.resources.map fun r => r.entered r.name ts :=
  mapLasts_eq_map h

theorem DraftTimeline.entered_nil {dt : DraftTimeline} (h : dt.edges = []) :
    dt.entered [] = dt := by
  have hvalues : mapFirsts DraftValue.name (fun _ v => DraftValue.claimedFrom v []) dt.values =
      dt.values := mapFirsts_id _ _
  cases dt
  simp_all [DraftTimeline.entered]

theorem DraftResource.entered_nil {r : DraftResource} (h : r.providers = []) (name : String) :
    r.entered name [] = r := by
  cases r
  simp_all [DraftResource.entered]

theorem Draft.entered_nil {d : Draft} (hd : d.Unentered) : d.entered [] = d := by
  have htimelines : (d.entered []).timelines = d.timelines := by
    refine (mapLasts_congr fun dt hdt => ?_).trans (mapLasts_id _ d.timelines)
    exact DraftTimeline.entered_nil (hd.edges dt hdt)
  have hresources : (d.entered []).resources = d.resources := by
    refine (mapLasts_congr fun r hr => ?_).trans (mapLasts_id _ d.resources)
    exact DraftResource.entered_nil (hd.providers r hr) r.name
  exact Draft.eq_of_records htimelines hresources

/-! ## One more transition -/

theorem edges_addEdge_eraseDups {dt : DraftTimeline} {edges : List (String × String)}
    (h : dt.edges = edges.eraseDups) (source target : String) :
    (dt.addEdge source target).edges = (edges ++ [(source, target)]).eraseDups := by
  rw [edges_addEdge, List.eraseDups_append, h]
  by_cases hmem : (source, target) ∈ edges
  · simp [List.removeAll, hmem]
  · simp [List.removeAll, hmem, List.eraseDups_cons]

theorem edges_addTransition_entered (dt : DraftTimeline) (ts : List Transition) (t : Transition) :
    ((dt.entered ts).addTransition t).edges = (dt.entered (ts ++ [t])).edges := by
  have hedges : (dt.entered (ts ++ [t])).edges =
      ((ts.flatMap Transition.edges ++ [(t.source, t.temporary)]) ++
        [(t.temporary, t.final)]).eraseDups := by
    simp [DraftTimeline.entered, Transition.edges]
  rw [hedges]
  exact edges_addEdge_eraseDups (edges_addEdge_eraseDups rfl _ _) _ _

theorem filter_concat {α : Type} (p : α → Bool) (xs : List α) (x : α) :
    (xs ++ [x]).filter p = if p x = true then xs.filter p ++ [x] else xs.filter p := by
  rw [List.filter_append]
  split <;> simp_all

/-- A value that is claimed stays as it is. -/
theorem addTransition_entered_of_mem {dt : DraftTimeline} {ts : List Transition} {t u : Transition}
    (hu : u ∈ ts) (htemporary : u.temporary = t.temporary) :
    (dt.entered ts).addTransition t = dt.entered (ts ++ [t]) := by
  rw [addTransition_eq, edges_addTransition_entered]
  have hvalues : (dt.entered (ts ++ [t])).values = (dt.entered ts).values := by
    refine mapFirsts_congr fun v _ => ?_
    rw [filter_concat]
    split
    · rename_i hname
      have hmem : u ∈ ts.filter (·.temporary == v.name) := by
        simp_all
      cases hts : ts.filter (·.temporary == v.name) with
      | nil =>
        rw [hts] at hmem
        cases hmem
      | cons first rest => rfl
    · rfl
  have heta : dt.entered (ts ++ [t]) =
      { dt.entered ts with
        edges := (dt.entered (ts ++ [t])).edges, values := (dt.entered (ts ++ [t])).values } := rfl
  rw [heta, hvalues]

/-- The first transition through a value claims it. -/
theorem updateValue_addTransition_entered {dt : DraftTimeline} {ts : List Transition}
    {t : Transition} (h : ∀ u ∈ ts, u.temporary ≠ t.temporary) :
    ((dt.entered ts).addTransition t).updateValue t.temporary (·.claim t) =
      dt.entered (ts ++ [t]) := by
  rw [addTransition_eq, edges_addTransition_entered]
  have hnone : ts.filter (·.temporary == t.temporary) = [] := by
    simpa using h
  have hvalues : updateFirst (·.name == t.temporary) (·.claim t) (dt.entered ts).values =
      (dt.entered (ts ++ [t])).values := by
    unfold DraftTimeline.entered
    simp only
    rw [updateFirst_mapFirsts fun _ _ => name_claimedFrom _ _]
    refine mapFirsts_congr fun v _ => ?_
    rw [filter_concat]
    by_cases hname : v.name = t.temporary
    · rw [hname, Function.update_self, hnone, if_pos (by simp)]
      rfl
    · rw [Function.update_of_ne hname, if_neg (by simpa using Ne.symm hname)]
  have heta : dt.entered (ts ++ [t]) =
      { dt.entered ts with
        edges := (dt.entered (ts ++ [t])).edges, values := (dt.entered (ts ++ [t])).values } := rfl
  rw [heta, ← hvalues]
  rfl

theorem timelines_updateTimeline_entered (d : Draft) {ts : List Transition} {t : Transition}
    {f : DraftTimeline → DraftTimeline}
    (hf : ∀ dt : DraftTimeline, f (dt.entered (ts.filter (·.timeline == t.timeline))) =
      dt.entered (ts.filter (·.timeline == t.timeline) ++ [t])) :
    ((d.entered ts).updateTimeline t.timeline f).timelines = (d.entered (ts ++ [t])).timelines := by
  unfold Draft.updateTimeline Draft.entered
  simp only
  rw [updateLast_mapLasts fun _ dt => name_entered dt _]
  refine mapLasts_congr fun dt _ => ?_
  rw [filter_concat]
  by_cases hname : dt.name = t.timeline
  · rw [hname, Function.update_self, if_pos (by simp)]
    exact hf dt
  · rw [Function.update_of_ne hname, if_neg (by simpa using Ne.symm hname)]

theorem provider?_of_provides {t : Transition} {use : ResourceUse} (h : t.provides = some use)
    (name : String) : t.provider? name =
      if use.resource = name then some ⟨.named t.timeline, t.temporary, use.amount⟩ else none := by
  simp only [Transition.provider?, h]

theorem resources_entered_concat_of_none (d : Draft) (ts : List Transition) {t : Transition}
    (h : t.provides = none) : (d.entered (ts ++ [t])).resources = (d.entered ts).resources := by
  refine mapLasts_congr fun r _ => ?_
  simp [DraftResource.entered, Transition.provider?, h]

theorem resources_withProvider_entered (d : Draft) (ts : List Transition) {t : Transition}
    {use : ResourceUse} (h : t.provides = some use) :
    ((d.entered ts).withProvider t use).resources = (d.entered (ts ++ [t])).resources := by
  unfold Draft.withProvider Draft.updateResource Draft.entered
  simp only
  rw [updateLast_mapLasts fun name r => DraftResource.name_entered r name ts]
  refine mapLasts_congr fun r _ => ?_
  by_cases hname : r.name = use.resource
  · rw [hname, Function.update_self]
    simp [DraftResource.entered, provider?_of_provides h]
  · rw [Function.update_of_ne hname]
    simp [DraftResource.entered, provider?_of_provides h, Ne.symm hname]

/-! ## Entering into an entered draft -/

/-- The draft has the records that a transition refers to. -/
structure Draft.Knows (d : Draft) (t : Transition) : Prop where
  value : ∃ dt v, d.timeline? t.timeline = some dt ∧ dt.value? t.temporary = some v
  resource : ∀ use, t.provides = some use → ∃ r, d.resource? use.resource = some r

theorem hasFootprint_claim {v : DraftValue} {t u : Transition} :
    (v.claim u).hasFootprint t = true ↔
      u.duration = t.duration ∧ u.provides = t.provides ∧ u.consumes = t.consumes := by
  have hconsumes : u.consumes.toList = t.consumes.toList ↔ u.consumes = t.consumes := by
    cases u.consumes <;> cases t.consumes <;> simp
  simp [DraftValue.hasFootprint, DraftValue.claim, hconsumes, and_assoc]

variable {d : Draft} {ts : List Transition} {t : Transition}

/-- The transitions through a value of a timeline. -/
def claimants (ts : List Transition) (timeline value : String) : List Transition :=
  (ts.filter (·.timeline == timeline)).filter (·.temporary == value)

theorem mem_claimants {u : Transition} {timeline value : String} :
    u ∈ claimants ts timeline value ↔ u ∈ ts ∧ u.timeline = timeline ∧ u.temporary = value := by
  simp [claimants, and_comm (a := u.temporary = value)]

/-- What the entered draft holds at a value: the claim of the first transition there. -/
theorem lookup_entered (hd : d.Unentered) {dt : DraftTimeline} {v : DraftValue}
    {timeline value : String} (htimeline : (d.entered ts).timeline? timeline = some dt)
    (hvalue : dt.value? value = some v) :
    ∃ v₀, DraftValue.claimedBy v₀ = none ∧ v = v₀.claimedFrom (claimants ts timeline value) := by
  rw [timeline?_entered] at htimeline
  obtain ⟨dt₀, hdt₀, rfl⟩ := Option.map_eq_some_iff.mp htimeline
  rw [value?_entered] at hvalue
  obtain ⟨v₀, hv₀, rfl⟩ := Option.map_eq_some_iff.mp hvalue
  refine ⟨v₀, ?_, rfl⟩
  rw [hd.values dt₀ (mem_of_findLast? hdt₀).1 v₀ (List.mem_of_find?_eq_some hv₀)]
  rfl

/-- A value without a claim is one that no transition leads through. -/
theorem claimants_of_unclaimed (hd : d.Unentered) {dt : DraftTimeline} {v : DraftValue}
    {timeline value : String} (htimeline : (d.entered ts).timeline? timeline = some dt)
    (hvalue : dt.value? value = some v) (hclaimed : v.claimedBy = none) :
    claimants ts timeline value = [] := by
  obtain ⟨v₀, -, rfl⟩ := lookup_entered hd htimeline hvalue
  cases h : claimants ts timeline value with
  | nil => rfl
  | cons u rest =>
    rw [h] at hclaimed
    cases hclaimed

/-- A claim on a value is that of a transition through it. -/
theorem claimant_of_claimed (hd : d.Unentered) {dt : DraftTimeline} {v : DraftValue}
    {timeline value claimedBy : String} (htimeline : (d.entered ts).timeline? timeline = some dt)
    (hvalue : dt.value? value = some v) (hclaimed : v.claimedBy = some claimedBy) :
    ∃ u ∈ claimants ts timeline value, ∃ v₀ : DraftValue, v = v₀.claim u := by
  obtain ⟨v₀, hv₀, rfl⟩ := lookup_entered hd htimeline hvalue
  cases h : claimants ts timeline value with
  | nil =>
    rw [h] at hclaimed
    cases hv₀.symm.trans hclaimed
  | cons u rest => exact ⟨u, List.mem_cons_self, v₀, rfl⟩

theorem providers_of_entered {name : String} {r : DraftResource}
    (h : (d.entered ts).resource? name = some r) :
    r.providers = ts.filterMap (·.provider? name) := by
  rw [resource?_entered] at h
  obtain ⟨r', -, rfl⟩ := Option.map_eq_some_iff.mp h
  rfl

theorem filterMap_provider?_eq_nil {name : String} :
    ts.filterMap (·.provider? name) = [] ↔ ∀ u ∈ ts, ¬u.Provides name := by
  simp only [List.filterMap_eq_nil_iff, Transition.provider?_eq_none]

theorem timelines_withEdges_entered {u : Transition}
    (hu : u ∈ claimants ts t.timeline t.temporary) :
    ((d.entered ts).withEdges t).timelines = (d.entered (ts ++ [t])).timelines := by
  obtain ⟨hts, htimeline, htemporary⟩ := mem_claimants.mp hu
  apply timelines_updateTimeline_entered
  intro dt
  exact addTransition_entered_of_mem (List.mem_filter.mpr ⟨hts, by simp [htimeline]⟩) htemporary

theorem timelines_withClaim_entered (h : claimants ts t.timeline t.temporary = []) :
    ((d.entered ts).withClaim t).timelines = (d.entered (ts ++ [t])).timelines := by
  have htwice : (d.entered ts).withClaim t = (d.entered ts).updateTimeline t.timeline fun dt =>
      (dt.addTransition t).updateValue t.temporary (·.claim t) := by
    unfold Draft.withClaim Draft.withEdges Draft.updateTimeline
    simp only [Draft.mk.injEq, and_true]
    apply updateLast_updateLast
    intro dt
    rw [addTransition_eq]
  rw [htwice]
  apply timelines_updateTimeline_entered
  intro dt
  apply updateValue_addTransition_entered
  intro u hu htemporary
  obtain ⟨hts, htimeline⟩ := List.mem_filter.mp hu
  have hmem : u ∈ claimants ts t.timeline t.temporary :=
    mem_claimants.mpr ⟨hts, by simpa using htimeline, htemporary⟩
  rw [h] at hmem
  cases hmem

/-- A transition that is compatible with the ones before it is entered. -/
theorem enter_entered_of_compatible (hd : d.Unentered) (ht : d.Knows t)
    (hts : ∀ u ∈ ts, u.Compatible t) :
    ∃ claim, (d.entered ts).enter t = (d.entered (ts ++ [t]), .ok claim) := by
  suffices h : ∀ d' outcome, (d.entered ts).Enters t d' outcome →
      d' = d.entered (ts ++ [t]) ∧ ∃ claim, outcome = .ok claim by
    obtain ⟨hdraft, claim, houtcome⟩ := h _ _ (enters_enter (d.entered ts) t)
    exact ⟨claim, Prod.ext hdraft houtcome⟩
  obtain ⟨⟨dt, v, htimeline, hvalue⟩, hresource⟩ := ht
  intro d' outcome henters
  cases henters with
  | unknownTimeline hnone =>
    rw [timeline?_entered, htimeline] at hnone
    cases hnone
  | unknownValue htimeline' hnone =>
    rw [timeline?_entered, htimeline] at htimeline'
    obtain rfl := Option.some.inj htimeline'
    rw [value?_entered, hvalue] at hnone
    cases hnone
  | conflictingClaim htimeline' hvalue' hclaimed hfootprint =>
    obtain ⟨u, hu, v₀, rfl⟩ := claimant_of_claimed hd htimeline' hvalue' hclaimed
    obtain ⟨hmem, hut, hutmp⟩ := mem_claimants.mp hu
    have hsame := hasFootprint_claim (v := v₀).mpr ((hts u hmem).footprint hut hutmp)
    rw [hfootprint] at hsame
    cases hsame
  | providedAgain htimeline' hvalue' hclaimed hfootprint hprovides =>
    obtain ⟨u, hu, v₀, rfl⟩ := claimant_of_claimed hd htimeline' hvalue' hclaimed
    obtain ⟨hmem, hut, hutmp⟩ := mem_claimants.mp hu
    obtain ⟨-, heq, -⟩ := (hts u hmem).footprint hut hutmp
    exact absurd ⟨_, hprovides, rfl⟩ ((hts u hmem).providers _ ⟨_, heq.trans hprovides, rfl⟩)
  | merged htimeline' hvalue' hclaimed hfootprint hprovides =>
    obtain ⟨u, hu, -⟩ := claimant_of_claimed hd htimeline' hvalue' hclaimed
    refine ⟨Draft.eq_of_records (timelines_withEdges_entered hu) ?_, _, rfl⟩
    exact (resources_entered_concat_of_none d ts hprovides).symm
  | claimed htimeline' hvalue' hclaimed hprovides =>
    have hnil := claimants_of_unclaimed hd htimeline' hvalue' hclaimed
    refine ⟨Draft.eq_of_records (timelines_withClaim_entered hnil) ?_, _, rfl⟩
    exact (resources_entered_concat_of_none d ts hprovides).symm
  | notAResource htimeline' hvalue' hclaimed hprovides hnone =>
    obtain ⟨r, hr⟩ := hresource _ hprovides
    rw [resource?_entered, hr] at hnone
    cases hnone
  | secondProvider htimeline' hvalue' hclaimed hprovides hr hproviders =>
    rw [providers_of_entered hr, ne_eq, filterMap_provider?_eq_nil] at hproviders
    refine absurd (fun u hu hprov => ?_) hproviders
    exact (hts u hu).providers _ hprov ⟨_, hprovides, rfl⟩
  | provider htimeline' hvalue' hclaimed hprovides hr hproviders =>
    have hnil := claimants_of_unclaimed hd htimeline' hvalue' hclaimed
    refine ⟨Draft.eq_of_records (timelines_withClaim_entered hnil) ?_, _, rfl⟩
    exact resources_withProvider_entered d ts hprovides

end PlanTimelines
