import PlanTimelines.Example.Kitchen
import PlanTimelines.Proofs.ActionInstances
import PlanTimelines.Proofs.ProblemParts
import PlanTimelines.Proofs.RefusedActions

/-! Actions that a problem has already, under another name. The copy of an action makes the
same transitions again. Entered once more, a transition finds its edges drawn and its
temporary value claimed with its own footprint: it changes nothing, unless it provides a
resource, for then there are two providers. -/

namespace PlanTimelines

/-! ## Copies -/

def DurativeAction.rename (a : DurativeAction) (name : String) : DurativeAction :=
  { a with name := name }

/-- The action under another name. -/
def Action.rename (action : Action) (name : String) : Action :=
  match action with
  | .instantaneous a => .instantaneous { a with name := name }
  | .durative a => .durative (a.rename name)

def Transition.rename (t : Transition) (name : String) : Transition :=
  { t with action := name }

variable {d : Draft} {policy : EndConditions} {ts us : List Transition} {t u : Transition}

theorem DurativeAction.Makes.rename {a : DurativeAction} (h : a.Makes d policy t)
    (name : String) : (a.rename name).Makes d policy (t.rename name) :=
  { h with
    action := rfl
    provides := ⟨h.provides.same, h.provides.both⟩
    consumes := ⟨h.consumes.same, h.consumes.both⟩ }

/-- The copy of an action is read in the same way. -/
theorem ofAction_rename {action : Action} (h : Transition.ofAction d policy action = .ok t)
    (name : String) : Transition.ofAction d policy (action.rename name) = .ok (t.rename name) := by
  cases action with
  | instantaneous a => cases h
  | durative a => exact ofDurative_eq_ok_iff.mpr ((ofDurative_eq_ok_iff.mp h).rename name)

/-- The second is a copy of the first. -/
def Action.Copied (action copy : Action) : Prop :=
  ∃ name, copy = action.rename name

/-- The instances of a copy are copies of the instances. -/
theorem actionInstances_rename {table : DomainTable} {action : Action} {instances : List Action}
    (h : table.actionInstances action = .ok instances) (name : String) :
    ∃ copies, table.actionInstances (action.rename name) = .ok copies ∧
      List.Forall₂ Action.Copied instances copies := by
  cases action with
  | instantaneous a =>
    obtain rfl := Except.ok.inj h
    exact ⟨_, rfl, .cons ⟨name, rfl⟩ .nil⟩
  | durative a =>
    change ∃ copies, table.actionInstances (.durative (a.rename name)) = .ok copies ∧ _
    rw [actionInstances_eq_map] at h ⊢
    obtain ⟨axes, haxes, rfl⟩ := map_eq_ok.mp h
    have haxes' : table.axes name a.params = .ok axes := axes_eq_ok.mpr (axes_eq_ok.mp haxes)
    refine ⟨_, map_eq_ok.mpr ⟨axes, haxes', rfl⟩, ?_⟩
    refine List.forall₂_map_left_iff.mpr (List.forall₂_map_right_iff.mpr ?_)
    exact List.forall₂_same.mpr fun args _ => ⟨instanceName name args, rfl⟩

/-! ## Entering a copy -/

theorem addEdge_eq_self {dt : DraftTimeline} {source target : String}
    (h : (source, target) ∈ dt.edges) : dt.addEdge source target = dt :=
  if_pos h

/-- Edges that are there already are not drawn again. -/
theorem withEdges_eq_self (h : ∀ dt, d.timeline? t.timeline = some dt →
    (t.source, t.temporary) ∈ dt.edges ∧ (t.temporary, t.final) ∈ dt.edges) :
    d.withEdges t = d := by
  refine Draft.eq_of_records (updateLast_eq_self fun dt hdt => ?_) rfl
  obtain ⟨hin, hout⟩ := h dt hdt
  rw [DraftTimeline.addTransition, addEdge_eq_self hin, addEdge_eq_self hout]

theorem withEdges_entered_of_mem (hu : u ∈ ts) (name : String) :
    (d.entered ts).withEdges (u.rename name) = d.entered ts := by
  refine withEdges_eq_self fun dt hdt => ?_
  rw [timeline?_entered] at hdt
  obtain ⟨dt₀, -, rfl⟩ := Option.map_eq_some_iff.mp hdt
  have hedges : ∀ edge ∈ u.edges,
      edge ∈ (dt₀.entered (ts.filter (·.timeline == u.timeline))).edges := by
    intro edge hedge
    refine List.mem_eraseDups.mpr (List.mem_flatMap.mpr ⟨u, ?_, hedge⟩)
    simpa using hu
  exact ⟨hedges (u.source, u.temporary) (by simp [Transition.edges]),
    hedges (u.temporary, u.final) (by simp [Transition.edges])⟩

/-- A value that a transition leads through is claimed by the first one that does. -/
theorem exists_claim_entered (hu : u ∈ ts) (hknows : d.Knows u) :
    ∃ dt v w, (d.entered ts).timeline? u.timeline = some dt ∧ dt.value? u.temporary = some v ∧
      w ∈ claimants ts u.timeline u.temporary ∧
      v.claimedBy = some w.action ∧ ∀ t, v.hasFootprint t = true ↔ w.SameFootprint t := by
  obtain ⟨dt, v, hdt, hv⟩ := hknows.value
  have hmem : u ∈ claimants ts u.timeline u.temporary := mem_claimants.mpr ⟨hu, rfl, rfl⟩
  cases hclaimants : claimants ts u.timeline u.temporary with
  | nil =>
    rw [hclaimants] at hmem
    cases hmem
  | cons w rest =>
    refine ⟨_, v.claim w, w, (timeline?_entered d ts _).trans (congrArg _ hdt), ?_,
      List.mem_cons_self, rfl, fun t => hasFootprint_claim⟩
    change DraftTimeline.value? _ u.temporary = some (v.claimedFrom (w :: rest))
    rw [value?_entered, hv, ← hclaimants]
    rfl

/-- A transition that meets its own edges and a claim on its temporary value. -/
theorem enter_of_claimed {dt : DraftTimeline} {v : DraftValue} {claimedBy : String}
    (hedges : d.withEdges t = d) (hdt : d.timeline? t.timeline = some dt)
    (hv : dt.value? t.temporary = some v) (hclaimed : v.claimedBy = some claimedBy) :
    d.enter t = (d, d.reclaim t v claimedBy) := by
  have henter : d.enter t = (d.withEdges t, (d.withEdges t).reclaim t v claimedBy) := by
    unfold Draft.enter
    simp only [hdt, hv, hclaimed]
    rfl
  rw [henter, hedges]

theorem reclaim_of_hasFootprint {v : DraftValue} (h : v.hasFootprint t = true)
    (claimedBy : String) :
    d.reclaim t v claimedBy =
      match t.provides with
      | none => .ok .merged
      | some use =>
        .error (.providerConflict use.resource (d.providersWithOneMore use.resource)) := by
  unfold Draft.reclaim
  exact if_pos h

/-- The copy of an entered transition meets a claim with its own footprint. -/
theorem enter_entered_copy (hts : ts.Pairwise Transition.Compatible) (hu : u ∈ ts)
    (hknows : d.Knows u) (name : String) :
    (d.entered ts).enter (u.rename name) = (d.entered ts,
      match u.provides with
      | none => .ok .merged
      | some use => .error (.providerConflict use.resource 2)) := by
  obtain ⟨dt, v, w, hdt, hv, hw, hclaimed, hsame⟩ := exists_claim_entered hu hknows
  obtain ⟨hwts, htimeline, htemporary⟩ := mem_claimants.mp hw
  have hfootprint : w.SameFootprint u := footprint_of_pairwise hts hwts hu htimeline htemporary
  rw [enter_of_claimed (withEdges_entered_of_mem hu name) hdt hv hclaimed,
    reclaim_of_hasFootprint ((hsame (u.rename name)).mpr hfootprint)]
  show (_, match u.provides with | none => _ | some use => _) = _
  cases hprovides : u.provides with
  | none => rfl
  | some use =>
    obtain ⟨r, hr⟩ := hknows.resource use hprovides
    have hresource := (resource?_entered d ts _).trans (congrArg _ hr)
    simp only [providersWithOneMore_entered hts hu hprovides hresource]

/-! ## Runs over copies -/

/-- Copies of entered actions leave the draft as it is, up to the first that provides a
resource. -/
theorem enterAll_entered_copies (hts : ts.Pairwise Transition.Compatible)
    (hknows : ∀ t ∈ ts, d.Knows t) {actions copies : List Action}
    (hcopies : List.Forall₂ Action.Copied actions copies)
    (hus : actions.mapM (Transition.ofAction d policy) = .ok us) (hsubset : ∀ u ∈ us, u ∈ ts) :
    ((d.entered ts).enterAll policy copies).2 =
      match us.findSome? Transition.provides with
      | none => .ok (d.entered ts)
      | some use => .error (.providerConflict use.resource 2) := by
  induction hcopies generalizing us with
  | nil =>
    obtain rfl := pure_eq_ok.mp hus
    rfl
  | @cons action copy actions copies hcopy _ ih =>
    obtain ⟨name, rfl⟩ := hcopy
    rw [List.mapM_cons] at hus
    obtain ⟨u, hu, hus⟩ := bind_eq_ok.mp hus
    obtain ⟨us', hus', hus⟩ := bind_eq_ok.mp hus
    obtain rfl := pure_eq_ok.mp hus
    rw [List.forall_mem_cons] at hsubset
    have hcopied : (d.entered ts).transitionOf policy (action.rename name) =
        .ok (u.rename name) := by
      rw [transitionOf_entered, Draft.transitionOf, ofAction_rename hu]
    simp only [Draft.enterAll, hcopied,
      enter_entered_copy hts hsubset.1 (hknows u hsubset.1), List.findSome?_cons]
    cases u.provides with
    | none => exact ih hus' hsubset.2
    | some use => rfl

/-! ## The conversion -/

theorem actionInstances_addAction {p : Problem} {table : DomainTable} {action : Action}
    {actions instances : List Action} (hactions : p.actionInstances table = .ok actions)
    (hinstances : table.actionInstances action = .ok instances) :
    (p.addAction action).actionInstances table = .ok (actions ++ instances) := by
  obtain ⟨groups, hgroups, rfl⟩ := map_eq_ok.mp hactions
  unfold Problem.actionInstances Problem.addAction
  rw [List.mapM_append, hgroups, List.mapM_cons, hinstances]
  simp [bind, Except.bind, pure, Except.pure, Except.map]

/-- What an action of a problem makes is among the transitions of all actions. -/
theorem exists_transitions_of_mem {p : Problem} {table : DomainTable} {actions : List Action}
    (hactions : p.actionInstances table = .ok actions)
    (hts : actions.mapM (Transition.ofAction d policy) = .ok ts) {action : Action}
    (haction : action ∈ p.actions) : ∃ instances us, table.actionInstances action = .ok instances ∧
      instances.mapM (Transition.ofAction d policy) = .ok us ∧ ∀ u ∈ us, u ∈ ts := by
  obtain ⟨groups, hgroups, rfl⟩ := map_eq_ok.mp hactions
  obtain ⟨instances, hgroup, hinstances⟩ := exists_result_of_mem hgroups haction
  have hresult : ∀ i ∈ instances, ∃ u ∈ ts, Transition.ofAction d policy i = .ok u :=
    fun i hi => exists_result_of_mem hts (List.mem_flatten.mpr ⟨instances, hgroup, hi⟩)
  obtain ⟨us, hus⟩ := mapM_isOk.mpr fun i hi => (hresult i hi).imp fun _ h => h.2
  refine ⟨instances, us, hinstances, hus, fun u hu => ?_⟩
  obtain ⟨i, hi, hiu⟩ := exists_of_mem_mapM hus hu
  obtain ⟨t, ht, hit⟩ := hresult i hi
  obtain rfl := Except.ok.inj (hiu.symm.trans hit)
  exact ht

/-- A copy of an action of an accepted problem makes no difference to the result, unless an
instance of the action provides a resource; then the first resource so provided has two
providers. -/
theorem convert_addAction_rename {p : Problem} {settings : Settings} {out : TimelineProblem}
    (hout : p.convert settings = .ok out) {action : Action} (haction : action ∈ p.actions)
    (name : String) :
    ∃ fresh instances us, Draft.ofProblem p p.domains = .ok fresh ∧
      p.domains.actionInstances action = .ok instances ∧
      instances.mapM (Transition.ofAction fresh settings.endConditions) = .ok us ∧
      (p.addAction (action.rename name)).convert settings =
        match us.findSome? Transition.provides with
        | none => .ok out
        | some use => .error (.providerConflict use.resource 2) := by
  obtain ⟨d, actions, ts, table, hd, hactions, hts, hpairwise, htable, rfl⟩ :=
    convert_eq_ok.mp hout
  obtain ⟨instances, us, hinstances, hus, hsubset⟩ :=
    exists_transitions_of_mem hactions hts haction
  have hfresh : instances.mapM (Transition.ofAction d.withoutState settings.endConditions) =
      .ok us := by
    rw [(sameNames_withoutState d).mapM_ofAction_congr, hus]
  refine ⟨d.withoutState, instances, us, initialDraft_eq_ok hd, hinstances, hfresh, ?_⟩
  obtain ⟨copies, hcopies, hcopied⟩ := actionInstances_rename hinstances name
  have hdeclarations : p.SameDeclarations (p.addAction (action.rename name)) := ⟨rfl, rfl, rfl⟩
  have hunentered := unentered_initialDraft hd
  have henters := (enterAll_eq_ok hunentered).mpr ⟨ts, hts, hpairwise, rfl⟩
  have hus' : instances.mapM (Transition.ofAction (d.entered ts) settings.endConditions) =
      .ok us := by
    rw [(sameNames_entered d ts).mapM_ofAction_congr, hus]
  have hagain := enterAll_entered_copies hpairwise (knows_of_mapM hts) hcopied hus hsubset
  unfold Problem.convert
  rw [← hdeclarations.initialDraft_eq ⟨rfl, rfl, rfl, rfl⟩, ← hdeclarations.domains_eq, hd,
    actionInstances_addAction hactions hcopies]
  simp only [bind, Except.bind, enterAll_append, henters, hagain]
  cases us.findSome? Transition.provides with
  | none => simp only [htable, pure, Except.pure]
  | some use => rfl

/-- The kettle heated under two names is heated as before, and the generator run under two
names provides power twice. -/
theorem kitchen_copied :
    ∃ out, Example.Kitchen.problem.convert .default = .ok out ∧
      Action.durative Example.Kitchen.heat ∈ Example.Kitchen.problem.actions ∧
      Action.durative Example.Kitchen.run ∈ Example.Kitchen.problem.actions ∧
      (Example.Kitchen.problem.addAction
        ((Action.durative Example.Kitchen.heat).rename "heat_again")).convert .default =
          .ok out ∧
      (Example.Kitchen.problem.addAction
        ((Action.durative Example.Kitchen.run).rename "run_again")).convert .default =
          .error (.providerConflict "power" 2) := by
  obtain ⟨out, hout⟩ : ∃ out, Example.Kitchen.problem.convert .default = .ok out := ⟨_, rfl⟩
  have hheat : Action.durative Example.Kitchen.heat ∈ Example.Kitchen.problem.actions :=
    List.mem_cons_of_mem _ List.mem_cons_self
  have hrun : Action.durative Example.Kitchen.run ∈ Example.Kitchen.problem.actions :=
    List.mem_cons_self
  obtain ⟨fresh, _, us, hfresh, hinstances, hus, hcopy⟩ :=
    convert_addAction_rename hout hheat "heat_again"
  obtain ⟨fresh', _, us', hfresh', hinstances', hus', hcopy'⟩ :=
    convert_addAction_rename hout hrun "run_again"
  obtain rfl := Except.ok.inj hfresh
  obtain rfl := Except.ok.inj hinstances
  obtain rfl := Except.ok.inj hus
  obtain rfl := Except.ok.inj hfresh'
  obtain rfl := Except.ok.inj hinstances'
  obtain rfl := Except.ok.inj hus'
  exact ⟨out, hout, hheat, hrun, hcopy, hcopy'⟩

end PlanTimelines
