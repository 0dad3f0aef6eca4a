import PlanTimelines.Proofs.DraftConsistency

/-! What a refused transition may leave behind in any draft: its edges, and in two of the six
ways to be refused the claim on its temporary value as well. Names of timelines and values may
occur again; only the record that a lookup finds is written to. -/

namespace PlanTimelines

/-- The timeline that is found under a name is replaced, and nothing else. -/
structure Draft.Replaces (d : Draft) (name : String) (dt dt' : DraftTimeline) (d' : Draft) :
    Prop where
  resources : d'.resources = d.resources
  timelines : ∃ before after, d.timelines = before ++ dt :: after ∧
    (∀ u ∈ after, u.name ≠ name) ∧ d'.timelines = before ++ dt' :: after

/-- What a refused transition may leave of a timeline that it was entered into. -/
structure Draft.LeavesBehind (d : Draft) (t : Transition) (dt dt' : DraftTimeline) : Prop where
  name : dt'.name = dt.name
  className : dt'.className = dt.className
  initial : dt'.initial = dt.initial
  goal : dt'.goal = dt.goal
  /-- The missing edges come last, each one once. -/
  edges : ∃ missing, dt'.edges = dt.edges ++ missing ∧ missing.Sublist t.edges ∧ missing.Nodup ∧
    ∀ edge ∈ missing, edge ∉ dt.edges
  valueNames : dt'.values.map DraftValue.name = dt.values.map DraftValue.name
  /-- At most the temporary value is claimed, and only for a resource that is unknown or has a
  provider already. -/
  values : dt'.values = dt.values ∨ ∃ before v after,
    dt.values = before ++ v :: after ∧ (∀ u ∈ before, u.name ≠ t.temporary) ∧
      v.name = t.temporary ∧ dt'.values = before ++ v.claim t :: after ∧ v.claimedBy = none ∧
      ∃ use, t.provides = some use ∧
        ∀ r, d.resource? use.resource = some r → r.providers ≠ []

variable {d d' : Draft} {t : Transition} {dt : DraftTimeline} {before after : List DraftTimeline}

/-! ## The timeline -/

theorem edges_addTransition_append (dt : DraftTimeline) (t : Transition) :
    ∃ missing, (dt.addTransition t).edges = dt.edges ++ missing ∧ missing.Sublist t.edges ∧
      missing.Nodup ∧ ∀ edge ∈ missing, edge ∉ dt.edges := by
  unfold DraftTimeline.addTransition Transition.edges
  rw [edges_addEdge, edges_addEdge]
  by_cases hin : (t.source, t.temporary) ∈ dt.edges
  · rw [if_pos hin]
    by_cases hout : (t.temporary, t.final) ∈ dt.edges
    · exact ⟨[], by simp [hout]⟩
    · exact ⟨[(t.temporary, t.final)], by simp [hout]⟩
  · rw [if_neg hin]
    by_cases hout : (t.temporary, t.final) ∈ dt.edges ++ [(t.source, t.temporary)]
    · exact ⟨[(t.source, t.temporary)], by simp [hin, hout]⟩
    · refine ⟨[(t.source, t.temporary), (t.temporary, t.final)], ?_⟩
      simp_all [eq_comm]

theorem leavesBehind_addTransition (d : Draft) (t : Transition) (dt : DraftTimeline) :
    d.LeavesBehind t dt (dt.addTransition t) := by
  have hedges := edges_addTransition_append dt t
  rw [addTransition_eq] at hedges ⊢
  exact ⟨rfl, rfl, rfl, rfl, hedges, rfl, .inl rfl⟩

theorem leavesBehind_claim {v : DraftValue} {use : ResourceUse}
    (hvalue : dt.value? t.temporary = some v) (hclaimed : v.claimedBy = none)
    (hprovides : t.provides = some use)
    (hresource : ∀ r, d.resource? use.resource = some r → r.providers ≠ []) :
    d.LeavesBehind t dt ((dt.addTransition t).updateValue t.temporary (·.claim t)) := by
  have hedges := edges_addTransition_append dt t
  obtain ⟨hname, before, after, hvalues, hbefore⟩ := List.find?_eq_some_iff_append.mp hvalue
  have hbefore' : ∀ u ∈ before, (u.name == t.temporary) = false := by simpa using hbefore
  have hupdate : updateFirst (·.name == t.temporary) (·.claim t) dt.values =
      before ++ v.claim t :: after := by
    rw [hvalues, updateFirst_append_cons hbefore' hname]
  rw [addTransition_eq] at hedges ⊢
  refine ⟨rfl, rfl, rfl, rfl, hedges, map_name_updateValue t _ _, .inr ⟨before, v, after, hvalues,
    by simpa using hbefore, by simpa using hname, hupdate, hclaimed, use, hprovides, hresource⟩⟩

/-! ## The draft -/

theorem timelines_withEdges (hdt : dt.name = t.timeline)
    (hafter : ∀ u ∈ after, u.name ≠ t.timeline) (h : d.timelines = before ++ dt :: after) :
    (d.withEdges t).timelines = before ++ dt.addTransition t :: after := by
  unfold Draft.withEdges Draft.updateTimeline
  simp only [h]
  exact updateLast_append_cons (by simpa using hdt) (by simpa using hafter)

theorem timelines_withClaim (hdt : dt.name = t.timeline)
    (hafter : ∀ u ∈ after, u.name ≠ t.timeline) (h : d.timelines = before ++ dt :: after) :
    (d.withClaim t).timelines =
      before ++ (dt.addTransition t).updateValue t.temporary (·.claim t) :: after := by
  have hname : (dt.addTransition t).name = t.timeline := by
    rw [addTransition_eq]
    exact hdt
  unfold Draft.withClaim Draft.updateTimeline
  simp only [timelines_withEdges hdt hafter h]
  exact updateLast_append_cons (by simpa using hname) (by simpa using hafter)

theorem split_of_timeline? (h : d.timeline? t.timeline = some dt) :
    dt.name = t.timeline ∧ ∃ before after, d.timelines = before ++ dt :: after ∧
      ∀ u ∈ after, u.name ≠ t.timeline := by
  obtain ⟨hname, before, after, htimelines, hafter⟩ := findLast?_eq_some_iff_append.mp h
  exact ⟨by simpa using hname, before, after, htimelines, by simpa using hafter⟩

theorem replaces_withEdges (h : d.timeline? t.timeline = some dt) :
    d.Replaces t.timeline dt (dt.addTransition t) (d.withEdges t) := by
  obtain ⟨hname, before, after, htimelines, hafter⟩ := split_of_timeline? h
  exact ⟨rfl, before, after, htimelines, hafter, timelines_withEdges hname hafter htimelines⟩

theorem replaces_withClaim (h : d.timeline? t.timeline = some dt) :
    d.Replaces t.timeline dt ((dt.addTransition t).updateValue t.temporary (·.claim t))
      (d.withClaim t) := by
  obtain ⟨hname, before, after, htimelines, hafter⟩ := split_of_timeline? h
  exact ⟨rfl, before, after, htimelines, hafter, timelines_withClaim hname hafter htimelines⟩

/-- A refused transition writes to no resource, and of the timelines to none but the one that is
found under its name; to none at all without that one. -/
theorem Draft.Enters.leavesBehind {e : ConversionError} (h : d.Enters t d' (.error e)) :
    (d.timeline? t.timeline = none ∧ d' = d) ∨
      ∃ dt dt', d.timeline? t.timeline = some dt ∧ d.Replaces t.timeline dt dt' d' ∧
        d.LeavesBehind t dt dt' := by
  cases h with
  | unknownTimeline htimeline => exact .inl ⟨htimeline, rfl⟩
  | unknownValue htimeline | conflictingClaim htimeline | providedAgain htimeline =>
    exact .inr ⟨_, _, htimeline, replaces_withEdges htimeline, leavesBehind_addTransition d t _⟩
  | notAResource htimeline hvalue hclaimed hprovides hresource =>
    refine .inr ⟨_, _, htimeline, replaces_withClaim htimeline,
      leavesBehind_claim hvalue hclaimed hprovides fun r hr => ?_⟩
    cases hresource.symm.trans hr
  | secondProvider htimeline hvalue hclaimed hprovides hresource hproviders =>
    refine .inr ⟨_, _, htimeline, replaces_withClaim htimeline,
      leavesBehind_claim hvalue hclaimed hprovides fun r hr => ?_⟩
    obtain rfl := Option.some.inj (hresource.symm.trans hr)
    exact hproviders

/-- What a refused transition has written. Of the records of a draft at most the timeline that is
found under its name differs; there, at most the edges of the transition are new and the
temporary value is claimed, and this only if it had no claim and the transition provides a
resource that is unknown or has a provider. -/
theorem enter_refused {e : ConversionError} (h : d.enter t = (d', .error e)) :
    (d.timeline? t.timeline = none → d' = d) ∧
      ∀ dt, d.timeline? t.timeline = some dt →
        ∃ dt', d.Replaces t.timeline dt dt' d' ∧ d.LeavesBehind t dt dt' := by
  rcases (enters_of_enter h).leavesBehind with ⟨hnone, rfl⟩ | ⟨dt, dt', hdt, hreplaces, hleaves⟩
  · refine ⟨fun _ => rfl, fun dt hdt => ?_⟩
    cases hnone.symm.trans hdt
  · refine ⟨fun hnone => ?_, fun dt₀ hdt₀ => ?_⟩
    · cases hnone.symm.trans hdt
    · obtain rfl := Option.some.inj (hdt.symm.trans hdt₀)
      exact ⟨dt', hreplaces, hleaves⟩

/-- A backup generator is refused as a second provider of power, when two timelines have its
name. The claim stays on the later one. -/
theorem backup_refused :
    ∃ (d d' : Draft) (t : Transition) (dt : DraftTimeline),
      d.enter t = (d', .error (.providerConflict "power" 2)) ∧
      d.timeline? t.timeline = some dt ∧
      (∃ dt', d.Replaces t.timeline dt dt' d' ∧ d.LeavesBehind t dt dt') ∧
      d.value? t.timeline t.temporary = some (.unclaimed "Running") ∧
      (d'.value? t.timeline t.temporary).bind DraftValue.claimedBy = some "run_backup" := by
  let backup : DraftTimeline := .ofValues "backup" "gen" ["Off", "Running"]
  let d : Draft := ⟨[backup, backup], [⟨"power", none, [⟨.named "gen", "Running", 2⟩]⟩]⟩
  let t : Transition :=
    ⟨"run_backup", "backup", "Off", "Running", "Off", 10, some ⟨"power", 3⟩, none⟩
  have henter : d.enter t = (d.withClaim t, .error (.providerConflict "power" 2)) := rfl
  exact ⟨d, d.withClaim t, t, backup, henter, rfl, (enter_refused henter).2 backup rfl, rfl, rfl⟩

end PlanTimelines
