import PlanTimelines.Example.Kitchen
import PlanTimelines.Proofs.EnteredActions
import PlanTimelines.Proofs.EnteredSupply
import PlanTimelines.Proofs.Occurrences
import PlanTimelines.Proofs.ProblemParts
import PlanTimelines.Proofs.TokenTypes

/-! The order of the actions. It decides which action claims a value first and which
provides a resource first, and it is the order in which neighbours of a value are listed;
nothing else in the result of a conversion depends on it. -/

namespace PlanTimelines

/-! ## Results up to the order of neighbours -/

/-- Conditions that are equal but for the order of the values before or after a token. -/
inductive Condition.Alike : Condition → Condition → Prop where
  | same (c : Condition) : Alike c c
  | reordered {links links' : List Link} {relation : Relation}
    (hrelation : relation = .metBy ∨ relation = .meets)
    (hlinks : (Condition.anyOf links).relation? = some relation) (hperm : links.Perm links') :
    Alike (.anyOf links) (.anyOf links')

structure TokenType.Alike (a b : TokenType) : Prop where
  value : a.value = b.value
  conditions : List.Forall₂ Condition.Alike a.conditions b.conditions
  duration : a.duration = b.duration
  capacity : a.capacity = b.capacity

structure Timeline.Alike (a b : Timeline) : Prop where
  name : a.name = b.name
  tokenTypes : List.Forall₂ TokenType.Alike a.tokenTypes b.tokenTypes
  staticTokens : a.staticTokens = b.staticTokens

/-- The same timelines, values and tokens in the same order, with the same durations,
capacities and suppliers; only the neighbours of a value may be listed in another order. -/
def TimelineProblem.Alike (a b : TimelineProblem) : Prop :=
  List.Forall₂ Timeline.Alike a.timelines b.timelines

/-! ## Drafts up to the order of actions -/

/-- Values that the same claims have been made on, perhaps first by another action. -/
structure DraftValue.Alike (a b : DraftValue) : Prop where
  name : a.name = b.name
  consumes : a.consumes = b.consumes
  provides : a.provides = b.provides
  duration : a.duration = b.duration

structure DraftTimeline.Alike (a b : DraftTimeline) : Prop where
  name : a.name = b.name
  initial : a.initial = b.initial
  goal : a.goal = b.goal
  edges : a.edges.Perm b.edges
  values : List.Forall₂ DraftValue.Alike a.values b.values

theorem DraftValue.Alike.refl (v : DraftValue) : v.Alike v :=
  ⟨rfl, rfl, rfl, rfl⟩

theorem DraftTimeline.Alike.refl (dt : DraftTimeline) : dt.Alike dt :=
  ⟨rfl, rfl, rfl, .refl _, List.forall₂_same.mpr fun v _ => .refl v⟩

variable {d : Draft} {ts ts' : List Transition}

/-- The claim on a value does not depend on which of the transitions comes first. -/
theorem claimedFrom_alike (v : DraftValue) (hperm : ts.Perm ts')
    (h : ∀ t ∈ ts, ∀ u ∈ ts,
      t.duration = u.duration ∧ t.provides = u.provides ∧ t.consumes = u.consumes) :
    (v.claimedFrom ts).Alike (v.claimedFrom ts') := by
  cases ts with
  | nil =>
    rw [hperm.nil_eq]
    exact .refl _
  | cons t rest =>
    cases ts' with
    | nil => cases hperm.eq_nil
    | cons u rest' =>
      obtain ⟨hduration, hprovides, hconsumes⟩ :=
        h t List.mem_cons_self u (hperm.mem_iff.mpr List.mem_cons_self)
      exact ⟨rfl, congrArg Option.toList hconsumes, hprovides, congrArg some hduration⟩

theorem timelines_entered_alike (d : Draft) (hts : ts.Pairwise Transition.Compatible)
    (hperm : ts.Perm ts') :
    List.Forall₂ DraftTimeline.Alike (d.entered ts).timelines (d.entered ts').timelines := by
  refine forall₂_mapLasts DraftTimeline.Alike.refl (fun name dt => ?_) d.timelines
  have hown := hperm.filter (·.timeline == name)
  refine ⟨rfl, rfl, rfl, perm_eraseDups (hown.flatMap_right Transition.edges), ?_⟩
  refine forall₂_mapFirsts DraftValue.Alike.refl (fun value v => ?_) dt.values
  refine claimedFrom_alike v (hown.filter _) fun t ht u hu => ?_
  obtain ⟨htmem, htline, htvalue⟩ := mem_claimants.mp ht
  obtain ⟨humem, huline, huvalue⟩ := mem_claimants.mp hu
  exact footprint_of_pairwise hts htmem humem (htline.trans huline.symm)
    (htvalue.trans huvalue.symm)

/-- With one provider each, the resources are supplied in the same way. -/
theorem supply_entered_perm {table : SupplyTable} (hperm : ts.Perm ts')
    (h : (d.entered ts).supply = .ok table) : (d.entered ts').supply = .ok table := by
  obtain ⟨rows, hrows, rfl⟩ := map_eq_ok.mp h
  refine map_eq_ok.mpr ⟨rows, mapM_of_forall₂
    (R := fun r r' => r.name = r'.name ∧ r.providers.Perm r'.providers) ?_ ?_ hrows, rfl⟩
  · rintro r r' row ⟨hname, hproviders⟩ hrow
    rw [supplyRow_eq_ok, timelineClasses_entered] at hrow ⊢
    obtain ⟨provider, hprovider, hresolve, rfl⟩ := hrow
    rw [hprovider] at hproviders
    exact ⟨provider, List.perm_singleton.mp hproviders.symm, hresolve, by rw [hname]⟩
  · exact forall₂_mapLasts (fun r => ⟨rfl, .refl _⟩)
      (fun name r => ⟨rfl, hperm.filterMap _⟩) d.resources

/-! ## Synthesis -/

theorem ofLinks_alike {links links' : List Link} {relation : Relation}
    (hrelation : relation = .metBy ∨ relation = .meets) (h : ∀ l ∈ links, l.relation = relation)
    (hperm : links.Perm links') :
    List.Forall₂ Condition.Alike (Condition.ofLinks links) (Condition.ofLinks links') := by
  cases links with
  | nil =>
    obtain rfl := hperm.nil_eq
    exact .nil
  | cons l rest =>
    cases links' with
    | nil => cases hperm.eq_nil
    | cons l' rest' =>
      have hlinks : (Condition.anyOf (l :: rest)).relation? = some relation :=
        Condition.relation?_eq_some_iff.mpr ⟨by simp [Condition.links], h⟩
      exact .cons (.reordered hrelation hlinks hperm) .nil

theorem predecessors_perm {a b : DraftTimeline} (h : a.edges.Perm b.edges) (value : String) :
    (a.predecessors value).Perm (b.predecessors value) :=
  (h.filter _).map _

theorem successors_perm {a b : DraftTimeline} (h : a.edges.Perm b.edges) (value : String) :
    (a.successors value).Perm (b.successors value) :=
  (h.filter _).map _

theorem tokenType_alike {a b : DraftTimeline} {v w : DraftValue} (table : SupplyTable)
    (minDuration : UInt32) (h : a.Alike b) (hv : v.Alike w) :
    (a.tokenType table minDuration v).Alike (b.tokenType table minDuration w) := by
  obtain ⟨hname, hconsumes, -, hduration⟩ := hv
  refine ⟨hname, ?_, ?_, ?_⟩
  · have hcover : DraftTimeline.coverLinks table v = DraftTimeline.coverLinks table w := by
      unfold DraftTimeline.coverLinks
      rw [hconsumes]
    have hmetBy : (a.metByLinks v).Perm (b.metByLinks w) := by
      unfold DraftTimeline.metByLinks
      rw [h.name, hname]
      exact (predecessors_perm h.edges w.name).map _
    have hmeets : (a.meetsLinks v).Perm (b.meetsLinks w) := by
      unfold DraftTimeline.meetsLinks
      rw [h.name, hname, hduration]
      split
      · exact (successors_perm h.edges w.name).map _
      · exact .refl _
    refine List.rel_append (List.rel_append ?_ (ofLinks_alike (.inl rfl) ?_ hmetBy))
      (ofLinks_alike (.inr rfl) ?_ hmeets)
    · rw [hcover]
      exact List.forall₂_same.mpr fun c _ => .same c
    · exact relation_of_mem_metByLinks a v
    · exact relation_of_mem_meetsLinks a v
  · simp only [DraftTimeline.tokenType, hduration]
  · simp only [DraftTimeline.tokenType, h.name, hname]

theorem synthesize_alike {a b : DraftTimeline} (table : SupplyTable) (minDuration : UInt32)
    (h : a.Alike b) :
    (a.synthesize table minDuration).Alike (b.synthesize table minDuration) := by
  refine ⟨h.name, ?_, ?_⟩
  · refine List.forall₂_map_left_iff.mpr (List.forall₂_map_right_iff.mpr ?_)
    exact h.values.imp fun v w hv => tokenType_alike table minDuration h hv
  · simp only [DraftTimeline.synthesize, DraftTimeline.staticTokens, h.initial, h.goal]

/-! ## The conversion -/

theorem actionInstances_perm {p p' : Problem} {table : DomainTable} {instances : List Action}
    (hperm : p.actions.Perm p'.actions) (h : p.actionInstances table = .ok instances) :
    ∃ instances', p'.actionInstances table = .ok instances' ∧ instances.Perm instances' := by
  obtain ⟨groups, hgroups, rfl⟩ := map_eq_ok.mp h
  obtain ⟨groups', hgroups', hgperm⟩ := mapM_perm hperm hgroups
  exact ⟨_, map_eq_ok.mpr ⟨groups', hgroups', rfl⟩, hgperm.flatten⟩

/-- One direction: the other problem is accepted as well, with a result alike. -/
theorem convert_of_actions_perm {p p' : Problem} {settings : Settings} {out : TimelineProblem}
    (hdeclarations : p.SameDeclarations p') (hstate : p.SameState p')
    (hactions : p.actions.Perm p'.actions) (hout : p.convert settings = .ok out) :
    ∃ out', p'.convert settings = .ok out' ∧ out.Alike out' := by
  obtain ⟨d, actions, ts, table, hd, hinstances, hts, hpairwise, htable, rfl⟩ :=
    convert_eq_ok.mp hout
  obtain ⟨actions', hinstances', hperm⟩ := actionInstances_perm hactions hinstances
  obtain ⟨ts', hts', htsperm⟩ := mapM_perm hperm hts
  rw [hdeclarations.initialDraft_eq hstate] at hd
  rw [hdeclarations.domains_eq] at hinstances'
  have hpairwise' := htsperm.pairwise hpairwise Transition.Compatible.symm
  refine ⟨_, convert_eq_ok.mpr ⟨d, actions', ts', table, hd, hinstances', hts', hpairwise',
    supply_entered_perm htsperm htable, rfl⟩, ?_⟩
  refine List.forall₂_map_left_iff.mpr (List.forall₂_map_right_iff.mpr ?_)
  exact (timelines_entered_alike d hpairwise htsperm).imp fun _ _ h =>
    synthesize_alike table settings.unboundedMinDuration h

/-- Problems that differ in the order of their actions only are both accepted or both
refused, and their results are alike. -/
theorem convert_actions_perm (p : Problem) {actions : List Action}
    (hactions : p.actions.Perm actions) (settings : Settings) :
    ((∃ out, p.convert settings = .ok out) ↔
      ∃ out, { p with actions := actions }.convert settings = .ok out) ∧
    ∀ out out', p.convert settings = .ok out →
      { p with actions := actions }.convert settings = .ok out' → out.Alike out' := by
  have hdeclarations : p.SameDeclarations { p with actions := actions } := ⟨rfl, rfl, rfl⟩
  have hstate : p.SameState { p with actions := actions } := ⟨rfl, rfl, rfl, rfl⟩
  refine ⟨⟨?_, ?_⟩, fun out out' hout hout' => ?_⟩
  · intro h
    obtain ⟨out, hout⟩ := h
    obtain ⟨out', hout', -⟩ := convert_of_actions_perm hdeclarations hstate hactions hout
    exact ⟨out', hout'⟩
  · intro h
    obtain ⟨out, hout⟩ := h
    obtain ⟨out', hout', -⟩ :=
      convert_of_actions_perm hdeclarations.symm hstate.symm hactions.symm hout
    exact ⟨out', hout'⟩
  · obtain ⟨out₁, hout₁, halike⟩ := convert_of_actions_perm hdeclarations hstate hactions hout
    obtain rfl := Except.ok.inj (hout₁.symm.trans hout')
    exact halike

/-- The kitchen with its actions in the other order. -/
theorem kitchen_reversed_alike :
    ∃ out out', Example.Kitchen.problem.convert .default = .ok out ∧
      { Example.Kitchen.problem with
        actions := Example.Kitchen.problem.actions.reverse }.convert .default = .ok out' ∧
      out.Alike out' := by
  obtain ⟨haccepted, halike⟩ :=
    convert_actions_perm Example.Kitchen.problem (List.reverse_perm _).symm .default
  obtain ⟨out', hout'⟩ := haccepted.mp ⟨_, rfl⟩
  exact ⟨_, out', rfl, hout', halike _ out' rfl hout'⟩

end PlanTimelines
