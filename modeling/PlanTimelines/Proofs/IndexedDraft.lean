import PlanTimelines.Draft.Indexed
import PlanTimelines.Proofs.NameIndex
import PlanTimelines.Proofs.OutputReferences

/-! Drafts with indexes. A draft with indexes is as good as the draft alone: every lookup, every
change and every step has the result that it has there, and none comes to an end at a place
without a record. So it is after any calls that register records and write into them, in any
order and refused or not, on a draft that was empty at first. A conversion makes such calls. -/

namespace PlanTimelines

namespace Draft

/-- What can be asked of a draft that changes it. -/
inductive Call where
  | register (table : DomainTable) (i : FluentInstance)
  | addTimeline (t : DraftTimeline)
  | addResource (r : DraftResource)
  | addInitialValues (p : Problem) (table : DomainTable)
  | addGoals (p : Problem)
  | enter (t : Transition)

namespace Call

/-- The timeline that a call registers. -/
def timeline? : Call → Option DraftTimeline
  | .register table i => i.timeline? table
  | .addTimeline t => some t
  | _ => none

/-- The resource that a call registers. -/
def resource? : Call → Option DraftResource
  | .register _ i => i.resource?
  | .addResource r => some r
  | _ => none

end Call

/-- The records as calls register them, with nothing written into them later. -/
def registered (calls : List Call) : Draft :=
  ⟨calls.filterMap Call.timeline?, calls.filterMap Call.resource?⟩

/-- The records of two drafts, those of the second one later. -/
def append (d d' : Draft) : Draft :=
  ⟨d.timelines ++ d'.timelines, d.resources ++ d'.resources⟩

/-- The draft that a call leaves, whether it was refused or not. -/
def perform (d : Draft) : Call → Draft
  | .register table i =>
    match d.register table i with
    | .error _ => d
    | .ok (d', _) => d'
  | .addTimeline t => d.addTimeline t
  | .addResource r => d.addResource r
  | .addInitialValues p table => (d.addInitialValues p table).1
  | .addGoals p => (d.addGoals p).1
  | .enter t => (d.enter t).1

end Draft

/-- The draft that a call leaves, unless the call runs into a place without a record. -/
def IndexedDraft.perform (x : IndexedDraft) : Draft.Call → Except Dangling IndexedDraft
  | .register table i =>
    match x.register table i with
    | .error _ => .ok x
    | .ok (x', _) => .ok x'
  | .addTimeline t => .ok (x.addTimeline t)
  | .addResource r => .ok (x.addResource r)
  | .addInitialValues p table => (x.addInitialValues p table).map Prod.fst
  | .addGoals p => (x.addGoals p).map Prod.fst
  | .enter t => (x.enter t).map Prod.fst

variable (d : Draft)

@[simp] theorem draft_indexed : d.indexed.draft = d := by
  unfold IndexedDraft.draft Draft.indexed
  rw [records_ofRecords, records_ofRecords]

/-! ## By name -/

@[simp] theorem addTimeline_indexed (t : DraftTimeline) :
    d.indexed.addTimeline t = (d.addTimeline t).indexed := by
  simp [IndexedDraft.addTimeline, Draft.addTimeline, Draft.indexed, ofRecords_concat]

@[simp] theorem addResource_indexed (r : DraftResource) :
    d.indexed.addResource r = (d.addResource r).indexed := by
  simp [IndexedDraft.addResource, Draft.addResource, Draft.indexed, ofRecords_concat]

@[simp] theorem timeline?_indexed (name : String) :
    d.indexed.timeline? name = .ok (d.timeline? name) :=
  lookup_ofRecords d.timelines name

@[simp] theorem resource?_indexed (name : String) :
    d.indexed.resource? name = .ok (d.resource? name) :=
  lookup_ofRecords d.resources name

theorem updateTimeline_indexed (name : String) {f : DraftTimeline → DraftTimeline}
    (hf : ∀ t, (f t).name = t.name) :
    d.indexed.updateTimeline name f = .ok (d.updateTimeline name f).indexed := by
  have hupdate := update_ofRecords hf d.timelines name
  unfold IndexedDraft.updateTimeline Draft.indexed
  rw [hupdate]
  rfl

theorem updateResource_indexed (name : String) {f : DraftResource → DraftResource}
    (hf : ∀ r, (f r).name = r.name) :
    d.indexed.updateResource name f = .ok (d.updateResource name f).indexed := by
  have hupdate := update_ofRecords hf d.resources name
  unfold IndexedDraft.updateResource Draft.indexed
  rw [hupdate]
  rfl

theorem kind?_indexed (name : String) : d.indexed.kind? name = d.kind? name := by
  have htimeline : d.indexed.timelines.index.contains name = (d.timeline? name).isSome :=
    contains_ofRecords d.timelines name
  have hresource : d.indexed.resources.index.contains name = (d.resource? name).isSome :=
    contains_ofRecords d.resources name
  unfold IndexedDraft.kind? Draft.kind?
  rw [htimeline, hresource]

theorem register_indexed (table : DomainTable) (i : FluentInstance) :
    d.indexed.register table i = (d.register table i).map fun (d', kind) => (d'.indexed, kind) := by
  unfold IndexedDraft.register Draft.register
  split
  · rw [addResource_indexed]
    rfl
  · cases table.ofValueType? i.valueType with
    | none => rfl
    | some values =>
      simp only [addTimeline_indexed]
      rfl

/-! ## Initial values and goals -/

theorem initialFault?_indexed (key : String) (value : Term) :
    d.indexed.initialFault? key value = .ok (d.initialFault? key value) := by
  unfold IndexedDraft.initialFault? Draft.initialFault?
  rw [resource?_indexed, ok_bind]
  cases d.resource? key with
  | some r => rfl
  | none =>
    simp only [timeline?_indexed, ok_bind]
    cases d.timeline? key <;> rfl

theorem writeInitial_indexed (key : String) (value : Term) :
    d.indexed.writeInitial key value = .ok (d.writeInitial key value).indexed := by
  unfold IndexedDraft.writeInitial Draft.writeInitial
  rw [resource?_indexed, ok_bind]
  cases d.resource? key with
  | some r => exact updateResource_indexed d key fun _ => rfl
  | none => exact updateTimeline_indexed d key fun _ => rfl

theorem addInitial_indexed (entry : InitialEntry) :
    d.indexed.addInitial entry = .ok ((d.addInitial entry).map Draft.indexed) := by
  unfold IndexedDraft.addInitial Draft.addInitial
  cases entry with
  | error e => rfl
  | ok entry =>
    simp only [initialFault?_indexed, ok_bind]
    cases d.initialFault? entry.1 entry.2 with
    | some fault => rfl
    | none =>
      simp only [writeInitial_indexed, ok_bind]
      rfl

theorem goalTarget_indexed (goal : Term) :
    d.indexed.goalTarget goal = .ok (d.goalTarget goal) := by
  cases goal with
  | eq lhs rhs =>
    unfold IndexedDraft.goalTarget Draft.goalTarget
    simp only
    cases lhs.stateVar?.bind StateVar.key? with
    | none => rfl
    | some key =>
      simp only [resource?_indexed, ok_bind]
      cases d.resource? key with
      | some r => rfl
      | none =>
        simp only [timeline?_indexed, ok_bind]
        cases d.timeline? key with
        | none => rfl
        | some t =>
          simp only
          cases rhs.valueName? <;> rfl
  | _ => rfl

theorem addGoal_indexed (goal : Term) :
    d.indexed.addGoal goal = .ok ((d.addGoal goal).map Draft.indexed) := by
  unfold IndexedDraft.addGoal Draft.addGoal
  rw [goalTarget_indexed, ok_bind]
  cases d.goalTarget goal with
  | error fault => rfl
  | ok target =>
    simp only
    rw [updateTimeline_indexed d _ (by intro t; rfl)]
    rfl

theorem runStepsOrEnd_indexed {α ε : Type} {step : Draft → α → Except ε Draft}
    {step' : IndexedDraft → α → Except Dangling (Except ε IndexedDraft)}
    (h : ∀ d a, step' (Draft.indexed d) a = .ok ((step d a).map Draft.indexed)) (as : List α) :
    runStepsOrEnd step' d.indexed as =
      .ok ((runSteps step d as).1.indexed, (runSteps step d as).2) := by
  induction as generalizing d with
  | nil => rfl
  | cons a rest ih =>
    rw [runStepsOrEnd, runSteps, h, ok_bind]
    cases step d a with
    | error e => rfl
    | ok d' => exact ih d'

theorem addInitialValues_indexed (p : Problem) (table : DomainTable) :
    d.indexed.addInitialValues p table =
      .ok ((d.addInitialValues p table).1.indexed, (d.addInitialValues p table).2) :=
  runStepsOrEnd_indexed d addInitial_indexed _

theorem addGoals_indexed (p : Problem) :
    d.indexed.addGoals p = .ok ((d.addGoals p).1.indexed, (d.addGoals p).2) :=
  runStepsOrEnd_indexed d addGoal_indexed _

/-! ## Transitions -/

variable (t : Transition)

theorem addProvider_indexed (use : ResourceUse) :
    d.indexed.addProvider t use =
      .ok ((d.addProvider t use).1.indexed, (d.addProvider t use).2) := by
  unfold IndexedDraft.addProvider Draft.addProvider Draft.providersWithOneMore
  rw [resource?_indexed, ok_bind]
  cases d.resource? use.resource with
  | none => rfl
  | some r =>
    simp only
    split
    · rw [updateResource_indexed d use.resource (by intro r; rfl)]
      rfl
    · rfl

theorem claimValue_indexed :
    d.indexed.claimValue t = .ok ((d.claimValue t).1.indexed, (d.claimValue t).2) := by
  unfold IndexedDraft.claimValue Draft.claimValue
  rw [updateTimeline_indexed d t.timeline (by intro dt; rfl), ok_bind]
  cases t.provides with
  | none => rfl
  | some use => exact addProvider_indexed _ t use

theorem reclaim_indexed (v : DraftValue) (claimedBy : String) :
    d.indexed.reclaim t v claimedBy = .ok (d.reclaim t v claimedBy) := by
  unfold IndexedDraft.reclaim Draft.reclaim Draft.providersWithOneMore
  split
  · cases t.provides with
    | none => rfl
    | some use =>
      simp only [resource?_indexed, ok_bind]
      rfl
  · rfl

theorem enter_indexed : d.indexed.enter t = .ok ((d.enter t).1.indexed, (d.enter t).2) := by
  have hedges : ∀ dt : DraftTimeline, (dt.addTransition t).name = dt.name := by
    intro dt
    rw [addTransition_eq]
  unfold IndexedDraft.enter Draft.enter
  rw [timeline?_indexed, ok_bind]
  cases d.timeline? t.timeline with
  | none => rfl
  | some dt =>
    simp only [updateTimeline_indexed d t.timeline hedges, ok_bind]
    cases dt.value? t.temporary with
    | none => rfl
    | some v =>
      simp only
      cases v.claimedBy with
      | none => exact claimValue_indexed _ t
      | some claimedBy =>
        simp only [reclaim_indexed, ok_bind]
        rfl

/-! ## Runs of calls -/

theorem perform_indexed (call : Draft.Call) :
    d.indexed.perform call = .ok (d.perform call).indexed := by
  cases call with
  | register table i =>
    simp only [IndexedDraft.perform, Draft.perform, register_indexed]
    cases d.register table i <;> rfl
  | addTimeline t => exact congrArg Except.ok (addTimeline_indexed d t)
  | addResource r => exact congrArg Except.ok (addResource_indexed d r)
  | addInitialValues p table =>
    simp only [IndexedDraft.perform, addInitialValues_indexed]
    rfl
  | addGoals p =>
    simp only [IndexedDraft.perform, addGoals_indexed]
    rfl
  | enter t =>
    simp only [IndexedDraft.perform, enter_indexed]
    rfl

theorem foldlM_perform_indexed (calls : List Draft.Call) :
    calls.foldlM IndexedDraft.perform d.indexed = .ok (calls.foldl Draft.perform d).indexed := by
  induction calls generalizing d with
  | nil => rfl
  | cons call rest ih => rw [List.foldlM_cons, perform_indexed, ok_bind, ih, List.foldl_cons]

/-! ## Names of a run -/

variable {d}

theorem Draft.append_empty (d : Draft) : d.append .empty = d := by
  simp [Draft.append, Draft.empty]

theorem Draft.append_assoc (d d' d'' : Draft) :
    (d.append d').append d'' = d.append (d'.append d'') := by
  simp [Draft.append]

theorem Draft.SameNames.append {d' e e' : Draft} (h : d.SameNames e) (h' : d'.SameNames e') :
    (d.append d').SameNames (e.append e') := by
  constructor
  · have htimelines := congrArg₂ (· ++ ·) h.timelines h'.timelines
    simpa [Draft.timelineNames, Draft.append] using htimelines
  · have hresources := congrArg₂ (· ++ ·) h.resources h'.resources
    simpa [Draft.resourceNames, Draft.append] using hresources

theorem registered_append (calls calls' : List Draft.Call) :
    Draft.registered (calls ++ calls') =
      (Draft.registered calls).append (Draft.registered calls') := by
  simp [Draft.registered, Draft.append]

theorem registered_singleton (call : Draft.Call) :
    Draft.registered [call] = ⟨call.timeline?.toList, call.resource?.toList⟩ := by
  cases htimeline : call.timeline? <;> cases hresource : call.resource? <;>
    simp [Draft.registered, htimeline, hresource]

/-- An instance that is refused has no record to add. -/
theorem perform_register (table : DomainTable) (i : FluentInstance) :
    d.perform (.register table i) = d.append (.registered [.register table i]) := by
  simp only [Draft.perform, Draft.register, Draft.append, registered_singleton,
    Draft.Call.timeline?, Draft.Call.resource?, FluentInstance.timeline?, FluentInstance.resource?]
  cases i.isResource with
  | true => simp [Draft.addResource]
  | false => cases table.ofValueType? i.valueType <;> simp [Draft.addTimeline]

theorem perform_addTimeline (t : DraftTimeline) :
    d.perform (.addTimeline t) = d.append (.registered [.addTimeline t]) := by
  simp [Draft.perform, Draft.addTimeline, Draft.append, registered_singleton,
    Draft.Call.timeline?, Draft.Call.resource?]

theorem perform_addResource (r : DraftResource) :
    d.perform (.addResource r) = d.append (.registered [.addResource r]) := by
  simp [Draft.perform, Draft.addResource, Draft.append, registered_singleton,
    Draft.Call.timeline?, Draft.Call.resource?]

/-- A call changes no names, and adds those of what it registers. -/
theorem sameNames_perform (d : Draft) (call : Draft.Call) :
    (d.perform call).SameNames (d.append (.registered [call])) := by
  cases call with
  | register table i => exact perform_register table i ▸ .refl _
  | addTimeline t => exact perform_addTimeline t ▸ .refl _
  | addResource r => exact perform_addResource r ▸ .refl _
  | addInitialValues p table =>
    have hsame := sameNames_of_withoutState_eq (withoutState_addInitialValues d p table)
    exact hsame.trans (d.append_empty.symm ▸ .refl d)
  | addGoals p =>
    have hsame := sameNames_of_withoutState_eq (withoutState_addGoals d p)
    exact hsame.trans (d.append_empty.symm ▸ .refl d)
  | enter t =>
    have hsame := (enters_enter d t).sameNames
    exact hsame.trans (d.append_empty.symm ▸ .refl d)

theorem sameNames_foldl_perform (d : Draft) (calls : List Draft.Call) :
    (calls.foldl Draft.perform d).SameNames (d.append (.registered calls)) := by
  induction calls generalizing d with
  | nil => exact d.append_empty.symm ▸ .refl d
  | cons call rest ih =>
    have hcall := (sameNames_perform d call).append (.refl (.registered rest))
    rw [← List.singleton_append, registered_append, ← Draft.append_assoc]
    exact (ih _).trans hcall

/-! ## The drafts of a conversion -/

theorem foldl_perform_register (d : Draft) (table : DomainTable) (instances : List FluentInstance) :
    (instances.map (.register table)).foldl Draft.perform d = d.withInstances table instances := by
  induction instances generalizing d with
  | nil => exact d.withInstances_nil.symm
  | cons i rest ih =>
    have hfirst : d.perform (.register table i) = d.withInstances table [i] :=
      perform_register table i
    rw [List.map_cons, List.foldl_cons, ih, hfirst, Draft.withInstances_append]
    rfl

theorem exists_calls_of_initialDraft {p : Problem} (h : p.initialDraft = .ok d) :
    ∃ calls : List Draft.Call, calls.foldl Draft.perform .empty = d := by
  obtain ⟨fresh, hfresh, h⟩ := bind_eq_ok.mp h
  obtain ⟨_, -, h⟩ := bind_eq_ok.mp h
  obtain ⟨_, -, h⟩ := bind_eq_ok.mp h
  obtain ⟨groups, -, -, rfl⟩ := ofProblem_eq_ok.mp hfresh
  refine ⟨groups.flatten.map (.register p.domains) ++ [.addInitialValues p p.domains, .addGoals p],
    ?_⟩
  rw [List.foldl_append, foldl_perform_register]
  exact pure_eq_ok.mp h

theorem exists_calls_of_reaches {d d' : Draft} {outcomes : List (Except ConversionError Claim)}
    (hd : ∃ calls : List Draft.Call, calls.foldl Draft.perform .empty = d)
    (h : d.Reaches d' outcomes) :
    ∃ calls : List Draft.Call, calls.foldl Draft.perform .empty = d' := by
  induction h with
  | start => exact hd
  | @enter d₁ d₂ _ _ _ _ t _ _ henter ih =>
    obtain ⟨calls, rfl⟩ := ih
    refine ⟨calls ++ [.enter t], ?_⟩
    rw [List.foldl_append]
    exact congrArg Prod.fst henter

/-- The draft that a conversion has entered its actions into is one that calls lead to, with
indexes as well as without. -/
theorem exists_calls_of_enterAll {p : Problem} {d d' : Draft} {policy : EndConditions}
    {actions : List Action} (hd : p.initialDraft = .ok d)
    (h : (d.enterAll policy actions).2 = .ok d') :
    ∃ calls : List Draft.Call, calls.foldlM IndexedDraft.perform .empty = .ok d'.indexed := by
  obtain ⟨_, hreaches⟩ := reaches_of_enterAll .start h
  obtain ⟨calls, rfl⟩ := exists_calls_of_reaches (exists_calls_of_initialDraft hd) hreaches
  exact ⟨calls, foldlM_perform_indexed .empty calls⟩

/-- After any calls on an empty draft the indexes lead from every name to the last record that
was registered under it, and to no place without a record, so that no call and no lookup ends
at one. The records stand in the order in which they were registered, under the names that
they had then, and a name means a timeline wherever there is one of the name. The draft under
the indexes is the one that the same calls make without any. -/
theorem indexes_lead_to_last (calls : List Draft.Call) :
    ∃ x, calls.foldlM IndexedDraft.perform .empty = .ok x ∧
      x.timelines.LeadsToLast DraftTimeline.name ∧
      x.resources.LeadsToLast DraftResource.name ∧
      x.draft.SameNames (.registered calls) ∧
      x.draft = calls.foldl Draft.perform .empty ∧
      ∀ name, x.kind? name =
        if ∃ t ∈ x.timelines.records, t.name = name then some .timeline
        else if ∃ r ∈ x.resources.records, r.name = name then some .resource
        else none := by
  -- the run ends with the indexes that its records would have if they had just been registered
  have hrun := foldlM_perform_indexed .empty calls
  have hnames := sameNames_foldl_perform .empty calls
  generalize calls.foldl Draft.perform .empty = d at hrun hnames ⊢
  refine ⟨d.indexed, hrun, leadsToLast_ofRecords _, leadsToLast_ofRecords _, ?_,
    draft_indexed d, fun name => ?_⟩
  · rwa [draft_indexed]
  · have htimelines : d.indexed.timelines.records = d.timelines := records_ofRecords _
    have hresources : d.indexed.resources.records = d.resources := records_ofRecords _
    rw [htimelines, hresources, kind?_indexed, kind?_eq_ite]

end PlanTimelines
