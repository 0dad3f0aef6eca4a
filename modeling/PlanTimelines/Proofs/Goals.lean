import Mathlib.Logic.Relation
import PlanTimelines.Example.Lamps
import PlanTimelines.Example.Switch
import PlanTimelines.Proofs.InitialValues

/-! The goals of a draft. Of the conjunctions in them only the leaves count, from left to right:
`Regroups` says that two lists of goals put the same leaves into conjunctions. The leaves are
written down one by one, and what comes of it is written down at once by `Draft.aimed`: under
each key the last value counts. -/

namespace PlanTimelines

/-! ## Regrouping -/

/-- Goals in a row are joined to one conjunction; there may be none of them. -/
inductive Joins : List Term → List Term → Prop where
  | join (before operands after : List Term) :
    Joins (before ++ operands ++ after) (before ++ .and operands :: after)

/-- The same goals in other conjunctions. -/
def Regroups : List Term → List Term → Prop :=
  Relation.EqvGen Joins

theorem Joins.leaves_eq {goals goals' : List Term} (h : Joins goals goals') :
    goals.flatMap Term.conjuncts = goals'.flatMap Term.conjuncts := by
  obtain ⟨before, operands, after⟩ := h
  have hoperands : (Term.and operands).conjuncts = operands.flatMap Term.conjuncts := by
    rw [Term.conjuncts, Term.conjunctsOf_eq_flatMap]
  simp [List.flatMap_cons, hoperands]

theorem Regroups.leaves_eq {goals goals' : List Term} (h : Regroups goals goals') :
    goals.flatMap Term.conjuncts = goals'.flatMap Term.conjuncts := by
  induction h with
  | rel _ _ h => exact h.leaves_eq
  | refl _ => rfl
  | symm _ _ _ ih => exact ih.symm
  | trans _ _ _ _ _ ih₁ ih₂ => exact ih₁.trans ih₂

theorem Joins.between {goals goals' : List Term} (h : Joins goals goals')
    (before after : List Term) :
    Joins (before ++ goals ++ after) (before ++ goals' ++ after) := by
  obtain ⟨before', operands, after'⟩ := h
  have hjoin := Joins.join (before ++ before') operands (after' ++ after)
  simpa only [List.append_assoc, List.cons_append] using hjoin

/-- Goals can be regrouped among others. -/
theorem Regroups.between {goals goals' : List Term} (h : Regroups goals goals')
    (before after : List Term) :
    Regroups (before ++ goals ++ after) (before ++ goals' ++ after) := by
  induction h with
  | rel _ _ h => exact .rel _ _ (h.between before after)
  | refl _ => exact .refl _
  | symm _ _ _ ih => exact .symm _ _ ih
  | trans _ _ _ _ _ ih₁ ih₂ => exact .trans _ _ _ ih₁ ih₂

mutual

theorem regroups_conjuncts : (t : Term) → Regroups [t] t.conjuncts
  | .and operands => by
    have hjoin : Joins operands [.and operands] := by
      simpa using Joins.join [] operands []
    rw [Term.conjuncts]
    exact .trans _ _ _ (.symm _ _ (.rel _ _ hjoin)) (regroups_conjunctsOf operands)
  | .bool _ | .int _ | .real _ | .object _ | .param _ | .fluent _ _ | .eq _ _ | .not _ | .or _ =>
    .refl _

theorem regroups_conjunctsOf : (ts : List Term) → Regroups ts (Term.conjunctsOf ts)
  | [] => .refl _
  | t :: rest => by
    have hfirst : Regroups (t :: rest) (t.conjuncts ++ rest) := by
      simpa using (regroups_conjuncts t).between [] rest
    have hrest : Regroups (t.conjuncts ++ rest) (t.conjuncts ++ Term.conjunctsOf rest) := by
      simpa using (regroups_conjunctsOf rest).between t.conjuncts []
    rw [Term.conjunctsOf]
    exact .trans _ _ _ hfirst hrest

end

/-- Goals can be regrouped into one another exactly if they have the same leaves. -/
theorem regroups_iff {goals goals' : List Term} :
    Regroups goals goals' ↔ goals.flatMap Term.conjuncts = goals'.flatMap Term.conjuncts := by
  refine ⟨Regroups.leaves_eq, fun h => ?_⟩
  have hleaves (ts : List Term) : Regroups ts (ts.flatMap Term.conjuncts) := by
    rw [← Term.conjunctsOf_eq_flatMap]
    exact regroups_conjunctsOf ts
  exact .trans _ _ _ (hleaves goals) (h ▸ .symm _ _ (hleaves goals'))

/-! ## What a draft allows -/

/-- The key and the value of an equality with a ground state variable. -/
def Term.goalPair? : Term → Option (String × Term)
  | .eq lhs rhs => (lhs.stateVar?.bind StateVar.key?).map fun key => (key, rhs)
  | _ => none

/-- The keys with the values that the leaves of the goals ask for. -/
def Problem.goalPairs (p : Problem) : List (String × Term) :=
  p.goalLeaves.filterMap Term.goalPair?

/-- The leaf is an equality with a ground state variable, which is no resource, and asks for a
value that its timeline has. -/
structure Draft.Asks (d : Draft) (leaf : Term) (v : StateVar) (key : String) (rhs : Term)
    (value : String) : Prop where
  hleaf : leaf = .eq v.toTerm rhs
  hkey : v.key? = some key
  hresource : d.resource? key = none
  hname : rhs.valueName? = some value
  hvalue : d.hasValue key value = true

def Draft.IsGoal (d : Draft) (leaf : Term) : Prop :=
  ∃ v key rhs value, d.Asks leaf v key rhs value

variable {p : Problem} {d d' : Draft} {leaf : Term}

theorem goalTarget_eq_ok {key value : String} :
    d.goalTarget leaf = .ok (key, value) ↔ ∃ v rhs, d.Asks leaf v key rhs value := by
  constructor
  · intro h
    cases leaf with
    | eq lhs rhs =>
      obtain hkey | ⟨key', hkey⟩ := (lhs.stateVar?.bind StateVar.key?).eq_none_or_eq_some
      · simp [Draft.goalTarget, hkey] at h
      obtain ⟨v, hv, hvkey⟩ := Option.bind_eq_some_iff.mp hkey
      obtain hresource | ⟨r, hresource⟩ := (d.resource? key').eq_none_or_eq_some
      swap
      · simp [Draft.goalTarget, hkey, hresource] at h
      obtain htimeline | ⟨t, htimeline⟩ := (d.timeline? key').eq_none_or_eq_some
      · simp [Draft.goalTarget, hkey, hresource, htimeline] at h
      obtain hname | ⟨value', hname⟩ := rhs.valueName?.eq_none_or_eq_some
      · simp [Draft.goalTarget, hkey, hresource, htimeline, hname] at h
      simp only [Draft.goalTarget, hkey, hresource, htimeline, hname, Option.isSome_none,
        Bool.false_eq_true, if_false] at h
      split at h
      · rename_i hvalue
        obtain ⟨rfl, rfl⟩ := Prod.mk.inj (Except.ok.inj h)
        refine ⟨v, rhs, by rw [Term.stateVar?_eq_some.mp hv], hvkey, hresource, hname, ?_⟩
        rw [Draft.hasValue, htimeline]
        exact hvalue
      · cases h
    | _ => cases h
  · intro h
    obtain ⟨v, rhs, rfl, hkey, hresource, hname, hvalue⟩ := h
    obtain ⟨t, htimeline, hvalue⟩ := (Option.any_eq_true _ _).mp hvalue
    simp [Draft.goalTarget, hkey, hresource, htimeline, hname, hvalue]

theorem addGoal_eq_ok :
    d.addGoal leaf = .ok d' ↔ ∃ v key rhs value, d.Asks leaf v key rhs value ∧
      d.updateTimeline key (fun t => { t with goal := some value }) = d' := by
  unfold Draft.addGoal
  constructor
  · intro h
    cases htarget : d.goalTarget leaf with
    | error fault =>
      rw [htarget] at h
      cases h
    | ok target =>
      rw [htarget] at h
      obtain ⟨v, rhs, hasks⟩ := goalTarget_eq_ok.mp htarget
      exact ⟨v, target.1, rhs, target.2, hasks, Except.ok.inj h⟩
  · intro h
    obtain ⟨v, key, rhs, value, hasks, rfl⟩ := h
    rw [goalTarget_eq_ok.mpr ⟨v, rhs, hasks⟩]

theorem Draft.Asks.goalPair?_eq {v : StateVar} {key value : String} {rhs : Term}
    (h : d.Asks leaf v key rhs value) : leaf.goalPair? = some (key, rhs) := by
  rw [h.hleaf]
  simp [Term.goalPair?, h.hkey]

/-- What a leaf asks for is a matter of names. -/
theorem Draft.SameNames.asks (h : d.SameNames d') {v : StateVar} {key value : String} {rhs : Term}
    (hasks : d.Asks leaf v key rhs value) : d'.Asks leaf v key rhs value := by
  refine { hasks with hresource := ?_, hvalue := h.hasValue_eq key value ▸ hasks.hvalue }
  have hnone : (d.resource? key).isSome = false := by rw [hasks.hresource, Option.isSome_none]
  rw [resource?_isSome_eq, h.resources, ← resource?_isSome_eq] at hnone
  simpa using hnone

/-! ## What is written down -/

/-- The timeline with the value to reach, if there is one. -/
def DraftTimeline.aimed (t : DraftTimeline) (value : Option Term) : DraftTimeline :=
  { t with goal := value.elim t.goal Term.valueName? }

/-- The draft with the last value under each key in the timeline that the key finds. -/
def Draft.aimed (d : Draft) (pairs : List (String × Term)) : Draft where
  timelines := mapLasts DraftTimeline.name (fun name t => t.aimed (lastValue? pairs name))
    d.timelines
  resources := d.resources

theorem sameNames_aimed (d : Draft) (pairs : List (String × Term)) :
    (d.aimed pairs).SameNames d := by
  refine ⟨?_, rfl⟩
  apply map_mapLasts
  intro name t
  rfl

theorem aimed_nil (d : Draft) : d.aimed [] = d := by
  refine Draft.eq_of_records ?_ rfl
  exact (mapLasts_congr fun _ _ => rfl).trans (mapLasts_id _ d.timelines)

/-- One more value is written over what its key had before. -/
theorem updateTimeline_aimed (pairs : List (String × Term)) (key : String) (value : Term) :
    (d.aimed pairs).updateTimeline key (fun t => { t with goal := value.valueName? }) =
      d.aimed (pairs ++ [(key, value)]) := by
  refine Draft.eq_of_records ?_ rfl
  refine updateLast_lastValue? (f := fun value t => t.aimed value) ?_ ?_ key pairs d.timelines
  · exact fun _ _ => rfl
  · exact fun _ _ => rfl

/-- A run that writes everything down. -/
theorem runSteps_addGoal_eq_ok {leaves : List Term} {before : List (String × Term)} :
    runSteps Draft.addGoal (d.aimed before) leaves = (d', .ok ()) ↔
      (∀ leaf ∈ leaves, d.IsGoal leaf) ∧
        d.aimed (before ++ leaves.filterMap Term.goalPair?) = d' := by
  -- the draft stays of the form `d.aimed before`, with one more pair for each leaf
  induction leaves generalizing before with
  | nil => simp [runSteps]
  | cons leaf rest ih =>
    simp only [runSteps_cons_eq_ok, addGoal_eq_ok, List.forall_mem_cons]
    have hnames := sameNames_aimed d before
    constructor
    · intro h
      obtain ⟨_, ⟨v, key, rhs, value, hasks, rfl⟩, hrest⟩ := h
      rw [← hasks.hname, updateTimeline_aimed, ih] at hrest
      obtain ⟨hgoals, rfl⟩ := hrest
      refine ⟨⟨⟨v, key, rhs, value, hnames.asks hasks⟩, hgoals⟩, ?_⟩
      simp [hasks.goalPair?_eq]
    · intro h
      obtain ⟨⟨⟨v, key, rhs, value, hasks⟩, hgoals⟩, rfl⟩ := h
      refine ⟨_, ⟨v, key, rhs, value, hnames.symm.asks hasks, rfl⟩, ?_⟩
      rw [← hasks.hname, updateTimeline_aimed, ih]
      exact ⟨hgoals, by simp [hasks.goalPair?_eq]⟩

/-! ## The goals of a problem -/

theorem addGoals_eq_ok :
    d.addGoals p = (d', .ok ()) ↔
      (∀ leaf ∈ p.goalLeaves, d.IsGoal leaf) ∧ d.aimed p.goalPairs = d' := by
  have hrun : runSteps Draft.addGoal (d.aimed []) p.goalLeaves = (d', .ok ()) ↔
      (∀ leaf ∈ p.goalLeaves, d.IsGoal leaf) ∧
        d.aimed ([] ++ p.goalLeaves.filterMap Term.goalPair?) = d' := runSteps_addGoal_eq_ok
  rw [aimed_nil] at hrun
  exact hrun

/-- The goals of a problem are written down if every leaf of them asks for a value of a timeline.
Every timeline that its key finds, which is the last one of the name, then has the value of the
last leaf with the key as its goal. Nothing else changes. All that counts are the leaves: the
same ones in other conjunctions come to the same, in the draft and in the refusal. -/
theorem addGoals_of_leaves (d : Draft) (p : Problem) :
    ((∃ d', d.addGoals p = (d', .ok ())) ↔ ∀ leaf ∈ p.goalLeaves, d.IsGoal leaf) ∧
    (∀ d', d.addGoals p = (d', .ok ()) → d'.resources = d.resources ∧
      ∀ i : Nat, d'.timelines[i]? = d.timelines[i]?.map fun t =>
        if t.name ∈ (d.timelines.drop (i + 1)).map DraftTimeline.name then t
        else { t with goal := (lastValue? p.goalPairs t.name).elim t.goal Term.valueName? }) ∧
    ∀ p' : Problem, (Regroups p.goals p'.goals ↔ p.goalLeaves = p'.goalLeaves) ∧
      (Regroups p.goals p'.goals → d.addGoals p = d.addGoals p') := by
  refine ⟨?_, fun d' h => ?_, fun p' => ⟨regroups_iff, fun h => ?_⟩⟩
  · simp only [addGoals_eq_ok, exists_and_left, exists_eq', and_true]
  · obtain ⟨-, rfl⟩ := addGoals_eq_ok.mp h
    exact ⟨rfl, fun i => getElem?_mapLasts d.timelines i⟩
  · have hleaves : p.goalLeaves = p'.goalLeaves := regroups_iff.mp h
    rw [Draft.addGoals, Draft.addGoals, hleaves]

/-- The first lamp is to be off in the end, whether the goals are in conjunctions or not. -/
theorem lamps_aimed :
    ∃ d d', Draft.ofProblem Example.Lamps.allOff Example.Lamps.allOff.domains = .ok d ∧
      d.addGoals Example.Lamps.allOff = (d', .ok ()) ∧
      d.addGoals Example.Lamps.allOffInTurn = (d', .ok ()) ∧
      d'.timelines[0]?.map (fun t => (t.name, t.goal)) = some ("mode(l1)", some "Off") ∧
      d'.timelines[1]?.map (fun t => (t.name, t.goal)) = some ("mode(l2)", some "Off") ∧
      d'.timelines[2]?.map (fun t => (t.name, t.goal)) = some ("supplied", none) := by
  obtain ⟨d, hd, hvalue₁, hvalue₁', hvalue₂, hnone₁, hnone₂, hrecords⟩ : ∃ d : Draft,
      Draft.ofProblem Example.Lamps.allOff Example.Lamps.allOff.domains = .ok d ∧
      d.hasValue "mode(l1)" "On" = true ∧ d.hasValue "mode(l1)" "Off" = true ∧
      d.hasValue "mode(l2)" "Off" = true ∧
      d.resource? "mode(l1)" = none ∧ d.resource? "mode(l2)" = none ∧
      d.timelines = [.ofValues "mode(l1)" "mode" ["Off", "On"],
        .ofValues "mode(l2)" "mode" ["Off", "On"],
        .ofValues "supplied" "supplied" ["true", "false"]] :=
    ⟨_, rfl, rfl, rfl, rfl, rfl, rfl, rfl⟩
  obtain ⟨hiff, hresult, hregroup⟩ := addGoals_of_leaves d Example.Lamps.allOff
  have hleaves : Example.Lamps.allOff.goalLeaves = Example.Lamps.allOffInTurn.goalLeaves := rfl
  have hgoals : ∀ leaf ∈ Example.Lamps.allOff.goalLeaves, d.IsGoal leaf := by
    rw [hleaves]
    refine List.forall_mem_cons.mpr ⟨?_, List.forall_mem_cons.mpr ⟨?_, ?_⟩⟩
    · exact ⟨_, _, _, _, rfl, rfl, hnone₁, rfl, hvalue₁⟩
    · exact ⟨_, _, _, _, rfl, rfl, hnone₂, rfl, hvalue₂⟩
    · exact List.forall_mem_singleton.mpr ⟨_, _, _, _, rfl, rfl, hnone₁, rfl, hvalue₁'⟩
  obtain ⟨d', hd'⟩ := hiff.mpr hgoals
  obtain ⟨hsame, hequal⟩ := hregroup Example.Lamps.allOffInTurn
  obtain ⟨-, htimelines⟩ := hresult d' hd'
  refine ⟨d, d', hd, hd', (hequal (hsame.mpr hleaves)).symm.trans hd', ?_, ?_, ?_⟩
  · rw [htimelines 0, hrecords]
    rfl
  · rw [htimelines 1, hrecords]
    rfl
  · rw [htimelines 2, hrecords]
    rfl

/-- Of two timelines with one name only the last one is to reach what the goal asks for. -/
theorem declaredTwice_aimed_once :
    ∃ d d', Draft.ofProblem Example.Switch.declaredTwice Example.Switch.declaredTwice.domains =
        .ok d ∧
      d.addGoals Example.Switch.declaredTwice = (d', .ok ()) ∧
      ∃ t ∈ d'.timelines, lastValue? Example.Switch.declaredTwice.goalPairs t.name =
        some (.object "Active") ∧ t.goal = none :=
  ⟨_, _, rfl, rfl, _, List.mem_cons_self, rfl, rfl⟩

end PlanTimelines
