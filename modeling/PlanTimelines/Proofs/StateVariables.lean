import PlanTimelines.Example.Declarations
import PlanTimelines.Example.Rovers
import PlanTimelines.Proofs.AcceptedActions
import PlanTimelines.Proofs.ActionInstances

/-! The state variables that an action uses. Each is looked up by its text, whether the text
is a key or only looks like one: an accepted action may use a state variable that is not
ground, as long as its text is the key of one that is. An action whose state variables have
no arguments but objects and its own parameters has ground instances. -/

namespace PlanTimelines

/-! ## Keys and texts -/

namespace StateVar

/-- All arguments are objects. -/
def IsGround (v : StateVar) : Prop :=
  ∀ arg ∈ v.args, ∃ name, arg = .object name

end StateVar

theorem text_append_textAfter (separator : String) (t : Term) (ts : List Term) :
    t.text ++ Term.textAfter separator ts = separator.intercalate ((t :: ts).map Term.text) := by
  induction ts generalizing t with
  | nil => simp [Term.textAfter]
  | cons u ts ih =>
    rw [Term.textAfter, List.map_cons, List.map_cons, String.intercalate_cons_cons,
      ← List.map_cons, ← ih u]
    simp only [String.append_assoc]

/-- The text of a state variable is laid out like a key. -/
theorem text_eq_instanceName (v : StateVar) :
    v.text = instanceName v.name (v.args.map Term.text) := by
  obtain ⟨name, args⟩ := v
  cases args with
  | nil => simp [StateVar.text, StateVar.toTerm, Term.text, instanceName]
  | cons arg args =>
    simp only [StateVar.text, StateVar.toTerm, Term.text, instanceName, List.map_cons,
      List.isEmpty_cons, Bool.false_eq_true, if_false]
    rw [← List.map_cons, ← text_append_textAfter]
    simp only [String.append_assoc]

theorem objectArgs?_eq_some {v : StateVar} {names : List String} :
    v.objectArgs? = some names ↔ v.args = names.map .object := by
  unfold StateVar.objectArgs?
  induction v.args generalizing names with
  | nil =>
    cases names <;> simp
  | cons arg args ih =>
    rw [List.mapM_cons]
    cases arg with
    | object name =>
      cases names <;> simp [Term.object?, Option.bind_eq_some_iff, ih, and_comm]
    | _ =>
      cases names <;> simp [Term.object?]

theorem key?_eq_some {v : StateVar} {key : String} :
    v.key? = some key ↔
      ∃ names : List String, v.args = names.map .object ∧ instanceName v.name names = key := by
  unfold StateVar.key?
  simp only [Option.map_eq_some_iff, objectArgs?_eq_some]

/-- A state variable has a key exactly if it is ground. -/
theorem key?_isSome_iff {v : StateVar} : v.key?.isSome ↔ v.IsGround := by
  unfold StateVar.key?
  rw [Option.isSome_map, Option.isSome_iff_exists]
  constructor
  · intro h
    obtain ⟨names, hnames⟩ := h
    intro arg harg
    rw [objectArgs?_eq_some.mp hnames] at harg
    obtain ⟨name, -, rfl⟩ := List.mem_map.mp harg
    exact ⟨name, rfl⟩
  · intro h
    choose! name hname using h
    refine ⟨v.args.map name, objectArgs?_eq_some.mpr ?_⟩
    rw [List.map_map]
    exact (map_eq_self fun arg harg => (hname arg harg).symm).symm

/-- Where there is a key, it is the text. -/
theorem text_eq_of_key?_eq_some {v : StateVar} {key : String} (h : v.key? = some key) :
    v.text = key := by
  obtain ⟨names, hnames, rfl⟩ := key?_eq_some.mp h
  have htexts : v.args.map Term.text = names := by
    rw [hnames, List.map_map]
    exact map_eq_self fun _ _ => rfl
  rw [text_eq_instanceName, htexts]

theorem label_eq_text (v : StateVar) : v.label = v.text := by
  unfold StateVar.label
  cases hkey : v.key? with
  | none => rfl
  | some key => exact (text_eq_of_key?_eq_some hkey).symm

/-! ## State variables of an action -/

/-- The state variable on the left side of an equality. -/
def Term.tested? : Term → Option StateVar
  | .eq lhs _ => lhs.stateVar?
  | _ => none

/-- The state variables that the start conditions test and that the effects change. -/
def DurativeAction.stateVars (a : DurativeAction) : List StateVar :=
  a.startConjuncts.filterMap Term.tested? ++ a.effects.map Effect.target

variable {d : Draft} {policy : EndConditions} {t : Transition}

/-- An accepted action uses state variables of the draft alone, going by their texts. -/
theorem kind?_text_of_makes {a : DurativeAction} (h : a.Makes d policy t) {v : StateVar}
    (hv : v ∈ a.stateVars) : (d.kind? v.text).isSome := by
  rw [← label_eq_text]
  rcases List.mem_append.mp hv with hv | hv
  · obtain ⟨q, hq, htested⟩ := List.mem_filterMap.mp hv
    obtain ⟨v', rhs, rfl, hlabel, -⟩ := h.tests q hq
    obtain rfl : v' = v := Option.some.inj htested
    rw [hlabel, h.isTimeline]
    rfl
  · obtain ⟨e, he, rfl⟩ := List.mem_map.mp hv
    by_cases hkind : e.kind = .assign
    · rw [h.assigns e he hkind, h.isTimeline]
      rfl
    · rw [h.changes e he hkind]
      rfl

/-- What an accepted action uses is known under its text, and has that as its key exactly
if it is ground. -/
theorem ofAction_stateVars {action : Action}
    (h : Transition.ofAction d policy action = .ok t) :
    ∃ a, action = .durative a ∧ ∀ v ∈ a.stateVars, v.label = v.text ∧
      (d.kind? v.text).isSome ∧
      ((∃ key, v.key? = some key ∧ (d.kind? key).isSome) ↔ v.IsGround) := by
  cases action with
  | instantaneous a => cases h
  | durative a =>
    refine ⟨a, rfl, fun v hv => ?_⟩
    have hkind := kind?_text_of_makes (ofDurative_eq_ok_iff.mp h) hv
    refine ⟨label_eq_text v, hkind, ?_⟩
    rw [← key?_isSome_iff, Option.isSome_iff_exists]
    constructor
    · intro h
      obtain ⟨key, hkey, -⟩ := h
      exact ⟨key, hkey⟩
    · intro h
      obtain ⟨key, hkey⟩ := h
      exact ⟨key, hkey, text_eq_of_key?_eq_some hkey ▸ hkind⟩

/-- The first rover drives under the key of its place, and the key has the rover in it. -/
theorem rovers_stateVars :
    let firstAt : StateVar := ⟨"at", [.object "r1"]⟩
    let driveFirst := Example.Rovers.drive.instantiate "drive(r1)"
      (Example.Rovers.drive.bindings ["r1"])
    ∃ d, Draft.ofProblem Example.Rovers.problem Example.Rovers.problem.domains = .ok d ∧
      Transition.ofAction d .reject (.durative driveFirst) =
        .ok ⟨"drive(r1)", "at(r1)", "base", "track", "crater", 6, none, none⟩ ∧
      driveFirst.stateVars = [firstAt, firstAt, firstAt] ∧ firstAt.key? = some "at(r1)" ∧
      ∃ a, Action.durative driveFirst = .durative a ∧
        ∀ v ∈ a.stateVars, v.label = v.text ∧ (d.kind? v.text).isSome ∧
          ((∃ key, v.key? = some key ∧ (d.kind? key).isSome) ↔ v.IsGround) := by
  intro firstAt driveFirst
  obtain ⟨d, hd, haction⟩ :
      ∃ d, Draft.ofProblem Example.Rovers.problem Example.Rovers.problem.domains = .ok d ∧
        Transition.ofAction d .reject (.durative driveFirst) =
          .ok ⟨"drive(r1)", "at(r1)", "base", "track", "crater", 6, none, none⟩ :=
    ⟨_, rfl, rfl⟩
  exact ⟨d, hd, haction, rfl, rfl, ofAction_stateVars haction⟩

/-- The action that opens the lower door is accepted with a number for a floor. -/
theorem floors_accept_number :
    ∃ d t, Draft.ofProblem Example.Floors.problem Example.Floors.problem.domains = .ok d ∧
      Transition.ofAction d .reject (.durative Example.Floors.openDoor) = .ok t ∧
      ∃ v ∈ Example.Floors.openDoor.stateVars, v.key? = none :=
  ⟨_, _, rfl, rfl, Example.Floors.lowerDoor, List.mem_cons_self, rfl⟩

/-! ## Instances of an action -/

mutual

theorem conjuncts_substitute (b : Bindings) :
    (t : Term) → (t.substitute b).conjuncts = t.conjuncts.map (Term.substitute b)
  | .and operands => by
    rw [Term.substitute, Term.conjuncts, Term.conjuncts, conjunctsOf_substituteAll]
  | .param name => by
    rw [Term.substitute]
    split <;> rename_i hfind <;> simp [Term.conjuncts, Term.substitute, hfind]
  | .bool _ | .int _ | .real _ | .object _ | .fluent _ _ | .eq _ _ | .not _ | .or _ => by
    simp [Term.conjuncts, Term.substitute]

theorem conjunctsOf_substituteAll (b : Bindings) :
    (ts : List Term) → Term.conjunctsOf (Term.substituteAll b ts) =
      (Term.conjunctsOf ts).map (Term.substitute b)
  | [] => rfl
  | t :: rest => by
    rw [Term.substituteAll, Term.conjunctsOf, Term.conjunctsOf, List.map_append,
      conjuncts_substitute b t, conjunctsOf_substituteAll b rest]

end

theorem stateVar?_substitute (b : Bindings) (t : Term) :
    (t.substitute b).stateVar? = t.stateVar?.map (StateVar.substitute b) := by
  cases t with
  | param name =>
    rw [Term.substitute]
    split <;> rfl
  | _ => simp [Term.substitute, Term.stateVar?, StateVar.substitute]

theorem tested?_substitute (b : Bindings) (q : Term) :
    (q.substitute b).tested? = q.tested?.map (StateVar.substitute b) := by
  cases q with
  | eq lhs rhs =>
    rw [Term.substitute]
    exact stateVar?_substitute b lhs
  | param name =>
    rw [Term.substitute]
    split <;> rfl
  | _ => simp [Term.substitute, Term.tested?]

theorem startConjuncts_instantiate (a : DurativeAction) (name : String) (b : Bindings) :
    (a.instantiate name b).startConjuncts = a.startConjuncts.map (Term.substitute b) := by
  unfold DurativeAction.startConjuncts DurativeAction.instantiate
  rw [List.filter_map, List.flatMap_map, List.map_flatMap]
  exact List.flatMap_congr fun c _ => conjuncts_substitute b c.condition

/-- An instance uses what the action uses, with the parameters replaced. -/
theorem stateVars_instantiate (a : DurativeAction) (name : String) (b : Bindings) :
    (a.instantiate name b).stateVars = a.stateVars.map (StateVar.substitute b) := by
  unfold DurativeAction.stateVars
  rw [startConjuncts_instantiate, List.map_append, List.filterMap_map, List.map_filterMap]
  have htested : Term.tested? ∘ Term.substitute b =
      fun q => q.tested?.map (StateVar.substitute b) :=
    funext (tested?_substitute b)
  rw [htested]
  simp only [DurativeAction.instantiate, List.map_map]
  rfl

/-- Every argument is an object or one of the parameters. -/
def StateVar.IsOver (params : List Param) (v : StateVar) : Prop :=
  ∀ arg ∈ v.args, (∃ name, arg = .object name) ∨ ∃ param ∈ params, arg = .param param.name

/-- With all parameters bound, what is over the parameters is ground. -/
theorem isGround_substitute {params : List Param} {objects : List String}
    (hlength : params.length = objects.length) {v : StateVar} (hv : v.IsOver params) :
    (v.substitute ((params.map Param.name).zip objects)).IsGround := by
  intro arg harg
  rw [StateVar.substitute, Term.substituteAll_eq_map] at harg
  obtain ⟨arg₀, harg₀, rfl⟩ := List.mem_map.mp harg
  rcases hv arg₀ harg₀ with ⟨name, rfl⟩ | ⟨param, hparam, rfl⟩
  · exact ⟨name, rfl⟩
  · obtain ⟨object, hobject⟩ := exists_find?_zip hlength hparam
    exact ⟨object, by rw [Term.substitute, hobject]⟩

/-- An action whose state variables are over its parameters has instances whose state
variables are ground. -/
theorem isGround_of_mem_actionInstances {table : DomainTable} {a : DurativeAction}
    {instances : List Action} (hover : ∀ v ∈ a.stateVars, v.IsOver a.params)
    (h : table.actionInstances (.durative a) = .ok instances) {b : DurativeAction}
    (hb : .durative b ∈ instances) : ∀ v ∈ b.stateVars, v.IsGround := by
  obtain ⟨objects, hobjects, hinstance⟩ := exists_objects_of_mem_actionInstances h hb
  obtain rfl := Action.durative.inj hinstance
  intro v hv
  rw [stateVars_instantiate] at hv
  obtain ⟨v₀, hv₀, rfl⟩ := List.mem_map.mp hv
  exact isGround_substitute hobjects.length_eq (hover v₀ hv₀)

/-- Such an instance, if it is accepted, is looked up by keys alone. -/
theorem exists_key?_of_mem_actionInstances {table : DomainTable} {a : DurativeAction}
    {instances : List Action} (hover : ∀ v ∈ a.stateVars, v.IsOver a.params)
    (h : table.actionInstances (.durative a) = .ok instances) {b : DurativeAction}
    (hb : .durative b ∈ instances) (haccepted : Transition.ofDurative d policy b = .ok t) :
    ∀ v ∈ b.stateVars, ∃ key, v.key? = some key ∧ (d.kind? key).isSome := by
  intro v hv
  have hground := isGround_of_mem_actionInstances hover h hb v hv
  obtain ⟨key, hkey⟩ := Option.isSome_iff_exists.mp (key?_isSome_iff.mpr hground)
  have hkind := kind?_text_of_makes (ofDurative_eq_ok_iff.mp haccepted) hv
  exact ⟨key, hkey, text_eq_of_key?_eq_some hkey ▸ hkind⟩

end PlanTimelines
