import PlanTimelines.Draft

/-! Initial values and goals of a draft. Entries are made one by one, and an entry
that is refused ends the run; those before it stay. -/

namespace PlanTimelines

/-- Takes steps until one fails; the state then is the last one reached. -/
def runSteps {σ α ε : Type} (step : σ → α → Except ε σ) (s : σ) :
    List α → σ × Except ε Unit
  | [] => (s, .ok ())
  | a :: rest =>
    match step s a with
    | .ok s' => runSteps step s' rest
    | .error e => (s, .error e)

/-- A demand that a state variable starts with a value, or why it is no such. -/
abbrev InitialEntry := Except ConversionError (String × Term)

namespace Problem

/-- The entries of a default: one for each instance of its fluent. -/
def defaultEntries (p : Problem) (table : DomainTable) (fluent : String) (value : Term) :
    List InitialEntry :=
  match p.fluent? fluent with
  | none => [.error (.unsupportedInitialValue fluent .undeclaredFluent)]
  | some f =>
    match table.fluentInstances f with
    | .error e => [.error e]
    | .ok instances => instances.map fun i => .ok (i.name, value)

/-- The entry of an explicit initial value. -/
def explicitEntry (v : StateVar) (value : Term) : InitialEntry :=
  match v.key? with
  | none => .error (.unsupportedInitialValue v.text .notGround)
  | some key => .ok (key, value)

/-- All demands on the initial state: the defaults before the explicit values.
Defaults for whole types are refused before anything else. -/
def initialEntries (p : Problem) (table : DomainTable) : List InitialEntry :=
  match p.typeDefaults with
  | (type, _) :: _ => [.error (.unsupportedInitialValue type.name .perTypeDefault)]
  | [] =>
    (p.fluentDefaults.flatMap fun (fluent, value) => p.defaultEntries table fluent value) ++
      p.initialValues.map fun (v, value) => explicitEntry v value

/-- The goals with all conjunctions unfolded. -/
def goalLeaves (p : Problem) : List Term :=
  p.goals.flatMap Term.conjuncts

end Problem

namespace Draft

/-- A resource can only start at zero, a timeline at one of its own values. -/
def initialFault? (d : Draft) (key : String) (value : Term) : Option InitialValueFault :=
  if (d.resource? key).isSome then
    match value.int? with
    | some 0 => none
    | some n => some (.nonzeroResource n)
    | none => some (.notAnInteger value.text)
  else
    match d.timeline? key with
    | none => some .unknownStateVariable
    | some t =>
      match value.valueName? with
      | none => some (.notAConstant value.text)
      | some name => if t.hasValue name then none else some (.notAValue name)

/-- Writes an initial value down. -/
def writeInitial (d : Draft) (key : String) (value : Term) : Draft :=
  if (d.resource? key).isSome then
    d.updateResource key fun r => { r with initial := some 0 }
  else
    d.updateTimeline key fun t => { t with initial := value.valueName? }

def addInitial (d : Draft) (entry : InitialEntry) : Except ConversionError Draft :=
  match entry with
  | .error e => .error e
  | .ok (key, value) =>
    match d.initialFault? key value with
    | some fault => .error (.unsupportedInitialValue key fault)
    | none => .ok (d.writeInitial key value)

/-- Writes the initial values of a problem down. -/
def addInitialValues (d : Draft) (p : Problem) (table : DomainTable) :
    Draft × Except ConversionError Unit :=
  runSteps addInitial d (p.initialEntries table)

/-- What a goal asks for: a value of a timeline. -/
def goalTarget (d : Draft) (goal : Term) : Except GoalFault (String × String) :=
  match goal with
  | .eq lhs rhs =>
    match lhs.stateVar?.bind StateVar.key? with
    | none => .error (.notGround lhs.text)
    | some key =>
      if (d.resource? key).isSome then .error (.resource key)
      else
        match d.timeline? key with
        | none => .error (.notATimeline key)
        | some t =>
          match rhs.valueName? with
          | none => .error (.notAConstant rhs.text)
          | some value =>
            if t.hasValue value then .ok (key, value) else .error (.notAValue value key)
  | other => .error (.notAnEquality other.text)

/-- Writes a goal down; a later goal for the same timeline replaces an earlier one. -/
def addGoal (d : Draft) (goal : Term) : Except ConversionError Draft :=
  match d.goalTarget goal with
  | .error fault => .error (.unsupportedGoal fault)
  | .ok (key, value) => .ok (d.updateTimeline key fun t => { t with goal := some value })

/-- Writes the goals of a problem down. -/
def addGoals (d : Draft) (p : Problem) : Draft × Except ConversionError Unit :=
  runSteps addGoal d p.goalLeaves

end Draft

end PlanTimelines
