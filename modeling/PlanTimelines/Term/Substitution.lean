import PlanTimelines.Term

/-! Replacing action parameters by objects. -/

namespace PlanTimelines

/-- Objects bound to parameter names. Where a name is bound twice, the last
binding counts. -/
abbrev Bindings := List (String × String)

def Bindings.find? (b : Bindings) (name : String) : Option String :=
  b.reverse.lookup name

namespace Term

mutual

/-- Replaces every bound parameter by its object, at any depth. -/
def substitute (b : Bindings) : Term → Term
  | .param name =>
    match b.find? name with
    | some found => .object found
    | none => .param name
  | .fluent name args => .fluent name (substituteAll b args)
  | .eq lhs rhs => .eq (substitute b lhs) (substitute b rhs)
  | .not operand => .not (substitute b operand)
  | .and operands => .and (substituteAll b operands)
  | .or operands => .or (substituteAll b operands)
  | .bool value => .bool value
  | .int value => .int value
  | .real value => .real value
  | .object name => .object name

def substituteAll (b : Bindings) : List Term → List Term
  | [] => []
  | t :: rest => substitute b t :: substituteAll b rest

end

theorem substituteAll_eq_map (b : Bindings) (ts : List Term) :
    substituteAll b ts = ts.map (substitute b) := by
  induction ts with
  | nil => rfl
  | cons t rest ih => simp [substituteAll, ih]

end Term

def StateVar.substitute (b : Bindings) (v : StateVar) : StateVar :=
  ⟨v.name, Term.substituteAll b v.args⟩

theorem StateVar.toTerm_substitute (b : Bindings) (v : StateVar) :
    (v.substitute b).toTerm = v.toTerm.substitute b := by
  simp [StateVar.substitute, StateVar.toTerm, Term.substitute]

end PlanTimelines
