/-! Terms of the planning language, the state variables in them, and the few
constants that the rest of the library reads out of them. -/

namespace PlanTimelines

/-- An expression in a condition, an effect, a goal or a duration bound. -/
inductive Term where
  | bool (value : Bool)
  | int (value : Int)
  | real (value : Float)
  /-- A named object. -/
  | object (name : String)
  /-- An action parameter, replaced by an object when the action is instantiated. -/
  | param (name : String)
  /-- A fluent applied to arguments. -/
  | fluent (name : String) (args : List Term)
  | eq (lhs rhs : Term)
  | not (operand : Term)
  | and (operands : List Term)
  | or (operands : List Term)
deriving Inhabited

/-- A fluent applied to arguments, such as `at(rover1, base)`. -/
structure StateVar where
  name : String
  args : List Term
deriving Inhabited

namespace StateVar

def toTerm (v : StateVar) : Term :=
  .fluent v.name v.args

/-- The state variable of a fluent without parameters. -/
def ofName (name : String) : StateVar := ⟨name, []⟩

/-- The condition that the state variable has an object as its value. -/
def hasValue (v : StateVar) (object : String) : Term :=
  .eq v.toTerm (.object object)

end StateVar

namespace Term

def stateVar? : Term → Option StateVar
  | .fluent name args => some ⟨name, args⟩
  | _ => none

def object? : Term → Option String
  | .object name => some name
  | _ => none

def int? : Term → Option Int
  | .int value => some value
  | _ => none

/-- Only the literal counts, not a term that would evaluate to it. -/
def isTrue : Term → Bool
  | .bool true => true
  | _ => false

/-- The timeline value that a constant denotes: objects by their names, truth
values as `true` and `false`. -/
def valueName? : Term → Option String
  | .object name => some name
  | .bool true => some "true"
  | .bool false => some "false"
  | _ => none

@[simp] theorem stateVar?_toTerm (v : StateVar) : v.toTerm.stateVar? = some v := rfl

theorem stateVar?_eq_some {t : Term} {v : StateVar} : t.stateVar? = some v ↔ t = v.toTerm := by
  constructor
  · intro h
    cases t with
    | fluent name args =>
      obtain rfl := Option.some.inj h
      rfl
    | _ => cases h
  · intro h
    subst h
    rfl

theorem int?_eq_some {t : Term} {n : Int} : t.int? = some n ↔ t = .int n := by
  cases t <;> simp [int?]

theorem isTrue_iff {t : Term} : t.isTrue = true ↔ t = .bool true := by
  fun_cases isTrue t <;> simp_all

mutual

/-- Equality of terms in which reals are compared as numbers: the two zeros are
equal, and a number that is not a number differs from itself. -/
def same : Term → Term → Bool
  | .bool a, .bool b => a == b
  | .int a, .int b => a == b
  | .real a, .real b => a == b
  | .object a, .object b => a == b
  | .param a, .param b => a == b
  | .fluent f as, .fluent g bs => f == g && sameAll as bs
  | .eq a b, .eq c d => same a c && same b d
  | .not a, .not b => same a b
  | .and as, .and bs => sameAll as bs
  | .or as, .or bs => sameAll as bs
  | _, _ => false

def sameAll : List Term → List Term → Bool
  | [], [] => true
  | a :: as, b :: bs => same a b && sameAll as bs
  | _, _ => false

end

mutual

/-- The conjuncts of a term, nested conjunctions unfolded from left to right. -/
def conjuncts : Term → List Term
  | .and operands => conjunctsOf operands
  | t => [t]

def conjunctsOf : List Term → List Term
  | [] => []
  | t :: rest => conjuncts t ++ conjunctsOf rest

end

theorem conjunctsOf_eq_flatMap (ts : List Term) : conjunctsOf ts = ts.flatMap conjuncts := by
  induction ts with
  | nil => rfl
  | cons t rest ih => simp [conjunctsOf, ih]

end Term

end PlanTimelines
