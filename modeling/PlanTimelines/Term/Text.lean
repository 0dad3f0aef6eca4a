import PlanTimelines.Decimal.Shortest
import PlanTimelines.Term

/-! Text of terms, and the keys under which ground state variables are known. -/

namespace PlanTimelines

/-- The name of an instance: `name(a1, a2, ...)`, or `name` without arguments. -/
def instanceName (name : String) (args : List String) : String :=
  if args.isEmpty then name else name ++ "(" ++ ", ".intercalate args ++ ")"

namespace Term

mutual

def text : Term → String
  | .bool true => "true"
  | .bool false => "false"
  | .int value => toString value
  | .real value => Decimal.ofFloat value
  | .object name => name
  | .param name => "?" ++ name
  | .fluent name [] => name
  | .fluent name (arg :: args) => name ++ "(" ++ text arg ++ textAfter ", " args ++ ")"
  | .eq lhs rhs => "(" ++ text lhs ++ " == " ++ text rhs ++ ")"
  | .not operand => "(not " ++ text operand ++ ")"
  | .and [] => "()"
  | .and (t :: ts) => "(" ++ text t ++ textAfter " and " ts ++ ")"
  | .or [] => "()"
  | .or (t :: ts) => "(" ++ text t ++ textAfter " or " ts ++ ")"

/-- Texts of terms, each after a separator. -/
def textAfter (separator : String) : List Term → String
  | [] => ""
  | t :: rest => separator ++ text t ++ textAfter separator rest

end

end Term

namespace StateVar

def text (v : StateVar) : String :=
  v.toTerm.text

/-- The names of the arguments, if every argument is an object. -/
def objectArgs? (v : StateVar) : Option (List String) :=
  v.args.mapM Term.object?

/-- The key of a ground state variable; none while an argument is not an object. -/
def key? (v : StateVar) : Option String :=
  v.objectArgs?.map (instanceName v.name)

/-- The key, or the text of a state variable that is not ground. -/
def label (v : StateVar) : String :=
  v.key?.getD v.text

end StateVar

end PlanTimelines
