import PlanTimelines.Action

/-! Planning problems: declared types, objects and fluents, the initial state,
the goals and the actions. -/

namespace PlanTimelines

/-- The type of the values of a fluent. -/
inductive ValueType where
  | bool
  | int
  | real
  /-- A declared type of objects. -/
  | user (name : String)
deriving DecidableEq, Repr

namespace ValueType

/-- The name under which domains are looked up, and under which the type is shown. -/
def name : ValueType → String
  | .bool => "bool"
  | .int => "integer"
  | .real => "real"
  | .user name => name

def isInt : ValueType → Bool
  | .int => true
  | _ => false

end ValueType

structure UserType where
  name : String
  parent : Option String
deriving DecidableEq, Repr

/-- A declared object. -/
structure ObjectDecl where
  name : String
  typeName : String
deriving DecidableEq, Repr

/-- A declared fluent, a family of state variables with one value type. -/
structure Fluent where
  name : String
  params : List Param
  valueType : ValueType
deriving DecidableEq, Repr

def Fluent.arity (f : Fluent) : Nat :=
  f.params.length

structure Problem where
  name : String
  userTypes : List UserType
  objects : List ObjectDecl
  fluents : List Fluent
  /-- Initial values for all instances of a fluent. -/
  fluentDefaults : List (String × Term)
  /-- Initial values for all fluents of a type. -/
  typeDefaults : List (ValueType × Term)
  initialValues : List (StateVar × Term)
  goals : List Term
  actions : List Action

namespace Problem

def empty (name : String) : Problem :=
  ⟨name, [], [], [], [], [], [], [], []⟩

/-- The first declaration of a fluent. -/
def fluent? (p : Problem) (name : String) : Option Fluent :=
  p.fluents.find? (·.name == name)

/-- The first declaration of a type. -/
def userType? (p : Problem) (name : String) : Option UserType :=
  p.userTypes.find? (·.name == name)

/-- The parent that the first declaration of a type names. -/
def parent? (p : Problem) (name : String) : Option String :=
  (p.userType? name).bind UserType.parent

/-- `ancestor` is met within `steps` parent links from a type. -/
def reachesWithin (p : Problem) (ancestor : String) : Nat → String → Bool
  | 0, name => name == ancestor
  | steps + 1, name =>
    name == ancestor ||
      match p.parent? name with
      | some parent => p.reachesWithin ancestor steps parent
      | none => false

/-- The type is `ancestor` or one of its descendants. As many links as there are
declarations are enough, for a longer walk repeats a type. -/
def isSubtype (p : Problem) (typeName ancestor : String) : Bool :=
  p.reachesWithin ancestor p.userTypes.length typeName

/-- The names of the objects of a type and its subtypes, in declaration order. -/
def objectsOf (p : Problem) (typeName : String) : List String :=
  (p.objects.filter fun o => p.isSubtype o.typeName typeName).map ObjectDecl.name

/-! ## Building -/

def addUserType (p : Problem) (t : UserType) : Problem :=
  { p with userTypes := p.userTypes ++ [t] }

def addType (p : Problem) (name : String) : Problem :=
  p.addUserType ⟨name, none⟩

def addObject (p : Problem) (name typeName : String) : Problem :=
  { p with objects := p.objects ++ [⟨name, typeName⟩] }

def addFluent (p : Problem) (f : Fluent) : Problem :=
  { p with fluents := p.fluents ++ [f] }

def addFluentDefault (p : Problem) (fluent : String) (value : Term) : Problem :=
  { p with fluentDefaults := p.fluentDefaults ++ [(fluent, value)] }

def addTypeDefault (p : Problem) (valueType : ValueType) (value : Term) : Problem :=
  { p with typeDefaults := p.typeDefaults ++ [(valueType, value)] }

/-- Only a state variable can have an initial value; for any other term the
problem stays as it is. -/
def addInitialValue (p : Problem) (lhs value : Term) : Problem :=
  match lhs.stateVar? with
  | some v => { p with initialValues := p.initialValues ++ [(v, value)] }
  | none => p

def addGoal (p : Problem) (goal : Term) : Problem :=
  { p with goals := p.goals ++ [goal] }

def addAction (p : Problem) (action : Action) : Problem :=
  { p with actions := p.actions ++ [action] }

end Problem

end PlanTimelines
