import PlanTimelines.Domain
import PlanTimelines.Error
import PlanTimelines.Product
import PlanTimelines.Term.Text

/-! The instances of fluents and actions: one for each combination of objects
from the domains of the parameters. -/

namespace PlanTimelines

/-- A fluent with objects for all its parameters. -/
structure FluentInstance where
  /-- The key of the state variable, `name(a1, a2, ...)`. -/
  name : String
  /-- The fluent it is an instance of. -/
  className : String
  args : List String
  valueType : ValueType
deriving DecidableEq, Repr

/-- Integer fluents stand for resources, all others for timelines. -/
def FluentInstance.isResource (i : FluentInstance) : Bool :=
  i.valueType.isInt

namespace DomainTable

/-- The domains of the parameters of `owner`; fails at the first parameter whose
type has none. -/
def axes (table : DomainTable) (owner : String) :
    List Param → Except ConversionError (List (List String))
  | [] => .ok []
  | param :: rest =>
    match table.get? param.typeName with
    | none => .error (.unsupportedParameterType owner param.typeName)
    | some axis =>
      match table.axes owner rest with
      | .error e => .error e
      | .ok others => .ok (axis :: others)

/-- The instances of a fluent, in the order of the product of its domains. -/
def fluentInstances (table : DomainTable) (f : Fluent) :
    Except ConversionError (List FluentInstance) :=
  (table.axes f.name f.params).map fun axes =>
    (product axes).map fun args => ⟨instanceName f.name args, f.name, args, f.valueType⟩

/-- The instances of an action. Only durative actions with parameters have others
than themselves. -/
def actionInstances (table : DomainTable) : Action → Except ConversionError (List Action)
  | .instantaneous a => .ok [.instantaneous a]
  | .durative a =>
    if a.params.isEmpty then .ok [.durative a]
    else
      (table.axes a.name a.params).map fun axes =>
        (product axes).map fun args =>
          .durative (a.instantiate (instanceName a.name args)
            ((a.params.map Param.name).zip args))

theorem actionInstances_durative (table : DomainTable) (a : DurativeAction) :
    table.actionInstances (.durative a) =
      if a.params.isEmpty then .ok [.durative a]
      else
        (table.axes a.name a.params).map fun axes =>
          (product axes).map fun args =>
            .durative (a.instantiate (instanceName a.name args)
              ((a.params.map Param.name).zip args)) :=
  rfl

end DomainTable

/-- The instances of all actions of a problem, in declaration order. -/
def Problem.actionInstances (p : Problem) (table : DomainTable) :
    Except ConversionError (List Action) :=
  (p.actions.mapM table.actionInstances).map List.flatten

end PlanTimelines
