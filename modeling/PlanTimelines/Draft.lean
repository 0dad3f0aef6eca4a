import PlanTimelines.Instance
import PlanTimelines.Records
import PlanTimelines.Timeline.Reference

/-! The draft of a timeline problem: one record per timeline and resource, filled
in step by step from the initial state, the goals and the actions. -/

namespace PlanTimelines

/-- An amount of a resource that is held or offered. -/
structure ResourceUse where
  resource : String
  amount : UInt32
deriving DecidableEq, Repr

/-- A value of a timeline. The action that claims it fixes its duration and what
it consumes and provides. -/
structure DraftValue where
  name : String
  consumes : List ResourceUse
  provides : Option ResourceUse
  duration : Option UInt32
  claimedBy : Option String
deriving DecidableEq, Repr

def DraftValue.unclaimed (name : String) : DraftValue :=
  ⟨name, [], none, none, none⟩

structure DraftTimeline where
  name : String
  className : String
  initial : Option String
  goal : Option String
  /-- Pairs of a value and one that may follow it, without repetition. -/
  edges : List (String × String)
  values : List DraftValue
deriving DecidableEq, Repr

namespace DraftTimeline

def ofValues (name className : String) (values : List String) : DraftTimeline :=
  ⟨name, className, none, none, [], values.map .unclaimed⟩

/-- The first value of a name. -/
def value? (t : DraftTimeline) (name : String) : Option DraftValue :=
  t.values.find? (·.name == name)

def hasValue (t : DraftTimeline) (name : String) : Bool :=
  (t.value? name).isSome

def updateValue (t : DraftTimeline) (name : String) (f : DraftValue → DraftValue) :
    DraftTimeline :=
  { t with values := updateFirst (·.name == name) f t.values }

def addEdge (t : DraftTimeline) (source target : String) : DraftTimeline :=
  if (source, target) ∈ t.edges then t else { t with edges := t.edges ++ [(source, target)] }

/-- The values that may precede a value, in the order of the edges. -/
def predecessors (t : DraftTimeline) (value : String) : List String :=
  (t.edges.filter (·.2 == value)).map Prod.fst

/-- The values that may follow a value, in the order of the edges. -/
def successors (t : DraftTimeline) (value : String) : List String :=
  (t.edges.filter (·.1 == value)).map Prod.snd

end DraftTimeline

/-- A value of a timeline that supplies a resource while it lasts. -/
structure Provider where
  timeline : TimelineRef
  value : String
  amount : UInt32
deriving DecidableEq, Repr

structure DraftResource where
  name : String
  /-- The initial level, which can only be zero; none if the problem is silent. -/
  initial : Option Int
  providers : List Provider
deriving DecidableEq, Repr

def DraftResource.unprovided (name : String) : DraftResource :=
  ⟨name, none, []⟩

/-- What a state variable becomes. -/
inductive Kind where
  | timeline
  | resource
deriving DecidableEq, Repr

structure Draft where
  timelines : List DraftTimeline
  resources : List DraftResource
deriving DecidableEq, Repr

namespace Draft

def empty : Draft := ⟨[], []⟩

def addTimeline (d : Draft) (t : DraftTimeline) : Draft :=
  { d with timelines := d.timelines ++ [t] }

def addResource (d : Draft) (r : DraftResource) : Draft :=
  { d with resources := d.resources ++ [r] }

/-- The last timeline of a name. -/
def timeline? (d : Draft) (name : String) : Option DraftTimeline :=
  findLast? (·.name == name) d.timelines

/-- The last resource of a name. -/
def resource? (d : Draft) (name : String) : Option DraftResource :=
  findLast? (·.name == name) d.resources

/-- Changes the timeline that `timeline?` finds. -/
def updateTimeline (d : Draft) (name : String) (f : DraftTimeline → DraftTimeline) : Draft :=
  { d with timelines := updateLast (·.name == name) f d.timelines }

/-- Changes the resource that `resource?` finds. -/
def updateResource (d : Draft) (name : String) (f : DraftResource → DraftResource) : Draft :=
  { d with resources := updateLast (·.name == name) f d.resources }

/-- A name of both a timeline and a resource means the timeline. -/
def kind? (d : Draft) (name : String) : Option Kind :=
  if (d.timeline? name).isSome then some .timeline
  else if (d.resource? name).isSome then some .resource
  else none

/-- A timeline of the name exists and has the value. -/
def hasValue (d : Draft) (timeline value : String) : Bool :=
  (d.timeline? timeline).any (·.hasValue value)

/-- Names and classes of the timelines, in order. -/
def timelineClasses (d : Draft) : List (String × String) :=
  d.timelines.map fun t => (t.name, t.className)

/-- Adds the record of a fluent instance. -/
def register (d : Draft) (table : DomainTable) (i : FluentInstance) :
    Except ConversionError (Draft × Kind) :=
  if i.isResource then .ok (d.addResource (.unprovided i.name), .resource)
  else
    match table.ofValueType? i.valueType with
    | some values => .ok (d.addTimeline (.ofValues i.name i.className values), .timeline)
    | none => .error (.unsupportedFluentType i.name i.valueType.name)

/-- Adds the records of all instances of a fluent. -/
def registerFluent (d : Draft) (table : DomainTable) (f : Fluent) :
    Except ConversionError Draft := do
  let instances ← table.fluentInstances f
  instances.foldlM (fun d i => (d.register table i).map Prod.fst) d

/-- The draft with the records of all fluents of a problem and nothing filled in. -/
def ofProblem (p : Problem) (table : DomainTable) : Except ConversionError Draft :=
  p.fluents.foldlM (fun d f => d.registerFluent table f) empty

end Draft

end PlanTimelines
