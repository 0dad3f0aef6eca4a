/-! References to timelines, by name or by class. -/

namespace PlanTimelines

inductive TimelineRef where
  | named (name : String)
  /-- Any timeline of a class. -/
  | anyOfClass (className : String)
deriving DecidableEq, Repr

namespace TimelineRef

def text : TimelineRef → String
  | .named name => name
  | .anyOfClass className => "any " ++ className

/-- The reference means the timeline of this name and class. -/
def refersTo (r : TimelineRef) (name className : String) : Bool :=
  match r with
  | .named n => n == name
  | .anyOfClass c => c == className

/-- The names of the timelines meant, out of pairs of name and class in order. -/
def resolve (r : TimelineRef) (timelines : List (String × String)) : List String :=
  (timelines.filter fun t => r.refersTo t.1 t.2).map Prod.fst

end TimelineRef

end PlanTimelines
