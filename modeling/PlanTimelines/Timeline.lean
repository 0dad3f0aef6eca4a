import PlanTimelines.Timeline.Condition

/-! Timeline problems: state variables as sequences of tokens, each token of one
of the timeline's token types. -/

namespace PlanTimelines

/-- How long a token lasts; without a maximum as long as it likes. -/
structure DurationBounds where
  min : UInt32
  max : Option UInt32
deriving DecidableEq, Repr

namespace DurationBounds

def fixed (duration : UInt32) : DurationBounds := ⟨duration, some duration⟩

def atLeast (min : UInt32) : DurationBounds := ⟨min, none⟩

def isFixed (b : DurationBounds) : Bool :=
  b.max == some b.min

@[simp] theorem isFixed_fixed (d : UInt32) : (fixed d).isFixed = true := by
  simp [isFixed, fixed]

@[simp] theorem isFixed_atLeast (d : UInt32) : (atLeast d).isFixed = false := rfl

end DurationBounds

/-- What every token of one value obeys. -/
structure TokenType where
  value : String
  conditions : List Condition
  duration : DurationBounds
  /-- Units of a resource that the token supplies while it lasts. -/
  capacity : UInt32
deriving DecidableEq, Repr

inductive TokenTime where
  /-- Holds from `start`, and until `finish` if that is given. -/
  | fact (start finish : Option UInt32)
  /-- To be reached at a time that is left open. -/
  | goal
deriving DecidableEq, Repr

def TokenTime.isGoal : TokenTime → Bool
  | .fact _ _ => false
  | .goal => true

/-- A token that is part of the problem. -/
structure StaticToken where
  value : String
  time : TokenTime
  capacity : UInt32
  conditions : List Condition
deriving DecidableEq, Repr

namespace StaticToken

def fact (value : String) (start : UInt32) : StaticToken :=
  ⟨value, .fact (some start) none, 0, []⟩

def goal (value : String) : StaticToken :=
  ⟨value, .goal, 0, []⟩

end StaticToken

structure Timeline where
  name : String
  tokenTypes : List TokenType
  staticTokens : List StaticToken
deriving DecidableEq, Repr

/-- The first token type of a value. -/
def Timeline.tokenType? (t : Timeline) (value : String) : Option TokenType :=
  t.tokenTypes.find? (·.value == value)

structure TimelineProblem where
  timelines : List Timeline
deriving DecidableEq, Repr

namespace TimelineProblem

/-- The first timeline of a name. -/
def timeline? (p : TimelineProblem) (name : String) : Option Timeline :=
  p.timelines.find? (·.name == name)

def tokenTypeCount (p : TimelineProblem) : Nat :=
  (p.timelines.flatMap (·.tokenTypes)).length

def staticTokenCount (p : TimelineProblem) : Nat :=
  (p.timelines.flatMap (·.staticTokens)).length

end TimelineProblem

end PlanTimelines
