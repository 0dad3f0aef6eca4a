import PlanTimelines.Text.Quoted

/-! Log records: named fields under a source and a level. -/

namespace PlanTimelines

inductive LogLevel where
  | error
  | warn
  | info
  | debug
  | trace
deriving DecidableEq, Repr

/-- Records of this level are details, which only a reader who asks for them sees. -/
def LogLevel.isDetail : LogLevel → Bool
  | .debug | .trace => true
  | .error | .warn | .info => false

/-- The value of a field, with the form in which it was recorded. -/
inductive LogValue where
  | text (s : String)
  /-- What a printer wrote for a value. -/
  | printed (s : String)
  /-- A text that is shown in quotes. -/
  | quoted (s : String)
  | count (n : Nat)
  | signed (n : Int)
  | flag (b : Bool)
deriving DecidableEq, Repr

namespace LogValue

/-- The text that a reader keeps of a field. Quotes around a printed text are dropped. -/
def text? : LogValue → Option String
  | .text s => some s
  | .printed s => some (Text.trimQuotes s)
  | .quoted s => some (Text.trimQuotes (Text.quoted s))
  | .count _ | .signed _ | .flag _ => none

/-- The count that a reader keeps of a field: at least zero, and at most the largest
of 64 bits. -/
def count? : LogValue → Option Nat
  | .count n => some (min n (UInt64.size - 1))
  | .signed n => some (min n.toNat (UInt64.size - 1))
  | .text _ | .printed _ | .quoted _ | .flag _ => none

def flag? : LogValue → Option Bool
  | .flag b => some b
  | .text _ | .printed _ | .quoted _ | .count _ | .signed _ => none

end LogValue

/-- The source under which conversions log. The sources of their parts start so. -/
def conversionSource : String := "timelineforge"

structure LogRecord where
  source : String
  level : LogLevel
  fields : List (String × LogValue)
deriving DecidableEq, Repr

namespace LogRecord

/-- What the last field of a name that has such a value holds. -/
def last? {α : Type} (r : LogRecord) (read : LogValue → Option α) (name : String) :
    Option α :=
  r.fields.reverse.findSome? fun (n, v) => if n == name then read v else none

def text? (r : LogRecord) (name : String) : Option String :=
  r.last? LogValue.text? name

/-- A missing count is zero. -/
def count (r : LogRecord) (name : String) : Nat :=
  (r.last? LogValue.count? name).getD 0

/-- A missing flag is down. -/
def flag (r : LogRecord) (name : String) : Bool :=
  (r.last? LogValue.flag? name).getD false

end LogRecord

end PlanTimelines
