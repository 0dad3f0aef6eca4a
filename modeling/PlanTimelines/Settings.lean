/-! Settings of the conversion. -/

namespace PlanTimelines

/-- What to do with a condition on the end of an action. -/
inductive EndConditions where
  | ignore
  | reject
deriving DecidableEq, Repr

/-- How many threads build timelines. The result does not depend on it. -/
inductive Threads where
  /-- As many as the machine has. -/
  | auto
  /-- All work in one thread. -/
  | none
  | count (threads : Nat)
deriving DecidableEq, Repr

structure Settings where
  endConditions : EndConditions
  /-- The least duration of a token whose duration no action fixes. -/
  unboundedMinDuration : UInt32
  threads : Threads
deriving DecidableEq, Repr

/-- Why settings that can be read are refused all the same. -/
inductive SettingsFault where
  | zeroMinDuration
  | zeroThreads
deriving DecidableEq, Repr

def SettingsFault.message : SettingsFault → String
  | .zeroMinDuration => "unbounded_min_duration must be at least 1"
  | .zeroThreads => "synthesis_threads count must be at least 1"

namespace Settings

def default : Settings := ⟨.ignore, 1, .auto⟩

/-- The first fault of the settings. -/
def fault? (s : Settings) : Option SettingsFault :=
  if s.unboundedMinDuration = 0 then some .zeroMinDuration
  else if s.threads = .count 0 then some .zeroThreads
  else none

end Settings

end PlanTimelines
