import PlanTimelines.Example.Kitchen

/-! Variants of the kitchen that are refused. -/

namespace PlanTimelines.Example.Conflicts

open Kitchen

/-- A second generator provides power too. -/
def twoProviders : Problem :=
  let backup := StateVar.ofName "backup"
  let runBackup :=
    DurativeAction.ofDuration "run_backup" (.fixed 10)
      |>.addCondition (.instant .atStart) (backup.hasValue "Off")
      |>.addAssign .atStart backup (.object "Running")
      |>.addAssign .atEnd backup (.object "Off")
      |>.addIncrease .atStart power 3
      |>.addDecrease .atEnd power 3
  problem
    |>.addFluent ⟨"backup", [], .user "Gen"⟩
    |>.addAction (.durative runBackup)

/-- Nothing provides power. -/
def unprovidedResource : Problem :=
  domain
    |>.addAction (.durative heat)
    |>.addInitialValue power.toTerm (.int 0)

/-- Heating assigns two temporary values. -/
def conflictingTemporary : Problem :=
  domain
    |>.addAction (.durative run)
    |>.addAction (.durative (heat.addAssign .atStart kettle (.object "Hot")))

/-- Heating gives back more power than it took. -/
def asymmetricConsumer : Problem :=
  domain
    |>.addAction (.durative run)
    |>.addAction (.durative (heatReleasing 2))

/-- A second action heats for longer. -/
def conflictingClaims : Problem :=
  problem.addAction (.durative { heat with name := "heat_slow", duration := .fixed 9 })

/-- The generator runs under two names. -/
def duplicateProvider : Problem :=
  problem.addAction (.durative { run with name := "run_again" })

end PlanTimelines.Example.Conflicts
