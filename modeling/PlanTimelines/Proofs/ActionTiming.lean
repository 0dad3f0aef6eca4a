import Mathlib.Algebra.Order.Ring.Unbundled.Rat
import Mathlib.Data.Set.Insert
import PlanTimelines.Example.Switch
import PlanTimelines.Proofs.AcceptedActions

/-! The times that the intervals of an accepted action stand for. The bounds of its duration
are the duration of its transition, and those of its start conditions are its start. Whether a
bound is open is not looked at: with an open bound there is no time between them, but the action
is accepted in the same way as the one with closed intervals. -/

namespace PlanTimelines

/-! ## Intervals of times -/

/-- The times between two bounds. A bound is one of them unless it is open. -/
def between (openLower openUpper : Bool) (lower upper : ℚ) : Set ℚ :=
  {x | lower ≤ x ∧ x ≤ upper ∧ (openLower = true → x ≠ lower) ∧ (openUpper = true → x ≠ upper)}

theorem between_self (openLower openUpper : Bool) (x : ℚ) :
    between openLower openUpper x x = if !openLower && !openUpper then {x} else ∅ := by
  ext y
  cases openLower <;> cases openUpper
  case false.false => simp [between, le_antisymm_iff, and_comm]
  -- an open end leaves out the one time that the bounds allow
  all_goals
    simp only [between, Set.mem_ofPred_eq]
    grind

namespace DurationRange

/-- The durations that an action may have, if the bounds are constants. -/
def durations (r : DurationRange) : Set ℚ :=
  {x | ∃ lower upper : Int, r.lower = .int lower ∧ r.upper = .int upper ∧
    x ∈ between r.openLower r.openUpper lower upper}

def isClosed (r : DurationRange) : Bool :=
  !r.openLower && !r.openUpper

/-- The range with both bounds counted. -/
def closure (r : DurationRange) : DurationRange :=
  { r with openLower := false, openUpper := false }

end DurationRange

/-- When an action starts and ends, and when the plan does that it is part of. -/
structure Occurrence where
  actionStart : ℚ
  actionEnd : ℚ
  globalStart : ℚ
  globalEnd : ℚ

def Anchor.time (o : Occurrence) : Anchor → ℚ
  | .actionStart => o.actionStart
  | .actionEnd => o.actionEnd
  | .globalStart => o.globalStart
  | .globalEnd => o.globalEnd

def Timing.time (o : Occurrence) (t : Timing) : ℚ :=
  t.anchor.time o + t.delay

namespace Interval

/-- The times over which a condition must hold. -/
def times (o : Occurrence) (i : Interval) : Set ℚ :=
  between i.openLower i.openUpper (i.lower.time o) (i.upper.time o)

def isClosed (i : Interval) : Bool :=
  !i.openLower && !i.openUpper

/-- The interval with both bounds counted. -/
def closure (i : Interval) : Interval :=
  { i with openLower := false, openUpper := false }

end Interval

/-- The action with all its intervals closed. -/
def DurativeAction.closure (a : DurativeAction) : DurativeAction :=
  { a with
    duration := a.duration.closure
    conditions := a.conditions.map fun c => { c with interval := c.interval.closure } }

/-! ## Bounds -/

/-- A range of one duration. -/
theorem durations_of_fixed? {r : DurationRange} {w : UInt32} (h : r.fixed? = .ok w) :
    r.durations = if r.isClosed then {(w.toNat : ℚ)} else ∅ := by
  obtain ⟨hlower, hupper⟩ := fixed?_eq_ok.mp h
  have hrange : r.durations =
      between r.openLower r.openUpper (w.toNat : Int) (w.toNat : Int) := by
    ext x
    simp [DurationRange.durations, hlower, hupper]
  rw [hrange, between_self, Rat.intCast_natCast]
  rfl

theorem time_of_isStart {timing : Timing} (h : timing.isStart = true) (o : Occurrence) :
    timing.time o = o.actionStart := by
  obtain rfl : timing = .atStart := eq_of_beq h
  simp [Timing.time, Timing.atStart, Anchor.time]

/-- An interval at the start of the action. -/
theorem times_of_isAtStart {i : Interval} (h : i.isAtStart = true) (o : Occurrence) :
    i.times o = if i.isClosed then {o.actionStart} else ∅ := by
  obtain ⟨hlower, hupper⟩ := Bool.and_eq_true_iff.mp h
  unfold Interval.times
  rw [time_of_isStart hlower, time_of_isStart hupper, between_self]
  rfl

/-! ## The analysis -/

variable {d : Draft} {policy : EndConditions} {action : Action} {t : Transition}

theorem sourceState_closure (a : DurativeAction) :
    sourceState d policy a.closure = sourceState d policy a := by
  unfold sourceState DurativeAction.closure
  rw [List.foldlM_map]
  rfl

/-- The verdict on an action is the one on the action with closed intervals, the violation that
is reported included. -/
theorem ofDurative_closure (a : DurativeAction) :
    Transition.ofDurative d policy a.closure = Transition.ofDurative d policy a := by
  unfold Transition.ofDurative
  rw [sourceState_closure]
  rfl

/-- An accepted action may take just the duration of its transition, and tests its source just
at its start, if the intervals are closed. If one of them is open it admits no time, and the
action is accepted all the same: the bounds may be opened or closed at will. -/
theorem ofAction_timing (h : Transition.ofAction d policy action = .ok t) :
    ∃ a, action = .durative a ∧
      a.duration.durations = (if a.duration.isClosed then {(t.duration.toNat : ℚ)} else ∅) ∧
      (∀ c ∈ a.conditions, c.interval.isAtStart = true → ∀ o : Occurrence,
        c.interval.times o = if c.interval.isClosed then {o.actionStart} else ∅) ∧
      ∀ b : DurativeAction, b.closure = a.closure →
        Transition.ofAction d policy (.durative b) = .ok t := by
  cases action with
  | instantaneous a => cases h
  | durative a =>
    obtain ⟨-, -, hduration, -⟩ := ofDurative_eq_ok.mp h
    refine ⟨a, rfl, durations_of_fixed? hduration, fun c _ hstart => times_of_isAtStart hstart,
      fun b hb => ?_⟩
    calc Transition.ofDurative d policy b
      _ = Transition.ofDurative d policy b.closure := (ofDurative_closure b).symm
      _ = Transition.ofDurative d policy a.closure := by rw [hb]
      _ = Transition.ofDurative d policy a := ofDurative_closure a
      _ = .ok t := h

/-- The switch is active for five units of time, and is tested at the start. -/
theorem switch_timing :
    ∃ d, Draft.ofProblem Example.Switch.problem Example.Switch.problem.domains = .ok d ∧
      Transition.ofAction d .reject (.durative Example.Switch.activate) =
        .ok Example.Switch.activation ∧
      Example.Switch.activate.duration.durations = {5} ∧
      ∀ c ∈ Example.Switch.activate.conditions, c.interval.isAtStart = true →
        ∀ o : Occurrence, c.interval.times o = {o.actionStart} := by
  obtain ⟨d, hd, haction⟩ :
      ∃ d, Draft.ofProblem Example.Switch.problem Example.Switch.problem.domains = .ok d ∧
        Transition.ofAction d .reject (.durative Example.Switch.activate) =
          .ok Example.Switch.activation :=
    ⟨_, rfl, rfl⟩
  obtain ⟨a, ha, hdurations, htimes, -⟩ := ofAction_timing haction
  obtain rfl := Action.durative.inj ha
  refine ⟨d, hd, haction, hdurations, fun c hc hstart o => ?_⟩
  rw [htimes c hc hstart o]
  obtain rfl := List.mem_singleton.mp hc
  rfl

/-- Activation is accepted with a duration that admits no number and a start condition that
holds at no time. -/
theorem open_switch_accepted :
    ∃ d, Draft.ofProblem Example.Switch.problem Example.Switch.problem.domains = .ok d ∧
      Transition.ofAction d .reject (.durative Example.Switch.activateOpen) =
        .ok Example.Switch.activation ∧
      Example.Switch.activateOpen.duration.durations = ∅ ∧
      ∃ c ∈ Example.Switch.activateOpen.conditions, c.interval.isAtStart = true ∧
        ∀ o : Occurrence, c.interval.times o = ∅ :=
  ⟨_, rfl, rfl, durations_of_fixed? (w := 5) rfl, _, List.mem_cons_self, rfl,
    times_of_isAtStart rfl⟩

end PlanTimelines
