import PlanTimelines.Transition

/-! Entering the transitions of actions into a draft. -/

namespace PlanTimelines

/-- What happened to the temporary value of a transition. -/
inductive Claim where
  /-- It had no action before. -/
  | new
  /-- An action with the same footprint had claimed it already. -/
  | merged
deriving DecidableEq, Repr

namespace DraftValue

/-- The value is held for the same time, and provides and consumes the same. -/
def hasFootprint (v : DraftValue) (t : Transition) : Bool :=
  v.duration == some t.duration && v.provides == t.provides &&
    v.consumes == t.consumes.toList

/-- The value as the transition claims it. -/
def claim (v : DraftValue) (t : Transition) : DraftValue :=
  { v with
    duration := some t.duration
    claimedBy := some t.action
    consumes := t.consumes.toList
    provides := t.provides }

end DraftValue

namespace DraftTimeline

/-- The two edges of a transition. -/
def addTransition (dt : DraftTimeline) (t : Transition) : DraftTimeline :=
  (dt.addEdge t.source t.temporary).addEdge t.temporary t.final

end DraftTimeline

namespace Draft

/-- The number of providers that a resource would have with one more. -/
def providersWithOneMore (d : Draft) (resource : String) : Nat :=
  ((d.resource? resource).map (·.providers.length)).getD 0 + 1

/-- Records the temporary value of a transition as the provider of a resource. Every
providing action counts as a provider of its own, and a second one is refused. -/
def addProvider (d : Draft) (t : Transition) (use : ResourceUse) :
    Draft × Except ConversionError Claim :=
  match d.resource? use.resource with
  | none => (d, .error (.unsupportedAction t.action (.notAResource use.resource)))
  | some r =>
    if r.providers.isEmpty then
      (d.updateResource use.resource fun r =>
        { r with providers := r.providers ++ [⟨.named t.timeline, t.temporary, use.amount⟩] },
        .ok .new)
    else (d, .error (.providerConflict r.name (d.providersWithOneMore use.resource)))

/-- Claims the temporary value of a transition that has no action yet. -/
def claimValue (d : Draft) (t : Transition) : Draft × Except ConversionError Claim :=
  let d := d.updateTimeline t.timeline fun dt => dt.updateValue t.temporary (·.claim t)
  match t.provides with
  | none => (d, .ok .new)
  | some use => d.addProvider t use

/-- The outcome for a temporary value that an action has claimed before. -/
def reclaim (d : Draft) (t : Transition) (v : DraftValue) (claimedBy : String) :
    Except ConversionError Claim :=
  if v.hasFootprint t then
    match t.provides with
    | none => .ok .merged
    | some use =>
      .error (.providerConflict use.resource (d.providersWithOneMore use.resource))
  else
    .error (.unsupportedAction t.action
      (.conflictingValueClaim t.timeline t.temporary claimedBy))

/-- Enters a transition: its two edges, then the claim on its temporary value. What
was written before a refusal stays. -/
def enter (d : Draft) (t : Transition) : Draft × Except ConversionError Claim :=
  match d.timeline? t.timeline with
  | none => (d, .error (.unsupportedAction t.action (.notATimeline t.timeline)))
  | some dt =>
    let d := d.updateTimeline t.timeline (·.addTransition t)
    match dt.value? t.temporary with
    | none =>
      (d, .error (.unsupportedAction t.action
        (.unknownValue t.timeline t.temporary .temporary)))
    | some v =>
      match v.claimedBy with
      | some claimedBy => (d, d.reclaim t v claimedBy)
      | none => d.claimValue t

/-- An action that was entered. -/
structure Entry where
  transition : Transition
  claim : Claim
deriving DecidableEq, Repr

/-- The transition of an action, under the error of the conversion. -/
def transitionOf (d : Draft) (policy : EndConditions) (action : Action) :
    Except ConversionError Transition :=
  match Transition.ofAction d policy action with
  | .ok t => .ok t
  | .error violation => .error (.unsupportedAction action.name violation)

/-- Enters actions one after the other until one is refused. Gives the entries made
and the draft, or the error. -/
def enterAll (policy : EndConditions) (d : Draft) :
    List Action → List Entry × Except ConversionError Draft
  | [] => ([], .ok d)
  | action :: rest =>
    match d.transitionOf policy action with
    | .error e => ([], .error e)
    | .ok t =>
      match d.enter t with
      | (_, .error e) => ([], .error e)
      | (d', .ok claim) =>
        let (entries, result) := enterAll policy d' rest
        (⟨t, claim⟩ :: entries, result)

end Draft

end PlanTimelines
