import PlanTimelines.Assembly
import PlanTimelines.Proofs.DraftNames

/-! What entering a transition can do. `Draft.Enters` has one constructor for each way in
which it can end, with the draft that is left and the outcome. -/

namespace PlanTimelines

namespace Draft

/-- The draft with the two edges of a transition. -/
def withEdges (d : Draft) (t : Transition) : Draft :=
  d.updateTimeline t.timeline (·.addTransition t)

/-- The draft with the edges, and with the temporary value claimed. -/
def withClaim (d : Draft) (t : Transition) : Draft :=
  (d.withEdges t).updateTimeline t.timeline fun dt => dt.updateValue t.temporary (·.claim t)

/-- The draft with the temporary value added to the providers of a resource. -/
def withProvider (d : Draft) (t : Transition) (use : ResourceUse) : Draft :=
  d.updateResource use.resource fun r =>
    { r with providers := r.providers ++ [⟨.named t.timeline, t.temporary, use.amount⟩] }

inductive Enters (d : Draft) (t : Transition) : Draft → Except ConversionError Claim → Prop where
  | unknownTimeline (htimeline : d.timeline? t.timeline = none) :
    Enters d t d (.error (.unsupportedAction t.action (.notATimeline t.timeline)))
  | unknownValue {dt : DraftTimeline} (htimeline : d.timeline? t.timeline = some dt)
    (hvalue : dt.value? t.temporary = none) :
    Enters d t (d.withEdges t) (.error (.unsupportedAction t.action
      (.unknownValue t.timeline t.temporary .temporary)))
  | conflictingClaim {dt : DraftTimeline} {v : DraftValue} {claimedBy : String}
    (htimeline : d.timeline? t.timeline = some dt) (hvalue : dt.value? t.temporary = some v)
    (hclaimed : v.claimedBy = some claimedBy) (hfootprint : v.hasFootprint t = false) :
    Enters d t (d.withEdges t) (.error (.unsupportedAction t.action
      (.conflictingValueClaim t.timeline t.temporary claimedBy)))
  | providedAgain {dt : DraftTimeline} {v : DraftValue} {claimedBy : String} {use : ResourceUse}
    (htimeline : d.timeline? t.timeline = some dt) (hvalue : dt.value? t.temporary = some v)
    (hclaimed : v.claimedBy = some claimedBy) (hfootprint : v.hasFootprint t = true)
    (hprovides : t.provides = some use) :
    Enters d t (d.withEdges t)
      (.error (.providerConflict use.resource (d.providersWithOneMore use.resource)))
  | merged {dt : DraftTimeline} {v : DraftValue} {claimedBy : String}
    (htimeline : d.timeline? t.timeline = some dt) (hvalue : dt.value? t.temporary = some v)
    (hclaimed : v.claimedBy = some claimedBy) (hfootprint : v.hasFootprint t = true)
    (hprovides : t.provides = none) :
    Enters d t (d.withEdges t) (.ok .merged)
  | claimed {dt : DraftTimeline} {v : DraftValue}
    (htimeline : d.timeline? t.timeline = some dt) (hvalue : dt.value? t.temporary = some v)
    (hclaimed : v.claimedBy = none) (hprovides : t.provides = none) :
    Enters d t (d.withClaim t) (.ok .new)
  | notAResource {dt : DraftTimeline} {v : DraftValue} {use : ResourceUse}
    (htimeline : d.timeline? t.timeline = some dt) (hvalue : dt.value? t.temporary = some v)
    (hclaimed : v.claimedBy = none) (hprovides : t.provides = some use)
    (hresource : d.resource? use.resource = none) :
    Enters d t (d.withClaim t)
      (.error (.unsupportedAction t.action (.notAResource use.resource)))
  | secondProvider {dt : DraftTimeline} {v : DraftValue} {use : ResourceUse} {r : DraftResource}
    (htimeline : d.timeline? t.timeline = some dt) (hvalue : dt.value? t.temporary = some v)
    (hclaimed : v.claimedBy = none) (hprovides : t.provides = some use)
    (hresource : d.resource? use.resource = some r) (hproviders : r.providers ≠ []) :
    Enters d t (d.withClaim t)
      (.error (.providerConflict use.resource (d.providersWithOneMore use.resource)))
  | provider {dt : DraftTimeline} {v : DraftValue} {use : ResourceUse} {r : DraftResource}
    (htimeline : d.timeline? t.timeline = some dt) (hvalue : dt.value? t.temporary = some v)
    (hclaimed : v.claimedBy = none) (hprovides : t.provides = some use)
    (hresource : d.resource? use.resource = some r) (hproviders : r.providers = []) :
    Enters d t ((d.withClaim t).withProvider t use) (.ok .new)

end Draft

variable (d : Draft) (t : Transition)

@[simp] theorem resource?_withClaim (name : String) :
    (d.withClaim t).resource? name = d.resource? name := rfl

theorem name_of_resource? {d : Draft} {name : String} {r : DraftResource}
    (h : d.resource? name = some r) : r.name = name := by
  simpa using (mem_of_findLast? h).2

theorem enters_enter : d.Enters t (d.enter t).1 (d.enter t).2 := by
  unfold Draft.enter
  cases htimeline : d.timeline? t.timeline with
  | none => exact .unknownTimeline htimeline
  | some dt =>
    simp only
    cases hvalue : dt.value? t.temporary with
    | none => exact .unknownValue htimeline hvalue
    | some v =>
      simp only
      cases hclaimed : v.claimedBy with
      | some claimedBy =>
        simp only [Draft.reclaim]
        cases hfootprint : v.hasFootprint t with
        | false => exact .conflictingClaim htimeline hvalue hclaimed hfootprint
        | true =>
          cases hprovides : t.provides with
          | none => exact .merged htimeline hvalue hclaimed hfootprint hprovides
          | some use => exact .providedAgain htimeline hvalue hclaimed hfootprint hprovides
      | none =>
        simp only [Draft.claimValue]
        cases hprovides : t.provides with
        | none => exact .claimed htimeline hvalue hclaimed hprovides
        | some use =>
          change d.Enters t ((d.withClaim t).addProvider t use).1
            ((d.withClaim t).addProvider t use).2
          unfold Draft.addProvider
          rw [resource?_withClaim]
          cases hresource : d.resource? use.resource with
          | none => exact .notAResource htimeline hvalue hclaimed hprovides hresource
          | some r =>
            simp only [List.isEmpty_iff]
            by_cases hproviders : r.providers = []
            · rw [if_pos hproviders]
              exact .provider htimeline hvalue hclaimed hprovides hresource hproviders
            · rw [if_neg hproviders, name_of_resource? hresource]
              exact .secondProvider htimeline hvalue hclaimed hprovides hresource hproviders

/-! ## Entering keeps names -/

theorem edges_addEdge (dt : DraftTimeline) (source target : String) :
    (dt.addEdge source target).edges =
      if (source, target) ∈ dt.edges then dt.edges else dt.edges ++ [(source, target)] := by
  unfold DraftTimeline.addEdge
  split <;> rfl

/-- Only the edges of a timeline grow with a transition. -/
theorem addTransition_eq (dt : DraftTimeline) :
    dt.addTransition t = { dt with edges := (dt.addTransition t).edges } := by
  unfold DraftTimeline.addTransition DraftTimeline.addEdge
  split <;> split <;> rfl

theorem map_name_updateValue (dt : DraftTimeline) (name : String) :
    (dt.updateValue name (·.claim t)).values.map DraftValue.name =
      dt.values.map DraftValue.name := by
  apply map_updateFirst
  intro v
  rfl

theorem sameNames_withEdges : (d.withEdges t).SameNames d := by
  apply sameNames_updateTimeline
  · intro dt
    rw [addTransition_eq]
  · intro dt
    rw [addTransition_eq]

theorem sameNames_withClaim : (d.withClaim t).SameNames d := by
  refine .trans ?_ (sameNames_withEdges d t)
  apply sameNames_updateTimeline
  · intro dt
    rfl
  · intro dt
    exact map_name_updateValue t dt t.temporary

theorem Draft.Enters.sameNames {d d' : Draft} {t : Transition}
    {outcome : Except ConversionError Claim} (h : d.Enters t d' outcome) : d'.SameNames d := by
  cases h with
  | unknownTimeline => exact .refl d
  | unknownValue | conflictingClaim | providedAgain | merged => exact sameNames_withEdges d t
  | claimed | notAResource | secondProvider => exact sameNames_withClaim d t
  | provider =>
    refine .trans ?_ (sameNames_withClaim d t)
    apply sameNames_updateResource
    intro r
    rfl

end PlanTimelines
