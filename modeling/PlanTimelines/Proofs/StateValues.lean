import PlanTimelines.Proofs.EnteredDraft
import PlanTimelines.Proofs.Goals

/-! The initial values and the goals of a draft. Each is a value of its timeline, from the
entry that writes it down to the end of the conversion. -/

namespace PlanTimelines

/-- A timeline starts at a value of its own, and is to reach one. -/
structure DraftTimeline.StateKnown (dt : DraftTimeline) : Prop where
  initial : ∀ value, dt.initial = some value → dt.hasValue value = true
  goal : ∀ value, dt.goal = some value → dt.hasValue value = true

def Draft.StateKnown (d : Draft) : Prop :=
  ∀ dt ∈ d.timelines, dt.StateKnown

variable {d d' : Draft}

/-! ## Writing down -/

theorem stateKnown_addInitial {entry : InitialEntry} (hd : d.StateKnown)
    (h : d.addInitial entry = .ok d') : d'.StateKnown := by
  obtain ⟨key, value, -, hstart, rfl⟩ := addInitial_eq_ok.mp h
  cases hstart with
  | resource hresource =>
    rw [Draft.writeInitial, hresource]
    exact hd
  | @timeline dt₀ name hresource hdt₀ hname hvalue =>
    rw [Draft.writeInitial, hresource]
    intro dt hdt
    rcases mem_updateLast hdt with hdt | ⟨dt₁, hdt₁, rfl⟩
    · exact hd dt hdt
    · obtain rfl := Option.some.inj (hdt₀.symm.trans hdt₁)
      refine ⟨fun value' hvalue' => ?_, (hd dt₀ (mem_of_findLast? hdt₀).1).goal⟩
      obtain rfl := Option.some.inj (hname.symm.trans hvalue')
      exact hvalue

theorem stateKnown_addGoal {goal : Term} (hd : d.StateKnown) (h : d.addGoal goal = .ok d') :
    d'.StateKnown := by
  obtain ⟨_, key, _, value, hasks, rfl⟩ := addGoal_eq_ok.mp h
  obtain ⟨dt₀, hdt₀, hvalue⟩ := (Option.any_eq_true _ _).mp hasks.hvalue
  intro dt hdt
  rcases mem_updateLast hdt with hdt | ⟨dt₁, hdt₁, rfl⟩
  · exact hd dt hdt
  · obtain rfl := Option.some.inj (hdt₀.symm.trans hdt₁)
    refine ⟨(hd dt₀ (mem_of_findLast? hdt₀).1).initial, fun value' hvalue' => ?_⟩
    obtain rfl := Option.some.inj hvalue'
    exact hvalue

/-! ## Before and after the actions -/

theorem stateKnown_of_isFresh (h : d.IsFresh) : d.StateKnown := by
  intro dt hdt
  obtain ⟨values, hvalues⟩ := h.timelines dt hdt
  rw [hvalues]
  constructor <;> intro value hvalue <;> cases hvalue

theorem stateKnown_initialDraft {p : Problem} (h : p.initialDraft = .ok d) : d.StateKnown := by
  obtain ⟨fresh, hfresh, h⟩ := bind_eq_ok.mp h
  obtain ⟨_, -, h⟩ := bind_eq_ok.mp h
  obtain ⟨_, -, h⟩ := bind_eq_ok.mp h
  rw [← pure_eq_ok.mp h]
  refine runSteps_keeps (fun _ _ _ => stateKnown_addGoal) _ ?_
  exact runSteps_keeps (fun _ _ _ => stateKnown_addInitial) _
    (stateKnown_of_isFresh (isFresh_ofProblem hfresh))

theorem hasValue_entered (dt : DraftTimeline) (ts : List Transition) (value : String) :
    (dt.entered ts).hasValue value = dt.hasValue value := by
  unfold DraftTimeline.hasValue
  rw [value?_entered, Option.isSome_map]

/-- Actions change neither the state nor the values. -/
theorem stateKnown_entered (hd : d.StateKnown) (ts : List Transition) :
    (d.entered ts).StateKnown := by
  intro dt' hdt'
  obtain ⟨dt, hdt, rfl | rfl⟩ := mem_mapLasts hdt'
  · refine ⟨fun value hvalue => ?_, fun value hvalue => ?_⟩
    · exact (hasValue_entered ..).trans ((hd dt hdt).initial value hvalue)
    · exact (hasValue_entered ..).trans ((hd dt hdt).goal value hvalue)
  · exact hd dt' hdt

/-- Static tokens are at the values of the state. -/
theorem hasValue_of_mem_staticTokens {dt : DraftTimeline} (h : dt.StateKnown) {s : StaticToken}
    (hs : s ∈ dt.staticTokens) : dt.hasValue s.value = true := by
  rcases List.mem_append.mp hs with hs | hs
  · obtain ⟨value, hvalue, rfl⟩ := Option.map_eq_some_iff.mp (Option.mem_toList.mp hs)
    exact h.initial value hvalue
  · obtain ⟨value, hvalue, rfl⟩ := Option.map_eq_some_iff.mp (Option.mem_toList.mp hs)
    exact h.goal value hvalue

end PlanTimelines
