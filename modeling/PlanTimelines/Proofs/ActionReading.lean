import PlanTimelines.Proofs.Slots

/-! What the analysis of an action reads. Its two loops, over the conditions and over the
effects, are runs over slots: each succeeds exactly if every entry is allowed by itself and
all that is written to a slot is the same. -/

namespace PlanTimelines

/-! ## Start conditions -/

/-- The conditions of an action at its start, with all conjunctions unfolded. -/
def DurativeAction.startConjuncts (a : DurativeAction) : List Term :=
  (a.conditions.filter (·.interval.isAtStart)).flatMap (·.condition.conjuncts)

/-- The label and the value of a test. -/
def Term.test? : Term → Option (String × String)
  | .eq lhs rhs => lhs.stateVar?.bind fun v => rhs.valueName?.map fun value => (v.label, value)
  | _ => none

theorem equality_eq_ok {d : Draft} {q : Term} {p : String × String} :
    d.equality q = .ok p ↔ q.test? = some p ∧ d.kind? p.1 = some .timeline := by
  cases q with
  | eq lhs rhs =>
    simp only [Draft.equality, Term.test?]
    cases lhs.stateVar? with
    | none => simp
    | some v =>
      cases rhs.valueName? with
      | none => simp
      | some value =>
        simp only [Option.bind_some, Option.map_some, Option.some.injEq]
        constructor
        · intro h
          split at h
          · rename_i hkind
            obtain rfl := Except.ok.inj h
            exact ⟨rfl, hkind⟩
          · cases h
        · intro h
          obtain ⟨rfl, hkind⟩ := h
          exact if_pos hkind
  | _ => simp [Draft.equality, Term.test?]

inductive SourceSlot where
  | timeline
  | source

def SourceState.get (s : SourceState) : SourceSlot → Option String
  | .timeline => s.timeline
  | .source => s.source

theorem SourceState.slotted : Slotted SourceState.get where
  ext := by
    rintro ⟨t, v⟩ ⟨t', v'⟩ h
    obtain rfl : t = t' := h .timeline
    obtain rfl : v = v' := h .source
    rfl
  fill f := ⟨⟨f .timeline, f .source⟩, by rintro (_ | _) <;> rfl⟩

/-- What a conjunct writes into a slot. -/
def Term.asks (q : Term) : SourceSlot → List String
  | .timeline => (q.test?.map Prod.fst).toList
  | .source => (q.test?.map Prod.snd).toList

/-- The conjunct tests a timeline. -/
def Term.IsTest (d : Draft) (q : Term) : Prop :=
  ∃ p, q.test? = some p ∧ d.kind? p.1 = some .timeline

theorem addConjunct_eq_ok (d : Draft) (s : SourceState) (q : Term) (s' : SourceState) :
    s.addConjunct d q = .ok s' ↔ q.IsTest d ∧
      ∀ k, Common (s'.get k) ((s.get k).toList ++ q.asks k) := by
  unfold SourceState.addConjunct
  simp only [bind_eq_ok, equality_eq_ok, fixOnce_eq_ok, pure_eq_ok]
  constructor
  · intro h
    obtain ⟨p, hp, timeline, htimeline, source, hsource, rfl⟩ := h
    refine ⟨⟨p, hp⟩, ?_⟩
    rintro (_ | _)
    · simpa [SourceState.get, Term.asks, hp.1] using htimeline
    · simpa [SourceState.get, Term.asks, hp.1] using hsource
  · intro h
    obtain ⟨⟨p, hp⟩, h⟩ := h
    refine ⟨p, hp, s'.timeline, ?_, s'.source, ?_, rfl⟩
    · simpa [SourceState.get, Term.asks, hp.1] using h .timeline
    · simpa [SourceState.get, Term.asks, hp.1] using h .source

/-- The conjuncts that count of a condition. -/
def TimedCondition.startConjuncts (c : TimedCondition) : List Term :=
  if c.interval.isAtStart then c.condition.conjuncts else []

theorem isAtStart_eq_false_of_isAtEnd {i : Interval} (h : i.isAtEnd = true) :
    i.isAtStart = false := by
  simp only [Interval.isAtEnd, Timing.isEnd, Bool.and_eq_true, beq_iff_eq] at h
  simp [Interval.isAtStart, Timing.isStart, h.1, Timing.atEnd, Timing.atStart]

theorem addCondition_eq_ok (d : Draft) (policy : EndConditions) (s : SourceState)
    (c : TimedCondition) (s' : SourceState) :
    s.addCondition d policy c = .ok s' ↔
      ((c.interval.isAtStart = true ∨ c.interval.isAtEnd = true ∧ policy = .ignore) ∧
        ∀ q ∈ c.startConjuncts, q.IsTest d) ∧
      ∀ k, Common (s'.get k) ((s.get k).toList ++ c.startConjuncts.flatMap (·.asks k)) := by
  unfold SourceState.addCondition TimedCondition.startConjuncts
  by_cases hend : c.interval.isAtEnd = true
  · have hstart := isAtStart_eq_false_of_isAtEnd hend
    cases policy with
    | ignore =>
      simp only [hend, hstart, if_true, Bool.false_eq_true, if_false, Except.ok.injEq,
        List.flatMap_nil, List.append_nil, common_toList]
      constructor
      · intro h
        subst h
        simp
      · intro h
        exact SourceState.slotted.ext s s' fun k => (h.2 k).symm
    | reject => simp [hend, hstart]
  · by_cases hstart : c.interval.isAtStart = true
    · simp only [hend, hstart, if_true, Bool.false_eq_true, if_false, true_or, true_and]
      exact SourceState.slotted.foldlM_eq_ok (addConjunct_eq_ok d) _ s s'
    · simp [hend, hstart]

theorem sourceState_eq_ok {d : Draft} {policy : EndConditions} {a : DurativeAction}
    {s : SourceState} :
    sourceState d policy a = .ok s ↔
      (∀ c ∈ a.conditions,
        c.interval.isAtStart = true ∨ c.interval.isAtEnd = true ∧ policy = .ignore) ∧
      (∀ q ∈ a.startConjuncts, q.IsTest d) ∧
      ∀ k, Common (s.get k) (a.startConjuncts.flatMap (·.asks k)) := by
  have hconj : a.startConjuncts = a.conditions.flatMap TimedCondition.startConjuncts := by
    unfold DurativeAction.startConjuncts TimedCondition.startConjuncts
    induction a.conditions with
    | nil => rfl
    | cons c rest ih => cases h : c.interval.isAtStart <;> simp_all
  unfold sourceState
  rw [SourceState.slotted.foldlM_eq_ok (addCondition_eq_ok d policy), hconj]
  simp only [List.flatMap_assoc, forall_and, List.mem_flatMap, forall_exists_index, and_imp,
    and_assoc]
  constructor
  · intro h
    obtain ⟨htimed, htests, h⟩ := h
    exact ⟨htimed, fun q c hc hq => htests c hc q hq,
      fun k => by cases k <;> exact h _⟩
  · intro h
    obtain ⟨htimed, htests, h⟩ := h
    exact ⟨htimed, fun c hc q hq => htests q c hc hq,
      fun k => by cases k <;> exact h _⟩

/-! ## Effects -/

inductive EffectSlot where
  | timeline
  | assigned (point : ActionPoint)
  | used (flow : Flow)
deriving DecidableEq

@[reducible] def EffectSlot.Value : EffectSlot → Type
  | .timeline => String
  | .assigned _ => String
  | .used _ => ResourceUse

def EffectState.get (s : EffectState) : (k : EffectSlot) → Option k.Value
  | .timeline => s.timeline
  | .assigned .start => s.temporary
  | .assigned .finish => s.final
  | .used .provided => s.provided
  | .used .withdrawn => s.withdrawn
  | .used .consumed => s.consumed
  | .used .released => s.released

theorem EffectState.slotted : Slotted EffectState.get where
  ext := by
    rintro ⟨_, _, _, _, _, _, _⟩ ⟨_, _, _, _, _, _, _⟩ h
    simp only [EffectState.mk.injEq]
    exact ⟨h .timeline, h (.assigned .start), h (.assigned .finish), h (.used .provided),
      h (.used .withdrawn), h (.used .consumed), h (.used .released)⟩
  fill f := ⟨⟨f .timeline, f (.assigned .start), f (.assigned .finish), f (.used .provided),
      f (.used .withdrawn), f (.used .consumed), f (.used .released)⟩,
    by rintro (_ | (_ | _) | (_ | _ | _ | _)) <;> rfl⟩

/-- The state with one slot filled anew. -/
def EffectState.set (s : EffectState) : (k : EffectSlot) → Option k.Value → EffectState
  | .timeline, value => { s with timeline := value }
  | .assigned .start, value => { s with temporary := value }
  | .assigned .finish, value => { s with final := value }
  | .used .provided, use => { s with provided := use }
  | .used .withdrawn, use => { s with withdrawn := use }
  | .used .consumed, use => { s with consumed := use }
  | .used .released, use => { s with released := use }

@[simp] theorem EffectState.get_set_self (s : EffectState) (k : EffectSlot)
    (value : Option k.Value) : (s.set k value).get k = value := by
  rcases k with _ | (_ | _) | (_ | _ | _ | _) <;> rfl

theorem EffectState.get_set_ne (s : EffectState) {j k : EffectSlot} (value : Option k.Value)
    (h : j ≠ k) : (s.set k value).get j = s.get j := by
  rcases k with _ | (_ | _) | (_ | _ | _ | _) <;>
    rcases j with _ | (_ | _) | (_ | _ | _ | _) <;> first | rfl | exact absurd rfl h

theorem EffectState.set_eq_iff {s s' : EffectState} {k : EffectSlot} {value : Option k.Value} :
    s.set k value = s' ↔ s'.get k = value ∧ ∀ j, j ≠ k → s'.get j = s.get j := by
  constructor
  · intro h
    subst h
    exact ⟨s.get_set_self k value, fun j hj => s.get_set_ne value hj⟩
  · intro h
    obtain ⟨hk, h⟩ := h
    apply EffectState.slotted.ext
    intro j
    by_cases hj : j = k
    · subst hj
      rw [get_set_self, hk]
    · rw [get_set_ne s value hj, h j hj]

/-- The way in which the effect touches a resource. -/
def Effect.flow? (e : Effect) : Option Flow :=
  match e.kind with
  | .assign => none
  | .increase => e.timing.point?.map (Flow.ofChange true)
  | .decrease => e.timing.point?.map (Flow.ofChange false)

/-- The change of a resource, if the amount is a constant in range. -/
def Effect.use? (e : Effect) : Option ResourceUse :=
  (e.value.int?.bind word?).map fun amount => ⟨e.target.label, amount⟩

/-- The values that an effect sets at one end of the action. -/
def Effect.assigned (e : Effect) (point : ActionPoint) : List String :=
  if e.kind = .assign ∧ e.timing.point? = some point then e.value.valueName?.toList else []

/-- The changes of a resource in one way. -/
def Effect.used (e : Effect) (flow : Flow) : List ResourceUse :=
  if e.flow? = some flow then e.use?.toList else []

/-- What an effect writes into a slot. -/
def Effect.writes (e : Effect) : (k : EffectSlot) → List k.Value
  | .timeline => if e.kind = .assign then [e.target.label] else []
  | .assigned point => e.assigned point
  | .used flow => e.used flow

/-- What an effect has to be by itself. -/
structure Effect.Allowed (d : Draft) (e : Effect) : Prop where
  unguarded : e.isUnconditional = true
  atAnEnd : ∃ point, e.timing.point? = some point
  assigns : e.kind = .assign →
    d.kind? e.target.label = some .timeline ∧ ∃ value, e.value.valueName? = some value
  changes : e.kind ≠ .assign →
    d.kind? e.target.label = some .resource ∧ ∃ use, e.use? = some use

theorem addUse_eq_ok {s s' : EffectState} {flow : Flow} {use : ResourceUse} :
    s.addUse flow use = .ok s' ↔
      Common (s'.get (.used flow)) ((s.get (.used flow)).toList ++ [use]) ∧
      ∀ k, k ≠ .used flow → s'.get k = s.get k := by
  have heq : s.addUse flow use =
      (fixOnce (s.get (.used flow)) use fun _ _ => .multipleResources flow).map
        (s.set (.used flow)) := by
    cases flow <;> rfl
  simp only [heq, map_eq_ok, fixOnce_eq_ok, EffectState.set_eq_iff]
  constructor
  · intro h
    obtain ⟨_, hu, rfl, h⟩ := h
    exact ⟨hu, h⟩
  · intro h
    obtain ⟨hu, h⟩ := h
    exact ⟨_, hu, rfl, h⟩

theorem addAssign_eq_ok {d : Draft} {s s' : EffectState} {point : ActionPoint} {label : String}
    {value : Term} :
    s.addAssign d point label value = .ok s' ↔
      d.kind? label = some .timeline ∧ ∃ name, value.valueName? = some name ∧
        Common (s'.get .timeline) ((s.get .timeline).toList ++ [label]) ∧
        Common (s'.get (.assigned point)) ((s.get (.assigned point)).toList ++ [name]) ∧
        ∀ k, k ≠ .timeline → k ≠ .assigned point → s'.get k = s.get k := by
  by_cases hkind : d.kind? label = some .timeline
  · cases hname : value.valueName? with
    | none => simp [EffectState.addAssign, hkind, hname]
    | some name =>
      have heq : s.addAssign d point label value = (do
          let timeline ← fixOnce (s.get .timeline) label .multipleStateVariables
          let slot ← fixOnce (s.get (.assigned point)) name (.conflictingTransitionTarget point)
          return (s.set .timeline timeline).set (.assigned point) slot) := by
        cases point <;> simp [EffectState.addAssign, hkind, hname] <;> rfl
      simp only [heq, hkind, true_and, Option.some.injEq, exists_eq_left', bind_eq_ok,
        fixOnce_eq_ok, pure_eq_ok, EffectState.set_eq_iff]
      constructor
      · intro h
        obtain ⟨timeline, htimeline, slot, hslot, rfl, h⟩ := h
        have hget := h .timeline (by simp)
        rw [EffectState.get_set_self] at hget
        refine ⟨hget ▸ htimeline, hslot, fun k hk hk' => ?_⟩
        rw [h k hk', EffectState.get_set_ne s timeline hk]
      · intro h
        obtain ⟨htimeline, hslot, h⟩ := h
        refine ⟨_, htimeline, _, hslot, rfl, fun k hk' => ?_⟩
        by_cases hk : k = .timeline
        · subst hk
          rw [EffectState.get_set_self]
        · rw [EffectState.get_set_ne s _ hk, h k hk hk']
  · simp [EffectState.addAssign, hkind]

theorem resourceUse_eq_ok {d : Draft} {e : Effect} {use : ResourceUse} :
    d.resourceUse e.target.label e.value = .ok use ↔
      d.kind? e.target.label = some .resource ∧ e.use? = some use := by
  unfold Draft.resourceUse Effect.use?
  by_cases hkind : d.kind? e.target.label = some .resource
  · cases e.value.int?.bind word? <;> simp [hkind]
  · simp [hkind]

/-- A change of a resource, as the effects at hand make it. -/
theorem addChange_eq_ok (d : Draft) (s s' : EffectState) (e : Effect) (flow : Flow)
    (hkind : e.kind ≠ .assign) (hflow : e.flow? = some flow) :
    (d.resourceUse e.target.label e.value >>= s.addUse flow) = .ok s' ↔
      (d.kind? e.target.label = some .resource ∧ ∃ use, e.use? = some use) ∧
      ∀ k, Common (s'.get k) ((s.get k).toList ++ e.writes k) := by
  have writes : ∀ k, k ≠ .used flow → e.writes k = [] := by
    rintro (_ | point | flow') hk
    · simp [Effect.writes, hkind]
    · simp [Effect.writes, Effect.assigned, hkind]
    · have : flow ≠ flow' := fun h => hk (h ▸ rfl)
      simp [Effect.writes, Effect.used, hflow, this]
  simp only [bind_eq_ok, resourceUse_eq_ok, addUse_eq_ok]
  constructor
  · intro h
    obtain ⟨use, ⟨hresource, huse⟩, hcommon, h⟩ := h
    refine ⟨⟨hresource, use, huse⟩, fun k => ?_⟩
    by_cases hk : k = .used flow
    · subst hk
      simpa [Effect.writes, Effect.used, hflow, huse] using hcommon
    · rw [writes k hk, List.append_nil, common_toList]
      exact h k hk
  · intro h
    obtain ⟨⟨hresource, use, huse⟩, h⟩ := h
    refine ⟨use, ⟨hresource, huse⟩, ?_, fun k hk => ?_⟩
    · simpa [Effect.writes, Effect.used, hflow, huse] using h (.used flow)
    · have := h k
      rwa [writes k hk, List.append_nil, common_toList] at this

theorem addEffect_eq_ok (d : Draft) (s : EffectState) (e : Effect) (s' : EffectState) :
    s.addEffect d e = .ok s' ↔
      e.Allowed d ∧ ∀ k, Common (s'.get k) ((s.get k).toList ++ e.writes k) := by
  unfold EffectState.addEffect
  by_cases hguard : e.isUnconditional = true
  · cases hpoint : e.timing.point? with
    | none =>
      simp only [hguard, if_true, reduceCtorEq, false_iff]
      intro h
      obtain ⟨hallowed, -⟩ := h
      obtain ⟨point, h⟩ := hallowed.atAnEnd
      rw [hpoint] at h
      cases h
    | some point =>
      have allowed_iff : e.Allowed d ↔
          (e.kind = .assign →
            d.kind? e.target.label = some .timeline ∧ ∃ value, e.value.valueName? = some value) ∧
          (e.kind ≠ .assign →
            d.kind? e.target.label = some .resource ∧ ∃ use, e.use? = some use) :=
        ⟨fun h => ⟨h.assigns, h.changes⟩, fun h => ⟨hguard, ⟨point, hpoint⟩, h.1, h.2⟩⟩
      simp only [hguard, if_true, allowed_iff]
      cases hkind : e.kind with
      | assign =>
        simp only [addAssign_eq_ok, forall_const, ne_eq, not_true, false_imp_iff, and_true]
        constructor
        · intro h
          obtain ⟨htimeline, name, hname, hcommon, hslot, h⟩ := h
          refine ⟨⟨htimeline, name, hname⟩, ?_⟩
          rintro (_ | point' | flow)
          · simpa [Effect.writes, hkind] using hcommon
          · by_cases hp : point = point'
            · subst hp
              simpa [Effect.writes, Effect.assigned, hkind, hpoint, hname] using hslot
            · simpa [Effect.writes, Effect.assigned, hpoint, hp, common_toList] using
                h (.assigned point') (by simp) (by simpa using Ne.symm hp)
          · simpa [Effect.writes, Effect.used, Effect.flow?, hkind, common_toList] using
              h (.used flow) (by simp) (by simp)
        · intro h
          obtain ⟨⟨htimeline, name, hname⟩, h⟩ := h
          refine ⟨htimeline, name, hname, ?_, ?_, ?_⟩
          · simpa [Effect.writes, hkind] using h .timeline
          · simpa [Effect.writes, Effect.assigned, hkind, hpoint, hname] using h (.assigned point)
          · rintro (_ | point' | flow) hk hk'
            · exact absurd rfl hk
            · have hp : point ≠ point' := fun hp => hk' (hp ▸ rfl)
              simpa [Effect.writes, Effect.assigned, hpoint, hp, common_toList] using
                h (.assigned point')
            · simpa [Effect.writes, Effect.used, Effect.flow?, hkind, common_toList] using
                h (.used flow)
      | increase =>
        simpa [hkind] using addChange_eq_ok d s s' e (.ofChange true point) (by simp [hkind])
          (by simp [Effect.flow?, hkind, hpoint])
      | decrease =>
        simpa [hkind] using addChange_eq_ok d s s' e (.ofChange false point) (by simp [hkind])
          (by simp [Effect.flow?, hkind, hpoint])
  · simp only [hguard, Bool.false_eq_true, if_false, reduceCtorEq, false_iff]
    intro h
    obtain ⟨hallowed, -⟩ := h
    exact hguard hallowed.unguarded

theorem effectState_eq_ok {d : Draft} {timeline : Option String} {a : DurativeAction}
    {s : EffectState} :
    effectState d timeline a = .ok s ↔ (∀ e ∈ a.effects, e.Allowed d) ∧
      ∀ k, Common (s.get k)
        (((EffectState.start timeline).get k).toList ++ a.effects.flatMap (·.writes k)) :=
  EffectState.slotted.foldlM_eq_ok (addEffect_eq_ok d) a.effects (.start timeline) s

end PlanTimelines
