import PlanTimelines.Proofs.ActionReading

/-! The actions that make a transition. `DurativeAction.Makes` describes them without
any order of checks: what each condition and each effect has to be, and which of them
have to occur. The main statement, `ofAction_eq_ok_iff`, says that exactly these
actions are accepted, and with which transition. -/

namespace PlanTimelines

/-! ## The accepted actions -/

/-- The term says that the state variable of a label has a constant value. -/
def Term.Tests (q : Term) (label value : String) : Prop :=
  ∃ (v : StateVar) (rhs : Term),
    q = .eq v.toTerm rhs ∧ v.label = label ∧ rhs.valueName? = some value

/-- An effect of the kind at the timing. -/
def Effect.IsA (e : Effect) (kind : EffectKind) (timing : Timing) : Prop :=
  e.kind = kind ∧ e.timing = timing

/-- A resource changed in one way at the start and in the other at the end, always by
the same amount. Either both changes occur or neither does. -/
structure DurativeAction.Exchanges (a : DurativeAction) (first last : EffectKind)
    (use : Option ResourceUse) : Prop where
  same : ∀ e ∈ a.effects, e.IsA first .atStart ∨ e.IsA last .atEnd →
    ∃ amount : UInt32, e.value = .int amount.toNat ∧ use = some ⟨e.target.label, amount⟩
  both : use ≠ none →
    (∃ e ∈ a.effects, e.IsA first .atStart) ∧ ∃ e ∈ a.effects, e.IsA last .atEnd

/-- The action leads a timeline through the values of the transition, in its duration,
and holds the resources that the transition names. -/
structure DurativeAction.Makes (a : DurativeAction) (d : Draft) (policy : EndConditions)
    (t : Transition) : Prop where
  action : t.action = a.name
  simulated : a.simulated = []
  lower : a.duration.lower = .int t.duration.toNat
  upper : a.duration.upper = .int t.duration.toNat
  isTimeline : d.kind? t.timeline = some .timeline
  hasValues : ∀ value ∈ [t.source, t.temporary, t.final], d.hasValue t.timeline value = true
  timed : ∀ c ∈ a.conditions,
    c.interval.isAtStart = true ∨ c.interval.isAtEnd = true ∧ policy = .ignore
  conditioned : a.startConjuncts ≠ []
  tests : ∀ q ∈ a.startConjuncts, q.Tests t.timeline t.source
  unguarded : ∀ e ∈ a.effects, e.guard = none ∨ e.guard = some (.bool true)
  atAnEnd : ∀ e ∈ a.effects, e.timing = .atStart ∨ e.timing = .atEnd
  assigns : ∀ e ∈ a.effects, e.kind = .assign → e.target.label = t.timeline
  temporary : ∀ e ∈ a.effects, e.IsA .assign .atStart → e.value.valueName? = some t.temporary
  final : ∀ e ∈ a.effects, e.IsA .assign .atEnd → e.value.valueName? = some t.final
  assignsBoth :
    (∃ e ∈ a.effects, e.IsA .assign .atStart) ∧ ∃ e ∈ a.effects, e.IsA .assign .atEnd
  changes : ∀ e ∈ a.effects, e.kind ≠ .assign → d.kind? e.target.label = some .resource
  provides : a.Exchanges .increase .decrease t.provides
  consumes : a.Exchanges .decrease .increase t.consumes

/-! ## Numbers and durations -/

theorem word?_eq_some {n : Int} {w : UInt32} : word? n = some w ↔ n = w.toNat := by
  unfold word?
  constructor
  · intro h
    split at h
    · rename_i hn
      obtain rfl := Option.some.inj h
      rw [UInt32.toNat_ofNat_of_lt' hn.2, Int.toNat_of_nonneg hn.1]
    · cases h
  · intro h
    subst h
    rw [if_pos ⟨by omega, w.toNat_lt⟩]
    simp

theorem fixed?_eq_ok {r : DurationRange} {w : UInt32} :
    r.fixed? = .ok w ↔ r.lower = .int w.toNat ∧ r.upper = .int w.toNat := by
  unfold DurationRange.fixed?
  constructor
  · intro h
    split at h
    · rename_i lower upper hlower hupper
      split at h
      · rename_i heq
        subst heq
        split at h
        · rename_i duration hword
          obtain rfl := Except.ok.inj h
          rw [word?_eq_some] at hword
          subst hword
          exact ⟨Term.int?_eq_some.mp hlower, Term.int?_eq_some.mp hupper⟩
        · cases h
      · cases h
    · cases h
  · intro h
    obtain ⟨hlower, hupper⟩ := h
    rw [hlower, hupper]
    simp only [Term.int?, if_true]
    rw [word?_eq_some.mpr rfl]

/-! ## Tests -/

theorem test?_eq_some {q : Term} {label value : String} :
    q.test? = some (label, value) ↔ q.Tests label value := by
  constructor
  · intro h
    cases q with
    | eq lhs rhs =>
      obtain ⟨v, hv, h⟩ := Option.bind_eq_some_iff.mp h
      obtain ⟨name, hname, h⟩ := Option.map_eq_some_iff.mp h
      obtain ⟨rfl, rfl⟩ := Prod.mk.inj h
      exact ⟨v, rhs, by rw [Term.stateVar?_eq_some.mp hv], rfl, hname⟩
    | _ => cases h
  · intro h
    obtain ⟨v, rhs, rfl, rfl, hname⟩ := h
    simp [Term.test?, hname]

/-- The start conditions, if they are tests at all, agree on a timeline and a value. -/
theorem common_asks_iff {d : Draft} {qs : List Term} {timeline source : String}
    (hkind : d.kind? timeline = some .timeline) :
    ((∀ q ∈ qs, q.IsTest d) ∧ Common (some timeline) (qs.flatMap (·.asks .timeline)) ∧
        Common (some source) (qs.flatMap (·.asks .source))) ↔
      qs ≠ [] ∧ ∀ q ∈ qs, q.Tests timeline source := by
  constructor
  · intro h
    obtain ⟨htests, htimeline, hsource⟩ := h
    refine ⟨?_, fun q hq => ?_⟩
    · intro h
      subst h
      exact (common_some.mp hsource).1 rfl
    · obtain ⟨p, hp, -⟩ := htests q hq
      have h₁ := htimeline.eq_some (x := p.1)
        (List.mem_flatMap.mpr ⟨q, hq, by simp [Term.asks, hp]⟩)
      have h₂ := hsource.eq_some (x := p.2)
        (List.mem_flatMap.mpr ⟨q, hq, by simp [Term.asks, hp]⟩)
      rw [← test?_eq_some, hp, Option.some.inj h₁, Option.some.inj h₂]
  · intro h
    obtain ⟨hne, htests⟩ := h
    have hasks : ∀ q ∈ qs, q.test? = some (timeline, source) :=
      fun q hq => test?_eq_some.mpr (htests q hq)
    exact ⟨fun q hq => ⟨_, hasks q hq, hkind⟩,
      common_flatMap hne fun q hq => by simp [Term.asks, hasks q hq],
      common_flatMap hne fun q hq => by simp [Term.asks, hasks q hq]⟩

/-- What an accepted action asks for: its tests name one timeline and one value of it. -/
theorem sourceState_eq_ok_iff {d : Draft} {policy : EndConditions} {a : DurativeAction}
    {timeline source : String} (hkind : d.kind? timeline = some .timeline) :
    sourceState d policy a = .ok ⟨some timeline, some source⟩ ↔
      (∀ c ∈ a.conditions,
        c.interval.isAtStart = true ∨ c.interval.isAtEnd = true ∧ policy = .ignore) ∧
      a.startConjuncts ≠ [] ∧ ∀ q ∈ a.startConjuncts, q.Tests timeline source := by
  rw [sourceState_eq_ok, ← common_asks_iff hkind]
  constructor
  · intro h
    obtain ⟨htimed, htests, h⟩ := h
    exact ⟨htimed, htests, h .timeline, h .source⟩
  · intro h
    obtain ⟨htimed, htests, htimeline, hsource⟩ := h
    refine ⟨htimed, htests, ?_⟩
    rintro (_ | _)
    · exact htimeline
    · exact hsource

/-- An action whose tests name a value names a timeline as well. -/
theorem exists_timeline_of_sourceState {d : Draft} {policy : EndConditions} {a : DurativeAction}
    {asked : SourceState} {source : String} (h : sourceState d policy a = .ok asked)
    (hsource : asked.source = some source) :
    ∃ timeline, asked = ⟨some timeline, some source⟩ ∧ d.kind? timeline = some .timeline := by
  obtain ⟨-, htests, hcommon⟩ := sourceState_eq_ok.mp h
  obtain ⟨q, hq, -⟩ := List.mem_flatMap.mp ((hcommon .source source).mpr hsource)
  obtain ⟨p, hp, hkind⟩ := htests q hq
  have htimeline : asked.timeline = some p.1 :=
    (hcommon .timeline).eq_some (List.mem_flatMap.mpr ⟨q, hq, by simp [Term.asks, hp]⟩)
  refine ⟨p.1, ?_, hkind⟩
  cases asked
  simp_all

/-! ## Effects -/

def ActionPoint.timing : ActionPoint → Timing
  | .start => .atStart
  | .finish => .atEnd

theorem point?_eq_some {timing : Timing} {point : ActionPoint} :
    timing.point? = some point ↔ timing = point.timing := by
  unfold Timing.point? Timing.isStart Timing.isEnd
  constructor
  · intro h
    split at h
    · obtain rfl := Option.some.inj h
      simp_all [ActionPoint.timing]
    · split at h
      · obtain rfl := Option.some.inj h
        simp_all [ActionPoint.timing]
      · cases h
  · intro h
    subst h
    cases point <;> decide

theorem exists_point?_iff {timing : Timing} :
    (∃ point, timing.point? = some point) ↔ timing = .atStart ∨ timing = .atEnd := by
  simp only [point?_eq_some]
  constructor
  · rintro ⟨_ | _, h⟩
    · exact .inl h
    · exact .inr h
  · rintro (h | h)
    · exact ⟨.start, h⟩
    · exact ⟨.finish, h⟩

theorem isUnconditional_iff {e : Effect} :
    e.isUnconditional = true ↔ e.guard = none ∨ e.guard = some (.bool true) := by
  unfold Effect.isUnconditional
  cases e.guard <;> simp [Term.isTrue_iff]

/-- Whether the resource is raised or lowered. -/
def Flow.kind : Flow → EffectKind
  | .provided | .released => .increase
  | .withdrawn | .consumed => .decrease

theorem ofChange_eq_iff {raised : Bool} {point : ActionPoint} {flow : Flow} :
    Flow.ofChange raised point = flow ↔
      flow.kind = (if raised then .increase else .decrease) ∧ point = flow.point := by
  cases raised <;> cases point <;> cases flow <;> decide

theorem flow?_eq_some {e : Effect} {flow : Flow} :
    e.flow? = some flow ↔ e.IsA flow.kind flow.point.timing := by
  unfold Effect.flow? Effect.IsA
  cases e.kind with
  | assign => cases flow <;> simp [Flow.kind]
  | increase =>
    simp only [Option.map_eq_some_iff, point?_eq_some, ofChange_eq_iff, if_true]
    constructor
    · intro h
      obtain ⟨point, htiming, hkind, rfl⟩ := h
      exact ⟨hkind.symm, htiming⟩
    · intro h
      obtain ⟨hkind, htiming⟩ := h
      exact ⟨flow.point, htiming, hkind.symm, rfl⟩
  | decrease =>
    simp only [Option.map_eq_some_iff, point?_eq_some, ofChange_eq_iff, Bool.false_eq_true,
      if_false]
    constructor
    · intro h
      obtain ⟨point, htiming, hkind, rfl⟩ := h
      exact ⟨hkind.symm, htiming⟩
    · intro h
      obtain ⟨hkind, htiming⟩ := h
      exact ⟨flow.point, htiming, hkind.symm, rfl⟩

theorem use?_eq_some {e : Effect} {use : ResourceUse} :
    e.use? = some use ↔ e.value = .int use.amount.toNat ∧ use.resource = e.target.label := by
  unfold Effect.use?
  simp only [Option.map_eq_some_iff, Option.bind_eq_some_iff, word?_eq_some, Term.int?_eq_some]
  constructor
  · intro h
    obtain ⟨amount, ⟨n, hvalue, rfl⟩, rfl⟩ := h
    exact ⟨hvalue, rfl⟩
  · intro h
    obtain ⟨hvalue, hresource⟩ := h
    exact ⟨use.amount, ⟨_, hvalue, rfl⟩, by rw [← hresource]⟩

theorem mem_assigned {e : Effect} {point : ActionPoint} {value : String} :
    value ∈ e.assigned point ↔
      e.IsA .assign point.timing ∧ e.value.valueName? = some value := by
  simp only [Effect.assigned, point?_eq_some, Effect.IsA]
  split <;> simp_all

theorem mem_used {e : Effect} {flow : Flow} {use : ResourceUse} :
    use ∈ e.used flow ↔ e.IsA flow.kind flow.point.timing ∧ e.use? = some use := by
  rw [← flow?_eq_some]
  unfold Effect.used
  split <;> simp_all

/-- The assignments at one end, if they are of constants, agree on a value. -/
theorem common_assigned_iff {es : List Effect} {value : String} (point : ActionPoint)
    (hconst : ∀ e ∈ es, e.kind = .assign → ∃ v, e.value.valueName? = some v) :
    Common (some value) (es.flatMap (·.assigned point)) ↔
      (∃ e ∈ es, e.IsA .assign point.timing) ∧
      ∀ e ∈ es, e.IsA .assign point.timing → e.value.valueName? = some value := by
  constructor
  · intro h
    constructor
    · obtain ⟨e, he, hv⟩ := List.mem_flatMap.mp ((h value).mpr rfl)
      exact ⟨e, he, (mem_assigned.mp hv).1⟩
    · intro e he hassign
      obtain ⟨v, hv⟩ := hconst e he hassign.1
      rw [hv, h.eq_some (List.mem_flatMap.mpr ⟨e, he, mem_assigned.mpr ⟨hassign, hv⟩⟩)]
  · intro h v
    obtain ⟨⟨e, he, hassign⟩, hall⟩ := h
    simp only [List.mem_flatMap, mem_assigned]
    constructor
    · intro h
      obtain ⟨e', he', hassign', hv⟩ := h
      rw [← hall e' he' hassign', hv]
    · intro h
      cases h
      exact ⟨e, he, hassign, hall e he hassign⟩

/-- The assignments, all of them, are to the timeline that is given. -/
theorem common_timeline_iff {es : List Effect} {timeline : String} :
    Common (some timeline) (timeline :: es.flatMap (·.writes .timeline)) ↔
      ∀ e ∈ es, e.kind = .assign → e.target.label = timeline := by
  have hwrites : ∀ e : Effect, ∀ x, x ∈ e.writes .timeline ↔
      e.kind = .assign ∧ x = e.target.label := by
    intro e x
    simp only [Effect.writes]
    split <;> simp_all
  simp only [common_some, ne_eq, reduceCtorEq, not_false_eq_true, true_and, List.forall_mem_cons,
    List.mem_flatMap, hwrites]
  constructor
  · intro h e he hassign
    exact h _ ⟨e, he, hassign, rfl⟩
  · intro h x hx
    obtain ⟨e, he, hassign, rfl⟩ := hx
    exact h e he hassign

/-- What the effects of a kind use, when they all use the same. -/
theorem exists_use?_iff {effects : List Effect} {P : Effect → Prop} {use : Option ResourceUse}
    (hsame : ∀ e ∈ effects, P e → e.use? = use) (hsome : use ≠ none → ∃ e ∈ effects, P e)
    (u : ResourceUse) : (∃ e ∈ effects, P e ∧ e.use? = some u) ↔ use = some u := by
  constructor
  · intro h
    obtain ⟨e, he, hP, hu⟩ := h
    rw [← hsame e he hP, hu]
  · intro h
    obtain ⟨e, he, hP⟩ := hsome (by simp [h])
    exact ⟨e, he, hP, (hsame e he hP).trans h⟩

/-- The two ways in which a resource is taken and given back agree. -/
theorem exchanges_iff {a : DurativeAction} {use : Option ResourceUse} (first last : Flow)
    (hfirst : first.point = .start) (hlast : last.point = .finish)
    (hconst : ∀ e ∈ a.effects, e.kind ≠ .assign → ∃ use, e.use? = some use) :
    (Common use (a.effects.flatMap (·.used first)) ∧
      Common use (a.effects.flatMap (·.used last))) ↔
      a.Exchanges first.kind last.kind use := by
  have hkind : ∀ flow : Flow, flow.kind ≠ .assign := by rintro (_ | _) <;> decide
  simp only [Common, List.mem_flatMap, mem_used, hfirst, hlast, ActionPoint.timing]
  constructor
  · intro h
    obtain ⟨h₁, h₂⟩ := h
    refine ⟨fun e he hchange => ?_, fun hne => ?_⟩
    · have : ∃ u, e.use? = some u ∧ use = some u := by
        rcases hchange with hchange | hchange
        · obtain ⟨u, hu⟩ := hconst e he (hchange.1 ▸ hkind first)
          exact ⟨u, hu, (h₁ u).mp ⟨e, he, hchange, hu⟩⟩
        · obtain ⟨u, hu⟩ := hconst e he (hchange.1 ▸ hkind last)
          exact ⟨u, hu, (h₂ u).mp ⟨e, he, hchange, hu⟩⟩
      obtain ⟨u, hu, huse⟩ := this
      obtain ⟨hvalue, hresource⟩ := use?_eq_some.mp hu
      exact ⟨u.amount, hvalue, by rw [huse, ← hresource]⟩
    · obtain ⟨u, rfl⟩ := Option.ne_none_iff_exists'.mp hne
      obtain ⟨e₁, he₁, hchange₁, -⟩ := (h₁ u).mpr rfl
      obtain ⟨e₂, he₂, hchange₂, -⟩ := (h₂ u).mpr rfl
      exact ⟨⟨e₁, he₁, hchange₁⟩, e₂, he₂, hchange₂⟩
  · intro h
    have same : ∀ e ∈ a.effects, e.IsA first.kind .atStart ∨ e.IsA last.kind .atEnd →
        e.use? = use := by
      intro e he hchange
      obtain ⟨amount, hvalue, huse⟩ := h.same e he hchange
      rw [huse, use?_eq_some]
      exact ⟨hvalue, rfl⟩
    exact ⟨exists_use?_iff (fun e he hchange => same e he (.inl hchange)) fun hne => (h.both hne).1,
      exists_use?_iff (fun e he hchange => same e he (.inr hchange)) fun hne => (h.both hne).2⟩

/-- A change of a resource is part of one of the two exchanges. -/
theorem use?_of_exchanges {a : DurativeAction} {provides consumes : Option ResourceUse}
    (hprovides : a.Exchanges .increase .decrease provides)
    (hconsumes : a.Exchanges .decrease .increase consumes) {e : Effect} (he : e ∈ a.effects)
    (hchange : e.kind ≠ .assign) (htiming : e.timing = .atStart ∨ e.timing = .atEnd) :
    ∃ use, e.use? = some use := by
  have hamount : ∃ amount : UInt32, e.value = .int amount.toNat := by
    rcases htiming with htiming | htiming <;> cases hkind : e.kind
    · exact absurd hkind hchange
    · exact (hprovides.same e he (.inl ⟨hkind, htiming⟩)).imp fun _ h => h.1
    · exact (hconsumes.same e he (.inl ⟨hkind, htiming⟩)).imp fun _ h => h.1
    · exact absurd hkind hchange
    · exact (hconsumes.same e he (.inr ⟨hkind, htiming⟩)).imp fun _ h => h.1
    · exact (hprovides.same e he (.inr ⟨hkind, htiming⟩)).imp fun _ h => h.1
  obtain ⟨amount, hvalue⟩ := hamount
  exact ⟨⟨e.target.label, amount⟩, use?_eq_some.mpr ⟨hvalue, rfl⟩⟩

/-- The effects of an accepted action, on the timeline that its conditions name. -/
theorem effectState_eq_ok_iff {d : Draft} {a : DurativeAction} {timeline temporary final : String}
    {provides consumes : Option ResourceUse} (hkind : d.kind? timeline = some .timeline) :
    effectState d (some timeline) a = .ok ⟨some timeline, some temporary, some final,
        provides, provides, consumes, consumes⟩ ↔
      (∀ e ∈ a.effects, e.guard = none ∨ e.guard = some (.bool true)) ∧
      (∀ e ∈ a.effects, e.timing = .atStart ∨ e.timing = .atEnd) ∧
      (∀ e ∈ a.effects, e.kind = .assign → e.target.label = timeline) ∧
      ((∃ e ∈ a.effects, e.IsA .assign .atStart) ∧
        ∀ e ∈ a.effects, e.IsA .assign .atStart → e.value.valueName? = some temporary) ∧
      ((∃ e ∈ a.effects, e.IsA .assign .atEnd) ∧
        ∀ e ∈ a.effects, e.IsA .assign .atEnd → e.value.valueName? = some final) ∧
      (∀ e ∈ a.effects, e.kind ≠ .assign → d.kind? e.target.label = some .resource) ∧
      a.Exchanges .increase .decrease provides ∧ a.Exchanges .decrease .increase consumes := by
  rw [effectState_eq_ok]
  constructor
  · intro h
    obtain ⟨hallowed, hcommon⟩ := h
    have hconst : ∀ e ∈ a.effects, e.kind = .assign → ∃ v, e.value.valueName? = some v :=
      fun e he hassign => ((hallowed e he).assigns hassign).2
    have huse : ∀ e ∈ a.effects, e.kind ≠ .assign → ∃ use, e.use? = some use :=
      fun e he hchange => ((hallowed e he).changes hchange).2
    exact ⟨fun e he => isUnconditional_iff.mp (hallowed e he).unguarded,
      fun e he => exists_point?_iff.mp (hallowed e he).atAnEnd,
      common_timeline_iff.mp (hcommon .timeline),
      (common_assigned_iff .start hconst).mp (hcommon (.assigned .start)),
      (common_assigned_iff .finish hconst).mp (hcommon (.assigned .finish)),
      fun e he hchange => ((hallowed e he).changes hchange).1,
      (exchanges_iff .provided .withdrawn rfl rfl huse).mp
        ⟨hcommon (.used .provided), hcommon (.used .withdrawn)⟩,
      (exchanges_iff .consumed .released rfl rfl huse).mp
        ⟨hcommon (.used .consumed), hcommon (.used .released)⟩⟩
  · intro h
    obtain ⟨hunguarded, hatEnd, htarget, htemporary, hfinal, hresource, hprovides, hconsumes⟩ := h
    have hconst : ∀ e ∈ a.effects, e.kind = .assign → ∃ v, e.value.valueName? = some v := by
      intro e he hassign
      rcases hatEnd e he with htiming | htiming
      · exact ⟨_, htemporary.2 e he ⟨hassign, htiming⟩⟩
      · exact ⟨_, hfinal.2 e he ⟨hassign, htiming⟩⟩
    have huse : ∀ e ∈ a.effects, e.kind ≠ .assign → ∃ use, e.use? = some use :=
      fun e he hchange => use?_of_exchanges hprovides hconsumes he hchange (hatEnd e he)
    have hexchanged := (exchanges_iff .provided .withdrawn rfl rfl huse).mpr hprovides
    have hexchanged' := (exchanges_iff .consumed .released rfl rfl huse).mpr hconsumes
    refine ⟨fun e he => ⟨isUnconditional_iff.mpr (hunguarded e he),
      exists_point?_iff.mpr (hatEnd e he),
      fun hassign => ⟨by rw [htarget e he hassign, hkind], hconst e he hassign⟩,
      fun hchange => ⟨hresource e he hchange, huse e he hchange⟩⟩, ?_⟩
    rintro (_ | (_ | _) | (_ | _ | _ | _))
    · exact common_timeline_iff.mpr htarget
    · exact (common_assigned_iff .start hconst).mpr htemporary
    · exact (common_assigned_iff .finish hconst).mpr hfinal
    · exact hexchanged.1
    · exact hexchanged.2
    · exact hexchanged'.1
    · exact hexchanged'.2

/-! ## The whole action -/

theorem require_eq_ok {slot : Option String} {part : TransitionPart} {value : String} :
    require slot part = .ok value ↔ slot = some value := by
  cases slot <;> simp [require]

theorem requireValue_eq_ok {d : Draft} {timeline value : String} {part : TransitionPart}
    {u : Unit} : d.requireValue timeline value part = .ok u ↔ d.hasValue timeline value = true := by
  unfold Draft.requireValue
  split <;> simp_all

/-- The checks of an action, without their order. -/
theorem ofDurative_eq_ok {d : Draft} {policy : EndConditions} {a : DurativeAction}
    {t : Transition} :
    Transition.ofDurative d policy a = .ok t ↔
      t.action = a.name ∧ a.simulated = [] ∧ a.duration.fixed? = .ok t.duration ∧
      (∀ value ∈ [t.source, t.temporary, t.final], d.hasValue t.timeline value = true) ∧
      ∃ asked, sourceState d policy a = .ok asked ∧ asked.source = some t.source ∧
        effectState d asked.timeline a = .ok ⟨some t.timeline, some t.temporary, some t.final,
          t.provides, t.provides, t.consumes, t.consumes⟩ := by
  unfold Transition.ofDurative
  simp only [throw_ite_eq_ok, bind_eq_ok, require_eq_ok, requireValue_eq_ok, pure_eq_ok]
  constructor
  · intro h
    obtain ⟨hsimulated, duration, hduration, asked, hasked, done, hdone, hbalanced, rest⟩ := h
    obtain ⟨timeline, htimeline, source, hsource, temporary, htemporary, final, hfinal, rest⟩ :=
      rest
    obtain ⟨_, hs, _, ht, _, hf, rfl⟩ := rest
    have hdone' : done = ⟨some timeline, some temporary, some final, done.provided,
        done.provided, done.consumed, done.consumed⟩ := by
      simp only [EffectState.isBalanced, Bool.not_eq_true, Bool.not_eq_false', Bool.and_eq_true,
        beq_iff_eq] at hbalanced
      obtain ⟨hprovided, hconsumed⟩ := hbalanced
      cases done
      simp_all
    refine ⟨rfl, by simpa using hsimulated, hduration, by simp [hs, ht, hf], asked, hasked,
      hsource, ?_⟩
    rw [← hdone']
    exact hdone
  · intro h
    obtain ⟨haction, hsimulated, hduration, hvalues, asked, hasked, hsource, hdone⟩ := h
    refine ⟨by simp [hsimulated], _, hduration, asked, hasked, _, hdone,
      by simp [EffectState.isBalanced], _, rfl, _, hsource, _, rfl, _, rfl, (), ?_, (), ?_, (),
      ?_, ?_⟩
    · exact hvalues _ (by simp)
    · exact hvalues _ (by simp)
    · exact hvalues _ (by simp)
    · rw [← haction]

theorem ofDurative_eq_ok_iff {d : Draft} {policy : EndConditions} {a : DurativeAction}
    {t : Transition} : Transition.ofDurative d policy a = .ok t ↔ a.Makes d policy t := by
  rw [ofDurative_eq_ok, fixed?_eq_ok]
  constructor
  · intro h
    obtain ⟨haction, hsimulated, ⟨hlower, hupper⟩, hvalues, asked, hasked, hsource, hdone⟩ := h
    obtain ⟨timeline, rfl, hkind⟩ := exists_timeline_of_sourceState hasked hsource
    -- the timeline of the conditions is that of the effects
    obtain rfl : timeline = t.timeline := by
      have hcommon := (effectState_eq_ok.mp hdone).2 .timeline
      have hmem : timeline ∈ ((EffectState.start (some timeline)).get .timeline).toList ++
          a.effects.flatMap (·.writes .timeline) := by
        simp [EffectState.get, EffectState.start]
      exact (Option.some.inj (hcommon.eq_some hmem)).symm
    obtain ⟨htimed, hconditioned, htests⟩ := (sourceState_eq_ok_iff hkind).mp hasked
    obtain ⟨hunguarded, hatEnd, htarget, htemporary, hfinal, hresource, hprovides, hconsumes⟩ :=
      (effectState_eq_ok_iff hkind).mp hdone
    exact ⟨haction, hsimulated, hlower, hupper, hkind, hvalues, htimed, hconditioned, htests,
      hunguarded, hatEnd, htarget, htemporary.2, hfinal.2, ⟨htemporary.1, hfinal.1⟩, hresource,
      hprovides, hconsumes⟩
  · intro h
    refine ⟨h.action, h.simulated, ⟨h.lower, h.upper⟩, h.hasValues, _,
      (sourceState_eq_ok_iff h.isTimeline).mpr ⟨h.timed, h.conditioned, h.tests⟩, rfl, ?_⟩
    exact (effectState_eq_ok_iff h.isTimeline).mpr ⟨h.unguarded, h.atAnEnd, h.assigns,
      ⟨h.assignsBoth.1, h.temporary⟩, ⟨h.assignsBoth.2, h.final⟩, h.changes, h.provides,
      h.consumes⟩

/-- Exactly the actions that make a transition are accepted. -/
theorem ofAction_eq_ok_iff (d : Draft) (policy : EndConditions) (action : Action)
    (t : Transition) :
    Transition.ofAction d policy action = .ok t ↔
      ∃ a, action = .durative a ∧ a.Makes d policy t := by
  cases action with
  | instantaneous a => simp [Transition.ofAction]
  | durative a => simp [Transition.ofAction, ofDurative_eq_ok_iff]

end PlanTimelines
