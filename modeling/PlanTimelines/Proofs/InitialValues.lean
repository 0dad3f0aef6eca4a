import PlanTimelines.Example.Lamps
import PlanTimelines.Proofs.FreshDraft

/-! The initial values of a draft. A problem asks for values under keys: the defaults, for all
instances of their fluents, and then the explicit values. They are written down one by one, and
what comes of it is written down at once by `Draft.started`: under each key the last value counts,
and a key that is also the name of a resource is that of the resource. -/

namespace PlanTimelines

/-! ## What a problem asks for -/

namespace Problem

/-- The keys of the instances of a fluent, in the order of the product of its domains. -/
def instanceKeys (p : Problem) (f : Fluent) : List String :=
  (product (f.params.map fun param => (p.domains.get? param.typeName).getD [])).map
    (instanceName f.name)

/-- A default asks for its value under all keys of the first declaration of its fluent. -/
def defaultPairs (p : Problem) (fluent : String) (value : Term) : List (String × Term) :=
  ((p.fluent? fluent).toList.flatMap p.instanceKeys).map fun key => (key, value)

/-- The keys with the values asked for, the defaults before the explicit values. -/
def initialPairs (p : Problem) : List (String × Term) :=
  (p.fluentDefaults.flatMap fun (fluent, value) => p.defaultPairs fluent value) ++
    p.initialValues.filterMap fun (v, value) => v.key?.map fun key => (key, value)

/-- Every initial value is for a declared fluent or for a ground state variable. -/
structure KeyedInitials (p : Problem) : Prop where
  types : p.typeDefaults = []
  defaults : ∀ e ∈ p.fluentDefaults, ∃ f ∈ p.fluents, f.name = e.1
  explicit : ∀ e ∈ p.initialValues, ∃ key, e.1.key? = some key

end Problem

/-! ## What a draft allows -/

/-- The state variable of the key may start at the value: a resource at zero, any other at a
value of its timeline. -/
inductive Draft.CanStart (d : Draft) (key : String) (value : Term) : Prop
  | resource {r : DraftResource} (hresource : d.resource? key = some r) (hvalue : value = .int 0)
  | timeline {t : DraftTimeline} {name : String} (hresource : d.resource? key = none)
    (htimeline : d.timeline? key = some t) (hname : value.valueName? = some name)
    (hvalue : t.hasValue name = true)

variable {p : Problem} {d d' : Draft}

theorem initialFault?_eq_none {key : String} {value : Term} :
    d.initialFault? key value = none ↔ d.CanStart key value := by
  unfold Draft.initialFault?
  constructor
  · intro h
    cases hresource : d.resource? key with
    | some r =>
      simp only [hresource, Option.isSome_some, if_true] at h
      split at h
      · rename_i hvalue
        exact .resource hresource (Term.int?_eq_some.mp hvalue)
      · cases h
      · cases h
    | none =>
      simp only [hresource, Option.isSome_none, Bool.false_eq_true, if_false] at h
      cases htimeline : d.timeline? key with
      | none =>
        simp only [htimeline] at h
        cases h
      | some t =>
        cases hname : value.valueName? with
        | none =>
          simp only [htimeline, hname] at h
          cases h
        | some name =>
          simp only [htimeline, hname] at h
          split at h
          · exact .timeline hresource htimeline hname ‹_›
          · cases h
  · intro h
    cases h with
    | resource hresource hvalue => simp [hresource, hvalue, Term.int?]
    | timeline hresource htimeline hname hvalue => simp [hresource, htimeline, hname, hvalue]

theorem addInitial_eq_ok {entry : InitialEntry} :
    d.addInitial entry = .ok d' ↔ ∃ key value, entry = .ok (key, value) ∧
      d.CanStart key value ∧ d.writeInitial key value = d' := by
  cases entry with
  | error e => simp [Draft.addInitial]
  | ok pair =>
    obtain ⟨key, value⟩ := pair
    simp only [Draft.addInitial, ← initialFault?_eq_none, Except.ok.injEq, Prod.mk.injEq]
    cases hfault : d.initialFault? key value with
    | some fault =>
      constructor
      · intro h
        cases h
      · intro h
        obtain ⟨_, _, ⟨rfl, rfl⟩, hnone, -⟩ := h
        cases hfault.symm.trans hnone
    | none =>
      constructor
      · intro h
        exact ⟨key, value, ⟨rfl, rfl⟩, hfault, Except.ok.inj h⟩
      · intro h
        obtain ⟨_, _, ⟨rfl, rfl⟩, -, rfl⟩ := h
        rfl

/-- What may start where is a matter of names. -/
theorem Draft.SameNames.canStart (h : d.SameNames d') {key : String} {value : Term}
    (hstart : d.CanStart key value) : d'.CanStart key value := by
  have hresource : (d.resource? key).isSome = (d'.resource? key).isSome := by
    rw [resource?_isSome_eq, resource?_isSome_eq, h.resources]
  cases hstart with
  | resource hr hvalue =>
    rw [hr, Option.isSome_some, eq_comm, Option.isSome_iff_exists] at hresource
    obtain ⟨r', hr'⟩ := hresource
    exact .resource hr' hvalue
  | @timeline t name hr ht hname hvalue =>
    rw [hr, Option.isSome_none, eq_comm, Option.isSome_eq_false_iff, Option.isNone_iff_eq_none]
      at hresource
    have hhas : d'.hasValue key name = true := by
      rw [← h.hasValue_eq, Draft.hasValue, ht]
      exact hvalue
    obtain ⟨t', ht', hvalue'⟩ := (Option.any_eq_true _ _).mp hhas
    exact .timeline hresource ht' hname hvalue'

/-! ## What is written down -/

/-- The last value under the key. -/
def lastValue? (pairs : List (String × Term)) (key : String) : Option Term :=
  (findLast? (·.1 == key) pairs).map Prod.snd

theorem lastValue?_concat_self (pairs : List (String × Term)) (key : String) (value : Term) :
    lastValue? (pairs ++ [(key, value)]) key = some value := by
  simp [lastValue?, findLast?]

theorem lastValue?_concat_of_ne {key name : String} (h : name ≠ key)
    (pairs : List (String × Term)) (value : Term) :
    lastValue? (pairs ++ [(key, value)]) name = lastValue? pairs name := by
  simp [lastValue?, findLast?, beq_eq_false_iff_ne.mpr (Ne.symm h)]

theorem lastValue?_isSome {pairs : List (String × Term)} {key : String} :
    (lastValue? pairs key).isSome ↔ key ∈ pairs.map Prod.fst := by
  rw [lastValue?, Option.isSome_map, findLast?_isSome]

/-- One more value is written over what its key had before. -/
theorem updateLast_lastValue? {α : Type} {key : α → String} {f : Option Term → α → α}
    (hf : ∀ value x, key (f value x) = key x) {g : α → α} {value : Term}
    (hg : ∀ before x, g (f before x) = f (some value) x) (name : String)
    (pairs : List (String × Term)) (xs : List α) :
    updateLast (fun x => key x == name) g (mapLasts key (fun k => f (lastValue? pairs k)) xs) =
      mapLasts key (fun k => f (lastValue? (pairs ++ [(name, value)]) k)) xs := by
  rw [updateLast_mapLasts fun k x => hf (lastValue? pairs k) x]
  refine mapLasts_congr fun x _ => ?_
  by_cases hname : key x = name
  · rw [hname, Function.update_self, lastValue?_concat_self]
    exact hg _ x
  · rw [Function.update_of_ne hname, lastValue?_concat_of_ne hname]

/-- The timeline with the value to start at, if there is one. -/
def DraftTimeline.started (t : DraftTimeline) (value : Option Term) : DraftTimeline :=
  { t with initial := value.elim t.initial Term.valueName? }

/-- The resource with its start, if there is a value to start at. -/
def DraftResource.started (r : DraftResource) (value : Option Term) : DraftResource :=
  { r with initial := if value.isSome then some 0 else r.initial }

/-- The draft with the last value under each key in the record that the key finds. -/
def Draft.started (d : Draft) (pairs : List (String × Term)) : Draft where
  timelines := mapLasts DraftTimeline.name
    (fun name t => if (d.resource? name).isSome then t else t.started (lastValue? pairs name))
    d.timelines
  resources := mapLasts DraftResource.name (fun name r => r.started (lastValue? pairs name))
    d.resources

theorem DraftResource.name_started (r : DraftResource) (value : Option Term) :
    (r.started value).name = r.name :=
  rfl

theorem timeline?_started (d : Draft) (pairs : List (String × Term)) (key : String) :
    (d.started pairs).timeline? key = (d.timeline? key).map fun t =>
      if (d.resource? key).isSome then t else t.started (lastValue? pairs key) := by
  refine findLast?_mapLasts (fun name t => ?_) key d.timelines
  split <;> rfl

theorem resource?_started (d : Draft) (pairs : List (String × Term)) (key : String) :
    (d.started pairs).resource? key =
      (d.resource? key).map (·.started (lastValue? pairs key)) :=
  findLast?_mapLasts (fun _ r => r.name_started _) key d.resources

theorem sameNames_started (d : Draft) (pairs : List (String × Term)) :
    (d.started pairs).SameNames d := by
  constructor
  · apply map_mapLasts
    intro name t
    split <;> rfl
  · apply map_mapLasts
    intro name r
    rfl

theorem started_nil (d : Draft) : d.started [] = d := by
  have htimelines : (d.started []).timelines = d.timelines := by
    refine (mapLasts_congr fun t _ => ?_).trans (mapLasts_id _ d.timelines)
    exact ite_self t
  have hresources : (d.started []).resources = d.resources :=
    (mapLasts_congr fun _ _ => rfl).trans (mapLasts_id _ d.resources)
  exact Draft.eq_of_records htimelines hresources

section OneMore

variable {key : String} (pairs : List (String × Term)) (value : Term)

theorem updateResource_started (hresource : (d.resource? key).isSome) :
    (d.started pairs).updateResource key (fun r => { r with initial := some 0 }) =
      d.started (pairs ++ [(key, value)]) := by
  apply Draft.eq_of_records
  · -- a timeline of the same name is left as it was
    refine mapLasts_congr fun t _ => ?_
    by_cases hname : t.name = key
    · rw [hname, if_pos hresource, if_pos hresource]
    · rw [lastValue?_concat_of_ne hname]
  · refine updateLast_lastValue? (f := fun value r => r.started value) ?_ ?_ key pairs d.resources
    · exact fun value r => r.name_started value
    · exact fun _ _ => rfl

theorem updateTimeline_started (hresource : ¬(d.resource? key).isSome) :
    (d.started pairs).updateTimeline key (fun t => { t with initial := value.valueName? }) =
      d.started (pairs ++ [(key, value)]) := by
  apply Draft.eq_of_records
  · unfold Draft.updateTimeline Draft.started
    simp only
    rw [updateLast_mapLasts fun _ _ => by split <;> rfl]
    refine mapLasts_congr fun t _ => ?_
    by_cases hname : t.name = key
    · rw [hname, Function.update_self, if_neg hresource, lastValue?_concat_self,
        Function.comp_apply, if_neg hresource]
      rfl
    · rw [Function.update_of_ne hname, lastValue?_concat_of_ne hname]
  · refine mapLasts_congr fun r hr => ?_
    have hname : r.name ≠ key := fun hname =>
      hresource (findLast?_isSome.mpr (List.mem_map.mpr ⟨r, hr, hname⟩))
    rw [lastValue?_concat_of_ne hname]

/-- One more value is written over what its key had before. -/
theorem writeInitial_started :
    (d.started pairs).writeInitial key value = d.started (pairs ++ [(key, value)]) := by
  unfold Draft.writeInitial
  rw [resource?_started, Option.isSome_map]
  split
  · exact updateResource_started pairs value ‹_›
  · exact updateTimeline_started pairs value ‹_›

end OneMore

/-- A run that writes everything down: there are values under keys and no refusals, and each of
them is allowed. -/
theorem addInitials_eq_ok {entries : List InitialEntry} {before : List (String × Term)} :
    runSteps Draft.addInitial (d.started before) entries = (d', .ok ()) ↔
      ∃ pairs, entries = pairs.map .ok ∧ (∀ e ∈ pairs, d.CanStart e.1 e.2) ∧
        d.started (before ++ pairs) = d' := by
  -- the draft stays of the form `d.started before`, with one more value for each entry
  induction entries generalizing before with
  | nil =>
    constructor
    · intro h
      exact ⟨[], rfl, by simp, by simpa [runSteps] using h⟩
    · intro h
      obtain ⟨pairs, hpairs, -, rfl⟩ := h
      obtain rfl := List.map_eq_nil_iff.mp hpairs.symm
      simp [runSteps]
  | cons entry rest ih =>
    simp only [runSteps_cons_eq_ok, addInitial_eq_ok]
    constructor
    · intro h
      obtain ⟨_, ⟨key, value, rfl, hstart, rfl⟩, hrest⟩ := h
      rw [writeInitial_started, ih] at hrest
      obtain ⟨pairs, rfl, hpairs, rfl⟩ := hrest
      refine ⟨(key, value) :: pairs, rfl, ?_, by simp⟩
      exact List.forall_mem_cons.mpr ⟨(sameNames_started d before).canStart hstart, hpairs⟩
    · intro h
      obtain ⟨pairs, hentries, hpairs, rfl⟩ := h
      obtain ⟨e, pairs, rfl, rfl, rfl⟩ := List.map_eq_cons_iff.mp hentries.symm
      obtain ⟨hstart, hpairs⟩ := List.forall_mem_cons.mp hpairs
      refine ⟨_, ⟨e.1, e.2, rfl, (sameNames_started d before).symm.canStart hstart, rfl⟩, ?_⟩
      rw [writeInitial_started, ih]
      exact ⟨pairs, rfl, hpairs, by simp⟩

/-! ## The initial values of a problem -/

theorem names_fluentInstances {f : Fluent} {instances : List FluentInstance}
    (h : p.domains.fluentInstances f = .ok instances) :
    instances.map FluentInstance.name = p.instanceKeys f := by
  obtain ⟨axes, haxes, rfl⟩ := fluentInstances_eq_ok.mp h
  rw [Problem.instanceKeys, ← axes_eq_map haxes, List.map_map]
  rfl

theorem fluent?_isSome {name : String} :
    (∃ f, p.fluent? name = some f) ↔ ∃ f ∈ p.fluents, f.name = name := by
  rw [← Option.isSome_iff_exists, Problem.fluent?, List.find?_isSome]
  simp

theorem keyedInitials_of_entries (h : ∀ entry ∈ p.initialEntries p.domains, ∃ e, entry = .ok e) :
    p.KeyedInitials := by
  unfold Problem.initialEntries at h
  split at h
  · obtain ⟨_, hentry⟩ := h _ List.mem_cons_self
    cases hentry
  · rename_i htypes
    obtain ⟨hdefaults, hexplicit⟩ := List.forall_mem_append.mp h
    refine ⟨htypes, fun e he => ?_, fun e he => ?_⟩
    · rw [← fluent?_isSome]
      cases hf : p.fluent? e.1 with
      | some f => exact ⟨f, rfl⟩
      | none =>
        have hmem : .error (.unsupportedInitialValue e.1 .undeclaredFluent) ∈
            p.defaultEntries p.domains e.1 e.2 := by
          simp [Problem.defaultEntries, hf]
        obtain ⟨_, hentry⟩ := hdefaults _ (List.mem_flatMap.mpr ⟨e, he, hmem⟩)
        cases hentry
    · cases hkey : e.1.key? with
      | some key => exact ⟨key, rfl⟩
      | none =>
        obtain ⟨_, hentry⟩ := hexplicit _ (List.mem_map_of_mem he)
        simp [Problem.explicitEntry, hkey] at hentry

section Entries

variable (hinstances : ∀ f ∈ p.fluents, ∃ instances, p.domains.fluentInstances f = .ok instances)
include hinstances

theorem defaultEntries_eq_map {fluent : String} {f : Fluent} (hf : p.fluent? fluent = some f)
    (value : Term) :
    p.defaultEntries p.domains fluent value = (p.defaultPairs fluent value).map .ok := by
  obtain ⟨instances, hi⟩ := hinstances f (List.mem_of_find?_eq_some hf)
  simp [Problem.defaultEntries, Problem.defaultPairs, hf, hi, ← names_fluentInstances hi]

theorem initialEntries_of_keyed (h : p.KeyedInitials) :
    p.initialEntries p.domains = p.initialPairs.map .ok := by
  have hdefaults : (p.fluentDefaults.flatMap fun e => p.defaultEntries p.domains e.1 e.2) =
      (p.fluentDefaults.flatMap fun e => p.defaultPairs e.1 e.2).map .ok := by
    rw [List.map_flatMap]
    refine List.flatMap_congr fun e he => ?_
    obtain ⟨f, hf⟩ := fluent?_isSome.mpr (h.defaults e he)
    exact defaultEntries_eq_map hinstances hf e.2
  have hexplicit : p.initialValues.map (fun e => Problem.explicitEntry e.1 e.2) =
      (p.initialValues.filterMap fun e => e.1.key?.map fun key => (key, e.2)).map .ok := by
    rw [List.map_filterMap, ← List.filterMap_eq_map]
    refine List.filterMap_congr fun e he => ?_
    obtain ⟨key, hkey⟩ := h.explicit e he
    simp [Problem.explicitEntry, hkey]
  unfold Problem.initialEntries Problem.initialPairs
  rw [h.types, List.map_append]
  exact congrArg₂ (· ++ ·) hdefaults hexplicit

theorem initialEntries_eq_map {pairs : List (String × Term)} :
    p.initialEntries p.domains = pairs.map .ok ↔ p.KeyedInitials ∧ pairs = p.initialPairs := by
  constructor
  · intro h
    have hkeyed : p.KeyedInitials := by
      apply keyedInitials_of_entries
      intro entry hentry
      rw [h] at hentry
      obtain ⟨e, -, rfl⟩ := List.mem_map.mp hentry
      exact ⟨e, rfl⟩
    refine ⟨hkeyed, ?_⟩
    rw [initialEntries_of_keyed hinstances hkeyed] at h
    exact (List.map_injective_iff.mpr (fun _ _ => Except.ok.inj) h).symm
  · intro h
    obtain ⟨hkeyed, rfl⟩ := h
    exact initialEntries_of_keyed hinstances hkeyed

/-- A run over the initial values that writes them all down. -/
theorem addInitialValues_eq_ok :
    d.addInitialValues p p.domains = (d', .ok ()) ↔
      (p.KeyedInitials ∧ ∀ e ∈ p.initialPairs, d.CanStart e.1 e.2) ∧
        d.started p.initialPairs = d' := by
  have hrun : runSteps Draft.addInitial (d.started []) (p.initialEntries p.domains) =
      (d', .ok ()) ↔ ∃ pairs, p.initialEntries p.domains = pairs.map .ok ∧
        (∀ e ∈ pairs, d.CanStart e.1 e.2) ∧ d.started ([] ++ pairs) = d' := addInitials_eq_ok
  rw [started_nil] at hrun
  rw [Draft.addInitialValues, hrun]
  simp only [initialEntries_eq_map hinstances]
  constructor
  · intro h
    obtain ⟨_, ⟨hkeyed, rfl⟩, hstart, rfl⟩ := h
    exact ⟨⟨hkeyed, hstart⟩, rfl⟩
  · intro h
    obtain ⟨⟨hkeyed, hstart⟩, rfl⟩ := h
    exact ⟨p.initialPairs, ⟨hkeyed, rfl⟩, hstart, rfl⟩

end Entries

theorem initial_of_isFresh (h : d.IsFresh) :
    (∀ t ∈ d.timelines, t.initial = none) ∧ ∀ r ∈ d.resources, r.initial = none := by
  constructor
  · intro t ht
    obtain ⟨values, hvalues⟩ := h.timelines t ht
    exact congrArg DraftTimeline.initial hvalues
  · intro r hr
    exact congrArg DraftResource.initial (h.resources r hr)

/-- Before anything is written down, the values under the keys are all there is. -/
theorem timeline?_started_of_isFresh (h : d.IsFresh) (pairs : List (String × Term)) {key : String}
    (hresource : d.resource? key = none) :
    (d.started pairs).timeline? key = (d.timeline? key).map fun t =>
      { t with initial := (lastValue? pairs key).bind Term.valueName? } := by
  rw [timeline?_started]
  refine Option.map_congr fun t ht => ?_
  have hinitial : t.initial = none := (initial_of_isFresh h).1 t (mem_of_findLast? ht).1
  rw [hresource, DraftTimeline.started, hinitial]
  cases lastValue? pairs key <;> rfl

theorem resource?_started_of_isFresh (h : d.IsFresh) (pairs : List (String × Term))
    (key : String) :
    (d.started pairs).resource? key = (d.resource? key).map fun r =>
      { r with initial := if key ∈ pairs.map Prod.fst then some 0 else none } := by
  rw [resource?_started]
  refine Option.map_congr fun r hr => ?_
  have hinitial : r.initial = none := (initial_of_isFresh h).2 r (mem_of_findLast? hr).1
  rw [DraftResource.started, hinitial]
  simp only [lastValue?_isSome]

/-- The initial values of a problem are written down if all of them have keys that may start at
them. Every timeline that a key finds, and that is not hidden by a resource, then starts at the
last value under the key, and every resource at zero if there is one. Nothing else changes. -/
theorem addInitialValues_ofProblem (hd : Draft.ofProblem p p.domains = .ok d) :
    ((∃ d', d.addInitialValues p p.domains = (d', .ok ())) ↔
      p.KeyedInitials ∧ ∀ e ∈ p.initialPairs, d.CanStart e.1 e.2) ∧
    ∀ d', d.addInitialValues p p.domains = (d', .ok ()) →
      d' = d.started p.initialPairs ∧
      (∀ key, d.resource? key = none →
        d'.timeline? key = (d.timeline? key).map fun t =>
          { t with initial := (lastValue? p.initialPairs key).bind Term.valueName? }) ∧
      ∀ key, d'.resource? key = (d.resource? key).map fun r =>
        { r with initial := if key ∈ p.initialPairs.map Prod.fst then some 0 else none } := by
  obtain ⟨groups, hgroups, -, -⟩ := ofProblem_eq_ok.mp hd
  have hinstances := mapM_isOk.mp ⟨groups, hgroups⟩
  have hfresh := isFresh_ofProblem hd
  constructor
  · simp only [addInitialValues_eq_ok hinstances, exists_and_left, exists_eq', and_true]
  · intro d' h
    obtain ⟨-, rfl⟩ := (addInitialValues_eq_ok hinstances).mp h
    exact ⟨rfl, fun key hresource => timeline?_started_of_isFresh hfresh _ hresource,
      resource?_started_of_isFresh hfresh _⟩

/-- The second lamp starts at the value that it is given and the first one at the default. -/
theorem lamps_start :
    ∃ d d', Draft.ofProblem Example.Lamps.problem Example.Lamps.problem.domains = .ok d ∧
      d.addInitialValues Example.Lamps.problem Example.Lamps.problem.domains = (d', .ok ()) ∧
      (d'.timeline? "mode(l1)").bind DraftTimeline.initial = some "Off" ∧
      (d'.timeline? "mode(l2)").bind DraftTimeline.initial = some "On" ∧
      (d'.timeline? "supplied").map DraftTimeline.initial = some none ∧
      (d'.resource? "power").bind DraftResource.initial = some 0 := by
  obtain ⟨d, hd, ⟨hnone₁, hnone₂, hnone₃, hpower⟩, hmode₁, hmode₂, hsupplied⟩ : ∃ d,
      Draft.ofProblem Example.Lamps.problem Example.Lamps.problem.domains = .ok d ∧
      (d.resource? "mode(l1)" = none ∧ d.resource? "mode(l2)" = none ∧
        d.resource? "supplied" = none ∧ d.resource? "power" = some (.unprovided "power")) ∧
      d.timeline? "mode(l1)" = some (.ofValues "mode(l1)" "mode" ["Off", "On"]) ∧
      d.timeline? "mode(l2)" = some (.ofValues "mode(l2)" "mode" ["Off", "On"]) ∧
      d.timeline? "supplied" = some (.ofValues "supplied" "supplied" ["true", "false"]) :=
    ⟨_, rfl, ⟨rfl, rfl, rfl, rfl⟩, rfl, rfl, rfl⟩
  have hpairs : Example.Lamps.problem.initialPairs =
      [("mode(l1)", .object "Off"), ("mode(l2)", .object "Off"), ("power", .int 0),
        ("mode(l2)", .object "On")] := rfl
  have hkeyed : Example.Lamps.problem.KeyedInitials :=
    ⟨rfl, by decide, List.forall_mem_singleton.mpr ⟨"mode(l2)", rfl⟩⟩
  have hstart : ∀ e ∈ Example.Lamps.problem.initialPairs, d.CanStart e.1 e.2 := by
    rw [hpairs]
    simp only [List.forall_mem_cons]
    exact ⟨.timeline hnone₁ hmode₁ rfl rfl, .timeline hnone₂ hmode₂ rfl rfl,
      .resource hpower rfl, .timeline hnone₂ hmode₂ rfl rfl, by simp⟩
  obtain ⟨hiff, hresult⟩ := addInitialValues_ofProblem hd
  obtain ⟨d', hd'⟩ := hiff.mpr ⟨hkeyed, hstart⟩
  obtain ⟨-, htimelines, hresources⟩ := hresult d' hd'
  refine ⟨d, d', hd, hd', ?_, ?_, ?_, ?_⟩
  · rw [htimelines _ hnone₁, hmode₁]
    rfl
  · rw [htimelines _ hnone₂, hmode₂]
    rfl
  · rw [htimelines _ hnone₃, hsupplied]
    rfl
  · rw [hresources, hpower]
    rfl

end PlanTimelines
