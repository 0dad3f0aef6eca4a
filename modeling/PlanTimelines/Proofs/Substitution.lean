import Mathlib.Logic.Function.Basic
import PlanTimelines.Action
import PlanTimelines.Records

/-! Laws of substitution. It leaves none of the parameters that it binds, it changes nothing only
where there are none of them, and two substitutions in a row are one. `Substitutes` says this of
any kind of data with parameters in it. The laws are proved for terms, by recursion on them, and
carried over to the parts of an action and to actions, each of which is seen as a tuple of its
fields. -/

namespace PlanTimelines

/-! ## Bindings in a row -/

/-- The bindings, and those of `c` for the names that are not bound. -/
def Bindings.extend (b c : Bindings) : Bindings := c ++ b

theorem find?_extend (b c : Bindings) (name : String) :
    (b.extend c).find? name = (b.find? name).or (c.find? name) := by
  simp only [Bindings.find?, Bindings.extend, List.reverse_append, List.lookup_append]

/-! ## Parameters -/

namespace Term

mutual

/-- The parameters in a term, at any depth. -/
def params : Term → List String
  | .param name => [name]
  | .fluent _ args => paramsOf args
  | .eq lhs rhs => params lhs ++ params rhs
  | .not operand => params operand
  | .and operands => paramsOf operands
  | .or operands => paramsOf operands
  | .bool _ | .int _ | .real _ | .object _ => []

def paramsOf : List Term → List String
  | [] => []
  | t :: rest => params t ++ paramsOf rest

end

end Term

def StateVar.params (v : StateVar) : List String :=
  v.toTerm.params

def DurationRange.params (d : DurationRange) : List String :=
  d.lower.params ++ d.upper.params

def TimedCondition.params (c : TimedCondition) : List String :=
  c.condition.params

def Effect.params (e : Effect) : List String :=
  e.target.params ++ (e.value.params ++ e.guard.toList.flatMap Term.params)

def SimulatedEffect.params (s : SimulatedEffect) : List String :=
  s.targets.flatMap StateVar.params

/-- The parameters that are used in an action, whether they are its own or not. -/
def DurativeAction.usedParams (a : DurativeAction) : List String :=
  a.duration.params ++ (a.conditions.flatMap TimedCondition.params ++
    (a.effects.flatMap Effect.params ++ a.simulated.flatMap SimulatedEffect.params))

/-! ## The laws -/

structure Substitutes {α : Type} (params : α → List String) (substitute : Bindings → α → α) :
    Prop where
  unbound : ∀ b x, ∀ name ∈ params (substitute b x), b.find? name = none
  eq_self_iff : ∀ b x, substitute b x = x ↔ ∀ name ∈ params x, b.find? name = none
  substitute_substitute : ∀ b c x, substitute c (substitute b x) = substitute (b.extend c) x

namespace Substitutes

variable {α β : Type} {params : α → List String} {substitute : Bindings → α → α}

/-- What a substitution leaves as it is. -/
theorem tagged {γ : Type} (h : Substitutes params substitute) :
    Substitutes (fun x : γ × α => params x.2) (fun b => Prod.map id (substitute b)) where
  unbound b x := h.unbound b x.2
  eq_self_iff b x := by
    rw [← h.eq_self_iff, Prod.ext_iff]
    exact and_iff_right rfl
  substitute_substitute b c x := Prod.ext rfl (h.substitute_substitute b c x.2)

theorem prod {params' : β → List String} {substitute' : Bindings → β → β}
    (h : Substitutes params substitute) (h' : Substitutes params' substitute') :
    Substitutes (fun x : α × β => params x.1 ++ params' x.2)
      (fun b => Prod.map (substitute b) (substitute' b)) where
  unbound b x := List.forall_mem_append.mpr ⟨h.unbound b x.1, h'.unbound b x.2⟩
  eq_self_iff b x := by
    rw [List.forall_mem_append, ← h.eq_self_iff, ← h'.eq_self_iff]
    exact Prod.ext_iff
  substitute_substitute b c x :=
    Prod.ext (h.substitute_substitute b c x.1) (h'.substitute_substitute b c x.2)

theorem list (h : Substitutes params substitute) :
    Substitutes (fun xs => xs.flatMap params) (fun b => List.map (substitute b)) where
  unbound b xs := by
    rw [List.flatMap_map, List.forall_mem_flatMap]
    exact fun x _ => h.unbound b x
  eq_self_iff b xs := by
    rw [map_eq_self_iff, List.forall_mem_flatMap]
    exact forall₂_congr fun x _ => h.eq_self_iff b x
  substitute_substitute b c xs := by
    rw [List.map_map]
    exact List.map_congr_left fun x _ => h.substitute_substitute b c x

/-- The laws for what is seen as something else, such as a record as the tuple of its fields. -/
theorem of_view {substitute' : Bindings → β → β} (h : Substitutes params substitute)
    (view : β → α) (hview : Function.Injective view)
    (hsubstitute : ∀ b y, view (substitute' b y) = substitute b (view y)) :
    Substitutes (fun y => params (view y)) substitute' where
  unbound b y := by
    rw [hsubstitute]
    exact h.unbound b (view y)
  eq_self_iff b y := by
    rw [← h.eq_self_iff, ← hsubstitute, hview.eq_iff]
  substitute_substitute b c y := by
    apply hview
    rw [hsubstitute, hsubstitute, hsubstitute, h.substitute_substitute]

theorem option (h : Substitutes params substitute) :
    Substitutes (fun x : Option α => x.toList.flatMap params)
      (fun b => Option.map (substitute b)) := by
  refine h.list.of_view Option.toList ?_ fun b x => Option.toList_map
  rintro (_ | x) (_ | y) hxy <;> simp_all

end Substitutes

/-! ## Terms -/

section Terms

variable (b c : Bindings)

mutual

theorem unbound_substitute : (t : Term) → ∀ name ∈ (t.substitute b).params, b.find? name = none
  | .param name => by
    rw [Term.substitute]
    split <;> simp_all [Term.params]
  | .fluent _ args => unbound_substituteAll args
  | .eq lhs rhs =>
    List.forall_mem_append.mpr ⟨unbound_substitute lhs, unbound_substitute rhs⟩
  | .not operand => unbound_substitute operand
  | .and operands | .or operands => unbound_substituteAll operands
  | .bool _ | .int _ | .real _ | .object _ => by simp [Term.substitute, Term.params]

theorem unbound_substituteAll :
    (ts : List Term) → ∀ name ∈ Term.paramsOf (Term.substituteAll b ts), b.find? name = none
  | [] => by simp [Term.substituteAll, Term.paramsOf]
  | t :: rest => List.forall_mem_append.mpr ⟨unbound_substitute t, unbound_substituteAll rest⟩

end

mutual

theorem substitute_eq_self : (t : Term) → (∀ name ∈ t.params, b.find? name = none) →
    t.substitute b = t
  | .param name, h => by
    rw [Term.substitute, h name List.mem_cons_self]
  | .fluent _ args, h => by
    rw [Term.substitute, substituteAll_eq_self args h]
  | .eq lhs rhs, h => by
    obtain ⟨hlhs, hrhs⟩ := List.forall_mem_append.mp h
    rw [Term.substitute, substitute_eq_self lhs hlhs, substitute_eq_self rhs hrhs]
  | .not operand, h => by
    rw [Term.substitute, substitute_eq_self operand h]
  | .and operands, h | .or operands, h => by
    rw [Term.substitute, substituteAll_eq_self operands h]
  | .bool _, _ | .int _, _ | .real _, _ | .object _, _ => rfl

theorem substituteAll_eq_self : (ts : List Term) →
    (∀ name ∈ Term.paramsOf ts, b.find? name = none) → Term.substituteAll b ts = ts
  | [], _ => rfl
  | t :: rest, h => by
    obtain ⟨ht, hrest⟩ := List.forall_mem_append.mp h
    rw [Term.substituteAll, substitute_eq_self t ht, substituteAll_eq_self rest hrest]

end

mutual

theorem substitute_substitute :
    (t : Term) → (t.substitute b).substitute c = t.substitute (b.extend c)
  | .param name => by
    rw [Term.substitute, Term.substitute, find?_extend]
    cases b.find? name <;> rfl
  | .fluent _ args => by
    simp only [Term.substitute, substituteAll_substituteAll args]
  | .eq lhs rhs => by
    simp only [Term.substitute, substitute_substitute lhs, substitute_substitute rhs]
  | .not operand => by
    simp only [Term.substitute, substitute_substitute operand]
  | .and operands | .or operands => by
    simp only [Term.substitute, substituteAll_substituteAll operands]
  | .bool _ | .int _ | .real _ | .object _ => rfl

theorem substituteAll_substituteAll : (ts : List Term) →
    Term.substituteAll c (Term.substituteAll b ts) = Term.substituteAll (b.extend c) ts
  | [] => rfl
  | t :: rest => by
    simp only [Term.substituteAll, substitute_substitute t, substituteAll_substituteAll rest]

end

mutual

/-- Where a parameter is replaced, the terms are told apart. -/
theorem unbound_of_same : (t : Term) → (t.substitute b).same t = true →
    ∀ name ∈ t.params, b.find? name = none
  | .param name, h => by
    rw [Term.substitute] at h
    split at h <;> simp_all [Term.params, Term.same]
  | .fluent _ args, h => by
    simp only [Term.substitute, Term.same, Bool.and_eq_true] at h
    exact unbound_of_sameAll args h.2
  | .eq lhs rhs, h => by
    simp only [Term.substitute, Term.same, Bool.and_eq_true] at h
    exact List.forall_mem_append.mpr ⟨unbound_of_same lhs h.1, unbound_of_same rhs h.2⟩
  | .not operand, h => unbound_of_same operand h
  | .and operands, h | .or operands, h => unbound_of_sameAll operands h
  | .bool _, _ | .int _, _ | .real _, _ | .object _, _ => by simp [Term.params]

theorem unbound_of_sameAll : (ts : List Term) → Term.sameAll (Term.substituteAll b ts) ts = true →
    ∀ name ∈ Term.paramsOf ts, b.find? name = none
  | [], _ => by simp [Term.paramsOf]
  | t :: rest, h => by
    simp only [Term.substituteAll, Term.sameAll, Bool.and_eq_true] at h
    exact List.forall_mem_append.mpr ⟨unbound_of_same t h.1, unbound_of_sameAll rest h.2⟩

end

end Terms

theorem substitutes_term : Substitutes Term.params Term.substitute where
  unbound := unbound_substitute
  eq_self_iff b t := by
    refine ⟨fun h => ?_, substitute_eq_self b t⟩
    have hunbound := unbound_substitute b t
    rwa [h] at hunbound
  substitute_substitute := substitute_substitute

/-- Terms with a real that differs from itself differ from themselves too. -/
theorem same_substitute_iff {b : Bindings} {t : Term} : (t.substitute b).same t = true ↔
    (∀ q ∈ t.params, b.find? q = none) ∧ t.same t = true := by
  refine ⟨fun h => ?_, fun h => ?_⟩
  · have hunbound := unbound_of_same b t h
    rw [substitute_eq_self b t hunbound] at h
    exact ⟨hunbound, h⟩
  · rw [substitute_eq_self b t h.1]
    exact h.2

/-! ## Actions -/

theorem substitutes_stateVar : Substitutes StateVar.params StateVar.substitute := by
  refine substitutes_term.of_view StateVar.toTerm ?_ StateVar.toTerm_substitute
  rintro ⟨_, _⟩ ⟨_, _⟩ h
  obtain ⟨rfl, rfl⟩ := Term.fluent.inj h
  rfl

theorem substitutes_durationRange : Substitutes DurationRange.params DurationRange.substitute := by
  refine (substitutes_term.prod substitutes_term).tagged.of_view
    (fun d : DurationRange => ((d.openLower, d.openUpper), d.lower, d.upper)) ?_ fun _ _ => rfl
  rintro ⟨_, _, _, _⟩ ⟨_, _, _, _⟩ h
  cases h
  rfl

theorem substitutes_timedCondition :
    Substitutes TimedCondition.params TimedCondition.substitute := by
  refine substitutes_term.tagged.of_view
    (fun c : TimedCondition => (c.interval, c.condition)) ?_ fun _ _ => rfl
  rintro ⟨_, _⟩ ⟨_, _⟩ h
  cases h
  rfl

theorem substitutes_effect : Substitutes Effect.params Effect.substitute := by
  refine (substitutes_stateVar.prod (substitutes_term.prod substitutes_term.option)).tagged.of_view
    (fun e : Effect => ((e.timing, e.kind), e.target, e.value, e.guard)) ?_ fun _ _ => rfl
  rintro ⟨_, _, _, _, _⟩ ⟨_, _, _, _, _⟩ h
  cases h
  rfl

theorem substitutes_simulatedEffect :
    Substitutes SimulatedEffect.params SimulatedEffect.substitute := by
  refine substitutes_stateVar.list.tagged.of_view
    (fun s : SimulatedEffect => (s.timing, s.targets)) ?_ fun _ _ => rfl
  rintro ⟨_, _⟩ ⟨_, _⟩ h
  cases h
  rfl

/-- A fluent and how many arguments it is applied to. -/
def StateVar.shape (v : StateVar) : String × Nat :=
  (v.name, v.args.length)

/-- An effect without its terms. -/
def Effect.shape (e : Effect) : Timing × EffectKind × (String × Nat) × Bool :=
  (e.timing, e.kind, e.target.shape, e.guard.isSome)

def SimulatedEffect.shape (s : SimulatedEffect) : Timing × List (String × Nat) :=
  (s.timing, s.targets.map StateVar.shape)

namespace DurativeAction

/-- The action with its bound parameters replaced everywhere. It keeps its name and its own
parameters. -/
def substitute (b : Bindings) (a : DurativeAction) : DurativeAction :=
  { a.instantiate a.name b with params := a.params }

/-- Nothing but terms is different: the timing is the same, fluents of the same names and arities
are changed in the same ways, and there are as many of everything. -/
structure SameShape (a b : DurativeAction) : Prop where
  openLower : a.duration.openLower = b.duration.openLower
  openUpper : a.duration.openUpper = b.duration.openUpper
  conditions : a.conditions.map TimedCondition.interval = b.conditions.map TimedCondition.interval
  effects : a.effects.map Effect.shape = b.effects.map Effect.shape
  simulated : a.simulated.map SimulatedEffect.shape = b.simulated.map SimulatedEffect.shape

end DurativeAction

theorem substitutes_durativeAction :
    Substitutes DurativeAction.usedParams DurativeAction.substitute := by
  have hbody := substitutes_durationRange.prod (substitutes_timedCondition.list.prod
    (substitutes_effect.list.prod substitutes_simulatedEffect.list))
  refine hbody.tagged.of_view (fun a : DurativeAction =>
    ((a.name, a.params), a.duration, a.conditions, a.effects, a.simulated)) ?_ fun _ _ => rfl
  rintro ⟨_, _, _, _, _, _⟩ ⟨_, _, _, _, _, _⟩ h
  cases h
  rfl

theorem instantiate_eq_iff {a : DurativeAction} {name : String} {b : Bindings} :
    a.instantiate name b = { a with name := name, params := [] } ↔
      ∀ q ∈ a.usedParams, b.find? q = none := by
  rw [← substitutes_durativeAction.eq_self_iff]
  obtain ⟨_, _, _, _, _, _⟩ := a
  simp [DurativeAction.substitute, DurativeAction.instantiate]

theorem sameShape_instantiate (a : DurativeAction) (name : String) (b : Bindings) :
    (a.instantiate name b).SameShape a := by
  have hstateVar (v : StateVar) : (v.substitute b).shape = v.shape := by
    simp [StateVar.shape, StateVar.substitute, Term.substituteAll_eq_map]
  have heffect (e : Effect) : (e.substitute b).shape = e.shape := by
    simp [Effect.shape, Effect.substitute, hstateVar]
  have hsimulated (s : SimulatedEffect) : (s.substitute b).shape = s.shape := by
    simp [SimulatedEffect.shape, SimulatedEffect.substitute, hstateVar, Function.comp_def]
  refine ⟨rfl, rfl, ?_, ?_, ?_⟩
  · exact (List.map_map ..).trans (List.map_congr_left fun _ _ => rfl)
  · exact (List.map_map ..).trans (List.map_congr_left fun e _ => heffect e)
  · exact (List.map_map ..).trans (List.map_congr_left fun s _ => hsimulated s)

/-- Substitution leaves none of the parameters that it binds, at any depth; it changes a term
exactly if there is one of them in it, and the comparison of terms sees the change; and
substituting by `b` and then by `c` comes to substituting by both at once, where what `b` binds
counts. All of this holds of the instances of an action, in which the terms at all places are
substituted and nothing else is changed but that there are no parameters left. -/
theorem substitution_laws (b c : Bindings) :
    (∀ name, (b.extend c).find? name = (b.find? name).or (c.find? name)) ∧
    (∀ t : Term,
      (∀ q ∈ (t.substitute b).params, b.find? q = none) ∧
      (t.substitute b = t ↔ ∀ q ∈ t.params, b.find? q = none) ∧
      ((t.substitute b).same t = true ↔
        (∀ q ∈ t.params, b.find? q = none) ∧ t.same t = true) ∧
      (t.substitute b).substitute c = t.substitute (b.extend c)) ∧
    ∀ (a : DurativeAction) (name : String),
      (∀ q ∈ (a.instantiate name b).usedParams, b.find? q = none) ∧
      (a.instantiate name b = { a with name := name, params := [] } ↔
        ∀ q ∈ a.usedParams, b.find? q = none) ∧
      (∀ name', (a.instantiate name b).instantiate name' c =
        a.instantiate name' (b.extend c)) ∧
      (a.instantiate name b).SameShape a ∧ (a.instantiate name b).params = [] := by
  refine ⟨find?_extend b c, fun t => ?_, fun a name => ?_⟩
  · exact ⟨unbound_substitute b t, substitutes_term.eq_self_iff b t, same_substitute_iff,
      substitute_substitute b c t⟩
  · have htwice := substitutes_durativeAction.substitute_substitute b c a
    refine ⟨substitutes_durativeAction.unbound b a, instantiate_eq_iff, fun name' => ?_,
      sameShape_instantiate a name b, rfl⟩
    exact congrArg (fun a : DurativeAction => { a with name := name', params := [] }) htwice

end PlanTimelines
