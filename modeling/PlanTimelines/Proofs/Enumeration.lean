import Mathlib.Algebra.Group.Nat.Defs
import PlanTimelines.Proofs.ActionInstances
import PlanTimelines.Proofs.SupportedFluents

/-! The order of instances. Combinations of objects come in the order of a counter: each parameter
is a digit with its domain as the base, and the last parameter counts fastest. `Enumerates` says
which combination is at a place, by division and remainder; the loop over the parameters, which
adds one object at a time, makes them in the same order. With that the instances of fluents and
of actions are known by their places. Where a parameter is of an unknown type there are none
at all, and the first such type is refused, whatever the other domains are. -/

namespace PlanTimelines

/-! ## Counting -/

/-- The number of combinations of the axes after the axis at `j`. -/
def stride {α : Type} (axes : List (List α)) (j : Nat) : Nat :=
  ((axes.drop (j + 1)).map List.length).prod

/-- The combinations of one element per axis, counted with the last axis as the lowest digit. -/
structure Enumerates {α : Type} (axes combinations : List (List α)) : Prop where
  length : combinations.length = (axes.map List.length).prod
  arity : ∀ row ∈ combinations, row.length = axes.length
  digit : ∀ (i : Nat) (row : List α), combinations[i]? = some row →
    ∀ (j : Nat) (axis : List α), axes[j]? = some axis →
      row[j]? = axis[i / stride axes j % axis.length]?

/-- Lists of the same length in a row. -/
theorem getElem?_flatMap_of_length {α β : Type} {f : α → List β} {n : Nat} {xs : List α}
    (h : ∀ x ∈ xs, (f x).length = n) (hn : 0 < n) (i : Nat) :
    (xs.flatMap f)[i]? = xs[i / n]?.bind fun x => (f x)[i % n]? := by
  induction xs generalizing i with
  | nil => simp
  | cons x rest ih =>
    obtain ⟨hx, hrest⟩ := List.forall_mem_cons.mp h
    rw [List.flatMap_cons]
    rcases Nat.lt_or_ge i n with hi | hi
    · rw [List.getElem?_append_left (hx ▸ hi), Nat.div_eq_of_lt hi, Nat.mod_eq_of_lt hi]
      rfl
    · obtain ⟨k, rfl⟩ := Nat.exists_eq_add_of_le' hi
      rw [List.getElem?_append_right (hx ▸ hi), hx, ih hrest, Nat.add_sub_cancel,
        Nat.add_div_right k hn, Nat.add_mod_right]
      rfl

variable {α : Type} {axes : List (List α)}

theorem stride_mul_dvd {j : Nat} {axis : List α} (h : axes[j]? = some axis) :
    stride axes j * axis.length ∣ (axes.map List.length).prod := by
  induction axes generalizing j with
  | nil => simp at h
  | cons first rest ih =>
    rw [List.map_cons, List.prod_cons]
    cases j with
    | zero =>
      obtain rfl := Option.some.inj h
      exact Nat.mul_comm .. ▸ Nat.dvd_refl _
    | succ j => exact Nat.dvd_mul_left_of_dvd (ih h) first.length

theorem length_product (axes : List (List α)) :
    (product axes).length = (axes.map List.length).prod := by
  induction axes with
  | nil => rfl
  | cons axis axes ih => simp [ih]

/-- A combination at its place, by the first axis and the others. -/
theorem getElem?_product_cons {axis : List α} {i : Nat} {c : List α}
    (h : (product (axis :: axes))[i]? = some c) :
    ∃ a rest, c = a :: rest ∧ axis[i / (product axes).length]? = some a ∧
      (product axes)[i % (product axes).length]? = some rest := by
  have hpos : 0 < (product axes).length := by
    by_contra hzero
    have hnil : product axes = [] := by simpa using hzero
    simp [hnil] at h
  have hlength : ∀ a ∈ axis, ((product axes).map (a :: ·)).length = (product axes).length :=
    fun a _ => List.length_map ..
  rw [product_cons, getElem?_flatMap_of_length hlength hpos] at h
  obtain ⟨a, ha, h⟩ := Option.bind_eq_some_iff.mp h
  rw [List.getElem?_map] at h
  obtain ⟨rest, hrest, rfl⟩ := Option.map_eq_some_iff.mp h
  exact ⟨a, rest, rfl, ha, hrest⟩

/-- The digit of an axis is the same in the number that is left for the last axes. -/
theorem mod_div_stride_mod {j : Nat} {axis : List α} (h : axes[j]? = some axis) (i : Nat) :
    i % (axes.map List.length).prod / stride axes j % axis.length =
      i / stride axes j % axis.length := by
  obtain ⟨k, hk⟩ := stride_mul_dvd h
  rw [hk, Nat.mul_assoc, Nat.mod_mul_right_div_self, Nat.mod_mul_right_mod]

theorem enumerates_product (axes : List (List α)) : Enumerates axes (product axes) := by
  refine ⟨length_product axes, fun c hc => length_eq_of_mem_product hc, ?_⟩
  induction axes with
  | nil => simp
  | cons axis axes ih =>
    intro i c hc j axis' haxis'
    obtain ⟨a, rest, rfl, ha, hrest⟩ := getElem?_product_cons hc
    rw [length_product] at ha hrest
    cases j with
    | zero =>
      obtain rfl := Option.some.inj haxis'
      obtain ⟨hlt, -⟩ := List.getElem?_eq_some_iff.mp ha
      exact (Nat.mod_eq_of_lt hlt).symm ▸ ha.symm
    | succ j =>
      have hlater : axes[j]? = some axis' := haxis'
      exact (ih _ rest hrest j axis' hlater).trans (by rw [mod_div_stride_mod hlater]; rfl)

-- Four is one of the first axis (of stride three) and one of the second.
example : (product [["rover", "lander"], ["crater", "ridge", "plain"]])[4]? =
    some ["lander", "ridge"] := rfl

/-- The places say it all. -/
theorem Enumerates.unique {cs cs' : List (List α)} (h : Enumerates axes cs)
    (h' : Enumerates axes cs') : cs = cs' := by
  have hlength : cs.length = cs'.length := h.length.trans h'.length.symm
  refine List.ext_getElem hlength fun i hi hi' => ?_
  have harity : cs[i].length = axes.length := h.arity _ (List.getElem_mem hi)
  have harity' : cs'[i].length = axes.length := h'.arity _ (List.getElem_mem hi')
  refine List.ext_getElem? fun j => ?_
  rcases Nat.lt_or_ge j axes.length with hj | hj
  · have haxis := List.getElem?_eq_getElem hj
    rw [h.digit i _ (List.getElem?_eq_getElem hi) j _ haxis,
      h'.digit i _ (List.getElem?_eq_getElem hi') j _ haxis]
  · rw [List.getElem?_eq_none (harity ▸ hj), List.getElem?_eq_none (harity' ▸ hj)]

theorem enumerates_iff {cs : List (List α)} : Enumerates axes cs ↔ cs = product axes :=
  ⟨fun h => h.unique (enumerates_product axes), fun h => h ▸ enumerates_product axes⟩

/-! ## Axis by axis -/

/-- Each combination with each element of one more axis behind it. -/
def extendBy (combinations : List (List α)) (axis : List α) : List (List α) :=
  combinations.flatMap fun c => axis.map fun a => c ++ [a]

/-- Combinations that grow by one axis after the other end as those that start with them. -/
theorem foldl_extendBy (combinations : List (List α)) :
    axes.foldl extendBy combinations =
      combinations.flatMap fun c => (product axes).map (c ++ ·) := by
  induction axes generalizing combinations with
  | nil => simp
  | cons axis axes ih =>
    rw [List.foldl_cons, ih, extendBy, List.flatMap_assoc]
    refine List.flatMap_congr fun c _ => ?_
    simp only [product_cons, List.flatMap_map, List.map_flatMap, List.map_map]
    refine List.flatMap_congr fun a _ => List.map_congr_left fun rest _ => ?_
    exact List.append_assoc c [a] rest

theorem foldl_extendBy_nil : axes.foldl extendBy [[]] = product axes := by
  rw [foldl_extendBy]
  simp

/-! ## Names -/

theorem append_join_eq_intercalate (separator arg : String) (args : List String) :
    arg ++ String.join (args.map (separator ++ ·)) = separator.intercalate (arg :: args) := by
  induction args generalizing arg with
  | nil => simp
  | cons next args ih =>
    rw [List.map_cons, String.join_cons, String.intercalate_cons_cons, ← ih next]
    simp only [String.append_assoc]

theorem instanceName_nil (name : String) : instanceName name [] = name :=
  rfl

/-- The first argument follows on a bracket, and each other one on a comma and a space. -/
theorem instanceName_cons (name arg : String) (args : List String) :
    instanceName name (arg :: args) =
      name ++ "(" ++ arg ++ String.join (args.map (", " ++ ·)) ++ ")" := by
  rw [instanceName, if_neg (by simp), ← append_join_eq_intercalate]
  simp only [String.append_assoc]

/-! ## Instances -/

namespace DomainTable

/-- The first one of the parameters whose type has no domain is of the type. -/
def FirstUnknown (table : DomainTable) (params : List Param) (typeName : String) : Prop :=
  ∃ before param after, params = before ++ param :: after ∧
    (∀ q ∈ before, table.contains q.typeName = true) ∧
    table.contains param.typeName = false ∧ param.typeName = typeName

/-- What is made of each choice of objects for the parameters of `owner`, in the order of the
choices; or the refusal of the first type that has no domain. -/
structure Instantiates {β : Type} (table : DomainTable) (owner : String) (params : List Param)
    (make : List String → β) (result : Except ConversionError (List β)) : Prop where
  ok_iff : ∀ instances, result = .ok instances ↔ ∃ axes choices,
    List.Forall₂ (fun param axis => table.get? param.typeName = some axis) params axes ∧
      Enumerates axes choices ∧ choices.map make = instances
  error_iff : ∀ e, result = .error e ↔ ∃ typeName, table.FirstUnknown params typeName ∧
    e = .unsupportedParameterType owner typeName
  fails_iff : (∃ e, result = .error e) ↔
    ∃ param ∈ params, table.contains param.typeName = false

end DomainTable

variable {table : DomainTable} {owner : String} {params : List Param}

theorem axis_isOk {param : Param} :
    (∃ axis, table.axis owner param = .ok axis) ↔ table.contains param.typeName = true := by
  simp only [axis_eq_ok, contains_eq_true]

theorem axis_eq_error {param : Param} {e : ConversionError} :
    table.axis owner param = .error e ↔ table.contains param.typeName = false ∧
      .unsupportedParameterType owner param.typeName = e := by
  unfold DomainTable.axis DomainTable.contains
  cases table.get? param.typeName <;> simp

theorem axes_eq_error {e : ConversionError} :
    table.axes owner params = .error e ↔ ∃ typeName, table.FirstUnknown params typeName ∧
      e = .unsupportedParameterType owner typeName := by
  rw [axes_eq_mapM, mapM_eq_error]
  simp only [axis_isOk, axis_eq_error]
  constructor
  · intro h
    obtain ⟨before, param, after, hparams, hbefore, hparam, rfl⟩ := h
    exact ⟨_, ⟨before, param, after, hparams, hbefore, hparam, rfl⟩, rfl⟩
  · intro h
    obtain ⟨_, ⟨before, param, after, hparams, hbefore, hparam, rfl⟩, rfl⟩ := h
    exact ⟨before, param, after, hparams, hbefore, hparam, rfl⟩

theorem instantiates_map {β : Type} (table : DomainTable) (owner : String) (params : List Param)
    (make : List String → β) :
    table.Instantiates owner params make
      ((table.axes owner params).map fun axes => (product axes).map make) where
  ok_iff instances := by
    simp only [map_eq_ok, axes_eq_ok, enumerates_iff]
    constructor
    · intro h
      obtain ⟨axes, haxes, rfl⟩ := h
      exact ⟨axes, product axes, haxes, rfl, rfl⟩
    · intro h
      obtain ⟨axes, _, haxes, rfl, rfl⟩ := h
      exact ⟨axes, haxes, rfl⟩
  error_iff e := map_eq_error.trans axes_eq_error
  fails_iff := by
    simp only [map_eq_error, isError_iff, axes_isOk]
    simp

/-! ## Fluents and actions -/

theorem instantiates_fluentInstances (table : DomainTable) (f : Fluent) :
    table.Instantiates f.name f.params
      (fun args => ⟨instanceName f.name args, f.name, args, f.valueType⟩)
      (table.fluentInstances f) :=
  instantiates_map table f.name f.params _

theorem instantiates_actionInstances (table : DomainTable) (a : DurativeAction) :
    table.Instantiates a.name a.params
      (fun args => .durative (a.instantiate (instanceName a.name args) (a.bindings args)))
      (table.actionInstances (.durative a)) :=
  actionInstances_eq_map table a ▸ instantiates_map table a.name a.params _

theorem actionInstances_eq_error {action : Action} {e : ConversionError} :
    table.actionInstances action = .error e ↔ ∃ a typeName, action = .durative a ∧
      table.FirstUnknown a.params typeName ∧ e = .unsupportedParameterType a.name typeName := by
  cases action with
  | instantaneous a => simp [DomainTable.actionInstances]
  | durative a =>
    rw [(instantiates_actionInstances table a).error_iff]
    simp

theorem actionInstances_isOk {action : Action} :
    (∃ instances, table.actionInstances action = .ok instances) ↔
      ∀ a, action = .durative a → ∀ param ∈ a.params, table.contains param.typeName = true := by
  cases action with
  | instantaneous a => simp [DomainTable.actionInstances]
  | durative a => simp [actionInstances_eq_map, map_eq_ok, axes_isOk]

variable {p : Problem}

theorem problem_actionInstances_eq_ok {actions : List Action} :
    p.actionInstances table = .ok actions ↔ ∃ groups,
      List.Forall₂ (fun action group => table.actionInstances action = .ok group)
        p.actions groups ∧ groups.flatten = actions := by
  simp only [Problem.actionInstances, map_eq_ok, mapM_eq_ok]

/-- The first action with an unknown type is refused. -/
theorem problem_actionInstances_eq_error {e : ConversionError} :
    p.actionInstances table = .error e ↔ ∃ before a after typeName,
      p.actions = before ++ .durative a :: after ∧
      (∀ b, .durative b ∈ before → ∀ param ∈ b.params, table.contains param.typeName = true) ∧
      table.FirstUnknown a.params typeName ∧
      e = .unsupportedParameterType a.name typeName := by
  have hbefore (before : List Action) :
      (∀ action ∈ before, ∃ instances, table.actionInstances action = .ok instances) ↔
        ∀ b, .durative b ∈ before → ∀ param ∈ b.params, table.contains param.typeName = true := by
    simp only [actionInstances_isOk]
    exact ⟨fun h b hb => h _ hb b rfl, fun h action haction b hb => h b (hb ▸ haction)⟩
  simp only [Problem.actionInstances, map_eq_error, mapM_eq_error, hbefore,
    actionInstances_eq_error]
  constructor
  · intro h
    obtain ⟨before, _, after, hactions, hknown, a, typeName, rfl, hfirst, he⟩ := h
    exact ⟨before, a, after, typeName, hactions, hknown, hfirst, he⟩
  · intro h
    obtain ⟨before, a, after, typeName, hactions, hknown, hfirst, he⟩ := h
    exact ⟨before, _, after, hactions, hknown, a, typeName, rfl, hfirst, he⟩

theorem problem_actionInstances_fails_iff :
    (∃ e, p.actionInstances table = .error e) ↔
      ∃ a, .durative a ∈ p.actions ∧ ∃ param ∈ a.params,
        table.contains param.typeName = false := by
  have hisOk : (∃ actions, p.actionInstances table = .ok actions) ↔
      ∀ action ∈ p.actions, ∃ instances, table.actionInstances action = .ok instances := by
    rw [← mapM_isOk]
    simp only [Problem.actionInstances, map_eq_ok]
    simp
  rw [isError_iff, hisOk]
  simp only [actionInstances_isOk]
  simp

/-- The product is the list of all combinations in the order of counting, and it is what grows
from the empty combination axis by axis. So a fluent, and an action, has one instance for each
choice of objects, in that order and under the name with the objects written out. It is refused
exactly if a parameter is of a type without a domain, with the first such type, and also where
another domain is empty. The actions of a problem take their turns, and the first one that is
refused decides on the error. -/
theorem instances_enumerated :
    (∀ {α : Type} (axes combinations : List (List α)),
      Enumerates axes combinations ↔ combinations = product axes) ∧
    (∀ {α : Type} (axes : List (List α)), axes.foldl extendBy [[]] = product axes) ∧
    (∀ name, instanceName name [] = name) ∧
    (∀ name arg args, instanceName name (arg :: args) =
      name ++ "(" ++ arg ++ String.join (args.map (", " ++ ·)) ++ ")") ∧
    ∀ table : DomainTable,
      (∀ f : Fluent, table.Instantiates f.name f.params
        (fun args => ⟨instanceName f.name args, f.name, args, f.valueType⟩)
        (table.fluentInstances f)) ∧
      (∀ a : DurativeAction, table.Instantiates a.name a.params
        (fun args => .durative (a.instantiate (instanceName a.name args) (a.bindings args)))
        (table.actionInstances (.durative a))) ∧
      (∀ a, table.actionInstances (.instantaneous a) = .ok [.instantaneous a]) ∧
      ∀ p : Problem,
        (∀ actions, p.actionInstances table = .ok actions ↔ ∃ groups,
          List.Forall₂ (fun action group => table.actionInstances action = .ok group)
            p.actions groups ∧ groups.flatten = actions) ∧
        (∀ e, p.actionInstances table = .error e ↔ ∃ before a after typeName,
          p.actions = before ++ .durative a :: after ∧
          (∀ b, .durative b ∈ before → ∀ param ∈ b.params,
            table.contains param.typeName = true) ∧
          table.FirstUnknown a.params typeName ∧
          e = .unsupportedParameterType a.name typeName) ∧
        ((∃ e, p.actionInstances table = .error e) ↔
          ∃ a, .durative a ∈ p.actions ∧ ∃ param ∈ a.params,
            table.contains param.typeName = false) := by
  refine ⟨fun axes combinations => enumerates_iff, fun axes => foldl_extendBy_nil,
    instanceName_nil, instanceName_cons, fun table => ?_⟩
  refine ⟨instantiates_fluentInstances table, instantiates_actionInstances table,
    fun _ => rfl, fun p => ?_⟩
  exact ⟨fun actions => problem_actionInstances_eq_ok,
    fun e => problem_actionInstances_eq_error, problem_actionInstances_fails_iff⟩

end PlanTimelines
