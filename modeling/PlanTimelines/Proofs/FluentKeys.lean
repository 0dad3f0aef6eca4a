import PlanTimelines.Example.Declarations
import PlanTimelines.Example.Rovers
import PlanTimelines.Proofs.DraftNames
import PlanTimelines.Proofs.Instances

/-! The keys of fluent instances. A key joins the name of a fluent and the names of
objects, whatever they contain, and names with the separator in them can make one key of
two instances. Without such names every instance has a key of its own, and the record
under the key is its record. -/

namespace PlanTimelines

/-! ## Joined names -/

/-- The characters between two arguments. -/
def separator : List Char := ", ".toList

/-- Where a text goes on with the separator in two ways, the texts before it differ by
nothing or by the separator itself. -/
theorem eq_nil_or_prefix_of_append_eq {cs xs ys : List Char}
    (h : separator ++ xs = cs ++ (separator ++ ys)) : cs = [] ∨ separator <+: cs := by
  have hseparator : separator = [',', ' '] := rfl
  rw [hseparator] at h ⊢
  match cs with
  | [] => exact .inl rfl
  | [c] => simp at h
  | c :: c' :: rest =>
    simp only [List.cons_append, List.nil_append, List.cons.injEq] at h
    obtain ⟨rfl, rfl, -⟩ := h
    exact .inr ⟨rest, rfl⟩

theorem append_separator_inj {as bs xs ys : List Char} (ha : ¬separator <:+: as)
    (hb : ¬separator <:+: bs) (h : as ++ separator ++ xs = bs ++ separator ++ ys) :
    as = bs ∧ xs = ys := by
  have heq : as = bs := by
    rw [List.append_assoc, List.append_assoc, List.append_eq_append_iff] at h
    rcases h with ⟨cs, rfl, h⟩ | ⟨cs, rfl, h⟩
    · rcases eq_nil_or_prefix_of_append_eq h with rfl | hcs
      · simp
      · exact absurd (hcs.isInfix.trans (List.infix_append_right)) hb
    · rcases eq_nil_or_prefix_of_append_eq h with rfl | hcs
      · simp
      · exact absurd (hcs.isInfix.trans (List.infix_append_right)) ha
  subst heq
  exact ⟨rfl, List.append_cancel_left h⟩

theorem intercalate_separator_inj {as bs : List (List Char)} (hlength : as.length = bs.length)
    (ha : ∀ a ∈ as, ¬separator <:+: a) (hb : ∀ b ∈ bs, ¬separator <:+: b)
    (h : separator.intercalate as = separator.intercalate bs) : as = bs := by
  induction as generalizing bs with
  | nil => exact (List.length_eq_zero_iff.mp hlength.symm).symm
  | cons a as ih =>
    obtain ⟨b, bs, rfl⟩ := List.exists_cons_of_length_eq_add_one hlength.symm
    rw [List.forall_mem_cons] at ha hb
    have hrest : as.length = bs.length := Nat.succ.inj hlength
    match as, bs, hrest with
    | [], [], _ =>
      rw [List.intercalate_singleton, List.intercalate_singleton] at h
      rw [h]
    | a' :: as, b' :: bs, hrest =>
      rw [List.intercalate_cons_cons, List.intercalate_cons_cons] at h
      obtain ⟨heq, hjoined⟩ := append_separator_inj ha.1 hb.1 h
      rw [heq, ih hrest ha.2 hb.2 hjoined]

/-! ## Keys -/

/-- A name of a fluent that does not look like a key with arguments. -/
def PlainFluentName (name : String) : Prop :=
  '(' ∉ name.toList

/-- A name of an object that does not look like two arguments. -/
def PlainObjectName (name : String) : Prop :=
  ¬separator <:+: name.toList

instance (name : String) : Decidable (PlainFluentName name) :=
  inferInstanceAs (Decidable ('(' ∉ name.toList))

instance (name : String) : Decidable (PlainObjectName name) :=
  inferInstanceAs (Decidable ¬separator <:+: name.toList)

theorem plain_truthValue : ∀ name ∈ ["true", "false"], PlainObjectName name := by
  decide

theorem toList_instanceName (name : String) (args : List String) :
    (instanceName name args).toList = name.toList ++ if args.isEmpty then []
      else '(' :: (separator.intercalate (args.map String.toList) ++ [')']) := by
  unfold instanceName
  split
  · simp
  · simp [String.toList_intercalate, separator]

theorem takeWhile_instanceName {name : String} (h : PlainFluentName name) (args : List String) :
    (instanceName name args).toList.takeWhile (· != '(') = name.toList := by
  rw [toList_instanceName, List.takeWhile_append_of_pos]
  · split <;> simp
  · intro c hc
    have hne : c ≠ '(' := fun heq => h (heq ▸ hc)
    simpa using hne

theorem name_eq_of_instanceName_eq {name name' : String} {args args' : List String}
    (hname : PlainFluentName name) (hname' : PlainFluentName name')
    (h : instanceName name args = instanceName name' args') : name = name' := by
  rw [← String.toList_inj, ← takeWhile_instanceName hname args, h, takeWhile_instanceName hname']

theorem args_eq_of_instanceName_eq {name : String} {args args' : List String}
    (hlength : args.length = args'.length) (hargs : ∀ a ∈ args, PlainObjectName a)
    (hargs' : ∀ a ∈ args', PlainObjectName a)
    (h : instanceName name args = instanceName name args') : args = args' := by
  rw [← String.toList_inj, toList_instanceName, toList_instanceName] at h
  have h := List.append_cancel_left h
  match args, args', hlength with
  | [], [], _ => rfl
  | a :: as, b :: bs, hlength =>
    simp only [List.isEmpty_cons, Bool.false_eq_true, if_false, List.cons.injEq, true_and] at h
    have hjoined := List.append_cancel_right h
    apply List.map_injective_iff.mpr fun _ _ => String.toList_injective
    apply intercalate_separator_inj _ _ _ hjoined
    · simpa using hlength
    · exact List.forall_mem_map.mpr hargs
    · exact List.forall_mem_map.mpr hargs'

/-! ## Problems with plain names -/

/-- No name of the problem can be taken for a longer piece of a key. -/
structure Problem.PlainNames (p : Problem) : Prop where
  fluents : ∀ f ∈ p.fluents, PlainFluentName f.name
  objects : ∀ o ∈ p.objects, PlainObjectName o.name

instance (p : Problem) : Decidable p.PlainNames :=
  decidable_of_iff ((∀ f ∈ p.fluents, PlainFluentName f.name) ∧
      ∀ o ∈ p.objects, PlainObjectName o.name)
    ⟨fun h => ⟨h.1, h.2⟩, fun h => ⟨h.fluents, h.objects⟩⟩

variable {p : Problem} {f : Fluent} {instances : List FluentInstance}

/-- The arguments of an instance are names of objects or truth values. -/
theorem plain_of_mem_args (hplain : p.PlainNames)
    (h : p.domains.fluentInstances f = .ok instances) {i : FluentInstance} (hi : i ∈ instances) :
    ∀ a ∈ i.args, PlainObjectName a := by
  intro a ha
  obtain ⟨axes, haxes, rfl⟩ := fluentInstances_eq_ok.mp h
  obtain ⟨args, hargs, rfl⟩ := List.mem_map.mp hi
  obtain ⟨axis, haxis, ha⟩ := mem_of_mem_product hargs a ha
  obtain ⟨param, -, hget⟩ := (mem_axes haxes).mp haxis
  rcases get?_domains hget with rfl | ⟨t, -, rfl⟩
  · exact plain_truthValue a ha
  · obtain ⟨o, ho, rfl⟩ := List.mem_map.mp ha
    exact hplain.objects o (List.mem_filter.mp ho).1

theorem nodup_fluentInstances (hobjects : (p.objects.map ObjectDecl.name).Nodup)
    (h : p.domains.fluentInstances f = .ok instances) : instances.Nodup := by
  obtain ⟨axes, haxes, rfl⟩ := fluentInstances_eq_ok.mp h
  have hproduct : (product axes).Nodup := by
    apply nodup_product
    intro axis haxis
    obtain ⟨param, -, hget⟩ := (mem_axes haxes).mp haxis
    exact nodup_of_get?_domains hobjects hget
  apply hproduct.map
  intro args args' heq
  exact (FluentInstance.mk.inj heq).2.2.1

theorem nodup_instances (hfluents : (p.fluents.map Fluent.name).Nodup)
    (hobjects : (p.objects.map ObjectDecl.name).Nodup) {groups : List (List FluentInstance)}
    (h : p.fluents.mapM p.domains.fluentInstances = .ok groups) : groups.flatten.Nodup := by
  generalize p.fluents = fluents at hfluents h
  induction mapM_eq_ok.mp h with
  | nil => exact List.nodup_nil
  | @cons f instances fluents groups hf hrest ih =>
    have hgroups : fluents.mapM p.domains.fluentInstances = .ok groups := mapM_eq_ok.mpr hrest
    rw [List.map_cons, List.nodup_cons] at hfluents
    rw [List.flatten_cons, List.nodup_append']
    refine ⟨nodup_fluentInstances hobjects hf, ih hfluents.2 hgroups, fun i hi hi' => ?_⟩
    -- an instance of both groups would name two fluents
    obtain ⟨instances', hinstances', hi'⟩ := List.mem_flatten.mp hi'
    obtain ⟨f', hf', hok⟩ := exists_of_mem_mapM hgroups hinstances'
    have hname : f.name = f'.name :=
      (isOf_of_mem hf hi).className.symm.trans (isOf_of_mem hok hi').className
    exact hfluents.1 (hname ▸ List.mem_map_of_mem hf')

/-- An instance can be read off its key. -/
theorem eq_of_name_eq (hplain : p.PlainNames) (hfluents : (p.fluents.map Fluent.name).Nodup)
    {groups : List (List FluentInstance)}
    (h : p.fluents.mapM p.domains.fluentInstances = .ok groups) {i j : FluentInstance}
    (hi : i ∈ groups.flatten) (hj : j ∈ groups.flatten) (hname : i.name = j.name) : i = j := by
  obtain ⟨is, his, hi⟩ := List.mem_flatten.mp hi
  obtain ⟨js, hjs, hj⟩ := List.mem_flatten.mp hj
  obtain ⟨f, hf, hfi⟩ := exists_of_mem_mapM h his
  obtain ⟨g, hg, hgj⟩ := exists_of_mem_mapM h hjs
  have hof := isOf_of_mem hfi hi
  have hof' := isOf_of_mem hgj hj
  rw [hof.name, hof'.name] at hname
  have hfg : f.name = g.name :=
    name_eq_of_instanceName_eq (hplain.fluents f hf) (hplain.fluents g hg) hname
  obtain rfl : f = g := List.inj_on_of_nodup_map hfluents hf hg hfg
  have hargs : i.args = j.args :=
    args_eq_of_instanceName_eq (hof.arity.trans hof'.arity.symm) (plain_of_mem_args hplain hfi hi)
      (plain_of_mem_args hplain hgj hj) hname
  exact hof.eq_of_args_eq hof' hargs

/-! ## Records under keys -/

section Lookup

variable {α β κ : Type} {record? : α → Option β} {key : α → κ} {name : β → κ}

/-- Records that keep the keys of what they are made of. -/
theorem map_filterMap_sublist (hname : ∀ a b, record? a = some b → name b = key a)
    (as : List α) : ((as.filterMap record?).map name).Sublist (as.map key) := by
  induction as with
  | nil => exact .slnil
  | cons a rest ih =>
    rw [List.filterMap_cons, List.map_cons]
    split
    · exact ih.cons _
    · rename_i b hb
      rw [List.map_cons, hname a b hb]
      exact ih.cons_cons _

/-- Under a key that only one element has, the lookup finds the record of the element, or
nothing if it has none. -/
theorem findLast?_filterMap [DecidableEq κ]
    (hname : ∀ a b, record? a = some b → name b = key a) {as : List α} {a : α}
    (ha : a ∈ as) (hkey : ∀ a' ∈ as, key a' = key a → a' = a) :
    findLast? (fun b => name b == key a) (as.filterMap record?) = record? a := by
  cases hfind : findLast? (fun b => name b == key a) (as.filterMap record?) with
  | some b =>
    obtain ⟨hb, hsame⟩ := mem_of_findLast? hfind
    obtain ⟨a', ha', hrecord⟩ := List.mem_filterMap.mp hb
    have hkeys : key a' = key a := (hname a' b hrecord).symm.trans (beq_iff_eq.mp hsame)
    rw [← hkey a' ha' hkeys, hrecord]
  | none =>
    cases hrecord : record? a with
    | none => rfl
    | some b =>
      have hnone := List.find?_eq_none.mp hfind b
        (List.mem_reverse.mpr (List.mem_filterMap.mpr ⟨a, ha, hrecord⟩))
      exact absurd (beq_iff_eq.mpr (hname a b hrecord)) hnone

end Lookup

section Instances

variable {table : DomainTable} {i : FluentInstance}

theorem name_of_instance_timeline? {t : DraftTimeline} (h : i.timeline? table = some t) :
    t.name = i.name := by
  obtain ⟨-, values, -, rfl⟩ := FluentInstance.timeline?_eq_some.mp h
  rfl

theorem name_of_instance_resource? {r : DraftResource} (h : i.resource? = some r) :
    r.name = i.name := by
  obtain ⟨-, rfl⟩ := FluentInstance.resource?_eq_some.mp h
  rfl

/-- A record is of the kind of its instance. -/
theorem instance_kind_eq (h : i.Registers table) :
    i.kind = .timeline ∧ (i.timeline? table).isSome ∨
      i.kind = .resource ∧ i.timeline? table = none ∧ i.resource?.isSome := by
  unfold FluentInstance.kind FluentInstance.timeline? FluentInstance.resource?
  cases hresource : i.isResource with
  | true => simp
  | false =>
    obtain ⟨values, hvalues⟩ := h hresource
    simp [hvalues]

variable {instances : List FluentInstance}

theorem nodup_keys_withInstances (hnodup : (instances.map FluentInstance.name).Nodup) :
    ((Draft.empty.withInstances table instances).timelines.map DraftTimeline.name ++
      (Draft.empty.withInstances table instances).resourceNames).Nodup := by
  have htimelines : ((instances.filterMap (·.timeline? table)).map DraftTimeline.name).Sublist
      (instances.map FluentInstance.name) :=
    map_filterMap_sublist (fun _ _ => name_of_instance_timeline?) instances
  have hresources : ((instances.filterMap (·.resource?)).map DraftResource.name).Sublist
      (instances.map FluentInstance.name) :=
    map_filterMap_sublist (fun _ _ => name_of_instance_resource?) instances
  rw [List.nodup_append]
  refine ⟨hnodup.sublist htimelines, hnodup.sublist hresources, ?_⟩
  intro key htimeline key' hresource heq
  obtain ⟨t, ht, rfl⟩ := List.mem_map.mp htimeline
  obtain ⟨r, hr, rfl⟩ := List.mem_map.mp hresource
  obtain ⟨i, hi, hit⟩ := List.mem_filterMap.mp ht
  obtain ⟨j, hj, hjr⟩ := List.mem_filterMap.mp hr
  have hname : i.name = j.name :=
    (name_of_instance_timeline? hit).symm.trans (heq.trans (name_of_instance_resource? hjr))
  obtain rfl := List.inj_on_of_nodup_map hnodup hi hj hname
  -- no instance has two records
  have htimeline := (FluentInstance.timeline?_eq_some.mp hit).1
  rw [(FluentInstance.resource?_eq_some.mp hjr).1] at htimeline
  cases htimeline

theorem lookup_withInstances (hnodup : (instances.map FluentInstance.name).Nodup)
    (hi : i ∈ instances) (hregisters : i.Registers table) :
    (Draft.empty.withInstances table instances).timeline? i.name = i.timeline? table ∧
      (Draft.empty.withInstances table instances).resource? i.name = i.resource? ∧
      (Draft.empty.withInstances table instances).kind? i.name = some i.kind := by
  have hkey : ∀ j ∈ instances, j.name = i.name → j = i :=
    fun j hj => List.inj_on_of_nodup_map hnodup hj hi
  have htimeline : (Draft.empty.withInstances table instances).timeline? i.name =
      i.timeline? table :=
    findLast?_filterMap (fun _ _ => name_of_instance_timeline?) hi hkey
  have hresource : (Draft.empty.withInstances table instances).resource? i.name = i.resource? :=
    findLast?_filterMap (fun _ _ => name_of_instance_resource?) hi hkey
  refine ⟨htimeline, hresource, ?_⟩
  rw [Draft.kind?, htimeline, hresource]
  rcases instance_kind_eq hregisters with ⟨hkind, hsome⟩ | ⟨hkind, hnone, hsome⟩
  · rw [hkind, if_pos hsome]
  · simp [hkind, hnone, hsome]

end Instances

/-- Where all names are plain and none is declared twice, the keys of the timelines and
resources are distinct, and each finds the record of the instance it is the key of. -/
theorem ofProblem_keys_unique {d : Draft} (hplain : p.PlainNames)
    (hfluents : (p.fluents.map Fluent.name).Nodup)
    (hobjects : (p.objects.map ObjectDecl.name).Nodup)
    (h : Draft.ofProblem p p.domains = .ok d) :
    ∃ groups, p.fluents.mapM p.domains.fluentInstances = .ok groups ∧
      (groups.flatten.map FluentInstance.name).Nodup ∧
      (d.timelines.map DraftTimeline.name ++ d.resourceNames).Nodup ∧
      ∀ i ∈ groups.flatten, d.timeline? i.name = i.timeline? p.domains ∧
        d.resource? i.name = i.resource? ∧ d.kind? i.name = some i.kind := by
  obtain ⟨groups, hgroups, hregisters, rfl⟩ := ofProblem_eq_ok.mp h
  have hnodup : (groups.flatten.map FluentInstance.name).Nodup := by
    apply (nodup_instances hfluents hobjects hgroups).map_on
    intro i hi j hj
    exact eq_of_name_eq hplain hfluents hgroups hi hj
  exact ⟨groups, hgroups, hnodup, nodup_keys_withInstances hnodup,
    fun i hi => lookup_withInstances hnodup hi (hregisters i hi)⟩

/-- The fluents of the rovers have five timelines and a resource, each under its own key. -/
theorem rovers_keys_unique :
    ∃ d groups, Draft.ofProblem Example.Rovers.problem Example.Rovers.problem.domains = .ok d ∧
      Example.Rovers.problem.fluents.mapM Example.Rovers.problem.domains.fluentInstances =
        .ok groups ∧
      (groups.flatten.map FluentInstance.name).Nodup ∧
      (d.timelines.map DraftTimeline.name ++ d.resourceNames).Nodup ∧
      ∀ i ∈ groups.flatten, d.timeline? i.name = i.timeline? Example.Rovers.problem.domains ∧
        d.resource? i.name = i.resource? ∧ d.kind? i.name = some i.kind := by
  obtain ⟨d, hd⟩ :
      ∃ d, Draft.ofProblem Example.Rovers.problem Example.Rovers.problem.domains = .ok d :=
    ⟨_, rfl⟩
  obtain ⟨groups, hgroups⟩ := ofProblem_keys_unique (by decide +kernel) (by decide) (by decide) hd
  exact ⟨d, groups, hd, hgroups⟩

/-- The roads have fluents and objects under different names, and a key that two roads
share. -/
theorem roads_share_key :
    (Example.Roads.problem.fluents.map Fluent.name).Nodup ∧
      (Example.Roads.problem.objects.map ObjectDecl.name).Nodup ∧
      ∃ d, Draft.ofProblem Example.Roads.problem Example.Roads.problem.domains = .ok d ∧
        ¬(d.timelines.map DraftTimeline.name ++ d.resourceNames).Nodup := by
  refine ⟨by decide, by decide, _, rfl, ?_⟩
  decide

end PlanTimelines
