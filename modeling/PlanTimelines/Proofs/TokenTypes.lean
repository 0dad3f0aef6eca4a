import PlanTimelines.Synthesis

/-! Token types as they are synthesized: the conditions, group by group, and the duration.
There is at most one condition for each relation, a disjunction of links that all have it. -/

namespace PlanTimelines

/-- The conditions whose links all have the relation. -/
def TokenType.groups (type : TokenType) (relation : Relation) : List Condition :=
  type.conditions.filter (·.relation? == some relation)

namespace Condition

theorem ofLinks_eq_nil {links : List Link} : ofLinks links = [] ↔ links = [] := by
  cases links <;> simp [ofLinks]

theorem ofLinks_of_ne_nil {links : List Link} (h : links ≠ []) :
    ofLinks links = [.anyOf links] := by
  cases links with
  | nil => exact absurd rfl h
  | cons l rest => rfl

theorem relation?_of_mem_ofLinks {links : List Link} {relation : Relation}
    (h : ∀ l ∈ links, l.relation = relation) {c : Condition} (hc : c ∈ ofLinks links) :
    c.relation? = some relation := by
  cases links with
  | nil => cases hc
  | cons l rest =>
    obtain rfl := List.mem_singleton.mp hc
    exact relation?_eq_some_iff.mpr ⟨by simp [Condition.links], h⟩

theorem filter_ofLinks_of_eq {links : List Link} {relation : Relation}
    (h : ∀ l ∈ links, l.relation = relation) :
    (ofLinks links).filter (·.relation? == some relation) = ofLinks links := by
  rw [List.filter_eq_self]
  intro c hc
  simp [relation?_of_mem_ofLinks h hc]

theorem filter_ofLinks_of_ne {links : List Link} {relation other : Relation}
    (h : ∀ l ∈ links, l.relation = other) (hne : other ≠ relation) :
    (ofLinks links).filter (·.relation? == some relation) = [] := by
  rw [List.filter_eq_nil_iff]
  intro c hc
  simp [relation?_of_mem_ofLinks h hc, hne]

end Condition

variable (dt : DraftTimeline) (table : SupplyTable) (minDuration : UInt32) (v : DraftValue)

theorem relation_of_mem_coverLinks :
    ∀ l ∈ DraftTimeline.coverLinks table v, l.relation = .cover := by
  intro l hl
  obtain ⟨use, -, hl⟩ := List.mem_flatMap.mp hl
  obtain ⟨s, -, rfl⟩ := List.mem_map.mp hl
  rfl

theorem relation_of_mem_metByLinks : ∀ l ∈ dt.metByLinks v, l.relation = .metBy := by
  intro l hl
  obtain ⟨u, -, rfl⟩ := List.mem_map.mp hl
  rfl

theorem relation_of_mem_meetsLinks : ∀ l ∈ dt.meetsLinks v, l.relation = .meets := by
  intro l hl
  unfold DraftTimeline.meetsLinks at hl
  split at hl
  · obtain ⟨u, -, rfl⟩ := List.mem_map.mp hl
    rfl
  · cases hl

/-- Each condition is a disjunction of links of one relation, and they come in this order,
with at most one for each relation. -/
structure TokenType.Grouped (type : TokenType) : Prop where
  disjunction : ∀ c ∈ type.conditions, ∃ links relation, c = .anyOf links ∧ links ≠ [] ∧
    (∀ l ∈ links, l.relation = relation) ∧ c.relation? = some relation
  order : (type.conditions.map Condition.relation?).Sublist [some .cover, some .metBy, some .meets]

theorem mem_ofLinks {links : List Link} {c : Condition} :
    c ∈ Condition.ofLinks links ↔ links ≠ [] ∧ c = .anyOf links := by
  cases links <;> simp [Condition.ofLinks]

theorem map_relation?_ofLinks_sublist {links : List Link} {relation : Relation}
    (h : ∀ l ∈ links, l.relation = relation) :
    ((Condition.ofLinks links).map Condition.relation?).Sublist [some relation] := by
  cases links with
  | nil => exact List.nil_sublist _
  | cons l rest =>
    have hrelation := Condition.relation?_of_mem_ofLinks h List.mem_cons_self
    simp only [Condition.ofLinks, List.map_cons, List.map_nil, hrelation]
    exact List.Sublist.refl _

theorem mem_conditions_tokenType {c : Condition} :
    c ∈ (dt.tokenType table minDuration v).conditions ↔
      c ∈ Condition.ofLinks (DraftTimeline.coverLinks table v) ∨
        c ∈ Condition.ofLinks (dt.metByLinks v) ∨ c ∈ Condition.ofLinks (dt.meetsLinks v) := by
  simp [DraftTimeline.tokenType]

theorem grouped_tokenType : (dt.tokenType table minDuration v).Grouped := by
  have hcover := relation_of_mem_coverLinks table v
  have hmetBy := relation_of_mem_metByLinks dt v
  have hmeets := relation_of_mem_meetsLinks dt v
  have hgroup {links : List Link} {relation : Relation} (h : ∀ l ∈ links, l.relation = relation)
      {c : Condition} (hc : c ∈ Condition.ofLinks links) : ∃ links relation, c = .anyOf links ∧
        links ≠ [] ∧ (∀ l ∈ links, l.relation = relation) ∧ c.relation? = some relation := by
    obtain ⟨hne, heq⟩ := mem_ofLinks.mp hc
    exact ⟨links, relation, heq, hne, h, Condition.relation?_of_mem_ofLinks h hc⟩
  constructor
  · intro c hc
    rcases (mem_conditions_tokenType ..).mp hc with hc | hc | hc
    · exact hgroup hcover hc
    · exact hgroup hmetBy hc
    · exact hgroup hmeets hc
  · unfold DraftTimeline.tokenType
    rw [List.map_append, List.map_append]
    exact ((map_relation?_ofLinks_sublist hcover).append
      (map_relation?_ofLinks_sublist hmetBy)).append (map_relation?_ofLinks_sublist hmeets)

theorem groups_cover_tokenType : (dt.tokenType table minDuration v).groups .cover =
    Condition.ofLinks (DraftTimeline.coverLinks table v) := by
  unfold TokenType.groups DraftTimeline.tokenType
  rw [List.filter_append, List.filter_append,
    Condition.filter_ofLinks_of_eq (relation_of_mem_coverLinks table v),
    Condition.filter_ofLinks_of_ne (relation_of_mem_metByLinks dt v) (by decide),
    Condition.filter_ofLinks_of_ne (relation_of_mem_meetsLinks dt v) (by decide),
    List.append_nil, List.append_nil]

theorem groups_metBy_tokenType :
    (dt.tokenType table minDuration v).groups .metBy = Condition.ofLinks (dt.metByLinks v) := by
  unfold TokenType.groups DraftTimeline.tokenType
  rw [List.filter_append, List.filter_append,
    Condition.filter_ofLinks_of_ne (relation_of_mem_coverLinks table v) (by decide),
    Condition.filter_ofLinks_of_eq (relation_of_mem_metByLinks dt v),
    Condition.filter_ofLinks_of_ne (relation_of_mem_meetsLinks dt v) (by decide),
    List.nil_append, List.append_nil]

theorem groups_meets_tokenType :
    (dt.tokenType table minDuration v).groups .meets = Condition.ofLinks (dt.meetsLinks v) := by
  unfold TokenType.groups DraftTimeline.tokenType
  rw [List.filter_append, List.filter_append,
    Condition.filter_ofLinks_of_ne (relation_of_mem_coverLinks table v) (by decide),
    Condition.filter_ofLinks_of_ne (relation_of_mem_metByLinks dt v) (by decide),
    Condition.filter_ofLinks_of_eq (relation_of_mem_meetsLinks dt v),
    List.append_nil, List.nil_append]

theorem duration_tokenType_eq_fixed {duration : UInt32} :
    (dt.tokenType table minDuration v).duration = .fixed duration ↔
      v.duration = some duration := by
  unfold DraftTimeline.tokenType
  cases v.duration with
  | none => simp [DurationBounds.fixed, DurationBounds.atLeast]
  | some duration' => simp [DurationBounds.fixed]

theorem duration_tokenType_of_none {v : DraftValue} (h : v.duration = none) :
    (dt.tokenType table minDuration v).duration = .atLeast minDuration := by
  simp only [DraftTimeline.tokenType, h]

end PlanTimelines
