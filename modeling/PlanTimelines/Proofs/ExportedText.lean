import PlanTimelines.Proofs.JsonText
import PlanTimelines.Timeline.Import

/-! The export of a timeline problem loses nothing: its document can be read back, and the
document, in which all numbers are whole, can be told from its text. -/

namespace PlanTimelines

/-! ## Pieces of documents -/

namespace Json

section Fields

variable {α : Type} {read : Json → Option α} {encode : α → Json} {fields : List (String × Json)}
  {key : String}

theorem field?_object (fields : List (String × Json)) (key : String) :
    (object fields).field? key = match fields.reverse.lookup key with
      | some .null => none
      | found => found :=
  rfl

theorem get?_object (hnull : read .null = none) {value : Json}
    (hfield : fields.reverse.lookup key = some value) {a : α} (hread : read value = some a) :
    (object fields).get? key read = some a := by
  have hfound : (object fields).field? key = some value := by
    rw [field?_object, hfield]
    split
    · rename_i heq
      obtain rfl := Option.some.inj heq
      cases hnull.symm.trans hread
    · rfl
  rw [get?, hfound, Option.bind_some, hread]

theorem getIfAny?_object (hnull : read .null = none) (hread : ∀ a, read (encode a) = some a)
    {o : Option α} (hfield : fields.reverse.lookup key = some (orNull encode o)) :
    (object fields).getIfAny? key read = some o := by
  cases o with
  | none => rw [getIfAny?, field?_object, hfield, orNull]
  | some a =>
    obtain ⟨found, hfound, hread⟩ :=
      Option.bind_eq_some_iff.mp (get?_object hnull hfield (hread a))
    rw [getIfAny?, hfound]
    exact congrArg (Option.map some) hread

theorem listOf?_listOf (hread : ∀ a, read (encode a) = some a) (items : List α) :
    listOf? read (listOf encode items) = some items := by
  rw [listOf, listOf?, array?, Option.bind_some]
  induction items with
  | nil => rfl
  | cons a items ih => simp [List.mapM_cons, hread, ih]

theorem whole_orNull (hwhole : ∀ a, (encode a).Whole) (o : Option α) :
    (orNull encode o).Whole := by
  cases o with
  | none => exact .null
  | some a => exact hwhole a

theorem whole_listOf (hwhole : ∀ a, (encode a).Whole) (items : List α) :
    (listOf encode items).Whole := by
  refine .array fun item hitem => ?_
  obtain ⟨a, -, rfl⟩ := List.mem_map.mp hitem
  exact hwhole a

end Fields

theorem word?_word (n : UInt32) : (word n).word? = some n := by
  have hbound : (n.toNat : Int) ≤ 4294967295 := by
    have hlt : n.toNat < 4294967296 := n.toNat_lt_size
    omega
  simp [word, word?, integerIn?, hbound]

theorem whole_word (n : UInt32) : (word n).Whole :=
  .integer _

end Json

open Json

/-! ## Reading documents back -/

theorem Relation.ofJson?_toJson (r : Relation) : Relation.ofJson? r.toJson = some r := by
  cases r <;> rfl

theorem Link.ofJson?_toJson (l : Link) : Link.ofJson? l.toJson = some l := by
  have htimeline : l.toJson.get? "timeline" string? = some l.timeline := rfl
  have hvalue : l.toJson.get? "value" string? = some l.value := rfl
  have hrelation : l.toJson.get? "relation" Relation.ofJson? = some l.relation :=
    get?_object rfl rfl l.relation.ofJson?_toJson
  have hamount : l.toJson.get? "amount" word? = some l.amount :=
    get?_object rfl rfl (word?_word l.amount)
  rw [Link.ofJson?, htimeline, hvalue, hrelation, hamount]
  rfl

theorem Condition.ofJson?_toJson (c : Condition) : Condition.ofJson? c.toJson = some c := by
  cases c with
  | single link => exact congrArg (Option.map Condition.single) link.ofJson?_toJson
  | anyOf links =>
    exact congrArg (Option.map Condition.anyOf) (listOf?_listOf Link.ofJson?_toJson links)

theorem DurationBounds.ofJson?_toJson (b : DurationBounds) :
    DurationBounds.ofJson? b.toJson = some b := by
  have hmin : b.toJson.get? "min" word? = some b.min := get?_object rfl rfl (word?_word b.min)
  have hmax : b.toJson.getIfAny? "max" word? = some b.max := getIfAny?_object rfl word?_word rfl
  rw [DurationBounds.ofJson?, hmin, hmax]
  rfl

theorem TokenType.ofJson?_toJson (t : TokenType) : TokenType.ofJson? t.toJson = some t := by
  have hvalue : t.toJson.get? "value" string? = some t.value := rfl
  have hconditions : t.toJson.get? "conditions" (listOf? Condition.ofJson?) =
      some t.conditions :=
    get?_object rfl rfl (listOf?_listOf Condition.ofJson?_toJson t.conditions)
  have hduration : t.toJson.get? "duration" DurationBounds.ofJson? = some t.duration :=
    get?_object rfl rfl t.duration.ofJson?_toJson
  have hcapacity : t.toJson.get? "capacity" word? = some t.capacity :=
    get?_object rfl rfl (word?_word t.capacity)
  rw [TokenType.ofJson?, hvalue, hconditions, hduration, hcapacity]
  rfl

theorem TokenTime.ofJson?_toJson (t : TokenTime) : TokenTime.ofJson? t.toJson = some t := by
  cases t with
  | goal => rfl
  | fact start finish =>
    have hstart : (object [("start", orNull word start), ("end", orNull word finish)]).getIfAny?
        "start" word? = some start := getIfAny?_object rfl word?_word rfl
    have hfinish : (object [("start", orNull word start), ("end", orNull word finish)]).getIfAny?
        "end" word? = some finish := getIfAny?_object rfl word?_word rfl
    rw [TokenTime.toJson, TokenTime.ofJson?, hstart, hfinish]
    rfl

theorem StaticToken.ofJson?_toJson (t : StaticToken) :
    StaticToken.ofJson? t.toJson = some t := by
  have hvalue : t.toJson.get? "value" string? = some t.value := rfl
  have htime : t.toJson.get? "time" TokenTime.ofJson? = some t.time :=
    get?_object rfl rfl t.time.ofJson?_toJson
  have hcapacity : t.toJson.get? "capacity" word? = some t.capacity :=
    get?_object rfl rfl (word?_word t.capacity)
  have hconditions : t.toJson.get? "conditions" (listOf? Condition.ofJson?) =
      some t.conditions :=
    get?_object rfl rfl (listOf?_listOf Condition.ofJson?_toJson t.conditions)
  rw [StaticToken.ofJson?, hvalue, htime, hcapacity, hconditions]
  rfl

theorem Timeline.ofJson?_toJson (t : Timeline) : Timeline.ofJson? t.toJson = some t := by
  have hname : t.toJson.get? "name" string? = some t.name := rfl
  have htypes : t.toJson.get? "token_types" (listOf? TokenType.ofJson?) = some t.tokenTypes :=
    get?_object rfl rfl (listOf?_listOf TokenType.ofJson?_toJson t.tokenTypes)
  have htokens : t.toJson.get? "static_tokens" (listOf? StaticToken.ofJson?) =
      some t.staticTokens :=
    get?_object rfl rfl (listOf?_listOf StaticToken.ofJson?_toJson t.staticTokens)
  rw [Timeline.ofJson?, hname, htypes, htokens]
  rfl

/-- Reading the document of a problem gives the problem back. -/
theorem TimelineProblem.ofJson?_toJson (p : TimelineProblem) :
    TimelineProblem.ofJson? p.toJson = some p := by
  have htimelines : p.toJson.get? "timelines" (listOf? Timeline.ofJson?) = some p.timelines :=
    get?_object rfl rfl (listOf?_listOf Timeline.ofJson?_toJson p.timelines)
  rw [TimelineProblem.ofJson?, htimelines]
  rfl

theorem TimelineProblem.toJson_inj {p q : TimelineProblem} (h : p.toJson = q.toJson) : p = q := by
  have hread := p.ofJson?_toJson
  rw [h, q.ofJson?_toJson] at hread
  exact (Option.some.inj hread).symm

/-! ## Whole numbers -/

theorem Link.whole_toJson (l : Link) : l.toJson.Whole := by
  have hrelation : l.relation.toJson.Whole := by
    cases l.relation <;> exact .string _
  refine .object ?_
  simp [hrelation, whole_word, Whole.string]

theorem Condition.whole_toJson (c : Condition) : c.toJson.Whole := by
  cases c with
  | single link =>
    refine .object ?_
    simp [link.whole_toJson]
  | anyOf links =>
    refine .object ?_
    simp [whole_listOf Link.whole_toJson links]

theorem TokenType.whole_toJson (t : TokenType) : t.toJson.Whole := by
  have hduration : t.duration.toJson.Whole := by
    refine .object ?_
    simp [whole_word, whole_orNull whole_word]
  refine .object ?_
  simp [hduration, Whole.string, whole_word, whole_listOf Condition.whole_toJson]

theorem TokenTime.whole_toJson (t : TokenTime) : t.toJson.Whole := by
  cases t with
  | goal => exact .string _
  | fact start finish =>
    have hcontents :
        (object [("start", orNull word start), ("end", orNull word finish)]).Whole := by
      refine .object ?_
      simp [whole_orNull whole_word]
    refine .object ?_
    simp [hcontents]

theorem StaticToken.whole_toJson (t : StaticToken) : t.toJson.Whole := by
  refine .object ?_
  simp [t.time.whole_toJson, Whole.string, whole_word, whole_listOf Condition.whole_toJson]

theorem Timeline.whole_toJson (t : Timeline) : t.toJson.Whole := by
  refine .object ?_
  simp [Whole.string, whole_listOf TokenType.whole_toJson, whole_listOf StaticToken.whole_toJson]

/-- All numbers of the document of a problem are whole. -/
theorem TimelineProblem.whole_toJson (p : TimelineProblem) : p.toJson.Whole := by
  refine .object ?_
  simp [whole_listOf Timeline.whole_toJson]

/-- Problems with the same exported text are the same. -/
theorem jsonText_inj (p q : TimelineProblem) : p.jsonText = q.jsonText ↔ p = q := by
  constructor
  · intro h
    exact TimelineProblem.toJson_inj ((text_inj p.whole_toJson q.whole_toJson).mp h)
  · intro h
    rw [h]

end PlanTimelines
