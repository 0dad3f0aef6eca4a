/-! Conditions between tokens: how a token must lie to tokens of given values. -/

namespace PlanTimelines

inductive Relation where
  /-- The token follows immediately on the other. -/
  | metBy
  /-- The other follows immediately on the token. -/
  | meets
  /-- The other contains the token and supplies units of a resource to it. -/
  | cover
deriving DecidableEq, Repr

def Relation.text : Relation → String
  | .metBy => "met-by"
  | .meets => "meets"
  | .cover => "cover"

/-- A relation to some token of a value on a timeline. -/
structure Link where
  timeline : String
  value : String
  relation : Relation
  amount : UInt32
deriving DecidableEq, Repr

namespace Link

def metBy (timeline value : String) : Link := ⟨timeline, value, .metBy, 0⟩

def meets (timeline value : String) : Link := ⟨timeline, value, .meets, 0⟩

def cover (timeline value : String) (amount : UInt32) : Link :=
  ⟨timeline, value, .cover, amount⟩

/-- Only covers show their amount. -/
def text (l : Link) : String :=
  let body := s!"{l.relation.text} {l.timeline}={l.value}"
  match l.relation with
  | .cover => s!"{body} x{l.amount.toNat}"
  | .metBy | .meets => body

end Link

/-- One link or a disjunction of links; the conditions of a token all hold. -/
inductive Condition where
  | single (link : Link)
  | anyOf (links : List Link)
deriving DecidableEq, Repr

namespace Condition

def links : Condition → List Link
  | .single link => [link]
  | .anyOf links => links

/-- The relation that all links share; none if they differ or there is no link. -/
def relation? (c : Condition) : Option Relation :=
  match c.links with
  | [] => none
  | first :: rest =>
    if rest.all (·.relation == first.relation) then some first.relation else none

theorem relation?_eq_some_iff {c : Condition} {r : Relation} :
    c.relation? = some r ↔ c.links ≠ [] ∧ ∀ l ∈ c.links, l.relation = r := by
  unfold relation?
  cases c.links with
  | nil => simp
  | cons first rest =>
    simp only [List.all_eq_true, beq_iff_eq, ne_eq, reduceCtorEq, not_false_eq_true,
      List.mem_cons, forall_eq_or_imp, true_and]
    constructor
    · split
      · rintro ⟨⟩
        exact ⟨rfl, by assumption⟩
      · simp
    · rintro ⟨rfl, h⟩
      exact if_pos h

end Condition

end PlanTimelines
