/-! Records in the order of their registration, with an index that leads from a name to
the place of its record. A name that is registered again leads to the new record; the
old one stays in its place. -/

namespace PlanTimelines

/-- A map from names to places in a list. -/
structure NameIndex where
  entries : List (String × Nat)
deriving DecidableEq, Repr

namespace NameIndex

def empty : NameIndex := ⟨[]⟩

/-- Notes the place of a name. One noted for the same name before is overwritten. -/
def insert (x : NameIndex) (name : String) (place : Nat) : NameIndex :=
  ⟨(name, place) :: x.entries.filter (·.1 != name)⟩

def place? (x : NameIndex) (name : String) : Option Nat :=
  (x.entries.find? (·.1 == name)).map Prod.snd

def contains (x : NameIndex) (name : String) : Bool :=
  (x.place? name).isSome

theorem place?_insert (x : NameIndex) (name other : String) (place : Nat) :
    (x.insert name place).place? other = if other = name then some place else x.place? other := by
  unfold place? insert
  by_cases h : other = name
  · simp [h]
  · have hothers : (x.entries.filter (·.1 != name)).find? (·.1 == other) =
        x.entries.find? (·.1 == other) := by
      rw [List.find?_filter]
      congr 1
      funext e
      by_cases he : e.1 = other <;> simp [he, h]
    rw [List.find?_cons_of_neg (by simpa using Ne.symm h), hothers, if_neg h]

theorem mem_entries_insert {x : NameIndex} {name : String} {place : Nat} {e : String × Nat}
    (h : e ∈ (x.insert name place).entries) : e = (name, place) ∨ e ∈ x.entries :=
  (List.mem_cons.mp h).imp_right fun h => (List.mem_filter.mp h).1

end NameIndex

structure Registry (α : Type) where
  records : List α
  index : NameIndex
deriving DecidableEq, Repr

/-- An entry of an index that leads to a place without a record. No lookup can go on from
there. -/
structure Dangling where
  name : String
  place : Nat
deriving DecidableEq, Repr

namespace Registry

variable {α : Type}

def empty : Registry α := ⟨[], .empty⟩

/-- Registers a record under a name. -/
def add (r : Registry α) (name : String) (a : α) : Registry α :=
  ⟨r.records ++ [a], r.index.insert name r.records.length⟩

/-- The registry of records that were registered one after the other, each under its name. -/
def ofRecords (key : α → String) (records : List α) : Registry α :=
  records.foldl (fun r a => r.add (key a) a) .empty

/-- The record that the index leads to. -/
def lookup (r : Registry α) (name : String) : Except Dangling (Option α) :=
  match r.index.place? name with
  | none => .ok none
  | some place =>
    match r.records[place]? with
    | none => .error ⟨name, place⟩
    | some a => .ok (some a)

/-- Changes the record that the index leads to, in its place. -/
def update (r : Registry α) (name : String) (f : α → α) : Except Dangling (Registry α) :=
  match r.index.place? name with
  | none => .ok r
  | some place =>
    match r.records[place]? with
    | none => .error ⟨name, place⟩
    | some a => .ok { r with records := r.records.set place (f a) }

end Registry

end PlanTimelines
