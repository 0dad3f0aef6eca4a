/-! The contents of TOML documents, and the rules by which keys and headers add to
them. -/

namespace PlanTimelines.Toml

/-- How a table came about. -/
inductive Origin where
  /-- By a header of its own. -/
  | header
  /-- As a step on the way to the table of a header. -/
  | path
  /-- As a step of a dotted key. -/
  | dotted
deriving DecidableEq, Repr

inductive Item where
  | string (value : String)
  | integer (value : Int)
  | real
  | boolean (value : Bool)
  | time
  | array (items : List Item)
  /-- A table in braces. -/
  | inline (entries : List (String × Item))
  | table (origin : Origin) (entries : List (String × Item))
  /-- The tables of a repeated header. -/
  | tables (elements : List (List (String × Item)))

/-- The keys of a table with their items, in the order in which they were added. -/
abbrev Entries := List (String × Item)

namespace Entries

def get? (es : Entries) (key : String) : Option Item :=
  es.lookup key

def replace (es : Entries) (key : String) (item : Item) : Entries :=
  es.map fun (k, old) => if k == key then (k, item) else (k, old)

def remove (es : Entries) (key : String) : Entries :=
  es.filter (·.1 != key)

/-- Adds a key, given by the path of its dots. A key can only be set once. Tables are
added on the way, and only tables that dotted keys made can be added to. -/
def set? (es : Entries) (isOpen : Bool) (key : String) (item : Item) :
    List String → Option Entries
  | [] =>
    if isOpen && (es.get? key).isNone then some (es ++ [(key, item)]) else none
  | step :: path =>
    match es.get? step with
    | none => do
      let sub ← set? [] true key item path
      return es ++ [(step, .table .dotted sub)]
    | some (.table .header _) => none
    | some (.table origin sub) => do
      let sub ← set? sub (origin == .dotted) key item path
      return es.replace step (.table origin sub)
    | some (.tables elements) => do
      let sub ← set? (elements.getLast?.getD []) false key item path
      return es.replace step (.tables (elements.dropLast ++ [sub]))
    | some _ => none

/-- Changes the table at a path of keys, and adds the tables that are missing on the
way. Of the tables of a repeated header the last one is meant. -/
def changeAt {α : Type} (change : Entries → Option (α × Entries)) (es : Entries) :
    List String → Option (α × Entries)
  | [] => change es
  | step :: path =>
    match es.get? step with
    | none => do
      let (a, sub) ← changeAt change [] path
      return (a, es ++ [(step, .table .path sub)])
    | some (.table origin sub) => do
      let (a, sub) ← changeAt change sub path
      return (a, es.replace step (.table origin sub))
    | some (.tables elements) => do
      let (a, sub) ← changeAt change (elements.getLast?.getD []) path
      return (a, es.replace step (.tables (elements.dropLast ++ [sub])))
    | some _ => none

end Entries

/-- A document that is being read: the tables that are complete, and the one that
keys are now added to, with the path of its header. -/
structure Document where
  root : Entries
  current : Entries
  path : List String
  isRepeated : Bool

namespace Document

def empty : Document := ⟨[], [], [], false⟩

/-- Adds a key to the current table. -/
def set? (d : Document) (path : List String) (key : String) (item : Item) : Option Document := do
  return { d with current := ← d.current.set? true key item path }

/-- Puts a table where its header says. -/
def place (table : Entries) (key : String) (isRepeated : Bool) (es : Entries) :
    Option (Unit × Entries) :=
  match es.get? key, isRepeated with
  | none, true => some ((), es ++ [(key, .tables [table])])
  | some (.tables elements), true => some ((), es.replace key (.tables (elements ++ [table])))
  | none, false => some ((), es ++ [(key, .table .header table)])
  | some (.table .path _), false | some (.table .dotted _), false =>
    some ((), es.replace key (.table .header table))
  | _, _ => none

/-- All entries of the document, the current table included. -/
def close? (d : Document) : Option Entries :=
  match d.path.getLast? with
  | none => some d.current
  | some key => (d.root.changeAt (place d.current key d.isRepeated) d.path.dropLast).map Prod.snd

/-- What the table of a new header starts with: nothing, or what headers of tables
inside it have made of it. Any other item under its name stands in its way. -/
def claim (key : String) (es : Entries) : Option (Entries × Entries) :=
  match es.get? key with
  | none => some ([], es)
  | some (.table .path sub) => some (sub, es.remove key)
  | some _ => none

/-- Goes on with the table of a header. -/
def open? (d : Document) (path : List String) : Option Document := do
  let key ← path.getLast?
  let root ← d.close?
  let (current, root) ← root.changeAt (claim key) path.dropLast
  return ⟨root, current, path, false⟩

/-- Makes room for one more table of a repeated header. -/
def claimRepeated (key : String) (es : Entries) : Option (Unit × Entries) :=
  match es.get? key with
  | none => some ((), es ++ [(key, .tables [])])
  | some (.tables _) => some ((), es)
  | some _ => none

/-- Goes on with a table of a repeated header. -/
def openRepeated? (d : Document) (path : List String) : Option Document := do
  let key ← path.getLast?
  let root ← d.close?
  let (_, root) ← root.changeAt (claimRepeated key) path.dropLast
  return ⟨root, [], path, true⟩

end Document

end PlanTimelines.Toml
