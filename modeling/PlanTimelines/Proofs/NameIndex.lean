import Mathlib.Data.List.Induction
import PlanTimelines.Proofs.NamedRecords
import PlanTimelines.Registry

/-! Registries after any registrations. The index leads from each name to the last record
that was registered under it: a lookup is a search from the end, and a change by name is a
change of the record that such a search finds. -/

namespace PlanTimelines

variable {α : Type} {key : α → String}

/-- The index leads from every name to the last record of that name, and never to a place
where there is no record. -/
structure Registry.LeadsToLast (r : Registry α) (key : α → String) : Prop where
  inRange : ∀ e ∈ r.index.entries, e.2 < r.records.length
  finds : ∀ name, ∃ found, r.lookup name = .ok found ∧
    (found.isSome ↔ ∃ a ∈ r.records, key a = name)
  last : ∀ name a, r.lookup name = .ok (some a) ↔ key a = name ∧
    ∃ before after, r.records = before ++ a :: after ∧ ∀ b ∈ after, key b ≠ name

/-! ## Registrations -/

theorem ofRecords_concat (records : List α) (a : α) :
    Registry.ofRecords key (records ++ [a]) = (Registry.ofRecords key records).add (key a) a := by
  unfold Registry.ofRecords
  rw [List.foldl_append, List.foldl_cons, List.foldl_nil]

@[simp] theorem records_ofRecords (records : List α) :
    (Registry.ofRecords key records).records = records := by
  induction records using List.reverseRecOn with
  | nil => rfl
  | append_singleton records a ih => rw [ofRecords_concat, Registry.add, ih]

/-- The index depends on the names alone. -/
theorem ofRecords_eq_mk (records : List α) :
    Registry.ofRecords key records =
      ⟨records, (Registry.ofRecords id (records.map key)).index⟩ := by
  induction records using List.reverseRecOn with
  | nil => rfl
  | append_singleton records a ih =>
    rw [List.map_append, List.map_singleton, ofRecords_concat, ofRecords_concat, ih]
    simp [Registry.add]

/-- A change that keeps names takes place under the index as it is. -/
theorem ofRecords_updateLast {p : α → Bool} {f : α → α} (hf : ∀ a, key (f a) = key a)
    (records : List α) :
    Registry.ofRecords key (updateLast p f records) =
      { Registry.ofRecords key records with records := updateLast p f records } := by
  rw [ofRecords_eq_mk, map_updateLast p f key hf, ofRecords_eq_mk records]

theorem place_lt_length {records : List α} {e : String × Nat}
    (he : e ∈ (Registry.ofRecords key records).index.entries) : e.2 < records.length := by
  induction records using List.reverseRecOn with
  | nil => cases he
  | append_singleton records a ih =>
    rw [ofRecords_concat, Registry.add, records_ofRecords] at he
    rw [List.length_append, List.length_singleton]
    rcases NameIndex.mem_entries_insert he with rfl | he
    · exact Nat.lt_add_one _
    · exact Nat.lt_add_one_of_lt (ih he)

/-- A name that no record has is not in the index. -/
theorem place?_eq_none {records : List α} {name : String}
    (h : findLast? (fun a => key a == name) records = none) :
    (Registry.ofRecords key records).index.place? name = none := by
  induction records using List.reverseRecOn with
  | nil => rfl
  | append_singleton records a ih =>
    rw [findLast?_concat, ite_eq_iff] at h
    obtain ⟨-, h⟩ | ⟨ha, h⟩ := h
    · cases h
    · rw [ofRecords_concat, Registry.add, NameIndex.place?_insert, if_neg, ih h]
      exact fun hname => ha (by simp [hname])

/-- The place in the index is where a search from the end stops. -/
theorem place?_eq_some {records : List α} {name : String} {a : α}
    (h : findLast? (fun a => key a == name) records = some a) :
    ∃ before after, records = before ++ a :: after ∧ (∀ b ∈ after, key b ≠ name) ∧
      (Registry.ofRecords key records).index.place? name = some before.length := by
  induction records using List.reverseRecOn with
  | nil => cases h
  | append_singleton records b ih =>
    rw [ofRecords_concat, Registry.add, NameIndex.place?_insert, records_ofRecords]
    rw [findLast?_concat] at h
    by_cases hb : key b = name
    · rw [if_pos (by simp [hb])] at h
      obtain rfl := Option.some.inj h
      exact ⟨records, [], rfl, by simp, if_pos hb.symm⟩
    · rw [if_neg (by simp [hb])] at h
      obtain ⟨before, after, rfl, hafter, hplace⟩ := ih h
      refine ⟨before, after ++ [b], by simp, ?_, by rw [if_neg (Ne.symm hb), hplace]⟩
      simpa [or_imp, forall_and] using ⟨hafter, hb⟩

/-! ## Lookups and changes -/

theorem lookup_ofRecords (records : List α) (name : String) :
    (Registry.ofRecords key records).lookup name =
      .ok (findLast? (fun a => key a == name) records) := by
  unfold Registry.lookup
  cases hlast : findLast? (fun a => key a == name) records with
  | none => simp only [place?_eq_none hlast]
  | some a =>
    obtain ⟨before, after, rfl, -, hplace⟩ := place?_eq_some hlast
    simp [hplace]

theorem update_ofRecords {f : α → α} (hf : ∀ a, key (f a) = key a) (records : List α)
    (name : String) :
    (Registry.ofRecords key records).update name f =
      .ok (.ofRecords key (updateLast (fun a => key a == name) f records)) := by
  rw [ofRecords_updateLast hf]
  unfold Registry.update
  cases hlast : findLast? (fun a => key a == name) records with
  | none =>
    have hsame : updateLast (fun a => key a == name) f records = records :=
      updateLast_eq_self (by simp [hlast])
    simp only [place?_eq_none hlast, hsame]
    rw [ofRecords_eq_mk]
  | some a =>
    obtain ⟨before, after, rfl, hafter, hplace⟩ := place?_eq_some hlast
    have hchanged : updateLast (fun a => key a == name) f (before ++ a :: after) =
        before ++ f a :: after :=
      updateLast_append_cons (mem_of_findLast? hlast).2 (by simpa using hafter)
    simp [hplace, hchanged]

theorem contains_ofRecords (records : List α) (name : String) :
    (Registry.ofRecords key records).index.contains name =
      (findLast? (fun a => key a == name) records).isSome := by
  unfold NameIndex.contains
  cases hlast : findLast? (fun a => key a == name) records with
  | none => rw [place?_eq_none hlast, Option.isSome_none, Option.isSome_none]
  | some a =>
    obtain ⟨_, _, -, -, hplace⟩ := place?_eq_some hlast
    rw [hplace, Option.isSome_some, Option.isSome_some]

theorem leadsToLast_ofRecords (records : List α) :
    (Registry.ofRecords key records).LeadsToLast key where
  inRange e he := by
    rw [records_ofRecords]
    exact place_lt_length he
  finds name := by
    refine ⟨_, lookup_ofRecords records name, ?_⟩
    rw [records_ofRecords, findLast?_isSome, List.mem_map]
  last name a := by
    rw [lookup_ofRecords, Except.ok.injEq, findLast?_eq_some_iff_append, records_ofRecords]
    simp

example : (Registry.ofRecords Prod.fst [("a", 1), ("b", 2), ("a", 3)]).lookup "a" =
    .ok (some ("a", 3)) := by
  decide

end PlanTimelines
