import Mathlib.Data.List.Basic
import PlanTimelines.Json

/-! The text of a document. A document whose numbers are whole can be told from its text: the
first character gives its form, no escape starts another one, digits end where something else
than a digit follows, and after an item comes a comma or the end of the line. -/

namespace PlanTimelines.Json

/-! ## Codes -/

section Codes

variable {α : Type} {code : α → List Char}

/-- Two texts are not confused, whatever comes after them of what is allowed there. -/
def Separates (After : List Char → Prop) (code : α → List Char) (a b : α) : Prop :=
  ∀ ⦃xs ys : List Char⦄, After xs → After ys → code a ++ xs = code b ++ ys → a = b ∧ xs = ys

/-- Texts in a row are not confused if a mark ends them that starts none of them. -/
theorem separates_flatMap {After : List Char → Prop} {mark : Char}
    (hmark : ∀ a xs, (code a ++ xs).head? ≠ some mark)
    (hafter : ∀ (as : List α) (xs : List Char), xs.head? = some mark →
      After (as.flatMap code ++ xs)) {as bs : List α}
    (h : ∀ a ∈ as, ∀ b ∈ bs, Separates After code a b) :
    Separates (fun xs => xs.head? = some mark) (List.flatMap code) as bs := by
  intro xs ys hxs hys heq
  induction as generalizing bs with
  | nil =>
    cases bs with
    | nil => exact ⟨rfl, heq⟩
    | cons b bs =>
      rw [List.flatMap_nil, List.nil_append, List.flatMap_cons, List.append_assoc] at heq
      exact absurd (heq ▸ hxs) (hmark b _)
  | cons a as ih =>
    cases bs with
    | nil =>
      rw [List.flatMap_nil, List.nil_append, List.flatMap_cons, List.append_assoc] at heq
      exact absurd (heq ▸ hys) (hmark a _)
    | cons b bs =>
      simp only [List.flatMap_cons, List.append_assoc] at heq
      obtain ⟨rfl, hrest⟩ := h a List.mem_cons_self b List.mem_cons_self (hafter as xs hxs)
        (hafter bs ys hys) heq
      obtain ⟨rfl, rfl⟩ := ih (fun a ha b hb =>
        h a (List.mem_cons_of_mem _ ha) b (List.mem_cons_of_mem _ hb)) hrest
      exact ⟨rfl, rfl⟩

end Codes

/-! ## Strings -/

/-- The characters that are escaped. -/
def special : List Char :=
  '"' :: '\\' :: (List.range 32).map Char.ofNat

theorem mem_special_of_lt {c : Char} (h : c.toNat < 32) : c ∈ special := by
  have hcontrol : c ∈ (List.range 32).map Char.ofNat :=
    List.mem_map.mpr ⟨c.toNat, List.mem_range.mpr h, Char.ofNat_toNat c⟩
  exact List.mem_cons_of_mem _ (List.mem_cons_of_mem _ hcontrol)

theorem escape_of_not_mem_special {c : Char} (h : c ∉ special) : escape c = [c] := by
  have hcontrol : ¬c.toNat < 32 := fun hlt => h (mem_special_of_lt hlt)
  unfold escape
  split
  case h_8 => exact if_neg hcontrol
  all_goals exact absurd (by decide) h

theorem escape_special {c : Char} (h : c ∈ special) :
    (escape c).head? = some '\\' ∧ 1 < (escape c).length := by
  have hcheck : special.all (fun c => (escape c).head? == some '\\' &&
      decide (1 < (escape c).length)) = true := by decide
  simpa using List.all_eq_true.mp hcheck c h

theorem escape_special_prefix_free {c d : Char} (hc : c ∈ special) (hd : d ∈ special)
    (h : escape c <+: escape d) : c = d := by
  have hcheck : special.all (fun c => special.all fun d =>
      !(escape c).isPrefixOf (escape d) || c == d) = true := by decide +kernel
  have hpair := List.all_eq_true.mp (List.all_eq_true.mp hcheck c hc) d hd
  rw [List.isPrefixOf_iff_prefix.mpr h] at hpair
  simpa using hpair

/-- No escape is the start of another one. -/
theorem escape_prefix_free {c d : Char} (h : escape c <+: escape d) : c = d := by
  by_cases hc : c ∈ special <;> by_cases hd : d ∈ special
  · exact escape_special_prefix_free hc hd h
  · have hlength := h.length_le
    rw [escape_of_not_mem_special hd] at hlength
    exact absurd (escape_special hc).2 (by simpa using hlength)
  · -- a plain character would be the backslash
    obtain ⟨rest, hrest⟩ := h
    have hlead := (escape_special hd).1
    rw [← hrest, escape_of_not_mem_special hc] at hlead
    obtain rfl : c = '\\' := by simpa using hlead
    exact absurd (by decide) hc
  · rw [escape_of_not_mem_special hc, escape_of_not_mem_special hd] at h
    simpa using h

theorem separates_escape (c d : Char) : Separates (fun _ => True) escape c d := by
  intro xs ys _ _ h
  have heq : c = d := by
    rcases List.append_eq_append_iff.mp h with ⟨as, hd, -⟩ | ⟨as, hc, -⟩
    · exact escape_prefix_free ⟨as, hd.symm⟩
    · exact (escape_prefix_free ⟨as, hc.symm⟩).symm
  subst heq
  exact ⟨rfl, List.append_cancel_left h⟩

theorem escape_head?_ne (c : Char) (xs : List Char) : (escape c ++ xs).head? ≠ some '"' := by
  by_cases hc : c ∈ special
  · rw [List.head?_append, (escape_special hc).1]
    simp
  · rw [escape_of_not_mem_special hc]
    intro h
    obtain rfl : c = '"' := by simpa using h
    exact hc (by decide)

theorem separates_quote (s t : String) : Separates (fun _ => True) quote s t := by
  intro xs ys _ _ h
  simp only [quote, List.cons_append, List.append_assoc, List.nil_append, List.cons.injEq,
    true_and] at h
  obtain ⟨hlist, hrest⟩ := separates_flatMap escape_head?_ne (fun _ _ _ => trivial)
    (fun c _ d _ => separates_escape c d) rfl rfl h
  exact ⟨String.toList_inj.mp hlist, (List.cons.inj hrest).2⟩

/-! ## Whole numbers -/

/-- The text does not go on with a digit. -/
def NoDigit (xs : List Char) : Prop :=
  ∀ c ∈ xs.head?, c.isDigit = false

theorem isDigit_of_mem_toDigits {n : Nat} : ∀ c ∈ Nat.toDigits 10 n, c.isDigit = true :=
  fun _ => Nat.isDigit_of_mem_toDigits (by decide) (by decide)

theorem takeWhile_digits {xs : List Char} (h : NoDigit xs) (n : Nat) :
    (Nat.toDigits 10 n ++ xs).takeWhile Char.isDigit = Nat.toDigits 10 n := by
  rw [List.takeWhile_append_of_pos isDigit_of_mem_toDigits]
  cases xs with
  | nil => simp
  | cons c xs => simp [h c rfl]

theorem separates_digits (m n : Nat) : Separates NoDigit (Nat.toDigits 10) m n := by
  intro xs ys hxs hys h
  have hdigits : Nat.toDigits 10 m = Nat.toDigits 10 n := by
    rw [← takeWhile_digits hxs m, h, takeWhile_digits hys n]
  have heq : m = n := by
    simpa using congrArg (fun digits => Nat.ofDigitChars 10 digits 0) hdigits
  subst heq
  exact ⟨rfl, List.append_cancel_left h⟩

/-- A number starts with a digit. -/
theorem exists_digit_toDigits (n : Nat) :
    ∃ c rest, Nat.toDigits 10 n = c :: rest ∧ c.isDigit = true := by
  obtain ⟨c, rest, hcons⟩ := List.exists_cons_of_ne_nil (Nat.toDigits_ne_nil (n := n) (b := 10))
  exact ⟨c, rest, hcons, isDigit_of_mem_toDigits c (hcons ▸ List.mem_cons_self)⟩

theorem toDigits_append_ne_sign (n : Nat) (xs ys : List Char) :
    Nat.toDigits 10 n ++ xs ≠ '-' :: ys := by
  obtain ⟨c, rest, hcons, hc⟩ := exists_digit_toDigits n
  intro h
  rw [hcons, List.cons_append] at h
  obtain ⟨rfl, -⟩ := List.cons.inj h
  cases hc

theorem separates_integerText (m n : Int) : Separates NoDigit integerText m n := by
  intro xs ys hxs hys h
  cases m <;> cases n <;> simp only [integerText, List.cons_append] at h
  case ofNat.ofNat m n =>
    obtain ⟨rfl, rfl⟩ := separates_digits m n hxs hys h
    exact ⟨rfl, rfl⟩
  case ofNat.negSucc m n => exact absurd h (toDigits_append_ne_sign m _ _)
  case negSucc.ofNat m n => exact absurd h.symm (toDigits_append_ne_sign n _ _)
  case negSucc.negSucc m n =>
    obtain ⟨heq, rfl⟩ := separates_digits (m + 1) (n + 1) hxs hys (List.cons.inj h).2
    obtain rfl := Nat.succ.inj heq
    exact ⟨rfl, rfl⟩

/-! ## Arrays and objects -/

section Bracketed

variable {α : Type} {opening closing : Char} {code : α → List Char}

/-- Texts on lines of their own, with commas between them and in brackets. -/
def bracketed (opening closing : Char) (depth : Nat) (code : α → List Char) : List α → List Char
  | [] => [opening, closing]
  | a :: as =>
    opening :: newline (depth + 1) ++ code a ++
      as.flatMap (fun a => ',' :: newline (depth + 1) ++ code a) ++ newline depth ++ [closing]

/-- What may come after an item: a comma, or the end of the line. -/
theorem noDigit_after_item {depth : Nat} (as : List α) (xs : List Char)
    (h : xs.head? = some '\n') :
    NoDigit (as.flatMap (fun a => ',' :: newline depth ++ code a) ++ xs) := by
  intro c hc
  cases as with
  | nil =>
    rw [List.flatMap_nil, List.nil_append, h] at hc
    obtain rfl := Option.some.inj hc
    rfl
  | cons a as =>
    obtain rfl := Option.some.inj hc
    rfl

theorem separates_bracketed (hclosing : closing ≠ '\n') {depth : Nat} {as bs : List α}
    (h : ∀ a ∈ as, ∀ b ∈ bs, Separates NoDigit code a b) :
    Separates (fun _ => True) (bracketed opening closing depth code) as bs := by
  intro xs ys _ _ heq
  match as, bs with
  | [], [] => exact ⟨rfl, by simpa [bracketed] using heq⟩
  | [], b :: bs =>
    simp only [bracketed, newline, List.cons_append, List.cons.injEq, true_and] at heq
    exact absurd heq.1 hclosing
  | a :: as, [] =>
    simp only [bracketed, newline, List.cons_append, List.cons.injEq, true_and] at heq
    exact absurd heq.1.symm hclosing
  | a :: as, b :: bs =>
    simp only [bracketed, List.cons_append, List.append_assoc, List.cons.injEq, true_and] at heq
    have hitems := List.append_cancel_left heq
    obtain ⟨rfl, hmore⟩ := h a List.mem_cons_self b List.mem_cons_self
      (noDigit_after_item as _ rfl) (noDigit_after_item bs _ rfl) hitems
    have hmark : ∀ a xs, ((',' :: newline (depth + 1) ++ code a) ++ xs).head? ≠ some '\n' := by
      simp
    have hcodes : ∀ a ∈ as, ∀ b ∈ bs,
        Separates NoDigit (fun a => ',' :: newline (depth + 1) ++ code a) a b := by
      intro a ha b hb us vs hus hvs heq
      simp only [List.cons_append, List.append_assoc, List.cons.injEq, true_and] at heq
      exact h a (List.mem_cons_of_mem _ ha) b (List.mem_cons_of_mem _ hb) hus hvs
        (List.append_cancel_left heq)
    obtain ⟨rfl, hend⟩ := separates_flatMap hmark noDigit_after_item hcodes rfl rfl hmore
    exact ⟨rfl, (List.cons.inj (List.append_cancel_left hend)).2⟩

end Bracketed

/-- A field on its line. -/
def fieldText (depth : Nat) (field : String × Json) : List Char :=
  quote field.1 ++ [':', ' '] ++ field.2.pretty depth

theorem moreItems_eq (depth : Nat) (items : List Json) :
    moreItems depth items =
      items.flatMap fun item => ',' :: newline depth ++ item.pretty depth := by
  induction items with
  | nil => rfl
  | cons item items ih => rw [moreItems, ih, List.flatMap_cons]

theorem moreFields_eq (depth : Nat) (fields : List (String × Json)) :
    moreFields depth fields =
      fields.flatMap fun field => ',' :: newline depth ++ fieldText depth field := by
  induction fields with
  | nil => rfl
  | cons field fields ih => simp [moreFields, fieldText, ih]

theorem pretty_array (depth : Nat) (items : List Json) :
    pretty depth (.array items) = bracketed '[' ']' depth (pretty (depth + 1)) items := by
  cases items with
  | nil => rfl
  | cons item items => rw [pretty, moreItems_eq, bracketed]

theorem pretty_object (depth : Nat) (fields : List (String × Json)) :
    pretty depth (.object fields) =
      bracketed '\x7b' '\x7d' depth (fieldText (depth + 1)) fields := by
  cases fields with
  | nil => rfl
  | cons field fields => simp [pretty, moreFields_eq, bracketed, fieldText]

theorem separates_fieldText {depth : Nat} {f g : String × Json}
    (h : Separates NoDigit (pretty depth) f.2 g.2) : Separates NoDigit (fieldText depth) f g := by
  intro xs ys hxs hys heq
  simp only [fieldText, List.append_assoc] at heq
  obtain ⟨hkey, hrest⟩ := separates_quote f.1 g.1 trivial trivial heq
  obtain ⟨hvalue, rfl⟩ := h hxs hys (List.append_cancel_left hrest)
  exact ⟨Prod.ext hkey hvalue, rfl⟩

/-! ## Documents -/

/-- A document in which all numbers are whole. -/
inductive Whole : Json → Prop
  | null : Whole .null
  | bool (value : Bool) : Whole (.bool value)
  | integer (value : Int) : Whole (.integer value)
  | string (value : String) : Whole (.string value)
  | array {items : List Json} (h : ∀ item ∈ items, Whole item) : Whole (.array items)
  | object {fields : List (String × Json)} (h : ∀ field ∈ fields, Whole field.2) :
    Whole (.object fields)

/-- The forms of documents. -/
inductive Form where
  | null
  | bool
  | number
  | string
  | array
  | object

/-- The form of the documents that start with a character. -/
def Form.ofLead : Char → Form
  | 'n' => .null
  | 't' | 'f' => .bool
  | '"' => .string
  | '[' => .array
  | '\x7b' => .object
  | _ => .number

def form : Json → Form
  | .null => .null
  | .bool _ => .bool
  | .integer _ | .real _ => .number
  | .string _ => .string
  | .array _ => .array
  | .object _ => .object

theorem ofLead_digit {c : Char} (h : c.isDigit = true) : Form.ofLead c = .number := by
  unfold Form.ofLead
  split
  case h_7 => rfl
  all_goals cases h

theorem ofLead_pretty {j : Json} (h : j.Whole) (depth : Nat) :
    ∃ c rest, j.pretty depth = c :: rest ∧ Form.ofLead c = j.form := by
  cases h with
  | null => exact ⟨_, _, rfl, rfl⟩
  | bool value => cases value <;> exact ⟨_, _, rfl, rfl⟩
  | integer value =>
    cases value with
    | ofNat n =>
      obtain ⟨c, rest, hcons, hc⟩ := exists_digit_toDigits n
      exact ⟨c, rest, hcons, ofLead_digit hc⟩
    | negSucc n => exact ⟨_, _, rfl, rfl⟩
  | string value => exact ⟨_, _, rfl, rfl⟩
  | @array items _ => cases items <;> exact ⟨_, _, rfl, rfl⟩
  | @object fields _ => cases fields <;> exact ⟨_, _, rfl, rfl⟩

theorem form_eq_of_append_eq {j k : Json} (hj : j.Whole) (hk : k.Whole) {depth : Nat}
    {xs ys : List Char} (h : j.pretty depth ++ xs = k.pretty depth ++ ys) : j.form = k.form := by
  obtain ⟨c, rest, hcons, hc⟩ := ofLead_pretty hj depth
  obtain ⟨d, rest', hcons', hd⟩ := ofLead_pretty hk depth
  rw [hcons, hcons', List.cons_append, List.cons_append] at h
  rw [← hc, ← hd, (List.cons.inj h).1]

theorem separates_of_form {j k : Json} (hj : j.Whole) (hk : k.Whole) {depth : Nat}
    (h : j.form = k.form → Separates NoDigit (pretty depth) j k) :
    Separates NoDigit (pretty depth) j k := by
  intro xs ys hxs hys heq
  exact h (form_eq_of_append_eq hj hk heq) hxs hys heq

/-- Texts of documents are not confused if no digit comes after them. -/
theorem separates_pretty {j k : Json} (hj : j.Whole) (hk : k.Whole) (depth : Nat) :
    Separates NoDigit (pretty depth) j k := by
  -- where the texts agree so do the forms, and each form has its own way of being read
  induction hj generalizing k depth with
  | null =>
    refine separates_of_form .null hk fun hform xs ys _ _ h => ?_
    cases hk <;> cases hform
    exact ⟨rfl, List.append_cancel_left h⟩
  | bool value =>
    refine separates_of_form (.bool value) hk fun hform xs ys _ _ h => ?_
    cases hk <;> cases hform
    rename_i value'
    cases value <;> cases value' <;> simp_all [pretty]
  | integer value =>
    refine separates_of_form (.integer value) hk fun hform xs ys hxs hys h => ?_
    cases hk <;> cases hform
    obtain ⟨rfl, rfl⟩ := separates_integerText _ _ hxs hys h
    exact ⟨rfl, rfl⟩
  | string value =>
    refine separates_of_form (.string value) hk fun hform xs ys _ _ h => ?_
    cases hk <;> cases hform
    obtain ⟨rfl, rfl⟩ := separates_quote _ _ trivial trivial h
    exact ⟨rfl, rfl⟩
  | array hitems ih =>
    refine separates_of_form (.array hitems) hk fun hform xs ys _ _ h => ?_
    cases hk <;> cases hform
    rename_i hitems'
    rw [pretty_array, pretty_array] at h
    obtain ⟨rfl, rfl⟩ := separates_bracketed (by decide)
      (fun a ha b hb => ih a ha (hitems' b hb) (depth + 1)) trivial trivial h
    exact ⟨rfl, rfl⟩
  | object hfields ih =>
    refine separates_of_form (.object hfields) hk fun hform xs ys _ _ h => ?_
    cases hk <;> cases hform
    rename_i hfields'
    rw [pretty_object, pretty_object] at h
    obtain ⟨rfl, rfl⟩ := separates_bracketed (by decide)
      (fun f hf g hg => separates_fieldText (ih f hf (hfields' g hg) (depth + 1)))
      trivial trivial h
    exact ⟨rfl, rfl⟩

/-- A document with whole numbers can be told from its text. -/
theorem text_inj {j k : Json} (hj : j.Whole) (hk : k.Whole) : j.text = k.text ↔ j = k := by
  constructor
  · intro h
    have hpretty : j.pretty 0 ++ [] = k.pretty 0 ++ [] := by
      rw [List.append_nil, List.append_nil, String.ofList_injective h]
    have hend : NoDigit [] := by
      intro c hc
      cases hc
    exact (separates_pretty hj hk 0 hend hend hpretty).1
  · intro h
    rw [h]

end PlanTimelines.Json
