import Throttle.Proofs.Json.RoundTrip

/-!
# What formats have in common

The values that several formats can express, and their JSON texts part by part: behind the first
part of a list or an object every part stands after a comma, and the closing bracket ends it.
-/

namespace Throttle.Json

def textFields (fields : List (String × String)) : List (String × Json) :=
  fields.map fun (name, s) => (name, .text s)

/-- Values whose names and texts have these characters only, with whole numbers of 64 bits with a
sign. -/
inductive IsCommon (p : Char → Prop) : Json → Prop where
  | null : IsCommon p .null
  | bool (b : Bool) : IsCommon p (.bool b)
  | int {i : Int} (hleast : -(2 ^ 63) ≤ i) (hgreatest : i < 2 ^ 63) : IsCommon p (.int i)
  | text {s : String} (hs : ∀ c ∈ s.toList, p c) : IsCommon p (.text s)
  | list {items : List Json} (hitems : ∀ item ∈ items, IsCommon p item) : IsCommon p (.list items)
  | object {fields : List (String × Json)} (hnames : ∀ field ∈ fields, ∀ c ∈ field.1.toList, p c)
      (hfields : ∀ field ∈ fields, IsCommon p field.2) : IsCommon p (.object fields)

theorem IsCommon.isPlain {p : Char → Prop} {j : Json} (h : IsCommon p j) : IsPlain j := by
  induction h with
  | null => exact .null
  | bool b => exact .bool b
  | int hleast hgreatest => exact .int hleast (by omega)
  | text => exact .text _
  | list _ ih => exact .list ih
  | object _ _ ih => exact .object ih

theorem isCommon_textFields {p : Char → Prop} {fields : List (String × String)}
    (h : ∀ field ∈ fields, (∀ c ∈ field.1.toList, p c) ∧ ∀ c ∈ field.2.toList, p c) :
    IsCommon p (.object (textFields fields)) := by
  refine .object ?_ ?_
  · intro field hfield
    obtain ⟨row, hrow, rfl⟩ := List.mem_map.1 hfield
    exact (h row hrow).1
  · intro field hfield
    obtain ⟨row, hrow, rfl⟩ := List.mem_map.1 hfield
    exact .text (h row hrow).2

/-- What holds of the ten digits holds of every digit. -/
theorem of_isDigit {p : Char → Prop} (hall : ∀ n < 58, 48 ≤ n → p (Char.ofNat n)) {c : Char}
    (hc : c.isDigit = true) : p c := by
  have hrange : 48 ≤ c.toNat ∧ c.toNat ≤ 57 := by
    simp only [Char.isDigit, Bool.and_eq_true, decide_eq_true_eq] at hc
    exact hc
  have hp := hall c.toNat (by omega) hrange.1
  rwa [Char.ofNat_toNat] at hp

/-- What holds of the characters with which a value may begin. -/
theorem BeginsValue.elim {p : Char → Prop} {c : Char} (h : BeginsValue c)
    (hdigit : ∀ n < 58, 48 ≤ n → p (Char.ofNat n))
    (hother : p '-' ∧ p 'n' ∧ p 't' ∧ p 'f' ∧ p '"' ∧ p '[' ∧ p '{') : p c := by
  rcases h with hc | hmem
  · exact of_isDigit hdigit hc
  · obtain ⟨hminus, hn, ht, hf, hquote, hlist, hobject⟩ := hother
    simp only [List.mem_cons, List.not_mem_nil, or_false] at hmem
    rcases hmem with rfl | rfl | rfl | rfl | rfl | rfl | rfl <;> assumption

/-! ## Texts -/

theorem length_le_escape (text : List Char) : text.length ≤ (text.flatMap escape).length := by
  induction text with
  | nil => exact Nat.le_refl 0
  | cons c cs ih =>
      have hone : 1 ≤ (escape c).length := by
        rcases escape_cases c with ⟨e, -, hform⟩ | ⟨-, hform⟩ | ⟨-, -, -, hform⟩ <;>
          rw [hform] <;> exact Nat.succ_pos _
      rw [List.flatMap_cons, List.length_append, List.length_cons]
      omega

theorem writeText_append (s : String) (rest : List Char) :
    writeText s ++ rest = '"' :: (s.toList.flatMap escape ++ '"' :: rest) := by
  simp [writeText]

/-! ## Lists and objects -/

/-- What may stand behind a value. -/
def EndsValue (rest : List Char) : Prop := ∀ c ∈ rest.head?, c = ',' ∨ c = ']' ∨ c = '}'

namespace EndsValue

variable {rest : List Char} (h : EndsValue rest)

include h

/-- What ends a value does not go on with it. -/
theorem not_goesOn {p : Char → Bool} (hp : p ',' = false ∧ p ']' = false ∧ p '}' = false) :
    ∀ c ∈ rest.head?, p c = false := by
  intro c hc
  rcases h c hc with rfl | rfl | rfl
  · exact hp.1
  · exact hp.2.1
  · exact hp.2.2

theorem takeWhile_append {p : Char → Bool} (hp : p ',' = false ∧ p ']' = false ∧ p '}' = false)
    {front : List Char} (hfront : ∀ c ∈ front, p c = true) :
    (front ++ rest).takeWhile p = front ∧ (front ++ rest).dropWhile p = rest := by
  have hnext := h.not_goesOn hp
  rw [List.takeWhile_append_of_pos hfront, List.dropWhile_append_of_pos hfront]
  cases rest with
  | nil => simp
  | cons c cs =>
      have hc : ¬ p c = true := by simp [hnext c rfl]
      rw [List.takeWhile_cons_of_neg hc, List.dropWhile_cons_of_neg hc, List.append_nil]
      exact ⟨rfl, rfl⟩

end EndsValue

/-- The parts behind the first one, and the closing bracket. -/
def tailChars (closing : Char) : List (List Char) → List Char
  | [] => [closing]
  | part :: parts => ',' :: (part ++ tailChars closing parts)

def fieldText (field : String × Json) : List Char :=
  writeText field.1 ++ ':' :: writeChars field.2

theorem writeItems_eq (items : List Json) :
    writeItems items = tailChars ']' (items.map writeChars) := by
  induction items with
  | nil => rfl
  | cons item items ih => rw [writeItems, ih, List.map_cons, tailChars]

theorem writeFields_eq (fields : List (String × Json)) :
    writeFields fields = tailChars '}' (fields.map fieldText) := by
  induction fields with
  | nil => rfl
  | cons field fields ih =>
      rw [writeFields, ih, List.map_cons, tailChars, fieldText, List.append_assoc, List.cons_append]

theorem writeChars_list (item : Json) (items : List Json) :
    writeChars (.list (item :: items)) =
      '[' :: (writeChars item ++ tailChars ']' (items.map writeChars)) := by
  rw [writeChars, writeItems_eq]

theorem writeChars_object (field : String × Json) (fields : List (String × Json)) :
    writeChars (.object (field :: fields)) =
      '{' :: (fieldText field ++ tailChars '}' (fields.map fieldText)) := by
  rw [writeChars, writeFields_eq, fieldText, List.append_assoc, List.cons_append]

theorem tailChars_ends {closing : Char} (h : closing = ']' ∨ closing = '}')
    (parts : List (List Char)) (rest : List Char) : EndsValue (tailChars closing parts ++ rest) := by
  cases parts with
  | nil =>
      intro c hc
      cases hc
      exact .inr h
  | cons part parts =>
      intro c hc
      cases hc
      exact .inl rfl

theorem length_le_tailChars (closing : Char) (parts : List (List Char)) :
    parts.length < (tailChars closing parts).length := by
  induction parts with
  | nil => exact Nat.zero_lt_one
  | cons part parts ih =>
      rw [tailChars, List.length_cons, List.length_cons, List.length_append]
      omega

theorem length_le_of_mem {closing : Char} {part : List Char} {parts : List (List Char)}
    (h : part ∈ parts) : part.length < (tailChars closing parts).length := by
  induction parts with
  | nil => cases h
  | cons first parts ih =>
      rw [tailChars, List.length_cons, List.length_append]
      rcases List.mem_cons.1 h with rfl | hmem
      · omega
      · have hlength := ih hmem
        omega

end Throttle.Json
