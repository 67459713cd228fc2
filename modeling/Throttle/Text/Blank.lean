/-!
# Blank characters and trimming

A character is blank when it has the Unicode property White_Space.  `trim` takes the blank
characters off both ends of a text and leaves everything between them.  Main statements: a trimmed
text neither begins nor ends with a blank, and trimming it again changes nothing.
-/

namespace Throttle.Text

/-- The Unicode property White_Space. -/
def isBlank (c : Char) : Bool :=
  let n := c.toNat
  (9 ≤ n && n ≤ 13) || n == 0x20 || n == 0x85 || n == 0xA0 || n == 0x1680 ||
    (0x2000 ≤ n && n ≤ 0x200A) || n == 0x2028 || n == 0x2029 || n == 0x202F || n == 0x205F ||
    n == 0x3000

def dropTrailing {α : Type} (p : α → Bool) : List α → List α
  | [] => []
  | a :: as =>
    match dropTrailing p as with
    | [] => if p a then [] else [a]
    | b :: bs => a :: b :: bs

def trimChars (cs : List Char) : List Char :=
  dropTrailing isBlank (cs.dropWhile isBlank)

def trim (s : String) : String :=
  String.ofList (trimChars s.toList)

def IsTrimmed (s : String) : Prop := trim s = s

instance (s : String) : Decidable (IsTrimmed s) :=
  inferInstanceAs (Decidable (trim s = s))

theorem getLast_dropTrailing {α : Type} (p : α → Bool) (as : List α) :
    ∀ a ∈ (dropTrailing p as).getLast?, p a = false := by
  induction as with
  | nil => simp [dropTrailing]
  | cons a as ih =>
    rw [dropTrailing]
    split
    · split <;> simp_all
    · next b bs h => simpa [h] using ih

theorem dropTrailing_eq_self {α : Type} (p : α → Bool) (as : List α)
    (h : ∀ a ∈ as.getLast?, p a = false) : dropTrailing p as = as := by
  induction as with
  | nil => rfl
  | cons a as ih =>
    cases as with
    | nil => simp_all [dropTrailing]
    | cons b bs =>
      have h' : dropTrailing p (b :: bs) = b :: bs := ih (by simpa using h)
      rw [dropTrailing, h']

theorem head_dropTrailing {α : Type} (p : α → Bool) (as : List α)
    (h : ∀ a ∈ as.head?, p a = false) : ∀ a ∈ (dropTrailing p as).head?, p a = false := by
  cases as with
  | nil => simp [dropTrailing]
  | cons a as =>
    rw [dropTrailing]
    split
    · split <;> simp_all
    · simpa using h

theorem head_dropWhile {α : Type} (p : α → Bool) (as : List α) :
    ∀ a ∈ (as.dropWhile p).head?, p a = false := by
  induction as with
  | nil => simp
  | cons a as ih =>
    rw [List.dropWhile_cons]
    split
    · exact ih
    · simp_all

theorem dropWhile_eq_self {α : Type} (p : α → Bool) (as : List α)
    (h : ∀ a ∈ as.head?, p a = false) : as.dropWhile p = as := by
  cases as <;> simp_all

theorem trimChars_trimChars (cs : List Char) : trimChars (trimChars cs) = trimChars cs := by
  have head := head_dropTrailing isBlank _ (head_dropWhile isBlank cs)
  have last := getLast_dropTrailing isBlank (cs.dropWhile isBlank)
  rw [trimChars, trimChars, dropWhile_eq_self isBlank _ head, dropTrailing_eq_self isBlank _ last]

theorem trim_trim (s : String) : trim (trim s) = trim s := by
  simp [trim, trimChars_trimChars]

theorem isTrimmed_trim (s : String) : IsTrimmed (trim s) := trim_trim s

theorem dropTrailing_append_of_forall {α : Type} {p : α → Bool} (as : List α) {bs : List α}
    (h : ∀ b ∈ bs, p b = true) : dropTrailing p (as ++ bs) = dropTrailing p as := by
  induction as with
  | nil =>
    induction bs with
    | nil => rfl
    | cons b bs ih =>
      have rest := ih fun b' hb' => h b' (List.mem_cons_of_mem b hb')
      simp only [List.nil_append, dropTrailing] at rest ⊢
      rw [rest, if_pos (h b List.mem_cons_self)]
  | cons a as ih => rw [List.cons_append, dropTrailing, ih, dropTrailing]

theorem trim_append_blanks (s : String) {before after : List Char}
    (hbefore : ∀ c ∈ before, isBlank c = true) (hafter : ∀ c ∈ after, isBlank c = true) :
    trim (String.ofList before ++ s ++ String.ofList after) = trim s := by
  have front : (before ++ (s.toList ++ after)).dropWhile isBlank =
      (s.toList ++ after).dropWhile isBlank :=
    List.dropWhile_append_of_pos hbefore
  have back : dropTrailing isBlank ((s.toList ++ after).dropWhile isBlank) =
      dropTrailing isBlank (s.toList.dropWhile isBlank) := by
    rw [List.dropWhile_append]
    split
    · next hempty =>
      rw [List.isEmpty_iff.1 hempty]
      exact dropTrailing_append_of_forall [] fun c hc =>
        hafter c ((List.dropWhile_sublist isBlank).subset hc)
    · exact dropTrailing_append_of_forall _ hafter
  rw [trim, trim, trimChars, trimChars, String.toList_append, String.toList_append,
    String.toList_ofList, String.toList_ofList, List.append_assoc, front, back]

theorem head_trim (s : String) : ∀ c ∈ (trim s).toList.head?, isBlank c = false := by
  rw [trim, String.toList_ofList, trimChars]
  exact head_dropTrailing isBlank _ (head_dropWhile isBlank s.toList)

theorem isTrimmed_of_ends {s : String} (hhead : ∀ c ∈ s.toList.head?, isBlank c = false)
    (hlast : ∀ c ∈ s.toList.getLast?, isBlank c = false) : IsTrimmed s := by
  rw [IsTrimmed, trim, trimChars, dropWhile_eq_self isBlank _ hhead,
    dropTrailing_eq_self isBlank _ hlast, String.ofList_toList]

theorem isTrimmed_of_forall {s : String} (h : ∀ c ∈ s.toList, isBlank c = false) :
    IsTrimmed s :=
  isTrimmed_of_ends (fun c hc => h c (List.mem_of_mem_head? hc)) fun c hc =>
    h c (List.mem_of_getLast? hc)

theorem isBlank_of_isDigit {c : Char} (h : c.isDigit = true) : isBlank c = false := by
  have hrange : 48 ≤ c.toNat ∧ c.toNat ≤ 57 := by
    simp only [Char.isDigit, Bool.and_eq_true, decide_eq_true_eq] at h
    exact h
  have hdigit : ∀ n < 58, 48 ≤ n → isBlank (Char.ofNat n) = false := by decide
  have hc := hdigit c.toNat (by omega) hrange.1
  rwa [Char.ofNat_toNat] at hc

end Throttle.Text
