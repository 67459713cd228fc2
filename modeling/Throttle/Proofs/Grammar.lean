import Mathlib.Data.List.Forall2
import Mathlib.Data.List.Induction
import Throttle.Settings.Resolve

/-!
# Numerals and words

What a text must look like to be read as a number, a truth value or a mode, and what it says then.
A numeral is a row of digits of which each counts ten times as much as the next; a number may have a
plus sign before its numeral, and one that may be negative a minus sign.  A word may be spelled with
capital letters.  Main statements: each reader accepts these texts, and no others.
-/

namespace Throttle

namespace Decimal

/-- A row of digits, and the number that it denotes. -/
inductive IsNumeral : List Char → Nat → Prop where
  | digit {d : Nat} (hd : d < 10) : IsNumeral [Nat.digitChar d] d
  | snoc {ds : List Char} {n d : Nat} (hds : IsNumeral ds n) (hd : d < 10) :
      IsNumeral (ds ++ [Nat.digitChar d]) (10 * n + d)

/-- A numeral, with a plus sign or without. -/
inductive IsNatural : List Char → Nat → Prop where
  | bare {ds : List Char} {n : Nat} (hds : IsNumeral ds n) : IsNatural ds n
  | plus {ds : List Char} {n : Nat} (hds : IsNumeral ds n) : IsNatural ('+' :: ds) n

/-- A numeral with a sign or without. -/
inductive IsInteger : List Char → Int → Prop where
  | natural {cs : List Char} {n : Nat} (hcs : IsNatural cs n) : IsInteger cs n
  | minus {ds : List Char} {n : Nat} (hds : IsNumeral ds n) : IsInteger ('-' :: ds) (-n)

theorem eq_digitChar_of_isDigit {c : Char} (hc : c.isDigit = true) :
    ∃ d < 10, c = Nat.digitChar d := by
  have hrange : 48 ≤ c.toNat ∧ c.toNat ≤ 57 := by
    simp only [Char.isDigit, Bool.and_eq_true, decide_eq_true_eq] at hc
    exact hc
  have hdigits : ∀ d < 10, Char.ofNat (48 + d) = Nat.digitChar d := by decide
  refine ⟨c.toNat - 48, by omega, ?_⟩
  rw [← hdigits _ (by omega), Nat.add_sub_of_le hrange.1, Char.ofNat_toNat]

namespace IsNumeral

variable {ds : List Char} {n : Nat}

theorem ne_nil (hds : IsNumeral ds n) : ds ≠ [] := by
  cases hds <;> simp

theorem all_isDigit (hds : IsNumeral ds n) : ∀ c ∈ ds, c.isDigit = true := by
  induction hds with
  | digit hd => simp [isDigit_digitChar hd]
  | snoc _ hd ih =>
      intro c hc
      rcases List.mem_append.1 hc with hc | hc
      · exact ih c hc
      · rw [List.mem_singleton.1 hc]
        exact isDigit_digitChar hd

theorem valueFrom_eq (hds : IsNumeral ds n) : valueFrom 0 ds = n := by
  induction hds with
  | digit hd => simp [valueFrom, toNat_digitChar hd]
  | snoc _ hd ih =>
      rw [valueFrom_append, ih]
      simp only [valueFrom, List.foldl_cons, List.foldl_nil, toNat_digitChar hd]

/-- No sign begins a numeral. -/
theorem ne_cons (hds : IsNumeral ds n) {sign : Char} (hsign : sign.isDigit = false)
    (rest : List Char) : ds ≠ sign :: rest := by
  rintro rfl
  rw [hds.all_isDigit sign List.mem_cons_self] at hsign
  cases hsign

end IsNumeral

theorem isNumeral_valueFrom {ds : List Char} (hne : ds ≠ [])
    (hdigits : ∀ c ∈ ds, c.isDigit = true) : IsNumeral ds (valueFrom 0 ds) := by
  induction ds using List.reverseRecOn with
  | nil => exact absurd rfl hne
  | append_singleton ds c ih =>
      obtain ⟨d, hd, rfl⟩ := eq_digitChar_of_isDigit (hdigits c (by simp))
      rw [valueFrom_append]
      simp only [valueFrom, List.foldl_cons, List.foldl_nil, toNat_digitChar hd]
      by_cases hds : ds = []
      · subst hds
        simpa using IsNumeral.digit hd
      · exact .snoc (ih hds fun c hc => hdigits c (List.mem_append_left _ hc)) hd

theorem digits?_eq_some_iff {ds : List Char} {n : Nat} : digits? ds = some n ↔ IsNumeral ds n := by
  unfold digits?
  constructor
  · intro hread
    split at hread
    · cases hread
    · next hdigits =>
      obtain rfl := Option.some.inj hread
      simp only [Bool.or_eq_true, List.isEmpty_iff, Bool.not_eq_true', not_or,
        Bool.not_eq_false, List.all_eq_true] at hdigits
      exact isNumeral_valueFrom hdigits.1 hdigits.2
  · intro hds
    have hempty : ds.isEmpty = false := List.isEmpty_eq_false_iff.2 hds.ne_nil
    have hall : ds.all Char.isDigit = true := List.all_eq_true.2 hds.all_isDigit
    simp [hempty, hall, hds.valueFrom_eq]

theorem naturalChars?_eq_some_iff {greatest n : Nat} {cs : List Char} :
    naturalChars? greatest cs = some n ↔ IsNatural cs n ∧ n ≤ greatest := by
  unfold naturalChars?
  rw [Option.filter_eq_some_iff, decide_eq_true_eq, digits?_eq_some_iff]
  refine and_congr_left fun _ => ?_
  split
  · next ds =>
    constructor
    · exact .plus
    · intro hcs
      cases hcs with
      | bare hds => exact absurd rfl (hds.ne_cons (by decide) ds)
      | plus hds => exact hds
  · next hplus =>
    constructor
    · exact .bare
    · intro hcs
      cases hcs with
      | bare hds => exact hds
      | plus => exact absurd rfl (hplus _)

/-- What a text says that begins with no minus sign, whether it has a plus sign or not. -/
theorem isInteger_iff_of_ne_minus {cs : List Char} {i : Int} (hminus : ∀ ds, cs ≠ '-' :: ds) :
    IsInteger cs i ↔ ∃ n : Nat, IsNatural cs n ∧ (n : Int) = i := by
  constructor
  · intro hcs
    cases hcs with
    | natural hcs => exact ⟨_, hcs, rfl⟩
    | minus => exact absurd rfl (hminus _)
  · rintro ⟨n, hcs, rfl⟩
    exact .natural hcs

theorem integerChars?_eq_some_iff {least greatest i : Int} {cs : List Char} :
    integerChars? least greatest cs = some i ↔ IsInteger cs i ∧ least ≤ i ∧ i ≤ greatest := by
  unfold integerChars?
  simp only [Option.filter_eq_some_iff, Bool.and_eq_true, decide_eq_true_eq]
  refine and_congr_left fun _ => ?_
  -- The number of the digits is cast before its sign is put to it.
  have hcast : ∀ ds (j : Int), (do let n ← digits? ds; pure (n : Int)) = some j ↔
      ∃ n : Nat, IsNumeral ds n ∧ (n : Int) = j := by
    intro ds j
    simp [Option.bind_eq_some_iff, digits?_eq_some_iff]
  split
  · next ds =>
    rw [Option.map_eq_some_iff]
    simp only [hcast]
    constructor
    · rintro ⟨_, ⟨n, hds, rfl⟩, rfl⟩
      exact .minus hds
    · intro hcs
      cases hcs with
      | natural hcs =>
          cases hcs with
          | bare hds => exact absurd rfl (hds.ne_cons (by decide) ds)
      | minus hds => exact ⟨_, ⟨_, hds, rfl⟩, rfl⟩
  · next ds =>
    simp only [Option.map_id', hcast]
    rw [isInteger_iff_of_ne_minus (by simp)]
    refine exists_congr fun n => and_congr_left fun _ => ⟨.plus, fun hcs => ?_⟩
    cases hcs with
    | bare hds => exact absurd rfl (hds.ne_cons (by decide) ds)
    | plus hds => exact hds
  · next hminus hplus =>
    simp only [Option.map_id', hcast]
    rw [isInteger_iff_of_ne_minus fun ds hds => hminus ds hds]
    refine exists_congr fun n => and_congr_left fun _ => ⟨.bare, fun hcs => ?_⟩
    cases hcs with
    | bare hds => exact hds
    | plus => exact absurd rfl (hplus _)

end Decimal

namespace Text

/-- A text spells a word if it is that but for capital letters in the place of small ones. -/
def Spells (s word : String) : Prop :=
  List.Forall₂ (fun c w => c = w ∨ 97 ≤ w.toNat ∧ w.toNat ≤ 122 ∧ c.toNat + 32 = w.toNat)
    s.toList word.toList

instance (s word : String) : Decidable (Spells s word) :=
  inferInstanceAs (Decidable (List.Forall₂ _ _ _))

theorem toLower_eq_iff {c w : Char} (hw : w.toLower = w) :
    c.toLower = w ↔ c = w ∨ 97 ≤ w.toNat ∧ w.toNat ≤ 122 ∧ c.toNat + 32 = w.toNat := by
  constructor
  · rintro rfl
    rcases toLower_cases c with hsame | ⟨hlow, hhigh, hshift⟩
    · exact .inl hsame.symm
    · exact .inr (by omega)
  · rintro (rfl | ⟨hlow, hhigh, hshift⟩)
    · exact hw
    · have hcapitals : ∀ n < 91, 65 ≤ n → (Char.ofNat n).toLower = Char.ofNat (n + 32) := by
        decide
      have hc := hcapitals c.toNat (by omega) (by omega)
      rwa [Char.ofNat_toNat, hshift, Char.ofNat_toNat] at hc

theorem map_toLower_eq_iff {cs ws : List Char} (hws : ∀ w ∈ ws, w.toLower = w) :
    cs.map Char.toLower = ws ↔
      List.Forall₂ (fun c w => c = w ∨ 97 ≤ w.toNat ∧ w.toNat ≤ 122 ∧ c.toNat + 32 = w.toNat)
        cs ws := by
  induction cs generalizing ws with
  | nil => cases ws <;> simp
  | cons c cs ih =>
      cases ws with
      | nil => simp
      | cons w ws =>
          rw [List.map_cons, List.cons.injEq, List.forall₂_cons,
            toLower_eq_iff (hws w List.mem_cons_self),
            ih fun w hw => hws w (List.mem_cons_of_mem _ hw)]

theorem asciiLower_eq_iff {s word : String} (hword : asciiLower word = word) :
    asciiLower s = word ↔ Spells s word := by
  have hmap : word.toList.map Char.toLower = word.toList.map id := by
    rw [List.map_id, ← String.toList_ofList (l := word.toList.map Char.toLower)]
    exact congrArg String.toList hword
  rw [Spells, ← map_toLower_eq_iff (List.map_inj_left.1 hmap), asciiLower, ← String.toList_inj,
    String.toList_ofList]

theorem exists_spells_iff {s : String} {words : List String}
    (hwords : ∀ word ∈ words, asciiLower word = word) :
    (∃ word ∈ words, Spells s word) ↔ asciiLower s ∈ words := by
  constructor
  · rintro ⟨word, hword, hspells⟩
    rwa [(asciiLower_eq_iff (hwords word hword)).2 hspells]
  · intro hlower
    exact ⟨_, hlower, (asciiLower_eq_iff (hwords _ hlower)).1 rfl⟩

def truthWords : Bool → List String
  | true => ["true", "1", "yes"]
  | false => ["false", "0", "no"]

end Text

/-! ## Values of settings -/

def BackendMode.words : BackendMode → List String
  | .memory => ["memory"]
  | .shared => ["shared", "redis"]
  | .auto => ["auto"]

/-- The names of the environments for development. -/
def developmentNames : List String := ["development", "dev", "local"]

theorem truth?_eq_some_iff {s : String} {truth : Bool} :
    truth? s = some truth ↔ ∃ word ∈ Text.truthWords truth, Text.Spells s word := by
  have hwords : ∀ word ∈ Text.truthWords truth, Text.asciiLower word = word := by
    cases truth <;> decide +kernel
  rw [Text.exists_spells_iff hwords, truth?]
  generalize Text.asciiLower s = word
  cases truth <;> grind [Text.truthWords]

theorem BackendMode.parse?_eq_some_iff {s : String} {mode : BackendMode} :
    parse? s = some mode ↔ ∃ word ∈ mode.words, Text.Spells (Text.trim s) word := by
  have hwords : ∀ word ∈ mode.words, Text.asciiLower word = word := by
    cases mode <;> decide +kernel
  rw [Text.exists_spells_iff hwords, parse?]
  generalize Text.asciiLower (Text.trim s) = word
  cases mode <;> grind [BackendMode.words]

theorem isDevelopmentName_iff {environment : String} :
    isDevelopmentName environment = true ↔
      ∃ word ∈ developmentNames, Text.Spells (Text.trim environment) word := by
  have hwords : ∀ word ∈ developmentNames, Text.asciiLower word = word := by decide +kernel
  rw [Text.exists_spells_iff hwords, isDevelopmentName, decide_eq_true_eq, developmentNames]

theorem word64?_eq_some_iff {s : String} {word : UInt64} :
    word64? s = some word ↔ Decimal.IsNatural s.toList word.toNat := by
  rw [word64?, Decimal.natural?, Option.map_eq_some_iff]
  simp only [Decimal.naturalChars?_eq_some_iff]
  have hlt : word.toNat < Nat.pow 2 64 := word.toNat_lt
  constructor
  · rintro ⟨n, ⟨hs, hn⟩, rfl⟩
    rwa [UInt64.toNat_ofNat_of_lt' (Nat.lt_of_le_of_lt hn (by decide))]
  · intro hs
    exact ⟨_, ⟨hs, by omega⟩, UInt64.ofNat_toNat⟩

theorem word16?_eq_some_iff {s : String} {word : UInt16} :
    word16? s = some word ↔ Decimal.IsNatural s.toList word.toNat := by
  rw [word16?, Decimal.natural?, Option.map_eq_some_iff]
  simp only [Decimal.naturalChars?_eq_some_iff]
  have hlt : word.toNat < Nat.pow 2 16 := word.toNat_lt
  constructor
  · rintro ⟨n, ⟨hs, hn⟩, rfl⟩
    rwa [UInt16.toNat_ofNat_of_lt' (Nat.lt_of_le_of_lt hn (by decide))]
  · intro hs
    exact ⟨_, ⟨hs, by omega⟩, UInt16.ofNat_toNat⟩

theorem signed64?_eq_some_iff {s : String} {word : Int64} :
    signed64? s = some word ↔ Decimal.IsInteger s.toList word.toInt := by
  rw [signed64?, Decimal.integer?, Option.map_eq_some_iff]
  simp only [Decimal.integerChars?_eq_some_iff]
  constructor
  · rintro ⟨i, ⟨hs, hleast, hgreatest⟩, rfl⟩
    rwa [Int64.toInt_ofInt_of_le hleast (Int.lt_of_le_of_lt hgreatest (by decide))]
  · intro hs
    exact ⟨_, ⟨hs, word.le_toInt, Int.le_sub_one_of_lt word.toInt_lt⟩, Int64.ofInt_toInt word⟩

end Throttle
