/-!
# Decimal numbers

Whole numbers written with ASCII digits.  `ofNat` writes a number with no superfluous zero.
`natural?` and `integer?` read one that lies in a range, with an optional sign and any number of
leading zeros.  Main statements: what is written reads back, if it lies in the range.
-/

namespace Throttle.Decimal

def ofNat (n : Nat) : List Char :=
  if n < 10 then [Nat.digitChar n] else ofNat (n / 10) ++ [Nat.digitChar (n % 10)]

def ofInt : Int → List Char
  | .ofNat n => ofNat n
  | .negSucc n => '-' :: ofNat (n + 1)

def natText (n : Nat) : String := String.ofList (ofNat n)

def intText (i : Int) : String := String.ofList (ofInt i)

/-- The number that a list of digits denotes after the digits whose value is `start`. -/
def valueFrom (start : Nat) (ds : List Char) : Nat :=
  ds.foldl (fun n d => 10 * n + (d.toNat - 48)) start

/-- The value of a text that has at least one character and nothing but digits. -/
def digits? (ds : List Char) : Option Nat :=
  if ds.isEmpty || !ds.all Char.isDigit then none else some (valueFrom 0 ds)

/-- Reads a number of at most `greatest`: an optional plus sign and digits. -/
def naturalChars? (greatest : Nat) (cs : List Char) : Option Nat :=
  let ds := match cs with
    | '+' :: ds => ds
    | ds => ds
  (digits? ds).filter (· ≤ greatest)

/-- Reads a number from `least` to `greatest`: an optional sign and digits. -/
def integerChars? (least greatest : Int) (cs : List Char) : Option Int :=
  let value := match cs with
    | '-' :: ds => (digits? ds).map fun n => -(n : Int)
    | '+' :: ds => (digits? ds).map fun n => (n : Int)
    | ds => (digits? ds).map fun n => (n : Int)
  value.filter fun i => least ≤ i && i ≤ greatest

def natural? (greatest : Nat) (s : String) : Option Nat := naturalChars? greatest s.toList

def integer? (least greatest : Int) (s : String) : Option Int :=
  integerChars? least greatest s.toList

theorem valueFrom_append (start : Nat) (ds es : List Char) :
    valueFrom start (ds ++ es) = valueFrom (valueFrom start ds) es := by
  simp [valueFrom]

theorem le_valueFrom (start : Nat) (ds : List Char) : start ≤ valueFrom start ds := by
  induction ds generalizing start with
  | nil => exact Nat.le_refl start
  | cons d ds ih =>
      have hrest : valueFrom start [d] ≤ valueFrom (valueFrom start [d]) ds := ih _
      rw [← valueFrom_append, List.singleton_append] at hrest
      refine Nat.le_trans ?_ hrest
      simp only [valueFrom, List.foldl_cons, List.foldl_nil]
      omega

theorem toNat_digitChar {n : Nat} (h : n < 10) : (Nat.digitChar n).toNat - 48 = n := by
  match n, h with
  | 0, _ | 1, _ | 2, _ | 3, _ | 4, _ | 5, _ | 6, _ | 7, _ | 8, _ | 9, _ => rfl

theorem isDigit_digitChar {n : Nat} (h : n < 10) : (Nat.digitChar n).isDigit = true := by
  match n, h with
  | 0, _ | 1, _ | 2, _ | 3, _ | 4, _ | 5, _ | 6, _ | 7, _ | 8, _ | 9, _ => rfl

theorem valueFrom_ofNat (n : Nat) : valueFrom 0 (ofNat n) = n := by
  fun_induction ofNat n with
  | case1 n h => simp [valueFrom, toNat_digitChar h]
  | case2 n h ih =>
    rw [valueFrom_append, ih]
    simp only [valueFrom, List.foldl_cons, List.foldl_nil]
    rw [toNat_digitChar (Nat.mod_lt _ (by omega))]
    omega

theorem ofNat_ne_nil (n : Nat) : ofNat n ≠ [] := by
  rw [ofNat]
  split <;> simp

theorem isDigit_of_mem_ofNat (n : Nat) : ∀ d ∈ ofNat n, d.isDigit = true := by
  fun_induction ofNat n with
  | case1 n h => simp [isDigit_digitChar h]
  | case2 n h ih =>
    intro d hd
    rcases List.mem_append.1 hd with hd | hd
    · exact ih d hd
    · rw [List.mem_singleton.1 hd]
      exact isDigit_digitChar (Nat.mod_lt _ (by omega))

theorem ofNat_zero : ofNat 0 = ['0'] := by
  rw [ofNat, if_pos (by decide)]
  rfl

theorem digitChar_ne_zero {n : Nat} (hpos : 0 < n) (h : n < 10) : Nat.digitChar n ≠ '0' := by
  have all : ∀ n < 10, 0 < n → Nat.digitChar n ≠ '0' := by decide
  exact all n h hpos

/-- Only zero is written with a zero in front. -/
theorem head_ofNat_ne_zero {n : Nat} (hpos : 0 < n) : ∀ d ∈ (ofNat n).head?, d ≠ '0' := by
  fun_induction ofNat n with
  | case1 n h =>
    intro d hd
    rw [← Option.some.inj hd]
    exact digitChar_ne_zero hpos h
  | case2 n h ih =>
    obtain ⟨d, ds, hn⟩ := List.exists_cons_of_ne_nil (ofNat_ne_nil (n / 10))
    rw [hn] at ih ⊢
    exact ih (by omega)

theorem digits?_ofNat (n : Nat) : digits? (ofNat n) = some n := by
  have all : (ofNat n).all Char.isDigit = true :=
    List.all_eq_true.2 (isDigit_of_mem_ofNat n)
  have ne : (ofNat n).isEmpty = false := by
    simpa [List.isEmpty_iff] using ofNat_ne_nil n
  simp [digits?, all, ne, valueFrom_ofNat]

theorem natText_zero : natText 0 = "0" := by
  rw [natText, ofNat_zero]

theorem natText_injective {m n : Nat} (h : natText m = natText n) : m = n := by
  have hm := valueFrom_ofNat m
  have hn := valueFrom_ofNat n
  rw [natText, natText, String.ofList_inj] at h
  rw [← hm, h, hn]

theorem isDigit_of_mem_natText {n : Nat} {c : Char} (hc : c ∈ (natText n).toList) :
    c.isDigit = true := by
  rw [natText, String.toList_ofList] at hc
  exact isDigit_of_mem_ofNat n c hc

theorem eq_minus_or_isDigit_of_mem_intText {i : Int} {c : Char} (hc : c ∈ (intText i).toList) :
    c = '-' ∨ c.isDigit = true := by
  rw [intText, String.toList_ofList] at hc
  cases i with
  | ofNat n => exact .inr (isDigit_of_mem_ofNat n c hc)
  | negSucc n =>
    rcases List.mem_cons.1 hc with hminus | hdigit
    · exact .inl hminus
    · exact .inr (isDigit_of_mem_ofNat (n + 1) c hdigit)

/-- A written number begins with no sign, so it is read as digits. -/
theorem ofNat_eq_cons (n : Nat) : ∃ d ds, ofNat n = d :: ds ∧ d ≠ '+' ∧ d ≠ '-' := by
  obtain ⟨d, ds, hn⟩ := List.exists_cons_of_ne_nil (ofNat_ne_nil n)
  have hdigit : d.isDigit = true := isDigit_of_mem_ofNat n d (by simp [hn])
  refine ⟨d, ds, hn, ?_, ?_⟩
  · rintro rfl
    exact absurd hdigit (by decide)
  · rintro rfl
    exact absurd hdigit (by decide)

theorem natural?_natText {greatest n : Nat} (h : n ≤ greatest) :
    natural? greatest (natText n) = some n := by
  obtain ⟨d, ds, hn, hplus, -⟩ := ofNat_eq_cons n
  have hread := digits?_ofNat n
  rw [hn] at hread
  rw [natural?, natText, String.toList_ofList, hn]
  unfold naturalChars?
  split
  · next heq => exact absurd (List.cons.inj heq).1 hplus
  · dsimp only
    rw [hread, Option.filter_some, if_pos (by simpa using h)]

theorem integer?_intText {least greatest i : Int} (hleast : least ≤ i) (hgreatest : i ≤ greatest) :
    integer? least greatest (intText i) = some i := by
  have hrange : (decide (least ≤ i) && decide (i ≤ greatest)) = true := by
    simp [hleast, hgreatest]
  rw [integer?, intText, String.toList_ofList]
  cases i with
  | ofNat n =>
    obtain ⟨d, ds, hn, hplus, hminus⟩ := ofNat_eq_cons n
    have hread := digits?_ofNat n
    rw [hn] at hread
    rw [ofInt, hn]
    unfold integerChars?
    split
    · next heq => exact absurd (List.cons.inj heq).1 hminus
    · next heq => exact absurd (List.cons.inj heq).1 hplus
    · rw [hread]
      exact (Option.filter_some ..).trans (if_pos hrange)
  | negSucc n =>
    have hread := digits?_ofNat (n + 1)
    rw [ofInt]
    unfold integerChars?
    split
    · next ds heq =>
      rw [← (List.cons.inj heq).2, hread]
      exact (Option.filter_some ..).trans (if_pos hrange)
    · next heq => exact absurd (List.cons.inj heq).1 (by decide)
    · next hother _ => exact absurd rfl (hother (ofNat (n + 1)))

theorem intText_injective {i j : Int} (h : intText i = intText j) : i = j := by
  have hi := integer?_intText (Int.min_le_left i j) (Int.le_max_left i j)
  have hj := integer?_intText (Int.min_le_right i j) (Int.le_max_right i j)
  rw [h, hj] at hi
  exact (Option.some.inj hi).symm

end Throttle.Decimal
