import Mathlib.Algebra.Group.Int.Defs
import Mathlib.Algebra.Group.Nat.Defs
import Throttle.Json.Reader
import Throttle.Json.Writer

/-!
# Reading what was written

A JSON value is plain if every part of it denotes something and all its numbers are whole ones of 64
bits.  Main statement: a plain value is read again from its compact text.  Every reader is shown to
leave what follows the text, so that the readers of the parts make up the reader of the whole.
-/

namespace Throttle.Json

/-- Values of which every part denotes something, with whole numbers of 64 bits only. -/
inductive IsPlain : Json → Prop where
  | null : IsPlain .null
  | bool (b : Bool) : IsPlain (.bool b)
  | int {i : Int} (hleast : -(2 ^ 63) ≤ i) (hgreatest : i < 2 ^ 64) : IsPlain (.int i)
  | text (s : String) : IsPlain (.text s)
  | list {items : List Json} (hitems : ∀ item ∈ items, IsPlain item) : IsPlain (.list items)
  | object {fields : List (String × Json)} (hfields : ∀ field ∈ fields, IsPlain field.2) :
      IsPlain (.object fields)

/-! ## Texts -/

theorem charsOfUnits?_cons (c : Char) (units : List Nat) :
    charsOfUnits? (c.toNat :: units) = (charsOfUnits? units).map (c :: ·) := by
  have hvalid : c.toNat < 0xD800 ∨ 0xDFFF < c.toNat ∧ c.toNat < 0x110000 := c.valid
  cases units with
  | nil =>
      have hnone : charsOfUnits? [] = some [] := rfl
      rw [hnone, charsOfUnits?, if_neg (by omega), Option.map_some, Char.ofNat_toNat]
  | cons unit units =>
      rw [charsOfUnits?, if_neg (by omega), if_neg (by omega), Char.ofNat_toNat]

theorem charsOfUnits?_map (cs : List Char) : charsOfUnits? (cs.map Char.toNat) = some cs := by
  induction cs with
  | nil => rfl
  | cons c cs ih => rw [List.map_cons, charsOfUnits?_cons, ih, Option.map_some]

/-- The units of a text after one more. -/
def withUnit (unit : Nat) (read : List Nat × List Char) : List Nat × List Char :=
  (unit :: read.1, read.2)

theorem hexValue?_toLower {n : Nat} (h : n < 16) :
    Text.hexValue? (Text.hexDigit n).toLower = some n := by
  have all : ∀ n < 16, Text.hexValue? (Text.hexDigit n).toLower = some n := by decide
  exact all n h

/-- An escape by the code point has four digits, which are worth that point. -/
theorem exists_digits {c : Char} (hc : c.toNat < 256) :
    ∃ high low h l, escapeCode c = ['\\', 'u', '0', '0', high, low] ∧
      Text.hexValue? '0' = some 0 ∧ Text.hexValue? high = some h ∧ Text.hexValue? low = some l ∧
        16 * h + l = c.toNat :=
  ⟨_, _, c.toNat / 16, c.toNat % 16, rfl, by decide, hexValue?_toLower (by omega),
    hexValue?_toLower (by omega), Nat.div_add_mod _ _⟩

theorem readUnits_escapeCode {c : Char} (hc : c.toNat < 256) (cs : List Char) :
    readUnits (escapeCode c ++ cs) = (readUnits cs).map (withUnit c.toNat) := by
  obtain ⟨high, low, h, l, hform, hzero, hhigh, hlow, hvalue⟩ := exists_digits hc
  have hunit : hex4? '0' '0' high low = some c.toNat := by
    simp only [hex4?, hhigh, hlow, hzero, Option.bind_eq_bind, Option.bind_some, Option.pure_def]
    congr 1
    omega
  rw [hform]
  simp only [List.cons_append, List.nil_append]
  rw [readUnits, hunit]
  cases readUnits cs <;> rfl

theorem readUnits_shortEscape {e : Char} {unit : Nat} (he : shortEscape? e = some unit)
    (cs : List Char) : readUnits ('\\' :: e :: cs) = (readUnits cs).map (withUnit unit) := by
  have hu : e ≠ 'u' := by
    rintro rfl
    cases he
  rw [readUnits]
  · rw [he]
    cases readUnits cs <;> rfl
  all_goals
    intros
    contradiction

theorem readUnits_plain {c : Char} (hquote : c ≠ '"') (hback : c ≠ '\\') (hspace : 32 ≤ c.toNat)
    (cs : List Char) : readUnits (c :: cs) = (readUnits cs).map (withUnit c.toNat) := by
  rw [readUnits]
  · rw [if_neg hback, if_neg (Nat.not_lt.2 hspace)]
    cases readUnits cs <;> rfl
  all_goals
    intros
    contradiction

/-- The letters of the short escapes that are written, and what they stand for. -/
def shortForms : List (Char × Char) :=
  [('"', '"'), ('\\', '\\'), ('b', '\x08'), ('f', '\x0c'), ('n', '\n'), ('r', '\r'), ('t', '\t')]

/-- A character has a short escape, or is escaped by its code point, or stands for itself. -/
theorem escape_cases (c : Char) :
    (∃ e, (e, c) ∈ shortForms ∧ escape c = ['\\', e]) ∨
      c.toNat < 32 ∧ escape c = escapeCode c ∨
      c ≠ '"' ∧ c ≠ '\\' ∧ 32 ≤ c.toNat ∧ escape c = [c] := by
  have hshort : ∀ {e d : Char}, c = d → (e, d) ∈ shortForms →
      ∃ e', (e', c) ∈ shortForms ∧ ['\\', e] = ['\\', e'] :=
    fun hc he => ⟨_, hc ▸ he, rfl⟩
  unfold escape
  split
  · next h => exact .inl (hshort h (by decide))
  split
  · next h => exact .inl (hshort h (by decide))
  split
  · next h => exact .inl (hshort (d := '\x08') (Char.toNat_inj.1 h) (by decide))
  split
  · next h => exact .inl (hshort (d := '\x0c') (Char.toNat_inj.1 h) (by decide))
  split
  · next h => exact .inl (hshort h (by decide))
  split
  · next h => exact .inl (hshort h (by decide))
  split
  · next h => exact .inl (hshort h (by decide))
  split
  · next hcode => exact .inr (.inl ⟨hcode, rfl⟩)
  · next hquote hback _ _ _ _ _ hspace =>
    exact .inr (.inr ⟨hquote, hback, Nat.not_lt.1 hspace, rfl⟩)

theorem shortEscape?_of_mem {e c : Char} (h : (e, c) ∈ shortForms) :
    shortEscape? e = some c.toNat := by
  have hall : ∀ form ∈ shortForms, shortEscape? form.1 = some form.2.toNat := by
    simp only [shortForms, List.forall_mem_cons]
    decide
  exact hall (e, c) h

/-- A character is read from the form that it has inside a string. -/
theorem readUnits_escape (c : Char) (cs : List Char) :
    readUnits (escape c ++ cs) = (readUnits cs).map (withUnit c.toNat) := by
  rcases escape_cases c with ⟨e, he, hform⟩ | ⟨hcode, hform⟩ | ⟨hquote, hback, hspace, hform⟩
  · rw [hform]
    exact readUnits_shortEscape (shortEscape?_of_mem he) cs
  · rw [hform]
    exact readUnits_escapeCode (by omega) cs
  · rw [hform]
    exact readUnits_plain hquote hback hspace cs

theorem readUnits_flatMap_escape (cs rest : List Char) :
    readUnits (cs.flatMap escape ++ '"' :: rest) = .ok (cs.map Char.toNat, rest) := by
  induction cs with
  | nil => rfl
  | cons c cs ih =>
      rw [List.flatMap_cons, List.append_assoc, readUnits_escape, ih]
      rfl

theorem readText_writeText (s : String) (rest : List Char) :
    readText (s.toList.flatMap escape ++ '"' :: rest) = .ok (some s, rest) := by
  rw [readText, readUnits_flatMap_escape]
  show Except.ok ((charsOfUnits? (s.toList.map Char.toNat)).map String.ofList, rest) = _
  rw [charsOfUnits?_map, Option.map_some, String.ofList_toList]

theorem ok_bind {ε α β : Type} (a : α) (f : α → Except ε β) : (Except.ok a >>= f) = f a := rfl

/-! ## Numbers -/

/-- A text that does not go on with a numeral. -/
def EndsNumeral (rest : List Char) : Prop :=
  ∀ c ∈ rest.head?, c.isDigit = false ∧ c ≠ '.' ∧ c ≠ 'e' ∧ c ≠ 'E'

section Numeral

variable {rest : List Char} (hrest : EndsNumeral rest)

include hrest

theorem takeWhile_isDigit {ds : List Char} (hds : ∀ d ∈ ds, d.isDigit = true) :
    (ds ++ rest).takeWhile Char.isDigit = ds ∧ (ds ++ rest).dropWhile Char.isDigit = rest := by
  rw [List.takeWhile_append_of_pos hds, List.dropWhile_append_of_pos hds]
  cases rest with
  | nil => simp
  | cons c cs =>
      have hc : ¬ c.isDigit = true := by simp [(hrest c rfl).1]
      rw [List.takeWhile_cons_of_neg hc, List.dropWhile_cons_of_neg hc, List.append_nil]
      exact ⟨rfl, rfl⟩

theorem readWhole_ofNat (n : Nat) :
    readWhole (Decimal.ofNat n ++ rest) = .ok (Decimal.ofNat n, rest) := by
  rcases Nat.eq_zero_or_pos n with rfl | hpos
  · have hany : ¬ rest.head?.any Char.isDigit = true := by
      rw [Option.any_eq_true]
      rintro ⟨c, hc, hdigit⟩
      rw [(hrest c hc).1] at hdigit
      cases hdigit
    rw [Decimal.ofNat_zero, List.singleton_append, readWhole, if_neg hany]
  · obtain ⟨d, ds, hn⟩ := List.exists_cons_of_ne_nil (Decimal.ofNat_ne_nil n)
    have hzero := Decimal.head_ofNat_ne_zero hpos
    have hdigits := Decimal.isDigit_of_mem_ofNat n
    rw [hn] at hzero hdigits ⊢
    have hd : d.isDigit = true := hdigits d List.mem_cons_self
    obtain ⟨htake, hdrop⟩ := takeWhile_isDigit hrest fun c hc =>
      hdigits c (List.mem_cons_of_mem _ hc)
    rw [List.cons_append, readWhole, if_pos hd, htake, hdrop]
    exact fun heq => hzero d rfl heq

theorem readFraction_rest : readFraction rest = .ok (none, rest) := by
  unfold readFraction
  split
  · next cs => exact absurd rfl (hrest '.' rfl).2.1
  · rfl

theorem readExponent_rest : readExponent rest = .ok (none, rest) := by
  cases rest with
  | nil => rfl
  | cons c cs =>
      obtain ⟨-, -, hsmall, hcapital⟩ := hrest c rfl
      exact if_neg (by simp [hsmall, hcapital])

end Numeral

theorem keepDigits_eq {ds : List Char} {n : Nat} (h : Decimal.valueFrom n ds < Nat.pow 2 64) :
    keepDigits n ds = (Decimal.valueFrom n ds, ds.length) := by
  induction ds generalizing n with
  | nil => rfl
  | cons d ds ih =>
      have hsplit : Decimal.valueFrom n (d :: ds) =
          Decimal.valueFrom (Decimal.valueFrom n [d]) ds := rfl
      rw [hsplit] at h ⊢
      have hnext := Nat.lt_of_le_of_lt (Decimal.le_valueFrom _ _) h
      rw [keepDigits, if_pos hnext, ih h]
      rfl

theorem keepDigits_ofNat {n : Nat} (h : n < 2 ^ 64) :
    keepDigits 0 (Decimal.ofNat n) = (n, (Decimal.ofNat n).length) := by
  have hvalue := Decimal.valueFrom_ofNat n
  rw [keepDigits_eq (by rwa [hvalue]), hvalue]

theorem ofParts?_nat {n : Nat} (h : n < 2 ^ 64) :
    Number.ofParts? false (Decimal.ofNat n) none none = some (.int n) := by
  simp [Number.ofParts?, keepDigits_ofNat h]

theorem ofParts?_neg {n : Nat} (hpos : 0 < n) (h : n ≤ 2 ^ 63) :
    Number.ofParts? true (Decimal.ofNat n) none none = some (.int (-(n : Int))) := by
  have hfits : ¬ (n = 0 ∨ Nat.pow 2 63 < n) := by
    rw [Nat.pow_eq]
    omega
  simp only [Number.ofParts?, keepDigits_ofNat (Nat.lt_of_le_of_lt h (by decide)), Nat.sub_self]
  rw [if_pos Int.natCast_zero, if_neg (by decide), if_neg hfits]

section Numeral

variable {rest : List Char} (hrest : EndsNumeral rest)

include hrest

theorem readUnsigned_ofNat (negative : Bool) (n : Nat) :
    readUnsigned negative (Decimal.ofNat n ++ rest) =
      .ok (Number.ofParts? negative (Decimal.ofNat n) none none, rest) := by
  rw [readUnsigned, readWhole_ofNat hrest]
  simp only [ok_bind, readFraction_rest hrest, readExponent_rest hrest]
  rfl

theorem readNumber_ofInt {i : Int} (hleast : -(2 ^ 63) ≤ i) (hgreatest : i < 2 ^ 64) :
    readNumber (Decimal.ofInt i ++ rest) = .ok (some (.int i), rest) := by
  cases i with
  | ofNat n =>
      obtain ⟨d, ds, hn, -, hminus⟩ := Decimal.ofNat_eq_cons n
      have hd : d.isDigit = true := Decimal.isDigit_of_mem_ofNat n d (by simp [hn])
      have hn64 : n < 2 ^ 64 := by
        rw [Int.ofNat_eq_natCast] at hgreatest
        omega
      have hread := readUnsigned_ofNat hrest false n
      rw [ofParts?_nat hn64, hn] at hread
      rw [Decimal.ofInt, hn, List.cons_append, readNumber, if_pos hd]
      · exact hread
      · exact fun heq => hminus heq
  | negSucc n =>
      have hread := readUnsigned_ofNat hrest true (n + 1)
      rw [ofParts?_neg (by omega) (by omega)] at hread
      exact hread

end Numeral

/-! ## Values -/

/-- The characters with which a value may begin. -/
def BeginsValue (c : Char) : Prop :=
  c.isDigit = true ∨ c ∈ ['-', 'n', 't', 'f', '"', '[', '{']

theorem BeginsValue.not_blank {c : Char} (h : BeginsValue c) :
    c ≠ ' ' ∧ c ≠ '\n' ∧ c ≠ '\t' ∧ c ≠ '\r' ∧ c ≠ ']' := by
  refine ⟨?_, ?_, ?_, ?_, ?_⟩ <;>
  · rintro rfl
    revert h
    unfold BeginsValue
    decide

theorem skipBlanks_cons {c : Char} (h : c ≠ ' ' ∧ c ≠ '\n' ∧ c ≠ '\t' ∧ c ≠ '\r')
    (cs : List Char) : skipBlanks (c :: cs) = c :: cs := by
  obtain ⟨hspace, hline, htab, hreturn⟩ := h
  simp [skipBlanks, hspace, hline, htab, hreturn]

theorem ofInt_begins (i : Int) :
    ∃ c cs, Decimal.ofInt i = c :: cs ∧ (c.isDigit = true ∨ c = '-') := by
  cases i with
  | ofNat n =>
      obtain ⟨d, ds, hn, -, -⟩ := Decimal.ofNat_eq_cons n
      exact ⟨d, ds, hn, .inl (Decimal.isDigit_of_mem_ofNat n d (by simp [hn]))⟩
  | negSucc n => exact ⟨'-', _, rfl, .inr rfl⟩

theorem writeChars_begins {j : Json} (h : IsPlain j) :
    ∃ c cs, writeChars j = c :: cs ∧ BeginsValue c := by
  cases h with
  | null => exact ⟨'n', _, rfl, .inr (by decide)⟩
  | bool b =>
      cases b with
      | false => exact ⟨'f', _, rfl, .inr (by decide)⟩
      | true => exact ⟨'t', _, rfl, .inr (by decide)⟩
  | int hleast hgreatest =>
      obtain ⟨c, cs, hi, hc⟩ := ofInt_begins _
      refine ⟨c, cs, hi, hc.imp_right ?_⟩
      rintro rfl
      decide
  | text s => exact ⟨'"', _, rfl, .inr (by decide)⟩
  | list hitems =>
      rename_i items
      cases items <;> exact ⟨'[', _, rfl, .inr (by decide)⟩
  | object hfields =>
      rename_i fields
      cases fields <;> exact ⟨'{', _, rfl, .inr (by decide)⟩

/-- The text of this value is read as the value, whatever follows it. -/
def IsReadBack (j : Json) : Prop :=
  ∀ fuel rest, (writeChars j).length ≤ fuel → EndsNumeral rest →
    readValue none fuel (writeChars j ++ rest) = .ok (j, rest)

theorem readValue_number {c : Char} (hc : c.isDigit = true ∨ c = '-') (fuel : Nat)
    (cs : List Char) :
    readValue none (fuel + 1) (c :: cs) = (readNumber (c :: cs)).bind fun read =>
      .ok ((read.1.map Json.number).getD .broken, read.2) := by
  have hblank : c ≠ ' ' ∧ c ≠ '\n' ∧ c ≠ '\t' ∧ c ≠ '\r' := by
    refine ⟨?_, ?_, ?_, ?_⟩ <;>
    · rintro rfl
      revert hc
      decide
  rw [readValue, skipBlanks_cons hblank]
  -- none of the first letters of the other values is a digit or a sign
  split
  iterate 6
    · next heq =>
      injection heq with heq
      subst heq
      exact absurd hc (by decide)
  · next rest _ _ _ _ _ _ =>
    show (readNumber (c :: cs)).bind _ = _
    congr 1
    funext ⟨n, rest⟩
    cases n <;> rfl

theorem isReadBack_int {i : Int} (hleast : -(2 ^ 63) ≤ i) (hgreatest : i < 2 ^ 64) :
    IsReadBack (.int i) := by
  intro fuel rest hfuel hrest
  obtain ⟨c, cs, hi, hc⟩ := ofInt_begins i
  have hread := readNumber_ofInt hrest hleast hgreatest
  have hchars : writeChars (.int i) = Decimal.ofInt i := rfl
  rw [hchars] at hfuel ⊢
  rw [hi] at hfuel hread ⊢
  obtain ⟨fuel, rfl⟩ := Nat.exists_eq_add_one_of_ne_zero
    (Nat.ne_of_gt (Nat.lt_of_lt_of_le (Nat.zero_lt_succ _) hfuel))
  rw [List.cons_append] at hread ⊢
  rw [readValue_number hc, hread]
  rfl

theorem isReadBack_text (s : String) : IsReadBack (.text s) := by
  intro fuel rest hfuel _
  have hchars : writeChars (.text s) ++ rest = '"' :: (s.toList.flatMap escape ++ '"' :: rest) := by
    simp [writeChars, writeText]
  rw [hchars]
  cases fuel with
  | zero => simp [writeChars, writeText] at hfuel
  | succ fuel =>
      rw [readValue, skipBlanks_cons (by decide)]
      show (readText (s.toList.flatMap escape ++ '"' :: rest)).bind _ = _
      rw [readText_writeText]
      rfl

theorem endsNumeral_of_mem {c : Char} (h : c ∈ [']', '}', ',']) (cs : List Char) :
    EndsNumeral (c :: cs) := by
  intro d hd
  obtain rfl : c = d := by simpa using hd
  revert h
  simp only [List.mem_cons, List.not_mem_nil, or_false]
  rintro (rfl | rfl | rfl) <;> decide

theorem writeItems_ends (items : List Json) (rest : List Char) :
    EndsNumeral (writeItems items ++ rest) := by
  cases items <;> exact endsNumeral_of_mem (by decide) _

theorem writeFields_ends (fields : List (String × Json)) (rest : List Char) :
    EndsNumeral (writeFields fields ++ rest) := by
  cases fields <;> exact endsNumeral_of_mem (by decide) _

theorem readItems_comma {fuel : Nat} {cs rest : List Char} {item : Json} {c : Char}
    (hitem : readValue none fuel cs = .ok (item, ',' :: c :: rest)) (hc : BeginsValue c) :
    readItems none (fuel + 1) cs =
      (readItems none fuel (c :: rest)).map fun read => (item :: read.1, read.2) := by
  obtain ⟨hspace, hline, htab, hreturn, hclose⟩ := hc.not_blank
  have hcomma := skipBlanks_cons (c := ',') (by decide) (c :: rest)
  have hnext := skipBlanks_cons ⟨hspace, hline, htab, hreturn⟩ rest
  rw [readItems, hitem]
  simp only [ok_bind, hcomma, hnext]
  split
  · next heq => cases heq
  · next heq =>
    injection heq with heq
    exact absurd heq hclose
  · cases readItems none fuel (c :: rest) <;> rfl

/-- The items of a list are read if each of them is. -/
theorem readItems_writeItems {item : Json} {items : List Json}
    (hplain : ∀ j ∈ item :: items, IsPlain j) (hread : ∀ j ∈ item :: items, IsReadBack j)
    (rest : List Char) (fuel : Nat)
    (hfuel : (writeChars item ++ writeItems items).length ≤ fuel) :
    readItems none fuel (writeChars item ++ (writeItems items ++ rest)) =
      .ok (item :: items, rest) := by
  have hitem := hread item List.mem_cons_self
  induction items generalizing item fuel with
  | nil =>
      obtain _ | fuel := fuel
      · simp [writeItems] at hfuel
      have hlength : (writeChars item).length ≤ fuel := by
        simpa [writeItems] using hfuel
      rw [readItems, hitem fuel _ hlength (writeItems_ends [] rest)]
      rfl
  | cons next items ih =>
      -- what follows the comma has to begin a value, for the reader to go on
      have hnextPlain := hplain next (List.mem_cons_of_mem _ List.mem_cons_self)
      have hnextRead := hread next (List.mem_cons_of_mem _ List.mem_cons_self)
      obtain ⟨c, cs, hnext, hbegins⟩ := writeChars_begins hnextPlain
      obtain _ | fuel := fuel
      · simp [writeItems] at hfuel
      have hlength : (writeChars item).length + (writeChars next ++ writeItems items).length ≤
          fuel := by
        simp only [writeItems, List.length_append, List.length_cons] at hfuel ⊢
        omega
      have htail := ih (fun j hj => hplain j (List.mem_cons_of_mem _ hj))
        (fun j hj => hread j (List.mem_cons_of_mem _ hj)) fuel (by omega) hnextRead
      have hvalue := hitem fuel _ (by omega) (writeItems_ends (next :: items) rest)
      simp only [writeItems, List.cons_append, List.append_assoc, hnext] at hvalue htail ⊢
      rw [readItems_comma hvalue hbegins, htail]
      rfl

/-- The text of the fields of an object after the opening quote of the first name. -/
def fieldChars (name : String) (value : Json) (fields : List (String × Json)) : List Char :=
  name.toList.flatMap escape ++ '"' :: ':' :: (writeChars value ++ writeFields fields)

theorem readFields_comma {fuel : Nat} {name : String} {value : Json} {cs rest : List Char}
    (hvalue : readValue none fuel cs = .ok (value, ',' :: '"' :: rest)) :
    readFields none (fuel + 1) (name.toList.flatMap escape ++ '"' :: ':' :: cs) =
      (readFields none fuel rest).map fun read =>
        (read.1.map ((name, value) :: ·), read.2) := by
  have hcolon := skipBlanks_cons (c := ':') (by decide) cs
  have hcomma := skipBlanks_cons (c := ',') (by decide) ('"' :: rest)
  have hquote := skipBlanks_cons (c := '"') (by decide) rest
  rw [readFields, readText_writeText]
  simp only [ok_bind, hcolon, hvalue, hcomma, hquote]
  cases readFields none fuel rest <;> rfl

theorem readFields_close {fuel : Nat} {name : String} {value : Json} {cs rest : List Char}
    (hvalue : readValue none fuel cs = .ok (value, '}' :: rest)) :
    readFields none (fuel + 1) (name.toList.flatMap escape ++ '"' :: ':' :: cs) =
      .ok (some [(name, value)], rest) := by
  have hcolon := skipBlanks_cons (c := ':') (by decide) cs
  have hclose := skipBlanks_cons (c := '}') (by decide) rest
  rw [readFields, readText_writeText]
  simp only [ok_bind, hcolon, hvalue, hclose]
  rfl

/-- The fields of an object are read if the values of all of them are. -/
theorem readFields_writeFields {name : String} {value : Json} {fields : List (String × Json)}
    (hread : ∀ field ∈ (name, value) :: fields, IsReadBack field.2)
    (rest : List Char) (fuel : Nat) (hfuel : (fieldChars name value fields).length ≤ fuel) :
    readFields none fuel (fieldChars name value fields ++ rest) =
      .ok (some ((name, value) :: fields), rest) := by
  have hhead := hread (name, value) List.mem_cons_self
  induction fields generalizing name value fuel with
  | nil =>
      obtain _ | fuel := fuel
      · simp [fieldChars] at hfuel
      have hlength : (writeChars value).length ≤ fuel := by
        simp only [fieldChars, List.length_append, List.length_cons] at hfuel
        omega
      have hvalue := hhead fuel _ hlength (writeFields_ends [] rest)
      simp only [fieldChars, List.append_assoc, List.cons_append]
      exact readFields_close hvalue
  | cons next fields ih =>
      obtain ⟨next, nextValue⟩ := next
      obtain _ | fuel := fuel
      · simp [fieldChars] at hfuel
      have hlength : (writeChars value).length + (fieldChars next nextValue fields).length ≤
          fuel := by
        simp only [fieldChars, writeFields, writeText, List.length_append, List.length_cons]
          at hfuel ⊢
        omega
      have htail := ih (fun j hj => hread j (List.mem_cons_of_mem _ hj)) fuel (by omega)
        (hread _ (List.mem_cons_of_mem _ List.mem_cons_self))
      have hvalue := hhead fuel _ (show (writeChars value).length ≤ fuel by omega)
        (writeFields_ends ((next, nextValue) :: fields) rest)
      have hchars : writeFields ((next, nextValue) :: fields) ++ rest =
          ',' :: '"' :: (fieldChars next nextValue fields ++ rest) := by
        simp [writeFields, writeText, fieldChars]
      rw [hchars] at hvalue
      rw [fieldChars, List.append_assoc, List.cons_append, List.cons_append, List.append_assoc,
        hchars, readFields_comma hvalue, htail]
      rfl

/-! ## The main statement -/

theorem readWord_append (word rest : List Char) : readWord word (word ++ rest) = .ok rest := by
  induction word with
  | nil => rfl
  | cons c word ih =>
      rw [List.cons_append, readWord, if_pos rfl]
      exact ih

theorem isReadBack_of_readValue {j : Json} (hne : writeChars j ≠ [])
    (h : ∀ fuel rest, readValue none (fuel + 1) (writeChars j ++ rest) = .ok (j, rest)) :
    IsReadBack j := by
  intro fuel rest hfuel _
  obtain _ | fuel := fuel
  · exact absurd (List.eq_nil_of_length_eq_zero (Nat.le_zero.1 hfuel)) hne
  · exact h fuel rest

theorem isReadBack_null : IsReadBack .null := by
  refine isReadBack_of_readValue (by decide) fun fuel rest => ?_
  have hchars : writeChars .null = 'n' :: ['u', 'l', 'l'] := rfl
  rw [hchars, List.cons_append, readValue, skipBlanks_cons (by decide)]
  simp only [readWord_append]
  rfl

theorem isReadBack_bool (b : Bool) : IsReadBack (.bool b) := by
  refine isReadBack_of_readValue (by cases b <;> decide) fun fuel rest => ?_
  cases b with
  | false =>
      have hchars : writeChars (.bool false) = 'f' :: ['a', 'l', 's', 'e'] := rfl
      rw [hchars, List.cons_append, readValue, skipBlanks_cons (by decide)]
      simp only [readWord_append]
      rfl
  | true =>
      have hchars : writeChars (.bool true) = 't' :: ['r', 'u', 'e'] := rfl
      rw [hchars, List.cons_append, readValue, skipBlanks_cons (by decide)]
      simp only [readWord_append]
      rfl

theorem isReadBack_list {items : List Json} (hplain : ∀ j ∈ items, IsPlain j)
    (hread : ∀ j ∈ items, IsReadBack j) : IsReadBack (.list items) := by
  intro fuel rest hfuel _
  obtain _ | fuel := fuel
  · cases items <;> simp [writeChars] at hfuel
  have hopen := skipBlanks_cons (c := '[') (by decide)
  cases items with
  | nil =>
      have hclose := skipBlanks_cons (c := ']') (by decide) rest
      simp only [writeChars, List.cons_append, List.nil_append]
      rw [readValue, hopen]
      simp only [hclose]
      rfl
  | cons item items =>
      obtain ⟨c, cs, hitem, hbegins⟩ := writeChars_begins (hplain item List.mem_cons_self)
      obtain ⟨hspace, hline, htab, hreturn, hclose⟩ := hbegins.not_blank
      have hitems := readItems_writeItems hplain hread rest fuel
        (by simpa [writeChars] using hfuel)
      have hnext := skipBlanks_cons ⟨hspace, hline, htab, hreturn⟩
      simp only [writeChars, List.cons_append, List.append_assoc]
      rw [hitem, List.cons_append] at hitems ⊢
      rw [readValue, hopen]
      simp only [hnext, Option.map_none]
      rw [if_neg (by decide)]
      split
      · next heq => cases heq
      · next heq =>
        injection heq with heq
        exact absurd heq hclose
      · rw [hitems]
        rfl

theorem isReadBack_object {fields : List (String × Json)}
    (hread : ∀ field ∈ fields, IsReadBack field.2) : IsReadBack (.object fields) := by
  intro fuel rest hfuel _
  obtain _ | fuel := fuel
  · cases fields <;> simp [writeChars] at hfuel
  have hopen := skipBlanks_cons (c := '{') (by decide)
  cases fields with
  | nil =>
      have hclose := skipBlanks_cons (c := '}') (by decide) rest
      simp only [writeChars, List.cons_append, List.nil_append]
      rw [readValue, hopen]
      simp only [hclose]
      rfl
  | cons field fields =>
      obtain ⟨name, value⟩ := field
      have hchars : writeChars (.object ((name, value) :: fields)) =
          '{' :: '"' :: fieldChars name value fields := by
        simp [writeChars, writeText, fieldChars]
      rw [hchars] at hfuel ⊢
      have hfields := readFields_writeFields hread rest fuel
        (by simp only [List.length_cons] at hfuel; omega)
      have hquote := skipBlanks_cons (c := '"') (by decide)
      simp only [List.cons_append]
      rw [readValue, hopen]
      simp only [hquote, Option.map_none]
      rw [if_neg (by decide), hfields]
      rfl

/-- A plain value is read from its text, whatever follows it. -/
theorem IsPlain.isReadBack {j : Json} (h : IsPlain j) : IsReadBack j := by
  induction h with
  | null => exact isReadBack_null
  | bool b => exact isReadBack_bool b
  | int hleast hgreatest => exact isReadBack_int hleast hgreatest
  | text s => exact isReadBack_text s
  | list hitems ih => exact isReadBack_list hitems ih
  | object _ ih => exact isReadBack_object ih

/-- A plain value is read again from its compact text. -/
theorem read?_write {j : Json} (h : IsPlain j) : read? j.write = some j := by
  have hvalue := h.isReadBack (2 * (writeChars j).length + 2) [] (by omega)
    (fun c hc => by cases hc)
  rw [List.append_nil] at hvalue
  rw [read?, write, String.toList_ofList, readAll, hvalue]
  rfl

end Throttle.Json
