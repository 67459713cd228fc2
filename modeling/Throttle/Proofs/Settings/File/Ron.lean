import Throttle.Proofs.Settings.File.Common
import Throttle.Settings.File.Ron

/-!
# Reading JSON as object notation

Braces, brackets, texts, numbers and the words of JSON mean the same in object notation; only the
escapes differ.  Main statement: `readSettings_write`, a value that needs no other escapes is read
from its JSON text.
-/

namespace Throttle.Ron

/-! ## Gaps and names -/

/-- A text that begins with no gap. -/
def IsSolid (cs : List Char) : Prop :=
  ∀ c ∈ cs.head?, c ≠ ' ' ∧ c ≠ '\n' ∧ c ≠ '\t' ∧ c ≠ '\r' ∧ c ≠ '/'

theorem trim_of_isSolid {cs : List Char} (h : IsSolid cs) : trim cs = .ok cs := by
  have hdrop : (cs.dropWhile fun c => " \n\t\r".toList.contains c) = cs := by
    cases cs with
    | nil => rfl
    | cons c cs =>
        obtain ⟨hspace, hline, htab, hreturn, -⟩ := h c rfl
        rw [List.dropWhile_cons_of_neg (by simp [hspace, hline, htab, hreturn])]
  rw [trim, skipVoid, hdrop]
  split
  · exact absurd rfl (h '/' rfl).2.2.2.2
  · exact absurd rfl (h '/' rfl).2.2.2.2
  · exact absurd rfl (h '/' rfl).2.2.2.2
  · exact absurd rfl (h '/' rfl).2.2.2.2
  · rfl

theorem isSolid_of_endsValue {rest : List Char} (h : Json.EndsValue rest) : IsSolid rest := by
  intro c hc
  rcases h c hc with rfl | rfl | rfl <;> decide

/-- No name begins here. -/
theorem readName_of_not {c : Char} (halpha : c.isAlpha = false) (hline : c ≠ '_') (cs : List Char) :
    readName (c :: cs) = .error ⟨"Expected identifier", c :: cs⟩ := by
  rw [readName]
  simp [halpha, hline]

/-- A word is read to its end. -/
theorem readName_word {c : Char} {cs : List Char} (halpha : c.isAlpha = true) (hr : c ≠ 'r')
    (hname : (c :: cs).all isNameChar = true) {rest : List Char} (hrest : Json.EndsValue rest) :
    readName (c :: cs ++ rest) = .ok (String.ofList (c :: cs), rest) := by
  obtain ⟨htake, -⟩ := hrest.takeWhile_append (p := isNameChar) (by decide)
    (List.all_eq_true.1 hname)
  have hletter : (c == 'r') = false := beq_false_of_ne hr
  rw [List.cons_append] at htake ⊢
  rw [readName]
  dsimp only
  rw [htake, hletter, halpha, Bool.false_and]
  exact congrArg (fun left => Except.ok (String.ofList (c :: cs), left)) List.drop_left

/-! ## Texts -/

/-- The characters that JSON writes without an escape of its own. -/
def IsDirect (c : Char) : Prop := 32 ≤ c.toNat ∨ c = '\n' ∨ c = '\r' ∨ c = '\t'

theorem escape_cases {c : Char} (hc : IsDirect c) :
    (∃ e, shortEscapes.lookup e = some c ∧ e ≠ 'x' ∧ e ≠ 'u' ∧ Json.escape c = ['\\', e]) ∨
      c ≠ '"' ∧ c ≠ '\\' ∧ Json.escape c = [c] := by
  rcases hc with hspace | rfl | rfl | rfl
  · rcases Json.escape_cases c with ⟨e, he, hform⟩ | ⟨hcode, -⟩ | ⟨hquote, hback, -, hform⟩
    · have hall : Json.shortForms.all (fun form => decide (32 ≤ form.2.toNat →
          shortEscapes.lookup form.1 = some form.2 ∧ form.1 ≠ 'x' ∧ form.1 ≠ 'u')) = true := by
        decide
      obtain ⟨hlookup, hx, hu⟩ := of_decide_eq_true (List.all_eq_true.1 hall (e, c) he) hspace
      exact .inl ⟨e, hlookup, hx, hu, hform⟩
    · omega
    · exact .inr ⟨hquote, hback, hform⟩
  · exact .inl ⟨'n', by decide⟩
  · exact .inl ⟨'r', by decide⟩
  · exact .inl ⟨'t', by decide⟩

theorem readEscape_short {e c : Char} (hlookup : shortEscapes.lookup e = some c) (hx : e ≠ 'x')
    (hu : e ≠ 'u') (cs : List Char) : readEscape (e :: cs) = .ok (c, cs) := by
  rw [readEscape]
  · rw [hlookup]
  all_goals
    intros
    contradiction

theorem readText_written {text : List Char} (htext : ∀ c ∈ text, IsDirect c) (rest : List Char)
    {fuel : Nat} (hfuel : text.length ≤ fuel) :
    readText fuel (text.flatMap Json.escape ++ '"' :: rest) = .ok (text, rest) := by
  induction text generalizing fuel with
  | nil => cases fuel <;> rfl
  | cons c cs ih =>
      obtain _ | fuel := fuel
      · exact absurd hfuel (Nat.not_succ_le_zero _)
      have hread := ih (fun d hd => htext d (List.mem_cons_of_mem _ hd))
        (Nat.le_of_succ_le_succ hfuel)
      have hquote : (cs.flatMap Json.escape ++ '"' :: rest).contains '"' = true := by simp
      rw [List.flatMap_cons, List.append_assoc]
      rcases escape_cases (htext c List.mem_cons_self) with
        ⟨e, hlookup, hx, hu, hform⟩ | ⟨hplain, hback, hform⟩
      · rw [hform, List.cons_append, List.singleton_append]
        show (readEscape (e :: _) >>= _) = _
        rw [readEscape_short hlookup hx hu]
        show (if _ || _ then _ else _) = _
        rw [hquote, Bool.true_or, if_pos rfl, hread]
        rfl
      · rw [hform, List.singleton_append, readText, hread]
        · rfl
        · exact hplain
        · exact hback

/-! ## Values -/

/-- This value is read from its JSON text, whatever ends it. -/
def IsReadBack (j : Json) : Prop :=
  ∀ fuel rest, 2 * (Json.writeChars j).length ≤ fuel → Json.EndsValue rest →
    readValue fuel (Json.writeChars j ++ rest) = .ok (j, rest)

/-- A text is read also where it names a field. -/
theorem readValue_text {s : String} (h : ∀ c ∈ s.toList, IsDirect c) (fuel : Nat)
    (rest : List Char) : readValue (fuel + 1) (Json.writeText s ++ rest) = .ok (.text s, rest) := by
  have hlength := Json.length_le_escape s.toList
  have hread : readText ((s.toList.flatMap Json.escape ++ '"' :: rest).length + 1)
      (s.toList.flatMap Json.escape ++ '"' :: rest) = .ok (s.toList, rest) := by
    apply readText_written h
    rw [List.length_append]
    omega
  rw [Json.writeText_append, readValue, readName_of_not (by decide) (by decide)]
  show (readText _ _ >>= _) = _
  rw [hread]
  show Except.ok (Json.text (String.ofList s.toList), rest) = _
  rw [String.ofList_toList]

theorem isReadBack_text {s : String} (h : ∀ c ∈ s.toList, IsDirect c) : IsReadBack (.text s) := by
  intro fuel rest hfuel _
  obtain _ | fuel := fuel
  · exact absurd hfuel (by simp [Json.writeChars, Json.writeText])
  · exact readValue_text h fuel rest

theorem isReadBack_null : IsReadBack .null := by
  intro fuel rest hfuel hrest
  obtain _ | fuel := fuel
  · exact absurd hfuel (by decide)
  have hname : readName (Json.writeChars .null ++ rest) = .ok ("null", rest) :=
    readName_word (by decide) (by decide) (by decide) hrest
  have hround : rest.head? ≠ some '(' := by
    intro h
    rcases hrest '(' h with h | h | h <;> exact absurd h (by decide)
  rw [readValue.eq_def]
  dsimp only
  rw [hname]
  show (trim rest >>= _) = _
  rw [trim_of_isSolid (isSolid_of_endsValue hrest)]
  show (if "null" = "Some" then readOptional fuel rest
    else if rest.head? = some '(' then readRound fuel rest else .ok (.null, rest)) = _
  rw [if_neg (by decide), if_neg hround]

theorem isReadBack_bool (b : Bool) : IsReadBack (.bool b) := by
  intro fuel rest hfuel hrest
  obtain _ | fuel := fuel
  · exact absurd hfuel (by cases b <;> decide)
  cases b with
  | true =>
      have hname : readName (Json.writeChars (.bool true) ++ rest) = .ok ("true", rest) :=
        readName_word (by decide) (by decide) (by decide) hrest
      rw [readValue.eq_def]
      dsimp only
      rw [hname]
      rfl
  | false =>
      have hname : readName (Json.writeChars (.bool false) ++ rest) = .ok ("false", rest) :=
        readName_word (by decide) (by decide) (by decide) hrest
      rw [readValue.eq_def]
      dsimp only
      rw [hname]
      rfl

/-! ## Numbers -/

theorem hexValue?_of_isDigit {d : Char} (h : d.isDigit = true) :
    Text.hexValue? d = some (d.toNat - 48) := by
  have hrange : 48 ≤ d.toNat ∧ d.toNat ≤ 57 := by
    simp only [Char.isDigit, Bool.and_eq_true, decide_eq_true_eq] at h
    exact h
  rw [Text.hexValue?, if_pos hrange]

theorem foldl_hexValue? {ds : List Char} (hds : ∀ d ∈ ds, d.isDigit = true) (start : Nat) :
    (ds.filterMap Text.hexValue?).foldl (10 * · + ·) start = Decimal.valueFrom start ds := by
  induction ds generalizing start with
  | nil => rfl
  | cons d ds ih =>
      rw [List.filterMap_cons_some (hexValue?_of_isDigit (hds d List.mem_cons_self)),
        List.foldl_cons,
        ih fun e he => hds e (List.mem_cons_of_mem _ he)]
      rfl

theorem lt_of_mem_hexValues {ds : List Char} (hds : ∀ d ∈ ds, d.isDigit = true) :
    ∀ n ∈ ds.filterMap Text.hexValue?, n < 10 := by
  intro n hn
  obtain ⟨d, hd, hvalue⟩ := List.mem_filterMap.1 hn
  have hdigit := hds d hd
  rw [hexValue?_of_isDigit hdigit] at hvalue
  injection hvalue with hvalue
  simp only [Char.isDigit, Bool.and_eq_true, decide_eq_true_eq] at hdigit
  have hgreatest : d.toNat ≤ 57 := hdigit.2
  omega

section Numbers

variable {rest : List Char} (hrest : Json.EndsValue rest)

include hrest

/-- No mark of another base stands behind a zero that begins a number. -/
theorem no_base {c : Char} (hc : c ≠ ',' ∧ c ≠ ']' ∧ c ≠ '}' ∧ c.isDigit = false) (n : Nat)
    (cs : List Char) : Decimal.ofNat n ++ rest ≠ '0' :: c :: cs := by
  obtain ⟨hcomma, hlist, hobject, hdigit⟩ := hc
  intro h
  rcases Nat.eq_zero_or_pos n with rfl | hpos
  · rw [Decimal.ofNat_zero] at h
    injection h with _ h
    rcases hrest c (by rw [show rest = c :: cs from h]; rfl) with rfl | rfl | rfl
    · exact hcomma rfl
    · exact hlist rfl
    · exact hobject rfl
  · obtain ⟨d, ds, hn, -, -⟩ := Decimal.ofNat_eq_cons n
    rw [hn] at h
    injection h with hd _
    exact Decimal.head_ofNat_ne_zero hpos d (by rw [hn]; rfl) hd

theorem readBased_ofNat (negative : Bool) (n : Nat)
    (hbound : if negative then n ≤ 2 ^ 63 else n < 2 ^ 64) :
    readBased negative 10 (Decimal.ofNat n ++ rest) =
      .ok (.int (if negative then -n else n), rest) := by
  have hdigits := Decimal.isDigit_of_mem_ofNat n
  have hwhole : ∀ d ∈ Decimal.ofNat n, isWholeChar d = true := by
    intro d hd
    simp [isWholeChar, isHexDigit, hexValue?_of_isDigit (hdigits d hd)]
  have hline : ∀ d ∈ Decimal.ofNat n, d ≠ '_' := by
    rintro d hd rfl
    exact absurd (hdigits '_' hd) (by decide)
  obtain ⟨htake, -⟩ := hrest.takeWhile_append (p := isWholeChar) (by decide) hwhole
  have hplain : (Decimal.ofNat n).filter (· != '_') = Decimal.ofNat n := by
    rw [List.filter_eq_self]
    intro d hd
    simp [hline d hd]
  have hvalue : ((Decimal.ofNat n).filterMap Text.hexValue?).foldl (10 * · + ·) 0 = n := by
    rw [foldl_hexValue? hdigits, Decimal.valueFrom_ofNat]
  have hsmall : ((Decimal.ofNat n).filterMap Text.hexValue?).any (10 ≤ ·) = false := by
    rw [List.any_eq_false]
    intro m hm
    have hlt := lt_of_mem_hexValues hdigits m hm
    simpa using hlt
  have hempty : (Decimal.ofNat n).isEmpty = false := by
    simp [Decimal.ofNat_ne_nil]
  have hhead : (Decimal.ofNat n).head? ≠ some '_' := by
    intro h
    exact hline '_' (List.mem_of_mem_head? h) rfl
  have hin : ¬ if negative then Nat.pow 2 63 < n else Nat.pow 2 64 ≤ n := by
    cases negative with
    | true =>
        have hn : n ≤ 2 ^ 63 := hbound
        exact Nat.not_lt.2 hn
    | false =>
        have hn : n < 2 ^ 64 := hbound
        exact Nat.not_le.2 hn
  rw [readBased, htake, hplain, hvalue, hsmall, hempty, if_neg Bool.false_ne_true, if_neg hhead,
    if_neg Bool.false_ne_true, if_neg hin, List.drop_left]

theorem readUnsigned_ofNat (negative : Bool) (n : Nat)
    (hbound : if negative then n ≤ 2 ^ 63 else n < 2 ^ 64) :
    readUnsigned negative (Decimal.ofNat n ++ rest) =
      .ok (.int (if negative then -n else n), rest) := by
  rw [readUnsigned]
  · exact readBased_ofNat hrest negative n hbound
  all_goals exact no_base hrest (by decide) n

theorem readWhole_ofInt {i : Int} (hleast : -(2 ^ 63) ≤ i) (hgreatest : i < 2 ^ 63) :
    readWhole (Decimal.ofInt i ++ rest) = .ok (.int i, rest) := by
  cases i with
  | ofNat n =>
      obtain ⟨d, ds, hn, hplus, hminus⟩ := Decimal.ofNat_eq_cons n
      have hbound : n < 2 ^ 64 := by
        rw [Int.ofNat_eq_natCast] at hgreatest
        omega
      have hread := readUnsigned_ofNat hrest false n hbound
      rw [hn] at hread
      rw [Decimal.ofInt, hn, List.cons_append, readWhole]
      · exact hread
      · exact fun _ h => hminus (List.cons.inj h).1
      · exact fun _ h => hplus (List.cons.inj h).1
  | negSucc n =>
      have hbound : n + 1 ≤ 2 ^ 63 := by omega
      exact readUnsigned_ofNat hrest true (n + 1) hbound

/-- A number without a point or another sign is a whole one. -/
theorem readNumber_whole {start : List Char} {n : Nat}
    (hstart : start.drop ((start.take 1).filter fun c => c == '+' || c == '-').length =
      Decimal.ofNat n ++ rest) : readNumber start = readWhole start := by
  have hdigits := Decimal.isDigit_of_mem_ofNat n
  have hreal : ∀ d ∈ Decimal.ofNat n, isRealChar d = true := by
    intro d hd
    simp [isRealChar, hdigits d hd]
  have hwhole : ∀ d ∈ Decimal.ofNat n, isWholeChar d = true := by
    intro d hd
    simp [isWholeChar, isHexDigit, hexValue?_of_isDigit (hdigits d hd)]
  obtain ⟨htakeReal, -⟩ := hrest.takeWhile_append (p := isRealChar) (by decide) hreal
  obtain ⟨htakeWhole, -⟩ := hrest.takeWhile_append (p := isWholeChar) (by decide) hwhole
  rw [readNumber, hstart, htakeReal, htakeWhole, if_pos (Nat.le_refl _)]

theorem readNumber_ofInt {i : Int} (hleast : -(2 ^ 63) ≤ i) (hgreatest : i < 2 ^ 63) :
    readNumber (Decimal.ofInt i ++ rest) = .ok (.int i, rest) := by
  have hwhole := readWhole_ofInt hrest hleast hgreatest
  cases i with
  | ofNat n =>
      obtain ⟨d, ds, hn, hplus, hminus⟩ := Decimal.ofNat_eq_cons n
      have hstart : (Decimal.ofNat n ++ rest).drop
          (((Decimal.ofNat n ++ rest).take 1).filter fun c => c == '+' || c == '-').length =
            Decimal.ofNat n ++ rest := by
        simp [hn, hplus, hminus]
      exact (readNumber_whole hrest hstart).trans hwhole
  | negSucc n => exact (readNumber_whole hrest rfl).trans hwhole

end Numbers

theorem readValue_number {c : Char} (hc : c.isDigit = true ∨ c = '-') (fuel : Nat)
    (cs : List Char) : readValue (fuel + 1) (c :: cs) = readNumber (c :: cs) := by
  have hother : c.isAlpha = false ∧ c ≠ '_' ∧ c ≠ '(' ∧ c ≠ '[' ∧ c ≠ '{' ∧ c ≠ '"' ∧ c ≠ 'r' ∧
      c ≠ '\'' ∧ (c.isDigit || c == '+' || c == '-' || c == '.') = true := by
    rcases hc with hdigit | rfl
    · exact Json.of_isDigit (p := fun c => c.isAlpha = false ∧ c ≠ '_' ∧ c ≠ '(' ∧ c ≠ '[' ∧
        c ≠ '{' ∧ c ≠ '"' ∧ c ≠ 'r' ∧ c ≠ '\'' ∧
        (c.isDigit || c == '+' || c == '-' || c == '.') = true) (by decide) hdigit
    · decide
  obtain ⟨halpha, hline, hround, hlist, hobject, hdouble, hr, hsingle, hnumber⟩ := hother
  rw [readValue.eq_def]
  dsimp only
  rw [readName_of_not halpha hline]
  dsimp only
  split
  · next heq => cases heq
  · next heq => exact absurd (List.cons.inj heq).1 hround
  · next heq => exact absurd (List.cons.inj heq).1 hlist
  · next heq => exact absurd (List.cons.inj heq).1 hobject
  · next heq => exact absurd (List.cons.inj heq).1 hdouble
  · next heq => exact absurd (List.cons.inj heq).1 hr
  · next heq => exact absurd (List.cons.inj heq).1 hsingle
  · next heq =>
    injection heq with hd _
    rw [← hd, if_pos hnumber]

theorem isReadBack_int {i : Int} (hleast : -(2 ^ 63) ≤ i) (hgreatest : i < 2 ^ 63) :
    IsReadBack (.int i) := by
  intro fuel rest hfuel hrest
  have hread := readNumber_ofInt hrest hleast hgreatest
  obtain ⟨c, cs, hi, hc⟩ := Json.ofInt_begins i
  have hchars : Json.writeChars (.int i) = Decimal.ofInt i := rfl
  rw [hchars] at hfuel ⊢
  rw [hi, List.cons_append] at hread ⊢
  obtain _ | fuel := fuel
  · rw [hi] at hfuel
    exact absurd hfuel (by simp)
  · rw [readValue_number hc, hread]

/-! ## Lists and objects -/

theorem begins_of_isPlain {j : Json} (h : Json.IsPlain j) :
    ∃ c cs, Json.writeChars j = c :: cs ∧
      (c ≠ ' ' ∧ c ≠ '\n' ∧ c ≠ '\t' ∧ c ≠ '\r' ∧ c ≠ '/') ∧ c ≠ ']' := by
  obtain ⟨c, cs, hj, hc⟩ := Json.writeChars_begins h
  exact ⟨c, cs, hj, hc.elim (p := fun c =>
    (c ≠ ' ' ∧ c ≠ '\n' ∧ c ≠ '\t' ∧ c ≠ '\r' ∧ c ≠ '/') ∧ c ≠ ']') (by decide) (by decide)⟩

theorem isSolid_value {j : Json} (h : Json.IsPlain j) (rest : List Char) :
    IsSolid (Json.writeChars j ++ rest) := by
  obtain ⟨c, cs, hj, hc, -⟩ := begins_of_isPlain h
  intro d hd
  rw [hj] at hd
  cases hd
  exact hc

/-- The closing bracket ends a list. -/
theorem readItems_item {item : Json} (hplain : Json.IsPlain item) {fuel : Nat}
    {rest after : List Char} (hrest : Json.EndsValue rest)
    (hread : readValue fuel (Json.writeChars item ++ after) = .ok (item, rest)) :
    readItems ']' (fuel + 1) true (Json.writeChars item ++ after) =
      (readItems ']' fuel (rest.head? == some ',')
        (if rest.head? == some ',' then rest.drop 1 else rest)).map
          fun read => (item :: read.1, read.2) := by
  obtain ⟨c, cs, hj, -, hclose⟩ := begins_of_isPlain hplain
  have htrim := trim_of_isSolid (isSolid_value hplain after)
  rw [readItems, htrim]
  rw [hj, List.cons_append] at hread ⊢
  show (if c = ']' then _ else _) = _
  rw [if_neg hclose]
  show (readValue fuel _ >>= _) = _
  rw [hread]
  show (trim rest >>= _) = _
  rw [trim_of_isSolid (isSolid_of_endsValue hrest)]
  show (readItems ']' fuel _ _ >>= _) = _
  cases readItems ']' fuel (rest.head? == some ',')
    (if rest.head? == some ',' then rest.drop 1 else rest) <;> rfl

/-- The items of a list are read if each of them is. -/
theorem readItems_written {item : Json} {items : List Json}
    (hplain : ∀ j ∈ item :: items, Json.IsPlain j) (hread : ∀ j ∈ item :: items, IsReadBack j)
    (rest : List Char) (fuel : Nat)
    (hfuel : 2 * (Json.writeChars item ++
      Json.tailChars ']' (items.map Json.writeChars)).length ≤ fuel) :
    readItems ']' fuel true
      (Json.writeChars item ++ (Json.tailChars ']' (items.map Json.writeChars) ++ rest)) =
        .ok (item :: items, rest) := by
  have hends : ∀ items : List Json,
      Json.EndsValue (Json.tailChars ']' (items.map Json.writeChars) ++ rest) :=
    fun items => Json.tailChars_ends (.inl rfl) _ rest
  induction items generalizing item fuel with
  | nil =>
      have hitem := hread item List.mem_cons_self
      have hone : (Json.tailChars ']' (([] : List Json).map Json.writeChars)).length = 1 := rfl
      rw [List.length_append, hone] at hfuel
      obtain ⟨fuel, rfl⟩ : ∃ more, fuel = more + 2 := ⟨fuel - 2, by omega⟩
      rw [readItems_item (hplain item List.mem_cons_self) (hends [])
        (hitem (fuel + 1) _ (by omega) (hends []))]
      rfl
  | cons next items ih =>
      have hitem := hread item List.mem_cons_self
      have hmore := ih (fun j hj => hplain j (List.mem_cons_of_mem _ hj))
        (fun j hj => hread j (List.mem_cons_of_mem _ hj)) (fuel - 1)
        (by simp only [List.map_cons, Json.tailChars, List.length_append, List.length_cons] at hfuel ⊢
            omega)
      rw [List.length_append] at hfuel
      have hpositive := Json.length_le_tailChars ']' ((next :: items).map Json.writeChars)
      obtain ⟨fuel, rfl⟩ : ∃ more, fuel = more + 1 := ⟨fuel - 1, by omega⟩
      rw [readItems_item (hplain item List.mem_cons_self) (hends (next :: items))
        (hitem fuel _ (by omega) (hends (next :: items)))]
      rw [List.map_cons, Json.tailChars, List.cons_append, List.append_assoc, List.head?_cons,
        if_pos (beq_self_eq_true _), List.drop_one, List.tail_cons, beq_self_eq_true]
      rw [Nat.add_sub_cancel] at hmore
      rw [hmore]
      rfl

theorem isReadBack_list {items : List Json} (hplain : ∀ j ∈ items, Json.IsPlain j)
    (hread : ∀ j ∈ items, IsReadBack j) : IsReadBack (.list items) := by
  intro fuel rest hfuel _
  obtain _ | fuel := fuel
  · exact absurd hfuel (by cases items <;> simp [Json.writeChars])
  cases items with
  | nil =>
      obtain _ | fuel := fuel
      · exact absurd hfuel (by decide)
      · rfl
  | cons item items =>
      rw [Json.writeChars_list] at hfuel ⊢
      have hitems := readItems_written hplain hread rest fuel
        (by rw [List.length_cons] at hfuel; omega)
      rw [List.cons_append, List.append_assoc, readValue, readName_of_not (by decide) (by decide)]
      show (readItems ']' fuel true _ >>= _) = _
      rw [hitems]
      rfl

theorem readFields_field {f : String × Json} (hname : ∀ c ∈ f.1.toList, IsDirect c)
    (hplain : Json.IsPlain f.2) {fuel : Nat} {rest after : List Char} (hrest : Json.EndsValue rest)
    (hread : readValue (fuel + 2) (Json.writeChars f.2 ++ after) = .ok (f.2, rest)) :
    readFields '}' (fuel + 3) true (Json.fieldText f ++ after) =
      (readFields '}' (fuel + 2) (rest.head? == some ',')
        (if rest.head? == some ',' then rest.drop 1 else rest)).map
          fun read => (f :: read.1, read.2) := by
  have hkey : readKey '}' (fuel + 2) (Json.writeText f.1 ++ ':' :: (Json.writeChars f.2 ++ after)) =
      .ok (f.1, ':' :: (Json.writeChars f.2 ++ after)) := by
    rw [readKey, if_neg (by decide)]
    show (readValue (fuel + 1) _ >>= _) = _
    rw [readValue_text hname]
    rfl
  have hsolid : ∀ {c : Char} {cs : List Char}, c = '"' ∨ c = ':' → IsSolid (c :: cs) := by
    rintro c cs hc d hd
    cases hd
    rcases hc with rfl | rfl <;> decide
  rw [Json.fieldText, List.append_assoc, List.cons_append]
  rw [Json.writeText_append] at hkey ⊢
  rw [readFields, trim_of_isSolid (hsolid (.inl rfl)), Json.ok_bind]
  show (readKey '}' (fuel + 2) _ >>= _) = _
  simp only [hkey, Json.ok_bind, trim_of_isSolid (hsolid (.inr rfl)), List.head?_cons,
    List.drop_one, List.tail_cons, trim_of_isSolid (isSolid_value hplain after), hread,
    trim_of_isSolid (isSolid_of_endsValue hrest)]
  show (readFields '}' (fuel + 2) _ _ >>= _) = _
  cases readFields '}' (fuel + 2) (rest.head? == some ',')
    (if rest.head? == some ',' then rest.drop 1 else rest) <;> rfl

/-- The fields of an object are read if the values of all of them are. -/
theorem readFields_written {f : String × Json} {fields : List (String × Json)}
    (hnames : ∀ g ∈ f :: fields, ∀ c ∈ g.1.toList, IsDirect c)
    (hplain : ∀ g ∈ f :: fields, Json.IsPlain g.2) (hread : ∀ g ∈ f :: fields, IsReadBack g.2)
    (rest : List Char) (fuel : Nat)
    (hfuel : 2 * (Json.fieldText f ++
      Json.tailChars '}' (fields.map Json.fieldText)).length ≤ fuel) :
    readFields '}' fuel true
      (Json.fieldText f ++ (Json.tailChars '}' (fields.map Json.fieldText) ++ rest)) =
        .ok (f :: fields, rest) := by
  have hends : ∀ fields : List (String × Json),
      Json.EndsValue (Json.tailChars '}' (fields.map Json.fieldText) ++ rest) :=
    fun fields => Json.tailChars_ends (.inr rfl) _ rest
  have hlength : ∀ g : String × Json,
      (Json.writeChars g.2).length + 2 ≤ (Json.fieldText g).length := by
    intro g
    rw [Json.fieldText, List.length_append, Json.writeText, List.length_cons, List.length_cons]
    omega
  induction fields generalizing f fuel with
  | nil =>
      have hvalue := hread f List.mem_cons_self
      have hvalueLength := hlength f
      have hone : (Json.tailChars '}' (([] : List (String × Json)).map Json.fieldText)).length = 1 :=
        rfl
      rw [List.length_append, hone] at hfuel
      obtain ⟨fuel, rfl⟩ : ∃ more, fuel = more + 3 := ⟨fuel - 3, by omega⟩
      rw [readFields_field (hnames f List.mem_cons_self) (hplain f List.mem_cons_self) (hends [])
        (hvalue (fuel + 2) _ (by omega) (hends []))]
      rfl
  | cons next fields ih =>
      have hvalue := hread f List.mem_cons_self
      have hvalueLength := hlength f
      have hmore := ih (fun g hg => hnames g (List.mem_cons_of_mem _ hg))
        (fun g hg => hplain g (List.mem_cons_of_mem _ hg))
        (fun g hg => hread g (List.mem_cons_of_mem _ hg)) (fuel - 1)
        (by simp only [List.map_cons, Json.tailChars, List.length_append, List.length_cons] at hfuel ⊢
            omega)
      rw [List.length_append] at hfuel
      obtain ⟨fuel, rfl⟩ : ∃ more, fuel = more + 3 := ⟨fuel - 3, by omega⟩
      rw [readFields_field (hnames f List.mem_cons_self) (hplain f List.mem_cons_self)
        (hends (next :: fields)) (hvalue (fuel + 2) _ (by omega) (hends (next :: fields)))]
      rw [List.map_cons, Json.tailChars, List.cons_append, List.append_assoc, List.head?_cons,
        if_pos (beq_self_eq_true _), List.drop_one, List.tail_cons, beq_self_eq_true]
      have hless : fuel + 3 - 1 = fuel + 2 := rfl
      rw [hless] at hmore
      rw [hmore]
      rfl

theorem isReadBack_object {fields : List (String × Json)}
    (hnames : ∀ f ∈ fields, ∀ c ∈ f.1.toList, IsDirect c)
    (hplain : ∀ f ∈ fields, Json.IsPlain f.2) (hread : ∀ f ∈ fields, IsReadBack f.2) :
    IsReadBack (.object fields) := by
  intro fuel rest hfuel _
  obtain _ | fuel := fuel
  · exact absurd hfuel (by cases fields <;> simp [Json.writeChars])
  cases fields with
  | nil =>
      obtain _ | fuel := fuel
      · exact absurd hfuel (by decide)
      · rfl
  | cons f fields =>
      rw [Json.writeChars_object] at hfuel ⊢
      have hfields := readFields_written hnames hplain hread rest fuel
        (by rw [List.length_cons] at hfuel; omega)
      rw [List.cons_append, List.append_assoc, readValue, readName_of_not (by decide) (by decide)]
      show (readFields '}' fuel true _ >>= _) = _
      rw [hfields]
      rfl

/-! ## The main statement -/

theorem isReadBack {j : Json} (h : Json.IsCommon IsDirect j) : IsReadBack j := by
  induction h with
  | null => exact isReadBack_null
  | bool b => exact isReadBack_bool b
  | int hleast hgreatest => exact isReadBack_int hleast hgreatest
  | text hs => exact isReadBack_text hs
  | list hitems ih => exact isReadBack_list (fun item h => (hitems item h).isPlain) ih
  | object hnames hfields ih =>
      exact isReadBack_object hnames (fun f h => (hfields f h).isPlain) ih

/-- A value whose texts need no other escapes is read from its JSON text. -/
theorem readSettings_write {j : Json} (h : Json.IsCommon IsDirect j) :
    readSettings j.write = .ok j := by
  have hsolid : IsSolid (Json.writeChars j) := by
    have hvalue := isSolid_value h.isPlain []
    rwa [List.append_nil] at hvalue
  have hread := isReadBack h (4 * (Json.writeChars j).length + 4) [] (by omega)
    (fun c hc => by cases hc)
  rw [List.append_nil] at hread
  have hend : trim [] = .ok [] := trim_of_isSolid fun c hc => by cases hc
  rw [readSettings, Json.write, String.toList_ofList]
  simp only [trim_of_isSolid hsolid, hread, hend, Json.ok_bind]
  rfl

end Throttle.Ron
