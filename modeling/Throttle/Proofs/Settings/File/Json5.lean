import Throttle.Proofs.Settings.File.Json5.Reading

/-!
# Reading JSON as JSON5

JSON5 adds to JSON, and takes away nothing but two characters that end a line.  Main statement:
`readSettings_write`, a value without these characters is read from its JSON text.
-/

namespace Throttle.Json5

namespace Reading

/-! ## Texts -/

section Texts

variable {c : Char} {cs rest : List Char}

theorem reads_hexDigits (hc : c.toNat < 32) (rest : List Char) :
    Reads (hexDigits 4) ((Json.escapeCode c).drop 2 ++ rest) c.toNat rest := by
  obtain ⟨high, low, h, l, hform, hzero, hhigh, hlow, hvalue⟩ :=
    Json.exists_digits (c := c) (by omega)
  rw [hform]
  apply reads_get_bind
  intro scan hscan
  have hdigits : (scan.rest.take 4).filterMap Text.hexValue? = [0, 0, h, l] := by
    simp [hscan, hhigh, hlow, hzero]
  have hskip : (scan.skip 4).rest = rest := by
    simp [Scan.skip, hscan]
  have hfold : [0, 0, h, l].foldl (16 * · + ·) 0 = c.toNat := by
    simpa using hvalue
  dsimp only
  rw [hdigits, if_neg (by simp), hfold]
  refine (reads_set (scan.skip 4) _).bind ?_
  rw [hskip]
  exact reads_pure c.toNat rest

theorem reads_shortEscape {e : Char} (h : (e, c) ∈ Json.shortForms) (rest : List Char) :
    Reads escape (e :: rest) c.toNat rest := by
  have hall : ∀ form ∈ Json.shortForms, isEscapable form.1 = true ∧
      (shortEscapes.lookup form.1).getD form.1.toNat = form.2.toNat := by
    rw [Json.shortForms]
    simp only [List.forall_mem_cons]
    decide
  obtain ⟨hescapable, hvalue⟩ := hall (e, c) h
  refine (Reads.lookFor _ ?_).orElse
  rw [← hvalue]
  exact (reads_charWith hescapable rest).bind (reads_pure _ _)

theorem reads_codeEscape (hc : c.toNat < 32) (rest : List Char) :
    Reads escape ('u' :: ((Json.escapeCode c).drop 2 ++ rest)) c.toNat rest := by
  have hletter : Declines (charWith isEscapable) ('u' :: ((Json.escapeCode c).drop 2 ++ rest)) := by
    apply declines_charWith
    intro d hd
    cases hd
    decide
  have hzero : Declines (word "0") ('u' :: ((Json.escapeCode c).drop 2 ++ rest)) :=
    declines_word_cons rfl (by decide)
  have hx : Declines (word "x") ('u' :: ((Json.escapeCode c).drop 2 ++ rest)) :=
    declines_word_cons rfl (by decide)
  refine (hletter.bind.fails.lookFor _).orElse ?_
  refine (hzero.bind.fails.lookFor _).orElse ?_
  refine hx.bind.fails.backtrack.orElse ?_
  exact (reads_word "u" _).bind ((reads_hexDigits hc rest).lookFor _)

/-- The characters that end a line although JSON has them in texts. -/
def IsOpen (c : Char) : Prop := c ≠ '\u2028' ∧ c ≠ '\u2029'

theorem isTextChar (hback : c ≠ '\\') (hspace : 32 ≤ c.toNat) (hc : IsOpen c) :
    (c != '\\' && !Scan.isBreak c) = true := by
  have hline : c ≠ '\n' := by
    rintro rfl
    exact absurd hspace (by decide)
  have hreturn : c ≠ '\r' := by
    rintro rfl
    exact absurd hspace (by decide)
  simp [Scan.isBreak, hback, hline, hreturn, hc.1, hc.2]

/-- A character is read from the form that it has inside a text. -/
theorem reads_textChar (hc : IsOpen c) (rest : List Char) :
    Reads (textChar '"') (Json.escape c ++ rest) [c.toNat] rest := by
  rcases Json.escape_cases c with ⟨e, he, hform⟩ | ⟨hcode, hform⟩ | ⟨hquote, hback, hspace, hform⟩
  · rw [hform]
    apply Reads.orElse
    apply Reads.backtrack
    exact (reads_word "\\" _).bind ((reads_shortEscape he rest).bind (reads_pure _ _))
  · rw [hform]
    apply Reads.orElse
    apply Reads.backtrack
    exact (reads_word "\\" _).bind ((reads_codeEscape hcode rest).bind (reads_pure _ _))
  · rw [hform, List.singleton_append]
    have hbackslash : Declines (word "\\") (c :: rest) := declines_word_cons rfl hback
    refine hbackslash.bind.fails.backtrack.orElse ?_
    refine hbackslash.bind.fails.backtrack.orElse ?_
    apply reads_get_bind
    intro scan hscan
    rw [hscan, if_neg (by simpa using hquote)]
    exact ((reads_charWith (isTextChar hback hspace hc) rest).lookFor _).bind (reads_pure _ _)

theorem declines_textChar (rest : List Char) : Declines (textChar '"') ('"' :: rest) := by
  have hbackslash : Declines (word "\\") ('"' :: rest) := declines_word_cons rfl (by decide)
  refine hbackslash.bind.fails.backtrack.orElse_declines ?_
  refine hbackslash.bind.fails.backtrack.orElse_declines ?_
  intro scan hscan
  refine ⟨scan, ?_, hscan⟩
  show (if scan.rest.head? = some '"' then failure else _ : Reading (List Nat)).run scan = _
  rw [hscan, List.head?_cons, if_pos rfl]
  rfl

theorem reads_textChars {text : List Char} (htext : ∀ c ∈ text, IsOpen c) (rest : List Char)
    {fuel : Nat} (hfuel : text.length < fuel) :
    Reads (textChars '"' fuel) (text.flatMap Json.escape ++ '"' :: rest) (text.map Char.toNat)
      ('"' :: rest) := by
  induction text generalizing fuel with
  | nil =>
      obtain _ | fuel := fuel
      · exact absurd hfuel (Nat.not_lt_zero _)
      · exact (declines_textChar rest).fails.optional.bind (reads_pure _ _)
  | cons c cs ih =>
      obtain _ | fuel := fuel
      · exact absurd hfuel (Nat.not_lt_zero _)
      have hchar := reads_textChar (htext c List.mem_cons_self)
        (cs.flatMap Json.escape ++ '"' :: rest)
      have hchars := ih (fun d hd => htext d (List.mem_cons_of_mem _ hd))
        (Nat.lt_of_succ_lt_succ hfuel)
      rw [List.flatMap_cons, List.append_assoc]
      exact hchar.optional.bind (hchars.bind (reads_pure _ _))

theorem reads_text {s : String} (h : ∀ c ∈ s.toList, IsOpen c) (rest : List Char) :
    Reads text (Json.writeText s ++ rest) (s.toList.map Char.toNat) rest := by
  have hlength := Json.length_le_escape s.toList
  rw [Json.writeText_append]
  apply Reads.lookFor
  refine (reads_charWith (by decide) _).bind ?_
  apply reads_get_bind
  intro scan hscan
  have hchars : Reads (textChars '"' (scan.rest.length + 1)) _ _ _ :=
    reads_textChars h rest (by rw [hscan, List.length_append]; omega)
  refine hchars.bind ?_
  exact ((reads_charWith (by decide) rest).map _).bind (reads_pure _ _)

end Texts

/-! ## Numbers -/

section Numbers

variable {rest : List Char} (hrest : Json.EndsValue rest)

include hrest

theorem reads_wholePart (n : Nat) :
    Reads wholePart (Decimal.ofNat n ++ rest) (Decimal.ofNat n) rest := by
  rcases Nat.eq_zero_or_pos n with rfl | hpos
  · rw [Decimal.ofNat_zero]
    exact (reads_charWith (by decide) rest).bind (reads_pure _ _)
  · obtain ⟨d, ds, hn, -, -⟩ := Decimal.ofNat_eq_cons n
    have hzero : d ≠ '0' := Decimal.head_ofNat_ne_zero hpos d (by rw [hn]; rfl)
    have hdigits := Decimal.isDigit_of_mem_ofNat n
    rw [hn] at hdigits
    obtain ⟨htake, hdrop⟩ := hrest.takeWhile_append (p := Char.isDigit) (by decide)
      fun e he => hdigits e (List.mem_cons_of_mem _ he)
    have hmore := reads_charsWith Char.isDigit (ds ++ rest)
    rw [htake, hdrop] at hmore
    rw [hn, List.cons_append]
    refine (reads_charWith (hdigits d List.mem_cons_self) _).bind ?_
    rw [if_neg hzero]
    exact hmore.bind (reads_pure _ _)

theorem fails_hexadecimal (n : Nat) :
    Fails (do
      let zero ← charWith (· == '0')
      let mark ← charWith fun c => c == 'x' || c == 'X'
      return zero :: mark :: (← digits fun c => (Text.hexValue? c).isSome))
      (Decimal.ofNat n ++ rest) := by
  by_cases hzero : n = 0
  · rw [hzero, Decimal.ofNat_zero]
    refine (reads_charWith (by decide) rest).bind_fails ?_
    exact (declines_charWith (hrest.not_goesOn (by decide))).bind.fails
  · refine (declines_charWith ?_).bind.fails
    intro d hd
    obtain ⟨e, es, hn, -, -⟩ := Decimal.ofNat_eq_cons n
    rw [hn] at hd
    cases hd
    exact beq_false_of_ne (Decimal.head_ofNat_ne_zero (Nat.pos_of_ne_zero hzero) d (by rw [hn]; rfl))

theorem reads_unsigned (n : Nat) :
    Reads unsigned (Decimal.ofNat n ++ rest) (Decimal.ofNat n) rest := by
  have hwhole := reads_wholePart hrest n
  have hpoint : Declines (charWith (· == '.')) rest :=
    declines_charWith (hrest.not_goesOn (by decide))
  have hexponent : Declines exponent rest :=
    (declines_charWith (hrest.not_goesOn (by decide))).bind
  have hbegins : Declines (charWith (· == '.')) (Decimal.ofNat n ++ rest) := by
    apply declines_charWith
    intro d hd
    obtain ⟨e, es, hn, -, -⟩ := Decimal.ofNat_eq_cons n
    have hdigit := Decimal.isDigit_of_mem_ofNat n e (by rw [hn]; exact List.mem_cons_self)
    rw [hn] at hd
    cases hd
    apply beq_false_of_ne
    rintro rfl
    exact absurd hdigit (by decide)
  refine (fails_hexadecimal hrest n).backtrack.orElse ?_
  refine (hwhole.bind_fails hpoint.bind.fails).backtrack.orElse ?_
  refine hbegins.bind.fails.backtrack.orElse ?_
  refine (Reads.backtrack ?_).orElse
  have hpure := reads_pure (Decimal.ofNat n ++ []) rest
  rw [List.append_nil] at hpure
  exact hwhole.bind (hexponent.fails.optional.bind (by simpa using hpure))

theorem reads_number (i : Int) :
    Reads number (Decimal.ofInt i ++ rest) (Decimal.ofInt i) rest := by
  apply Reads.lookFor
  cases i with
  | ofNat n =>
      have hsign : Declines (charWith fun c => c == '+' || c == '-') (Decimal.ofNat n ++ rest) := by
        apply declines_charWith
        intro d hd
        obtain ⟨e, es, hn, hplus, hminus⟩ := Decimal.ofNat_eq_cons n
        rw [hn] at hd
        cases hd
        simp [hplus, hminus]
      exact hsign.fails.optional.bind ((reads_unsigned hrest n).bind (reads_pure _ _))
  | negSucc n =>
      have hsign : Reads (charWith fun c => c == '+' || c == '-')
          ('-' :: (Decimal.ofNat (n + 1) ++ rest)) '-' (Decimal.ofNat (n + 1) ++ rest) :=
        reads_charWith (by decide) _
      exact hsign.optional.bind ((reads_unsigned hrest (n + 1)).bind (reads_pure _ _))

end Numbers

/-! ## Values -/

/-- This value is read from its JSON text, whatever ends it. -/
def IsReadBack (j : Json) : Prop :=
  ∀ fuel rest, (Json.writeChars j).length ≤ fuel → Json.EndsValue rest →
    Reads (value fuel) (Json.writeChars j ++ rest) (.ok j) rest

section Alternatives

variable {c : Char} {cs : List Char}

theorem fails_truth (htrue : c ≠ 't') (hfalse : c ≠ 'f') :
    Fails (do
      let isTrue ← optional (word "true")
      if isTrue.isNone then word "false"
      return (.ok (.bool isTrue.isSome) : Except String Json)) (c :: cs) := by
  have hfirst : Declines (word "true") (c :: cs) := declines_word_cons rfl htrue
  have hsecond : Declines (word "false") (c :: cs) := declines_word_cons rfl hfalse
  exact hfirst.fails.optional.bind_fails hsecond.bind.fails

theorem declines_text (hdouble : c ≠ '"') (hsingle : c ≠ '\'') : Declines text (c :: cs) := by
  apply Fails.lookFor
  refine (declines_charWith ?_).bind.fails
  intro d hd
  cases hd
  simp [hdouble, hsingle]

theorem declines_number (h : c = '[' ∨ c = '{') : Declines number (c :: cs) := by
  have hchar : ∀ {p : Char → Bool}, p '[' = false ∧ p '{' = false →
      Declines (charWith p) (c :: cs) := by
    intro p hp
    apply declines_charWith
    intro d hd
    cases hd
    rcases h with rfl | rfl
    · exact hp.1
    · exact hp.2
  have hword : ∀ {s : String} {d : Char}, s.toList.head? = some d → d ≠ '[' ∧ d ≠ '{' →
      Declines (word s) (c :: cs) := by
    intro s d hs hd
    apply declines_word_cons hs
    rcases h with rfl | rfl
    · exact hd.1.symm
    · exact hd.2.symm
  apply Fails.lookFor
  refine (hchar (by decide)).fails.optional.bind_fails (Fails.bind ?_)
  refine (hchar (by decide)).bind.fails.backtrack.orElse_fails ?_
  refine (hchar (by decide)).bind.bind.fails.backtrack.orElse_fails ?_
  refine (hchar (by decide)).bind.fails.backtrack.orElse_fails ?_
  refine (hchar (by decide)).bind.bind.fails.backtrack.orElse_fails ?_
  refine (hword rfl (by decide)).bind.fails.backtrack.orElse_fails ?_
  exact (hword rfl (by decide)).bind.fails

end Alternatives

theorem isReadBack_null : IsReadBack .null := by
  intro fuel rest hfuel _
  obtain _ | fuel := fuel
  · exact absurd hfuel (by decide)
  apply Reads.orElse
  apply Reads.lookFor
  exact (reads_word "null" rest).bind (reads_pure _ _)

theorem isReadBack_bool (b : Bool) : IsReadBack (.bool b) := by
  intro fuel rest hfuel _
  obtain _ | fuel := fuel
  · exact absurd hfuel (by cases b <;> decide)
  have hnull : ∀ {c : Char} {cs : List Char}, c ≠ 'n' → Declines (word "null") (c :: cs) :=
    fun hc => declines_word_cons rfl hc
  cases b with
  | true =>
      refine ((hnull (by decide)).bind.fails.lookFor _).orElse ?_
      apply Reads.orElse
      apply Reads.lookFor
      exact (reads_word "true" rest).optional.bind (reads_pure _ _)
  | false =>
      refine ((hnull (by decide)).bind.fails.lookFor _).orElse ?_
      apply Reads.orElse
      apply Reads.lookFor
      have htrue : Declines (word "true") ("false".toList ++ rest) :=
        declines_word_cons rfl (by decide)
      exact htrue.fails.optional.bind ((reads_word "false" rest).bind (reads_pure _ _))

theorem textOf?_cons (c : Char) (units : List Nat) :
    textOf? (c.toNat :: units) = (textOf? units).map (c :: ·) := by
  have hvalid : c.toNat < 0xD800 ∨ 0xDFFF < c.toNat ∧ c.toNat < 0x110000 := c.valid
  rw [textOf?.eq_def]
  dsimp only
  rw [if_neg (by omega), if_neg (by omega), Char.ofNat_toNat]

theorem textOf?_map (cs : List Char) : textOf? (cs.map Char.toNat) = .ok cs := by
  induction cs with
  | nil => rfl
  | cons c cs ih =>
      rw [List.map_cons, textOf?_cons, ih]
      rfl

theorem isReadBack_text {s : String} (h : ∀ c ∈ s.toList, IsOpen c) : IsReadBack (.text s) := by
  intro fuel rest hfuel _
  obtain _ | fuel := fuel
  · exact absurd hfuel (by simp [Json.writeChars, Json.writeText])
  have hread := reads_text h rest
  have hchars : Json.writeChars (.text s) ++ rest = Json.writeText s ++ rest := rfl
  have hnull : Declines (word "null") (Json.writeText s ++ rest) :=
    declines_word_cons rfl (by decide)
  have hvalue : (textOf? (s.toList.map Char.toNat)).map
      (fun cs => Json.text (String.ofList cs)) = .ok (.text s) := by
    rw [textOf?_map]
    show Except.ok (Json.text (String.ofList s.toList)) = _
    rw [String.ofList_toList]
  rw [hchars]
  refine (hnull.bind.fails.lookFor _).orElse ?_
  refine ((fails_truth (by decide) (by decide)).lookFor _).orElse ?_
  apply Reads.orElse
  rw [← hvalue]
  exact hread.bind (reads_pure _ _)

theorem numberOf?_ofInt {i : Int} (hleast : -(2 ^ 63) ≤ i) (hgreatest : i < 2 ^ 63) :
    numberOf? (Decimal.ofInt i) = .ok (.int i) := by
  have hchars : ∀ c ∈ Decimal.ofInt i, c = '-' ∨ c.isDigit = true := by
    intro c hc
    apply Decimal.eq_minus_or_isDigit_of_mem_intText
    rwa [Decimal.intText, String.toList_ofList]
  have hnot : ∀ c, c ≠ '-' → c.isDigit = false → c ∉ Decimal.ofInt i := by
    intro c hminus hdigit hc
    rcases hchars c hc with rfl | h
    · exact hminus rfl
    · rw [hdigit] at h
      cases h
  have htake : ∀ c, c ≠ '-' → c.isDigit = false → (Decimal.ofInt i).take 2 ≠ ['0', c] := by
    intro c hminus hdigit h
    have hmem : c ∈ (Decimal.ofInt i).take 2 := by simp [h]
    exact hnot c hminus hdigit (List.mem_of_mem_take hmem)
  have hhex : ¬ ((Decimal.ofInt i).take 2 = ['0', 'x'] ∨ (Decimal.ofInt i).take 2 = ['0', 'X']) :=
    not_or.2 ⟨htake 'x' (by decide) (by decide), htake 'X' (by decide) (by decide)⟩
  have hwhole : (!(Decimal.ofInt i).contains '.' && !(Decimal.ofInt i).contains 'e' &&
      !(Decimal.ofInt i).contains 'E') = true := by
    simp [hnot '.' (by decide) (by decide), hnot 'e' (by decide) (by decide),
      hnot 'E' (by decide) (by decide)]
  have hword : ∀ {s : String} {c : Char}, c ∈ s.toList → c ≠ '-' → c.isDigit = false →
      (Decimal.ofInt i).dropWhile (· == '-') ≠ s.toList := by
    intro s c hc hminus hdigit h
    exact hnot c hminus hdigit ((List.dropWhile_sublist _).subset (h ▸ hc))
  have hinteger : Decimal.integer? (-(Nat.pow 2 63)) (Nat.pow 2 63 - 1)
      (String.ofList (Decimal.ofInt i)) = some i := by
    apply Decimal.integer?_intText
    · exact hleast
    · have hpow : ((Nat.pow 2 63 : Nat) : Int) = 2 ^ 63 := by decide
      omega
  rw [numberOf?]
  dsimp only
  rw [if_neg hhex, if_pos ⟨hwhole, hword (c := 'I') (by decide) (by decide) (by decide),
    hword (c := 'N') (by decide) (by decide) (by decide)⟩, hinteger]

theorem isReadBack_int {i : Int} (hleast : -(2 ^ 63) ≤ i) (hgreatest : i < 2 ^ 63) :
    IsReadBack (.int i) := by
  intro fuel rest hfuel hrest
  have hread := reads_number hrest i
  obtain ⟨c, cs, hi, hc⟩ := Json.ofInt_begins i
  have hchars : Json.writeChars (.int i) = Decimal.ofInt i := rfl
  obtain _ | fuel := fuel
  · rw [hchars, hi] at hfuel
    exact absurd hfuel (by simp)
  have hne : c ≠ 'n' ∧ c ≠ 't' ∧ c ≠ 'f' ∧ c ≠ '"' ∧ c ≠ '\'' := by
    rcases hc with hdigit | rfl
    · exact Json.of_isDigit (p := fun c => c ≠ 'n' ∧ c ≠ 't' ∧ c ≠ 'f' ∧ c ≠ '"' ∧ c ≠ '\'')
        (by decide) hdigit
    · decide
  obtain ⟨hn, ht, hf, hdouble, hsingle⟩ := hne
  have hnull : Declines (word "null") (Decimal.ofInt i ++ rest) := by
    rw [hi]
    exact declines_word_cons rfl hn
  rw [hchars]
  refine (hnull.bind.fails.lookFor _).orElse ?_
  rw [hi] at hread ⊢
  refine ((fails_truth ht hf).lookFor _).orElse ?_
  refine (declines_text hdouble hsingle).bind.orElse ?_
  apply Reads.orElse
  rw [← numberOf?_ofInt hleast hgreatest]
  rw [hi]
  exact hread.bind (reads_pure _ _)

theorem begins_of_isPlain {j : Json} (h : Json.IsPlain j) :
    ∃ c cs, Json.writeChars j = c :: cs ∧ Scan.isBlank c = false ∧ c ≠ '/' ∧ c ≠ ']' ∧ c ≠ '}' := by
  obtain ⟨c, cs, hj, hc⟩ := Json.writeChars_begins h
  exact ⟨c, cs, hj, hc.elim (p := fun c => Scan.isBlank c = false ∧ c ≠ '/' ∧ c ≠ ']' ∧ c ≠ '}')
    (by decide) (by decide)⟩

theorem mapM_id_ok {α : Type} (items : List α) :
    (items.map (Except.ok : α → Except String α)).mapM id = .ok items := by
  induction items with
  | nil => rfl
  | cons item items ih =>
      rw [List.map_cons, List.mapM_cons, ih]
      rfl

/-- The part of a list that a value is. -/
def itemPart (item : Json) : List Char × Except String Json := (Json.writeChars item, .ok item)

theorem isPart_item {item : Json} (hplain : Json.IsPlain item) (hread : IsReadBack item)
    {fuel : Nat}
    (hfuel : (Json.writeChars item).length ≤ fuel) : IsPart (value fuel) (itemPart item) where
  begins := begins_of_isPlain hplain
  reads := fun rest hrest => hread fuel rest hfuel hrest

theorem reads_items {items : List Json} (hplain : ∀ item ∈ items, Json.IsPlain item)
    (hread : ∀ item ∈ items, IsReadBack item) {fuel : Nat}
    (hfuel : (Json.writeChars (.list items)).length ≤ fuel + 1) (rest : List Char) :
    Reads (between "[" "]" (value fuel)) (Json.writeChars (.list items) ++ rest)
      (items.map .ok) rest := by
  cases items with
  | nil => exact reads_between_nil (.inl rfl) rfl rfl _ rest
  | cons item items =>
      rw [Json.writeChars_list, List.length_cons, List.length_append] at hfuel
      have hparts : ∀ part ∈ itemPart item :: items.map itemPart, IsPart (value fuel) part := by
        rw [← List.map_cons, List.forall_mem_map]
        intro other hother
        apply isPart_item (hplain other hother) (hread other hother)
        rcases List.mem_cons.1 hother with rfl | hmem
        · omega
        · have hlength : (Json.writeChars other).length <
              (Json.tailChars ']' (items.map Json.writeChars)).length :=
            Json.length_le_of_mem (List.mem_map_of_mem hmem)
          omega
      have htexts : items.map Json.writeChars = (items.map itemPart).map Prod.fst := by
        rw [List.map_map]
        rfl
      have hvalues : items.map Except.ok = (items.map itemPart).map Prod.snd := by
        rw [List.map_map]
        rfl
      rw [Json.writeChars_list, List.cons_append, List.append_assoc, List.map_cons, htexts, hvalues]
      exact reads_between_cons (.inl rfl) rfl rfl hparts rest

/-- What is read of a value that begins with a bracket after the alternatives that do not. -/
theorem reads_bracket {c : Char} (hc : c = '[' ∨ c = '{') {fuel : Nat} {cs rest : List Char}
    {found : Except String Json}
    (h : Reads
      (lookFor .object (do
        let fields ← between "\x7b" "\x7d" do
          let key ← name <|> text
          skipVoid
          word ":"
          skipVoid
          return (key, ← value fuel)
        let pairs : Except String (List (String × Json)) := fields.mapM fun (key, value) => do
          return (String.ofList (← textOf? key), ← value)
        return pairs.map .object) <|>
      lookFor .list (do
        let items ← between "[" "]" (value fuel)
        let values : Except String (List Json) := items.mapM id
        return values.map .list)) (c :: cs) found rest) :
    Reads (value (fuel + 1)) (c :: cs) found rest := by
  have hne : ∀ d, d ≠ '[' ∧ d ≠ '{' → c ≠ d := by
    rintro d hd rfl
    exact hc.elim hd.1 hd.2
  have hnull : Declines (word "null") (c :: cs) :=
    declines_word_cons rfl (hne 'n' (by decide))
  have htext : Declines text (c :: cs) := declines_text (hne '"' (by decide)) (hne '\'' (by decide))
  refine (hnull.bind.fails.lookFor _).orElse ?_
  refine ((fails_truth (hne 't' (by decide)) (hne 'f' (by decide))).lookFor _).orElse ?_
  refine htext.bind.orElse ?_
  exact (declines_number hc).bind.orElse h

theorem isReadBack_list {items : List Json} (hplain : ∀ item ∈ items, Json.IsPlain item)
    (hread : ∀ item ∈ items, IsReadBack item) : IsReadBack (.list items) := by
  intro fuel rest hfuel hrest
  obtain _ | fuel := fuel
  · exact absurd hfuel (by cases items <;> simp [Json.writeChars])
  have hitems := reads_items hplain hread hfuel rest
  have hvalue : ((items.map Except.ok).mapM id : Except String (List Json)).map Json.list =
      .ok (.list items) := by
    rw [mapM_id_ok]
    rfl
  obtain ⟨cs, hchars⟩ : ∃ cs, Json.writeChars (.list items) = '[' :: cs := by
    cases items <;> exact ⟨_, rfl⟩
  rw [hchars, List.cons_append] at hitems ⊢
  have hobject : Declines (word "\x7b") ('[' :: (cs ++ rest)) := declines_word_cons rfl (by decide)
  apply reads_bracket (.inl rfl)
  refine Declines.orElse (Fails.lookFor _ (Fails.bind ?_)) ?_
  · exact hobject.bind.fails.backtrack.orElse_fails hobject.bind.fails
  · apply Reads.lookFor
    rw [← hvalue]
    exact hitems.bind (reads_pure _ _)

/-- A field of an object: its name, and its value. -/
def field (fuel : Nat) : Reading (List Nat × Except String Json) := do
  let key ← name <|> text
  skipVoid
  word ":"
  skipVoid
  return (key, ← value fuel)

/-- The part of an object that a field is. -/
def fieldPart (field : String × Json) : List Char × (List Nat × Except String Json) :=
  (Json.fieldText field, (field.1.toList.map Char.toNat, .ok field.2))

theorem declines_name (cs : List Char) : Declines name ('"' :: cs) := by
  have hchar : Declines (charWith isNameStart) ('"' :: cs) := by
    apply declines_charWith
    intro c hc
    cases hc
    decide
  have hword : Declines (word "\\u") ('"' :: cs) := declines_word_cons rfl (by decide)
  apply Fails.lookFor
  exact ((hchar.map _).fails.backtrack.orElse_fails hword.bind.fails).bind

theorem isPart_field {f : String × Json} (hname : ∀ c ∈ f.1.toList, IsOpen c)
    (hplain : Json.IsPlain f.2) (hread : IsReadBack f.2) {fuel : Nat}
    (hfuel : (Json.fieldText f).length ≤ fuel) : IsPart (field fuel) (fieldPart f) where
  begins := ⟨'"', _, rfl, by decide, by decide, by decide, by decide⟩
  reads := by
    intro rest hrest
    have hlength : (Json.writeChars f.2).length ≤ fuel := by
      rw [Json.fieldText, List.length_append, List.length_cons] at hfuel
      omega
    obtain ⟨c, cs, hbegins, hblank, hslash, -⟩ := begins_of_isPlain hplain
    have hsolid : IsSolid (Json.writeChars f.2 ++ rest) := by
      rw [hbegins]
      exact isSolid_cons hblank hslash _
    show Reads (field fuel) (Json.fieldText f ++ rest) _ _
    rw [Json.fieldText, List.append_assoc, List.cons_append]
    have hkey : Reads (name <|> text)
        (Json.writeText f.1 ++ ':' :: (Json.writeChars f.2 ++ rest)) _ _ :=
      Declines.orElse (declines_name _) (reads_text hname _)
    refine hkey.bind ?_
    refine (reads_skipVoid (isSolid_cons (by decide) (by decide) _)).bind ?_
    refine (reads_word ":" _).bind ?_
    refine (reads_skipVoid hsolid).bind ?_
    exact (hread fuel rest hlength hrest).bind (reads_pure _ _)

theorem reads_fields {fields : List (String × Json)}
    (hnames : ∀ f ∈ fields, ∀ c ∈ f.1.toList, IsOpen c) (hplain : ∀ f ∈ fields, Json.IsPlain f.2)
    (hread : ∀ f ∈ fields, IsReadBack f.2) {fuel : Nat}
    (hfuel : (Json.writeChars (.object fields)).length ≤ fuel + 1) (rest : List Char) :
    Reads (between "\x7b" "\x7d" (field fuel)) (Json.writeChars (.object fields) ++ rest)
      (fields.map fun f => (fieldPart f).2) rest := by
  cases fields with
  | nil => exact reads_between_nil (.inr rfl) rfl rfl _ rest
  | cons f fields =>
      rw [Json.writeChars_object, List.length_cons, List.length_append] at hfuel
      have hparts : ∀ part ∈ fieldPart f :: fields.map fieldPart, IsPart (field fuel) part := by
        rw [← List.map_cons, List.forall_mem_map]
        intro other hother
        apply isPart_field (hnames other hother) (hplain other hother) (hread other hother)
        rcases List.mem_cons.1 hother with rfl | hmem
        · omega
        · have hlength : (Json.fieldText other).length <
              (Json.tailChars '}' (fields.map Json.fieldText)).length :=
            Json.length_le_of_mem (List.mem_map_of_mem hmem)
          omega
      have htexts : fields.map Json.fieldText = (fields.map fieldPart).map Prod.fst := by
        rw [List.map_map]
        rfl
      have hvalues :
          fields.map (fun f => (fieldPart f).2) = (fields.map fieldPart).map Prod.snd := by
        rw [List.map_map]
        rfl
      rw [Json.writeChars_object, List.cons_append, List.append_assoc, List.map_cons, htexts,
        hvalues]
      exact reads_between_cons (.inr rfl) rfl rfl hparts rest

theorem mapM_fields (fields : List (String × Json)) :
    ((fields.map fun f => (fieldPart f).2).mapM fun (key, value) => do
      return (String.ofList (← textOf? key), ← value) : Except String (List (String × Json))) =
      .ok fields := by
  induction fields with
  | nil => rfl
  | cons f fields ih =>
      rw [List.map_cons, List.mapM_cons, ih]
      show (textOf? (f.1.toList.map Char.toNat) >>= _) >>= _ = _
      rw [textOf?_map]
      show Except.ok ((String.ofList f.1.toList, f.2) :: fields) = _
      rw [String.ofList_toList]

theorem isReadBack_object {fields : List (String × Json)}
    (hnames : ∀ f ∈ fields, ∀ c ∈ f.1.toList, IsOpen c) (hplain : ∀ f ∈ fields, Json.IsPlain f.2)
    (hread : ∀ f ∈ fields, IsReadBack f.2) : IsReadBack (.object fields) := by
  intro fuel rest hfuel hrest
  obtain _ | fuel := fuel
  · exact absurd hfuel (by cases fields <;> simp [Json.writeChars])
  have hfields := reads_fields hnames hplain hread hfuel rest
  have hvalue : ((fields.map fun f => (fieldPart f).2).mapM fun (key, value) => do
      return (String.ofList (← textOf? key), ← value) : Except String (List (String × Json))).map
      Json.object = .ok (.object fields) := by
    rw [mapM_fields]
    rfl
  obtain ⟨cs, hchars⟩ : ∃ cs, Json.writeChars (.object fields) = '{' :: cs := by
    cases fields <;> exact ⟨_, rfl⟩
  rw [hchars, List.cons_append] at hfields ⊢
  apply reads_bracket (.inr rfl)
  apply Reads.orElse
  apply Reads.lookFor
  rw [← hvalue]
  exact hfields.bind (reads_pure _ _)

/-! ## The main statement -/

theorem isReadBack {j : Json} (h : Json.IsCommon IsOpen j) : IsReadBack j := by
  induction h with
  | null => exact isReadBack_null
  | bool b => exact isReadBack_bool b
  | int hleast hgreatest => exact isReadBack_int hleast hgreatest
  | text hs => exact isReadBack_text hs
  | list hitems ih => exact isReadBack_list (fun item h => (hitems item h).isPlain) ih
  | object hnames hfields ih =>
      exact isReadBack_object hnames (fun f h => (hfields f h).isPlain) ih

end Reading

open Reading in
/-- A value without characters that end a line is read from its JSON text. -/
theorem readSettings_write {j : Json} (h : Json.IsCommon IsOpen j) :
    readSettings j.write = .ok j := by
  obtain ⟨c, cs, hbegins, hblank, hslash, -⟩ := begins_of_isPlain h.isPlain
  have hsolid : IsSolid (Json.writeChars j) := by
    rw [hbegins]
    exact isSolid_cons hblank hslash cs
  have hvalue := isReadBack h ((Json.writeChars j).length + 1) [] (Nat.le_succ _)
    (fun c hc => by cases hc)
  rw [List.append_nil] at hvalue
  have hend : Reads skipVoid [] ⟨⟩ [] := reads_skipVoid fun c hc => by cases hc
  have hwhole : Reads (whole ((Json.writeChars j).length + 1)) (Json.writeChars j) (.ok j) [] := by
    refine (reads_skipVoid hsolid).bind (hvalue.bind (hend.bind ?_))
    apply Reads.lookFor
    apply reads_get_bind
    intro scan hscan
    rw [hscan, List.isEmpty_nil, if_pos rfl]
    exact reads_pure _ _
  obtain ⟨after, hrun, -⟩ := hwhole { rest := Json.writeChars j } rfl
  rw [readSettings, Json.write, String.toList_ofList, hrun]

end Throttle.Json5
