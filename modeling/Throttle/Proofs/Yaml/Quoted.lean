import Mathlib.Data.List.TakeWhile
import Throttle.Proofs.Settings.File.Common
import Throttle.Yaml.Quoted

/-!
# Quoted scalars that were written

A text that was written for JSON is a scalar in double quotes.  Of its characters only the spaces
stand for themselves and count as gaps, so it is read run by run, with a gap behind every run but
the last.  Main statement: `readQuoted_written`.
-/

namespace Throttle.Yaml.Cursor

/-- Before these characters, and not at the front of a line. -/
structure Stands (c : Cursor) (cs : List Char) : Prop where
  rest_eq : c.rest = cs
  column_pos : 0 < c.mark.column

variable {c : Cursor} {d : Char} {cs rest : List Char}

namespace Stands

theorem next_eq (h : c.Stands (d :: cs)) : c.next = d := by rw [next, h.rest_eq, List.headD_cons]

theorem skip (h : c.Stands cs) (n : Nat) : (c.skip n).Stands (cs.drop n) :=
  ⟨congrArg (List.drop n) h.rest_eq, Nat.lt_of_lt_of_le h.column_pos (Nat.le_add_right _ _)⟩

theorem skipGap (h : c.Stands cs) (n : Nat) : (c.skipGap n).Stands (cs.drop n) :=
  ⟨congrArg (List.drop n) h.rest_eq, Nat.lt_of_lt_of_le h.column_pos (Nat.le_add_right _ _)⟩

theorem isDocumentMark_eq (h : c.Stands cs) : c.isDocumentMark = false := by
  have hcolumn : (c.mark.column == 0) = false := beq_false_of_ne (Nat.ne_of_gt h.column_pos)
  rw [isDocumentMark, isDocumentStart, isDocumentEnd, hcolumn]
  rfl

/-- Nothing is skipped where no gap and no comment is. -/
theorem skipComment_eq (h : c.Stands (d :: cs)) (hgap : isGap d = false) (hcomment : d ≠ '#') :
    ∃ c' : Cursor, c'.Stands (d :: cs) ∧ c.skipComment true = .ok (⟨false, false⟩, c') := by
  have hfront : (d :: cs).takeWhile (fun e => e == ' ' || (true && e == '\t')) = [] :=
    List.takeWhile_cons_of_neg (by simpa [isGap] using hgap)
  have hstands : (c.skipGap 0).Stands (d :: cs) := h.skipGap 0
  refine ⟨c.skipGap 0, hstands, ?_⟩
  rw [skipComment, h.rest_eq, hfront]
  simp [hstands.next_eq, hcomment]

end Stands

/-! ## Runs -/

section Runs

variable (start : Mark) {fuel : Nat}

theorem readEscape_short {e : Char} (he : (e, d) ∈ Json.shortForms)
    (h : c.Stands ('\\' :: e :: cs)) :
    isBreak e = false ∧ c.readEscape start = .ok (d, c.skip 2) := by
  have hall : ∀ form ∈ Json.shortForms,
      isBreak form.1 = false ∧ shortEscapes.lookup form.1 = some form.2 := by
    simp only [Json.shortForms, List.forall_mem_cons]
    decide
  have hletter : c.nextAt 1 = e := by
    rw [nextAt, h.rest_eq]
    rfl
  refine ⟨(hall (e, d) he).1, ?_⟩
  rw [readEscape, hletter, (hall (e, d) he).2]

theorem readEscape_code (hd : d.toNat < 32) (h : c.Stands (Json.escapeCode d ++ cs)) :
    c.readEscape start = .ok (d, c.skip 6) := by
  obtain ⟨high, low, i, j, hform, hzero, hhigh, hlow, hvalue⟩ :=
    Json.exists_digits (c := d) (by omega)
  rw [hform] at h
  have hletter : c.nextAt 1 = 'u' := by
    rw [nextAt, h.rest_eq]
    rfl
  have hdigits : (c.rest.drop 2).take 4 = ['0', '0', high, low] := by
    rw [h.rest_eq]
    rfl
  have hnumber : hexNumber? ['0', '0', high, low] = some d.toNat := by
    simp [hexNumber?, hzero, hhigh, hlow, hvalue]
  have hchar : char? d.toNat = some d := by
    rw [char?, if_pos (Or.inl (by omega)), Char.ofNat_toNat]
  have hshort : shortEscapes.lookup 'u' = none := by decide
  have hlong : longEscapes.lookup 'u' = some 4 := by decide
  rw [readEscape, hletter, hshort, hlong]
  simp [hdigits, hnumber, hchar]

def QuotedRun.cons (d : Char) (run : QuotedRun) : QuotedRun := { run with text := d :: run.text }

theorem readQuotedRun_backslash {e : Char} {c' : Cursor} (he : isBreak e = false)
    (h : c.Stands ('\\' :: e :: cs)) (hread : c.readEscape start = .ok (d, c')) :
    c.readQuotedRun start '"' (fuel + 1) =
      (c'.readQuotedRun start '"' fuel).map (QuotedRun.cons d) := by
  have hletter : isBreak (c.nextAt 1) = false := by
    rw [nextAt, h.rest_eq]
    exact he
  have hvoid : isVoid '\\' = false := by decide
  rw [readQuotedRun, h.next_eq, hletter, hvoid]
  show (c.readEscape start >>= _) = _
  rw [hread]
  rfl

theorem isVoid_of_le (hd : d ≠ ' ') (hspace : 32 ≤ d.toNat) : isVoid d = false := by
  have hcontrol : ∀ e : Char, e.toNat < 32 → (d == e) = false := by
    intro e he
    apply beq_false_of_ne
    rintro rfl
    omega
  rw [isVoid, isGap, isLineEnd, isBreak, isEnd, hcontrol '\t' (by decide),
    hcontrol '\n' (by decide), hcontrol '\r' (by decide), beq_false_of_ne hd,
    beq_false_of_ne (show d.toNat ≠ 0 by omega)]
  rfl

/-- A character other than a space is read from the form that it has inside a text. -/
theorem readQuotedRun_escape (fuel : Nat) (hd : d ≠ ' ') (h : c.Stands (Json.escape d ++ cs)) :
    ∃ c' : Cursor, c'.Stands cs ∧ c.readQuotedRun start '"' (fuel + 1) =
      (c'.readQuotedRun start '"' fuel).map (QuotedRun.cons d) := by
  rcases Json.escape_cases d with ⟨e, he, hform⟩ | ⟨hcode, hform⟩ | ⟨hquote, hback, hspace, hform⟩
  · rw [hform] at h
    obtain ⟨hbreak, hread⟩ := readEscape_short start he h
    exact ⟨c.skip 2, h.skip 2, readQuotedRun_backslash start hbreak h hread⟩
  · rw [hform] at h
    exact ⟨c.skip 6, h.skip 6, readQuotedRun_backslash start (by decide) h
      (readEscape_code start hcode h)⟩
  · rw [hform] at h
    refine ⟨c.skip 1, h.skip 1, ?_⟩
    rw [readQuotedRun, h.next_eq, isVoid_of_le hd hspace]
    simp [hquote, hback]
    rfl

/-- What may stand behind a run: the closing quote, or a space. -/
def EndsRun (rest : List Char) : Prop := rest.head? = some '"' ∨ rest.head? = some ' '

theorem readQuotedRun_end (hrest : EndsRun rest) (h : c.Stands rest) :
    c.readQuotedRun start '"' fuel = .ok ⟨[], false, c⟩ := by
  cases fuel with
  | zero => rfl
  | succ fuel =>
      have hnext : c.next = '"' ∨ c.next = ' ' := by
        rw [next, h.rest_eq, List.headD_eq_head?_getD]
        exact hrest.imp (fun hhead => by rw [hhead]; rfl) fun hhead => by rw [hhead]; rfl
      rw [readQuotedRun]
      rcases hnext with hnext | hnext <;> rw [hnext] <;> rfl

theorem readQuotedRun_written {text : List Char} (htext : ∀ d ∈ text, d ≠ ' ')
    (hrest : EndsRun rest) (hfuel : text.length ≤ fuel)
    (h : c.Stands (text.flatMap Json.escape ++ rest)) :
    ∃ c' : Cursor, c'.Stands rest ∧ c.readQuotedRun start '"' fuel = .ok ⟨text, false, c'⟩ := by
  induction text generalizing c fuel with
  | nil => exact ⟨c, h, readQuotedRun_end start hrest h⟩
  | cons d ds ih =>
      obtain _ | fuel := fuel
      · exact absurd hfuel (Nat.not_succ_le_zero _)
      rw [List.flatMap_cons, List.append_assoc] at h
      obtain ⟨c₁, h₁, hfirst⟩ := readQuotedRun_escape start fuel
        (htext d List.mem_cons_self) h
      obtain ⟨c₂, h₂, hothers⟩ := ih (fun e he => htext e (List.mem_cons_of_mem _ he))
        (Nat.le_of_succ_le_succ hfuel) h₁
      refine ⟨c₂, h₂, ?_⟩
      rw [hfirst, hothers]
      rfl

end Runs

/-! ## Gaps -/

/-- Spaces are kept as they are on one line. -/
theorem skipQuotedGap_spaces (indent : Int) {gaps : List Char} (hgaps : ∀ d ∈ gaps, d = ' ')
    (hrest : ∀ d ∈ rest.head?, isGap d = false ∧ isBreak d = false) {fuel : Nat}
    (hfuel : gaps.length ≤ fuel) (h : c.Stands (gaps ++ rest)) (front : List Char) :
    ∃ c' : Cursor, c'.Stands rest ∧ c.skipQuotedGap indent fuel ⟨front, false, false, 0⟩ =
      .ok (⟨front ++ gaps, false, false, 0⟩, c') := by
  induction gaps generalizing c fuel front with
  | nil =>
      rw [List.append_nil]
      refine ⟨c, h, ?_⟩
      cases fuel with
      | zero => rfl
      | succ fuel =>
          have hnext : isGap c.next = false ∧ isBreak c.next = false := by
            rw [next, h.rest_eq]
            cases rest with
            | nil => decide
            | cons d cs => exact hrest d rfl
          rw [skipQuotedGap, hnext.1, hnext.2]
          rfl
  | cons d ds ih =>
      obtain _ | fuel := fuel
      · exact absurd hfuel (Nat.not_succ_le_zero _)
      obtain rfl := hgaps d List.mem_cons_self
      obtain ⟨c', h', hread⟩ := ih (fun e he => hgaps e (List.mem_cons_of_mem _ he))
        (Nat.le_of_succ_le_succ hfuel) (h.skipGap 1) (front ++ [' '])
      refine ⟨c', h', ?_⟩
      have hspace : isGap ' ' = true := by decide
      rw [List.append_assoc] at hread
      rw [skipQuotedGap, h.next_eq, hspace]
      exact hread

/-! ## Scalars -/

section Scalars

variable (start : Mark)

/-- A text goes on with its quote, with an escape, or with its next character. -/
theorem exists_head (text rest : List Char) :
    ∃ d cs, text.flatMap Json.escape ++ '"' :: rest = d :: cs ∧
      (d = '"' ∨ d = '\\' ∨ text.head? = some d ∧ 32 ≤ d.toNat) := by
  cases text with
  | nil => exact ⟨'"', rest, rfl, .inl rfl⟩
  | cons d ds =>
      rw [List.flatMap_cons, List.append_assoc]
      rcases Json.escape_cases d with ⟨e, -, hform⟩ | ⟨-, hform⟩ | ⟨-, -, hspace, hform⟩ <;>
        rw [hform]
      · exact ⟨'\\', _, rfl, .inr (.inl rfl)⟩
      · exact ⟨'\\', _, rfl, .inr (.inl rfl)⟩
      · exact ⟨d, _, rfl, .inr (.inr ⟨rfl, hspace⟩)⟩

theorem isEnd_next {text : List Char} (h : c.Stands (text.flatMap Json.escape ++ '"' :: rest)) :
    isEnd c.next = false := by
  obtain ⟨d, cs, hform, hd⟩ := exists_head text rest
  rw [hform] at h
  rw [h.next_eq]
  rcases hd with rfl | rfl | ⟨-, hspace⟩
  · decide
  · decide
  · exact beq_false_of_ne (by omega)

/-- A text is a run, or a run with spaces and another text behind it. -/
theorem exists_run (text : List Char) : ∃ front back, text = front ++ back ∧
    (∀ d ∈ front, d ≠ ' ') ∧ (back = [] ∨ ∃ gaps more, back = ' ' :: gaps ++ more ∧
      (∀ d ∈ gaps, d = ' ') ∧ more.head? ≠ some ' ') := by
  refine ⟨text.takeWhile (· != ' '), text.dropWhile (· != ' '),
    List.takeWhile_append_dropWhile.symm, ?_, ?_⟩
  · intro d hd
    simpa using List.mem_takeWhile_imp hd
  · have hhead := List.head?_dropWhile_not (· != ' ') text
    cases hback : text.dropWhile (· != ' ') with
    | nil => exact .inl rfl
    | cons d ds =>
        rw [hback] at hhead
        obtain rfl : d = ' ' := by simpa using hhead
        refine .inr ⟨ds.takeWhile (· == ' '), ds.dropWhile (· == ' '), ?_, ?_, ?_⟩
        · rw [List.cons_append, List.takeWhile_append_dropWhile]
        · intro e he
          simpa using List.mem_takeWhile_imp he
        · intro hspace
          have hother := List.head?_dropWhile_not (· == ' ') ds
          rw [hspace] at hother
          exact absurd hother (by decide)

theorem escape_spaces {gaps : List Char} (hgaps : ∀ d ∈ gaps, d = ' ') :
    gaps.flatMap Json.escape = gaps := by
  induction gaps with
  | nil => rfl
  | cons d ds ih =>
      obtain rfl := hgaps d List.mem_cons_self
      rw [List.flatMap_cons, ih fun e he => hgaps e (List.mem_cons_of_mem _ he)]
      rfl

/-- Behind the spaces stands no other gap. -/
theorem head?_escape {text : List Char} (htext : text.head? ≠ some ' ') :
    ∀ d ∈ (text.flatMap Json.escape ++ '"' :: rest).head?, isGap d = false ∧ isBreak d = false := by
  obtain ⟨d, cs, hform, hd⟩ := exists_head text rest
  rw [hform]
  rintro _ ⟨⟩
  rcases hd with rfl | rfl | ⟨hhead, hspace⟩
  · decide
  · decide
  · have hvoid := isVoid_of_le (fun h => htext (h ▸ hhead)) hspace
    rw [isVoid, isLineEnd, Bool.or_eq_false_iff, Bool.or_eq_false_iff] at hvoid
    exact ⟨hvoid.1, hvoid.2.1⟩

/-- One run, and the gap and the rest of the text behind it. -/
theorem readQuotedText_written (text : List Char) {fuel : Nat} (hfuel : text.length < fuel)
    (h : c.Stands (text.flatMap Json.escape ++ '"' :: rest)) :
    ∃ c' : Cursor, c'.Stands ('"' :: rest) ∧
      c.readQuotedText start '"' (-1) fuel = .ok (text, c') := by
  induction fuel generalizing text c with
  | zero => exact absurd hfuel (Nat.not_lt_zero _)
  | succ fuel ih =>
      obtain ⟨front, back, rfl, hfront, hback⟩ := exists_run text
      rw [readQuotedText, h.isDocumentMark_eq, isEnd_next h, if_neg Bool.false_ne_true,
        if_neg Bool.false_ne_true, if_neg (by omega)]
      rw [List.flatMap_append, List.append_assoc] at h
      have hlength := Json.length_le_escape front
      have hstep : front.length ≤ c.fuel := by
        rw [Cursor.fuel, h.rest_eq, List.length_append]
        omega
      rcases hback with rfl | ⟨gaps, more, rfl, hgaps, hmore⟩
      · obtain ⟨c', h', hrun⟩ := readQuotedRun_written start hfront
          (.inl rfl) hstep h
        refine ⟨c', h', ?_⟩
        show (c.readQuotedRun start '"' c.fuel >>= _) = _
        rw [hrun]
        show (if c'.next == '"' then _ else _) = _
        rw [h'.next_eq, List.append_nil]
        rfl
      · have hspaces : ∀ d ∈ ' ' :: gaps, d = ' ' := List.forall_mem_cons.2 ⟨rfl, hgaps⟩
        rw [List.flatMap_append, escape_spaces hspaces, List.append_assoc] at h
        obtain ⟨c₁, h₁, hrun⟩ := readQuotedRun_written start hfront
          (.inr rfl) hstep h
        have hgap : (' ' :: gaps).length ≤ c₁.fuel := by
          rw [Cursor.fuel, h₁.rest_eq, List.length_append]
          omega
        obtain ⟨c₂, h₂, hskip⟩ := skipQuotedGap_spaces (-1) hspaces
          (head?_escape hmore) hgap h₁ []
        have hshorter : more.length < fuel := by
          simp only [List.length_append, List.length_cons] at hfuel
          omega
        obtain ⟨c₃, h₃, hread⟩ := ih more hshorter h₂
        refine ⟨c₃, h₃, ?_⟩
        show (c.readQuotedRun start '"' c.fuel >>= _) = _
        rw [hrun]
        show (if c₁.next == '"' then _ else _) = _
        rw [Stands.next_eq h₁]
        show (c₁.skipQuotedGap (-1) c₁.fuel ⟨[], false, false, 0⟩ >>= _) = _
        rw [hskip]
        show (c₂.readQuotedText start '"' (-1) fuel >>= _) = _
        rw [hread]
        show Except.ok (front ++ (' ' :: gaps) ++ more, c₃) = _
        rw [List.append_assoc]

/-- What may stand behind a scalar in a flow collection. -/
def EndsScalar (rest : List Char) : Prop :=
  ∃ d cs, rest = d :: cs ∧ (d = ':' ∨ d = ',' ∨ d = '}')

/-- Nothing is skipped behind a scalar. -/
theorem not_skipped (hd : d = ':' ∨ d = ',' ∨ d = '}') :
    isVoid d = false ∧ isGap d = false ∧ d ≠ '#' := by
  rcases hd with rfl | rfl | rfl <;> decide

theorem readQuoted_written (s : String) (hrest : EndsScalar rest)
    (h : c.Stands (Json.writeText s ++ rest)) :
    ∃ c' : Cursor, c'.Stands rest ∧
      c.readQuoted (-1) true = .ok (⟨.scalar false s, c.mark⟩, c') := by
  obtain ⟨d, cs, rfl, hd⟩ := hrest
  rw [Json.writeText_append] at h
  have hinside := h.skip 1
  have hlength := Json.length_le_escape s.toList
  have hfuel : s.toList.length < (c.skip 1).fuel := by
    rw [Cursor.fuel, hinside.rest_eq, List.drop_one, List.tail_cons, List.length_append]
    omega
  obtain ⟨c₁, h₁, hread⟩ := readQuotedText_written c.mark s.toList hfuel hinside
  obtain ⟨-, hgap, hcomment⟩ := not_skipped hd
  obtain ⟨c₂, h₂, hskip⟩ := Stands.skipComment_eq (h₁.skip 1) hgap hcomment
  have hends : c₂.endsQuoted c.mark true = true := by
    rw [endsQuoted, Stands.next_eq h₂]
    rcases hd with rfl | rfl | rfl <;> simp
  refine ⟨c₂, h₂, ?_⟩
  rw [readQuoted, h.next_eq]
  show ((c.skip 1).readQuotedText c.mark '"' (-1) (c.skip 1).fuel >>= _) = _
  rw [hread]
  show ((c₁.skip 1).skipComment true >>= _) = _
  rw [hskip]
  show (if c₂.endsQuoted c.mark true then _ else _) = _
  rw [hends, String.ofList_toList]
  rfl

end Scalars

end Throttle.Yaml.Cursor
