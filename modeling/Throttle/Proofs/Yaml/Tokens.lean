import Throttle.Proofs.Yaml.Quoted
import Throttle.Yaml.Lexer

/-!
# Tokens of a table that was written

A table of texts that was written for JSON is a mapping in braces.  The mapping could be a key until
its last brace is read, so all of its tokens wait for what follows.  Main statement:
`tokens_write`, every name is marked as a key, and every text is a scalar.
-/

namespace Throttle.Yaml

def rowKinds (row : String × String) : List TokenKind :=
  [.key, .scalar false row.1, .value, .scalar false row.2]

/-- What stands behind a row. -/
def tailKinds (rows : List (String × String)) : List TokenKind :=
  rows.flatMap (fun row => .comma :: rowKinds row) ++ [.flowMapEnd]

def mapKinds : List (String × String) → List TokenKind
  | [] => [.flowMapStart, .flowMapEnd]
  | row :: rows => .flowMapStart :: (rowKinds row ++ tailKinds rows)

namespace Lexer

/-- Between the braces, where all tokens wait. -/
structure InMap (l : Lexer) (cs : List Char) (kinds : List TokenKind) : Prop where
  stands : l.cursor.Stands cs
  kinds_eq : l.pending.map Token.kind = kinds
  given_eq : l.given = 0
  indent_eq : l.indent = -1
  indents_eq : l.indents = []
  depth_eq : l.flowDepth = 1
  bareMaps_eq : l.bareMaps = []
  outer_eq : ∃ mark, l.outerCandidates = [⟨true, false, 0, mark⟩]
  required_eq : l.candidate.required = false

namespace InMap

variable {l l' : Lexer} {d : Char} {cs rest : List Char} {kind : TokenKind}
  {kinds : List TokenKind}

theorem inFlow_eq (h : InMap l cs kinds) : l.inFlow = true := by
  rw [inFlow, h.depth_eq]
  rfl

theorem checkCandidate_eq (h : InMap l cs kinds) : l.checkCandidate = .ok l := by
  rw [checkCandidate, h.inFlow_eq]
  simp

theorem dropCandidate_eq (h : InMap l cs kinds) :
    l.dropCandidate = .ok { l with candidate := { l.candidate with possible := false } } := by
  rw [dropCandidate, h.required_eq, Bool.and_false]
  rfl

theorem skipVoid_eq (h : InMap l (d :: cs) kinds) (hd : isVoid d = false) (hcomment : d ≠ '#') :
    l.skipVoid = .ok l := by
  rw [isVoid, isLineEnd, Bool.or_eq_false_iff, Bool.or_eq_false_iff] at hd
  obtain ⟨hgap, hbreak, -⟩ := hd
  have htab : (d == '\t') = false := (Bool.or_eq_false_iff.1 hgap).2
  have hskip : l.cursor.skipVoid l.indent l.cursor.fuel false = .ok (false, l.cursor) := by
    rw [Cursor.fuel, Cursor.skipVoid, h.stands.next_eq, htab, hgap, hbreak,
      beq_false_of_ne hcomment]
    rfl
  show (l.cursor.skipVoid l.indent l.cursor.fuel false >>= _) = _
  rw [hskip]
  show Except.ok { l with keyAllowed := l.keyAllowed || false } = _
  rw [Bool.or_false]

/-- Inside the braces the next token is told by its first character. -/
theorem readToken_eq (h : InMap l (d :: cs) kinds) (hd : isVoid d = false) (hcomment : d ≠ '#') :
    l.readToken = l.readContent := by
  have hend : isEnd d = false := by
    rw [isVoid, isLineEnd, Bool.or_eq_false_iff, Bool.or_eq_false_iff] at hd
    exact hd.2.2
  have hcolumn : (l.cursor.mark.column == 0) = false :=
    beq_false_of_ne (Nat.ne_of_gt h.stands.column_pos)
  have hmark := h.stands.isDocumentMark_eq
  rw [Cursor.isDocumentMark, Bool.or_eq_false_iff] at hmark
  have hclose : l.closeIndents l.cursor.mark.column = l := by
    rw [closeIndents, h.inFlow_eq, if_pos rfl]
  show (l.skipVoid >>= _) = _
  rw [h.skipVoid_eq hd hcomment]
  show (l.checkCandidate >>= _) = _
  rw [h.checkCandidate_eq]
  dsimp only [bind, Except.bind]
  rw [hclose, h.stands.next_eq, hend, hcolumn, hmark.1, hmark.2, h.indent_eq]
  simp only [Bool.false_and, Bool.false_eq_true, if_false]
  rw [if_neg (by omega)]

/-! ### Steps -/

theorem saveCandidate_eq (h : InMap l cs kinds) : l.saveCandidate = .ok { l with
    candidate := if l.keyAllowed then ⟨true, false, kinds.length, l.cursor.mark⟩
      else l.candidate } := by
  have hlength : l.pending.length = kinds.length := by rw [← h.kinds_eq, List.length_map]
  unfold saveCandidate
  by_cases hkey : l.keyAllowed = true
  · rw [h.dropCandidate_eq, h.inFlow_eq, h.given_eq, hlength]
    simp [bind, Except.bind, pure, Except.pure, hkey]
  · rw [if_pos (by simpa using hkey), if_neg hkey]

theorem push (h : InMap l cs kinds) (kind : TokenKind) (mark : Mark) :
    InMap (l.push kind mark) cs (kinds ++ [kind]) := by
  refine { h with kinds_eq := ?_ }
  show (l.pending ++ [Token.mk kind mark]).map Token.kind = _
  rw [List.map_append, h.kinds_eq]
  rfl

/-- Behind a text that may be a key: the next colon makes it one. -/
structure AtColon (l : Lexer) (number : Nat) : Prop where
  adjacent_eq : l.adjacentAt = l.cursor.mark.index
  possible_eq : l.candidate.possible = true
  number_eq : l.candidate.number = number

theorem readToken_text (s : String) (hrest : Cursor.EndsScalar rest)
    (h : InMap l (Json.writeText s ++ rest) kinds) :
    ∃ l', l.readToken = .ok l' ∧ InMap l' rest (kinds ++ [.scalar false s]) ∧
      (l.keyAllowed = true → AtColon l' kinds.length) := by
  obtain ⟨c, hc, hread⟩ := Cursor.readQuoted_written s hrest h.stands
  obtain ⟨d, cs, rfl, hd⟩ := hrest
  have hcontent : l.readToken = l.readQuoted := by
    rw [Json.writeText_append] at h
    rw [h.readToken_eq (by decide) (by decide), readContent, h.stands.next_eq]
    simp
  obtain ⟨saved, hsaved⟩ : ∃ saved : Lexer, saved = { l with
      cursor := c
      keyAllowed := false
      candidate := if l.keyAllowed then ⟨true, false, kinds.length, l.cursor.mark⟩
        else l.candidate } := ⟨_, rfl⟩
  have hmoved : InMap saved (d :: cs) kinds := by
    rw [hsaved]
    refine { h with stands := hc, required_eq := ?_ }
    dsimp only
    split
    · rfl
    · exact h.required_eq
  obtain ⟨hvoid, -, hcomment⟩ := Cursor.not_skipped hd
  have hskip := hmoved.skipVoid_eq hvoid hcomment
  have hadjacent : InMap { saved with adjacentAt := saved.cursor.mark.index } (d :: cs) kinds :=
    { hmoved with }
  refine ⟨_, ?_, hadjacent.push _ l.cursor.mark, ?_⟩
  · rw [hcontent]
    show (l.saveCandidate >>= _) = _
    rw [h.saveCandidate_eq]
    show (l.cursor.readQuoted l.indent l.inFlow >>= _) = _
    rw [h.indent_eq, h.inFlow_eq, hread]
    dsimp only [bind, Except.bind, moveTo]
    rw [← h.indent_eq, ← hsaved, hskip]
    rfl
  · intro hkey
    rw [hsaved]
    simp only [hkey, if_true]
    exact ⟨rfl, rfl, rfl⟩

theorem insert {front back : List TokenKind} (h : InMap l cs (front ++ back)) (kind : TokenKind)
    (mark : Mark) : InMap (l.insert front.length kind mark) cs (front ++ kind :: back) := by
  refine { h with kinds_eq := ?_ }
  show (l.pending.take (front.length - l.given) ++
    Token.mk kind mark :: l.pending.drop (front.length - l.given)).map Token.kind = _
  rw [h.given_eq, Nat.sub_zero, List.map_append, List.map_cons, List.map_take, List.map_drop,
    h.kinds_eq, List.take_left, List.drop_left]

/-- No indentation counts between braces. -/
theorem confirmCandidate_eq (h : InMap l cs kinds) (mark : Mark) :
    l.confirmCandidate false mark = .ok { l.insert l.candidate.number .key l.candidate.mark with
      candidate := { l.candidate with possible := false }
      keyAllowed := false } := by
  have hflow : (l.insert l.candidate.number .key l.candidate.mark).inFlow = true := h.inFlow_eq
  simp only [confirmCandidate, openIndent, openMargin, hflow, Bool.false_and, Bool.not_true,
    Bool.false_eq_true, if_false, if_true]
  rfl

theorem readToken_colon {first : TokenKind} (h : InMap l (':' :: '"' :: cs) (kinds ++ [first]))
    (hcolon : AtColon l kinds.length) :
    ∃ l', l.readToken = .ok l' ∧ InMap l' ('"' :: cs) (kinds ++ [.key, first, .value]) := by
  have hnext : l.cursor.nextAt 1 = '"' := by
    rw [Cursor.nextAt, h.stands.rest_eq]
    rfl
  have hcontent : l.readToken = l.readValue := by
    have hvoid : isVoid '"' = false := by decide
    rw [h.readToken_eq (by decide) (by decide), readContent, h.stands.next_eq, hnext,
      h.inFlow_eq, hcolon.adjacent_eq, hvoid]
    simp [readFlowValue, hcolon.adjacent_eq]
  have hmoved : InMap (l.moveTo (l.cursor.skip 1)) ('"' :: cs) (kinds ++ [first]) :=
    { h with stands := h.stands.skip 1 }
  have hskip : l.skipColon = .ok (l.moveTo (l.cursor.skip 1)) := by
    show (if (l.moveTo (l.cursor.skip 1)).cursor.next != '\t' then _ else _) = _
    rw [hmoved.stands.next_eq]
    rfl
  have hconfirm := hmoved.confirmCandidate_eq l.cursor.mark
  have hinsert := hmoved.insert .key l.candidate.mark
  have hconfirmed : InMap {
      (l.moveTo (l.cursor.skip 1)).insert kinds.length .key l.candidate.mark with
      candidate := { l.candidate with possible := false }
      keyAllowed := false } ('"' :: cs) (kinds ++ [.key, first]) :=
    { hinsert with }
  refine ⟨_, ?_, (List.append_assoc _ _ _ ▸ hconfirmed.push .value l.cursor.mark :)⟩
  rw [hcontent, readValue, h.bareMaps_eq]
  show (l.skipColon >>= _) = _
  have hpossible : (l.moveTo (l.cursor.skip 1)).candidate.possible = true := hcolon.possible_eq
  have hnumber : (l.moveTo (l.cursor.skip 1)).candidate.number = kinds.length := hcolon.number_eq
  rw [hskip]
  dsimp only [bind, Except.bind]
  have hbare : (!([] : List Bool).isEmpty && !l.flowMapSeen) = false := rfl
  rw [hpossible, if_pos rfl, hbare, hconfirm, hnumber]
  rfl

theorem skipComment_eq (h : InMap l (d :: cs) kinds) (hgap : isGap d = false)
    (hcomment : d ≠ '#') :
    ∃ l', InMap l' (d :: cs) kinds ∧ l'.keyAllowed = l.keyAllowed ∧
      l.skipComment true = .ok (⟨false, false⟩, l') := by
  obtain ⟨c, hc, hskip⟩ := h.stands.skipComment_eq hgap hcomment
  refine ⟨l.moveTo c, { h with stands := hc }, rfl, ?_⟩
  show (l.cursor.skipComment true >>= _) = _
  rw [hskip]
  rfl

theorem readToken_comma (h : InMap l (',' :: '"' :: cs) kinds) :
    ∃ l', l.readToken = .ok l' ∧ InMap l' ('"' :: cs) (kinds ++ [.comma]) ∧
      l'.keyAllowed = true := by
  have hcontent : l.readToken = l.readComma := by
    rw [h.readToken_eq (by decide) (by decide), readContent, h.stands.next_eq]
    simp
  have hmoved : InMap { l with
      cursor := l.cursor.skip 1
      candidate := { l.candidate with possible := false }
      keyAllowed := true } ('"' :: cs) kinds := { h with stands := h.stands.skip 1 }
  obtain ⟨l', h', hkey, hskip⟩ := hmoved.skipComment_eq (by decide) (by decide)
  refine ⟨l'.push .comma l.cursor.mark, ?_, h'.push _ _, hkey⟩
  rw [hcontent]
  show (l.dropCandidate >>= _) = _
  rw [h.dropCandidate_eq]
  dsimp only [bind, Except.bind, closeBareMap]
  rw [h.bareMaps_eq]
  dsimp only [moveTo]
  rw [← h.bareMaps_eq, hskip]
  rfl

end InMap

/-- Behind the last brace. -/
structure AtEnd (l : Lexer) (kinds : List TokenKind) : Prop where
  rest_eq : l.cursor.rest = []
  kinds_eq : l.pending.map Token.kind = kinds
  indents_eq : l.indents = []
  depth_eq : l.flowDepth = 0
  outer_eq : l.outerCandidates = []
  required_eq : l.candidate.required = false

theorem InMap.readToken_close {l : Lexer} {kinds : List TokenKind} (h : InMap l ['}'] kinds) :
    ∃ l', l.readToken = .ok l' ∧ AtEnd l' (kinds ++ [.flowMapEnd]) := by
  have hcontent : l.readToken = l.readFlowEnd true := by
    rw [h.readToken_eq (by decide) (by decide), readContent, h.stands.next_eq]
    simp
  obtain ⟨mark, houter⟩ := h.outer_eq
  have hrest : (l.cursor.skip 1).rest = [] := (h.stands.skip 1).rest_eq
  have hskip : (l.cursor.skip 1).skipComment true =
      .ok (⟨false, false⟩, (l.cursor.skip 1).skipGap 0) := by
    rw [Cursor.skipComment, hrest]
    simp [Cursor.next, Cursor.skipGap, hrest]
  refine ⟨{ l with
    cursor := (l.cursor.skip 1).skipGap 0
    pending := l.pending ++ [⟨.flowMapEnd, l.cursor.mark⟩]
    candidate := ⟨true, false, 0, mark⟩
    outerCandidates := []
    flowDepth := 0
    keyAllowed := false }, ?_, ?_⟩
  · rw [hcontent]
    show (l.dropCandidate >>= _) = _
    rw [h.dropCandidate_eq]
    dsimp only [bind, Except.bind]
    rw [houter]
    dsimp only [skipComment, moveTo, bind, Except.bind]
    rw [if_pos rfl, hskip, h.depth_eq]
    rfl
  · refine ⟨hrest, ?_, h.indents_eq, rfl, rfl, rfl⟩
    rw [List.map_append, h.kinds_eq]
    rfl

/-! ### The end of the text -/

namespace AtEnd

variable {l : Lexer} {kinds : List TokenKind}

theorem inFlow_eq (h : AtEnd l kinds) : l.inFlow = false := by
  rw [inFlow, h.depth_eq]
  rfl

theorem checkCandidate_eq (h : AtEnd l kinds) :
    ∃ l', l.checkCandidate = .ok l' ∧ AtEnd l' kinds ∧ l'.pending = l.pending := by
  rw [checkCandidate, h.required_eq]
  dsimp only
  split
  · exact ⟨_, rfl, { h with }, rfl⟩
  · exact ⟨l, rfl, h, rfl⟩

theorem closeIndents_eq (h : AtEnd l kinds) (column : Int) : l.closeIndents column = l := by
  have hindents := h.indents_eq
  rw [closeIndents, h.inFlow_eq, if_neg Bool.false_ne_true, hindents]
  cases l
  simp_all [closeTo]

end AtEnd

/-- With the end of the text among the tokens no node can become a key. -/
structure IsDone (l : Lexer) (ts : List Token) : Prop where
  pending_eq : l.pending = ts
  outer_eq : l.outerCandidates = []
  possible_eq : l.candidate.possible = false

/-- Then a token is given out at every step. -/
theorem IsDone.run_succ {l : Lexer} {token : Token} {ts : List Token} (h : IsDone l (token :: ts))
    (fuel : Nat) : run (fuel + 1) l = if token.kind = .textEnd then ([token], none)
      else (token :: (run fuel { l with pending := ts, given := l.given + 1 }).1,
        (run fuel { l with pending := ts, given := l.given + 1 }).2) := by
  have hcheck : l.checkCandidate = .ok l := by
    rw [checkCandidate, h.possible_eq]
    rfl
  have hkey : l.mayBeKey = false := by
    rw [mayBeKey, h.outer_eq]
    simp [h.possible_eq]
  rw [run, h.pending_eq]
  dsimp only
  rw [hcheck]
  dsimp only
  rw [hkey, if_neg Bool.false_ne_true]

namespace AtEnd

variable {l : Lexer} {kinds : List TokenKind}

theorem readEnd_isDone (h : AtEnd l kinds) :
    ∃ l' last, l.readEnd = .ok l' ∧ last.kind = .textEnd ∧ IsDone l' (l.pending ++ [last]) := by
  have hclosed : ∀ mark : Mark, AtEnd { l with
      cursor := { l.cursor with mark }
      candidate := { l.candidate with possible := false }
      outerCandidates := [] } kinds := fun mark => { h with outer_eq := rfl }
  unfold readEnd
  dsimp only [moveTo]
  rw [h.outer_eq, if_neg (by simp [h.required_eq]), List.map_nil, (hclosed _).closeIndents_eq]
  exact ⟨_, _, rfl, rfl, rfl, rfl, rfl⟩

theorem readToken_isDone (h : AtEnd l kinds) :
    ∃ l' last, l.readToken = .ok l' ∧ last.kind = .textEnd ∧ IsDone l' (l.pending ++ [last]) := by
  have hnext : ∀ c : Cursor, c.rest = [] → c.next = '\x00' := by
    intro c hc
    rw [Cursor.next, hc]
    rfl
  have hvoid : l.cursor.skipVoid l.indent l.cursor.fuel false = .ok (false, l.cursor) := by
    rw [Cursor.fuel, Cursor.skipVoid, hnext _ h.rest_eq]
    rfl
  have hskip : l.skipVoid = .ok l := by
    show (l.cursor.skipVoid l.indent l.cursor.fuel false >>= _) = _
    rw [hvoid]
    show Except.ok { l with keyAllowed := l.keyAllowed || false } = _
    rw [Bool.or_false]
  obtain ⟨l₁, hcheck, h₁, hpending⟩ := h.checkCandidate_eq
  obtain ⟨l₂, last, hread, hlast, hdone⟩ := h₁.readEnd_isDone
  refine ⟨l₂, last, ?_, hlast, hpending ▸ hdone⟩
  show (l.skipVoid >>= _) = _
  rw [hskip]
  show (l.checkCandidate >>= _) = _
  rw [hcheck]
  dsimp only [bind, Except.bind]
  rw [h₁.closeIndents_eq, hnext _ h₁.rest_eq, if_pos (by decide), hread]

end AtEnd

theorem IsDone.run_eq {l : Lexer} {front : List Token} {last : Token}
    (h : IsDone l (front ++ [last])) (hfront : ∀ token ∈ front, token.kind ≠ .textEnd)
    (hlast : last.kind = .textEnd) {fuel : Nat} (hfuel : front.length < fuel) :
    run fuel l = (front ++ [last], none) := by
  induction front generalizing l fuel with
  | nil =>
      obtain _ | fuel := fuel
      · exact absurd hfuel (Nat.not_lt_zero _)
      rw [List.nil_append] at h ⊢
      rw [h.run_succ, if_pos hlast]
  | cons token front ih =>
      obtain _ | fuel := fuel
      · exact absurd hfuel (Nat.not_lt_zero _)
      rw [List.cons_append] at h ⊢
      have hnext : IsDone { l with pending := front ++ [last], given := l.given + 1 }
          (front ++ [last]) := ⟨rfl, h.outer_eq, h.possible_eq⟩
      rw [h.run_succ, if_neg (hfront token List.mem_cons_self),
        ih hnext (fun other hother => hfront other (List.mem_cons_of_mem _ hother))
          (Nat.lt_of_succ_lt_succ hfuel)]

section

variable {l : Lexer} {kinds : List TokenKind} {fuel : Nat}

theorem AtEnd.run_readToken (h : AtEnd l kinds) (hkinds : .textEnd ∉ kinds)
    (hfuel : kinds.length < fuel) : ∃ l' ts, l.readToken = .ok l' ∧ run fuel l' = (ts, none) ∧
      ts.map Token.kind = kinds ++ [.textEnd] := by
  obtain ⟨l', last, hread, hlast, hdone⟩ := h.readToken_isDone
  have hlength : l.pending.length = kinds.length := by rw [← h.kinds_eq, List.length_map]
  refine ⟨l', _, hread, hdone.run_eq ?_ hlast (by omega), ?_⟩
  · intro token htoken hkind
    apply hkinds
    rw [← h.kinds_eq, ← hkind]
    exact List.mem_map_of_mem htoken
  · rw [List.map_append, h.kinds_eq, List.map_singleton, hlast]

/-- At the end of the text the tokens are given out.  The end is read behind them, or before if the
first one may still be a key. -/
theorem AtEnd.run_eq (h : AtEnd l kinds) (hkinds : .textEnd ∉ kinds)
    (hfuel : kinds.length + 1 < fuel) :
    ∃ ts, run fuel l = (ts, none) ∧ ts.map Token.kind = kinds ++ [.textEnd] := by
  obtain _ | fuel := fuel
  · exact absurd hfuel (Nat.not_lt_zero _)
  induction kinds generalizing l fuel with
  | nil =>
      obtain ⟨l', ts, hstep, hrun, hts⟩ := h.run_readToken hkinds (Nat.lt_of_succ_lt_succ hfuel)
      refine ⟨ts, ?_, hts⟩
      rw [run, List.map_eq_nil_iff.1 h.kinds_eq]
      dsimp only
      rw [hstep]
      exact hrun
  | cons kind kinds ih =>
      obtain ⟨token, pending, hpending, hkind, hkinds'⟩ := List.map_eq_cons_iff.1 h.kinds_eq
      obtain ⟨l₁, hcheck, h₁, hsame⟩ := h.checkCandidate_eq
      rw [run, hpending]
      dsimp only
      rw [hcheck]
      dsimp only
      by_cases hkey : l₁.mayBeKey = true
      · obtain ⟨l', ts, hstep, hrun, hts⟩ := h₁.run_readToken hkinds (Nat.lt_of_succ_lt_succ hfuel)
        refine ⟨ts, ?_, hts⟩
        rw [if_pos hkey, hstep]
        exact hrun
      · rw [List.mem_cons, not_or] at hkinds
        have hgiven : AtEnd { l₁ with pending, given := l₁.given + 1 } kinds :=
          { h₁ with kinds_eq := hkinds' }
        obtain _ | fuel := fuel
        · exact absurd hfuel (by simp)
        obtain ⟨ts, hrun, hts⟩ := ih hgiven hkinds.2 fuel (Nat.lt_of_succ_lt_succ hfuel)
        refine ⟨token :: ts, ?_, ?_⟩
        · have hother : token.kind ≠ .textEnd := fun hend => hkinds.1 (hend.symm.trans hkind)
          rw [if_neg hkey, if_neg hother, hrun]
        · rw [List.map_cons, hkind, hts, List.cons_append]

end

/-! ### The whole text -/

namespace InMap

variable {l l' : Lexer} {cs rest : List Char} {kind : TokenKind} {kinds : List TokenKind}

theorem run_succ (h : InMap l cs (kind :: kinds)) (hread : l.readToken = .ok l') (fuel : Nat) :
    run (fuel + 1) l = run fuel l' := by
  obtain ⟨token, pending, hpending, -, -⟩ := List.map_eq_cons_iff.1 h.kinds_eq
  obtain ⟨mark, houter⟩ := h.outer_eq
  have hkey : l.mayBeKey = true := by
    rw [mayBeKey, houter, h.given_eq]
    simp
  rw [run, hpending]
  dsimp only
  rw [h.checkCandidate_eq]
  dsimp only
  rw [if_pos hkey, hread]

/-- A row is three tokens of the text, and the first one becomes a key. -/
theorem run_row (row : String × String) (hkey : l.keyAllowed = true)
    (hrest : Cursor.EndsScalar rest)
    (h : InMap l (Json.fieldText (row.1, .text row.2) ++ rest) (kind :: kinds)) :
    ∃ l', InMap l' rest (kind :: (kinds ++ rowKinds row)) ∧
      ∀ fuel, run (fuel + 3) l = run fuel l' := by
  rw [Json.fieldText, List.append_assoc, List.cons_append, Json.writeChars] at h
  obtain ⟨l₁, hname, h₁, hcolon⟩ := h.readToken_text row.1 ⟨':', _, rfl, .inl rfl⟩
  rw [Json.writeText_append] at h₁
  obtain ⟨l₂, hmark, h₂⟩ := h₁.readToken_colon (hcolon hkey)
  rw [← Json.writeText_append] at h₁ h₂
  obtain ⟨l₃, htext, h₃, -⟩ := h₂.readToken_text row.2 hrest
  refine ⟨l₃, by simpa [rowKinds] using h₃, fun fuel => ?_⟩
  rw [h.run_succ hname, h₁.run_succ hmark, h₂.run_succ htext]

theorem endsScalar_tailChars (parts : List (List Char)) :
    Cursor.EndsScalar (Json.tailChars '}' parts) := by
  cases parts with
  | nil => exact ⟨'}', [], rfl, .inr (.inr rfl)⟩
  | cons part parts => exact ⟨',', _, rfl, .inr (.inl rfl)⟩

theorem run_tail (rows : List (String × String))
    (h : InMap l (Json.tailChars '}' ((Json.textFields rows).map Json.fieldText))
      (kind :: kinds)) :
    ∃ l', AtEnd l' (kind :: (kinds ++ tailKinds rows)) ∧
      ∀ fuel, run (fuel + (4 * rows.length + 1)) l = run fuel l' := by
  induction rows generalizing l kinds with
  | nil =>
      obtain ⟨l', hclose, h'⟩ := h.readToken_close
      exact ⟨l', h', h.run_succ hclose⟩
  | cons row rows ih =>
      have hquote := Json.writeText_append row.1
      simp only [Json.textFields, List.map_cons, Json.tailChars] at h
      rw [Json.fieldText, hquote, List.cons_append] at h
      obtain ⟨l₁, hcomma, h₁, hkey⟩ := h.readToken_comma
      rw [← List.cons_append, ← hquote] at h h₁
      obtain ⟨l₂, h₂, hrow⟩ := h₁.run_row row hkey (endsScalar_tailChars _)
      obtain ⟨l₃, h₃, htail⟩ := ih h₂
      refine ⟨l₃, by simpa [tailKinds] using h₃, fun fuel => ?_⟩
      rw [show fuel + (4 * (row :: rows).length + 1) = fuel + (4 * rows.length + 1) + 3 + 1 by
        rw [List.length_cons]; omega, h.run_succ hcomma, hrow, htail]

end InMap

/-- The brace at the front of the text. -/
theorem readToken_open {cs : List Char} (hcs : cs.head? = some '"' ∨ cs.head? = some '}') :
    ∃ l', readToken { cursor := ⟨'{' :: cs, {}, true⟩ } = .ok l' ∧
      InMap l' cs [.flowMapStart] ∧ l'.keyAllowed = true := by
  rcases hcs with hcs | hcs <;> obtain ⟨rest, rfl⟩ := List.head?_eq_some_iff.1 hcs
  · exact ⟨_, rfl, ⟨⟨rfl, Nat.one_pos⟩, rfl, rfl, rfl, rfl, rfl, rfl, ⟨_, rfl⟩, rfl⟩, rfl⟩
  · exact ⟨_, rfl, ⟨⟨rfl, Nat.one_pos⟩, rfl, rfl, rfl, rfl, rfl, rfl, ⟨_, rfl⟩, rfl⟩, rfl⟩

/-- All tokens are read before the first one is given out. -/
theorem run_start (rows : List (String × String)) :
    ∃ l' steps, AtEnd l' (mapKinds rows) ∧ steps ≤ 4 * rows.length + 2 ∧
      ∀ fuel, run (fuel + steps)
        { cursor := ⟨Json.writeChars (.object (Json.textFields rows)), {}, true⟩ } =
          run fuel l' := by
  have hstep : ∀ {l l' : Lexer} (fuel : Nat), l.pending = [] → l.readToken = .ok l' →
      run (fuel + 1) l = run fuel l' := by
    intro l l' fuel hpending hread
    rw [run, hpending]
    dsimp only
    rw [hread]
  cases rows with
  | nil =>
      have hbrace : ['}'].head? = some '}' := rfl
      obtain ⟨l₁, hopen, h₁, -⟩ := readToken_open (.inr hbrace)
      obtain ⟨l₂, h₂, htail⟩ := h₁.run_tail []
      exact ⟨l₂, 2, h₂, Nat.le_refl 2, fun fuel => (hstep (fuel + 1) rfl hopen).trans (htail fuel)⟩
  | cons row rows =>
      have hquote : (Json.fieldText (row.1, .text row.2) ++
          Json.tailChars '}' ((Json.textFields rows).map Json.fieldText)).head? = some '"' := rfl
      obtain ⟨l₁, hopen, h₁, hkey⟩ := readToken_open (.inl hquote)
      obtain ⟨l₂, h₂, hrow⟩ := h₁.run_row row hkey (InMap.endsScalar_tailChars _)
      obtain ⟨l₃, h₃, htail⟩ := h₂.run_tail rows
      refine ⟨l₃, 4 * rows.length + 1 + 3 + 1, h₃, by rw [List.length_cons]; omega, fun fuel => ?_⟩
      rw [Json.textFields, List.map_cons, Json.writeChars_object]
      calc run (fuel + (4 * rows.length + 1 + 3 + 1)) _
        _ = run (fuel + (4 * rows.length + 1) + 3) l₁ := hstep _ rfl hopen
        _ = run (fuel + (4 * rows.length + 1)) l₂ := hrow _
        _ = run fuel l₃ := htail fuel

theorem textEnd_not_mem_mapKinds (rows : List (String × String)) :
    .textEnd ∉ mapKinds rows := by
  cases rows <;> simp [mapKinds, rowKinds, tailKinds]

theorem length_mapKinds (rows : List (String × String)) :
    5 * rows.length ≤ (mapKinds rows).length ∧ (mapKinds rows).length ≤ 5 * rows.length + 2 := by
  have htail : ∀ rows : List (String × String),
      (rows.flatMap fun row => .comma :: rowKinds row).length = 5 * rows.length := by
    intro rows
    induction rows with
    | nil => rfl
    | cons row rows ih =>
        rw [List.flatMap_cons, List.length_append, ih, List.length_cons]
        simp only [rowKinds, List.length_cons, List.length_nil]
        omega
  cases rows with
  | nil => exact ⟨Nat.zero_le 2, Nat.le_refl 2⟩
  | cons row rows =>
      have hrow : (rowKinds row).length = 4 := rfl
      simp only [mapKinds, tailKinds, List.length_cons, List.length_append, List.length_nil,
        htail, hrow]
      omega

end Lexer

theorem isEnd_of_mem_escape {c d : Char} (hd : d ∈ Json.escape c) : isEnd d = false := by
  rcases Json.escape_cases c with ⟨e, he, hform⟩ | ⟨hcode, hform⟩ | ⟨-, -, hspace, hform⟩ <;>
    rw [hform] at hd
  · have hall : ∀ form ∈ Json.shortForms, isEnd form.1 = false := by
      simp only [Json.shortForms, List.forall_mem_cons]
      decide
    simp only [List.mem_cons, List.not_mem_nil, or_false] at hd
    rcases hd with rfl | rfl
    · decide
    · exact hall (d, c) he
  · have hdigit : ∀ n < 16, isEnd (Text.hexDigit n).toLower = false := by decide
    simp only [Json.escapeCode, List.map_cons, List.map_nil, List.mem_append, List.mem_cons,
      List.not_mem_nil, or_false] at hd
    rcases hd with (rfl | rfl | rfl | rfl) | rfl | rfl
    · decide
    · decide
    · decide
    · decide
    · exact hdigit _ (by omega)
    · exact hdigit _ (by omega)
  · rw [List.mem_singleton.1 hd, isEnd]
    exact beq_false_of_ne (by omega)

theorem isEnd_of_mem_text {s : String} : ∀ d ∈ Json.writeText s, isEnd d = false := by
  intro d hd
  rw [Json.writeText, List.mem_cons, List.mem_append, List.mem_flatMap, List.mem_singleton] at hd
  rcases hd with rfl | ⟨c, -, hd⟩ | rfl
  · decide
  · exact isEnd_of_mem_escape hd
  · decide

theorem isEnd_of_mem_fields (rows : List (String × String)) :
    ∀ c ∈ Json.writeFields (Json.textFields rows), isEnd c = false := by
  have hmark : isEnd ',' = false ∧ isEnd ':' = false ∧ isEnd '}' = false := by decide
  induction rows with
  | nil => exact List.forall_mem_singleton.2 hmark.2.2
  | cons row rows ih =>
      intro c hc
      simp only [Json.textFields, List.map_cons, Json.writeFields, Json.writeChars,
        List.mem_cons, List.mem_append] at hc
      rcases hc with rfl | hc | rfl | hc | hc
      · exact hmark.1
      · exact isEnd_of_mem_text c hc
      · exact hmark.2.1
      · exact isEnd_of_mem_text c hc
      · exact ih c hc

theorem isEnd_of_mem_object (rows : List (String × String)) :
    ∀ c ∈ Json.writeChars (.object (Json.textFields rows)), isEnd c = false := by
  intro c hc
  have hfields : c = '{' ∨ c ∈ Json.writeFields (Json.textFields rows) := by
    cases rows with
    | nil => simpa [Json.textFields, Json.writeFields, Json.writeChars] using hc
    | cons row rows =>
        simp only [Json.textFields, List.map_cons, Json.writeFields, Json.writeChars,
          List.mem_cons] at hc ⊢
        exact hc.imp id .inr
  rcases hfields with rfl | hc
  · decide
  · exact isEnd_of_mem_fields rows c hc

/-- A table of texts is one mapping, every name of which is a key. -/
theorem tokens_write (rows : List (String × String)) :
    ∃ ts, tokens (Json.write (.object (Json.textFields rows))) = (ts, none) ∧
      ts.map Token.kind = mapKinds rows ++ [.textEnd] := by
  obtain ⟨l, steps, hend, hsteps, hrun⟩ := Lexer.run_start rows
  have hfront : (Json.writeChars (.object (Json.textFields rows))).takeWhile (fun c => !isEnd c) =
      Json.writeChars (.object (Json.textFields rows)) := by
    apply List.takeWhile_eq_self_iff.2
    intro c hc
    rw [isEnd_of_mem_object rows c hc]
    rfl
  have hrows : rows.length ≤ (Json.writeChars (.object (Json.textFields rows))).length := by
    cases rows with
    | nil => exact Nat.zero_le _
    | cons row rows =>
        have htail := Json.length_le_tailChars '}' ((Json.textFields rows).map Json.fieldText)
        rw [Json.textFields, List.map_cons, Json.writeChars_object, List.length_cons,
          List.length_cons, List.length_append]
        simp only [Json.textFields, List.length_map] at htail ⊢
        omega
  have hlength := (Lexer.length_mapKinds rows).2
  obtain ⟨fuel, hfuel⟩ : ∃ fuel, 16 * ((Json.writeChars (.object (Json.textFields rows))).length +
      1 + 1) = fuel + steps := ⟨_, (Nat.sub_add_cancel (by omega)).symm⟩
  have hrest : (mapKinds rows).length + 1 < fuel := by omega
  obtain ⟨ts, hts, hkinds⟩ := hend.run_eq (Lexer.textEnd_not_mem_mapKinds rows) hrest
  refine ⟨ts, ?_, hkinds⟩
  rw [tokens, Json.write, Cursor.ofText, String.toList_ofList, hfront, Cursor.fuel]
  dsimp only
  rw [hfuel, hrun, hts]

end Throttle.Yaml
