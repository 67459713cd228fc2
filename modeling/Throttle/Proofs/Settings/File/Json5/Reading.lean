import Throttle.Proofs.Settings.File.Common
import Throttle.Settings.File.Json5

/-!
# What a reading reads

A reading reads a value and leaves the rest of a text, or it fails, and perhaps leaves the text to
another reading.  What it has noted of its misses on the way is left open, so that the statements
about the parts of a text make up those about the whole.
-/

namespace Throttle.Json5.Reading

section Combinators

variable {α β : Type} {r s : Reading α} {f : α → Reading β} {a : α} {b : β}
  {cs mid rest : List Char} {scan after : Scan}

/-! ## What is read and what is left -/

theorem run_bind_of_some (h : r.run scan = (some a, after)) :
    (r >>= f).run scan = (f a).run after := by
  simp only [OptionT.run, bind, OptionT.bind, OptionT.mk, StateT.bind] at *
  rw [h]

theorem run_bind_of_none (h : r.run scan = (none, after)) :
    (r >>= f).run scan = (none, after) := by
  simp only [OptionT.run, bind, OptionT.bind, OptionT.mk, StateT.bind] at *
  rw [h]
  rfl

theorem run_orElse_of_some (h : r.run scan = (some a, after)) :
    (r <|> s).run scan = (some a, after) := by
  rw [OptionT.run_orElse]
  simp only [OptionT.run, Option.elimM, bind, StateT.bind] at *
  rw [h]
  rfl

theorem run_orElse_of_none (h : r.run scan = (none, after)) :
    (r <|> s).run scan = s.run after := by
  rw [OptionT.run_orElse]
  simp only [OptionT.run, Option.elimM, bind, StateT.bind] at *
  rw [h]
  rfl

/-- A reading reads this value from a text and leaves the rest. -/
def Reads (r : Reading α) (cs : List Char) (a : α) (rest : List Char) : Prop :=
  ∀ scan : Scan, scan.rest = cs → ∃ after, r.run scan = (some a, after) ∧ after.rest = rest

/-- A reading fails on a text. -/
def Fails (r : Reading α) (cs : List Char) : Prop :=
  ∀ scan : Scan, scan.rest = cs → ∃ after, r.run scan = (none, after)

/-- A reading fails on a text and leaves it for another one. -/
def Declines (r : Reading α) (cs : List Char) : Prop :=
  ∀ scan : Scan, scan.rest = cs → ∃ after, r.run scan = (none, after) ∧ after.rest = cs

theorem Declines.fails (h : Declines r cs) : Fails r cs := by
  intro scan hscan
  obtain ⟨after, hrun, -⟩ := h scan hscan
  exact ⟨after, hrun⟩

theorem reads_pure (a : α) (cs : List Char) : Reads (pure a) cs a cs :=
  fun scan hscan => ⟨scan, rfl, hscan⟩

theorem Reads.bind (hr : Reads r cs a mid) (hf : Reads (f a) mid b rest) :
    Reads (r >>= f) cs b rest := by
  intro scan hscan
  obtain ⟨after, hrun, hafter⟩ := hr scan hscan
  rw [run_bind_of_some hrun]
  exact hf after hafter

theorem Reads.bind_fails (hr : Reads r cs a mid) (hf : Fails (f a) mid) : Fails (r >>= f) cs := by
  intro scan hscan
  obtain ⟨after, hrun, hafter⟩ := hr scan hscan
  rw [run_bind_of_some hrun]
  exact hf after hafter

theorem Fails.bind (hr : Fails r cs) : Fails (r >>= f) cs := by
  intro scan hscan
  obtain ⟨after, hrun⟩ := hr scan hscan
  exact ⟨after, run_bind_of_none hrun⟩

theorem Declines.bind (hr : Declines r cs) : Declines (r >>= f) cs := by
  intro scan hscan
  obtain ⟨after, hrun, hafter⟩ := hr scan hscan
  exact ⟨after, run_bind_of_none hrun, hafter⟩

theorem Reads.map (g : α → β) (h : Reads r cs a rest) : Reads (g <$> r) cs (g a) rest := by
  rw [map_eq_pure_bind]
  exact h.bind (reads_pure (g a) rest)

theorem Fails.map (g : α → β) (h : Fails r cs) : Fails (g <$> r) cs := by
  rw [map_eq_pure_bind]
  exact h.bind

theorem Declines.map (g : α → β) (h : Declines r cs) : Declines (g <$> r) cs := by
  rw [map_eq_pure_bind]
  exact h.bind

theorem Reads.orElse (h : Reads r cs a rest) : Reads (r <|> s) cs a rest := by
  intro scan hscan
  obtain ⟨after, hrun, hafter⟩ := h scan hscan
  exact ⟨after, run_orElse_of_some hrun, hafter⟩

theorem Declines.orElse (hr : Declines r cs) (hs : Reads s cs a rest) :
    Reads (r <|> s) cs a rest := by
  intro scan hscan
  obtain ⟨after, hrun, hafter⟩ := hr scan hscan
  rw [run_orElse_of_none hrun]
  exact hs after hafter

theorem Declines.orElse_fails (hr : Declines r cs) (hs : Fails s cs) : Fails (r <|> s) cs := by
  intro scan hscan
  obtain ⟨after, hrun, hafter⟩ := hr scan hscan
  rw [run_orElse_of_none hrun]
  exact hs after hafter

theorem Declines.orElse_declines (hr : Declines r cs) (hs : Declines s cs) :
    Declines (r <|> s) cs := by
  intro scan hscan
  obtain ⟨after, hrun, hafter⟩ := hr scan hscan
  rw [run_orElse_of_none hrun]
  exact hs after hafter

theorem Reads.lookFor (thing : Thing) (h : Reads r cs a rest) :
    Reads (lookFor thing r) cs a rest := by
  intro scan hscan
  obtain ⟨after, hrun, hafter⟩ := h scan hscan
  refine ⟨after, ?_, hafter⟩
  simp only [Reading.lookFor, OptionT.run_mk, hrun]

theorem rest_miss (scan earlier : Scan) (thing : Thing) :
    (scan.miss earlier thing).rest = earlier.rest := by
  unfold Scan.miss
  dsimp only
  split
  · rfl
  · split <;> rfl

theorem Fails.lookFor (thing : Thing) (h : Fails r cs) : Declines (lookFor thing r) cs := by
  intro scan hscan
  obtain ⟨after, hrun⟩ := h scan hscan
  refine ⟨after.miss scan thing, ?_, (rest_miss after scan thing).trans hscan⟩
  simp only [Reading.lookFor, OptionT.run_mk, hrun]

theorem Reads.backtrack (h : Reads r cs a rest) : Reads (backtrack r) cs a rest := by
  intro scan hscan
  obtain ⟨after, hrun, hafter⟩ := h scan hscan
  refine ⟨after, ?_, hafter⟩
  simp only [Reading.backtrack, OptionT.run_mk, hrun]

theorem Fails.backtrack (h : Fails r cs) : Declines (backtrack r) cs := by
  intro scan hscan
  obtain ⟨after, hrun⟩ := h scan hscan
  refine ⟨{ after with rest := scan.rest, place := scan.place }, ?_, hscan⟩
  simp only [Reading.backtrack, OptionT.run_mk, hrun]

theorem Reads.optional (h : Reads r cs a rest) : Reads (optional r) cs (some a) rest :=
  (h.backtrack.map some).orElse

theorem Fails.optional (h : Fails r cs) : Reads (optional r) cs none cs :=
  (h.backtrack.map some).orElse (reads_pure none cs)

/-- A reading that looks at the scan first. -/
theorem reads_get_bind {f : Scan → Reading β}
    (h : ∀ scan : Scan, scan.rest = cs → Reads (f scan) cs b rest) :
    Reads (get >>= f) cs b rest :=
  fun scan hscan => h scan hscan scan hscan

end Combinators

/-! ## Characters and words -/

section Characters

variable {p : Char → Bool} {c : Char} {cs rest : List Char}

theorem reads_set (scan : Scan) (cs : List Char) : Reads (set scan) cs ⟨⟩ scan.rest :=
  fun _ _ => ⟨scan, rfl, rfl⟩

theorem reads_charWith (h : p c = true) (cs : List Char) : Reads (charWith p) (c :: cs) c cs := by
  apply reads_get_bind
  intro scan hscan
  rw [hscan]
  dsimp only
  rw [if_pos h]
  refine (reads_set (scan.skip 1) (c :: cs)).bind ?_
  have hrest : (scan.skip 1).rest = cs := by simp [Scan.skip, hscan]
  rw [hrest]
  exact reads_pure c cs

theorem declines_charWith (h : ∀ c ∈ cs.head?, p c = false) : Declines (charWith p) cs := by
  intro scan hscan
  refine ⟨scan, ?_, hscan⟩
  obtain ⟨whole, place, furthest, missed⟩ := scan
  cases hscan
  cases whole with
  | nil => rfl
  | cons c cs =>
      show (if p c then _ else failure : Reading Char).run _ = _
      rw [if_neg (by rw [h c rfl]; decide)]
      rfl

theorem reads_word (s : String) (rest : List Char) :
    Reads (word s) (s.toList ++ rest) ⟨⟩ rest := by
  apply reads_get_bind
  intro scan hscan
  have htake : (s.toList ++ rest).take s.length = s.toList := by
    rw [← String.length_toList, List.take_left]
  have hdrop : (scan.skip s.length).rest = rest := by
    rw [Scan.skip, hscan, ← String.length_toList, List.drop_left]
  rw [hscan, htake, if_pos rfl]
  have hset := reads_set (scan.skip s.length) (s.toList ++ rest)
  rwa [hdrop] at hset

theorem declines_word {s : String} (h : cs.take s.length ≠ s.toList) : Declines (word s) cs := by
  intro scan hscan
  refine ⟨scan, ?_, hscan⟩
  show (if scan.rest.take s.length = s.toList then _ else failure : Reading Unit).run scan = _
  rw [hscan, if_neg h]
  rfl

theorem declines_word_cons {s : String} {d : Char} (hs : s.toList.head? = some d) (h : c ≠ d) :
    Declines (word s) (c :: cs) := by
  apply declines_word
  intro htake
  rw [← htake, ← String.length_toList] at hs
  cases hlist : s.toList with
  | nil => simp [hlist] at hs
  | cons e es =>
      rw [hlist, List.length_cons, List.take_succ_cons] at hs
      exact h (Option.some.inj hs)

theorem drop_takeWhile (p : Char → Bool) (cs : List Char) :
    cs.drop (cs.takeWhile p).length = cs.dropWhile p := by
  calc
    _ = (cs.takeWhile p ++ cs.dropWhile p).drop (cs.takeWhile p).length := by
      rw [List.takeWhile_append_dropWhile]
    _ = cs.dropWhile p := List.drop_left

theorem reads_charsWith (p : Char → Bool) (cs : List Char) :
    Reads (charsWith p) cs (cs.takeWhile p) (cs.dropWhile p) := by
  apply reads_get_bind
  intro scan hscan
  rw [hscan]
  refine (reads_set (scan.skip _) cs).bind ?_
  have hrest : (scan.skip (cs.takeWhile p).length).rest = cs.dropWhile p := by
    rw [Scan.skip, hscan]
    exact drop_takeWhile p cs
  rw [hrest]
  exact reads_pure _ _

end Characters

/-! ## Gaps and parts -/

/-- A text that begins with no gap. -/
def IsSolid (cs : List Char) : Prop := ∀ c ∈ cs.head?, Scan.isBlank c = false ∧ c ≠ '/'

theorem rest_skipVoid {scan : Scan} (h : IsSolid scan.rest) (fuel : Nat) :
    (scan.skipVoid fuel).rest = scan.rest := by
  cases fuel with
  | zero => rfl
  | succ fuel =>
      have hblank : scan.rest.takeWhile Scan.isBlank = [] := by
        cases hrest : scan.rest with
        | nil => rfl
        | cons c cs => exact List.takeWhile_cons_of_neg (by simp [(h c (by rw [hrest]; rfl)).1])
      have hskip : (scan.skip 0).rest = scan.rest := rfl
      rw [Scan.skipVoid, hblank]
      dsimp only [List.length_nil]
      split
      · next heq =>
        rw [hskip] at heq
        exact absurd rfl (h '/' (by rw [heq]; rfl)).2
      · next heq =>
        rw [hskip] at heq
        exact absurd rfl (h '/' (by rw [heq]; rfl)).2
      · rfl

theorem reads_skipVoid {cs : List Char} (h : IsSolid cs) : Reads skipVoid cs ⟨⟩ cs := by
  intro scan hscan
  refine ⟨_, rfl, ?_⟩
  rw [rest_skipVoid (by rw [hscan]; exact h), hscan]

theorem isSolid_cons {c : Char} (hblank : Scan.isBlank c = false) (hslash : c ≠ '/')
    (cs : List Char) : IsSolid (c :: cs) := by
  intro d hd
  cases hd
  exact ⟨hblank, hslash⟩

theorem isSolid_of_endsValue {rest : List Char} (h : Json.EndsValue rest) : IsSolid rest := by
  intro c hc
  rcases h c hc with rfl | rfl | rfl <;> decide

section Between

variable {α : Type} {reading : Reading α}

/-- A part is read to its end, and begins with no gap and no bracket that closes. -/
structure IsPart (reading : Reading α) (part : List Char × α) : Prop where
  begins : ∃ c cs, part.1 = c :: cs ∧ Scan.isBlank c = false ∧ c ≠ '/' ∧ c ≠ ']' ∧ c ≠ '}'
  reads : ∀ rest, Json.EndsValue rest → Reads reading (part.1 ++ rest) part.2 rest

theorem IsPart.isSolid {part : List Char × α} (h : IsPart reading part) (rest : List Char) :
    IsSolid (part.1 ++ rest) := by
  obtain ⟨c, cs, hpart, hblank, hslash, -⟩ := h.begins
  rw [hpart]
  exact isSolid_cons hblank hslash _

variable {closing : Char} (hclosing : closing = ']' ∨ closing = '}')

include hclosing

theorem reads_further {parts : List (List Char × α)} (hparts : ∀ part ∈ parts, IsPart reading part)
    (rest : List Char) {fuel : Nat} (hfuel : parts.length < fuel) :
    Reads (further reading fuel) (Json.tailChars closing (parts.map Prod.fst) ++ rest)
      (parts.map Prod.snd) (closing :: rest) := by
  have hends := fun parts => Json.tailChars_ends hclosing parts rest
  induction parts generalizing fuel with
  | nil =>
      obtain _ | fuel := fuel
      · exact absurd hfuel (Nat.not_lt_zero _)
      have hcomma : Declines (word ",") (closing :: rest) := by
        apply declines_word_cons rfl
        rcases hclosing with rfl | rfl <;> decide
      show Reads _ (closing :: rest) _ _
      refine Reads.bind (Fails.optional ?_) (reads_pure _ _)
      exact (reads_skipVoid (isSolid_of_endsValue (hends []))).bind_fails hcomma.bind.fails
  | cons part parts ih =>
      obtain _ | fuel := fuel
      · exact absurd hfuel (Nat.not_lt_zero _)
      have hpart := hparts part List.mem_cons_self
      have hmore := ih (fun other h => hparts other (List.mem_cons_of_mem _ h))
        (Nat.lt_of_succ_lt_succ hfuel)
      rw [List.map_cons, Json.tailChars, List.cons_append, List.append_assoc]
      refine Reads.bind (Reads.optional ?_) (hmore.bind (reads_pure _ _))
      refine (reads_skipVoid (isSolid_cons (by decide) (by decide) _)).bind ?_
      refine (reads_word "," _).bind ?_
      refine (reads_skipVoid (hpart.isSolid _)).bind ?_
      exact hpart.reads _ (hends _)

variable {first last : String} {opening : Char} (hfirst : first.toList = [opening])
  (hlast : last.toList = [closing])

include hfirst hlast

theorem reads_between_nil (reading : Reading α) (rest : List Char) :
    Reads (between first last reading) (opening :: closing :: rest) [] rest := by
  have hopen := reads_word first (closing :: rest)
  have hclose := reads_word last rest
  rw [hfirst] at hopen
  rw [hlast] at hclose
  have hsolid : IsSolid (closing :: rest) := by
    rcases hclosing with rfl | rfl <;> exact isSolid_cons (by decide) (by decide) _
  apply Reads.orElse
  apply Reads.backtrack
  exact hopen.bind ((reads_skipVoid hsolid).bind (hclose.bind (reads_pure _ _)))

theorem reads_between_cons {part : List Char × α} {parts : List (List Char × α)}
    (hparts : ∀ p ∈ part :: parts, IsPart reading p) (rest : List Char) :
    Reads (between first last reading)
      (opening :: (part.1 ++ (Json.tailChars closing (parts.map Prod.fst) ++ rest)))
      (part.2 :: parts.map Prod.snd) rest := by
  have hpart := hparts part List.mem_cons_self
  have hends := Json.tailChars_ends hclosing (parts.map Prod.fst) rest
  have hopen := reads_word first
    (part.1 ++ (Json.tailChars closing (parts.map Prod.fst) ++ rest))
  have hclose := reads_word last rest
  rw [hfirst] at hopen
  rw [hlast] at hclose
  have hinside := reads_skipVoid
    (hpart.isSolid (Json.tailChars closing (parts.map Prod.fst) ++ rest))
  have hnotEmpty : Declines (word last)
      (part.1 ++ (Json.tailChars closing (parts.map Prod.fst) ++ rest)) := by
    obtain ⟨c, cs, hbegins, -, -, hlist, hobject⟩ := hpart.begins
    rw [hbegins]
    apply declines_word_cons (d := closing) (by rw [hlast]; rfl)
    rcases hclosing with rfl | rfl
    · exact hlist
    · exact hobject
  have hsolid : IsSolid (closing :: rest) :=
    isSolid_of_endsValue (Json.tailChars_ends hclosing [] rest)
  have hcomma : Declines (word ",") (closing :: rest) := by
    apply declines_word_cons rfl
    rcases hclosing with rfl | rfl <;> decide
  refine (hopen.bind_fails (hinside.bind_fails hnotEmpty.bind.fails)).backtrack.orElse ?_
  refine hopen.bind (hinside.bind ((hpart.reads _ hends).bind ?_))
  apply reads_get_bind
  intro scan hscan
  have hfuel : parts.length < scan.rest.length + 1 := by
    have hlength := Json.length_le_tailChars closing (parts.map Prod.fst)
    rw [hscan, List.length_append]
    rw [List.length_map] at hlength
    omega
  refine (reads_further hclosing (fun p hp => hparts p (List.mem_cons_of_mem _ hp)) rest
    hfuel).bind ?_
  refine (reads_skipVoid hsolid).bind ?_
  refine (hcomma.fails.optional.map _).bind ?_
  exact (reads_skipVoid hsolid).bind (hclose.bind (reads_pure _ _))

end Between

end Throttle.Json5.Reading
