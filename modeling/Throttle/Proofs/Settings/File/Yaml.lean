import Throttle.Proofs.Text.Quoted
import Throttle.Proofs.Yaml.Tokens
import Throttle.Settings.File.Yaml

/-!
# Reading YAML files that were written

The kinds of the tokens decide what a document is, so readings are described by the kinds that they
take.  Main statement: `readSettings_write`, a table of texts that was written for JSON is read as
YAML, if no name stands in it twice.
-/

namespace Throttle.Yaml

def textEntries (rows : List (String × String)) : List (Node × Node) :=
  rows.map fun row => (.text row.1, .text row.2)

theorem describe_text_inj {s t : String} (h : (Node.text s).describe = (Node.text t).describe) :
    s = t := by
  rw [Node.describe, Node.describe] at h
  exact Text.quoted_inj ((String.append_right_inj _).1 ((String.append_left_inj _).1 h))

namespace Reading

section Combinators

variable {α β : Type} {r : Reading α} {f : α → Reading β} {a : α} {p : α → Prop} {q : β → Prop}
  {kind : TokenKind} {kinds kinds' kinds'' : List TokenKind}

/-- Tokens of these kinds are left, and nothing was wrong before them. -/
structure Holds (stream : Stream) (kinds : List TokenKind) : Prop where
  kinds_eq : stream.tokens.map Token.kind = kinds
  fault_eq : stream.fault = none
  repeated_eq : stream.repeated = none

/-- Before tokens of these kinds a reading gives what has the property, and leaves the others. -/
def Takes (r : Reading α) (kinds : List TokenKind) (p : α → Prop) (kinds' : List TokenKind) :
    Prop :=
  ∀ stream, Holds stream kinds →
    ∃ a stream', r.run stream = .ok (a, stream') ∧ p a ∧ Holds stream' kinds'

theorem takes_pure (h : p a) : Takes (pure a) kinds p kinds :=
  fun stream hstream => ⟨a, stream, rfl, h, hstream⟩

theorem Takes.bind (h : Takes r kinds p kinds')
    (hf : ∀ a, p a → Takes (f a) kinds' q kinds'') : Takes (r >>= f) kinds q kinds'' := by
  intro stream hstream
  obtain ⟨a, stream', hrun, ha, hstream'⟩ := h stream hstream
  obtain ⟨b, stream'', hrun', hb, hstream''⟩ := hf a ha stream' hstream'
  refine ⟨b, stream'', ?_, hb, hstream''⟩
  rw [StateT.run_bind, hrun]
  exact hrun'

theorem takes_next : Takes next (kind :: kinds) (·.kind = kind) (kind :: kinds) := by
  intro stream hstream
  obtain ⟨token, others, htokens, hkind, -⟩ := List.map_eq_cons_iff.1 hstream.kinds_eq
  refine ⟨token, stream, ?_, hkind, hstream⟩
  cases stream
  cases htokens
  rfl

theorem takes_modify {f : Stream → Stream}
    (h : ∀ stream, Holds stream kinds → Holds (f stream) kinds') :
    Takes (modify f) kinds (fun _ => True) kinds' :=
  fun stream hstream => ⟨(), f stream, rfl, trivial, h stream hstream⟩

theorem takes_skip : Takes skip (kind :: kinds) (fun _ => True) kinds := by
  apply takes_modify
  intro stream hstream
  refine { hstream with kinds_eq := ?_ }
  show stream.tokens.tail.map Token.kind = kinds
  rw [List.map_tail, hstream.kinds_eq, List.tail_cons]

/-- What is not about the tokens may change. -/
theorem takes_modify_other {f : Stream → Stream}
    (h : ∀ stream, Holds stream kinds → Holds (f stream) kinds) :
    Takes (modify f) kinds (fun _ => True) kinds :=
  takes_modify h

end Combinators

/-! ## Nodes -/

section Nodes

variable {ks ks' : List TokenKind}

theorem takes_properties {kind : TokenKind}
    (hkind : kind = .flowMapStart ∨ ∃ s, kind = .scalar false s) :
    Takes properties (kind :: ks) (· = {}) (kind :: ks) := by
  refine takes_next.bind fun first hfirst => ?_
  rw [hfirst]
  rcases hkind with rfl | ⟨s, rfl⟩ <;> exact takes_pure rfl

theorem takes_text (inBlock mayBeBare : Bool) (fuel : Nat) (s : String) :
    Takes (node inBlock mayBeBare (fuel + 2)) (.scalar false s :: ks) (·.1 = .text s) ks := by
  have hscalar : Takes (nodeWith {} inBlock mayBeBare (fuel + 1)) (.scalar false s :: ks)
      (·.1 = .text s) ks := by
    rw [nodeWith]
    refine takes_next.bind fun token htoken => ?_
    rw [htoken]
    exact takes_skip.bind fun _ _ => takes_pure rfl
  rw [node]
  refine takes_next.bind fun first hfirst => ?_
  rw [hfirst]
  refine (takes_properties (.inr ⟨s, rfl⟩)).bind ?_
  rintro _ rfl
  refine hscalar.bind fun placed hplaced => ?_
  exact (takes_pure (p := fun _ => True) trivial).bind fun _ _ => takes_pure hplaced

/-- A key waits for its value. -/
theorem takes_addTo_key {scan : MapScan} (hscan : scan.key = none) {placed : Placed} {name : String}
    (hplaced : placed.1 = .text name) :
    Takes (addTo scan placed) ks (· = { scan with key := some (.text name) }) ks := by
  rw [addTo, hscan, hplaced]
  exact takes_pure rfl

theorem takes_addTo_value {scan : MapScan} {name s : String} (hscan : scan.key = some (.text name))
    {placed : Placed} (hplaced : placed.1 = .text s)
    (hnew : ∀ entry ∈ scan.entries, entry.1.describe ≠ (Node.text name).describe) :
    Takes (addTo scan placed) ks
      (· = ⟨scan.entries ++ [(.text name, .text s)], none⟩) ks := by
  have hany : (scan.entries.any fun entry => entry.1.describe == (Node.text name).describe) =
      false := by
    rw [List.any_eq_false]
    intro entry hentry hsame
    exact hnew entry hentry (eq_of_beq hsame)
  rw [addTo, hscan, hplaced]
  dsimp only
  rw [hany, if_neg Bool.false_ne_true]
  exact takes_pure rfl

end Nodes

/-! ## Mappings -/

section Mappings

variable {ks ks' : List TokenKind} {p : Placed → Prop}

/-- A row is added to what was read before, if its name is a new one. -/
theorem takes_row (isFirst : Bool) {fuel : Nat} {entries : List (Node × Node)}
    (row : String × String)
    (hnew : ∀ entry ∈ entries, entry.1.describe ≠ (Node.text row.1).describe)
    (h : Takes (flowMap false (fuel + 2) ⟨entries ++ [(.text row.1, .text row.2)], none⟩)
      ks p ks') :
    Takes (flowMap isFirst (fuel + 4) ⟨entries, none⟩)
      ((if isFirst then [] else [.comma]) ++ (rowKinds row ++ ks)) p ks' := by
  have hvalue : Takes (flowValue (fuel + 3) ⟨entries, some (.text row.1)⟩)
      (.value :: .scalar false row.2 :: ks) p ks' := by
    rw [flowValue]
    refine takes_next.bind fun token htoken => ?_
    rw [htoken, if_pos (by decide)]
    refine takes_skip.bind fun _ _ => takes_next.bind fun first hfirst => ?_
    rw [if_neg (by simp [endsFlowEntry, hfirst])]
    refine (takes_text false false fuel row.2).bind fun placed hplaced => ?_
    refine (takes_addTo_value rfl hplaced hnew).bind ?_
    rintro _ rfl
    exact h
  rw [flowMap]
  cases isFirst
  -- Before every row but the first there is a comma.
  case' false =>
    refine takes_next.bind fun token htoken => ?_
    rw [htoken, if_neg (by decide)]
    dsimp only
    rw [if_pos (by decide), if_pos (by decide)]
    refine takes_skip.bind fun _ _ => ?_
  case' true =>
    refine takes_next.bind fun token htoken => ?_
    rw [htoken, if_neg (by decide)]
    dsimp only
    rw [if_neg (by decide)]
  all_goals
    refine takes_next.bind fun first hfirst => ?_
    rw [hfirst]
    refine takes_skip.bind fun _ _ => takes_next.bind fun begins hbegins => ?_
    rw [if_neg (by simp [endsFlowEntry, hbegins])]
    refine (takes_text false false (fuel + 1) row.1).bind fun placed hplaced => ?_
    refine (takes_addTo_key rfl hplaced).bind ?_
    rintro _ rfl
    exact hvalue

theorem describe_ne {done : List (String × String)} {name : String}
    (hname : name ∉ done.map Prod.fst) :
    ∀ entry ∈ textEntries done, entry.1.describe ≠ (Node.text name).describe := by
  intro entry hentry hsame
  obtain ⟨row, hrow, rfl⟩ := List.mem_map.1 hentry
  apply hname
  rw [← describe_text_inj hsame]
  exact List.mem_map_of_mem hrow

/-- The rows that are left are added to those that were read before. -/
theorem takes_rows {rows : List (String × String)} (done : List (String × String))
    (hnames : (done.map Prod.fst ++ rows.map Prod.fst).Nodup) {fuel : Nat}
    (hfuel : 2 * rows.length + 1 < fuel) :
    Takes (flowMap false fuel ⟨textEntries done, none⟩) (tailKinds rows ++ ks)
      (·.1 = .map (textEntries (done ++ rows))) ks := by
  induction rows generalizing done fuel with
  | nil =>
      obtain _ | fuel := fuel
      · exact absurd hfuel (Nat.not_lt_zero _)
      rw [flowMap, List.append_nil]
      refine takes_next.bind fun token htoken => ?_
      rw [htoken, if_pos (by decide)]
      exact takes_skip.bind fun _ _ => takes_pure rfl
  | cons row rows ih =>
      rw [List.length_cons] at hfuel
      obtain ⟨fuel, rfl⟩ : ∃ n, fuel = n + 4 := ⟨fuel - 4, by omega⟩
      have hnew : row.1 ∉ done.map Prod.fst := fun hmem =>
        (List.nodup_append.1 hnames).2.2 _ hmem _ List.mem_cons_self rfl
      have hrest : ((done ++ [row]).map Prod.fst ++ rows.map Prod.fst).Nodup := by
        simpa using hnames
      have hentries : textEntries (done ++ [row]) =
          textEntries done ++ [(.text row.1, .text row.2)] := by simp [textEntries]
      have hfewer : 2 * rows.length + 1 < fuel + 2 := by omega
      have hrows := ih (done ++ [row]) hrest hfewer
      have htail : tailKinds (row :: rows) ++ ks =
          [.comma] ++ (rowKinds row ++ (tailKinds rows ++ ks)) := by
        simp [tailKinds]
      rw [hentries, List.append_assoc, List.singleton_append] at hrows
      rw [htail]
      exact takes_row false row (describe_ne hnew) hrows

end Mappings

/-! ## Documents -/

theorem takes_map {rows : List (String × String)} (hnames : (rows.map Prod.fst).Nodup)
    {fuel : Nat} (hfuel : 2 * rows.length + 3 < fuel) (ks : List TokenKind) :
    Takes (node true false fuel) (mapKinds rows ++ ks) (·.1 = .map (textEntries rows)) ks := by
  obtain ⟨fuel, rfl⟩ : ∃ n, fuel = n + 4 := ⟨fuel - 4, by omega⟩
  have hmap : ∃ kinds, mapKinds rows ++ ks = .flowMapStart :: kinds ∧
      Takes (flowMap true (fuel + 2) {}) kinds (·.1 = .map (textEntries rows)) ks := by
    cases rows with
    | nil =>
        refine ⟨_, rfl, ?_⟩
        rw [flowMap]
        refine takes_next.bind fun token htoken => ?_
        rw [htoken, if_pos (by decide)]
        exact takes_skip.bind fun _ _ => takes_pure rfl
    | cons row rows =>
        rw [List.length_cons] at hfuel
        obtain ⟨fuel, rfl⟩ : ∃ n, fuel = n + 2 := ⟨fuel - 2, by omega⟩
        have hrows : Takes (flowMap false (fuel + 2) ⟨textEntries [row], none⟩)
            (tailKinds rows ++ ks) (·.1 = .map (textEntries (row :: rows))) ks :=
          takes_rows [row] hnames (by omega)
        refine ⟨rowKinds row ++ (tailKinds rows ++ ks), by simp [mapKinds], ?_⟩
        exact takes_row true row (fun _ h => by cases h) hrows
  obtain ⟨kinds, hkinds, hmap⟩ := hmap
  rw [hkinds, node]
  refine takes_next.bind fun first hfirst => ?_
  rw [hfirst]
  refine (takes_properties (.inl rfl)).bind ?_
  rintro _ rfl
  have hnode : Takes (nodeWith {} true false (fuel + 3)) (.flowMapStart :: kinds)
      (·.1 = .map (textEntries rows)) ks := by
    rw [nodeWith]
    refine takes_next.bind fun token htoken => ?_
    rw [htoken]
    exact takes_skip.bind fun _ _ => hmap
  refine hnode.bind fun placed hplaced => ?_
  exact (takes_pure (p := fun _ => True) trivial).bind fun _ _ => takes_pure hplaced

theorem mapKinds_eq_cons (rows : List (String × String)) :
    ∃ kinds, mapKinds rows = .flowMapStart :: kinds := by
  cases rows <;> exact ⟨_, rfl⟩

theorem takes_skipEnds {kind : TokenKind} {kinds : List TokenKind} (hkind : kind ≠ .documentEnd)
    (fuel : Nat) : Takes (skipEnds fuel) (kind :: kinds) (fun _ => True) (kind :: kinds) := by
  cases fuel with
  | zero => exact takes_pure trivial
  | succ fuel =>
      rw [skipEnds]
      refine takes_next.bind fun token htoken => ?_
      rw [htoken, if_neg (by simpa using hkind)]
      exact takes_pure trivial

theorem takes_documents {rows : List (String × String)} (hnames : (rows.map Prod.fst).Nodup)
    {fuel : Nat} (hfuel : 2 * rows.length + 5 < fuel) :
    Takes (documents fuel true []) (mapKinds rows ++ [.textEnd])
      (· = [.map (textEntries rows)]) [.textEnd] := by
  obtain ⟨fuel, rfl⟩ : ∃ n, fuel = n + 2 := ⟨fuel - 2, by omega⟩
  have hless : 2 * rows.length + 3 < fuel + 1 := by omega
  have hnode := takes_map hnames hless [.textEnd]
  obtain ⟨kinds, hkinds⟩ := mapKinds_eq_cons rows
  rw [hkinds, List.cons_append] at hnode ⊢
  rw [documents]
  refine (takes_skipEnds (by decide) _).bind fun _ _ => takes_next.bind fun token htoken => ?_
  rw [htoken, if_neg (by decide)]
  refine (takes_modify_other ?_).bind fun _ _ => ?_
  · exact fun _ h => ⟨h.1, h.2, h.3⟩
  dsimp only
  rw [if_neg (by decide), map_eq_pure_bind, bind_assoc]
  refine hnode.bind fun placed hplaced => ?_
  rw [pure_bind, hplaced]
  refine takes_next.bind fun after hafter =>
    (takes_modify_other ?_).bind fun _ _ => ?_
  · exact fun _ h => ⟨h.1, h.2, h.3⟩
  rw [hafter, if_neg (by decide), if_neg (by decide), documents]
  refine (takes_skipEnds (by decide) _).bind fun _ _ => takes_next.bind fun last hlast => ?_
  rw [hlast, if_pos (by decide)]
  exact takes_pure rfl

end Reading

theorem documents?_write {rows : List (String × String)} (hnames : (rows.map Prod.fst).Nodup) :
    documents? (Json.write (.object (Json.textFields rows))) = .ok [.map (textEntries rows)] := by
  obtain ⟨ts, hts, hkinds⟩ := tokens_write rows
  have hlength : 2 * rows.length + 5 < 4 * ts.length + 16 := by
    have hrows := (Lexer.length_mapKinds rows).1
    rw [← List.length_map Token.kind, hkinds, List.length_append]
    omega
  obtain ⟨documents, stream, hrun, rfl, hstream⟩ :=
    Reading.takes_documents hnames hlength { tokens := ts, fault := none } ⟨hkinds, rfl, rfl⟩
  rw [documents?, hts]
  dsimp only [bind, Except.bind]
  rw [hrun]
  dsimp only
  rw [hstream.repeated_eq]
  rfl

theorem fields?_textEntries (rows : List (String × String)) :
    Node.fields? (textEntries rows) = .ok (Json.textFields rows) := by
  induction rows with
  | nil => rfl
  | cons row rows ih =>
      rw [textEntries] at ih
      rw [textEntries, List.map_cons, Node.fields?, ih]
      rfl

/-- A table whose names differ is read again. -/
theorem readSettings_write {rows : List (String × String)} (hnames : (rows.map Prod.fst).Nodup) :
    readSettings (Json.write (.object (Json.textFields rows))) =
      .ok (.object (Json.textFields rows)) := by
  rw [readSettings, documents?_write hnames]
  show (Node.map (textEntries rows)).value? = _
  rw [Node.value?, fields?_textEntries]
  rfl

end Throttle.Yaml
