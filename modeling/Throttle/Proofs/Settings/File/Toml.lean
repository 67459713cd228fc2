import Throttle.Proofs.Settings.File.Common
import Throttle.Settings.File.Toml

/-!
# Reading TOML files that were written

A table is written with a name and a text on every line, both in quotes.  Main statement:
`readSettings_write`, what was written is read.
-/

namespace Throttle.Toml

/-! ## Texts -/

theorem readEscape_short {e c : Char} (h : (e, c) ∈ Json.shortForms) (cs : List Char) :
    readEscape e cs = .ok (c, cs) := by
  have hall : ∀ form ∈ Json.shortForms,
      form.1 ≠ 'u' ∧ form.1 ≠ 'U' ∧ shortEscapes.lookup form.1 = some form.2 := by
    rw [Json.shortForms]
    simp only [List.forall_mem_cons]
    decide
  obtain ⟨hsmall, hcapital, hlookup⟩ := hall (e, c) h
  rw [readEscape, if_neg hsmall, if_neg hcapital]
  simp only [hlookup]

theorem readEscape_code {c : Char} (hc : c.toNat < 32) (cs : List Char) :
    readEscape 'u' ((Json.escapeCode c).drop 2 ++ cs) = .ok (c, cs) := by
  obtain ⟨high, low, h, l, hform, hzero, hhigh, hlow, hvalue⟩ :=
    Json.exists_digits (c := c) (by omega)
  rw [hform, readEscape, if_pos rfl]
  simp [readCodePoint, hhigh, hlow, hzero, hvalue]
  omega

/-- A character is read from the form that it has inside a text. -/
theorem readLineText_escape {c : Char} (hc : c.toNat ≠ 0x7F) {fuel : Nat}
    {cs text rest : List Char} (hread : readLineText '"' fuel cs = .ok (text, rest)) :
    readLineText '"' (fuel + 1) (Json.escape c ++ cs) = .ok (c :: text, rest) := by
  rcases Json.escape_cases c with ⟨e, he, hform⟩ | ⟨hcode, hform⟩ | ⟨hquote, hback, hspace, hform⟩
  · rw [hform]
    show (readEscape e cs >>= _) = _
    rw [readEscape_short he]
    show (readLineText '"' fuel cs >>= _) = _
    rw [hread]
    rfl
  · rw [hform]
    show (readEscape 'u' ((Json.escapeCode c).drop 2 ++ cs) >>= _) = _
    rw [readEscape_code hcode]
    show (readLineText '"' fuel cs >>= _) = _
    rw [hread]
    rfl
  · rw [hform, List.singleton_append, readLineText.eq_def]
    dsimp only
    rw [if_neg hquote, if_neg (fun h => hback h.1), if_pos (by simp [isLineChar, hspace, hc]), hread]
    rfl

theorem readLineText_written {text : List Char} (htext : ∀ c ∈ text, c.toNat ≠ 0x7F)
    (rest : List Char) {fuel : Nat} (hfuel : text.length < fuel) :
    readLineText '"' fuel (text.flatMap Json.escape ++ '"' :: rest) = .ok (text, rest) := by
  induction text generalizing fuel with
  | nil =>
      obtain _ | fuel := fuel
      · exact absurd hfuel (Nat.not_lt_zero _)
      · rfl
  | cons c cs ih =>
      obtain _ | fuel := fuel
      · exact absurd hfuel (Nat.not_lt_zero _)
      rw [List.flatMap_cons, List.append_assoc]
      apply readLineText_escape (htext c List.mem_cons_self)
      exact ih (fun d hd => htext d (List.mem_cons_of_mem _ hd)) (Nat.lt_of_succ_lt_succ hfuel)

/-- A text that a line can hold. -/
def IsLineText (s : String) : Prop := ∀ c ∈ s.toList, c.toNat ≠ 0x7F

theorem readLineText_text {s : String} (h : IsLineText s) (rest : List Char) :
    readLineText '"' ((s.toList.flatMap Json.escape ++ '"' :: rest).length + 1)
      (s.toList.flatMap Json.escape ++ '"' :: rest) = .ok (s.toList, rest) := by
  have hlength := Json.length_le_escape s.toList
  apply readLineText_written h
  rw [List.length_append]
  omega

/-- A text in quotes is not taken for the beginning of a long one. -/
theorem take_two_ne {rest : List Char} (hrest : rest.head? ≠ some '"') (text : List Char) :
    (text.flatMap Json.escape ++ '"' :: rest).take 2 ≠ ['"', '"'] := by
  cases text with
  | nil =>
      cases rest with
      | nil => simp
      | cons c cs => simpa using hrest
  | cons c cs =>
      rw [List.flatMap_cons, List.append_assoc]
      rcases Json.escape_cases c with ⟨e, -, hform⟩ | ⟨-, hform⟩ | ⟨hquote, -, -, hform⟩
      · simp [hform]
      · simp [hform, Json.escapeCode]
      · simp [hform, hquote]

theorem readText_written {s : String} (h : IsLineText s) {rest : List Char}
    (hrest : rest.head? ≠ some '"') :
    readText '"' (s.toList.flatMap Json.escape ++ '"' :: rest) = .ok (s, rest) := by
  rw [readText, if_neg (take_two_ne hrest s.toList)]
  show (readLineText _ _ _ >>= _) = _
  rw [readLineText_text h]
  show Except.ok (String.ofList s.toList, rest) = _
  rw [String.ofList_toList]

/-! ## Lines -/

theorem readKey_written {name : String} (h : IsLineText name) (rest : List Char) :
    readKey (Json.writeText name ++ '=' :: rest) = .ok ([name], '=' :: rest) := by
  have hname : readName (Json.writeText name ++ '=' :: rest) = .ok (name, '=' :: rest) := by
    rw [Json.writeText_append, readName]
    show (readLineText _ _ _ >>= _) = _
    rw [readLineText_text h]
    show Except.ok (String.ofList name.toList, '=' :: rest) = _
    rw [String.ofList_toList]
  rw [readKey, hname]
  rfl

theorem readSetting_written {s : String} (h : IsLineText s) {rest : List Char}
    (hrest : rest.head? ≠ some '"') (depth fuel : Nat) :
    readSetting depth (fuel + 2) ('=' :: (Json.writeText s ++ rest)) =
      .ok (⟨"string", .text s⟩, rest) := by
  rw [Json.writeText_append, readSetting, List.head?_cons, if_pos rfl, List.drop_one, List.tail_cons]
  have hgaps : skipGaps ('"' :: (s.toList.flatMap Json.escape ++ '"' :: rest)) =
      '"' :: (s.toList.flatMap Json.escape ++ '"' :: rest) := rfl
  rw [hgaps, readValue]
  dsimp only
  rw [if_pos (Or.inl rfl), readText_written h hrest]
  rfl

/-- A new name is set at the root. -/
theorem setIn_root {fields : Fields} {name : String} (hname : name ∉ fields.map Prod.fst)
    (item : Item) : fields.setIn [] [name] item = .ok (fields ++ [(name, item)]) := by
  have hnew : fields.any (·.1 == name) = false := by
    rw [List.any_eq_false]
    intro field hfield hsame
    exact hname (eq_of_beq hsame ▸ List.mem_map_of_mem hfield)
  show (if fields.any (·.1 == name) then _ else _) = _
  rw [hnew]
  rfl

def lineChars (field : String × String) : List Char :=
  Json.writeText field.1 ++ '=' :: (Json.writeText field.2 ++ ['\n'])

def item (s : String) : Item := .value "string" (.text s)

theorem readLines_line {name s : String} (hname : IsLineText name) (hs : IsLineText s)
    {fields : Fields} (hnew : name ∉ fields.map Prod.fst) (fuel : Nat) (cs : List Char) :
    readLines (fuel + 1) [] fields (lineChars (name, s) ++ cs) =
      readLines fuel [] (fields ++ [(name, item s)]) cs := by
  have hchars : lineChars (name, s) ++ cs =
      Json.writeText name ++ '=' :: (Json.writeText s ++ '\n' :: cs) := by
    simp [lineChars]
  have hkey := readKey_written hname (Json.writeText s ++ '\n' :: cs)
  rw [hchars]
  rw [Json.writeText_append] at hkey ⊢
  have hbreak : ('\n' :: cs).head? ≠ some '"' := by simp
  rw [readLines.eq_def]
  show (readKey _ >>= _) = _
  rw [hkey]
  show (readSetting 0 (_ + 2) _ >>= _) = _
  rw [readSetting_written hs hbreak]
  dsimp only [bind, Except.bind, throw, throwThe]
  rw [← item, setIn_root hnew]
  rfl

theorem readLines_lines {rows : List (String × String)}
    (hrows : ∀ row ∈ rows, IsLineText row.1 ∧ IsLineText row.2) (fields : Fields)
    (hnames : (fields.map Prod.fst ++ rows.map Prod.fst).Nodup) {fuel : Nat}
    (hfuel : rows.length ≤ fuel) :
    readLines fuel [] fields (rows.flatMap lineChars) =
      .ok (fields ++ rows.map fun row => (row.1, item row.2)) := by
  induction rows generalizing fields fuel with
  | nil =>
      rw [List.map_nil, List.append_nil]
      cases fuel <;> rfl
  | cons row rows ih =>
      obtain _ | fuel := fuel
      · exact absurd hfuel (Nat.not_succ_le_zero _)
      obtain ⟨hname, hs⟩ := hrows row List.mem_cons_self
      have hnew : row.1 ∉ fields.map Prod.fst := by
        intro hmem
        exact (List.nodup_append.1 hnames).2.2 _ hmem _ List.mem_cons_self rfl
      have hrest : ((fields ++ [(row.1, item row.2)]).map Prod.fst ++ rows.map Prod.fst).Nodup := by
        simpa using hnames
      rw [List.flatMap_cons, readLines_line hname hs hnew,
        ih (fun other h => hrows other (List.mem_cons_of_mem _ h)) _ hrest
          (Nat.le_of_succ_le_succ hfuel),
        List.map_cons, List.append_assoc]
      rfl

/-! ## The main statement -/

theorem fieldsJson_items (rows : List (String × String)) :
    fieldsJson (rows.map fun row => (row.1, item row.2)) = Json.textFields rows := by
  induction rows with
  | nil => rfl
  | cons row rows ih =>
      rw [List.map_cons, fieldsJson, ih]
      rfl

def write (rows : List (String × String)) : String := String.ofList (rows.flatMap lineChars)

theorem length_le_lines (rows : List (String × String)) :
    rows.length ≤ (rows.flatMap lineChars).length := by
  induction rows with
  | nil => exact Nat.le_refl 0
  | cons row rows ih =>
      have hline : 1 ≤ (lineChars row).length := by
        rw [lineChars, List.length_append, List.length_cons]
        omega
      rw [List.flatMap_cons, List.length_append, List.length_cons]
      omega

/-- A table whose names differ is read again. -/
theorem readSettings_write {rows : List (String × String)}
    (hrows : ∀ row ∈ rows, IsLineText row.1 ∧ IsLineText row.2)
    (hnames : (rows.map Prod.fst).Nodup) :
    readSettings (write rows) = .ok (.object (Json.textFields rows)) := by
  have hmark : (rows.flatMap lineChars).head?.any (·.toNat == 0xFEFF) = false := by
    cases rows <;> rfl
  have hlength := length_le_lines rows
  have hread : readLines ((rows.flatMap lineChars).length + 1) [] [] (rows.flatMap lineChars) =
      .ok (rows.map fun row => (row.1, item row.2)) := by
    have hlines := readLines_lines hrows [] hnames (Nat.le_succ_of_le hlength)
    rwa [List.nil_append] at hlines
  rw [readSettings, write, String.toList_ofList, hmark, if_neg Bool.false_ne_true, hread]
  dsimp only
  rw [fieldsJson_items]

end Throttle.Toml
