import Throttle.Proofs.Settings.File.Common
import Throttle.Settings.File.Ini

/-!
# Reading INI files that were written

A table is written with a field on every line and its sections behind the fields.  Texts stand in
quotes, and whatever ends or begins something is written behind a backslash.  Main statement:
`readSettings_write`, what was written is read.
-/

namespace Throttle.Ini

/-! ## Escapes -/

/-- The characters that end or begin something somewhere. -/
def marks : List Char := ['\\', '"', '=', ':', ';', '#', '[', ']']

def escape (c : Char) : List Char := if c ∈ marks then ['\\', c] else [c]

/-- A backslash before a mark stands for that mark. -/
theorem readUntil_mark {expected : List Char} (hexpected : '\\' ∉ expected) {mayEnd : Bool}
    {fuel : Nat} {c : Char} (hc : c ∈ marks) {cs text rest : List Char}
    (hread : readUntil expected mayEnd fuel cs = .ok (text, rest)) :
    readUntil expected mayEnd (fuel + 1) ('\\' :: c :: cs) = .ok (c :: text, rest) := by
  have hplain : c ≠ '\n' ∧ c ≠ 'x' ∧ shortEscapes.lookup c = none := by
    have hall : marks.all (fun c => decide (c ≠ '\n' ∧ c ≠ 'x' ∧ shortEscapes.lookup c = none)) := by
      decide
    exact of_decide_eq_true (List.all_eq_true.1 hall c hc)
  obtain ⟨hline, hx, hlookup⟩ := hplain
  rw [readUntil, if_neg (by simpa using hexpected), hread, hlookup]
  · rfl
  · exact hline
  · exact hx

theorem readUntil_plain {expected : List Char} {mayEnd : Bool} {fuel : Nat} {c : Char}
    (hc : c ≠ '\\') (hexpected : c ∉ expected) {cs text rest : List Char}
    (hread : readUntil expected mayEnd fuel cs = .ok (text, rest)) :
    readUntil expected mayEnd (fuel + 1) (c :: cs) = .ok (c :: text, rest) := by
  rw [readUntil, if_neg (by simpa using hexpected), hread]
  · rfl
  · exact hc

theorem readUntil_stop {expected : List Char} {mayEnd : Bool} {fuel : Nat} {c : Char}
    (hc : c ≠ '\\') (hexpected : c ∈ expected) (cs : List Char) :
    readUntil expected mayEnd (fuel + 1) (c :: cs) = .ok ([], c :: cs) := by
  rw [readUntil, if_pos (by simpa using hexpected)]
  exact hc

/-- What was escaped is read up to the mark that is expected behind it. -/
theorem readUntil_escaped {expected : List Char} (hmarks : ∀ c ∈ expected, c ∈ marks ∧ c ≠ '\\')
    {mayEnd : Bool} {stop : Char} (hstop : stop ∈ expected) (text rest : List Char) {fuel : Nat}
    (hfuel : text.length < fuel) :
    readUntil expected mayEnd fuel (text.flatMap escape ++ stop :: rest) =
      .ok (text, stop :: rest) := by
  induction text generalizing fuel with
  | nil =>
      obtain _ | fuel := fuel
      · exact absurd hfuel (Nat.not_lt_zero _)
      · exact readUntil_stop (hmarks stop hstop).2 hstop rest
  | cons c cs ih =>
      obtain _ | fuel := fuel
      · exact absurd hfuel (Nat.not_lt_zero _)
      have hread := ih (Nat.lt_of_succ_lt_succ hfuel)
      by_cases hc : c ∈ marks
      · rw [List.flatMap_cons, escape, if_pos hc]
        exact readUntil_mark (fun h => (hmarks _ h).2 rfl) hc hread
      · have hbackslash : c ≠ '\\' := by
          rintro rfl
          exact hc (by decide)
        rw [List.flatMap_cons, escape, if_neg hc]
        exact readUntil_plain hbackslash (fun h => hc (hmarks c h).1) hread

theorem length_le_escaped (text : List Char) : text.length ≤ (text.flatMap escape).length := by
  induction text with
  | nil => exact Nat.le_refl 0
  | cons c cs ih =>
      have hone : 1 ≤ (escape c).length := by
        rw [escape]
        split <;> exact Nat.succ_pos _
      rw [List.flatMap_cons, List.length_append, List.length_cons]
      omega

/-! ## Lines -/

/-- A name that a line can set: there is something in it, and no blanks are around it. -/
structure IsName (name : String) : Prop where
  ne_empty : name ≠ ""
  isTrimmed : Text.IsTrimmed name

def lineChars (field : String × String) : List Char :=
  field.1.toList.flatMap escape ++ '=' :: '"' :: (field.2.toList.flatMap escape ++ ['"', '\n'])

theorem readValue_quoted (text rest : List Char) :
    readValue ('"' :: (text.flatMap escape ++ '"' :: rest)) = .ok (text, rest) := by
  have hlength := length_le_escaped text
  have hread : readUntil ['"'] false (('"' :: (text.flatMap escape ++ '"' :: rest)).length + 1)
      (text.flatMap escape ++ '"' :: rest) = .ok (text, '"' :: rest) := by
    apply readUntil_escaped (by simp [marks]) (List.mem_singleton_self _)
    simp only [List.length_cons, List.length_append]
    omega
  rw [readValue, List.dropWhile_cons_of_neg (by decide)]
  show (readUntil _ _ _ _ >>= _) = _
  rw [hread]
  rfl

/-- A line break before a text changes nothing. -/
theorem readRest_break (whole : List Char) (fuel : Nat) (scan : Scan) (cs : List Char) :
    readRest whole fuel scan ('\n' :: cs) = readRest whole fuel scan cs := by
  cases fuel with
  | zero => rfl
  | succ fuel =>
      rw [readRest, readRest, List.dropWhile_cons_of_pos (by decide)]

theorem IsName.trimChars {name : String} (h : IsName name) :
    Text.trimChars name.toList = name.toList := by
  have htrim := congrArg String.toList h.isTrimmed
  rwa [Text.trim, String.toList_ofList] at htrim

/-- What begins the line of a name is no blank and no mark but the backslash. -/
theorem IsName.escaped_begins {name : String} (h : IsName name) :
    ∃ c cs, name.toList.flatMap escape = c :: cs ∧ Text.isBlank c = false ∧
      (c ∈ marks → c = '\\') := by
  have hhead : ∀ c ∈ name.toList.head?, Text.isBlank c = false := by
    rw [← h.isTrimmed]
    exact Text.head_trim name
  cases hchars : name.toList with
  | nil => exact absurd (String.toList_eq_nil_iff.1 hchars) h.ne_empty
  | cons c cs =>
      rw [hchars] at hhead
      rw [List.flatMap_cons, escape]
      by_cases hc : c ∈ marks
      · rw [if_pos hc]
        exact ⟨'\\', _, rfl, by decide, fun _ => rfl⟩
      · rw [if_neg hc]
        exact ⟨c, _, rfl, hhead c rfl, fun hmark => absurd hmark hc⟩

/-- A name and its mark of equality begin a line. -/
theorem readRest_name {name : String} (hname : IsName name) (whole : List Char) (fuel : Nat)
    (scan : Scan) (cs : List Char) :
    readRest whole (fuel + 1) scan (name.toList.flatMap escape ++ '=' :: cs) =
      readRest whole fuel { scan with key := name.toList } ('=' :: cs) := by
  have hlength := length_le_escaped name.toList
  have hread : readUntil ['=', ':'] false ((name.toList.flatMap escape ++ '=' :: cs).length + 1)
      (name.toList.flatMap escape ++ '=' :: cs) = .ok (name.toList, '=' :: cs) := by
    apply readUntil_escaped (by simp [marks]) List.mem_cons_self
    rw [List.length_append]
    omega
  obtain ⟨c, rest, hbegins, hblank, hmark⟩ := hname.escaped_begins
  have hplain : ∀ d ∈ marks, d ≠ '\\' → c ≠ d := by
    rintro d hd hne rfl
    exact hne (hmark hd)
  rw [hbegins, List.cons_append] at hread ⊢
  rw [readRest, List.dropWhile_cons_of_neg (by simp [hblank])]
  dsimp only
  rw [if_neg (not_or.2 ⟨hplain ';' (by decide) (by decide), hplain '#' (by decide) (by decide)⟩),
    if_neg (hplain '[' (by decide) (by decide)),
    if_neg (not_or.2 ⟨hplain '=' (by decide) (by decide), hplain ':' (by decide) (by decide)⟩)]
  show (readUntil _ _ (_ + 2) _ >>= _) = _
  rw [List.length_cons] at hread
  rw [hread]
  show readRest whole fuel { scan with key := Text.trimChars name.toList } _ = _
  rw [hname.trimChars]

/-- The mark of equality and a text set the name that was read. -/
theorem readRest_text (whole : List Char) (fuel : Nat) {scan : Scan} (hkey : scan.key ≠ [])
    (text cs : List Char) :
    readRest whole (fuel + 1) scan ('=' :: '"' :: (text.flatMap escape ++ '"' :: cs)) =
      readRest whole fuel (scan.set text) cs := by
  rw [readRest, List.dropWhile_cons_of_neg (by decide)]
  dsimp only
  rw [if_neg (by decide), if_neg (by decide), if_pos (by decide), if_neg (by simpa using hkey)]
  show (readValue _ >>= _) = _
  rw [readValue_quoted]
  rfl

/-! ## Fields and sections -/

/-- Fields in addition, in the section that is open. -/
def Scan.extend (scan : Scan) (fields : List (String × Json)) : Scan :=
  match scan.current with
  | none => { scan with fields := scan.fields ++ fields }
  | some (name, inner) => { scan with current := some (name, inner ++ fields) }

theorem Scan.extend_nil (scan : Scan) : scan.extend [] = scan := by
  obtain ⟨fields, current, key⟩ := scan
  rcases current with - | ⟨name, inner⟩ <;> simp [extend]

theorem Scan.extend_extend (scan : Scan) (first second : List (String × Json)) :
    (scan.extend first).extend second = scan.extend (first ++ second) := by
  obtain ⟨fields, current, key⟩ := scan
  rcases current with - | ⟨name, inner⟩ <;> simp [extend]

theorem Scan.key_extend (scan : Scan) (fields : List (String × Json)) :
    (scan.extend fields).key = scan.key := by
  obtain ⟨done, current, key⟩ := scan
  rcases current with - | ⟨name, inner⟩ <;> rfl

theorem Scan.set_name {scan : Scan} (hkey : scan.key = []) (name text : String) :
    Scan.set { scan with key := name.toList } text.toList =
      scan.extend (Json.textFields [(name, text)]) := by
  obtain ⟨fields, current, key⟩ := scan
  cases hkey
  rcases current with - | ⟨part, inner⟩ <;> simp [Scan.set, extend, Json.textFields]

theorem readRest_line {field : String × String} (hname : IsName field.1) (whole : List Char)
    (fuel : Nat) {scan : Scan} (hkey : scan.key = []) (cs : List Char) :
    readRest whole (fuel + 2) scan (lineChars field ++ cs) =
      readRest whole fuel (scan.extend (Json.textFields [field])) cs := by
  have hchars : lineChars field ++ cs = field.1.toList.flatMap escape ++
      '=' :: '"' :: (field.2.toList.flatMap escape ++ '"' :: '\n' :: cs) := by
    simp [lineChars]
  have hne : field.1.toList ≠ [] := fun h => hname.ne_empty (String.toList_eq_nil_iff.1 h)
  rw [hchars, readRest_name hname, readRest_text _ _ hne, readRest_break, Scan.set_name hkey]

theorem readRest_lines {fields : List (String × String)} (hnames : ∀ field ∈ fields, IsName field.1)
    (whole : List Char) (fuel : Nat) {scan : Scan} (hkey : scan.key = []) (cs : List Char) :
    readRest whole (2 * fields.length + fuel) scan (fields.flatMap lineChars ++ cs) =
      readRest whole fuel (scan.extend (Json.textFields fields)) cs := by
  induction fields generalizing scan with
  | nil =>
      show readRest whole (0 + fuel) scan cs = readRest whole fuel (scan.extend []) cs
      rw [Nat.zero_add, Scan.extend_nil]
  | cons field fields ih =>
      have hfuel : 2 * (field :: fields).length + fuel = 2 * fields.length + fuel + 2 := by
        rw [List.length_cons]
        omega
      rw [hfuel, List.flatMap_cons, List.append_assoc,
        readRest_line (hnames field List.mem_cons_self) whole _ hkey,
        ih (fun other h => hnames other (List.mem_cons_of_mem _ h)) ((scan.key_extend _).trans hkey),
        Scan.extend_extend]
      rfl

/-- A section: its name and its fields. -/
abbrev Section := String × List (String × String)

def sectionChars (part : Section) : List Char :=
  '[' :: (part.1.toList.flatMap escape ++ ']' :: '\n' :: part.2.flatMap lineChars)

structure IsSection (part : Section) : Prop where
  isTrimmed : Text.IsTrimmed part.1
  names : ∀ field ∈ part.2, IsName field.1

def jsonSections (sections : List Section) : List (String × Json) :=
  sections.map fun (name, fields) => (name, Json.object (Json.textFields fields))

def Scan.opened (scan : Scan) (name : String) : Scan :=
  { scan with fields := scan.result, current := some (name, []) }

/-- What is open after the fields of a section. -/
def Scan.within (scan : Scan) (part : Section) : Scan :=
  { fields := scan.result, current := some (part.1, Json.textFields part.2) }

theorem Scan.result_within (scan : Scan) (part : Section) :
    (scan.within part).result = scan.result ++ jsonSections [part] := rfl

theorem readRest_section {part : Section} (h : IsSection part) (whole : List Char) (fuel : Nat)
    {scan : Scan} (hkey : scan.key = []) (cs : List Char) :
    readRest whole (2 * part.2.length + fuel + 1) scan (sectionChars part ++ cs) =
      readRest whole fuel (scan.within part) cs := by
  have hchars : sectionChars part ++ cs = '[' :: (part.1.toList.flatMap escape ++
      ']' :: '\n' :: (part.2.flatMap lineChars ++ cs)) := by
    simp [sectionChars]
  have hlength := length_le_escaped part.1.toList
  have hread : readUntil [']'] false
      ((part.1.toList.flatMap escape ++ ']' :: '\n' :: (part.2.flatMap lineChars ++ cs)).length + 1)
      (part.1.toList.flatMap escape ++ ']' :: '\n' :: (part.2.flatMap lineChars ++ cs)) =
        .ok (part.1.toList, ']' :: '\n' :: (part.2.flatMap lineChars ++ cs)) := by
    apply readUntil_escaped (by simp [marks]) (List.mem_singleton_self _)
    rw [List.length_append]
    omega
  have hname : String.ofList (Text.trimChars part.1.toList) = part.1 := h.isTrimmed
  have hlines := readRest_lines h.names whole fuel (show (scan.opened part.1).key = [] from hkey) cs
  rw [hchars, readRest, List.dropWhile_cons_of_neg (by decide)]
  dsimp only
  rw [if_neg (by decide), if_pos rfl]
  show (readUntil _ _ _ _ >>= _) = _
  rw [hread]
  show readRest whole _ (scan.opened (String.ofList (Text.trimChars part.1.toList))) _ = _
  rw [List.tail_cons, readRest_break, hname, hlines]
  simp [Scan.extend, Scan.opened, Scan.within, hkey]

theorem length_lines (fields : List (String × String)) :
    2 * fields.length ≤ (fields.flatMap lineChars).length := by
  induction fields with
  | nil => exact Nat.le_refl 0
  | cons field fields ih =>
      have hline : 2 ≤ (lineChars field).length := by
        simp only [lineChars, List.length_append, List.length_cons]
        omega
      rw [List.flatMap_cons, List.length_append, List.length_cons]
      omega

theorem readRest_sections {sections : List Section} (h : ∀ part ∈ sections, IsSection part)
    (whole : List Char) {fuel : Nat} (hfuel : (sections.flatMap sectionChars).length ≤ fuel)
    {scan : Scan} (hkey : scan.key = []) :
    readRest whole fuel scan (sections.flatMap sectionChars) =
      .ok (scan.result ++ jsonSections sections) := by
  induction sections generalizing fuel scan with
  | nil =>
      have hresult : scan.result ++ jsonSections [] = scan.result := List.append_nil _
      rw [hresult]
      cases fuel <;> rfl
  | cons part sections ih =>
      have hlines := length_lines part.2
      have hlength : 2 * part.2.length + 1 + (sections.flatMap sectionChars).length ≤ fuel := by
        simp only [List.flatMap_cons, sectionChars, List.length_append, List.length_cons] at hfuel
        omega
      obtain ⟨more, rfl⟩ := Nat.exists_eq_add_of_le hlength
      have hsum : 2 * part.2.length + 1 + (sections.flatMap sectionChars).length + more =
          2 * part.2.length + ((sections.flatMap sectionChars).length + more) + 1 := by
        omega
      rw [hsum, List.flatMap_cons, readRest_section (h part List.mem_cons_self) whole _ hkey,
        ih (fun other hother => h other (List.mem_cons_of_mem _ hother)) (Nat.le_add_right _ _) rfl,
        Scan.result_within, List.append_assoc]
      rfl

/-! ## The main statement -/

/-- The text of a table: the lines of its own fields, and then its sections. -/
def write (fields : List (String × String)) (sections : List Section) : String :=
  String.ofList (fields.flatMap lineChars ++ sections.flatMap sectionChars)

/-- A table that was written is read again. -/
theorem readSettings_write {fields : List (String × String)} {sections : List Section}
    (hfields : ∀ field ∈ fields, IsName field.1) (hsections : ∀ part ∈ sections, IsSection part) :
    readSettings (write fields sections) =
      .ok (.object (Json.textFields fields ++ jsonSections sections)) := by
  have hread : ∀ whole fuel, (fields.flatMap lineChars ++ sections.flatMap sectionChars).length ≤
      fuel → readRest whole fuel {} (fields.flatMap lineChars ++ sections.flatMap sectionChars) =
        .ok (Json.textFields fields ++ jsonSections sections) := by
    intro whole fuel hfuel
    have hlines := length_lines fields
    rw [List.length_append] at hfuel
    have hlength : 2 * fields.length + (sections.flatMap sectionChars).length ≤ fuel := by omega
    obtain ⟨more, rfl⟩ := Nat.exists_eq_add_of_le hlength
    rw [Nat.add_assoc, readRest_lines hfields whole _ rfl,
      readRest_sections hsections whole (Nat.le_add_right _ _) rfl]
    simp [Scan.extend, Scan.result]
  rw [readSettings, write, String.toList_ofList, hread _ _ (Nat.le_succ _)]

end Throttle.Ini
