import Mathlib.Data.List.Induction
import Mathlib.Data.List.TakeWhile
import Throttle.Proofs.Settings.Image
import Throttle.Settings.Layered
import Throttle.Text.Record

/-!
# Layers as one flat source

A settings file and the environment above it say no more than one list of recognised names: each
with what the environment has for it in any letter case, or else with the text of the scalar that
the file has.  Main statement: both sources resolve alike, unless a name is a path into a recognised
one, which then has no text.
-/

namespace Throttle

/-- The text of a scalar in a settings file; a list, an object and nothing have none. -/
def Json.scalarText? : Json → Option String
  | .text s => some s
  | .bool b => some (Text.truth b)
  | .number n => some n.settingText
  | .null | .broken | .list _ | .object _ => none

/-- All recognised names. -/
def SettingName.keys : List String := all.flatMap names

namespace Layered

/-- Whether a name sets something inside of a key. -/
def IsPathInto (key name : String) : Prop := target (smallName name) = (Text.asciiLower key, true)

instance (key name : String) : Decidable (IsPathInto key name) :=
  inferInstanceAs (Decidable (_ = _))

/-- Whether a name has capital letters only. -/
def IsCapital (name : String) : Prop := Text.asciiUpper (smallName name) = name

instance (name : String) : Decidable (IsCapital name) := inferInstanceAs (Decidable (_ = _))

/-- The value under the last name that has a key's letters in any case. -/
def under? {α : Type} (key : String) (entries : List (String × α)) : Option α :=
  (entries.filter fun entry => smallName entry.1 = Text.asciiLower key).getLast?.map (·.2)

/-- The text that the environment has for a key, even if it is blank, or else the file. -/
def textUnder? (fields : List (String × Json)) (environment : List (String × String))
    (key : String) : Option String :=
  (under? key environment).or ((under? key fields).bind Json.scalarText?)

/-- The recognised names with the texts of a file and the environment above it. -/
def flat (fields : List (String × Json)) (environment : List (String × String)) :
    List (String × String) :=
  SettingName.keys.filterMap fun key => (textUnder? fields environment key).map (key, ·)

/-! ## Names -/

theorem target_of_not_inside {name key : String} (htarget : target name = (key, false)) :
    name = key := by
  unfold target at htarget
  dsimp only at htarget
  split at htarget
  · exact congrArg Prod.fst htarget
  · exact absurd (congrArg Prod.snd htarget) (by simp)

/-- A name without dots, brackets and other such characters sets itself. -/
theorem target_of_forall {name : String} (h : ∀ c ∈ name.toList, isPathChar c = true) :
    target name = (name, false) := by
  have hrest : name.toList.dropWhile isPathChar = [] := List.dropWhile_eq_nil_iff.2 h
  simp [target, hrest]

/-- Recognised names are written in capital ASCII letters and underscores. -/
theorem letter_of_mem_key {key : String} (hkey : key ∈ SettingName.keys) {c : Char}
    (hc : c ∈ key.toList) :
    isPathChar c.toLower = true ∧ c.toLower.toUpper = c ∧ smallLetter c = c.toLower := by
  have hall : SettingName.keys.all (·.toList.all fun c => isPathChar c.toLower &&
      c.toLower.toUpper == c && smallLetter c == c.toLower) = true := by
    decide +kernel
  simpa [and_assoc] using List.all_eq_true.1 (List.all_eq_true.1 hall key hkey) c hc

theorem target_key {key : String} (hkey : key ∈ SettingName.keys) :
    target (Text.asciiLower key) = (Text.asciiLower key, false) := by
  refine target_of_forall fun c hc => ?_
  rw [Text.asciiLower, String.toList_ofList] at hc
  obtain ⟨big, hbig, rfl⟩ := List.mem_map.1 hc
  exact (letter_of_mem_key hkey hbig).1

theorem asciiUpper_key {key : String} (hkey : key ∈ SettingName.keys) :
    Text.asciiUpper (Text.asciiLower key) = key := by
  have hsame : key.toList.map (Char.toUpper ∘ Char.toLower) = key.toList := calc
    _ = key.toList.map id :=
      List.map_congr_left fun c hc => (letter_of_mem_key hkey hc).2.1
    _ = key.toList := List.map_id _
  rw [Text.asciiUpper, Text.asciiLower, String.toList_ofList, List.map_map, hsame,
    String.ofList_toList]

theorem smallName_key {key : String} (hkey : key ∈ SettingName.keys) :
    smallName key = Text.asciiLower key := by
  rw [smallName, Text.asciiLower,
    List.map_congr_left fun c hc => (letter_of_mem_key hkey hc).2.2]

/-- Only the recognised name itself has its letters as capitals. -/
theorem IsCapital.smallName_eq_iff {key name : String} (hkey : key ∈ SettingName.keys)
    (hcapital : IsCapital name) : smallName name = Text.asciiLower key ↔ name = key := by
  constructor
  · intro hsmall
    rw [← hcapital, hsmall, asciiUpper_key hkey]
  · rintro rfl
    exact smallName_key hkey

theorem nodup_keys : SettingName.keys.Nodup := by decide +kernel

section Name

variable {key name : String} (hkey : key ∈ SettingName.keys) (hpath : ¬ IsPathInto key name)

include hkey hpath

theorem target_fst_eq_iff :
    (target (smallName name)).1 = Text.asciiLower key ↔ smallName name = Text.asciiLower key := by
  constructor
  · intro hfirst
    have hinside : (target (smallName name)).2 = false := by
      rw [← Bool.not_eq_true]
      exact fun hinside => hpath (Prod.ext hfirst hinside)
    exact target_of_not_inside (Prod.ext hfirst hinside)
  · intro hname
    rw [hname, target_key hkey]

end Name

theorem smallLetter_ne {c d : Char} (hd : d = '.' ∨ d = '[') (hne : c ≠ d) :
    smallLetter c ≠ d := by
  unfold smallLetter
  split
  · rcases hd with rfl | rfl <;> decide
  · intro heq
    rcases Text.toLower_cases c with hsame | ⟨hlow, hhigh, hshift⟩
    · exact hne (hsame.symm.trans heq)
    · rw [heq] at hshift
      have hcode : d.toNat = 46 ∨ d.toNat = 91 := by
        rcases hd with rfl | rfl
        · exact .inl rfl
        · exact .inr rfl
      omega

theorem isPathRest_cons {c : Char} (hdot : c ≠ '.') (hbracket : c ≠ '[') (fuel : Nat)
    (cs : List Char) : isPathRest fuel (c :: cs) = false := by
  unfold isPathRest
  split <;> simp_all

/-- A name without dots and brackets is no path. -/
theorem not_isPathInto_of_notMem {name : String} (hdot : '.' ∉ name.toList)
    (hbracket : '[' ∉ name.toList) (key : String) : ¬ IsPathInto key name := by
  have hsmall : ∀ c ∈ (smallName name).toList, c ≠ '.' ∧ c ≠ '[' := by
    intro c hc
    rw [smallName, String.toList_ofList] at hc
    obtain ⟨big, hbig, rfl⟩ := List.mem_map.1 hc
    have hbigDot : big ≠ '.' := fun heq => hdot (heq ▸ hbig)
    have hbigBracket : big ≠ '[' := fun heq => hbracket (heq ▸ hbig)
    exact ⟨smallLetter_ne (.inl rfl) hbigDot, smallLetter_ne (.inr rfl) hbigBracket⟩
  have hrest : ∀ c ∈ (smallName name).toList.dropWhile isPathChar, c ≠ '.' ∧ c ≠ '[' :=
    fun c hc => hsmall c ((List.dropWhile_sublist isPathChar).subset hc)
  suffices hplain : (target (smallName name)).2 = false from fun hpath => by
    rw [hpath] at hplain
    cases hplain
  unfold target
  dsimp only
  generalize (smallName name).toList.dropWhile isPathChar = rest at hrest ⊢
  cases rest with
  | nil => simp
  | cons c cs =>
      obtain ⟨hdot, hbracket⟩ := hrest c List.mem_cons_self
      simp [isPathRest_cons hdot hbracket]

/-! ## What a layer says of a key -/

/-- The values whose names have a key's letters in any case, in order. -/
def valuesUnder {α : Type} (key : String) (entries : List (String × α)) : List α :=
  (entries.filter fun entry => smallName entry.1 = Text.asciiLower key).map (·.2)

theorem valuesUnder_cons {α : Type} (key name : String) (value : α)
    (entries : List (String × α)) :
    valuesUnder key ((name, value) :: entries) =
      if smallName name = Text.asciiLower key then value :: valuesUnder key entries
      else valuesUnder key entries := by
  rw [valuesUnder, List.filter_cons]
  by_cases hname : smallName name = Text.asciiLower key
  · rw [if_pos (decide_eq_true hname), if_pos hname]
    rfl
  · rw [if_neg (by simpa using hname), if_neg hname]
    rfl

theorem under?_eq {α : Type} (key : String) (entries : List (String × α)) :
    under? key entries = (valuesUnder key entries).getLast? := by
  rw [under?, valuesUnder, List.getLast?_map]

/-- What a small name denotes after one more setting. -/
def next (name : String) (old : Option (Option String)) (entry : String × Value) :
    Option (Option String) :=
  if (target (smallName entry.1)).1 = name then set old (target (smallName entry.1)).2 entry.2
  else old

theorem denoted_eq_foldl (layer : Layer) (name : String) :
    denoted layer name = layer.foldl (next name) none := by
  refine congrArg (fun step => layer.foldl step none) (funext₂ fun old entry => ?_)
  rw [next]

/-- Of a layer without paths into a key only the values under the key count. -/
theorem foldl_next_eq {key : String} (hkey : key ∈ SettingName.keys) {layer : Layer}
    (hpaths : ∀ entry ∈ layer, ¬ IsPathInto key entry.1) (old : Option (Option String)) :
    layer.foldl (next (Text.asciiLower key)) old =
      (valuesUnder key layer).foldl (fun old value => set old false value) old := by
  induction layer generalizing old with
  | nil => rfl
  | cons entry layer ih =>
      obtain ⟨name, value⟩ := entry
      have hrest := ih fun entry hentry => hpaths entry (List.mem_cons_of_mem _ hentry)
      have hfirst := target_fst_eq_iff hkey (hpaths (name, value) List.mem_cons_self)
      rw [List.foldl_cons, hrest, next, valuesUnder_cons]
      by_cases hname : smallName name = Text.asciiLower key
      · rw [if_pos (hfirst.2 hname), if_pos hname, hname, target_key hkey, List.foldl_cons]
      · rw [if_neg (mt hfirst.1 hname), if_neg hname]

theorem foldl_set_text (texts : List String) (old : Option (Option String)) :
    (texts.map Value.text).foldl (fun old value => set old false value) old =
      (texts.getLast?.map some).or old := by
  induction texts using List.reverseRecOn with
  | nil => rfl
  | append_singleton texts last ih => simp [set]

theorem set_ofJson (j : Json) : set none false (.ofJson j) = some j.scalarText? := by
  cases j with
  | bool b => cases b <;> rfl
  | object fields => cases fields <;> rfl
  | _ => rfl

theorem valuesUnder_map {α β : Type} (f : α → β) (key : String) (entries : List (String × α)) :
    valuesUnder key (entries.map fun (name, value) => (name, f value)) =
      (valuesUnder key entries).map f := by
  induction entries with
  | nil => rfl
  | cons entry entries ih =>
      obtain ⟨name, value⟩ := entry
      rw [List.map_cons, valuesUnder_cons, valuesUnder_cons, ih]
      split <;> rfl

theorem valuesUnder_eq_nil {α : Type} {key : String} {entries : List (String × α)}
    (h : Text.asciiLower key ∉ entries.map (smallName ·.1)) : valuesUnder key entries = [] := by
  rw [valuesUnder, List.map_eq_nil_iff, List.filter_eq_nil_iff]
  intro entry hentry hname
  exact h (List.mem_map.2 ⟨entry, hentry, of_decide_eq_true hname⟩)

/-- Where no two names have the same letters there is at most one value under a key. -/
theorem valuesUnder_eq_toList {α : Type} (key : String) {entries : List (String × α)}
    (hdistinct : (entries.map (smallName ·.1)).Nodup) :
    valuesUnder key entries = (under? key entries).toList := by
  rw [under?_eq]
  induction entries with
  | nil => rfl
  | cons entry entries ih =>
      obtain ⟨name, value⟩ := entry
      rw [List.map_cons, List.nodup_cons] at hdistinct
      rw [valuesUnder_cons]
      split
      · next hname =>
        rw [valuesUnder_eq_nil (hname ▸ hdistinct.1)]
        rfl
      · exact ih hdistinct.2

section Source

variable {fields : List (String × Json)} {environment : List (String × String)} {file : Layer}
  {key : String} (hkey : key ∈ SettingName.keys)

include hkey

theorem denoted_file (hfile : ofJson? (.object fields) = some file)
    (hdistinct : (fields.map (smallName ·.1)).Nodup)
    (hpaths : ∀ entry ∈ fields, ¬ IsPathInto key entry.1) :
    denoted file (Text.asciiLower key) = (under? key fields).map Json.scalarText? := by
  have hlayer : file = fields.map fun entry => (entry.1, Value.ofJson entry.2) :=
    (Option.some.inj hfile).symm
  have hlayerPaths : ∀ entry ∈ file, ¬ IsPathInto key entry.1 := by
    intro entry hentry
    rw [hlayer] at hentry
    obtain ⟨field, hfield, rfl⟩ := List.mem_map.1 hentry
    exact hpaths field hfield
  have hvalues : valuesUnder key file = (under? key fields).toList.map Value.ofJson := by
    rw [hlayer, valuesUnder_map, valuesUnder_eq_toList key hdistinct]
  rw [denoted_eq_foldl, foldl_next_eq hkey hlayerPaths, hvalues]
  cases under? key fields with
  | none => rfl
  | some value => exact set_ofJson value

theorem foldl_next_environment (hpaths : ∀ entry ∈ environment, ¬ IsPathInto key entry.1)
    (old : Option (Option String)) :
    (environment.map fun (name, value) => (name, Value.text value)).foldl
      (next (Text.asciiLower key)) old = ((under? key environment).map some).or old := by
  have hlayerPaths : ∀ entry ∈ environment.map fun (name, value) => (name, Value.text value),
      ¬ IsPathInto key entry.1 := by
    intro entry hentry
    obtain ⟨variable_, hvariable, rfl⟩ := List.mem_map.1 hentry
    exact hpaths variable_ hvariable
  rw [foldl_next_eq hkey hlayerPaths, valuesUnder_map, foldl_set_text, under?_eq]

/-- A source of two layers has under a key what the environment has for it, or else the file. -/
theorem source_key (hfile : ofJson? (.object fields) = some file)
    (hdistinct : (fields.map (smallName ·.1)).Nodup)
    (hfields : ∀ entry ∈ fields, ¬ IsPathInto key entry.1)
    (henvironment : ∀ entry ∈ environment, ¬ IsPathInto key entry.1) :
    source file environment key = textUnder? fields environment key := by
  rw [source]
  dsimp only
  rw [denoted_eq_foldl, List.foldl_append, ← denoted_eq_foldl,
    denoted_file hkey hfile hdistinct hfields, foldl_next_environment hkey henvironment,
    textUnder?]
  cases under? key environment with
  | some value => rfl
  | none => cases under? key fields <;> rfl

theorem ofList_flat : Source.ofList (flat fields environment) key =
    textUnder? fields environment key := by
  -- Each recognised name is looked up like a setting without aliases.
  let spelling : List (SettingName × Option String) :=
    SettingName.keys.map fun key => (⟨key, []⟩, textUnder? fields environment key)
  have hflat : Source.ofList (flat fields environment) = .ofSpelling spelling := by
    rw [Source.ofSpelling, List.filterMap_map]
    rfl
  have hprimary : spelling.map (·.1.primary) = SettingName.keys := by
    rw [List.map_map]
    exact List.map_id _
  have hmem : (⟨key, []⟩, textUnder? fields environment key) ∈ spelling :=
    List.mem_map.2 ⟨key, hkey, rfl⟩
  rw [hflat]
  exact Source.ofSpelling_primary (hprimary ▸ nodup_keys) hmem

theorem valuesUnder_of_capital (hnames : (environment.map (·.1)).Nodup)
    (hcapital : ∀ entry ∈ environment, IsCapital entry.1) :
    valuesUnder key environment = (environment.lookup key).toList := by
  induction environment with
  | nil => rfl
  | cons entry environment ih =>
      obtain ⟨name, value⟩ := entry
      rw [List.map_cons, List.nodup_cons] at hnames
      have hrest := ih hnames.2 fun entry hentry => hcapital entry (List.mem_cons_of_mem _ hentry)
      have hname : smallName name = Text.asciiLower key ↔ name = key :=
        (hcapital (name, value) List.mem_cons_self).smallName_eq_iff hkey
      rw [valuesUnder_cons, hrest]
      by_cases hsame : name = key
      · subst hsame
        have hnone : environment.lookup name = none := by
          rw [List.lookup_eq_none_iff]
          intro entry hentry
          rw [bne_iff_ne]
          exact fun heq => hnames.1 (List.mem_map.2 ⟨entry, hentry, heq.symm⟩)
        rw [if_pos (hname.2 rfl), hnone, List.lookup_cons_self]
        rfl
      · rw [if_neg (mt hname.1 hsame), List.lookup_cons,
          beq_eq_false_iff_ne.2 (Ne.symm hsame)]

theorem source_of_capital (hnames : (environment.map (·.1)).Nodup)
    (hcapital : ∀ entry ∈ environment, IsCapital entry.1)
    (hpaths : ∀ entry ∈ environment, ¬ IsPathInto key entry.1) :
    source [] environment key = Source.ofList environment key := by
  have hunder : under? key environment = environment.lookup key := by
    rw [under?_eq, valuesUnder_of_capital hkey hnames hcapital]
    cases environment.lookup key <;> rfl
  have hsource : source [] environment key = textUnder? [] environment key :=
    source_key hkey rfl List.nodup_nil (by simp) hpaths
  rw [hsource, textUnder?, hunder]
  exact Option.or_none

end Source

/-! ## Resolving layers -/

theorem resolve_congr_keys {source other : Source}
    (hkeys : ∀ key ∈ SettingName.keys, source key = other key) :
    Settings.resolve source = Settings.resolve other := by
  refine Settings.resolve_congr fun name hname => SettingName.lookup_congr fun key hkey => ?_
  rw [hkeys key (List.mem_flatMap.2 ⟨name, hname, hkey⟩)]

/-- A settings file in which no two names have the same letters, and the environment above it,
resolve like the flat list of recognised names, unless a name is a path into a recognised one.
Without a file, an environment in capital letters resolves like the list of its own entries. -/
theorem resolve_source_eq_flat (fields : List (String × Json))
    (environment : List (String × String)) {file : Layer}
    (hfile : ofJson? (.object fields) = some file)
    (hdistinct : (fields.map (smallName ·.1)).Nodup)
    (hfields : ∀ key ∈ SettingName.keys, ∀ entry ∈ fields, ¬ IsPathInto key entry.1)
    (henvironment : ∀ key ∈ SettingName.keys, ∀ entry ∈ environment,
      ¬ IsPathInto key entry.1) :
    Settings.resolve (source file environment) =
        Settings.resolve (.ofList (flat fields environment)) ∧
      ((environment.map (·.1)).Nodup → (∀ entry ∈ environment, IsCapital entry.1) →
        Settings.resolve (source [] environment) = Settings.resolve (.ofList environment)) := by
  refine ⟨resolve_congr_keys fun key hkey => ?_,
    fun hnames hcapital => resolve_congr_keys fun key hkey => ?_⟩
  · rw [source_key hkey hfile hdistinct (hfields key hkey) (henvironment key hkey),
      ofList_flat hkey]
  · exact source_of_capital hkey hnames hcapital (henvironment key hkey)

/-- A blank value in the environment hides the file's and leaves the word to an alias; the Kelvin
sign is a letter in any case; a number, a truth value and null are what they are as texts. -/
theorem resolve_source_eq_flat_for_blank :
    let fields : List (String × Json) := [
      ("App_Env", .text "production"), ("node_env", .text "dev"),
      ("rate_limit_get_max", .number (.float (.finite false 7 0))), ("redis_port", .null),
      ("rate_limit_redis_tls", .bool true)]
    let file : Layer := fields.map fun (name, value) => (name, .ofJson value)
    let environment := [("APP_ENV", " "), ("rate_limit_\u212aey_prefix", "p"), ("PATH[0]", "/bin")]
    let capitals := [("APP_ENV", " "), ("NODE_ENV", "live"), ("PATH", "/bin")]
    ofJson? (.object fields) = some file ∧
      flat fields environment = [("APP_ENV", " "), ("NODE_ENV", "dev"),
        ("RATE_LIMIT_GET_MAX", "7"), ("RATE_LIMIT_KEY_PREFIX", "p"),
        ("RATE_LIMIT_REDIS_TLS", "true")] ∧
      Settings.resolve (source file environment) =
        Settings.resolve (.ofList (flat fields environment)) ∧
      (Settings.resolve (source file environment)).value.environment = "dev" ∧
      Settings.resolve (source [] capitals) = Settings.resolve (.ofList capitals) := by
  intro fields file environment capitals
  have hplainFields : ∀ entry ∈ fields, '.' ∉ entry.1.toList ∧ '[' ∉ entry.1.toList := by
    decide +kernel
  have hplainCapitals : ∀ entry ∈ capitals, '.' ∉ entry.1.toList ∧ '[' ∉ entry.1.toList := by
    decide +kernel
  have henvironment : ∀ key ∈ SettingName.keys, ∀ entry ∈ environment,
      ¬ IsPathInto key entry.1 := by
    decide +kernel
  have hfile : ofJson? (.object fields) = some file := rfl
  have hlayers := resolve_source_eq_flat fields environment hfile (by decide +kernel)
    (fun key _ entry hentry =>
      not_isPathInto_of_notMem (hplainFields entry hentry).1 (hplainFields entry hentry).2 key)
    henvironment
  have halone := resolve_source_eq_flat [] capitals rfl List.nodup_nil (by simp)
    fun key _ entry hentry =>
      not_isPathInto_of_notMem (hplainCapitals entry hentry).1 (hplainCapitals entry hentry).2 key
  exact ⟨hfile, by decide +kernel, hlayers.1, by decide +kernel,
    halone.2 (by decide) (by decide +kernel)⟩

/-- A subscript in the environment sets an item of a list inside of a name, and so hides the text
that the file has for it. -/
theorem subscript_hides_file :
    let fields : List (String × Json) := [("app_env", .text "production")]
    let file : Layer := fields.map fun (name, value) => (name, .ofJson value)
    let environment := [("APP_ENV[0]", "x")]
    ofJson? (.object fields) = some file ∧
      (∀ entry ∈ fields, '.' ∉ entry.1.toList) ∧ (fields.map (smallName ·.1)).Nodup ∧
      flat fields environment = [("APP_ENV", "production")] ∧
      (Settings.resolve (source file environment)).value.environment = "development" ∧
      (Settings.resolve (.ofList (flat fields environment))).value.environment = "production" ∧
      Settings.resolve (source file environment) ≠
        Settings.resolve (.ofList (flat fields environment)) := by
  intro fields file environment
  have hlayers : (Settings.resolve (source file environment)).value.environment =
      "development" := by
    decide +kernel
  have hflat : (Settings.resolve (.ofList (flat fields environment))).value.environment =
      "production" := by
    decide +kernel
  refine ⟨rfl, by decide, by decide +kernel, by decide +kernel, hlayers, hflat, fun hsame => ?_⟩
  rw [hsame, hflat] at hlayers
  exact absurd hlayers (by decide)

end Layered

end Throttle
