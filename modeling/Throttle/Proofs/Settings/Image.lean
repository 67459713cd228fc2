import Mathlib.Algebra.Group.Nat.Defs
import Throttle.Proofs.Settings.Bounds
import Throttle.Proofs.Settings.Effective

/-!
# The settings that sources resolve to

Settings are regular if their limits and windows are positive, their texts are neither empty nor
blank at an end, and their operation timeout is a number of milliseconds.  Main statement: a source
always resolves to regular settings, and regular settings are what the source resolves to that
spells them out, without a warning.
-/

namespace Throttle

/-- A text that is not empty and has no blank at either end. -/
def Text.IsTidy (s : String) : Prop := s ≠ "" ∧ Text.IsTrimmed s

instance (s : String) : Decidable (Text.IsTidy s) := inferInstanceAs (Decidable (_ ∧ _))

namespace Settings

/-- What all resolved settings have in common. -/
structure IsRegular (settings : Settings) : Prop where
  limit_pos : ∀ methods, 1 ≤ (settings.policy methods).limit
  windowSecs_pos : ∀ methods, 1 ≤ (settings.policy methods).windowSecs
  environment : Text.IsTidy settings.environment
  keyPrefix : Text.IsTidy settings.keyPrefix
  host : Text.IsTidy settings.redis.host
  username : ∀ user ∈ settings.redis.username, Text.IsTidy user
  password : ∀ pass ∈ settings.redis.password, Text.IsTidy pass
  opTimeout : ∃ millis < 2 ^ 64, settings.redis.opTimeout = Duration.ofMillis millis

/-- The text of every setting, unless it is absent. -/
def spelling (settings : Settings) : List (SettingName × Option String) :=
  [(.environment, some settings.environment),
    (.mode, some settings.mode.word),
    (.mutatingLimit, some (Decimal.natText settings.mutating.limit.toNat)),
    (.mutatingWindow, some (Decimal.natText settings.mutating.windowSecs.toNat)),
    (.readLimit, some (Decimal.natText settings.read.limit.toNat)),
    (.readWindow, some (Decimal.natText settings.read.windowSecs.toNat)),
    (.keyPrefix, some settings.keyPrefix),
    (.memoryFallback, some (Text.truth settings.memoryFallback)),
    (.host, some settings.redis.host),
    (.port, some (Decimal.natText settings.redis.port.toNat)),
    (.username, settings.redis.username),
    (.password, settings.redis.password),
    (.db, some (Decimal.intText settings.redis.db.toInt)),
    (.tls, some (Text.truth settings.redis.tls)),
    (.opTimeout, some (Decimal.natText (Duration.millis settings.redis.opTimeout)))]

end Settings

/-- The source that has each text under the primary name of its setting. -/
def Source.ofSpelling (spelling : List (SettingName × Option String)) : Source :=
  .ofList (spelling.filterMap fun (name, text) => text.map fun text => (name.primary, text))

namespace Source

variable {spelling : List (SettingName × Option String)} {key : String}

theorem ofSpelling_cons (name : SettingName) (text : Option String) :
    ofSpelling ((name, text) :: spelling) key =
      if key = name.primary then text.or (ofSpelling spelling key) else ofSpelling spelling key := by
  unfold ofSpelling ofList
  cases text with
  | none => simp
  | some text =>
      by_cases hkey : key = name.primary
      · simp [hkey]
      · simp [List.lookup_cons, hkey, beq_eq_false_iff_ne.2 hkey]

theorem ofSpelling_eq_none (hkey : key ∉ spelling.map (·.1.primary)) :
    ofSpelling spelling key = none := by
  induction spelling with
  | nil => rfl
  | cons entry spelling ih =>
      obtain ⟨name, text⟩ := entry
      rw [List.map_cons, List.mem_cons, not_or] at hkey
      rw [ofSpelling_cons, if_neg hkey.1, ih hkey.2]

theorem ofSpelling_primary (hdistinct : (spelling.map (·.1.primary)).Nodup) {name : SettingName}
    {text : Option String} (hmem : (name, text) ∈ spelling) :
    ofSpelling spelling name.primary = text := by
  induction spelling with
  | nil => cases hmem
  | cons entry spelling ih =>
      rw [List.map_cons, List.nodup_cons] at hdistinct
      rcases List.mem_cons.1 hmem with rfl | hmem
      · rw [ofSpelling_cons, if_pos rfl, ofSpelling_eq_none hdistinct.1, Option.or_none]
      · have hne : name.primary ≠ entry.1.primary := fun hsame =>
          hdistinct.1 (hsame ▸ List.mem_map_of_mem (f := (·.1.primary)) hmem)
        rw [ofSpelling_cons, if_neg hne, ih hdistinct.2 hmem]

/-- A tidy text is all content. -/
theorem content_of_isTidy {text : Option String} (htidy : ∀ s ∈ text, Text.IsTidy s) :
    content text = text := by
  cases text with
  | none => rfl
  | some s =>
      obtain ⟨hne, htrim⟩ := htidy s rfl
      exact content_eq_some_iff.2 ⟨s, rfl, htrim, hne⟩

end Source

namespace SettingName

variable {spelling : List (SettingName × Option String)}

/-- Where no alias of a setting is a primary name, each setting is read from its own text. -/
theorem lookup_ofSpelling (hdistinct : (spelling.map (·.1.primary)).Nodup)
    (haliases : ∀ entry ∈ spelling, ∀ alias_ ∈ entry.1.aliases,
      alias_ ∉ spelling.map (·.1.primary))
    (htidy : ∀ entry ∈ spelling, ∀ s ∈ entry.2, Text.IsTidy s) :
    ∀ entry ∈ spelling, entry.1.lookup (.ofSpelling spelling) = entry.2 := by
  intro entry hentry
  obtain ⟨name, text⟩ := entry
  have hprimary : Source.ofSpelling spelling name.primary = text :=
    Source.ofSpelling_primary hdistinct hentry
  have hothers : ∀ alias_ ∈ name.aliases,
      Source.content (Source.ofSpelling spelling alias_) = none := by
    intro alias_ halias
    rw [Source.ofSpelling_eq_none (haliases _ hentry alias_ halias)]
    rfl
  rw [lookup_eq_findSome?, names, List.findSome?_cons, hprimary,
    Source.content_of_isTidy (htidy _ hentry)]
  cases text with
  | none => exact List.findSome?_eq_none_iff.2 hothers
  | some text => rfl

/-- What is looked up is tidy. -/
theorem isTidy_of_lookup {name : SettingName} {source : Source} {value : String}
    (hlookup : name.lookup source = some value) : Text.IsTidy value := by
  obtain ⟨-, -, -, raw, -, -, htrim, hne, -⟩ := lookup_eq_some_iff.1 hlookup
  exact ⟨hne, htrim ▸ Text.isTrimmed_trim raw⟩

end SettingName

namespace Text

theorem isTidy_of_forall {s : String} (hne : s ≠ "") (hblank : ∀ c ∈ s.toList, isBlank c = false) :
    IsTidy s := ⟨hne, isTrimmed_of_forall hblank⟩

theorem isTidy_natText (n : Nat) : IsTidy (Decimal.natText n) := by
  refine isTidy_of_forall (fun hempty => ?_) fun c hc => ?_
  · rw [Decimal.natText, String.ofList_eq_empty_iff] at hempty
    exact Decimal.ofNat_ne_nil n hempty
  · exact isBlank_of_isDigit (Decimal.isDigit_of_mem_natText hc)

theorem isTidy_intText (i : Int) : IsTidy (Decimal.intText i) := by
  cases i with
  | ofNat n => exact isTidy_natText n
  | negSucc n =>
      refine isTidy_of_forall (fun hempty => ?_) fun c hc => ?_
      · rw [Decimal.intText, String.ofList_eq_empty_iff] at hempty
        cases hempty
      · rcases Decimal.eq_minus_or_isDigit_of_mem_intText hc with rfl | hdigit
        · decide
        · exact isBlank_of_isDigit hdigit

theorem isTidy_truth (b : Bool) : IsTidy (truth b) := by
  cases b <;> decide

theorem isTidy_word (mode : BackendMode) : IsTidy mode.word := by
  cases mode <;> decide

end Text

/-! ## What is written reads back -/

theorem word64?_natText (n : UInt64) : word64? (Decimal.natText n.toNat) = some n := by
  have hbound : n.toNat ≤ Nat.pow 2 64 - 1 := Nat.le_sub_one_of_lt n.toNat_lt
  rw [word64?, Decimal.natural?_natText hbound, Option.map_some, UInt64.ofNat_toNat]

theorem word16?_natText (n : UInt16) : word16? (Decimal.natText n.toNat) = some n := by
  have hbound : n.toNat ≤ Nat.pow 2 16 - 1 := Nat.le_sub_one_of_lt n.toNat_lt
  rw [word16?, Decimal.natural?_natText hbound, Option.map_some, UInt16.ofNat_toNat]

theorem signed64?_intText (i : Int64) : signed64? (Decimal.intText i.toInt) = some i := by
  have hleast : (-(Nat.pow 2 63) : Int) ≤ i.toInt := i.le_toInt
  have hgreatest : i.toInt ≤ (Nat.pow 2 63 - 1 : Int) := Int.le_sub_one_of_lt i.toInt_lt
  rw [signed64?, Decimal.integer?_intText hleast hgreatest, Option.map_some, Int64.ofInt_toInt]

theorem truth?_truth (b : Bool) : truth? (Text.truth b) = some b := by
  cases b <;> decide +kernel

theorem BackendMode.parse?_word (mode : BackendMode) : parse? mode.word = some mode := by
  cases mode <;> decide +kernel

namespace Settings

open SettingName

variable {source : Source} {name : SettingName}

theorem isTidy_textSetting {default : String} (hdefault : Text.IsTidy default) :
    Text.IsTidy (textSetting source name default) := by
  unfold textSetting
  cases hlookup : name.lookup source with
  | none => exact hdefault
  | some value => exact isTidy_of_lookup hlookup

theorem isRegular_resolve (source : Source) : (resolve source).value.IsRegular where
  limit_pos methods := UInt64.le_iff_toNat_le.2 (resolve_limit_pos source methods)
  windowSecs_pos methods := UInt64.le_iff_toNat_le.2 (resolve_windowSecs_pos source methods)
  environment := isTidy_textSetting (by decide)
  keyPrefix := isTidy_textSetting (by decide)
  host := isTidy_textSetting (by decide)
  username _ huser := isTidy_of_lookup huser
  password _ hpass := isTidy_of_lookup hpass
  opTimeout := ⟨_, UInt64.toNat_lt _, rfl⟩

theorem numberSetting_of_lookup (default : UInt64) {n : UInt64}
    (hlookup : name.lookup source = some (Decimal.natText n.toNat)) :
    numberSetting source name default = ⟨n, []⟩ := by
  simp only [numberSetting, hlookup, Resolved.read, word64?_natText]

theorem positiveSetting_of_lookup (default : UInt64) (warning : String → Nat → Event) {n : UInt64}
    (hpos : 1 ≤ n) (hlookup : name.lookup source = some (Decimal.natText n.toNat)) :
    positiveSetting source name default warning = ⟨n, []⟩ := by
  have hne : n ≠ 0 := fun hzero => by
    rw [hzero] at hpos
    exact absurd hpos (by decide)
  simp only [positiveSetting, numberSetting_of_lookup default hlookup, if_neg hne]

theorem truthSetting_of_lookup (default : Bool) {b : Bool}
    (hlookup : name.lookup source = some (Text.truth b)) :
    truthSetting source name default = ⟨b, []⟩ := by
  simp only [truthSetting, hlookup, Resolved.read, truth?_truth]

/-- Every text of regular settings is found again under the name of its setting. -/
theorem IsRegular.lookup_spelling {settings : Settings} (hregular : settings.IsRegular) :
    ∀ entry ∈ settings.spelling, entry.1.lookup (.ofSpelling settings.spelling) = entry.2 := by
  have hprimary : settings.spelling.map (·.1.primary) = all.map SettingName.primary := rfl
  have hnames : settings.spelling.map (·.1) = all := rfl
  refine lookup_ofSpelling (by rw [hprimary]; decide) (fun entry hentry => ?_) ?_
  · have hapart : ∀ name ∈ all, ∀ alias_ ∈ name.aliases, alias_ ∉ all.map SettingName.primary := by
      decide +kernel
    rw [hprimary]
    exact hapart entry.1 (hnames ▸ List.mem_map_of_mem (f := (·.1)) hentry)
  · simp only [spelling, List.forall_mem_cons, Option.mem_some_iff, forall_eq',
      List.not_mem_nil, false_implies, implies_true, and_true]
    exact ⟨hregular.environment, Text.isTidy_word _, Text.isTidy_natText _, Text.isTidy_natText _,
      Text.isTidy_natText _, Text.isTidy_natText _, hregular.keyPrefix, Text.isTidy_truth _,
      hregular.host, Text.isTidy_natText _, hregular.username, hregular.password,
      Text.isTidy_intText _, Text.isTidy_truth _, Text.isTidy_natText _⟩

/-- Regular settings are what the source resolves to that spells them out. -/
theorem IsRegular.resolve_spelling {settings : Settings} (hregular : settings.IsRegular) :
    resolve (.ofSpelling settings.spelling) = ⟨settings, []⟩ := by
  have hlookup := hregular.lookup_spelling
  generalize Source.ofSpelling settings.spelling = source at hlookup
  simp only [spelling, List.forall_mem_cons, List.not_mem_nil, false_implies, implies_true,
    and_true] at hlookup
  obtain ⟨henvironment, hmode, hmutatingLimit, hmutatingWindow, hreadLimit, hreadWindow,
    hkeyPrefix, hmemoryFallback, hhost, hport, husername, hpassword, hdb, htls, hopTimeout⟩ :=
    hlookup
  obtain ⟨millis, hmillis, htimeout⟩ := hregular.opTimeout
  have hmillisOf : Duration.millis settings.redis.opTimeout = (UInt64.ofNat millis).toNat := by
    rw [htimeout, UInt64.toNat_ofNat_of_lt' hmillis]
    exact Nat.mul_div_cancel millis (by decide)
  have hofMillis : Duration.ofMillis (UInt64.ofNat millis).toNat = settings.redis.opTimeout := by
    rw [htimeout, UInt64.toNat_ofNat_of_lt' hmillis]
  rw [hmillisOf] at hopTimeout
  have hmodeOf : modeSetting source = ⟨settings.mode, []⟩ := by
    simp only [modeSetting, hmode, Resolved.read, BackendMode.parse?_word]
  have hmutatingOf : limitSetting source .mutatingLimit defaultMutatingLimit =
        ⟨settings.mutating.limit, []⟩ ∧
      windowSetting source .mutatingWindow = ⟨settings.mutating.windowSecs, []⟩ :=
    ⟨positiveSetting_of_lookup _ _ (hregular.limit_pos .mutating) hmutatingLimit,
      positiveSetting_of_lookup _ _ (hregular.windowSecs_pos .mutating) hmutatingWindow⟩
  have hreadOf : limitSetting source .readLimit defaultReadLimit = ⟨settings.read.limit, []⟩ ∧
      windowSetting source .readWindow = ⟨settings.read.windowSecs, []⟩ :=
    ⟨positiveSetting_of_lookup _ _ (hregular.limit_pos .read) hreadLimit,
      positiveSetting_of_lookup _ _ (hregular.windowSecs_pos .read) hreadWindow⟩
  have hportOf : portSetting source = ⟨settings.redis.port, []⟩ := by
    simp only [portSetting, hport, Resolved.read, word16?_natText]
  have hdbOf : dbSetting source = ⟨settings.redis.db, []⟩ := by
    simp only [dbSetting, hdb, Resolved.read, signed64?_intText]
  simp only [resolve, textSetting, henvironment, hkeyPrefix, hhost, husername, hpassword,
    Option.getD_some, hmodeOf, hmutatingOf, hreadOf, hportOf, hdbOf,
    truthSetting_of_lookup _ hmemoryFallback, truthSetting_of_lookup _ htls,
    numberSetting_of_lookup _ hopTimeout, hofMillis, List.append_nil]

/-- Sources resolve to regular settings, and to all of them: the source that spells regular settings
out resolves to them without a warning. -/
theorem exists_resolve_eq_iff (settings : Settings) :
    (∀ source, (resolve source).value.IsRegular) ∧
    (settings.IsRegular →
      (resolve (.ofSpelling settings.spelling)).value = settings ∧
      (resolve (.ofSpelling settings.spelling)).warnings = []) ∧
    ((∃ source, (resolve source).value = settings) ↔ settings.IsRegular) := by
  refine ⟨isRegular_resolve, fun hregular => ?_, fun ⟨source, hsource⟩ => ?_, fun hregular => ?_⟩
  · rw [hregular.resolve_spelling]
    exact ⟨rfl, rfl⟩
  · rw [← hsource]
    exact isRegular_resolve source
  · exact ⟨_, congrArg Resolved.value hregular.resolve_spelling⟩

/-- Settings at the ends of their ranges, without a user and with blanks inside the password, are
spelled out and found again. -/
theorem exists_resolve_eq_iff_at_the_ends :
    let settings : Settings := {
      mutating := ⟨1, 18446744073709551615⟩
      read := ⟨18446744073709551615, 1⟩
      mode := .shared
      environment := "no"
      keyPrefix := "a:b"
      memoryFallback := true
      redis := {
        host := "REDIS_HOST"
        port := 0
        username := none
        password := some "a \u00a0b"
        db := -9223372036854775808
        tls := true
        opTimeout := Duration.ofMillis 0 } }
    settings.IsRegular ∧ (resolve (.ofSpelling settings.spelling)).value = settings ∧
      (resolve (.ofSpelling settings.spelling)).warnings = [] := by
  intro settings
  have hregular : settings.IsRegular :=
    { limit_pos := fun methods => by cases methods <;> decide +kernel
      windowSecs_pos := fun methods => by cases methods <;> decide +kernel
      environment := by decide
      keyPrefix := by decide
      host := by decide
      username := by decide
      password := by decide
      opTimeout := ⟨0, by decide, rfl⟩ }
  exact ⟨hregular, (exists_resolve_eq_iff settings).2.1 hregular⟩

end Settings

end Throttle
