import Mathlib.Algebra.Group.Nat.Defs
import Mathlib.Algebra.Group.Int.Defs
import Throttle.Proofs.Grammar
import Throttle.Proofs.Settings.Effective

/-!
# How checked settings are read

Ten settings have a grammar.  Of what a source says about such a setting only the effective value
counts: if it is in the grammar the setting is what it denotes, and if not, or if there is none, the
setting has its default.  Main statement: that holds of each of the ten, and there is one warning
about each setting whose effective value is not in its grammar, in a fixed order, and no other.
-/

namespace Throttle

/-- The setting that a warning is about. -/
def Event.setting? : Event → Option String
  | .unknownMode _ => some "RATE_LIMIT_STORE"
  | event => event.fields.lookup "key"

/-- What the text of a setting can denote. -/
inductive Meaning where
  | mode (mode : BackendMode)
  | number (number : Int)
  | truth (truth : Bool)
  | duration (duration : Nat)
deriving DecidableEq, Repr

/-- The settings that have a grammar. -/
inductive Checked where
  | mode
  | mutatingLimit
  | mutatingWindow
  | readLimit
  | readWindow
  | memoryFallback
  | port
  | db
  | tls
  | opTimeout
deriving DecidableEq, Repr

namespace Checked

/-- All of them, in the order of the warnings. -/
def all : List Checked :=
  [mode, mutatingLimit, mutatingWindow, readLimit, readWindow, memoryFallback, port, db, tls,
    opTimeout]

def name : Checked → SettingName
  | mode => .mode
  | mutatingLimit => .mutatingLimit
  | mutatingWindow => .mutatingWindow
  | readLimit => .readLimit
  | readWindow => .readWindow
  | memoryFallback => .memoryFallback
  | port => .port
  | db => .db
  | tls => .tls
  | opTimeout => .opTimeout

def field (settings : Settings) : Checked → Meaning
  | mode => .mode settings.mode
  | mutatingLimit => .number settings.mutating.limit.toNat
  | mutatingWindow => .number settings.mutating.windowSecs.toNat
  | readLimit => .number settings.read.limit.toNat
  | readWindow => .number settings.read.windowSecs.toNat
  | memoryFallback => .truth settings.memoryFallback
  | port => .number settings.redis.port.toNat
  | db => .number settings.redis.db.toInt
  | tls => .truth settings.redis.tls
  | opTimeout => .duration settings.redis.opTimeout

/-- The grammar of a setting: its texts, and what they denote. -/
def Denotes : Checked → String → Meaning → Prop
  | mode, raw, meaning =>
      ∃ mode : BackendMode, (∃ word ∈ mode.words, Text.Spells raw word) ∧ meaning = .mode mode
  | mutatingLimit, raw, meaning | mutatingWindow, raw, meaning | readLimit, raw, meaning
  | readWindow, raw, meaning =>
      ∃ n : Nat, Decimal.IsNatural raw.toList n ∧ 0 < n ∧ n < 2 ^ 64 ∧ meaning = .number n
  | memoryFallback, raw, meaning | tls, raw, meaning =>
      ∃ truth, (∃ word ∈ Text.truthWords truth, Text.Spells raw word) ∧ meaning = .truth truth
  | port, raw, meaning =>
      ∃ n : Nat, Decimal.IsNatural raw.toList n ∧ n < 2 ^ 16 ∧ meaning = .number n
  | db, raw, meaning =>
      ∃ i : Int, Decimal.IsInteger raw.toList i ∧ -2 ^ 63 ≤ i ∧ i < 2 ^ 63 ∧ meaning = .number i
  | opTimeout, raw, meaning =>
      ∃ n : Nat, Decimal.IsNatural raw.toList n ∧ n < 2 ^ 64 ∧
        meaning = .duration (Duration.ofMillis n)

/-- The default of a setting, in a development environment or another one. -/
def default (development : Bool) : Checked → Meaning
  | mode => .mode .auto
  | mutatingLimit => .number 5
  | readLimit => .number 50
  | mutatingWindow | readWindow => .number 60
  | memoryFallback => .truth development
  | port => .number 6379
  | db => .number 0
  | tls => .truth false
  | opTimeout => .duration (Duration.ofMillis 500)

/-- Whether the effective value of a setting is not in its grammar. -/
def IsFaulty (source : Source) (checked : Checked) : Prop :=
  ∃ raw, checked.name.IsEffective source raw ∧ ∀ meaning, ¬ checked.Denotes raw meaning

/-- The warnings about a setting. -/
def warnings (source : Source) : Checked → List Event
  | mode => (Settings.modeSetting source).warnings
  | mutatingLimit =>
      (Settings.limitSetting source .mutatingLimit Settings.defaultMutatingLimit).warnings
  | mutatingWindow => (Settings.windowSetting source .mutatingWindow).warnings
  | readLimit => (Settings.limitSetting source .readLimit Settings.defaultReadLimit).warnings
  | readWindow => (Settings.windowSetting source .readWindow).warnings
  | memoryFallback =>
      (Settings.truthSetting source .memoryFallback
        (Settings.resolve source).value.inDevelopment).warnings
  | port => (Settings.portSetting source).warnings
  | db => (Settings.dbSetting source).warnings
  | tls => (Settings.truthSetting source .tls false).warnings
  | opTimeout =>
      (Settings.numberSetting source .opTimeout Settings.defaultOpTimeoutMillis).warnings

end Checked

/-- The environment of a source, or the one that is taken for granted, is one for development. -/
def Source.IsDevelopment (source : Source) : Prop :=
  ∃ environment, (SettingName.environment.IsEffective source environment ∨
      (∀ other, ¬ SettingName.environment.IsEffective source other) ∧
        environment = "development") ∧
    ∃ word ∈ developmentNames, Text.Spells environment word

theorem SettingName.IsEffective.isTrimmed {name : SettingName} {source : Source} {raw : String}
    (hraw : name.IsEffective source raw) : Text.trim raw = raw := by
  obtain ⟨-, -, -, text, -, -, rfl, -⟩ := hraw
  exact Text.isTrimmed_trim text

/-! ## One setting -/

/-- How a checked setting comes out, and with which warnings. -/
structure Checked.Settles (source : Source) (development : Bool) (checked : Checked)
    (outcome : Meaning) (warnings : List Event) : Prop where
  read : ∀ raw meaning, checked.name.IsEffective source raw → checked.Denotes raw meaning →
    outcome = meaning ∧ warnings = []
  absent : (∀ raw, ¬ checked.name.IsEffective source raw) →
    outcome = checked.default development ∧ warnings = []
  faulty : checked.IsFaulty source → outcome = checked.default development ∧
    ∃ warning, warnings = [warning] ∧ warning.setting? = some checked.name.primary ∧
      warning.level = "WARN"

namespace Settings

variable {source : Source} {development : Bool} {checked : Checked}

/-- A reader that reads the grammar of a setting settles it. -/
theorem settles_read {α : Type} {parse? : String → Option α} {warning : String → Event}
    {default : α} (embed : α → Meaning)
    (hparse : ∀ raw, Text.trim raw = raw → ∀ meaning,
      checked.Denotes raw meaning ↔ ∃ value, parse? raw = some value ∧ meaning = embed value)
    (hdefault : embed default = checked.default development)
    (hwarning : ∀ raw, (warning raw).setting? = some checked.name.primary ∧
      (warning raw).level = "WARN") :
    checked.Settles source development
      (embed (Resolved.read parse? warning default (checked.name.lookup source)).value)
      (Resolved.read parse? warning default (checked.name.lookup source)).warnings := by
  constructor
  · intro raw meaning hraw hdenotes
    obtain ⟨value, hvalue, rfl⟩ := (hparse raw hraw.isTrimmed meaning).1 hdenotes
    rw [SettingName.lookup_eq_some_iff.2 hraw, Resolved.read, hvalue]
    exact ⟨rfl, rfl⟩
  · intro habsent
    have hlookup : checked.name.lookup source = none :=
      Option.eq_none_iff_forall_ne_some.2 fun raw hraw =>
        habsent raw (SettingName.lookup_eq_some_iff.1 hraw)
    rw [hlookup, Resolved.read]
    exact ⟨hdefault, rfl⟩
  · rintro ⟨raw, hraw, hnot⟩
    have hvalue : parse? raw = none :=
      Option.eq_none_iff_forall_ne_some.2 fun value hvalue =>
        hnot (embed value) ((hparse raw hraw.isTrimmed _).2 ⟨value, hvalue, rfl⟩)
    rw [SettingName.lookup_eq_some_iff.2 hraw, Resolved.read, hvalue]
    exact ⟨hdefault, warning raw, rfl, hwarning raw⟩

/-- Zero is not in the grammar of a positive number, and is warned of in words of its own. -/
theorem positiveSetting_eq_read (source : Source) (name : SettingName) {default : UInt64}
    (hdefault : default ≠ 0) (warning : String → Nat → Event) :
    positiveSetting source name default warning =
      .read (fun raw => (word64? raw).filter (· ≠ 0))
        (fun raw => if word64? raw = some 0 then warning name.primary default.toNat
          else .invalidNumber name.primary raw default.toNat)
        default (name.lookup source) := by
  unfold positiveSetting numberSetting
  cases name.lookup source with
  | none => rw [Resolved.read, Resolved.read, if_neg hdefault]
  | some raw =>
      rw [Resolved.read, Resolved.read]
      cases hword : word64? raw with
      | none => simp [hdefault]
      | some word => by_cases hzero : word = 0 <;> simp [Option.filter_some, hzero]

theorem settles_positiveSetting {default : UInt64} {warning : String → Nat → Event}
    (hdefault : default ≠ 0)
    (hdenotes : ∀ raw meaning, checked.Denotes raw meaning ↔
      ∃ n : Nat, Decimal.IsNatural raw.toList n ∧ 0 < n ∧ n < 2 ^ 64 ∧ meaning = .number n)
    (hmeaning : .number default.toNat = checked.default development)
    (hwarning : ∀ n, (warning checked.name.primary n).setting? = some checked.name.primary ∧
      (warning checked.name.primary n).level = "WARN") :
    checked.Settles source development
      (.number (positiveSetting source checked.name default warning).value.toNat)
      (positiveSetting source checked.name default warning).warnings := by
  rw [positiveSetting_eq_read source checked.name hdefault warning]
  refine settles_read (fun word : UInt64 => .number word.toNat) ?_ hmeaning ?_
  · intro raw _ meaning
    simp only [hdenotes, Option.filter_eq_some_iff, word64?_eq_some_iff, decide_eq_true_eq]
    constructor
    · rintro ⟨n, hraw, hpos, hlt, rfl⟩
      have hword : (UInt64.ofNat n).toNat = n := UInt64.toNat_ofNat_of_lt' hlt
      refine ⟨UInt64.ofNat n, ⟨hword.symm ▸ hraw, fun hzero => ?_⟩, by rw [hword]⟩
      rw [hzero] at hword
      exact absurd hword.symm (Nat.pos_iff_ne_zero.1 hpos)
    · rintro ⟨word, ⟨hraw, hne⟩, rfl⟩
      refine ⟨word.toNat, hraw, Nat.pos_iff_ne_zero.2 fun hzero => hne ?_, word.toNat_lt, rfl⟩
      exact UInt64.toNat_inj.1 hzero
  · intro raw
    split
    · exact hwarning _
    · exact ⟨rfl, rfl⟩

theorem settles_truthSetting {default : Bool}
    (hdenotes : ∀ raw meaning, checked.Denotes raw meaning ↔
      ∃ truth, (∃ word ∈ Text.truthWords truth, Text.Spells raw word) ∧ meaning = .truth truth)
    (hmeaning : .truth default = checked.default development) :
    checked.Settles source development
      (.truth (truthSetting source checked.name default).value)
      (truthSetting source checked.name default).warnings := by
  refine settles_read .truth (fun raw _ meaning => ?_) hmeaning fun raw => ⟨rfl, rfl⟩
  simp only [hdenotes, truth?_eq_some_iff]

theorem settles_mode :
    Checked.mode.Settles source development (.mode (modeSetting source).value)
      (modeSetting source).warnings := by
  refine settles_read .mode (fun raw htrim meaning => ?_) rfl fun raw => ⟨rfl, rfl⟩
  simp only [Checked.Denotes, BackendMode.parse?_eq_some_iff, htrim]

theorem settles_port :
    Checked.port.Settles source development (.number (portSetting source).value.toNat)
      (portSetting source).warnings := by
  refine settles_read (fun word : UInt16 => .number word.toNat) (fun raw _ meaning => ?_) rfl
    fun raw => ⟨rfl, rfl⟩
  simp only [Checked.Denotes, word16?_eq_some_iff]
  constructor
  · rintro ⟨n, hraw, hlt, rfl⟩
    have hword : (UInt16.ofNat n).toNat = n := UInt16.toNat_ofNat_of_lt' hlt
    exact ⟨UInt16.ofNat n, hword.symm ▸ hraw, by rw [hword]⟩
  · rintro ⟨word, hraw, rfl⟩
    exact ⟨word.toNat, hraw, word.toNat_lt, rfl⟩

theorem settles_db :
    Checked.db.Settles source development (.number (dbSetting source).value.toInt)
      (dbSetting source).warnings := by
  refine settles_read (fun word : Int64 => .number word.toInt) (fun raw _ meaning => ?_) rfl
    fun raw => ⟨rfl, rfl⟩
  simp only [Checked.Denotes, signed64?_eq_some_iff]
  constructor
  · rintro ⟨i, hraw, hleast, hlt, rfl⟩
    have hword : (Int64.ofInt i).toInt = i := Int64.toInt_ofInt_of_le hleast hlt
    exact ⟨Int64.ofInt i, hword.symm ▸ hraw, by rw [hword]⟩
  · rintro ⟨word, hraw, rfl⟩
    exact ⟨word.toInt, hraw, word.le_toInt, word.toInt_lt, rfl⟩

theorem settles_opTimeout :
    Checked.opTimeout.Settles source development
      (.duration (Duration.ofMillis
        (numberSetting source .opTimeout defaultOpTimeoutMillis).value.toNat))
      (numberSetting source .opTimeout defaultOpTimeoutMillis).warnings := by
  refine settles_read (fun word : UInt64 => .duration (Duration.ofMillis word.toNat))
    (fun raw _ meaning => ?_) rfl fun raw => ⟨rfl, rfl⟩
  simp only [Checked.Denotes, word64?_eq_some_iff]
  constructor
  · rintro ⟨n, hraw, hlt, rfl⟩
    have hword : (UInt64.ofNat n).toNat = n := UInt64.toNat_ofNat_of_lt' hlt
    exact ⟨UInt64.ofNat n, hword.symm ▸ hraw, by rw [hword]⟩
  · rintro ⟨word, hraw, rfl⟩
    exact ⟨word.toNat, hraw, word.toNat_lt, rfl⟩

/-! ## All settings -/

theorem settles_resolve (source : Source) (checked : Checked) :
    checked.Settles source (resolve source).value.inDevelopment
      (checked.field (resolve source).value) (checked.warnings source) := by
  cases checked with
  | mode => exact settles_mode
  | mutatingLimit | mutatingWindow | readLimit | readWindow =>
      exact settles_positiveSetting (by decide) (fun _ _ => .rfl) rfl fun _ => ⟨rfl, rfl⟩
  | memoryFallback | tls => exact settles_truthSetting (fun _ _ => .rfl) rfl
  | port => exact settles_port
  | db => exact settles_db
  | opTimeout => exact settles_opTimeout

theorem warnings_resolve (source : Source) :
    (resolve source).warnings = Checked.all.flatMap (·.warnings source) := by
  simp only [Checked.all, List.flatMap_cons, List.flatMap_nil, List.append_nil, resolve,
    Checked.warnings, List.append_assoc]
  rfl

theorem inDevelopment_resolve (source : Source) :
    (resolve source).value.inDevelopment = true ↔ source.IsDevelopment := by
  have henvironment : (resolve source).value.environment =
      (SettingName.environment.lookup source).getD "development" := rfl
  rw [inDevelopment, isDevelopmentName_iff, henvironment, Source.IsDevelopment]
  simp only [← SettingName.lookup_eq_some_iff]
  cases hlookup : SettingName.environment.lookup source with
  | none =>
      have htrim : Text.trim "development" = "development" := by decide
      simp [htrim]
  | some environment =>
      have htrim := (SettingName.lookup_eq_some_iff.1 hlookup).isTrimmed
      simp [htrim]

end Settings

namespace Checked

variable {source : Source} {development : Bool} {checked : Checked} {outcome : Meaning}
  {warnings : List Event}

theorem Settles.eq_nil_of_not_isFaulty
    (hsettles : checked.Settles source development outcome warnings)
    (hsound : ¬ checked.IsFaulty source) : warnings = [] := by
  by_cases hraw : ∃ raw, checked.name.IsEffective source raw
  · obtain ⟨raw, hraw⟩ := hraw
    have hdenotes : ∃ meaning, checked.Denotes raw meaning := by
      by_contra hnone
      exact hsound ⟨raw, hraw, fun meaning hmeaning => hnone ⟨meaning, hmeaning⟩⟩
    obtain ⟨meaning, hmeaning⟩ := hdenotes
    exact (hsettles.read raw meaning hraw hmeaning).2
  · exact (hsettles.absent fun raw heffective => hraw ⟨raw, heffective⟩).2

theorem Settles.eq_default (hsettles : checked.Settles source development outcome warnings)
    (hnone : ∀ raw meaning, checked.name.IsEffective source raw → ¬ checked.Denotes raw meaning) :
    outcome = checked.default development := by
  by_cases hraw : ∃ raw, checked.name.IsEffective source raw
  · obtain ⟨raw, hraw⟩ := hraw
    exact (hsettles.faulty ⟨raw, hraw, fun meaning => hnone raw meaning hraw⟩).1
  · exact (hsettles.absent fun raw heffective => hraw ⟨raw, heffective⟩).1

theorem Settles.level_eq (hsettles : checked.Settles source development outcome warnings) :
    ∀ warning ∈ warnings, warning.level = "WARN" := by
  intro warning hwarning
  by_cases hfaulty : checked.IsFaulty source
  · obtain ⟨-, only, rfl, -, hlevel⟩ := hsettles.faulty hfaulty
    rwa [List.mem_singleton.1 hwarning]
  · rw [hsettles.eq_nil_of_not_isFaulty hfaulty] at hwarning
    cases hwarning

/-- A row of settings has one warning for each faulty one among them, in the order of the row. -/
theorem exists_faulty {outcomes : Checked → Meaning} {warnings : Checked → List Event}
    (hsettles : ∀ checked : Checked,
      checked.Settles source development (outcomes checked) (warnings checked))
    (row : List Checked) :
    ∃ faulty : List Checked, faulty.Sublist row ∧
      (∀ checked, checked ∈ faulty ↔ checked ∈ row ∧ checked.IsFaulty source) ∧
      (row.flatMap warnings).map Event.setting? =
        faulty.map fun checked => some checked.name.primary := by
  induction row with
  | nil => exact ⟨[], .slnil, by simp, rfl⟩
  | cons first row ih =>
      obtain ⟨faulty, hsublist, hmem, hwarnings⟩ := ih
      rw [List.flatMap_cons, List.map_append, hwarnings]
      by_cases hfirst : first.IsFaulty source
      · obtain ⟨-, warning, honly, hsetting, -⟩ := (hsettles first).faulty hfirst
        refine ⟨first :: faulty, hsublist.cons_cons first, fun checked => ?_, ?_⟩
        · rw [List.mem_cons, List.mem_cons, hmem]
          constructor
          · rintro (rfl | ⟨hrow, hfaulty⟩)
            · exact ⟨.inl rfl, hfirst⟩
            · exact ⟨.inr hrow, hfaulty⟩
          · rintro ⟨rfl | hrow, hfaulty⟩
            · exact .inl rfl
            · exact .inr ⟨hrow, hfaulty⟩
        · rw [honly, List.map_singleton, List.singleton_append, List.map_cons, hsetting]
      · refine ⟨faulty, hsublist.cons first, fun checked => ?_, ?_⟩
        · rw [List.mem_cons, hmem]
          constructor
          · exact fun ⟨hrow, hfaulty⟩ => ⟨.inr hrow, hfaulty⟩
          · rintro ⟨rfl | hrow, hfaulty⟩
            · exact absurd hfaulty hfirst
            · exact ⟨hrow, hfaulty⟩
        · rw [(hsettles first).eq_nil_of_not_isFaulty hfirst, List.map_nil, List.nil_append]

end Checked

namespace Settings

/-- Each checked setting is what its effective value denotes, or its default if there is no such
value or it is not in the grammar of the setting; memory is the fallback by default exactly in a
development environment.  One warning names each setting whose effective value is not in its
grammar, in the order of the settings, and there are no others. -/
theorem resolve_checked (source : Source) :
    ∃ (development : Bool) (faulty : List Checked),
      (development = true ↔ source.IsDevelopment) ∧
      (∀ checked : Checked,
        (∀ raw meaning, checked.name.IsEffective source raw → checked.Denotes raw meaning →
          checked.field (resolve source).value = meaning) ∧
        ((∀ raw meaning, checked.name.IsEffective source raw → ¬ checked.Denotes raw meaning) →
          checked.field (resolve source).value = checked.default development)) ∧
      faulty.Sublist Checked.all ∧
      (∀ checked, checked ∈ faulty ↔ checked.IsFaulty source) ∧
      (resolve source).warnings.map Event.setting? =
        (faulty.map fun checked => some checked.name.primary) ∧
      ∀ warning ∈ (resolve source).warnings, warning.level = "WARN" := by
  have hsettles := settles_resolve source
  have hall : ∀ checked, checked ∈ Checked.all := by
    intro checked
    cases checked <;> decide
  obtain ⟨faulty, hsublist, hfaulty, hwarnings⟩ := Checked.exists_faulty hsettles Checked.all
  refine ⟨_, faulty, inDevelopment_resolve source, fun checked => ⟨?_, ?_⟩, hsublist, ?_, ?_, ?_⟩
  · intro raw meaning hraw hdenotes
    exact ((hsettles checked).read raw meaning hraw hdenotes).1
  · exact (hsettles checked).eq_default
  · intro checked
    rw [hfaulty, and_iff_right (hall checked)]
  · rw [warnings_resolve, hwarnings]
  · intro warning hwarning
    rw [warnings_resolve, List.mem_flatMap] at hwarning
    obtain ⟨checked, -, hchecked⟩ := hwarning
    exact (hsettles checked).level_eq warning hchecked

/-- A port that is one too great, among values that are just in their grammars and just not. -/
theorem resolve_checked_at_the_bounds :
    let source : Source := .ofList
      [("APP_ENV", " Local"), ("RATE_LIMIT_STORE", "ReDis"),
        ("RATE_LIMIT_POST_MAX", "18446744073709551616"), ("RATE_LIMIT_POST_WINDOW", "-0"),
        ("RATE_LIMIT_GET_MAX", " "), ("RATE_LIMIT_GET_LIMIT", "+007"),
        ("RATE_LIMIT_GET_WINDOW", "+0"), ("RATE_LIMIT_MEMORY_FALLBACK", "on"),
        ("RATE_LIMIT_REDIS_PORT", "65536"), ("REDIS_PORT", "65535"),
        ("RATE_LIMIT_REDIS_DB", "-9223372036854775808"), ("RATE_LIMIT_REDIS_TLS", "yEs"),
        ("RATE_LIMIT_REDIS_TIMEOUT_MS", "18446744073709551615")]
    let settings := (resolve source).value
    Checked.readLimit.name.IsEffective source "+007" ∧
      Checked.readLimit.Denotes "+007" (.number 7) ∧
      Checked.readLimit.field settings = .number 7 ∧
      (∀ raw meaning, Checked.port.name.IsEffective source raw →
        ¬ Checked.port.Denotes raw meaning) ∧
      Checked.port.field settings = .number 6379 ∧
      Checked.all.map (·.field settings) =
        [.mode .shared, .number 5, .number 60, .number 7, .number 60, .truth true, .number 6379,
          .number (-2 ^ 63), .truth true, .duration (Duration.ofMillis (2 ^ 64 - 1))] ∧
      (resolve source).warnings.map Event.setting? =
        [some "RATE_LIMIT_POST_MAX", some "RATE_LIMIT_POST_WINDOW", some "RATE_LIMIT_GET_WINDOW",
          some "RATE_LIMIT_MEMORY_FALLBACK", some "RATE_LIMIT_REDIS_PORT"] := by
  intro source settings
  obtain ⟨development, faulty, hdevelopment, hfields, -⟩ := resolve_checked source
  have heffective : Checked.readLimit.name.IsEffective source "+007" :=
    SettingName.lookup_eq_some_iff.1 (by decide +kernel)
  have hseven : Decimal.IsNatural "+007".toList 7 :=
    word64?_eq_some_iff.1 (show word64? "+007" = some 7 by decide +kernel)
  have hdenotes : Checked.readLimit.Denotes "+007" (.number 7) :=
    ⟨7, hseven, by decide, by decide, rfl⟩
  have hlookup : Checked.port.name.lookup source = some "65536" := by decide +kernel
  have hport : ∀ raw meaning, Checked.port.name.IsEffective source raw →
      ¬ Checked.port.Denotes raw meaning := by
    rintro raw meaning hraw ⟨n, hn, hlt, -⟩
    rw [← SettingName.lookup_eq_some_iff, hlookup, Option.some.injEq] at hraw
    subst hraw
    have hread := Decimal.naturalChars?_eq_some_iff.2 ⟨hn, Nat.le_sub_one_of_lt hlt⟩
    rw [show Decimal.naturalChars? (2 ^ 16 - 1) "65536".toList = none by decide +kernel] at hread
    cases hread
  exact ⟨heffective, hdenotes, (hfields .readLimit).1 _ _ heffective hdenotes, hport,
    (hfields .port).2 hport, by decide +kernel, by decide +kernel⟩

end Settings

end Throttle
