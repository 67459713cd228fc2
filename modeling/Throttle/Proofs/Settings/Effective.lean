import Mathlib.Data.List.Basic
import Mathlib.Logic.Function.Basic
import Throttle.Settings.Resolve

/-!
# Effective values

Of everything that a source says, one value counts for a setting: the first among its names that is
not blank, without the blanks around it.  Main statement: sources with the same effective values
resolve to the same settings with the same warnings, so nothing else that they say has an effect.
-/

namespace Throttle

/-- Nothing, or nothing but blanks, is under a name. -/
def Source.IsBlankAt (source : Source) (key : String) : Prop :=
  ∀ raw, source key = some raw → Text.trim raw = ""

/-- What a value says: the text without the blanks around it, if anything is left. -/
def Source.content (value : Option String) : Option String :=
  (value.map Text.trim).filter fun text => !text.isEmpty

namespace SettingName

/-- The value that counts for a setting: the first among its names that is not blank, without the
blanks around it. -/
def IsEffective (name : SettingName) (source : Source) (value : String) : Prop :=
  ∃ before key after raw, name.names = before ++ key :: after ∧ source key = some raw ∧
    Text.trim raw = value ∧ value ≠ "" ∧ ∀ earlier ∈ before, source.IsBlankAt earlier

end SettingName

namespace Source

variable {source other : Source} {key : String}

theorem content_eq_some_iff {value : Option String} {text : String} :
    content value = some text ↔ ∃ raw, value = some raw ∧ Text.trim raw = text ∧ text ≠ "" := by
  cases value with
  | none => simp [content]
  | some raw =>
      rw [content, Option.map_some, Option.filter_eq_some_iff]
      simp only [Option.some.injEq, Bool.not_eq_true', String.isEmpty_eq_false_iff, exists_eq_left']

theorem content_eq_none_iff : content (source key) = none ↔ source.IsBlankAt key := by
  unfold IsBlankAt
  cases source key with
  | none => simp [content]
  | some raw =>
      rw [content, Option.map_some, Option.filter_eq_none_iff]
      simp only [Option.some.injEq, forall_eq', Bool.not_eq_true', String.isEmpty_eq_false_iff,
        ne_eq, not_not]

end Source

namespace SettingName

variable {source other : Source} {name : SettingName}

theorem lookup_eq_findSome? :
    name.lookup source = name.names.findSome? fun key => Source.content (source key) := rfl

theorem lookup_eq_some_iff {value : String} :
    name.lookup source = some value ↔ name.IsEffective source value := by
  rw [lookup_eq_findSome?, List.findSome?_eq_some_iff, IsEffective]
  constructor
  · rintro ⟨before, key, after, hnames, hcontent, hblank⟩
    obtain ⟨raw, hraw, htrim, hne⟩ := Source.content_eq_some_iff.1 hcontent
    exact ⟨before, key, after, raw, hnames, hraw, htrim, hne, fun earlier hearlier =>
      Source.content_eq_none_iff.1 (hblank earlier hearlier)⟩
  · rintro ⟨before, key, after, raw, hnames, hraw, htrim, hne, hblank⟩
    exact ⟨before, key, after, hnames, Source.content_eq_some_iff.2 ⟨raw, hraw, htrim, hne⟩,
      fun earlier hearlier => Source.content_eq_none_iff.2 (hblank earlier hearlier)⟩

/-- Sources with the same effective value of a setting agree on it, also if there is none. -/
theorem lookup_eq_of_effective
    (heffective : ∀ value, name.IsEffective source value ↔ name.IsEffective other value) :
    name.lookup source = name.lookup other := by
  ext value
  simp only [lookup_eq_some_iff, heffective]

theorem lookup_congr
    (hcontent : ∀ key ∈ name.names, Source.content (source key) = Source.content (other key)) :
    name.lookup source = name.lookup other := by
  rw [lookup_eq_findSome?, lookup_eq_findSome?, ← List.head?_filterMap, ← List.head?_filterMap,
    List.filterMap_congr hcontent]

/-- No name of a setting is a name of another one. -/
theorem names_disjoint :
    ∀ name ∈ all, ∀ other ∈ all, ∀ key ∈ name.names, key ∈ other.names → name = other := by
  decide +kernel

/-- Every setting has at most one alias, which is not its primary name. -/
theorem aliases_eq :
    ∀ name ∈ all, ∀ alias_ ∈ name.aliases, name.aliases = [alias_] ∧ alias_ ≠ name.primary := by
  decide +kernel

end SettingName

namespace Settings

open SettingName

variable {source other : Source}

/-- What is looked up for the password is the password, and has an effect on nothing else. -/
theorem resolve_but_password
    (hlookup : ∀ name ∈ all, name ≠ password → name.lookup source = name.lookup other) :
    resolve other =
      { resolve source with
        value :=
          { (resolve source).value with
            redis := { (resolve source).value.redis with password := password.lookup other } } } := by
  simp +decide only [all, List.forall_mem_cons, List.not_mem_nil, false_implies, implies_true,
    and_true, ne_eq, true_implies, true_and] at hlookup
  obtain ⟨henvironment, hmode, hmutatingLimit, hmutatingWindow, hreadLimit, hreadWindow,
    hkeyPrefix, hmemoryFallback, hhost, hport, husername, hdb, htls, hopTimeout⟩ := hlookup
  unfold resolve textSetting modeSetting limitSetting windowSetting positiveSetting numberSetting
    truthSetting portSetting dbSetting
  rw [henvironment, hmode, hmutatingLimit, hmutatingWindow, hreadLimit, hreadWindow, hkeyPrefix,
    hmemoryFallback, hhost, hport, husername, hdb, htls, hopTimeout]

/-- Settings are resolved from what is looked up, and from nothing else. -/
theorem resolve_congr (hlookup : ∀ name ∈ all, name.lookup source = name.lookup other) :
    resolve source = resolve other := by
  have hpassword : (resolve source).value.redis.password = password.lookup other :=
    hlookup password (by decide)
  rw [resolve_but_password fun name hname _ => hlookup name hname, ← hpassword]

/-- What is under a name counts only by its content. -/
theorem resolve_update_of_content {key : String} {value : Option String}
    (hcontent : Source.content value = Source.content (source key)) :
    resolve (Function.update source key value) = resolve source := by
  refine resolve_congr fun name _ => lookup_congr fun other _ => ?_
  by_cases hother : other = key
  · rw [hother, Function.update_self, hcontent]
  · rw [Function.update_of_ne hother]

/-- Changes under the names of one setting leave the others alone. -/
theorem resolve_eq_of_lookup_eq {name : SettingName} (hname : name ∈ all)
    (hothers : ∀ key ∉ name.names, other key = source key)
    (hlookup : name.lookup other = name.lookup source) : resolve other = resolve source := by
  refine resolve_congr fun name' hname' => ?_
  by_cases hsame : name' = name
  · rw [hsame, hlookup]
  · refine lookup_congr fun key hkey => ?_
    have hkey' : key ∉ name.names := fun hmem =>
      hsame (names_disjoint name' hname' name hname key hkey hmem)
    rw [hothers key hkey']

theorem lookup_of_alias {name : SettingName} {alias_ : String} (haliases : name.aliases = [alias_]) :
    name.lookup source =
      (Source.content (source name.primary)).or (Source.content (source alias_)) := by
  rw [lookup_eq_findSome?, names, haliases, List.findSome?_cons]
  cases Source.content (source name.primary) with
  | none => simp
  | some text => rfl

/-- The settings that a source resolves to, and the warnings, depend on its effective values only.
So blanks around a value do not matter; nor whether a blank value is there; nor whether a value is
under an alias or, if that is blank, under the primary name; nor what is under an alias of a name
that has a value, even one that cannot be read; nor what is under any other name. -/
theorem resolve_eq_of_effective (source : Source) :
    (∀ other : Source, (∀ name ∈ all, ∀ value,
        name.IsEffective source value ↔ name.IsEffective other value) →
      resolve other = resolve source) ∧
    (∀ key raw before after, source key = some raw →
      (∀ c ∈ before, Text.isBlank c = true) → (∀ c ∈ after, Text.isBlank c = true) →
        resolve (Function.update source key
          (some (String.ofList before ++ raw ++ String.ofList after))) = resolve source) ∧
    (∀ key, source.IsBlankAt key →
      resolve (Function.update source key none) = resolve source) ∧
    (∀ name ∈ all, ∀ alias_ ∈ name.aliases, source.IsBlankAt name.primary →
      resolve (Function.update (Function.update source alias_ none) name.primary
        (source alias_)) = resolve source) ∧
    (∀ name ∈ all, ∀ alias_ ∈ name.aliases, ¬ source.IsBlankAt name.primary → ∀ value,
      resolve (Function.update source alias_ value) = resolve source) ∧
    ∀ key, (∀ name ∈ all, key ∉ name.names) → ∀ value,
      resolve (Function.update source key value) = resolve source := by
  refine ⟨fun other heffective => ?_, fun key raw before after hraw hbefore hafter => ?_,
    fun key hblank => ?_, fun name hname alias_ halias hblank => ?_,
    fun name hname alias_ halias hfull value => ?_, fun key hkey value => ?_⟩
  · exact resolve_congr fun name hname =>
      (lookup_eq_of_effective (heffective name hname)).symm
  · refine resolve_update_of_content ?_
    rw [hraw, Source.content, Option.map_some, Text.trim_append_blanks raw hbefore hafter]
    rfl
  · refine resolve_update_of_content ?_
    rw [Source.content_eq_none_iff.2 hblank]
    rfl
  · obtain ⟨haliases, hne⟩ := aliases_eq name hname alias_ halias
    refine resolve_eq_of_lookup_eq hname (fun key hkey => ?_) ?_
    · rw [names, haliases, List.mem_cons, List.mem_singleton, not_or] at hkey
      rw [Function.update_of_ne hkey.1, Function.update_of_ne hkey.2]
    · rw [lookup_of_alias haliases, lookup_of_alias haliases, Function.update_self,
        Function.update_of_ne hne, Function.update_self, Source.content_eq_none_iff.2 hblank]
      exact Option.or_none
  · obtain ⟨haliases, hne⟩ := aliases_eq name hname alias_ halias
    refine resolve_eq_of_lookup_eq hname (fun key hkey => ?_) ?_
    · rw [names, haliases, List.mem_cons, List.mem_singleton, not_or] at hkey
      exact Function.update_of_ne hkey.2 ..
    · obtain ⟨text, htext⟩ := Option.ne_none_iff_exists'.1 (mt Source.content_eq_none_iff.1 hfull)
      rw [lookup_of_alias haliases, lookup_of_alias haliases, Function.update_of_ne hne.symm,
        htext]
      rfl
  · refine resolve_congr fun name hname => lookup_congr fun other hother => ?_
    have hne : other ≠ key := fun hsame => hkey name hname (hsame ▸ hother)
    rw [Function.update_of_ne hne]

/-- A host under an alias whose primary name is blank, and a limit that cannot be read before one
that can: with the host in its place, blanks around what counts, and nothing behind it, the host and
the warning are the same. -/
theorem resolve_eq_of_effective_for_hosts :
    let source : Source := .ofList [("RATE_LIMIT_REDIS_HOST", " "), ("REDIS_HOST", "cache"),
      ("RATE_LIMIT_GET_MAX", "x"), ("RATE_LIMIT_GET_LIMIT", "7")]
    let other : Source := .ofList [("RATE_LIMIT_REDIS_HOST", "cache\t"),
      ("RATE_LIMIT_GET_MAX", "\u2003x"), ("RATE_LIMIT", "1")]
    source.IsBlankAt "RATE_LIMIT_REDIS_HOST" ∧ ¬ source.IsBlankAt "RATE_LIMIT_GET_MAX" ∧
      (∀ name ∈ all, ∀ value,
        name.IsEffective source value ↔ name.IsEffective other value) ∧
      (resolve source).value.redis.host = "cache" ∧
      (resolve source).warnings = [.invalidNumber "RATE_LIMIT_GET_MAX" "x" 50] ∧
      resolve other = resolve source ∧
      resolve (Function.update (Function.update source "REDIS_HOST" none)
        "RATE_LIMIT_REDIS_HOST" (some "cache")) = resolve source ∧
      resolve (Function.update source "RATE_LIMIT_GET_LIMIT" (some "8")) = resolve source := by
  intro source other
  have hblank : source.IsBlankAt "RATE_LIMIT_REDIS_HOST" :=
    Source.content_eq_none_iff.1 (by decide +kernel)
  have hfull : ¬ source.IsBlankAt "RATE_LIMIT_GET_MAX" :=
    mt Source.content_eq_none_iff.2 (by decide +kernel)
  have hlookup : ∀ name ∈ all, name.lookup source = name.lookup other := by decide +kernel
  have heffective : ∀ name ∈ all, ∀ value,
      name.IsEffective source value ↔ name.IsEffective other value := by
    intro name hname value
    rw [← lookup_eq_some_iff, ← lookup_eq_some_iff, hlookup name hname]
  obtain ⟨hsame, -, -, hmoved, hbehind, -⟩ := resolve_eq_of_effective source
  exact ⟨hblank, hfull, heffective, by decide +kernel, by decide +kernel, hsame other heffective,
    hmoved SettingName.host (by decide) "REDIS_HOST" (by decide) hblank,
    hbehind SettingName.readLimit (by decide) "RATE_LIMIT_GET_LIMIT" (by decide) hfull (some "8")⟩

end Settings

end Throttle
