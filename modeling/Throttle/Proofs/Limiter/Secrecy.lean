import Throttle.Limiter.OfSettings
import Throttle.Proofs.Database.Address
import Throttle.Proofs.Database.Likeness
import Throttle.Proofs.Http.Desk
import Throttle.Proofs.Settings.Effective
import Throttle.Settings.Json

/-!
# The password does not show

Settings that differ in their passwords print and write the same, and a limiter can be built of both
or of neither.  Limiters of both, to which the same happens, print, answer and report the same.  What
is refused is refused with the same message, with one exception: in an address without a host an
empty password is not noticed, and any other one is.  Main statement: what can differ of two settings
with different passwords is that message, and of resolved ones, whose passwords are not empty, nothing.
-/

namespace Throttle

def Settings.withPassword (settings : Settings) (pass : String) : Settings :=
  { settings with redis := settings.redis.withPassword pass }

theorem Settings.sameRules_withPassword (settings : Settings) (p q : String) :
    (settings.withPassword p).SameRules (settings.withPassword q) :=
  ⟨rfl, rfl, rfl, rfl, rfl, rfl⟩

/-- What shows of two limiters at work is the same: their texts, the answers that they gave and
everything that they reported. -/
structure Desk.LookAlike {κ : Type} (left right : Desk κ) : Prop where
  text : left.limiter.text = right.limiter.text
  answers : left.answers = right.answers
  log : left.log = right.log

/-- What shows of the building of two limiters is the same, and so is what shows of them and of their
counters after it, whatever comes to them: both are refused, with errors in some relation, or
neither. -/
inductive Limiter.BuildAlike (refusals : LimiterError → LimiterError → Prop) :
    Except LimiterError (Outcome (Limiter RedisCounter) Unit) →
      Except LimiterError (Outcome (Limiter RedisCounter) Unit) → Prop where
  | refused {error error' : LimiterError} (herrors : refusals error error') :
      BuildAlike refusals (.error error) (.error error')
  | built {built built' : Outcome (Limiter RedisCounter) Unit}
      (hruns : ∀ (sweepInterval : Nat) (steps : List (Desk.Step RedisCounter)),
        let desk := (Desk.ofBuilt built sweepInterval).run steps
        let desk' := (Desk.ofBuilt built' sweepInterval).run steps
        desk.LookAlike desk' ∧
          desk.limiter.shared.map (·.counter.text) = desk'.limiter.shared.map (·.counter.text)) :
      BuildAlike refusals (.ok built) (.ok built')

/-- What shows of two settings is the same, and so is what shows of limiters with them: those that
are built around any shared counter, and those that are built for the database at a server, but
perhaps for the errors if both are refused. -/
structure Settings.ShowAlike (refusals : LimiterError → LimiterError → Prop)
    (left right : Settings) : Prop where
  text : left.text = right.text
  redisText : left.redis.text = right.redis.text
  json : left.write = right.write
  around {κ : Type} [BusyCounter κ] (counter : κ) (sweepInterval : Nat)
    (steps : List (Desk.Step κ)) :
    ((Desk.ofBuilt (Limiter.build left (some counter)) sweepInterval).run steps).LookAlike
      ((Desk.ofBuilt (Limiter.build right (some counter)) sweepInterval).run steps)
  building (server : Option Database.Server) :
    Limiter.BuildAlike refusals (Limiter.ofSettings? left server) (Limiter.ofSettings? right server)

def AddressFault.refusal (fault : AddressFault) : LimiterError :=
  .config ("Invalid Redis connection settings: " ++ fault.message)

/-- The errors with which limiters with the passwords `p` and `q` are refused. -/
def RefusalsAlike (p q : String) (error error' : LimiterError) : Prop :=
  ∃ fault fault', RedisSettings.FaultsAlike p q (some fault) (some fault') ∧
    error = fault.refusal ∧ error' = fault'.refusal

/-- Passwords that are not empty make no difference at all. -/
theorem RefusalsAlike.eq {p q : String} (hp : p ≠ "") (hq : q ≠ "") {error error' : LimiterError}
    (halike : RefusalsAlike p q error error') : error = error' := by
  obtain ⟨fault, fault', hfaults, rfl, rfl⟩ := halike
  cases hfaults with
  | same => rfl
  | emptyLeft hempty => exact absurd hempty hp
  | emptyRight _ hempty => exact absurd hempty hq

theorem Limiter.BuildAlike.mono {refusals refusals' : LimiterError → LimiterError → Prop}
    (hrefusals : ∀ {error error'}, refusals error error' → refusals' error error')
    {left right : Except LimiterError (Outcome (Limiter RedisCounter) Unit)}
    (halike : Limiter.BuildAlike refusals left right) :
    Limiter.BuildAlike refusals' left right := by
  cases halike with
  | refused herrors => exact .refused (hrefusals herrors)
  | built hruns => exact .built hruns

/-! ## Limiters with different passwords -/

section Likeness

variable {κ : Type} [BusyCounter κ] {states : κ → κ → Prop}

/-- The likeness of limiters that were given one or the other password. -/
def Likeness.ofPasswords (hstates : BusyCounter.Bisimulation states) (settings : Settings)
    (p q : String) : Likeness κ :=
  .ofBisimulation hstates (settings.withPassword p) (settings.withPassword q)
    (settings.sameRules_withPassword p q) rfl

variable {hstates : BusyCounter.Bisimulation states} {settings : Settings} {p q : String}

theorem Likeness.Desks.lookAlike {left right : Desk κ}
    (hdesks : (Likeness.ofPasswords hstates settings p q).Desks left right) :
    left.LookAlike right := by
  obtain ⟨hlimiter, -, hanswers, hlog⟩ := hdesks
  obtain ⟨hleft, hright⟩ := hlimiter.settings
  have hsettings : left.limiter.settings.text = right.limiter.settings.text := by
    rw [hleft, hright]
    rfl
  have hshared : left.limiter.shared.map SharedBackend.text =
      right.limiter.shared.map SharedBackend.text := by
    refine hlimiter.map_shared_eq fun {b c} hbackends => ?_
    have hkeyPrefix : b.keyPrefix = c.keyPrefix := hbackends.prefixes
    rw [SharedBackend.text, SharedBackend.text, hbackends.available, hkeyPrefix,
      hbackends.opTimeout]
  refine ⟨?_, hanswers, hlog trivial⟩
  rw [Limiter.text, Limiter.text, hsettings, hshared, hlimiter.isRunning_eq, hlimiter.store]

theorem Likeness.Outcomes.run {built built' : Outcome (Limiter κ) Unit}
    (hbuilt : (Likeness.ofPasswords hstates settings p q).Outcomes
      (Likeness.ofPasswords hstates settings p q).Limiters Eq built built')
    (sweepInterval : Nat) (steps : List (Desk.Step κ)) :
    (Likeness.ofPasswords hstates settings p q).Desks
      ((Desk.ofBuilt built sweepInterval).run steps)
      ((Desk.ofBuilt built' sweepInterval).run steps) :=
  (Likeness.Desks.ofBuilt hbuilt sweepInterval).run
    (List.forall₂_same.2 fun step _ => step.alike_refl Eq.refl)

end Likeness

namespace Settings

theorem lookAlike_around (settings : Settings) (p q : String) {κ : Type} [BusyCounter κ]
    (counter : κ) (sweepInterval : Nat) (steps : List (Desk.Step κ)) :
    ((Desk.ofBuilt (Limiter.build (settings.withPassword p) (some counter)) sweepInterval).run
        steps).LookAlike
      ((Desk.ofBuilt (Limiter.build (settings.withPassword q) (some counter)) sweepInterval).run
        steps) := by
  let like := Likeness.ofPasswords (BusyCounter.bisimulation_eq (κ := κ)) settings p q
  have hsettings : like.settings (settings.withPassword p) (settings.withPassword q) := ⟨rfl, rfl⟩
  have hcounter : like.counter counter counter := rfl
  exact ((Likeness.limiters_build hsettings (.some hcounter)).run sweepInterval steps).lookAlike

theorem buildAlike_of_outcomes {settings : Settings} {p q : String}
    {refusals : LimiterError → LimiterError → Prop}
    {built built' : Outcome (Limiter RedisCounter) Unit}
    (hbuilt : (Likeness.ofPasswords RedisCounter.bisimulation_alike settings p q).Outcomes
      (Likeness.ofPasswords RedisCounter.bisimulation_alike settings p q).Limiters Eq built built') :
    Limiter.BuildAlike refusals (.ok built) (.ok built') := by
  refine .built fun sweepInterval steps => ?_
  have hdesks := hbuilt.run sweepInterval steps
  refine ⟨hdesks.lookAlike, hdesks.limiter.map_shared_eq fun hbackends => ?_⟩
  exact RedisCounter.Alike.text_eq hbackends.counter

theorem buildAlike_withPassword (settings : Settings) (p q : String)
    (server : Option Database.Server) :
    Limiter.BuildAlike (RefusalsAlike p q) (Limiter.ofSettings? (settings.withPassword p) server)
      (Limiter.ofSettings? (settings.withPassword q) server) := by
  let like := Likeness.ofPasswords RedisCounter.bisimulation_alike settings p q
  have hsettings : like.settings (settings.withPassword p) (settings.withPassword q) := ⟨rfl, rfl⟩
  have huses : ∀ pass, (settings.withPassword pass).usesShared = settings.usesShared := fun _ => rfl
  unfold Limiter.ofSettings?
  rw [huses p, huses q]
  cases settings.usesShared with
  | false => exact buildAlike_of_outcomes (Likeness.limiters_build hsettings .none)
  | true =>
      have hfaults := settings.redis.addressFault?_withPassword p q
      have hcounters : like.counter { settings := settings.redis.withPassword p, server }
          { settings := settings.redis.withPassword q, server } :=
        RedisCounter.alike_of_settings _ _ server
      have hbuilt := Likeness.limiters_build hsettings (.some hcounters)
      have hredis : ∀ pass, (settings.withPassword pass).redis = settings.redis.withPassword pass :=
        fun _ => rfl
      rw [if_pos rfl, if_pos rfl, hredis, hredis]
      unfold RedisCounter.ofSettings?
      generalize (settings.redis.withPassword p).addressFault? = fault at hfaults ⊢
      generalize (settings.redis.withPassword q).addressFault? = fault' at hfaults ⊢
      cases hfaults with
      | same =>
          cases fault with
          | none => exact buildAlike_of_outcomes (hbuilt.after fun _ => rfl)
          | some fault => exact .refused ⟨fault, fault, .same _, rfl, rfl⟩
      | emptyLeft hp hq => exact .refused ⟨_, _, .emptyLeft hp hq, rfl, rfl⟩
      | emptyRight hp hq => exact .refused ⟨_, _, .emptyRight hp hq, rfl, rfl⟩

theorem showAlike_withPassword (settings : Settings) (p q : String) :
    ShowAlike (RefusalsAlike p q) (settings.withPassword p) (settings.withPassword q) :=
  ⟨rfl, rfl, rfl, settings.lookAlike_around p q, settings.buildAlike_withPassword p q⟩

section Sources

variable {source other : Source} {p q : String}

theorem password_ne_empty (hp : (resolve source).value.redis.password = some p) : p ≠ "" := by
  obtain ⟨_, _, _, _, -, -, -, hne, -⟩ := SettingName.lookup_eq_some_iff.1 hp
  exact hne

/-- Sources that differ only under the names of the password resolve to settings that differ only in
the password, with the same warnings. -/
theorem resolve_other_password (hothers : ∀ key ∉ SettingName.password.names, source key = other key)
    (hp : (resolve source).value.redis.password = some p)
    (hq : (resolve other).value.redis.password = some q) :
    (resolve other).warnings = (resolve source).warnings ∧
      (resolve source).value = (resolve source).value.withPassword p ∧
      (resolve other).value = (resolve source).value.withPassword q := by
  have hlookup : ∀ name ∈ SettingName.all, name ≠ .password →
      name.lookup source = name.lookup other := by
    intro name hname hne
    refine SettingName.lookup_congr fun key hkey => ?_
    rw [hothers key fun hpassword =>
      hne (SettingName.names_disjoint name hname .password (by decide) key hkey hpassword)]
  have hresolve := resolve_but_password hlookup
  have hlooked : SettingName.password.lookup other = some q := hq
  rw [hlooked] at hresolve
  refine ⟨by rw [hresolve], ?_, by rw [hresolve]; rfl⟩
  rw [withPassword, RedisSettings.withPassword, ← hp]

end Sources

/-- The password does not show.  Settings with one or another password print and write the same, and
limiters are built from both or from neither; those print, answer and report the same, whatever comes
to them.  Sources that say the same but for the password have the same warnings, and the settings
that they resolve to are refused with the same error if they are. -/
theorem password_never_shows :
    (∀ (settings : Settings) (p q : String),
      ShowAlike (RefusalsAlike p q) (settings.withPassword p) (settings.withPassword q)) ∧
    ∀ (source other : Source) (p q : String),
      (∀ key ∉ SettingName.password.names, source key = other key) →
      (resolve source).value.redis.password = some p →
      (resolve other).value.redis.password = some q →
        (resolve source).warnings = (resolve other).warnings ∧
          ShowAlike Eq (resolve source).value (resolve other).value := by
  refine ⟨showAlike_withPassword, fun source other p q hothers hp hq => ?_⟩
  obtain ⟨hwarnings, hsource, hother⟩ := resolve_other_password hothers hp hq
  have hshow := (resolve source).value.showAlike_withPassword p q
  have herrors : ∀ {error error'}, RefusalsAlike p q error error' → error = error' :=
    RefusalsAlike.eq (password_ne_empty hp) (password_ne_empty hq)
  rw [hother, hsource]
  exact ⟨hwarnings.symm, hshow.text, hshow.redisText, hshow.json, hshow.around, fun server =>
    (hshow.building server).mono herrors⟩

/-- Two passwords of different length, one of them under the second name, with a host that cannot be
used and a port that is none. -/
theorem password_never_shows_at_a_bad_host :
    let said := [("RATE_LIMIT_STORE", "shared"), ("REDIS_HOST", "bad host"), ("REDIS_PORT", "x")]
    let source : Source := .ofList (("RATE_LIMIT_REDIS_PASSWORD", "p@ss/word") :: said)
    let other : Source := .ofList (("REDIS_PASSWORD", "q") :: said)
    (∀ key ∉ SettingName.password.names, source key = other key) ∧
      (resolve source).value.redis.password = some "p@ss/word" ∧
      (resolve other).value.redis.password = some "q" ∧
      (resolve source).warnings = [.invalidNumber "RATE_LIMIT_REDIS_PORT" "x" 6379] ∧
      (resolve source).value.redis.addressFault? = some .malformed ∧
      (resolve source).warnings = (resolve other).warnings ∧
      ShowAlike Eq (resolve source).value (resolve other).value := by
  intro said source other
  have hothers : ∀ key ∉ SettingName.password.names, source key = other key := by
    intro key hkey
    have hnames : key ≠ "RATE_LIMIT_REDIS_PASSWORD" ∧ key ≠ "REDIS_PASSWORD" := by
      simpa [SettingName.names, SettingName.password] using hkey
    have hleft : (key == "RATE_LIMIT_REDIS_PASSWORD") = false := beq_false_of_ne hnames.1
    have hright : (key == "REDIS_PASSWORD") = false := beq_false_of_ne hnames.2
    simp only [source, other, Source.ofList, List.lookup_cons, hleft, hright]
  have hp : (resolve source).value.redis.password = some "p@ss/word" := by decide +kernel
  have hq : (resolve other).value.redis.password = some "q" := by decide +kernel
  have hshow := password_never_shows.2 source other _ _ hothers hp hq
  exact ⟨hothers, hp, hq, by decide +kernel, by decide +kernel, hshow⟩

/-- Where the address names no host, the error shows whether the password is empty: without a user
an empty password is not noticed, and any other one makes the address malformed. -/
theorem empty_password_shows_without_host :
    let resolved := (resolve (.ofList [("RATE_LIMIT_STORE", "shared"), ("REDIS_HOST", "/x")])).value
    let refusal (pass : String) : Option String :=
      match Limiter.ofSettings? (resolved.withPassword pass) none with
      | .error error => some error.message
      | .ok _ => none
    refusal "" = some ("Configuration error: Invalid Redis connection settings: " ++
        "Missing hostname- InvalidClientConfig") ∧
      refusal "p" = some ("Configuration error: Invalid Redis connection settings: " ++
        "Redis URL did not parse- InvalidClientConfig") := by
  decide +kernel

end Settings

end Throttle
