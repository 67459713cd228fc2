import Throttle.Limiter.Service
import Throttle.Proofs.Limiter.Check

/-!
# Limiters that are alike

Two limiters are alike if they have the same rules and the same state, but for their shared counters,
which are alike in a sense of their own, and for the names that they use there.  Main statement:
alike limiters that do the same stay alike and give the same answers; and if their counters report
the same, word for word, then so do they.  One such likeness comes from counters that do not tell
their states apart.
-/

namespace Throttle

/-- A shared counter to which more happens than what its limiter has it do.  What happens may depend
on whether the listener takes the counter to be usable, and may be told to it. -/
class BusyCounter (κ : Type) extends SharedCounter κ where
  Happening : Type
  happen : Happening → κ → Bool → κ × List Signal

/-- The backend after something has happened to its counter. -/
def SharedBackend.happen {κ : Type} [BusyCounter κ] (backend : SharedBackend κ)
    (happening : BusyCounter.Happening κ) : Outcome (SharedBackend κ) Unit :=
  let (counter, signals) := BusyCounter.happen happening backend.counter backend.available
  receive { backend with counter } signals

/-- Settings that differ at most in the connection of the shared counter and in the names there. -/
structure Settings.SameRules (left right : Settings) : Prop where
  mutating : left.mutating = right.mutating
  read : left.read = right.read
  mode : left.mode = right.mode
  environment : left.environment = right.environment
  memoryFallback : left.memoryFallback = right.memoryFallback
  opTimeout : left.redis.opTimeout = right.redis.opTimeout

theorem Settings.SameRules.policy {left right : Settings} (hrules : left.SameRules right)
    (methods : MethodClass) : left.policy methods = right.policy methods := by
  cases methods with
  | mutating => exact hrules.mutating
  | read => exact hrules.read

theorem Settings.SameRules.usesShared {left right : Settings} (hrules : left.SameRules right) :
    left.usesShared = right.usesShared := by
  rw [Settings.usesShared, Settings.usesShared, Settings.inDevelopment, Settings.inDevelopment,
    hrules.mode, hrules.environment]

theorem Settings.sameRules_of_connection (settings : Settings) (keyPrefix : String)
    {redis : RedisSettings} (hopTimeout : settings.redis.opTimeout = redis.opTimeout) :
    settings.SameRules { settings with keyPrefix, redis } :=
  ⟨rfl, rfl, rfl, rfl, rfl, hopTimeout⟩

/-- Signals with the same effect, which are the same if that matters. -/
structure Signal.Alike (verbatim : Prop) (left right : List Signal) : Prop where
  available : ∀ before, Signal.available before left = Signal.available before right
  eq : verbatim → left = right

theorem Signal.Alike.append {verbatim : Prop} {left right : List Signal}
    (hlike : Signal.Alike verbatim left right) (later : List Signal) :
    Signal.Alike verbatim (left ++ later) (right ++ later) where
  available before := by
    rw [Signal.available, Signal.available, List.foldl_append, List.foldl_append]
    exact congrArg (later.foldl Signal.availableAfter) (hlike.available before)
  eq hverbatim := by rw [hlike.eq hverbatim]

theorem Signal.Alike.of_eq {verbatim : Prop} {left right : List Signal} (heq : left = right) :
    Signal.Alike verbatim left right :=
  ⟨fun before => by rw [heq], fun _ => heq⟩

/-- The same answer, or two errors, which are the same if that matters. -/
inductive SharedCount.Alike (verbatim : Prop) :
    Except LimiterError SharedCount → Except LimiterError SharedCount → Prop where
  | ok (answer : SharedCount) : Alike verbatim (.ok answer) (.ok answer)
  | error {left right : LimiterError} (heq : verbatim → left = right) :
      Alike verbatim (.error left) (.error right)

theorem SharedCount.Alike.of_eq {verbatim : Prop} {left right : Except LimiterError SharedCount}
    (heq : left = right) : SharedCount.Alike verbatim left right := by
  subst heq
  cases left with
  | ok answer => exact .ok answer
  | error error => exact .error fun _ => rfl

/-- A way in which two limiters can be alike: which settings, which prefixes of names, which states
of the shared counter and which happenings are alike, and whether what is reported is the same. -/
structure Likeness (κ : Type) [BusyCounter κ] where
  /-- Whether names, reasons and errors are the same. -/
  verbatim : Prop
  settings : Settings → Settings → Prop
  prefixes : String → String → Prop
  counter : κ → κ → Prop
  happening : BusyCounter.Happening κ → BusyCounter.Happening κ → Prop
  sameRules {left right : Settings} : settings left right → left.SameRules right
  prefixes_of_settings {left right : Settings} : settings left right →
    prefixes left.keyPrefix right.keyPrefix
  prefixes_eq {left right : String} : verbatim → prefixes left right → left = right
  connect {left right : κ} : counter left right →
    counter (SharedCounter.connect left).1 (SharedCounter.connect right).1 ∧
      Signal.Alike verbatim (SharedCounter.connect left).2 (SharedCounter.connect right).2
  disconnect {left right : κ} : counter left right →
    counter (SharedCounter.disconnect left).1 (SharedCounter.disconnect right).1 ∧
      Signal.Alike verbatim (SharedCounter.disconnect left).2 (SharedCounter.disconnect right).2
  begin {left right : κ} {p q : String} (key : CounterKey) (window : Nat) :
    counter left right → prefixes p q →
      counter (SharedCounter.begin left (key.sharedName p) window).1
          (SharedCounter.begin right (key.sharedName q) window).1 ∧
        (SharedCounter.begin left (key.sharedName p) window).2 =
          (SharedCounter.begin right (key.sharedName q) window).2
  finish {left right : κ} {p q : String} (key : CounterKey) (window now : Nat) :
    counter left right → prefixes p q →
      counter (SharedCounter.finish left (key.sharedName p) window now).1
          (SharedCounter.finish right (key.sharedName q) window now).1 ∧
        SharedCount.Alike verbatim (SharedCounter.finish left (key.sharedName p) window now).2
          (SharedCounter.finish right (key.sharedName q) window now).2
  happen {left right : κ} {x y : BusyCounter.Happening κ} (available : Bool) :
    counter left right → happening x y →
      counter (BusyCounter.happen x left available).1 (BusyCounter.happen y right available).1 ∧
        Signal.Alike verbatim (BusyCounter.happen x left available).2
          (BusyCounter.happen y right available).2

/-- States of a shared counter that it does not tell apart: whatever it does or has happen to it, it
says the same of both, and its states stay such. -/
structure BusyCounter.Bisimulation {κ : Type} [BusyCounter κ] (states : κ → κ → Prop) : Prop where
  connect {left right : κ} : states left right →
    states (SharedCounter.connect left).1 (SharedCounter.connect right).1 ∧
      (SharedCounter.connect left).2 = (SharedCounter.connect right).2
  disconnect {left right : κ} : states left right →
    states (SharedCounter.disconnect left).1 (SharedCounter.disconnect right).1 ∧
      (SharedCounter.disconnect left).2 = (SharedCounter.disconnect right).2
  begin {left right : κ} (name : String) (window : Nat) : states left right →
    states (SharedCounter.begin left name window).1 (SharedCounter.begin right name window).1 ∧
      (SharedCounter.begin left name window).2 = (SharedCounter.begin right name window).2
  finish {left right : κ} (name : String) (window now : Nat) : states left right →
    states (SharedCounter.finish left name window now).1
        (SharedCounter.finish right name window now).1 ∧
      (SharedCounter.finish left name window now).2 =
        (SharedCounter.finish right name window now).2
  happen {left right : κ} (happening : BusyCounter.Happening κ) (available : Bool) :
    states left right →
      states (BusyCounter.happen happening left available).1
          (BusyCounter.happen happening right available).1 ∧
        (BusyCounter.happen happening left available).2 =
          (BusyCounter.happen happening right available).2

theorem BusyCounter.bisimulation_eq {κ : Type} [BusyCounter κ] :
    BusyCounter.Bisimulation (Eq : κ → κ → Prop) where
  connect := by
    rintro _ _ rfl
    exact ⟨rfl, rfl⟩
  disconnect := by
    rintro _ _ rfl
    exact ⟨rfl, rfl⟩
  begin := by
    rintro _ _ name window rfl
    exact ⟨rfl, rfl⟩
  finish := by
    rintro _ _ name window now rfl
    exact ⟨rfl, rfl⟩
  happen := by
    rintro _ _ happening available rfl
    exact ⟨rfl, rfl⟩

/-- The likeness of limiters that were given one or the other settings, which differ at most in the
connection of the shared counter, and whose counters do not tell their states apart. -/
def Likeness.ofBisimulation {κ : Type} [BusyCounter κ] {states : κ → κ → Prop}
    (hstates : BusyCounter.Bisimulation states) (left right : Settings)
    (hrules : left.SameRules right) (hkeyPrefix : left.keyPrefix = right.keyPrefix) :
    Likeness κ where
  verbatim := True
  settings left' right' := left' = left ∧ right' = right
  prefixes := Eq
  counter := states
  happening := Eq
  sameRules := by
    rintro _ _ ⟨rfl, rfl⟩
    exact hrules
  prefixes_of_settings := by
    rintro _ _ ⟨rfl, rfl⟩
    exact hkeyPrefix
  prefixes_eq _ := id
  connect hcounters := ⟨(hstates.connect hcounters).1, .of_eq (hstates.connect hcounters).2⟩
  disconnect hcounters := ⟨(hstates.disconnect hcounters).1, .of_eq (hstates.disconnect hcounters).2⟩
  begin key window hcounters hprefixes := by
    subst hprefixes
    exact hstates.begin (key.sharedName _) window hcounters
  finish key window now hcounters hprefixes := by
    subst hprefixes
    obtain ⟨hcounter, hresult⟩ := hstates.finish (key.sharedName _) window now hcounters
    exact ⟨hcounter, .of_eq hresult⟩
  happen available hcounters hhappening := by
    subst hhappening
    obtain ⟨hcounter, hheard⟩ := hstates.happen _ available hcounters
    exact ⟨hcounter, .of_eq hheard⟩

namespace Likeness

variable {κ : Type} [BusyCounter κ] (like : Likeness κ)

/-- Outcomes with alike states and values, and with the same events if that matters. -/
structure Outcomes {σ α : Type} (states : σ → σ → Prop) (values : α → α → Prop)
    (left right : Outcome σ α) : Prop where
  state : states left.state right.state
  value : values left.value right.value
  events : like.verbatim → left.events = right.events

structure Backends (left right : SharedBackend κ) : Prop where
  counter : like.counter left.counter right.counter
  available : left.available = right.available
  prefixes : like.prefixes left.keyPrefix right.keyPrefix
  opTimeout : left.opTimeout = right.opTimeout

structure Limiters (left right : Limiter κ) : Prop where
  settings : like.settings left.settings right.settings
  store : left.store = right.store
  shared : Option.Rel like.Backends left.shared right.shared
  lifecycle : left.lifecycle = right.lifecycle
  sweepInterval : left.sweepInterval = right.sweepInterval
  timersCreated : left.timersCreated = right.timersCreated
  timersCancelled : left.timersCancelled = right.timersCancelled

variable {like}

theorem Outcomes.after {σ α : Type} {states : σ → σ → Prop} {values : α → α → Prop}
    {left right : Outcome σ α} (houtcomes : like.Outcomes states values left right)
    {before before' : List Event} (hbefore : like.verbatim → before = before') :
    like.Outcomes states values (left.after before) (right.after before') where
  state := houtcomes.state
  value := houtcomes.value
  events hverbatim := by
    rw [Outcome.after, Outcome.after, hbefore hverbatim, houtcomes.events hverbatim]

/-! ## Backends -/

namespace Backends

variable {left right : SharedBackend κ}

theorem sharedName_eq (hlike : like.Backends left right) (hverbatim : like.verbatim)
    (key : CounterKey) : key.sharedName left.keyPrefix = key.sharedName right.keyPrefix := by
  rw [like.prefixes_eq hverbatim hlike.prefixes]

theorem withCounter (hlike : like.Backends left right) {c d : κ} (hcounter : like.counter c d) :
    like.Backends { left with counter := c } { right with counter := d } :=
  ⟨hcounter, hlike.available, hlike.prefixes, hlike.opTimeout⟩

theorem receive (hlike : like.Backends left right) {heard heard' : List Signal}
    (hheard : Signal.Alike like.verbatim heard heard') :
    like.Outcomes like.Backends Eq (left.receive heard) (right.receive heard') where
  state := by
    refine ⟨hlike.counter, ?_, hlike.prefixes, hlike.opTimeout⟩
    rw [SharedBackend.receive, SharedBackend.receive, hlike.available]
    exact hheard.available right.available
  value := rfl
  events hverbatim := by rw [SharedBackend.receive, SharedBackend.receive, hheard.eq hverbatim]

theorem connect (hlike : like.Backends left right) :
    like.Outcomes like.Backends Eq left.connect right.connect := by
  obtain ⟨hcounter, hheard⟩ := like.connect hlike.counter
  exact (hlike.withCounter hcounter).receive hheard

theorem disconnect (hlike : like.Backends left right) :
    like.Outcomes like.Backends Eq left.disconnect right.disconnect := by
  obtain ⟨hcounter, hheard⟩ := like.disconnect hlike.counter
  -- Whether the listener still has to be told depends on what it takes the counter for by then.
  have htold : Signal.available left.available (SharedCounter.disconnect left.counter).2 =
      Signal.available right.available (SharedCounter.disconnect right.counter).2 := by
    rw [hlike.available]
    exact hheard.available right.available
  have hall := hheard.append
    (if Signal.available right.available (SharedCounter.disconnect right.counter).2
      then [.connection .closed] else [])
  have hreceived := (hlike.withCounter hcounter).receive hall
  unfold SharedBackend.disconnect
  dsimp only
  rw [htold]
  exact hreceived

theorem begin (hlike : like.Backends left right) (key : CounterKey) (window : Nat) :
    like.Outcomes like.Backends Eq (left.begin key window) (right.begin key window) := by
  obtain ⟨hcounter, hdelay⟩ := like.begin key window hlike.counter hlike.prefixes
  refine ⟨hlike.withCounter hcounter, hdelay, fun hverbatim => ?_⟩
  rw [SharedBackend.begin, SharedBackend.begin, hlike.sharedName_eq hverbatim]

theorem endOf (hlike : like.Backends left right) (delay now : Nat) :
    left.endOf delay now = right.endOf delay now := by
  rw [SharedBackend.endOf, SharedBackend.endOf, hlike.opTimeout]

theorem conclude (hlike : like.Backends left right) (key : CounterKey)
    {result result' : Except LimiterError SharedCount}
    (hresult : SharedCount.Alike like.verbatim result result') :
    like.Outcomes like.Backends (SharedCount.Alike like.verbatim) (left.conclude key result)
      (right.conclude key result') := by
  cases hresult with
  | ok answer => exact ⟨hlike, .ok answer, fun _ => rfl⟩
  | error heq =>
      refine ⟨?_, .error heq, fun hverbatim => ?_⟩
      · exact (hlike.receive ⟨fun _ => rfl, fun hverbatim => by rw [heq hverbatim]⟩).state
      · rw [heq hverbatim, SharedBackend.conclude, SharedBackend.conclude,
          hlike.sharedName_eq hverbatim]
        rfl

theorem settle (hlike : like.Backends left right) (key : CounterKey) (window : Nat) (inTime : Bool)
    (now : Nat) :
    like.Outcomes like.Backends (SharedCount.Alike like.verbatim)
      (left.settle key window inTime now) (right.settle key window inTime now) := by
  cases inTime with
  | false =>
      refine hlike.conclude key (.error fun _ => ?_)
      rw [hlike.opTimeout]
  | true =>
      obtain ⟨hcounter, hresult⟩ := like.finish key window now hlike.counter hlike.prefixes
      exact (hlike.withCounter hcounter).conclude key hresult

theorem happen (hlike : like.Backends left right) {x y : BusyCounter.Happening κ}
    (halike : like.happening x y) :
    like.Outcomes like.Backends Eq (left.happen x) (right.happen y) := by
  obtain ⟨hcounter, hheard⟩ := like.happen left.available hlike.counter halike
  have hright : BusyCounter.happen y right.counter left.available =
      BusyCounter.happen y right.counter right.available := by
    rw [hlike.available]
  rw [hright] at hcounter hheard
  exact (hlike.withCounter hcounter).receive hheard

end Backends

/-! ## Limiters -/

/-- The limiters that are built from alike settings around alike counters. -/
theorem limiters_build {left right : Settings} (hsettings : like.settings left right)
    {counter counter' : Option κ} (hcounter : Option.Rel like.counter counter counter') :
    like.Outcomes like.Limiters Eq (Limiter.build left counter) (Limiter.build right counter') := by
  have hrules := like.sameRules hsettings
  have hprefixes := like.prefixes_of_settings hsettings
  unfold Limiter.build
  rw [hrules.usesShared, hrules.mode, hrules.environment, hrules.memoryFallback]
  cases right.usesShared with
  | false => exact ⟨⟨hsettings, rfl, .none, rfl, rfl, rfl, rfl⟩, rfl, fun _ => rfl⟩
  | true =>
      cases hcounter with
      | none => exact ⟨⟨hsettings, rfl, .none, rfl, rfl, rfl, rfl⟩, rfl, fun _ => rfl⟩
      | some hcounter =>
          exact ⟨⟨hsettings, rfl, .some ⟨hcounter, rfl, hprefixes, hrules.opTimeout⟩, rfl, rfl,
            rfl, rfl⟩, rfl, fun _ => rfl⟩

namespace Limiters

variable {left right : Limiter κ}

theorem withShared (hlike : like.Limiters left right) {b c : Option (SharedBackend κ)}
    (hshared : Option.Rel like.Backends b c) :
    like.Limiters { left with shared := b } { right with shared := c } :=
  ⟨hlike.settings, hlike.store, hshared, hlike.lifecycle, hlike.sweepInterval,
    hlike.timersCreated, hlike.timersCancelled⟩

theorem shared_cases (hlike : like.Limiters left right) :
    (left.shared = none ∧ right.shared = none) ∨
      ∃ b c, left.shared = some b ∧ right.shared = some c ∧ like.Backends b c := by
  have hshared := hlike.shared
  generalize left.shared = shared at hshared ⊢
  generalize right.shared = shared' at hshared ⊢
  cases hshared with
  | none => exact .inl ⟨rfl, rfl⟩
  | some hbackends => exact .inr ⟨_, _, rfl, rfl, hbackends⟩

theorem map_shared_eq (hlike : like.Limiters left right) {α : Type} {f : SharedBackend κ → α}
    (hf : ∀ {b c : SharedBackend κ}, like.Backends b c → f b = f c) :
    left.shared.map f = right.shared.map f := by
  rcases hlike.shared_cases with ⟨hleft, hright⟩ | ⟨b, c, hleft, hright, hbackends⟩
  · rw [hleft, hright]
  · rw [hleft, hright, Option.map_some, Option.map_some, hf hbackends]

theorem policy_eq (hlike : like.Limiters left right) (method : String) :
    left.settings.policy (.of method) = right.settings.policy (.of method) :=
  (like.sameRules hlike.settings).policy _

theorem memoryFallback_eq (hlike : like.Limiters left right) :
    left.settings.memoryFallback = right.settings.memoryFallback :=
  (like.sameRules hlike.settings).memoryFallback

theorem isRunning_eq (hlike : like.Limiters left right) : left.isRunning = right.isRunning := by
  rw [Limiter.isRunning, Limiter.isRunning, hlike.lifecycle]

theorem active_eq (hlike : like.Limiters left right) : left.active = right.active := by
  unfold Limiter.active
  rcases hlike.shared_cases with ⟨hleft, hright⟩ | ⟨b, c, hleft, hright, hbackends⟩
  · rw [hleft, hright]
  · rw [hleft, hright]
    dsimp only
    rw [hbackends.available, hlike.memoryFallback_eq]

theorem checkLocally (hlike : like.Limiters left right) (key : CounterKey) (policy : WindowPolicy)
    (now : Nat) :
    like.Outcomes like.Limiters Eq (left.checkLocally key policy now)
      (right.checkLocally key policy now) := by
  unfold Limiter.checkLocally
  rw [hlike.store]
  exact ⟨⟨hlike.settings, rfl, hlike.shared, hlike.lifecycle, hlike.sweepInterval,
    hlike.timersCreated, hlike.timersCancelled⟩, rfl, fun _ => rfl⟩

theorem checkWithoutBackend (hlike : like.Limiters left right) (key : CounterKey)
    (policy : WindowPolicy) (now : Nat) :
    like.Outcomes like.Limiters Eq (left.checkWithoutBackend key policy now)
      (right.checkWithoutBackend key policy now) := by
  unfold Limiter.checkWithoutBackend
  rw [hlike.memoryFallback_eq]
  split
  · exact (hlike.checkLocally key policy now).after fun _ => rfl
  · exact ⟨hlike, rfl, fun _ => rfl⟩

theorem settle (hlike : like.Limiters left right) {b c : SharedBackend κ}
    (hbackends : like.Backends b c) (key : CounterKey) (policy : WindowPolicy) (inTime : Bool)
    (now : Nat) :
    like.Outcomes like.Limiters Eq (left.settle b key policy inTime now)
      (right.settle c key policy inTime now) := by
  obtain ⟨hstate, hvalue, hevents⟩ := hbackends.settle key policy.window inTime now
  have hsettled := hlike.withShared (.some hstate)
  unfold Limiter.settle
  dsimp only
  generalize (b.settle key policy.window inTime now).value = result at hvalue ⊢
  generalize (c.settle key policy.window inTime now).value = result' at hvalue ⊢
  cases hvalue with
  | ok answer =>
      refine ⟨hsettled, rfl, fun hverbatim => ?_⟩
      rw [hevents hverbatim]
  | error => exact (hsettled.checkWithoutBackend key policy now).after hevents

theorem begin (hlike : like.Limiters left right) (method client : String) (now : Nat) :
    like.Outcomes like.Limiters Eq (left.begin method client now)
      (right.begin method client now) := by
  have hpolicy := hlike.policy_eq method
  have hchecking : left.checkingEvent method client = right.checkingEvent method client := by
    rw [Limiter.checkingEvent, Limiter.checkingEvent, hpolicy]
  rcases hlike.shared_cases with ⟨hleft, hright⟩ | ⟨b, c, hleft, hright, hbackends⟩
  · obtain ⟨hstate, hvalue, hevents⟩ :=
      hlike.checkLocally (.of client method) (right.settings.policy (.of method)) now
    rw [left.begin_of_none method client now hleft, right.begin_of_none method client now hright,
      hpolicy, hchecking]
    exact ⟨hstate, congrArg Progress.done hvalue, fun hverbatim =>
      congrArg (List.cons _) (hevents hverbatim)⟩
  · cases hright' : c.available with
    | false =>
        have hleft' : b.available = false := hbackends.available.trans hright'
        obtain ⟨hstate, hvalue, hevents⟩ :=
          hlike.checkWithoutBackend (.of client method) (right.settings.policy (.of method)) now
        rw [left.begin_of_unavailable method client now hleft hleft',
          right.begin_of_unavailable method client now hright hright', hpolicy, hchecking]
        exact ⟨hstate, congrArg Progress.done hvalue, fun hverbatim =>
      congrArg (List.cons _) (hevents hverbatim)⟩
    | true =>
        have hleft' : b.available = true := hbackends.available.trans hright'
        obtain ⟨hbegun, hdelay, -⟩ := hbackends.begin (.of client method)
          (right.settings.policy (.of method)).window
        have hstarted := hlike.withShared (.some hbegun)
        rw [left.begin_eq_of_available method client now hleft hleft',
          right.begin_eq_of_available method client now hright hright', hpolicy, hchecking,
          hdelay, hbegun.endOf]
        refine Outcomes.after ?_ fun hverbatim => by rw [hbackends.sharedName_eq hverbatim]
        split
        · obtain ⟨hstate, hvalue, hevents⟩ := hstarted.settle hbegun (.of client method)
            (right.settings.policy (.of method)) _ now
          exact ⟨hstate, congrArg Progress.done hvalue, hevents⟩
        · exact ⟨hstarted, rfl, fun _ => rfl⟩

theorem resume (hlike : like.Limiters left right) (pending : Pending) (now : Nat) :
    like.Outcomes like.Limiters Eq (left.resume pending now) (right.resume pending now) := by
  unfold Limiter.resume
  rcases hlike.shared_cases with ⟨hleft, hright⟩ | ⟨b, c, hleft, hright, hbackends⟩
  · rw [hleft, hright]
    exact hlike.checkLocally pending.key pending.policy now
  · rw [hleft, hright]
    exact hlike.settle hbackends pending.key pending.policy pending.inTime now

theorem start (hlike : like.Limiters left right) (now : Nat) :
    like.Outcomes like.Limiters Eq (left.start now) (right.start now) := by
  unfold Limiter.start
  rw [hlike.lifecycle, hlike.sweepInterval, hlike.timersCreated]
  split
  · exact ⟨hlike, rfl, fun _ => rfl⟩
  · rcases hlike.shared_cases with ⟨hleft, hright⟩ | ⟨b, c, hleft, hright, hbackends⟩
    · rw [hleft, hright]
      exact ⟨⟨hlike.settings, hlike.store, .none, rfl, rfl, rfl,
        hlike.timersCancelled⟩, rfl, fun _ => rfl⟩
    · obtain ⟨hstate, -, hevents⟩ := hbackends.connect
      rw [hleft, hright]
      refine ⟨⟨hlike.settings, hlike.store, .some hstate, rfl, rfl, rfl,
        hlike.timersCancelled⟩, rfl, fun hverbatim => ?_⟩
      exact congrArg (· ++ _) (hevents hverbatim)

theorem endTask (hlike : like.Limiters left right) (task : SweepTask) :
    like.Outcomes like.Limiters Eq (left.endTask task) (right.endTask task) := by
  unfold Limiter.endTask
  rw [hlike.timersCancelled]
  rcases hlike.shared_cases with ⟨hleft, hright⟩ | ⟨b, c, hleft, hright, hbackends⟩
  · rw [hleft, hright]
    exact ⟨⟨hlike.settings, hlike.store, .none, hlike.lifecycle, hlike.sweepInterval,
      hlike.timersCreated, rfl⟩, rfl, fun _ => rfl⟩
  · obtain ⟨hstate, -, hevents⟩ := hbackends.disconnect
    rw [hleft, hright]
    refine ⟨⟨hlike.settings, hlike.store, .some hstate, hlike.lifecycle, hlike.sweepInterval,
      hlike.timersCreated, rfl⟩, rfl, fun hverbatim => ?_⟩
    exact congrArg (_ :: ·) (hevents hverbatim)

theorem stop (hlike : like.Limiters left right) :
    like.Outcomes like.Limiters Eq left.stop right.stop := by
  unfold Limiter.stop Limiter.takeTask
  rw [hlike.lifecycle]
  cases hlifecycle : right.lifecycle with
  | stopped => exact ⟨hlike, rfl, fun _ => rfl⟩
  | running task =>
      have htaken : like.Limiters { left with lifecycle := .stopped }
          { right with lifecycle := .stopped } :=
        ⟨hlike.settings, hlike.store, hlike.shared, rfl, hlike.sweepInterval,
          hlike.timersCreated, hlike.timersCancelled⟩
      obtain ⟨hstate, -, hevents⟩ := htaken.endTask task
      exact ⟨hstate, rfl, fun hverbatim => congrArg (· ++ _) (hevents hverbatim)⟩

theorem runTicks (hlike : like.Limiters left right) (now stop : Nat) :
    like.Outcomes like.Limiters Eq (Service.runTicks left now stop)
      (Service.runTicks right now stop) := by
  unfold Service.runTicks
  rw [hlike.lifecycle, hlike.sweepInterval, hlike.store]
  split
  · exact ⟨⟨hlike.settings, rfl, hlike.shared, rfl, rfl, hlike.timersCreated,
      hlike.timersCancelled⟩, rfl, fun _ => rfl⟩
  · exact ⟨hlike, rfl, fun _ => rfl⟩

end Limiters

end Likeness

end Throttle
