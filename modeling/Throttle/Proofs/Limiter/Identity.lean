import Throttle.Proofs.Limiter.Answer
import Throttle.Shared.Scripted

/-!
# Which requests share a counter

Two requests share a counter exactly if their clients are the same but for blanks around them, and
their methods but for such blanks and for the case of ASCII letters; whether the counter is in
memory or in a shared backend does not matter.  Main statement: a limiter does the same for requests
that share a counter, and whatever it does with one counter it does under one policy.
-/

namespace Throttle

variable {κ : Type} [SharedCounter κ]

/-- A check does not depend on how its client and its method are spelled. -/
theorem Limiter.begin_eq_of_key_eq {client client' method method' : String}
    (hkey : CounterKey.of client method = .of client' method') (limiter : Limiter κ) (now : Nat) :
    limiter.begin method client now = limiter.begin method' client' now := by
  rw [begin, begin, MethodClass.of_eq_of_key_eq hkey, hkey]

namespace Session

variable {settings : Settings} {counter : κ} {sweepInterval : Nat} {actions : List (TimedAction κ)}
  {method : String}

/-- The policy of a key is that of every method of which it is the key. -/
theorem policy_eq_of_localName_eq (settings : Settings) {key : CounterKey} {client : String}
    (hkey : HasNoColon key.method) (hmethod : HasNoColon method)
    (hname : key.localName = (CounterKey.of client method).localName) :
    settings.policy (.of key.method) = settings.policy (.of method) := by
  have hother : HasNoColon (CounterKey.of client method).method := hmethod.normalMethod
  obtain rfl := (CounterKey.localName_inj hkey hother).1 hname
  have hclass : MethodClass.of (CounterKey.of client method).method = MethodClass.of method :=
    MethodClass.of_normalMethod method
  rw [hclass]

/-- The names of two counters, in memory or under any prefix in a shared backend, are equal exactly
if their keys are, and these exactly if the clients and the methods are spellings of each other.  A
limiter then does the same for both requests, at any time; and whenever it answers a request that
has the counter, or has one wait, this is under the policy of that method in the settings with which
it was built. -/
theorem counter_fixes_policy (settings : Settings) (counter : κ) (sweepInterval : Nat)
    (actions : List (TimedAction κ)) (hcolons : NoColons actions)
    (keyPrefix client client' method method' : String) (hmethod : HasNoColon method)
    (hmethod' : HasNoColon method') :
    let key := CounterKey.of client method
    let key' := CounterKey.of client' method'
    let session := (ofSettings settings counter sweepInterval).run actions
    (key.localName = key'.localName ↔ key.sharedName keyPrefix = key'.sharedName keyPrefix) ∧
    (key.sharedName keyPrefix = key'.sharedName keyPrefix ↔ key = key') ∧
    (key = key' ↔ Text.trim client = Text.trim client' ∧
      Text.SameButForCase (Text.trim method) (Text.trim method')) ∧
    (key = key' → MethodClass.of method = MethodClass.of method' ∧
      ∀ (limiter : Limiter κ) (now : Nat),
        limiter.begin method client now = limiter.begin method' client' now) ∧
    CounterKey.of key.client key.method = key ∧
    session.limiter.settings = settings ∧
    (∀ verdict ∈ session.verdicts, verdict.key.localName = key.localName →
      settings.policy (.of verdict.key.method) = settings.policy (.of method) ∧
      ∃ earlier last later, actions = earlier ++ [last] ++ later ∧ verdict.time = last.time ∧
        Answered settings (observedRun settings counter sweepInterval earlier).limiter.store
          (observedRun settings counter sweepInterval (earlier ++ [last])) verdict) ∧
    ∀ pending ∈ session.suspended, pending.key.localName = key.localName →
      pending.policy = settings.policy (.of method) := by
  intro key key' session
  have hkey : HasNoColon key.method := hmethod.normalMethod
  have hkey' : HasNoColon key'.method := hmethod'.normalMethod
  have hwired : Wired settings session := wired_run settings counter sweepInterval actions
  have hshared : key.sharedName keyPrefix = key'.sharedName keyPrefix ↔
      key.localName = key'.localName :=
    CounterKey.sharedName_eq_iff keyPrefix
  refine ⟨hshared.symm, hshared.trans (CounterKey.localName_inj hkey hkey'),
    CounterKey.of_eq_of_iff, fun hsame => ⟨MethodClass.of_eq_of_key_eq hsame,
      Limiter.begin_eq_of_key_eq hsame⟩, CounterKey.of_parts client method, hwired.settings_eq,
    ?_, ?_⟩
  · intro verdict hverdict hname
    have hverdictKey := hasNoColon_of_mem_verdicts hcolons verdict hverdict
    refine ⟨policy_eq_of_localName_eq settings hverdictKey hmethod hname, ?_⟩
    rw [← verdicts_observedRun] at hverdict
    exact exists_answered settings counter sweepInterval actions verdict hverdict
  · intro pending hpending hname
    have hpendingKey := hasNoColon_of_mem_suspended hcolons pending hpending
    rw [(hwired.suspended pending hpending).2]
    exact policy_eq_of_localName_eq settings hpendingKey hmethod hname

/-- A client with colons in its name spells its request in two ways, and then waits with a third. -/
theorem counter_fixes_policy_for_spellings :
    let settings : Settings := { (default : Settings) with
      mode := .shared, read := ⟨1, 60⟩
      redis := { (default : RedisSettings) with opTimeout := Duration.ofMillis 500 } }
    let actions : List (TimedAction Scripted) :=
      [⟨0, .start⟩, ⟨0, .notify .ready⟩, ⟨1, .request "get" " ::1"⟩, ⟨2, .request "GET " "::1"⟩,
        ⟨3, .alter fun counter => { counter with delay := Duration.ofMillis 7 }⟩,
        ⟨3, .request "Get" "::1"⟩]
    let session := (ofSettings settings {} 5).run actions
    NoColons actions ∧ HasNoColon "get" ∧ HasNoColon "GET " ∧
      session.verdicts.map (·.answer) = [.ok (.denied 59), .ok .allowed] ∧
      session.suspended.map (·.key.localName) = [(CounterKey.of " ::1" "get").localName] ∧
      (CounterKey.of " ::1" "get").sharedName "p" = (CounterKey.of "::1" "GET ").sharedName "p" ∧
      (∀ (limiter : Limiter Scripted) (now : Nat),
        limiter.begin "get" " ::1" now = limiter.begin "GET " "::1" now) ∧
      ∀ pending ∈ session.suspended, pending.policy = ⟨1, 60⟩ := by
  intro settings actions session
  have hcolons : NoColons actions := by decide
  have hmethod : HasNoColon "get" := by decide
  have hmethod' : HasNoColon "GET " := by decide
  obtain ⟨-, hnames, -, hsame, -, -, -, hwaits⟩ := counter_fixes_policy settings ({} : Scripted) 5
    actions hcolons "p" " ::1" "::1" "get" "GET " hmethod hmethod'
  have hkeys : CounterKey.of " ::1" "get" = .of "::1" "GET " := by decide
  have hsuspended :
      session.suspended.map (·.key.localName) = [(CounterKey.of " ::1" "get").localName] := by
    decide +kernel
  refine ⟨hcolons, hmethod, hmethod', by decide +kernel, hsuspended, hnames.2 hkeys,
    (hsame hkeys).2, fun pending hpending => hwaits pending hpending ?_⟩
  have hname := List.mem_map_of_mem (f := (·.key.localName)) hpending
  rw [hsuspended] at hname
  exact List.mem_singleton.1 hname

end Session

end Throttle
