import Throttle.Limiter.Sweep
import Throttle.Settings.Text
import Throttle.Shared.Backend

/-!
# Limiters

A limiter counts in the shared counter when its settings ask for it, and otherwise in memory, where
it also counts while the shared counter cannot be reached if the settings permit that.
-/

namespace Throttle

/-- Whether a limiter runs; while it does it has a sweep task. -/
inductive Lifecycle where
  | stopped
  | running (task : SweepTask)
deriving DecidableEq, Repr, Inhabited

/-- Which way a check would go. -/
inductive ActiveBackend where
  | local_
  | shared
  | unavailable
deriving DecidableEq, Repr, Inhabited

namespace ActiveBackend

def word : ActiveBackend → String
  | local_ => "local"
  | shared => "shared"
  | unavailable => "unavailable"

theorem word_of_ne_unavailable {way : ActiveBackend} (h : way ≠ .unavailable) :
    way = .local_ ∧ way.word = "local" ∨ way = .shared ∧ way.word = "shared" := by
  cases way with
  | local_ => exact .inl ⟨rfl, rfl⟩
  | shared => exact .inr ⟨rfl, rfl⟩
  | unavailable => exact absurd rfl h

end ActiveBackend

/-- A limiter whose shared counter has states `κ`. -/
structure Limiter (κ : Type) where
  settings : Settings
  /-- The counters in memory. -/
  store : Store := .empty
  /-- The shared counter, if the settings ask for one. -/
  shared : Option (SharedBackend κ) := none
  lifecycle : Lifecycle := .stopped
  sweepInterval : Nat := Duration.ofSecs 60
  /-- How many sweep tasks were begun. -/
  timersCreated : Nat := 0
  /-- How many sweep tasks were ended. -/
  timersCancelled : Nat := 0

namespace Limiter

variable {κ : Type}

/-- The limiter of these settings; a counter is used only if they ask for it. -/
def build (settings : Settings) (counter : Option κ) : Outcome (Limiter κ) Unit :=
  let used := if settings.usesShared then counter else none
  let shared := used.map fun counter =>
    ({ counter
       keyPrefix := settings.keyPrefix
       opTimeout := settings.redis.opTimeout } : SharedBackend κ)
  { state := { settings, shared }
    value := ()
    events := [.limiterConfigured settings.mode settings.environment shared.isSome
      settings.memoryFallback] }

def isRunning (limiter : Limiter κ) : Bool :=
  match limiter.lifecycle with
  | .stopped => false
  | .running _ => true

def active (limiter : Limiter κ) : ActiveBackend :=
  match limiter.shared with
  | none => .local_
  | some backend =>
    if backend.available then .shared
    else if limiter.settings.memoryFallback then .local_
    else .unavailable

def text (limiter : Limiter κ) : String :=
  Text.record "RateLimiter" [
    ("settings", limiter.settings.text),
    ("shared", Text.optional (limiter.shared.map SharedBackend.text)),
    ("running", Text.truth limiter.isRunning),
    ("local_counters", Decimal.natText limiter.store.size)]

end Limiter

end Throttle
