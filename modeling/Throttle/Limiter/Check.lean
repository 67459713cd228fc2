import Throttle.Limiter.Basic

/-!
# Checking requests

A check goes to the shared counter if that is available.  If it is not, or the increment fails, the
request is counted in memory or turned away, as the settings say.  A check that waits for the shared
counter is suspended, so that others can go on meanwhile.
-/

namespace Throttle

structure Pending where
  key : CounterKey
  policy : WindowPolicy
  resumeAt : Nat
  /-- Whether the answer is there by then. -/
  inTime : Bool
deriving DecidableEq, Repr, Inhabited

inductive Progress where
  | done (result : Except Fault Admission)
  | waiting (pending : Pending)

namespace Limiter

variable {κ : Type} [SharedCounter κ]

/-- The seconds after which a client may try again while the shared counter cannot be reached. -/
def unavailableRetryAfter : Nat := 1

def admissionOf (key : CounterKey) (answer : SharedCount) (policy : WindowPolicy) :
    Admission × List Event :=
  if answer.count ≤ policy.limit.toNat then (.allowed, [])
  else
    let seconds := (answer.ttl.filter (0 < ·)).getD policy.windowSecs.toNat
    (.denied seconds,
      [.sharedLimitExceeded key.localName answer.count policy.limit.toNat seconds])

omit [SharedCounter κ] in
def checkLocally (limiter : Limiter κ) (key : CounterKey) (policy : WindowPolicy) (now : Nat) :
    Outcome (Limiter κ) (Except Fault Admission) :=
  let checked := limiter.store.check key.localName policy.limit.toNat policy.window now
  { state := { limiter with store := checked.state }
    value := checked.value
    events := checked.events }

omit [SharedCounter κ] in
def checkWithoutBackend (limiter : Limiter κ) (key : CounterKey) (policy : WindowPolicy)
    (now : Nat) : Outcome (Limiter κ) (Except Fault Admission) :=
  if limiter.settings.memoryFallback then
    (limiter.checkLocally key policy now).after [.fallingBack key.localName]
  else
    { state := limiter
      value := .ok (.unavailable unavailableRetryAfter)
      events := [.refusingWithoutBackend key.localName] }

/-- Goes on with a check whose increment has come to an end. -/
def settle (limiter : Limiter κ) (backend : SharedBackend κ) (key : CounterKey)
    (policy : WindowPolicy) (inTime : Bool) (now : Nat) :
    Outcome (Limiter κ) (Except Fault Admission) :=
  let ended := backend.settle key policy.window inTime now
  let limiter := { limiter with shared := some ended.state }
  match ended.value with
  | .ok answer =>
    let (admission, events) := admissionOf key answer policy
    { state := limiter, value := .ok admission, events := ended.events ++ events }
  | .error _ => (limiter.checkWithoutBackend key policy now).after ended.events

/-- Begins a check, as far as it comes without waiting. -/
def begin (limiter : Limiter κ) (method client : String) (now : Nat) :
    Outcome (Limiter κ) Progress :=
  let policy := limiter.settings.policy (.of method)
  let key := CounterKey.of client method
  let finished (outcome : Outcome (Limiter κ) (Except Fault Admission)) :
      Outcome (Limiter κ) Progress :=
    { outcome with value := .done outcome.value }
  let progress : Outcome (Limiter κ) Progress :=
    match limiter.shared with
    | none => finished (limiter.checkLocally key policy now)
    | some backend =>
      if backend.available then
        let started := backend.begin key policy.window
        let limiter := { limiter with shared := some started.state }
        let (resumeAt, inTime) := started.state.endOf started.value now
        let outcome : Outcome (Limiter κ) Progress :=
          if resumeAt = now then finished (limiter.settle started.state key policy inTime now)
          else { state := limiter, value := .waiting ⟨key, policy, resumeAt, inTime⟩ }
        outcome.after started.events
      else finished (limiter.checkWithoutBackend key policy now)
  progress.after [.checking key.localName policy.limit.toNat policy.windowSecs.toNat]

/-- Goes on with a check whose wait is over. -/
def resume (limiter : Limiter κ) (pending : Pending) (now : Nat) :
    Outcome (Limiter κ) (Except Fault Admission) :=
  match limiter.shared with
  | none => limiter.checkLocally pending.key pending.policy now
  | some backend => limiter.settle backend pending.key pending.policy pending.inTime now

end Limiter

end Throttle
