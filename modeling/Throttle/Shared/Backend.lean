import Throttle.Key
import Throttle.Shared.Counter
import Throttle.Text.Quoted

/-!
# Shared backends

A backend is a shared counter together with what is known of its connection.  Every increment is
bounded in time, and one that fails or is late makes the backend unavailable until its connection is
ready again.
-/

namespace Throttle

structure SharedBackend (κ : Type) where
  counter : κ
  /-- Whether the last event of the connection left the counter usable. -/
  available : Bool := false
  keyPrefix : String
  opTimeout : Nat

namespace SharedBackend

variable {κ : Type} [SharedCounter κ]

def receive (backend : SharedBackend κ) (signals : List Signal) : Outcome (SharedBackend κ) Unit :=
  { state := { backend with available := Signal.available backend.available signals }
    value := ()
    events := signals.map Signal.reported }

def connect (backend : SharedBackend κ) : Outcome (SharedBackend κ) Unit :=
  let (counter, signals) := SharedCounter.connect backend.counter
  receive { backend with counter } signals

/-- Ends the connection; a counter that does not tell so is taken to have closed. -/
def disconnect (backend : SharedBackend κ) : Outcome (SharedBackend κ) Unit :=
  let (counter, signals) := SharedCounter.disconnect backend.counter
  let told := Signal.available backend.available signals
  receive { backend with counter } (signals ++ if told then [.connection .closed] else [])

def fail (backend : SharedBackend κ) (reason : String) :
    Outcome (SharedBackend κ) Unit :=
  backend.receive [.connection (.failed reason)]

omit [SharedCounter κ] in
/-- When an increment ends that takes a time and begins at `now`, and whether its answer is there by
then.  One that takes no time ends at once, however short the limit; an answer that comes exactly at
the limit is in time. -/
def endOf (backend : SharedBackend κ) (delay now : Nat) : Nat × Bool :=
  if delay = 0 then (now, true)
  else
    let wait := min (min delay Timer.longest) backend.opTimeout
    (Timer.seenAt (now + wait) now, min delay Timer.longest ≤ backend.opTimeout)

/-- Begins to increment the count of a key; the value is how long that takes. -/
def begin (backend : SharedBackend κ) (key : CounterKey) (window : Nat) :
    Outcome (SharedBackend κ) Nat :=
  let name := key.sharedName backend.keyPrefix
  let (counter, delay) := SharedCounter.begin backend.counter name window
  { state := { backend with counter }, value := delay, events := [.incrementing name] }

/-- Ends an increment with its result, of which an error makes the backend unavailable. -/
def conclude (backend : SharedBackend κ) (key : CounterKey)
    (result : Except LimiterError SharedCount) :
    Outcome (SharedBackend κ) (Except LimiterError SharedCount) :=
  match result with
  | .ok count => { state := backend, value := .ok count }
  | .error error =>
    let marked := backend.fail error.message
    { state := marked.state
      value := .error error
      events := .incrementFailed (key.sharedName backend.keyPrefix) error :: marked.events }

def finish (backend : SharedBackend κ) (key : CounterKey) (window : Nat) (now : Nat) :
    Outcome (SharedBackend κ) (Except LimiterError SharedCount) :=
  let name := key.sharedName backend.keyPrefix
  let (counter, result) := SharedCounter.finish backend.counter name window now
  conclude { backend with counter } key result

def giveUp (backend : SharedBackend κ) (key : CounterKey) :
    Outcome (SharedBackend κ) (Except LimiterError SharedCount) :=
  backend.conclude key (.error (.timeout backend.opTimeout))

def settle (backend : SharedBackend κ) (key : CounterKey) (window : Nat) (inTime : Bool)
    (now : Nat) : Outcome (SharedBackend κ) (Except LimiterError SharedCount) :=
  if inTime then backend.finish key window now else backend.giveUp key

/-- Increments the count of a key; the second part of the value is the instant at which the call
ends. -/
def increment (backend : SharedBackend κ) (key : CounterKey) (window : Nat) (now : Nat) :
    Outcome (SharedBackend κ) (Except LimiterError SharedCount × Nat) :=
  let started := backend.begin key window
  let (stop, inTime) := started.state.endOf started.value now
  let ended := started.state.settle key window inTime stop
  { state := ended.state, value := (ended.value, stop), events := started.events ++ ended.events }

omit [SharedCounter κ] in
def text (backend : SharedBackend κ) : String :=
  Text.record "SharedBackend" [
    ("available", Text.truth backend.available),
    ("key_prefix", Text.quoted backend.keyPrefix),
    ("op_timeout", Duration.text backend.opTimeout)]

end SharedBackend

end Throttle
