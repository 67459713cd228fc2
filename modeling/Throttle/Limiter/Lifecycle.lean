import Throttle.Limiter.Basic

/-!
# Starting and stopping

Starting begins the sweep task and connects the shared counter; stopping ends both.  Stopping takes
three steps, between which other calls may come: it takes the task away, counts it as cancelled once
it has ended, and then disconnects.  Starting a limiter that runs, or stopping one that does not,
does nothing.

A task that waits is told to end by a signal, which counts before a tick that is due at the same
time.  Neither the signal nor its precedence is modelled as such; what shows of them is that no tick
comes after `takeTask`, and that the task has ended when `endTask` comes.
-/

namespace Throttle.Limiter

variable {κ : Type} [SharedCounter κ]

/-- Starts the limiter.  An interval that passes the end of the clock is not treated apart: a clock
cannot tell when its first tick is due, and to start with it would fail, while here the tick only
never comes. -/
def start (limiter : Limiter κ) (now : Nat) : Outcome (Limiter κ) Unit :=
  match limiter.lifecycle with
  | .running _ => { state := limiter, value := (), events := [.alreadyRunning] }
  | .stopped =>
    let connected := limiter.shared.map SharedBackend.connect
    { state := { limiter with
        lifecycle := .running (.start limiter.sweepInterval now)
        timersCreated := limiter.timersCreated + 1
        shared := connected.map (·.state) }
      value := ()
      events := (connected.elim [] (·.events)) ++ [.limiterStarted limiter.sweepInterval] }

omit [SharedCounter κ] in
/-- The first step of stopping: takes the sweep task away, if there is one. -/
def takeTask (limiter : Limiter κ) : Outcome (Limiter κ) (Option SweepTask) :=
  match limiter.lifecycle with
  | .stopped => { state := limiter, value := none, events := [.notRunning] }
  | .running task => { state := { limiter with lifecycle := .stopped }, value := some task }

def taskEnded : SweepTask → Event
  | .waiting _ => .sweepTaskExiting
  | .failed => .sweepTaskFailed "task panicked with message \"`period` must be non-zero.\""

/-- The second step of stopping: the task has ended and is counted, and the shared counter is told
to disconnect. -/
def endTask (limiter : Limiter κ) (task : SweepTask) : Outcome (Limiter κ) Unit :=
  let closed := limiter.shared.map SharedBackend.disconnect
  { state := { limiter with
      timersCancelled := limiter.timersCancelled + 1
      shared := closed.map (·.state) }
    value := ()
    events := taskEnded task :: closed.elim [] (·.events) }

/-- Stops the limiter without being interrupted. -/
def stop (limiter : Limiter κ) : Outcome (Limiter κ) Unit :=
  let taken := limiter.takeTask
  match taken.value with
  | none => { taken with value := () }
  | some task =>
    let ended := taken.state.endTask task
    { ended with events := taken.events ++ ended.events ++ [.limiterStopped] }

end Throttle.Limiter
