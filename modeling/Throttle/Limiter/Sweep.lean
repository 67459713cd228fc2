import Throttle.Store

/-!
# The sweep task

While the limiter runs, a task sweeps its counters once per interval.  A tick is never early.  One
that is at most `tolerance` late is followed by the next tick one interval after it was due, a later
one by the next tick one interval after it was taken.  `ticksBefore` takes the ticks that come up
while the clock has nothing to do but to wait; a tick that comes up just when the wait is over is
left for the next time.  Whatever it is that is swept, a sweep that panics is reported, and the task
goes on to its next tick.
-/

namespace Throttle

/-- What is done to a state at a tick.  The value is how much was removed; there is none if the
sweep panicked, and the state is then what it had come to. -/
abbrev Sweep (σ : Type) : Type := σ → Nat → Outcome σ (Option Nat)

/-- The sweep of the counters in memory, which does not panic. -/
def Sweep.ofStore : Sweep Store := fun store now =>
  let swept := store.sweep now
  { state := swept.state, value := some swept.value, events := swept.events }

/-- The task that sweeps: waiting for its next tick, or ended because its interval is zero. -/
inductive SweepTask where
  | waiting (next : Nat)
  | failed
deriving DecidableEq, Repr, Inhabited

namespace SweepTask

/-- How late a tick may be without moving those after it. -/
def tolerance : Nat := Duration.ofMillis 5

def start (interval : Nat) (now : Nat) : SweepTask :=
  if interval = 0 then .failed else .waiting (now + interval)

/-- When the tick after one that was due at `due` and taken at `now` is due. -/
def nextTick (interval : Nat) (due now : Nat) : Nat :=
  if due + tolerance < now then now + interval else due + interval

theorem lt_nextTick {interval : Nat} (h : 0 < interval) {due now : Nat} (hd : due ≤ now) :
    due < nextTick interval due now := by
  unfold nextTick
  split <;> omega

/-- Has a sweep done at a tick, and catches its panic. -/
def attempt {σ : Type} (sweep : Sweep σ) (state : σ) (now : Nat) : Outcome σ Unit :=
  let swept := sweep state now
  { state := swept.state
    value := ()
    events := swept.events ++ if swept.value.isNone then [.sweepPanicked] else [] }

/-- Takes every tick that comes up before the clock, which stands at `now`, reaches `stop`.  Ticks
that are late are taken at `now`, and all others when their timer goes off. -/
def ticksBefore {σ : Type} (sweep : Sweep σ) (interval stop due now : Nat) (state : σ) :
    Outcome (Nat × σ) Unit :=
  let taken := Timer.seenAt due now
  if h : taken < stop ∧ 0 < interval then
    have := lt_nextTick h.2 (Timer.due_le_seenAt due now)
    have := Timer.due_le_seenAt due now
    let swept := attempt sweep state taken
    let rest := ticksBefore sweep interval stop (nextTick interval due taken) taken swept.state
    rest.after swept.events
  else { state := (due, state), value := () }
termination_by stop - due

end SweepTask

end Throttle
