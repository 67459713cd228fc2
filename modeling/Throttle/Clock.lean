import Throttle.Decimal

/-!
# Instants, durations and timers

Durations and instants are natural numbers of nanoseconds; an instant is the time since the clock
was started.  The clock ends at `Instant.bound`: an addition that would pass it has no result.  A
duration is printed in the largest unit that leaves a whole part, with its exact fraction.

Timers count whole milliseconds.  A timer is never early: it goes off at the first whole millisecond
that is not before the instant for which it was set.  A clock that has nothing to do but to wait
moves by whole milliseconds, and so keeps its fraction of one.
-/

namespace Throttle

namespace Duration

def ofMicros (n : Nat) : Nat := n * 1000

def ofMillis (n : Nat) : Nat := n * 1000000

def ofSecs (n : Nat) : Nat := n * 1000000000

def millis (d : Nat) : Nat := d / 1000000

def secs (d : Nat) : Nat := d / 1000000000

/-- The seconds that cover the whole milliseconds of a duration. -/
def secsUp (d : Nat) : Nat := (millis d + 999) / 1000

/-- The `places` digits of a fraction without the zeros at its end, after a point. -/
def fraction (places n : Nat) : List Char :=
  let ds := Decimal.ofNat n
  let padded := List.replicate (places - ds.length) '0' ++ ds
  match (padded.reverse.dropWhile (· == '0')).reverse with
  | [] => []
  | digits => '.' :: digits

/-- A duration in a unit of `size` nanoseconds, of which the fraction has `places` digits. -/
def inUnit (d : Nat) (size places : Nat) (unit : String) : String :=
  String.ofList (Decimal.ofNat (d / size) ++ fraction places (d % size)) ++ unit

def text (d : Nat) : String :=
  if 1000000000 ≤ d then inUnit d 1000000000 9 "s"
  else if 1000000 ≤ d then inUnit d 1000000 6 "ms"
  else if 1000 ≤ d then inUnit d 1000 3 "µs"
  else inUnit d 1 0 "ns"

end Duration

namespace Instant

/-- The end of the clock, whose seconds have 63 bits.  This is an idealisation: the clock is taken to
count from zero, and the fraction of its last second is left out. -/
def bound : Nat := (Nat.pow 2 63 - 1) * 1000000000

/-- The instant `d` after `t`, unless the clock has ended by then. -/
def add? (t : Nat) (d : Nat) : Option Nat :=
  if t + d < bound then some (t + d) else none

end Instant

namespace Timer

/-- The longest time for which a timer is set: thirty years of 365 days. -/
def longest : Nat := Duration.ofSecs (30 * 365 * 86400)

/-- The millisecond at which a timer that is set for an instant goes off. -/
def goesOff (due : Nat) : Nat := (due + 999999) / 1000000

/-- The instant at which a clock that stands at `now` sees a timer go off, if it has nothing to do
but to wait for that. -/
def seenAt (due now : Nat) : Nat := now + Duration.ofMillis (goesOff due - Duration.millis now)

theorem now_le_seenAt (due now : Nat) : now ≤ seenAt due now := Nat.le_add_right _ _

theorem due_le_seenAt (due now : Nat) : due ≤ seenAt due now := by
  unfold seenAt goesOff Duration.ofMillis Duration.millis
  omega

end Timer

end Throttle
