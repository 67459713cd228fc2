import Throttle.Shared.Connection

/-!
# Shared counters

A shared counter counts the requests of several processes.  An increment begins, takes its time, and
then has an answer; one whose caller has stopped waiting is never finished.
-/

namespace Throttle

structure SharedCount where
  count : Nat
  /-- The seconds until the count ends, if the counter can tell. -/
  ttl : Option Nat
deriving DecidableEq, Repr, Inhabited

/-- What a limiter needs of a shared counter whose states are `κ`. -/
class SharedCounter (κ : Type) where
  /-- Begins to connect, from now on telling the listener. -/
  connect : κ → κ × List Signal
  /-- Ends the connection and all work in the background. -/
  disconnect : κ → κ × List Signal
  /-- Begins to increment a name for a window, and says how long that takes. -/
  begin : κ → String → Nat → κ × Nat
  finish : κ → String → Nat → Nat → κ × Except LimiterError SharedCount

end Throttle
