import Throttle.Event

/-!
# Outcomes of operations

An operation on a state yields the next state, a value and the events that it reported, in order.
A computation of the clock that passes its end is a fault: the operation then has no value, but
what it did before stands.
-/

namespace Throttle

inductive Fault where
  /-- An instant past the end of the clock was asked for. -/
  | clockEnd
deriving DecidableEq, Repr, Inhabited

/-- The next state, the value, and the events in order. -/
structure Outcome (σ α : Type) where
  state : σ
  value : α
  events : List Event := []

/-- The outcome with more events before its own. -/
def Outcome.after {σ α : Type} (events : List Event) (outcome : Outcome σ α) : Outcome σ α :=
  { outcome with events := events ++ outcome.events }

end Throttle
