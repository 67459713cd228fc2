import Throttle.Outcome

/-!
# The state of a connection

A shared counter tells its listeners when its connection becomes ready, fails or ends.  A listener
remembers whether the last of these left the counter usable, and reports each of them.
-/

namespace Throttle

inductive ConnectionEvent where
  | ready
  | failed (reason : String)
  | closed
deriving DecidableEq, Repr, Inhabited

namespace ConnectionEvent

def isReady : ConnectionEvent → Bool
  | .ready => true
  | _ => false

def report : ConnectionEvent → Event
  | .ready => .backendReady
  | .failed reason => .backendFailed reason
  | .closed => .backendEnded

end ConnectionEvent

/-- What a shared counter does beside answering: it tells its listener of its connection, or reports
something itself. -/
inductive Signal where
  | connection (event : ConnectionEvent)
  | report (event : Event)
deriving DecidableEq, Repr, Inhabited

namespace Signal

def availableAfter (available : Bool) : Signal → Bool
  | .connection event => event.isReady
  | .report _ => available

def reported : Signal → Event
  | .connection event => event.report
  | .report event => event

def available (before : Bool) (signals : List Signal) : Bool := signals.foldl availableAfter before

end Signal

/-- Listeners that may share what they remember: each refers to one of the flags. -/
structure Listeners where
  flags : List Bool := []
  /-- The place of each listener's flag. -/
  flagOf : List Nat := []
deriving Repr, Inhabited

namespace Listeners

/-- A further listener with a flag of its own, not usable at first. -/
def addNew (listeners : Listeners) : Listeners :=
  ⟨listeners.flags ++ [false], listeners.flagOf ++ [listeners.flags.length]⟩

/-- A further listener that shares the flag of listener `i`. -/
def addClone (listeners : Listeners) (i : Nat) : Listeners :=
  { listeners with flagOf := listeners.flagOf ++ (listeners.flagOf[i]?).toList }

def notify (listeners : Listeners) (i : Nat) (event : ConnectionEvent) : Outcome Listeners Unit :=
  match listeners.flagOf[i]? with
  | none => { state := listeners, value := () }
  | some flag =>
    { state := { listeners with flags := listeners.flags.set flag event.isReady }
      value := ()
      events := [event.report] }

def available (listeners : Listeners) : List Bool :=
  listeners.flagOf.map fun flag => (listeners.flags[flag]?).getD false

end Listeners

end Throttle
