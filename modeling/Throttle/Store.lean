import Throttle.Admission
import Throttle.Outcome
import Throttle.Table

/-!
# Counters in memory

Each key has a counter for its current window.  The window opens with the first request of a key and
closes at `resetAt`; that instant still belongs to it, and the first request after it opens the next
window.  A request beyond the limit is denied and not counted.
-/

namespace Throttle

structure Counter where
  /-- How many there were; zero only if the window could not be opened. -/
  count : Nat
  resetAt : Nat
deriving DecidableEq, Repr, Inhabited

def Counter.hasClosed (counter : Counter) (now : Nat) : Bool := counter.resetAt < now

abbrev Store := Table Counter

namespace Store

/-- The seconds after which a denied request is worth another try: those that are left of the window
in whole milliseconds, rounded up, and at least one. -/
def retryAfter (counter : Counter) (now : Nat) : Nat :=
  max 1 (Duration.secsUp (counter.resetAt - now))

/-- The counter of a key, or an empty one whose window closes now. -/
def counterOf (store : Store) (key : String) (now : Nat) : Counter :=
  (store.get? key).getD ⟨0, now⟩

/-- Counts a request of `key` at `now` and says whether it may proceed.  If the clock ends before a
new window would, there is no answer; the counter is then as before, or empty if there was none. -/
def check (store : Store) (key : String) (limit : Nat) (window : Nat) (now : Nat) :
    Outcome Store (Except Fault Admission) :=
  let counter := store.counterOf key now
  if counter.count = 0 ∨ counter.hasClosed now then
    match Instant.add? now window with
    | some resetAt =>
      { state := store.put key ⟨1, resetAt⟩, value := .ok .allowed, events := [.windowOpened key] }
    | none =>
      { state := store.put key counter, value := .error .clockEnd, events := [.windowOpened key] }
  else if limit ≤ counter.count then
    let seconds := retryAfter counter now
    { state := store, value := .ok (.denied seconds),
      events := [.localLimitExceeded key counter.count limit seconds] }
  else
    { state := store.put key ⟨counter.count + 1, counter.resetAt⟩, value := .ok .allowed }

/-- Removes the counters whose windows have closed, and says how many there were. -/
def sweep (store : Store) (now : Nat) : Outcome Store Nat :=
  let kept := store.keep fun _ counter => !counter.hasClosed now
  let removed := store.size - kept.size
  { state := kept, value := removed,
    events := if removed = 0 then [] else [.swept removed kept.size] }

end Store

end Throttle
