import Throttle.Shared.Counter
import Throttle.Table

/-!
# A shared counter that follows a script

The counter keeps faithful counts in a table of its own: a name is counted from zero when its
window has ended, and its window ends when it did on its first increment.  A script can delay its
answers, have it fail, put answers in their place, and keep it silent when its connection is
closed.  It tells a listener of its connection only while it holds one.  It takes its clock to have
no end, so that a window of any length can be opened.
-/

namespace Throttle

structure SharedWindow where
  count : Nat
  endsAt : Nat
deriving DecidableEq, Repr, Inhabited

structure Scripted where
  /-- Whether it holds a listener. -/
  listening : Bool := false
  /-- The error that every increment now ends with. -/
  failure : Option LimiterError := none
  delay : Nat := 0
  /-- Answers that take the place of counting, the next one first. -/
  replies : List (Except LimiterError SharedCount) := []
  /-- Whether it does not tell that its connection is closed. -/
  silentClose : Bool := false
  counts : Table SharedWindow := .empty
  connects : Nat := 0
  disconnects : Nat := 0
  /-- The names and windows of all increments begun, oldest first. -/
  begun : List (String × Nat) := []

namespace Scripted

def windowOf (counts : Table SharedWindow) (name : String) (window : Nat) (now : Nat) :
    SharedWindow :=
  match counts.get? name with
  | some open_ => if open_.endsAt ≤ now then ⟨0, now + window⟩ else open_
  | none => ⟨0, now + window⟩

def count (counts : Table SharedWindow) (name : String) (window : Nat) (now : Nat) :
    Table SharedWindow × SharedCount :=
  let current := windowOf counts name window now
  let next := { current with count := current.count + 1 }
  let seconds := Duration.secs (next.endsAt - now)
  (counts.put name next, ⟨next.count, if seconds = 0 then none else some seconds⟩)

/-- Ends an increment: with the error of the script, or its next answer, or by counting. -/
def answer (counter : Scripted) (name : String) (window : Nat) (now : Nat) :
    Scripted × Except LimiterError SharedCount :=
  match counter.failure, counter.replies with
  | some error, _ => (counter, .error error)
  | none, reply :: replies => ({ counter with replies }, reply)
  | none, [] =>
    let (counts, answer) := count counter.counts name window now
    ({ counter with counts }, .ok answer)

instance : SharedCounter Scripted where
  connect counter := ({ counter with listening := true, connects := counter.connects + 1 }, [])
  disconnect counter :=
    ({ counter with listening := false, disconnects := counter.disconnects + 1 },
      if counter.listening && !counter.silentClose then [.connection .closed] else [])
  begin counter name window :=
    ({ counter with begun := counter.begun ++ [(name, window)] }, counter.delay)
  finish := answer

/-- What its listener hears when something happens to its connection. -/
def emit (counter : Scripted) (event : ConnectionEvent) : List Signal :=
  if counter.listening then [.connection event] else []

end Scripted

end Throttle
