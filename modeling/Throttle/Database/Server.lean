import Throttle.Binary64
import Throttle.Table

/-!
# A database server

The server keeps texts under names, some of which end at an instant of its clock, which counts
milliseconds.  Nothing that has ended is kept.  `increment` runs the script that counts: it adds one,
and gives a name that never ends a time to live, so that later increments never prolong it.  Times to
live are given and told in whole seconds.  The numbers of a script have double precision, so its
answer is rounded, while what is kept stays exact.
-/

namespace Throttle.Database

structure Entry where
  value : String
  endsAt : Option Nat
deriving DecidableEq, Repr, Inhabited

def Entry.lastsAt (entry : Entry) (now : Nat) : Bool := entry.endsAt.all (now < ·)

inductive PingAnswer where
  | ready
  | notReady
  | silence
deriving DecidableEq, Repr, Inhabited

structure Server where
  entries : Table Entry := .empty
  now : Nat := 0
  ping : PingAnswer := .ready
  /-- The seconds that it tells of milliseconds that are left. -/
  secondsOf : Nat → Nat := fun milliseconds => (milliseconds + 500) / 1000
  /-- What is answered to the next script instead of running it. -/
  nextReply : Option (List Int) := none
  /-- The commands seen, oldest first. -/
  seen : List (List String) := []

namespace Server

def purge (server : Server) : Server :=
  { server with entries := server.entries.keep fun _ entry => entry.lastsAt server.now }

def pass (server : Server) (milliseconds : Nat) : Server :=
  { server with now := server.now + milliseconds }.purge

def elapse (server : Server) (seconds : Nat) : Server := server.pass (1000 * seconds)

/-- Keeps a text under a name, perhaps for some seconds only. -/
def set (server : Server) (name value : String) (seconds : Option Nat) : Server :=
  { server with
    entries := server.entries.put name
      ⟨value, seconds.map fun seconds => server.now + 1000 * seconds⟩ }.purge

def saw (server : Server) (command : List String) : Server :=
  { server with seen := server.seen ++ [command] }

def greatest : Int := Nat.pow 2 63 - 1

/-- The greatest time to live in seconds; its milliseconds have 63 bits. -/
def greatestSeconds : Nat := Nat.pow 2 63 / 1000

/-- The whole number that a text is, in its one spelling. -/
def wholeNumber? (s : String) : Option Int :=
  (Decimal.integer? (-greatest - 1) greatest s).filter fun i => Decimal.intText i == s

/-- Adds one to the number under a name; a name that is not kept counts as zero. -/
def increase (server : Server) (name : String) : Server × Except String Int :=
  let server := server.saw ["INCR", name]
  let entry := (server.entries.get? name).getD ⟨"0", none⟩
  match wholeNumber? entry.value with
  | none => (server, .error "value is not an integer or out of range")
  | some i =>
    if i = greatest then (server, .error "increment or decrement would overflow")
    else
      ({ server with
        entries := server.entries.put name { entry with value := Decimal.intText (i + 1) } },
        .ok (i + 1))

/-- The seconds that a name has left: -1 if it never ends, -2 if it is not kept. -/
def secondsLeft (server : Server) (name : String) : Int :=
  match server.entries.get? name with
  | none => -2
  | some ⟨_, none⟩ => -1
  | some ⟨_, some endsAt⟩ => server.secondsOf (endsAt - server.now)

/-- Has a name end after some seconds.  The clock of the server has no end, so that times to live are
refused only where their own milliseconds are too many, and not where their sum with the instant
is. -/
def expire (server : Server) (name : String) (seconds : Nat) : Server × Except String Unit :=
  let server := server.saw ["EXPIRE", name, Decimal.natText seconds]
  if greatestSeconds < seconds then (server, .error "invalid expire time in 'expire' command")
  else
    match server.entries.get? name with
    | none => (server, .ok ())
    | some entry => (server.set name entry.value (some seconds), .ok ())

/-- The whole number that a script answers in place of a whole number: the nearest that has double
precision, or the greatest or least that is kept if that lies beyond. -/
def answered (i : Int) : Int :=
  max (-greatest - 1) (min greatest (i.sign * (Binary64.ofNat i.natAbs).wholePart))

/-- Counts one increment of a name: the count, and the seconds that are left of it. -/
def count (server : Server) (name : String) (seconds : Nat) : Server × Except String (List Int) :=
  let (server, counted) := server.increase name
  match counted with
  | .error reason => (server, .error reason)
  | .ok count =>
    let server := server.saw ["TTL", name]
    let left := server.secondsLeft name
    if 0 ≤ left then (server, .ok [answered count, answered left])
    else
      let (server, expiring) := server.expire name seconds
      (server, expiring.map fun _ => [answered count, answered seconds])

def increment (server : Server) (name : String) (seconds : Nat) :
    Server × Except String (List Int) :=
  match server.nextReply with
  | some reply => ({ server with nextReply := none }, .ok reply)
  | none => server.count name seconds

/-- Everything that is kept, in the order of names, with the seconds that are left. -/
def listing (server : Server) : List (String × String × Option Nat) :=
  (server.entries.entries.mergeSort fun a b => a.1 ≤ b.1).map fun (name, entry) =>
    (name, entry.value, entry.endsAt.map fun endsAt => server.secondsOf (endsAt - server.now))

end Server

end Throttle.Database
