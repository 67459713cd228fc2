import Throttle.Limiter.Check
import Throttle.Limiter.Lifecycle

/-!
# A limiter and its clock

The clock moves in two ways.  It jumps, and the sweep task then finds out how late it is; or a check
waits, and the ticks that come up before it goes on are taken one by one.
-/

namespace Throttle

structure Service (κ : Type) where
  limiter : Limiter κ
  now : Nat := 0

namespace Service

variable {κ : Type} [SharedCounter κ]

omit [SharedCounter κ] in
/-- Has the sweep task of a limiter take the ticks that come up before the clock, which stands at
`now`, reaches `stop`. -/
def runTicks (limiter : Limiter κ) (now stop : Nat) : Outcome (Limiter κ) Unit :=
  match limiter.lifecycle with
  | .running (.waiting due) =>
    let swept := SweepTask.ticksBefore .ofStore limiter.sweepInterval stop due now limiter.store
    { state := { limiter with
        lifecycle := .running (.waiting swept.state.1), store := swept.state.2 }
      value := ()
      events := swept.events }
  | _ => { state := limiter, value := () }

omit [SharedCounter κ] in
/-- The clock jumps, and then the work in the background is done, for which no time passes. -/
def jump (service : Service κ) (d : Nat) : Outcome (Service κ) Unit :=
  let now := service.now + d
  let ticked := runTicks service.limiter now (now + 1)
  { state := ⟨ticked.state, now⟩, value := (), events := ticked.events }

omit [SharedCounter κ] in
/-- The time passes until `stop`, with the work in the background done on the way. -/
def passUntil (service : Service κ) (stop : Nat) : Outcome (Service κ) Unit :=
  let ticked := runTicks service.limiter service.now stop
  { state := ⟨ticked.state, max service.now stop⟩, value := (), events := ticked.events }

def resume (service : Service κ) (pending : Pending) :
    Outcome (Service κ) (Except Fault Admission) :=
  let passed := service.passUntil pending.resumeAt
  let ended := passed.state.limiter.resume pending passed.state.now
  { state := ⟨ended.state, passed.state.now⟩
    value := ended.value
    events := passed.events ++ ended.events }

/-- Checks a request, waiting if need be. -/
def check (service : Service κ) (method client : String) :
    Outcome (Service κ) (Except Fault Admission) :=
  let begun := service.limiter.begin method client service.now
  let service : Service κ := ⟨begun.state, service.now⟩
  match begun.value with
  | .done result => { state := service, value := result, events := begun.events }
  | .waiting pending => (service.resume pending).after begun.events

def beginAll (limiter : Limiter κ) (now : Nat) :
    List (String × String) → Outcome (Limiter κ) (List Progress)
  | [] => { state := limiter, value := [] }
  | (method, client) :: requests =>
    let first := limiter.begin method client now
    let rest := beginAll first.state now requests
    { state := rest.state
      value := first.value :: rest.value
      events := first.events ++ rest.events }

/-- Brings checks to an end, those that wait in the order in which they began. -/
def resumeAll (service : Service κ) :
    List Progress → Outcome (Service κ) (List (Except Fault Admission))
  | [] => { state := service, value := [] }
  | .done result :: rest =>
    let rest := service.resumeAll rest
    { rest with value := result :: rest.value }
  | .waiting pending :: rest =>
    let first := service.resume pending
    let rest := first.state.resumeAll rest
    { state := rest.state
      value := first.value :: rest.value
      events := first.events ++ rest.events }

/-- Checks requests that begin at the same instant. -/
def checkTogether (service : Service κ) (requests : List (String × String)) :
    Outcome (Service κ) (List (Except Fault Admission)) :=
  let begun := beginAll service.limiter service.now requests
  (resumeAll ⟨begun.state, service.now⟩ begun.value).after begun.events

def start (service : Service κ) : Outcome (Service κ) Unit :=
  let started := service.limiter.start service.now
  { started with state := ⟨started.state, service.now⟩ }

def stop (service : Service κ) : Outcome (Service κ) Unit :=
  let stopped := service.limiter.stop
  { stopped with state := ⟨stopped.state, service.now⟩ }

end Service

end Throttle
