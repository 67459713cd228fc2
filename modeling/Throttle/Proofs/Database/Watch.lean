import Throttle.Database.Counter
import Throttle.Proofs.Limiter.Stopping

/-!
# Watching a server, turn by turn

A backend that counts in a database, with the tasks that watch the server for it.  A turn is what
happens between two waits: a task begins a round, opens the connection, takes note of the outcome of
a round, or ends after it was cancelled; a call to disconnect cancels the task, waits for its end,
and returns; an increment begins and is concluded later.  Turns come in any order.  Turns with
nothing between them make up the whole operations of the counter and of the backend.
-/

namespace Throttle

namespace RedisCounter

/-- Only a connection, to a server that is there, makes an increment more than an error. -/
theorem increment_eq_notConnected_iff (counter : RedisCounter) (name : String) (window : Nat) :
    (counter.increment name window).2 = .error .notConnected ↔
      ¬ (counter.connected = true ∧ counter.server.isSome = true) := by
  obtain ⟨settings, server, connected, watching⟩ := counter
  cases connected with
  | false => simp [increment]
  | true =>
      cases server with
      | none => simp [increment]
      | some server =>
          simp only [increment, Option.isSome_some, and_self, not_true_eq_false,
            iff_false]
          split
          · next reply _ =>
            unfold countOfReply
            split <;> simp
          · simp

theorem increment_of_not_connected (counter : RedisCounter) (name : String) (window : Nat)
    (h : counter.connected = false) :
    counter.increment name window = (counter, .error .notConnected) := by
  rw [increment, h]

theorem increment_frame (counter : RedisCounter) (name : String) (window : Nat) :
    (counter.increment name window).1 =
      { counter with server := (counter.increment name window).1.server } ∧
    (counter.increment name window).1.server.isSome = counter.server.isSome := by
  obtain ⟨settings, server, connected, watching⟩ := counter
  cases connected <;> cases server <;> exact ⟨rfl, rfl⟩

end RedisCounter

/-- The event that a listener reports in this way, if it is one of a connection. -/
def ConnectionEvent.ofReport? : Event → Option ConnectionEvent
  | .backendReady => some .ready
  | .backendFailed reason => some (.failed reason)
  | .backendEnded => some .closed
  | _ => none

namespace Watch

/-- Where a task stands.  In a round it asks the server through a connection, once it holds one. -/
inductive Place where
  | resting
  | asking (holding : Bool)
  | ended
deriving DecidableEq

/-- Whether a round may have an outcome: it has no good one without a connection. -/
def Place.mayAnswer : Place → Except LimiterError Unit → Bool
  | .asking holding, .ok () => holding
  | .asking _, .error _ => true
  | _, _ => false

structure Task where
  place : Place
  /-- Whether its last round has failed. -/
  failed : Bool
  cancelled : Bool
deriving DecidableEq

def Task.begun : Task := ⟨.resting, false, false⟩

def Task.isLive (task : Task) : Bool := task.place ≠ .ended

/-- What the counter knows of its task: it has none, or it holds one, or a call to disconnect has
taken the task away and waits for its end. -/
inductive Monitor where
  | absent
  | held (task : Nat)
  | awaited (task : Nat)
deriving DecidableEq

/-- An increment under way: whether the backend was usable when it was begun, and the answer of the
server. -/
structure Call where
  key : CounterKey
  usable : Bool
  answer : Except LimiterError SharedCount

inductive Ending where
  | answered
  | broken (reason : String)
  | late

inductive Occasion where
  | round (task : Nat) (usable : Bool) (result : Except LimiterError Unit)
  /-- A task has ended; whether there was a connection then. -/
  | ended (task : Nat) (connected : Bool)
  | disconnected
  | counted (usable : Bool) (result : Except LimiterError SharedCount)
  | other

structure Notice where
  occasion : Occasion
  told : List ConnectionEvent

def Occasion.task? : Occasion → Option Nat
  | .round task _ _ => some task
  | .ended task _ => some task
  | _ => none

/-- Whether this round of a task has failed, if it was one. -/
def Occasion.failedRound? (i : Nat) : Occasion → Option Bool
  | .round task _ result => if task = i then some (!result.isOk) else none
  | _ => none

/-- Whether the last round of a task has failed. -/
def hasFailed (i : Nat) (trace : List Notice) : Bool :=
  (trace.findSome? (·.occasion.failedRound? i)).getD false

/-- What a task has told, last word first. -/
def saidBy (i : Nat) (trace : List Notice) : List ConnectionEvent :=
  (trace.filter (·.occasion.task? = some i)).flatMap (·.told)

/-- What happens between two waits. -/
inductive Turn where
  | connect
  | asked (task : Nat)
  | opened (task : Nat)
  | answered (task : Nat) (result : Except LimiterError Unit)
  | disconnect
  | ended (task : Nat)
  | returned
  /-- Something happens to the server. -/
  | served (change : Database.Server → Database.Server)
  /-- The listener is told something by others. -/
  | heard (event : ConnectionEvent)
  | increment (key : CounterKey) (window : Nat)
  | concluded (call : Nat) (ending : Ending)

end Watch

/-- A backend that counts in a database, the tasks that were begun for it, oldest first, the
increments under way, and what its listener was told, newest first. -/
structure Watch where
  backend : SharedBackend RedisCounter
  monitor : Watch.Monitor := .absent
  tasks : List Watch.Task := []
  calls : List Watch.Call := []
  trace : List Watch.Notice := []

namespace Watch

def ofSettings (settings : RedisSettings) (server : Option Database.Server) (keyPrefix : String)
    (opTimeout : Nat) : Watch :=
  { backend := { counter := { settings, server }, keyPrefix, opTimeout } }

/-- Takes an outcome over, and notes what the listener was told. -/
def take {α : Type} (watch : Watch) (occasion : Occasion)
    (outcome : Outcome (SharedBackend RedisCounter) α) : Watch :=
  { watch with
    backend := outcome.state
    trace := ⟨occasion, outcome.events.filterMap ConnectionEvent.ofReport?⟩ :: watch.trace }

/-- Has a task do something if it may. -/
def withTask (watch : Watch) (i : Nat) (may : Task → Bool) (next : Task → Watch) : Watch :=
  match watch.tasks[i]? with
  | some task => if may task then next task else watch
  | none => watch

def noteRound (backend : SharedBackend RedisCounter) (failed : Bool)
    (result : Except LimiterError Unit) : Outcome (SharedBackend RedisCounter) Unit :=
  let noted := backend.counter.noteProbe failed backend.available result
  SharedBackend.receive { backend with counter := noted.1 } noted.2

/-- The outcome for which an increment waits no longer. -/
def Ending.result (call : Call) (opTimeout : Nat) : Ending → Except LimiterError SharedCount
  | .answered => call.answer
  | .broken reason => .error (.backend reason)
  | .late => .error (.timeout opTimeout)

/-- The counter without its task: the call to disconnect drops the connection. -/
def disconnect (watch : Watch) : Watch :=
  { watch.take .disconnected watch.backend.disconnect with monitor := .absent }

/-- Increments at once: without a connection that is the end of it. -/
def increment (watch : Watch) (key : CounterKey) (window : Nat) : Watch :=
  let backend := watch.backend
  let started := (backend.begin key window).state
  let incremented := started.counter.increment (key.sharedName backend.keyPrefix) window
  if backend.counter.connected then
    { watch with
      backend := { started with counter := incremented.1 }
      calls := watch.calls ++ [⟨key, backend.available, incremented.2⟩] }
  else
    watch.take (.counted backend.available incremented.2)
      (SharedBackend.conclude { started with counter := incremented.1 } key incremented.2)

/-- The state after a turn; a turn that cannot be is ignored. -/
def turn (watch : Watch) : Turn → Watch
  | .connect =>
    match watch.monitor with
    | .absent =>
      { watch with
        backend := watch.backend.connect.state
        monitor := .held watch.tasks.length
        tasks := watch.tasks ++ [.begun] }
    | .held _ => { watch with backend := watch.backend.connect.state }
    | .awaited _ => watch
  | .asked i =>
    watch.withTask i (fun task => task.place = .resting && !task.cancelled) fun task =>
      { watch with
        tasks := watch.tasks.set i { task with place := .asking watch.backend.counter.connected } }
  | .opened i =>
    watch.withTask i (fun task => task.place = .asking false && watch.backend.counter.server.isSome)
      fun task =>
        { watch with
          backend.counter.connected := true
          tasks := watch.tasks.set i { task with place := .asking true } }
  | .answered i result =>
    watch.withTask i (·.place.mayAnswer result) fun task =>
      { watch.take (.round i watch.backend.available result)
          (noteRound watch.backend task.failed result) with
        tasks := watch.tasks.set i { task with place := .resting, failed := !result.isOk } }
  | .disconnect =>
    match watch.monitor with
    | .absent => watch.disconnect
    | .held i =>
      watch.withTask i (fun _ => true) fun task =>
        { watch with
          monitor := .awaited i
          tasks := watch.tasks.set i { task with cancelled := true } }
    | .awaited _ => watch
  | .ended i =>
    watch.withTask i (fun task => task.isLive && task.cancelled) fun task =>
      { watch.take (.ended i watch.backend.leave.state.counter.connected) watch.backend.leave with
        tasks := watch.tasks.set i { task with place := .ended } }
  | .returned =>
    match watch.monitor with
    | .awaited i => watch.withTask i (!·.isLive) fun _ => watch.disconnect
    | _ => watch
  | .served change =>
    { watch with backend.counter.server := watch.backend.counter.server.map change }
  | .heard event => watch.take .other (watch.backend.receive [.connection event])
  | .increment key window => watch.increment key window
  | .concluded n ending =>
    match watch.calls[n]? with
    | none => watch
    | some call =>
      let result := ending.result call watch.backend.opTimeout
      { watch.take (.counted call.usable result) (watch.backend.conclude call.key result) with
        calls := watch.calls.eraseIdx n }

def run (watch : Watch) (turns : List Turn) : Watch := turns.foldl turn watch

/-! ## What the operations do -/

section Operations

variable (backend : SharedBackend RedisCounter)

theorem connect_of_watched {failed : Bool} (h : backend.counter.watching = some failed) :
    backend.connect.state = backend := by
  obtain ⟨⟨settings, server, connected, watching⟩, available, keyPrefix, opTimeout⟩ := backend
  subst h
  rfl

theorem connect_of_unwatched (h : backend.counter.watching = none) :
    backend.connect.state = { backend with counter.watching := some false } := by
  obtain ⟨⟨settings, server, connected, watching⟩, available, keyPrefix, opTimeout⟩ := backend
  subst h
  rfl

/-- What a round tells a listener, that takes the counter to be usable or not. -/
def toldOfRound (usable failed : Bool) : Except LimiterError Unit → List ConnectionEvent
  | .ok () => if usable then [] else [.ready]
  | .error error => if usable || !failed then [.failed error.message] else []

theorem receive_told (event : ConnectionEvent) :
    (backend.receive [.connection event]).events.filterMap ConnectionEvent.ofReport? = [event] := by
  cases event <;> rfl

theorem noteRound_state (failed : Bool) (result : Except LimiterError Unit) :
    (noteRound backend failed result).state = { backend with
      counter.watching := some (!result.isOk)
      available := result.isOk } := by
  obtain ⟨counter, available, keyPrefix, opTimeout⟩ := backend
  cases result <;> cases failed <;> cases available <;> rfl

theorem noteRound_told (failed : Bool) (result : Except LimiterError Unit) :
    (noteRound backend failed result).events.filterMap ConnectionEvent.ofReport? =
      toldOfRound backend.available failed result := by
  obtain ⟨counter, available, keyPrefix, opTimeout⟩ := backend
  cases result <;> cases failed <;> cases available <;> rfl

theorem leave_state {failed : Bool} (h : backend.counter.watching = some failed) :
    backend.leave.state = { backend with
      counter.connected := false
      counter.watching := none
      available := false } := by
  obtain ⟨⟨settings, server, connected, watching⟩, available, keyPrefix, opTimeout⟩ := backend
  subst h
  rfl

theorem leave_told {failed : Bool} (h : backend.counter.watching = some failed) :
    backend.leave.events.filterMap ConnectionEvent.ofReport? = [.closed] := by
  obtain ⟨⟨settings, server, connected, watching⟩, available, keyPrefix, opTimeout⟩ := backend
  subst h
  rfl

theorem disconnect_state : backend.disconnect.state = { backend with
    counter.connected := false
    counter.watching := none
    available := false } := by
  obtain ⟨⟨settings, server, connected, watching⟩, available, keyPrefix, opTimeout⟩ := backend
  cases watching <;> cases available <;> rfl

theorem disconnect_told :
    backend.disconnect.events.filterMap ConnectionEvent.ofReport? =
      if backend.counter.watching.isSome || backend.available then [.closed] else [] := by
  obtain ⟨⟨settings, server, connected, watching⟩, available, keyPrefix, opTimeout⟩ := backend
  cases watching <;> cases available <;> rfl

theorem conclude_state (key : CounterKey) (result : Except LimiterError SharedCount) :
    (backend.conclude key result).state =
      { backend with available := backend.available && result.isOk } := by
  obtain ⟨counter, available, keyPrefix, opTimeout⟩ := backend
  cases result <;> cases available <;> rfl

def toldOfCount : Except LimiterError SharedCount → List ConnectionEvent
  | .ok _ => []
  | .error error => [.failed error.message]

theorem conclude_told (key : CounterKey) (result : Except LimiterError SharedCount) :
    (backend.conclude key result).events.filterMap ConnectionEvent.ofReport? =
      toldOfCount result := by
  cases result <;> rfl

theorem conclude_value (key : CounterKey) (result : Except LimiterError SharedCount) :
    (backend.conclude key result).value = result := by
  cases result <;> rfl

theorem increment_value (key : CounterKey) (window now : Nat) :
    (backend.increment key window now).value.1 =
      (backend.counter.increment (key.sharedName backend.keyPrefix) window).2 :=
  conclude_value _ key _

end Operations

/-! ## Whole operations -/

section Whole

variable {watch : Watch}

def asks (counter : RedisCounter) (server : Database.Server) : Database.Server :=
  ((if counter.connected then [] else RedisCounter.greeting counter.settings) ++
    [["PING"]]).foldl .saw server

/-- A round with nothing between its turns is the probe of the counter. -/
theorem run_round {i : Nat} {failed : Bool}
    (htask : watch.tasks[i]? = some ⟨.resting, failed, false⟩)
    (hwatching : watch.backend.counter.watching = some failed) :
    let backend := watch.backend
    let probed := backend.counter.probe backend.available
    (watch.run [.asked i, .opened i, .served (asks backend.counter),
      .answered i backend.counter.ping.2]).backend =
      (SharedBackend.receive { backend with counter := probed.1 } probed.2).state := by
  obtain ⟨hlength, hget⟩ := List.getElem?_eq_some_iff.1 htask
  obtain ⟨⟨⟨settings, server, connected, watching⟩, available, keyPrefix, opTimeout⟩, monitor,
    tasks, calls, trace⟩ := watch
  dsimp only at hget hwatching hlength ⊢
  subst hwatching
  cases server with
  | none =>
      cases connected <;>
        simp [run, turn, withTask, hget, hlength, take, RedisCounter.ping, RedisCounter.probe,
          Place.mayAnswer, noteRound]
  | some server =>
      obtain ⟨entries, now, ping, secondsOf, nextReply, seen⟩ := server
      cases connected <;> cases ping <;>
        simp [run, turn, withTask, hget, hlength, take, RedisCounter.ping, RedisCounter.probe,
          Place.mayAnswer, noteRound, asks, RedisCounter.pingResult]

/-- An increment with nothing before its end is the increment of the backend. -/
theorem run_increment (key : CounterKey) (window now : Nat) :
    (watch.run [.increment key window, .concluded watch.calls.length .answered]).backend =
      (watch.backend.increment key window now).state := by
  show ((watch.increment key window).turn (.concluded watch.calls.length .answered)).backend = _
  have hwhole : (watch.backend.increment key window now).state =
      (watch.backend.finish key window now).state := rfl
  rw [hwhole]
  rw [increment]
  by_cases hconnected : watch.backend.counter.connected
  · rw [if_pos hconnected]
    simp [turn, take, Ending.result]
    rfl
  · rw [if_neg hconnected]
    simp [turn, take]
    rfl

end Whole

end Watch

end Throttle
