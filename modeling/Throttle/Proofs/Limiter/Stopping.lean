import Throttle.Proofs.Limiter.Session

/-!
# The parts of a stop

A stop waits twice, for its sweep task to end and for the shared counter to disconnect.  So it has
three parts: it takes the task away, it counts the task and has the shared counter disconnect, and
it sees to it that the counter is taken to have closed.  Other calls may come between the parts;
when none does, they make up the stop.
-/

namespace Throttle

variable {κ : Type} [SharedCounter κ]

namespace SharedBackend

/-- Has the counter end its connection. -/
def leave (backend : SharedBackend κ) : Outcome (SharedBackend κ) Unit :=
  receive { backend with counter := (SharedCounter.disconnect backend.counter).1 }
    (SharedCounter.disconnect backend.counter).2

omit [SharedCounter κ] in
/-- Takes a counter that has not told so to have closed. -/
def close (backend : SharedBackend κ) : Outcome (SharedBackend κ) Unit :=
  backend.receive (if backend.available then [.connection .closed] else [])

theorem disconnect_eq (backend : SharedBackend κ) :
    backend.disconnect = backend.leave.state.close.after backend.leave.events := by
  have hreceived : ∀ signals more : List Signal,
      Signal.available (Signal.available backend.available signals) more =
        Signal.available backend.available (signals ++ more) := by
    intro signals more
    rw [Signal.available, Signal.available, Signal.available, List.foldl_append]
  unfold disconnect leave close receive Outcome.after
  simp only [hreceived, List.map_append]

end SharedBackend

namespace Limiter

/-- The task has ended: it is counted, and the shared counter is to disconnect. -/
def leave (limiter : Limiter κ) (task : SweepTask) : Outcome (Limiter κ) Unit :=
  let left := limiter.shared.map SharedBackend.leave
  { state := { limiter with
      timersCancelled := limiter.timersCancelled + 1
      shared := left.map (·.state) }
    value := ()
    events := taskEnded task :: left.elim [] (·.events) }

omit [SharedCounter κ] in
/-- The shared counter has disconnected, and the limiter has stopped. -/
def close (limiter : Limiter κ) : Outcome (Limiter κ) Unit :=
  let closed := limiter.shared.map SharedBackend.close
  { state := { limiter with shared := closed.map (·.state) }
    value := ()
    events := closed.elim [] (·.events) ++ [.limiterStopped] }

theorem stop_of_running (limiter : Limiter κ) {task : SweepTask}
    (hrunning : limiter.lifecycle = .running task) :
    limiter.takeTask.value = some task ∧
      limiter.stop = (limiter.takeTask.state.leave task).state.close.after
        (limiter.takeTask.state.leave task).events := by
  obtain ⟨settings, store, shared, lifecycle, sweepInterval, created, cancelled⟩ := limiter
  subst hrunning
  refine ⟨rfl, ?_⟩
  cases shared with
  | none => rfl
  | some backend =>
      have hdisconnect := backend.disconnect_eq
      simp [stop, takeTask, endTask, leave, close, Outcome.after, hdisconnect]

end Limiter

namespace Session

omit [SharedCounter κ] in
def takeTask (session : Session κ) : Session κ :=
  { session with limiter := session.limiter.takeTask.state }

def leave (session : Session κ) (task : SweepTask) : Session κ :=
  { session with
    limiter := (session.limiter.leave task).state
    listening := false }.note <|
      session.limiter.shared.elim [] fun backend =>
        Notice.ofSignals (SharedCounter.disconnect backend.counter).2

omit [SharedCounter κ] in
def close (session : Session κ) : Session κ :=
  { session with limiter := session.limiter.close.state }.note <|
    (session.limiter.shared.elim [] fun _ => [Notice.disconnected]) ++ [Notice.stopped]

/-- The parts of a stop, with nothing between them, are the stop. -/
theorem stop_of_running (session : Session κ) {task : SweepTask}
    (hrunning : session.limiter.lifecycle = .running task) :
    session.stop = (session.takeTask.leave task).close := by
  have hstop := (session.limiter.stop_of_running hrunning).2
  have hisRunning : session.limiter.isRunning = true := by
    rw [Limiter.isRunning, hrunning]
  rw [stop, if_pos hisRunning, hstop]
  obtain ⟨⟨settings, store, shared, lifecycle, sweepInterval, created, cancelled⟩, listening,
    suspended, trace⟩ := session
  subst hrunning
  cases shared with
  | none => rfl
  | some backend =>
      simp [takeTask, leave, close, note, Limiter.takeTask, Limiter.leave, Limiter.close,
        Outcome.after]

end Session

end Throttle
