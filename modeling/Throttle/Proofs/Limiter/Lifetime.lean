import Throttle.Proofs.Limiter.Stopping
import Throttle.Proofs.Shared.Observed

/-!
# The lifetime of a limiter

In its lifetime a limiter may be started while calls to stop it are still under way, any number of
them, each at one of its two waits; and a sweep task may die on its own.  This module says what
happens then, turn by turn, and which part of a session it is that starts and stops deal with:
nothing else that a limiter does touches that.
-/

namespace Throttle

/-- How far a call to stop has come that has taken a sweep task away. -/
inductive Stopping where
  /-- It waits for the task to end. -/
  | ending (task : SweepTask)
  /-- It waits for the shared counter to disconnect. -/
  | closing
deriving DecidableEq, Repr, Inhabited

def Stopping.isEnding : Stopping → Bool
  | .ending _ => true
  | .closing => false

/-- What happens next to a limiter and to the calls to stop it. -/
inductive Turn (κ : Type) where
  /-- An action is taken; one that stops the limiter is only begun. -/
  | act (timed : TimedAction κ)
  /-- The task that a call to stop waits for ends. -/
  | taskEnded (place : Nat)
  /-- The shared counter that a call to stop waits for disconnects, and the call returns. -/
  | disconnected (place : Nat)
  /-- The sweep task of the running limiter panics. -/
  | taskDied

/-- The sweep task ends on its own; the limiter does not notice. -/
def Limiter.loseTask {κ : Type} (limiter : Limiter κ) : Limiter κ :=
  match limiter.lifecycle with
  | .stopped => limiter
  | .running _ => { limiter with lifecycle := .running .failed }

/-- A limiter with the calls to stop it that are under way. -/
structure Lifetime (κ : Type) where
  session : Session (Observed κ)
  /-- The calls to stop that have taken a sweep task away and have not returned. -/
  stops : List Stopping := []
  /-- For each sweep task that was begun, in order, whether it was cancelled. -/
  cancelled : List Bool := []
  /-- The place of the sweep task of the running limiter. -/
  held : Option Nat := none
  /-- Whether a call to stop still waited for its task when the limiter was last started. -/
  overtaken : Bool := false

namespace Lifetime

variable {κ : Type}

/-- How many calls to stop have taken a sweep task away and not counted it yet. -/
def endings (lifetime : Lifetime κ) : Nat := lifetime.stops.countP (·.isEnding)

def isRunning (lifetime : Lifetime κ) : Bool := lifetime.session.limiter.isRunning

variable [SharedCounter κ]

/-- The limiter is started; that begins a sweep task unless it runs. -/
def start (lifetime : Lifetime κ) (time : Nat) : Lifetime κ :=
  let started := { lifetime with session := lifetime.session.start time }
  if lifetime.isRunning then started
  else { started with
    cancelled := lifetime.cancelled ++ [false]
    held := some lifetime.cancelled.length
    overtaken := decide (lifetime.endings ≠ 0) }

omit [SharedCounter κ] in
/-- A call to stop begins: it takes the sweep task away and cancels it, or returns at once. -/
def stop (lifetime : Lifetime κ) : Lifetime κ :=
  match lifetime.session.limiter.takeTask.value with
  | none => { lifetime with session := lifetime.session.takeTask }
  | some task => { lifetime with
      session := lifetime.session.takeTask
      stops := lifetime.stops ++ [.ending task]
      cancelled := lifetime.held.elim lifetime.cancelled (lifetime.cancelled.set · true)
      held := none }

def step (lifetime : Lifetime κ) : Turn κ → Lifetime κ
  | .act timed =>
    match timed.action with
    | .start => lifetime.start timed.time
    | .stop => lifetime.stop
    | _ => { lifetime with session := lifetime.session.step timed.observed }
  | .taskEnded place =>
    match lifetime.stops[place]? with
    | some (.ending task) => { lifetime with
        session := lifetime.session.leave task
        stops := lifetime.stops.set place .closing }
    | _ => lifetime
  | .disconnected place =>
    match lifetime.stops[place]? with
    | some .closing => { lifetime with
        session := lifetime.session.close
        stops := lifetime.stops.eraseIdx place }
    | _ => lifetime
  | .taskDied =>
    { lifetime with session := { lifetime.session with
        limiter := lifetime.session.limiter.loseTask } }

def run (lifetime : Lifetime κ) (turns : List (Turn κ)) : Lifetime κ := turns.foldl step lifetime

theorem run_concat (lifetime : Lifetime κ) (turns : List (Turn κ)) (last : Turn κ) :
    lifetime.run (turns ++ [last]) = (lifetime.run turns).step last := by
  rw [run, List.foldl_append]
  rfl

omit [SharedCounter κ] in
/-- The lifetime of a limiter that has just been built around an observed counter. -/
def ofSettings (settings : Settings) (counter : κ) (sweepInterval : Nat) : Lifetime κ :=
  { session := .ofSettings settings { counter } sweepInterval }

end Lifetime

/-! ## What the calls read and change -/

/-- The part of a session that starts and stops deal with. -/
structure Account where
  running : Bool
  listening : Bool
  created : Nat
  cancelled : Nat
  /-- The orders to the shared counter, if there is one, newest first. -/
  orders : Option (List Order)

namespace Session

variable {κ : Type}

def account (session : Session (Observed κ)) : Account where
  running := session.limiter.isRunning
  listening := session.listening
  created := session.limiter.timersCreated
  cancelled := session.limiter.timersCancelled
  orders := session.limiter.shared.map (·.counter.orders)

variable [SharedCounter κ]

theorem start_of_running (session : Session κ) (time : Nat)
    (hrunning : session.limiter.isRunning = true) : session.start time = session := by
  obtain ⟨⟨settings, store, shared, lifecycle, sweepInterval, created, cancelled⟩, listening,
    suspended, trace⟩ := session
  cases lifecycle with
  | stopped => simp [Limiter.isRunning] at hrunning
  | running task => rfl

variable (session : Session (Observed κ))

theorem account_start (time : Nat) (hstopped : session.limiter.isRunning = false) :
    (session.start time).account =
      { running := true
        listening := true
        created := session.account.created + 1
        cancelled := session.account.cancelled
        orders := session.account.orders.map (Order.connect :: ·) } := by
  obtain ⟨⟨settings, store, shared, lifecycle, sweepInterval, created, cancelled⟩, listening,
    suspended, trace⟩ := session
  cases lifecycle with
  | running task => simp [Limiter.isRunning] at hstopped
  | stopped => cases shared <;> rfl

omit [SharedCounter κ] in
theorem account_takeTask :
    session.takeTask.account = { session.account with running := false } := by
  obtain ⟨⟨settings, store, shared, lifecycle, sweepInterval, created, cancelled⟩, listening,
    suspended, trace⟩ := session
  cases lifecycle <;> rfl

theorem account_leave (task : SweepTask) :
    (session.leave task).account = { session.account with
      listening := false
      cancelled := session.account.cancelled + 1
      orders := session.account.orders.map (Order.disconnect :: ·) } := by
  obtain ⟨⟨settings, store, shared, lifecycle, sweepInterval, created, cancelled⟩, listening,
    suspended, trace⟩ := session
  cases shared <;> rfl

omit [SharedCounter κ] in
theorem account_close : session.close.account = session.account := by
  obtain ⟨⟨settings, store, shared, lifecycle, sweepInterval, created, cancelled⟩, listening,
    suspended, trace⟩ := session
  cases shared <;> rfl

omit [SharedCounter κ] in
theorem account_loseTask :
    account { session with limiter := session.limiter.loseTask } = session.account := by
  obtain ⟨⟨settings, store, shared, lifecycle, sweepInterval, created, cancelled⟩, listening,
    suspended, trace⟩ := session
  cases lifecycle <;> rfl

theorem Charged.account_eq {before after : Session (Observed κ)} {pending : Pending} {time : Nat}
    {backend : SharedBackend (Observed κ)}
    (hcharged : Charged before pending time
      (backend.settle pending.key pending.policy.window pending.inTime time) after)
    (horders : before.limiter.shared.map (·.counter.orders) = some backend.counter.orders) :
    after.account = before.account := by
  have hsettled := (backend.account_settle pending.key pending.policy.window pending.inTime time).1
  have hsame : some (backend.settle pending.key pending.policy.window pending.inTime
      time).state.counter.orders = before.limiter.shared.map (·.counter.orders) := by
    rw [horders, hsettled]
  cases hcharged <;> simp only [account, note, Option.map_some, hsame] <;> rfl

theorem account_request (time : Nat) (method client : String) :
    (session.request time method client).account = session.account := by
  have hmove := move_request session time method client
  generalize session.request time method client = after at hmove ⊢
  cases hmove with
  | quiet hquiet => exact nomatch hquiet.key?_eq
  | refused => rfl
  | checked => rfl
  | begun backend pending hshared =>
      simp only [account, hshared]
      rfl
  | charged backend pending hshared _ _ _ hcharged =>
      have hbegun := hcharged.account_eq rfl
      rw [hbegun]
      simp only [account, hshared]
      rfl
  | resumed backend pending place hshared _ hcharged =>
      have hresumed := hcharged.account_eq (by rw [hshared]; rfl)
      exact hresumed

theorem account_resume (time place : Nat) :
    (session.resume time place).account = session.account := by
  rcases session.resume_eq_or_due time place with hsame | ⟨pending, hpending, hdue⟩
  · rw [hsame]
  · cases hshared : session.limiter.shared with
    | none =>
        rw [Session.resume, hpending]
        dsimp only
        rw [if_neg (Nat.not_lt.2 hdue), Limiter.resume, hshared]
        rfl
    | some backend =>
        have hcharged := resume_charged session hshared hpending hdue
        exact hcharged.account_eq (by rw [hshared]; rfl)

/-- No action but a start or a stop changes the account. -/
theorem account_step (timed : TimedAction κ) (hstart : timed.action ≠ .start)
    (hstop : timed.action ≠ .stop) :
    (session.step timed.observed).account = session.account := by
  obtain ⟨time, action⟩ := timed
  cases action with
  | request method client => exact session.account_request time method client
  | resume place => exact session.account_resume time place
  | start => exact absurd rfl hstart
  | stop => exact absurd rfl hstop
  | tick =>
      obtain ⟨⟨settings, store, shared, lifecycle, sweepInterval, created, cancelled⟩, listening,
        suspended, trace⟩ := session
      rcases lifecycle with - | (due | -) <;> rfl
  | sweep => rfl
  | notify event =>
      obtain ⟨⟨settings, store, shared, lifecycle, sweepInterval, created, cancelled⟩, listening,
        suspended, trace⟩ := session
      cases shared with
      | none => rfl
      | some backend => cases listening <;> rfl
  | alter change =>
      obtain ⟨⟨settings, store, shared, lifecycle, sweepInterval, created, cancelled⟩, listening,
        suspended, trace⟩ := session
      cases shared <;> rfl

end Session

namespace Lifetime

variable {κ : Type} [SharedCounter κ] {lifetime : Lifetime κ}

theorem step_start_of_running (hrunning : lifetime.isRunning = true) (time : Nat) :
    lifetime.step (.act ⟨time, .start⟩) = lifetime := by
  show lifetime.start time = lifetime
  rw [Lifetime.start, if_pos hrunning, Session.start_of_running _ _ hrunning]

theorem step_stop_of_stopped (hstopped : lifetime.isRunning = false) (time : Nat) :
    lifetime.step (.act ⟨time, .stop⟩) = lifetime := by
  obtain ⟨⟨⟨settings, store, shared, lifecycle, sweepInterval, created, cancelled⟩, listening,
    suspended, trace⟩, stops, tasks, held, overtaken⟩ := lifetime
  cases lifecycle with
  | stopped => rfl
  | running task => simp [isRunning, Limiter.isRunning] at hstopped

/-- A stop with nothing between its parts stops the limiter. -/
theorem session_run_stop (lifetime : Lifetime κ) (time : Nat) :
    (lifetime.run [.act ⟨time, .stop⟩, .taskEnded lifetime.stops.length,
      .disconnected lifetime.stops.length]).session = lifetime.session.stop := by
  cases hlifecycle : lifetime.session.limiter.lifecycle with
  | stopped =>
      have hstopped : lifetime.isRunning = false := by
        rw [isRunning, Limiter.isRunning, hlifecycle]
      have hnone : lifetime.stops[lifetime.stops.length]? = none :=
        List.getElem?_eq_none (Nat.le_refl _)
      rw [run, List.foldl_cons, step_stop_of_stopped hstopped]
      simp only [List.foldl_cons, List.foldl_nil, Lifetime.step, hnone]
      rw [Session.stop, if_neg (by rw [← isRunning, hstopped]; simp), Limiter.stop,
        Limiter.takeTask, hlifecycle]
  | running task =>
      have hsome : lifetime.session.limiter.takeTask.value = some task := by
        rw [Limiter.takeTask, hlifecycle]
      rw [Session.stop_of_running _ hlifecycle]
      simp [run, Lifetime.step, Lifetime.stop, hsome]

end Lifetime

end Throttle
