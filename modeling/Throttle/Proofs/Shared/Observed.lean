import Throttle.Proofs.Limiter.Move

/-!
# Observed shared counters

An observed counter is a shared counter with an account of what its limiter had it do with its
connection, and of what it answered.  It does as the counter in it, and a limiter cannot tell that
there is an account: a session with an observed counter is the session without the account, step by
step.  So a fact about the account is a fact about every session.
-/

namespace Throttle

/-- What a limiter has its shared counter do with its connection. -/
inductive Order where
  | connect
  | disconnect
deriving DecidableEq, Repr, Inhabited

/-- A shared counter with an account, newest first. -/
structure Observed (κ : Type) where
  counter : κ
  orders : List Order := []
  /-- The answers, each with the window that its increment was for. -/
  answers : List (Nat × SharedCount) := []

namespace Observed

variable {κ : Type} [SharedCounter κ]

/-- What is written down of the end of an increment. -/
def answerOf? (window : Nat) : Except LimiterError SharedCount → Option (Nat × SharedCount)
  | .ok answer => some (window, answer)
  | .error _ => none

instance : SharedCounter (Observed κ) where
  connect observed :=
    ({ observed with
        counter := (SharedCounter.connect observed.counter).1
        orders := .connect :: observed.orders },
      (SharedCounter.connect observed.counter).2)
  disconnect observed :=
    ({ observed with
        counter := (SharedCounter.disconnect observed.counter).1
        orders := .disconnect :: observed.orders },
      (SharedCounter.disconnect observed.counter).2)
  begin observed name window :=
    ({ observed with counter := (SharedCounter.begin observed.counter name window).1 },
      (SharedCounter.begin observed.counter name window).2)
  finish observed name window now :=
    let finished := SharedCounter.finish observed.counter name window now
    ({ observed with
        counter := finished.1
        answers := (answerOf? window finished.2).toList ++ observed.answers },
      finished.2)

end Observed

/-- An action on a limiter whose shared counter is observed; nobody changes the account. -/
def Action.observed {κ : Type} : Action κ → Action (Observed κ)
  | .request method client => .request method client
  | .resume place => .resume place
  | .start => .start
  | .stop => .stop
  | .tick => .tick
  | .sweep => .sweep
  | .notify event => .notify event
  | .alter change => .alter fun observed => { observed with counter := change observed.counter }

def TimedAction.observed {κ : Type} (timed : TimedAction κ) : TimedAction (Observed κ) :=
  ⟨timed.time, timed.action.observed⟩

/-! ## Without the account -/

section Plain

variable {κ : Type}

def SharedBackend.plain (backend : SharedBackend (Observed κ)) : SharedBackend κ :=
  { counter := backend.counter.counter
    available := backend.available
    keyPrefix := backend.keyPrefix
    opTimeout := backend.opTimeout }

def Limiter.plain (limiter : Limiter (Observed κ)) : Limiter κ :=
  { settings := limiter.settings
    store := limiter.store
    shared := limiter.shared.map SharedBackend.plain
    lifecycle := limiter.lifecycle
    sweepInterval := limiter.sweepInterval
    timersCreated := limiter.timersCreated
    timersCancelled := limiter.timersCancelled }

def Session.plain (session : Session (Observed κ)) : Session κ :=
  { limiter := session.limiter.plain
    listening := session.listening
    suspended := session.suspended
    trace := session.trace }

def Outcome.mapState {σ τ α : Type} (f : σ → τ) (outcome : Outcome σ α) : Outcome τ α :=
  { state := f outcome.state, value := outcome.value, events := outcome.events }

variable [SharedCounter κ]

theorem SharedBackend.plain_settle (backend : SharedBackend (Observed κ)) (key : CounterKey)
    (window : Nat) (inTime : Bool) (now : Nat) :
    backend.plain.settle key window inTime now =
      (backend.settle key window inTime now).mapState plain := by
  cases inTime with
  | false => rfl
  | true =>
      rw [settle, if_pos rfl, settle, if_pos rfl, finish, finish]
      dsimp only [SharedCounter.finish, SharedBackend.plain]
      cases (SharedCounter.finish backend.counter.counter (key.sharedName backend.keyPrefix) window
        now).2 <;> rfl

namespace Limiter

variable (limiter : Limiter (Observed κ))

omit [SharedCounter κ] in
theorem plain_checkWithoutBackend (key : CounterKey) (policy : WindowPolicy) (now : Nat) :
    limiter.plain.checkWithoutBackend key policy now =
      (limiter.checkWithoutBackend key policy now).mapState plain := by
  unfold checkWithoutBackend
  have hsettings : limiter.plain.settings = limiter.settings := rfl
  rw [hsettings]
  by_cases hfallback : limiter.settings.memoryFallback = true
  · rw [if_pos hfallback, if_pos hfallback]
    rfl
  · rw [if_neg hfallback, if_neg hfallback]
    rfl

theorem plain_settle (backend : SharedBackend (Observed κ)) (key : CounterKey)
    (policy : WindowPolicy) (inTime : Bool) (now : Nat) :
    limiter.plain.settle backend.plain key policy inTime now =
      (limiter.settle backend key policy inTime now).mapState plain := by
  unfold settle
  rw [SharedBackend.plain_settle]
  dsimp only [Outcome.mapState]
  cases (backend.settle key policy.window inTime now).value with
  | ok answer => rfl
  | error error =>
      have hwithout := plain_checkWithoutBackend
        { limiter with shared := some (backend.settle key policy.window inTime now).state } key
        policy now
      exact congrArg (Outcome.after (backend.settle key policy.window inTime now).events) hwithout

theorem plain_begin (method client : String) (now : Nat) :
    limiter.plain.begin method client now =
      (limiter.begin method client now).mapState plain := by
  obtain ⟨settings, store, shared, lifecycle, sweepInterval, created, cancelled⟩ := limiter
  cases shared with
  | none => rfl
  | some backend =>
      let key := CounterKey.of client method
      let policy := settings.policy (.of method)
      cases havailable : backend.available with
      | false =>
          have hplain : backend.plain.available = false := havailable
          rw [begin_of_unavailable _ method client now rfl havailable,
            begin_of_unavailable _ method client now rfl hplain]
          have hwithout := plain_checkWithoutBackend ⟨settings, store, some backend, lifecycle,
            sweepInterval, created, cancelled⟩ key policy now
          dsimp only [plain, Option.map_some] at hwithout ⊢
          rw [hwithout]
          rfl
      | true =>
          have hplain : backend.plain.available = true := havailable
          let begun := backend.begin key policy.window
          rcases hends : begun.state.endOf begun.value now with ⟨resumeAt, inTime⟩
          have hplainEnds : (backend.plain.begin key policy.window).state.endOf
              (backend.plain.begin key policy.window).value now = (resumeAt, inTime) := hends
          have hsettle := plain_settle ⟨settings, store, some begun.state, lifecycle, sweepInterval,
            created, cancelled⟩ begun.state key policy inTime now
          unfold begin
          dsimp only [plain, Option.map_some] at hsettle ⊢
          rw [if_pos havailable, if_pos hplain, hends, hplainEnds]
          dsimp only
          by_cases hnow : resumeAt = now
          · rw [if_pos hnow, if_pos hnow]
            have hstarted : (backend.plain.begin key policy.window).state = begun.state.plain := rfl
            rw [hstarted, hsettle]
            rfl
          · rw [if_neg hnow, if_neg hnow]
            rfl

theorem plain_resume (pending : Pending) (now : Nat) :
    limiter.plain.resume pending now = (limiter.resume pending now).mapState plain := by
  obtain ⟨settings, store, shared, lifecycle, sweepInterval, created, cancelled⟩ := limiter
  cases shared with
  | none => rfl
  | some backend => exact plain_settle _ backend pending.key pending.policy pending.inTime now

end Limiter

namespace Session

variable (session : Session (Observed κ))

theorem plain_request (time : Nat) (method client : String) :
    (session.request time method client).plain = session.plain.request time method client := by
  have hbegin := session.limiter.plain_begin method client time
  unfold request
  dsimp only [plain] at hbegin ⊢
  rw [hbegin]
  dsimp only [Outcome.mapState]
  cases (session.limiter.begin method client time).value <;> rfl

theorem plain_resume (time place : Nat) :
    (session.resume time place).plain = session.plain.resume time place := by
  unfold resume
  dsimp only [plain]
  cases session.suspended[place]? with
  | none => rfl
  | some pending =>
      dsimp only
      by_cases hearly : time < pending.resumeAt
      · rw [if_pos hearly, if_pos hearly]
      · rw [if_neg hearly, if_neg hearly, session.limiter.plain_resume pending time]
        rfl

theorem plain_start (time : Nat) : (session.start time).plain = session.plain.start time := by
  obtain ⟨⟨settings, store, shared, lifecycle, sweepInterval, created, cancelled⟩, listening,
    suspended, trace⟩ := session
  cases lifecycle with
  | running task => rfl
  | stopped => cases shared <;> rfl

theorem plain_stop : session.stop.plain = session.plain.stop := by
  obtain ⟨⟨settings, store, shared, lifecycle, sweepInterval, created, cancelled⟩, listening,
    suspended, trace⟩ := session
  cases lifecycle with
  | running task => cases shared <;> rfl
  | stopped => rfl

omit [SharedCounter κ] in
theorem plain_notify (event : ConnectionEvent) :
    (session.notify event).plain = session.plain.notify event := by
  obtain ⟨⟨settings, store, shared, lifecycle, sweepInterval, created, cancelled⟩, listening,
    suspended, trace⟩ := session
  cases shared with
  | none => rfl
  | some backend => cases listening <;> rfl

/-- A session takes every action as it would without the account. -/
theorem plain_step (timed : TimedAction κ) :
    (session.step timed.observed).plain = session.plain.step timed := by
  obtain ⟨time, action⟩ := timed
  cases action with
  | request method client => exact session.plain_request time method client
  | resume place => exact session.plain_resume time place
  | start => exact session.plain_start time
  | stop => exact session.plain_stop
  | tick =>
      obtain ⟨⟨settings, store, shared, lifecycle, sweepInterval, created, cancelled⟩, listening,
        suspended, trace⟩ := session
      rcases lifecycle with - | (due | -) <;> rfl
  | sweep => rfl
  | notify event => exact session.plain_notify event
  | alter change =>
      obtain ⟨⟨settings, store, shared, lifecycle, sweepInterval, created, cancelled⟩, listening,
        suspended, trace⟩ := session
      cases shared <;> rfl

end Session

end Plain

namespace Session

variable {κ : Type} [SharedCounter κ] (settings : Settings) (counter : κ) (sweepInterval : Nat)

/-- What a limiter that is built around an observed counter has become after some actions. -/
def observedRun (actions : List (TimedAction κ)) : Session (Observed κ) :=
  (ofSettings settings { counter } sweepInterval).run (actions.map TimedAction.observed)

theorem observedRun_concat (actions : List (TimedAction κ)) (last : TimedAction κ) :
    observedRun settings counter sweepInterval (actions ++ [last]) =
      (observedRun settings counter sweepInterval actions).step last.observed := by
  rw [observedRun, List.map_append, List.map_singleton, run_concat, observedRun]

omit [SharedCounter κ] in
theorem plain_ofSettings :
    (ofSettings settings ({ counter } : Observed κ) sweepInterval).plain =
      ofSettings settings counter sweepInterval := by
  cases huses : settings.usesShared <;>
    simp [ofSettings, Session.plain, Limiter.plain, Limiter.build, SharedBackend.plain, huses]

/-- A limiter cannot tell whether its shared counter is observed. -/
theorem plain_observedRun (actions : List (TimedAction κ)) :
    (observedRun settings counter sweepInterval actions).plain =
      (ofSettings settings counter sweepInterval).run actions := by
  induction actions using List.reverseRecOn with
  | nil => exact plain_ofSettings settings counter sweepInterval
  | append_singleton actions last ih =>
      rw [observedRun_concat, run_concat, plain_step, ih]

theorem verdicts_observedRun (actions : List (TimedAction κ)) :
    (observedRun settings counter sweepInterval actions).verdicts =
      ((ofSettings settings counter sweepInterval).run actions).verdicts := by
  rw [← plain_observedRun]
  rfl

end Session

/-! ## What is in the account -/

section Account

variable {κ : Type}

def Session.orders (session : Session (Observed κ)) : List Order :=
  session.limiter.shared.elim [] (·.counter.orders)

def Session.answers (session : Session (Observed κ)) : List (Nat × SharedCount) :=
  session.limiter.shared.elim [] (·.counter.answers)

variable [SharedCounter κ]

/-- An increment that ends has no order given, and has its answer written down if it has one. -/
theorem SharedBackend.account_settle (backend : SharedBackend (Observed κ)) (key : CounterKey)
    (window : Nat) (inTime : Bool) (now : Nat) :
    let ended := backend.settle key window inTime now
    ended.state.counter.orders = backend.counter.orders ∧
      ended.state.counter.answers =
        (Observed.answerOf? window ended.value).toList ++ backend.counter.answers := by
  cases inTime with
  | false => exact ⟨rfl, rfl⟩
  | true =>
      intro ended
      have hended : ended = backend.finish key window now := rfl
      rw [hended, finish]
      dsimp only [SharedCounter.finish]
      cases (SharedCounter.finish backend.counter.counter (key.sharedName backend.keyPrefix) window
        now).2 <;> exact ⟨rfl, rfl⟩

end Account

end Throttle
