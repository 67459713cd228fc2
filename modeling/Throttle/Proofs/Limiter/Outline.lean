import Throttle.Proofs.Limiter.Check
import Throttle.Proofs.Limiter.Session

/-!
# Outlines of sessions

An outline is what a session shows without its counters: whether the shared counter is usable,
whether the limiter runs and listens, which checks wait, and what was written down.  An action
changes it in one of a few ways, whatever the settings are and whatever the shared counter does.
-/

namespace Throttle

/-- A session without its counters. -/
structure Outline where
  available : Bool
  running : Bool
  listening : Bool
  suspended : List Pending
  trace : List Notice

/-- How an action that may be a request for a key changes an outline. -/
inductive Outline.Step (key? : Option CounterKey) (before : Outline) : Outline → Prop where
  | quiet : Step key? before before
  /-- A request is answered without the shared counter. -/
  | answer (verdict : Verdict) (hkey : key? = some verdict.key) :
      Step key? before { before with trace := .answered verdict :: before.trace }
  /-- A request is answered by the shared counter at once. -/
  | count (verdict : Verdict) (hkey : key? = some verdict.key) (havailable : before.available) :
      Step key? before { before with trace := .answered verdict :: .begun :: before.trace }
  /-- The increment for a request fails at once. -/
  | fail (verdict : Verdict) (error : LimiterError) (hkey : key? = some verdict.key)
      (havailable : before.available) :
      Step key? before { before with
        available := false
        trace := .answered verdict :: .failed error :: .begun :: before.trace }
  /-- A request waits for the shared counter. -/
  | wait (pending : Pending) (hkey : key? = some pending.key) (havailable : before.available) :
      Step key? before { before with
        suspended := before.suspended ++ [pending], trace := .begun :: before.trace }
  /-- The wait of a request ends with an answer. -/
  | wake (place : Nat) (pending : Pending) (verdict : Verdict)
      (hpending : before.suspended[place]? = some pending) (hkey : verdict.key = pending.key) :
      Step key? before { before with
        suspended := before.suspended.eraseIdx place
        trace := .answered verdict :: before.trace }
  /-- The wait of a request ends with a failure. -/
  | wakeFailed (place : Nat) (pending : Pending) (verdict : Verdict) (error : LimiterError)
      (hpending : before.suspended[place]? = some pending) (hkey : verdict.key = pending.key) :
      Step key? before { before with
        available := false
        suspended := before.suspended.eraseIdx place
        trace := .answered verdict :: .failed error :: before.trace }
  | start (signals : List Signal) :
      Step key? before { before with
        available := Signal.available before.available signals
        running := true
        listening := true
        trace := (Notice.ofSignals signals).reverse ++ .started :: before.trace }
  /-- The limiter is stopped, and its shared counter disconnected. -/
  | stop (signals : List Signal) (hrunning : before.running) :
      Step key? before { before with
        available := false
        running := false
        listening := false
        trace := .stopped :: .disconnected ::
          ((Notice.ofSignals signals).reverse ++ before.trace) }
  /-- The limiter is stopped, and has no shared counter. -/
  | stopAlone (havailable : before.available = false) :
      Step key? before { before with
        running := false, listening := false, trace := .stopped :: before.trace }
  | tell (event : ConnectionEvent) (hlistening : before.listening) :
      Step key? before { before with
        available := event.isReady, trace := .told event :: before.trace }

/-- A property of keys, of answers and of requests that wait, that a request shares is kept. -/
theorem Outline.Step.keys {p : CounterKey → Prop} {key? : Option CounterKey}
    {before after : Outline} (hstep : Step key? before after) (hkey : ∀ key ∈ key?, p key)
    (hverdicts : ∀ verdict ∈ before.trace.filterMap Notice.verdict?, p verdict.key)
    (hsuspended : ∀ pending ∈ before.suspended, p pending.key) :
    (∀ verdict ∈ after.trace.filterMap Notice.verdict?, p verdict.key) ∧
      ∀ pending ∈ after.suspended, p pending.key := by
  have hsignals : ∀ signals, ((Notice.ofSignals signals).reverse).filterMap Notice.verdict? = [] :=
    fun signals => List.filterMap_eq_nil_iff.2 fun notice hnotice =>
      Notice.verdict?_of_mem_ofSignals (List.mem_reverse.1 hnotice)
  have hanswered : ∀ verdict : Verdict, key? = some verdict.key → p verdict.key :=
    fun verdict hverdict => hkey verdict.key (by simp [hverdict])
  have hwoken : ∀ (place : Nat) (pending : Pending) (verdict : Verdict),
      before.suspended[place]? = some pending →
        verdict.key = pending.key → p verdict.key := by
    intro place pending verdict hpending hverdict
    rw [hverdict]
    exact hsuspended pending (List.mem_of_getElem? hpending)
  have herased : ∀ place, ∀ pending ∈ before.suspended.eraseIdx place, p pending.key :=
    fun place pending hpending => hsuspended pending (List.mem_of_mem_eraseIdx hpending)
  cases hstep with
  | quiet => exact ⟨hverdicts, hsuspended⟩
  | answer verdict hverdict =>
      exact ⟨List.forall_mem_cons.2 ⟨hanswered verdict hverdict, hverdicts⟩, hsuspended⟩
  | count verdict hverdict =>
      exact ⟨List.forall_mem_cons.2 ⟨hanswered verdict hverdict, hverdicts⟩, hsuspended⟩
  | fail verdict error hverdict =>
      exact ⟨List.forall_mem_cons.2 ⟨hanswered verdict hverdict, hverdicts⟩, hsuspended⟩
  | wait pending hpending =>
      refine ⟨hverdicts, fun other hother => ?_⟩
      rcases List.mem_append.1 hother with hmem | hmem
      · exact hsuspended other hmem
      · rw [List.mem_singleton.1 hmem]
        exact hkey pending.key (by simp [hpending])
  | wake place pending verdict hpending hverdict =>
      exact ⟨List.forall_mem_cons.2 ⟨hwoken place pending verdict hpending hverdict, hverdicts⟩,
        herased place⟩
  | wakeFailed place pending verdict error hpending hverdict =>
      exact ⟨List.forall_mem_cons.2 ⟨hwoken place pending verdict hpending hverdict, hverdicts⟩,
        herased place⟩
  | start signals =>
      refine ⟨?_, hsuspended⟩
      rw [List.filterMap_append, hsignals, List.nil_append]
      exact hverdicts
  | stop signals =>
      refine ⟨?_, hsuspended⟩
      rw [List.filterMap_cons, List.filterMap_cons, List.filterMap_append, hsignals,
        List.nil_append]
      exact hverdicts
  | stopAlone => exact ⟨hverdicts, hsuspended⟩
  | tell event => exact ⟨hverdicts, hsuspended⟩

section Events

theorem Notice.ofEvents_append (events events' : List Event) :
    ofEvents (events ++ events') = ofEvents events ++ ofEvents events' :=
  List.filterMap_append

theorem Notice.ofEvents_checkingEvent {κ : Type} (limiter : Limiter κ) (method client : String)
    (events : List Event) :
    ofEvents (limiter.checkingEvent method client :: events) = ofEvents events := rfl

theorem Notice.ofEvents_check (store : Store) (key : String) (limit window now : Nat) :
    ofEvents (store.check key limit window now).events = [] := by
  unfold Store.check
  dsimp only
  split
  · split <;> rfl
  · split <;> rfl

theorem Notice.ofEvents_admissionOf (key : CounterKey) (answer : SharedCount)
    (policy : WindowPolicy) : ofEvents (Limiter.admissionOf key answer policy).2 = [] := by
  unfold Limiter.admissionOf
  split <;> rfl

/-- A check that does without the shared counter leaves it alone, and is not written down. -/
theorem Limiter.checkWithoutBackend_spec {κ : Type} (limiter : Limiter κ) (key : CounterKey)
    (policy : WindowPolicy) (now : Nat) :
    (∃ store, (limiter.checkWithoutBackend key policy now).state = { limiter with store }) ∧
      Notice.ofEvents (limiter.checkWithoutBackend key policy now).events = [] := by
  unfold Limiter.checkWithoutBackend
  split
  · exact ⟨⟨_, rfl⟩, Notice.ofEvents_check ..⟩
  · exact ⟨⟨limiter.store, rfl⟩, rfl⟩

/-- However a shared counter disconnects, it is not usable afterwards. -/
theorem SharedBackend.available_disconnect {κ : Type} [SharedCounter κ]
    (backend : SharedBackend κ) : backend.disconnect.state.available = false := by
  unfold disconnect
  dsimp only [receive]
  rw [Signal.available, List.foldl_append]
  split
  · rfl
  · simp_all [Signal.available]

/-- What is left of the end of an increment: the shared counter is as usable as before and nothing
is written down, or it is no longer usable and the failure is written down. -/
theorem Limiter.settle_spec {κ : Type} [SharedCounter κ] (limiter : Limiter κ)
    (backend : SharedBackend κ) (key : CounterKey) (policy : WindowPolicy) (inTime : Bool)
    (now : Nat) :
    (∃ counter,
      (limiter.settle backend key policy inTime now).state =
        { limiter with shared := some { backend with counter } } ∧
      Notice.ofEvents (limiter.settle backend key policy inTime now).events = []) ∨
    ∃ counter store error,
      (limiter.settle backend key policy inTime now).state =
        { limiter with store, shared := some { backend with counter, available := false } } ∧
      Notice.ofEvents (limiter.settle backend key policy inTime now).events = [.failed error] := by
  obtain ⟨counter, ⟨answer, hsettle⟩ | ⟨error, hsettle⟩⟩ :=
    limiter.settle_cases now backend key policy inTime
  · rw [hsettle]
    exact .inl ⟨counter, rfl, Notice.ofEvents_admissionOf key answer policy⟩
  · let failed : Limiter κ :=
      { limiter with shared := some { backend with counter, available := false } }
    obtain ⟨⟨store, hstate⟩, hevents⟩ := failed.checkWithoutBackend_spec key policy now
    rw [hsettle]
    refine .inr ⟨counter, store, error, hstate, ?_⟩
    rw [Outcome.after, Notice.ofEvents_append, hevents]
    rfl

end Events

namespace Session

variable {κ : Type} [SharedCounter κ]

omit [SharedCounter κ] in
def outline (session : Session κ) : Outline :=
  { available := session.available, running := session.limiter.isRunning,
    listening := session.listening, suspended := session.suspended, trace := session.trace }

section Step

theorem outline_request (session : Session κ) (time : Nat) (method client : String) :
    Outline.Step (some (.of client method)) session.outline
      (session.request time method client).outline := by
  obtain ⟨limiter, listening, suspended, trace⟩ := session
  obtain ⟨settings, store, shared, lifecycle, sweepInterval, created, cancelled⟩ := limiter
  unfold Session.request
  cases shared with
  | none =>
      rw [Limiter.begin_of_none _ _ _ _ rfl]
      dsimp only
      rw [Notice.ofEvents_checkingEvent, Limiter.checkLocally, Notice.ofEvents_check]
      exact .answer _ rfl
  | some backend =>
      cases havailable : backend.available with
      | false =>
          rw [Limiter.begin_of_unavailable _ _ _ _ rfl havailable]
          obtain ⟨⟨store', hstate⟩, hevents⟩ := Limiter.checkWithoutBackend_spec
            ⟨settings, store, some backend, lifecycle, sweepInterval, created, cancelled⟩
            (.of client method) (settings.policy (.of method)) time
          dsimp only
          rw [Notice.ofEvents_checkingEvent, hevents, hstate]
          exact .answer _ rfl
      | true =>
          rcases Limiter.begin_of_available
            ⟨settings, store, some backend, lifecycle, sweepInterval, created, cancelled⟩ method
            client time rfl havailable with
            ⟨inTime, hbegin⟩ | ⟨resumeAt, inTime, hbegin⟩
          · rw [hbegin]
            dsimp only
            rw [Notice.ofEvents_append]
            rcases @Limiter.settle_spec κ _ _ _ _ _ inTime time with
              ⟨counter, hstate, hevents⟩ | ⟨counter, store', error, hstate, hevents⟩
            · rw [hevents, hstate]
              exact .count _ rfl havailable
            · rw [hevents, hstate]
              exact .fail _ error rfl havailable
          · rw [hbegin]
            exact .wait _ rfl havailable

theorem outline_resume (session : Session κ) (time place : Nat) (key? : Option CounterKey) :
    Outline.Step key? session.outline (session.resume time place).outline := by
  obtain ⟨limiter, listening, suspended, trace⟩ := session
  obtain ⟨settings, store, shared, lifecycle, sweepInterval, created, cancelled⟩ := limiter
  unfold Session.resume
  cases hpending : suspended[place]? with
  | none =>
      exact .quiet
  | some pending =>
      dsimp only
      split
      · exact .quiet
      · cases shared with
        | none =>
            rw [Limiter.resume, Limiter.checkLocally, Notice.ofEvents_check]
            exact .wake place pending _ hpending rfl
        | some backend =>
            rw [Limiter.resume]
            rcases Limiter.settle_spec _ backend pending.key pending.policy pending.inTime time with
              ⟨counter, hstate, hevents⟩ | ⟨counter, store', error, hstate, hevents⟩
            · rw [hevents, hstate]
              exact .wake place pending _ hpending rfl
            · rw [hevents, hstate]
              exact .wakeFailed place pending _ error hpending rfl

theorem outline_start (session : Session κ) (time : Nat) (key? : Option CounterKey) :
    Outline.Step key? session.outline (session.start time).outline := by
  obtain ⟨limiter, listening, suspended, trace⟩ := session
  obtain ⟨settings, store, shared, lifecycle, sweepInterval, created, cancelled⟩ := limiter
  cases lifecycle with
  | running task => exact .quiet
  | stopped =>
      cases shared with
      | none => exact .start []
      | some backend =>
          have hstarted : outline (Session.start ⟨⟨settings, store, some backend, .stopped,
              sweepInterval, created, cancelled⟩, listening, suspended, trace⟩ time) =
            { available := Signal.available backend.available
                (SharedCounter.connect backend.counter).2
              running := true, listening := true, suspended
              trace := (Notice.ofSignals (SharedCounter.connect backend.counter).2).reverse ++
                .started :: trace } := by
            simp [Session.start, outline, note, available, Limiter.isRunning, Limiter.start,
              SharedBackend.connect, SharedBackend.receive]
          rw [hstarted]
          exact .start _

theorem outline_stop (session : Session κ) (key? : Option CounterKey) :
    Outline.Step key? session.outline session.stop.outline := by
  obtain ⟨limiter, listening, suspended, trace⟩ := session
  obtain ⟨settings, store, shared, lifecycle, sweepInterval, created, cancelled⟩ := limiter
  cases lifecycle with
  | stopped => exact .quiet
  | running task =>
      cases shared with
      | none => exact .stopAlone rfl
      | some backend =>
          have hstopped : outline (Session.stop ⟨⟨settings, store, some backend, .running task,
              sweepInterval, created, cancelled⟩, listening, suspended, trace⟩) =
            { available := false, running := false, listening := false, suspended
              trace := .stopped :: .disconnected ::
                ((Notice.ofSignals (SharedCounter.disconnect backend.counter).2).reverse ++
                  trace) } := by
            simp [Session.stop, outline, note, available, Limiter.isRunning, Limiter.stop,
              Limiter.takeTask, Limiter.endTask, SharedBackend.available_disconnect]
          rw [hstopped]
          exact .stop _ rfl

omit [SharedCounter κ] in
theorem outline_tick (session : Session κ) (time : Nat) (key? : Option CounterKey) :
    Outline.Step key? session.outline
      { session with
        limiter := (Service.runTicks session.limiter time (time + 1)).state }.outline := by
  obtain ⟨limiter, listening, suspended, trace⟩ := session
  obtain ⟨settings, store, shared, lifecycle, sweepInterval, created, cancelled⟩ := limiter
  rcases lifecycle with - | (due | -) <;> exact .quiet

omit [SharedCounter κ] in
theorem outline_notify (session : Session κ) (event : ConnectionEvent)
    (key? : Option CounterKey) :
    Outline.Step key? session.outline (session.notify event).outline := by
  obtain ⟨limiter, listening, suspended, trace⟩ := session
  obtain ⟨settings, store, shared, lifecycle, sweepInterval, created, cancelled⟩ := limiter
  unfold Session.notify
  cases shared with
  | none => exact .quiet
  | some backend =>
      cases listening with
      | false => exact .quiet
      | true => exact .tell event rfl

end Step

/-- Every action changes the outline in one of the ways that there are. -/
theorem outline_step (session : Session κ) (timed : TimedAction κ) :
    Outline.Step timed.action.key? session.outline (session.step timed).outline := by
  obtain ⟨time, action⟩ := timed
  cases action with
  | request method client => exact outline_request session time method client
  | resume place => exact outline_resume session time place _
  | start => exact outline_start session time _
  | stop => exact outline_stop session _
  | tick => exact outline_tick session time _
  | sweep => exact .quiet
  | notify event => exact outline_notify session event _
  | alter change =>
      obtain ⟨limiter, listening, suspended, trace⟩ := session
      obtain ⟨settings, store, shared, lifecycle, sweepInterval, created, cancelled⟩ := limiter
      cases shared <;> exact .quiet

/-- What holds of an outline and stays true in every step holds of the outline of a run. -/
theorem outline_run {motive : Outline → Prop} (session : Session κ)
    (actions : List (TimedAction κ)) (hfirst : motive session.outline)
    (hstep : ∀ timed ∈ actions, ∀ before after,
      Outline.Step timed.action.key? before after → motive before → motive after) :
    motive (session.run actions).outline := by
  induction actions using List.reverseRecOn with
  | nil => exact hfirst
  | append_singleton actions last ih =>
      have hbefore := ih fun timed htimed => hstep timed (List.mem_append_left _ htimed)
      rw [run_concat]
      exact hstep last (by simp) _ _ (outline_step _ last) hbefore

omit [SharedCounter κ] in
/-- A limiter that has just been built does nothing, and takes its shared counter to be unusable. -/
theorem outline_ofSettings (settings : Settings) (counter : κ) (sweepInterval : Nat) :
    (ofSettings settings counter sweepInterval).outline =
      { available := false, running := false, listening := false, suspended := []
        trace := [] } := by
  cases hshared : settings.usesShared <;>
    simp [ofSettings, outline, available, Limiter.build, Limiter.isRunning, hshared]

/-- What holds of the keys of all requests holds of the keys of all answers, and of all checks that
wait. -/
theorem keys_run {p : CounterKey → Prop} (settings : Settings) (counter : κ)
    (sweepInterval : Nat) (actions : List (TimedAction κ))
    (hkeys : ∀ timed ∈ actions, ∀ key ∈ timed.action.key?, p key) :
    let session := (ofSettings settings counter sweepInterval).run actions
    (∀ verdict ∈ session.verdicts, p verdict.key) ∧
      ∀ pending ∈ session.suspended, p pending.key := by
  refine outline_run (ofSettings settings counter sweepInterval) actions (motive := fun outline =>
    (∀ verdict ∈ outline.trace.filterMap Notice.verdict?, p verdict.key) ∧
      ∀ pending ∈ outline.suspended, p pending.key) (by simp [outline_ofSettings])
    fun timed htimed before after hstep hbefore => ?_
  exact hstep.keys (hkeys timed htimed) hbefore.1 hbefore.2

section HasNoColon

variable {settings : Settings} {counter : κ} {sweepInterval : Nat}
  {actions : List (TimedAction κ)}

theorem hasNoColon_of_mem_verdicts (hcolons : NoColons actions) :
    ∀ verdict ∈ ((ofSettings settings counter sweepInterval).run actions).verdicts,
      HasNoColon verdict.key.method :=
  (keys_run (p := fun key => HasNoColon key.method) settings counter sweepInterval actions
    fun _ htimed _ hkey => hcolons.key htimed hkey).1

theorem hasNoColon_of_mem_suspended (hcolons : NoColons actions) :
    ∀ pending ∈ ((ofSettings settings counter sweepInterval).run actions).suspended,
      HasNoColon pending.key.method :=
  (keys_run (p := fun key => HasNoColon key.method) settings counter sweepInterval actions
    fun _ htimed _ hkey => hcolons.key htimed hkey).2

end HasNoColon

end Session

end Throttle
