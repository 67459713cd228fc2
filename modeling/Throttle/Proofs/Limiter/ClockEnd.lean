import Mathlib.Algebra.Group.Nat.Defs
import Throttle.Proofs.Limiter.Hint

/-!
# The end of the clock

Settings may ask for windows that are longer than what is left of the clock, since any number of 64
bits is taken for the seconds of one.  A request has no answer exactly if it opens such a window in
memory.  Apart from that every request is answered, at once or when its wait is over, and its wait
is over soon; and the numbers that it is counted with stay within 64 bits.
-/

namespace Throttle

/-- A check has an answer, unless it opened a window of a name that would end after the clock. -/
def Outcome.InClock {σ : Type} (name : String) (time window : Nat)
    (outcome : Outcome σ (Except Fault Admission)) : Prop :=
  (∃ admission, outcome.value = .ok admission) ↔
    ¬ (.windowOpened name ∈ outcome.events ∧ Instant.bound ≤ time + window)

namespace Outcome

variable {σ τ : Type} {name : String} {time window : Nat}
  {outcome : Outcome σ (Except Fault Admission)}

theorem InClock.of_ok {admission : Admission} (hvalue : outcome.value = .ok admission)
    (hopened : .windowOpened name ∉ outcome.events) : outcome.InClock name time window :=
  ⟨fun _ hopens => hopened hopens.1, fun _ => ⟨admission, hvalue⟩⟩

/-- What is reported of other things, and what becomes of the state, makes no difference. -/
theorem InClock.congr (hclock : outcome.InClock name time window)
    {other : Outcome τ (Except Fault Admission)} (hvalue : other.value = outcome.value)
    (hevents : .windowOpened name ∈ other.events ↔ .windowOpened name ∈ outcome.events) :
    other.InClock name time window := by
  unfold InClock
  rw [hvalue, hevents]
  exact hclock

theorem InClock.after (hclock : outcome.InClock name time window) {events : List Event}
    (hopened : .windowOpened name ∉ events) : (outcome.after events).InClock name time window := by
  refine hclock.congr rfl ?_
  rw [Outcome.after, List.mem_append]
  exact or_iff_right hopened

end Outcome

theorem Store.inClock_check (store : Store) (key : String) (limit window now : Nat) :
    (store.check key limit window now).InClock key now window := by
  rcases check_cases store key limit window now with
    ⟨-, hfits, h⟩ | ⟨-, hpast, h⟩ | ⟨counter, -, -, h⟩ | ⟨counter, -, -, h⟩ <;> rw [h]
  · exact ⟨fun _ hopens => absurd hopens.2 (Nat.not_le.2 hfits), fun _ => ⟨.allowed, rfl⟩⟩
  · constructor
    · rintro ⟨admission, hvalue⟩
      cases hvalue
    · intro hnot
      exact absurd ⟨List.mem_singleton.2 rfl, hpast⟩ hnot
  · exact .of_ok rfl (by simp)
  · exact .of_ok rfl List.not_mem_nil

theorem SharedBackend.endOf_lt {κ : Type} (backend : SharedBackend κ) (delay now : Nat) :
    (backend.endOf delay now).1 < now + backend.opTimeout + Duration.ofMillis 2 := by
  unfold endOf
  split
  · simp only [Duration.ofMillis]
    omega
  · have hwait : min (min delay Timer.longest) backend.opTimeout ≤ backend.opTimeout :=
      Nat.min_le_right _ _
    simp only [Timer.seenAt, Timer.goesOff, Duration.ofMillis, Duration.millis]
    omega

namespace Limiter

variable {κ : Type} [SharedCounter κ] (limiter : Limiter κ)

omit [SharedCounter κ] in
theorem inClock_checkLocally (key : CounterKey) (policy : WindowPolicy) (now : Nat) :
    (limiter.checkLocally key policy now).InClock key.localName now policy.window :=
  (limiter.store.inClock_check key.localName policy.limit.toNat policy.window now).congr rfl .rfl

omit [SharedCounter κ] in
theorem inClock_checkWithoutBackend (key : CounterKey) (policy : WindowPolicy) (now : Nat) :
    (limiter.checkWithoutBackend key policy now).InClock key.localName now policy.window := by
  unfold checkWithoutBackend
  split
  · exact (limiter.inClock_checkLocally key policy now).after (by simp)
  · exact .of_ok rfl (by simp)

theorem inClock_settle (backend : SharedBackend κ) (key : CounterKey) (policy : WindowPolicy)
    (inTime : Bool) (now : Nat) :
    (limiter.settle backend key policy inTime now).InClock key.localName now policy.window := by
  obtain ⟨counter, ⟨answer, h⟩ | ⟨error, h⟩⟩ := limiter.settle_cases now backend key policy inTime
  · rw [h]
    refine .of_ok rfl ?_
    unfold admissionOf
    split <;> simp
  · rw [h]
    exact (inClock_checkWithoutBackend _ key policy now).after (by simp)

/-- A check is answered at once and within the clock, or it waits for the shared counter. -/
theorem begin_inClock (method client : String) (now : Nat) :
    (∃ outcome : Outcome (Limiter κ) (Except Fault Admission),
      outcome.InClock (CounterKey.of client method).localName now
          (limiter.settings.policy (.of method)).window ∧
        limiter.begin method client now =
          { state := outcome.state, value := .done outcome.value, events := outcome.events }) ∨
    ∃ pending, pending.key = .of client method ∧
      (limiter.begin method client now).value = .waiting pending := by
  have hchecking : ∀ name, .windowOpened name ∉ [limiter.checkingEvent method client] := by
    intro name
    simp [checkingEvent]
  cases hshared : limiter.shared with
  | none =>
      exact .inl ⟨_, (limiter.inClock_checkLocally _ _ now).after (hchecking _),
        limiter.begin_of_none method client now hshared⟩
  | some backend =>
      cases havailable : backend.available with
      | false =>
          exact .inl ⟨_, (limiter.inClock_checkWithoutBackend _ _ now).after (hchecking _),
            limiter.begin_of_unavailable method client now hshared havailable⟩
      | true =>
          rcases limiter.begin_of_available method client now hshared havailable with
            ⟨inTime, hbegin⟩ | ⟨resumeAt, inTime, hbegin⟩
          · refine .inl ⟨_, (inClock_settle _ _ _ _ inTime now).after ?_, hbegin⟩
            simp [checkingEvent]
          · exact .inr ⟨_, rfl, congrArg Outcome.value hbegin⟩

/-- A check waits for its increment no longer than that may take, but for a tick of the clock. -/
theorem resumeAt_lt_of_waiting {method client : String} {now : Nat} {pending : Pending}
    (hwaiting : (limiter.begin method client now).value = .waiting pending) :
    ∃ backend, limiter.shared = some backend ∧
      pending.resumeAt < now + backend.opTimeout + Duration.ofMillis 2 := by
  cases hshared : limiter.shared with
  | none =>
      rw [limiter.begin_of_none method client now hshared] at hwaiting
      cases hwaiting
  | some backend =>
      cases havailable : backend.available with
      | false =>
          rw [limiter.begin_of_unavailable method client now hshared havailable] at hwaiting
          cases hwaiting
      | true =>
          let policy := limiter.settings.policy (.of method)
          let begun := backend.begin (.of client method) policy.window
          have hlt := begun.state.endOf_lt begun.value now
          rcases hends : begun.state.endOf begun.value now with ⟨resumeAt, inTime⟩
          rw [hends] at hlt
          unfold begin at hwaiting
          rw [hshared] at hwaiting
          dsimp only [Outcome.after] at hwaiting
          rw [if_pos havailable, hends] at hwaiting
          dsimp only at hwaiting
          split at hwaiting
          · cases hwaiting
          · rw [Progress.waiting.injEq] at hwaiting
            subst hwaiting
            exact ⟨backend, rfl, hlt⟩

end Limiter

/-! ## Answers -/

/-- A request opened a window in memory that ends after the clock. -/
def Verdict.Overruns (settings : Settings) (verdict : Verdict) : Prop :=
  verdict.opened = true ∧
    Instant.bound ≤ verdict.time + (settings.policy (.of verdict.key.method)).window

/-- A request was answered, unless it opened a window that ends after the clock. -/
def Verdict.InClock (settings : Settings) (verdict : Verdict) : Prop :=
  (∃ admission, verdict.answer = .ok admission) ↔ ¬ verdict.Overruns settings

theorem Verdict.inClock_of_outcome {σ : Type} {settings : Settings} {verdict : Verdict}
    (outcome : Outcome σ (Except Fault Admission))
    (hclock : outcome.InClock verdict.key.localName verdict.time
      (settings.policy (.of verdict.key.method)).window)
    (hanswer : verdict.answer = outcome.value) (hevents : verdict.events = outcome.events) :
    verdict.InClock settings := by
  unfold InClock Overruns opened
  rw [hanswer, hevents, decide_eq_true_iff]
  exact hclock

namespace Session

variable {κ : Type} [SharedCounter κ] {settings : Settings} {session : Session κ}

/-- A request is answered within the clock at once, or it waits and is over soon. -/
theorem Wired.request_inClock (hwired : Wired settings session) (time : Nat)
    (method client : String) :
    let after := session.request time method client
    (∃ verdict, verdict.key = .of client method ∧ verdict.time = time ∧
        verdict.InClock settings ∧ after.verdicts = verdict :: session.verdicts ∧
        after.suspended = session.suspended) ∨
      ∃ pending, pending.key = .of client method ∧ after.verdicts = session.verdicts ∧
        after.suspended = session.suspended ++ [pending] ∧
        ∃ backend, session.limiter.shared = some backend ∧
          pending.resumeAt < time + backend.opTimeout + Duration.ofMillis 2 := by
  intro after
  have hclass : MethodClass.of (CounterKey.of client method).method = MethodClass.of method :=
    MethodClass.of_normalMethod method
  rcases session.limiter.begin_inClock method client time with
    ⟨outcome, hclock, hbegin⟩ | ⟨pending, hkey, hwaiting⟩
  · have hafter : after = ({ session with limiter := outcome.state } : Session κ).note
        (Notice.ofEvents outcome.events ++
          [.answered ⟨.of client method, time, outcome.value, outcome.events⟩]) := by
      show session.request time method client = _
      rw [Session.request, hbegin]
    refine .inl ⟨⟨.of client method, time, outcome.value, outcome.events⟩, rfl, rfl, ?_, ?_, ?_⟩
    · refine Verdict.inClock_of_outcome outcome ?_ rfl rfl
      rw [hwired.settings_eq] at hclock
      dsimp only
      rw [hclass]
      exact hclock
    · rw [hafter, verdicts_note_answered fun notice => Notice.verdict?_of_mem_ofEvents]
      rfl
    · rw [hafter]
      rfl
  · have hafter : after = ({ session with
        limiter := (session.limiter.begin method client time).state
        suspended := session.suspended ++ [pending] } : Session κ).note
          (Notice.ofEvents (session.limiter.begin method client time).events) := by
      show session.request time method client = _
      rw [Session.request, hwaiting]
    refine .inr ⟨pending, hkey, ?_, ?_, session.limiter.resumeAt_lt_of_waiting hwaiting⟩
    · rw [hafter, verdicts_note_of_none fun notice => Notice.verdict?_of_mem_ofEvents]
      rfl
    · rw [hafter]
      rfl

/-- A check whose wait is over is answered within the clock. -/
theorem Wired.resume_inClock (hwired : Wired settings session) {time place : Nat}
    {pending : Pending} (hpending : session.suspended[place]? = some pending)
    (hdue : pending.resumeAt ≤ time) :
    ∃ verdict, verdict.key = pending.key ∧ verdict.time = time ∧ verdict.InClock settings ∧
      (session.resume time place).verdicts = verdict :: session.verdicts := by
  have hpolicy := (hwired.suspended pending (List.mem_of_getElem? hpending)).2
  have hclock : (session.limiter.resume pending time).InClock pending.key.localName time
      pending.policy.window := by
    unfold Limiter.resume
    split
    · exact Limiter.inClock_checkLocally _ _ _ time
    · exact Limiter.inClock_settle _ _ _ _ pending.inTime time
  rw [hpolicy] at hclock
  refine ⟨⟨pending.key, time, (session.limiter.resume pending time).value,
    (session.limiter.resume pending time).events⟩, rfl, rfl,
    Verdict.inClock_of_outcome _ hclock rfl rfl, ?_⟩
  rw [Session.resume, hpending]
  dsimp only
  rw [if_neg (Nat.not_lt.2 hdue),
    verdicts_note_answered fun notice => Notice.verdict?_of_mem_ofEvents]
  rfl

theorem Wired.step_inClock (hwired : Wired settings session) (timed : TimedAction κ)
    (hbefore : ∀ verdict ∈ session.verdicts, verdict.InClock settings) :
    ∀ verdict ∈ (session.step timed).verdicts, verdict.InClock settings := by
  obtain ⟨time, action⟩ := timed
  have hquiet : Quiet session ⟨time, action⟩ (session.step ⟨time, action⟩) →
      ∀ verdict ∈ (session.step ⟨time, action⟩).verdicts, verdict.InClock settings :=
    fun hquiet => hquiet.verdicts_eq ▸ hbefore
  cases action with
  | request method client =>
      rcases hwired.request_inClock time method client with
        ⟨verdict, -, -, hclock, hverdicts, -⟩ | ⟨pending, -, hverdicts, -⟩
      · show ∀ verdict ∈ (session.request time method client).verdicts, _
        rw [hverdicts]
        exact List.forall_mem_cons.2 ⟨hclock, hbefore⟩
      · show ∀ verdict ∈ (session.request time method client).verdicts, _
        rw [hverdicts]
        exact hbefore
  | resume place =>
      show ∀ verdict ∈ (session.resume time place).verdicts, _
      rcases session.resume_eq_or_due time place with hsame | ⟨pending, hpending, hdue⟩
      · rw [hsame]
        exact hbefore
      · obtain ⟨verdict, -, -, hclock, hverdicts⟩ := hwired.resume_inClock hpending hdue
        rw [hverdicts]
        exact List.forall_mem_cons.2 ⟨hclock, hbefore⟩
  | start => exact hquiet (quiet_start session time)
  | stop => exact hquiet (quiet_stop session time)
  | tick => exact hquiet (quiet_tick session time)
  | sweep => exact hbefore
  | notify event => exact hquiet (quiet_notify session time event)
  | alter change => exact hquiet (quiet_alter session time change)

theorem inClock_run (settings : Settings) (counter : κ) (sweepInterval : Nat)
    (actions : List (TimedAction κ)) :
    ∀ verdict ∈ ((ofSettings settings counter sweepInterval).run actions).verdicts,
      verdict.InClock settings := by
  induction actions using List.reverseRecOn with
  | nil => exact fun verdict hverdict => nomatch hverdict
  | append_singleton actions last ih =>
      rw [run_concat]
      exact (wired_run settings counter sweepInterval actions).step_inClock last ih

end Session

/-! ## Numbers -/

namespace Store

/-- Counts fit into 64 bits, and windows that were opened end within the clock. -/
def InRange (store : Store) : Prop :=
  ∀ name counter, store.get? name = some counter →
    counter.count < 2 ^ 64 ∧ (0 < counter.count → counter.resetAt < Instant.bound)

variable {store : Store}

/-- A count is raised only while it is below the limit, and so stays within the bits of that. -/
theorem InRange.check (hrange : store.InRange) (key : String) {limit : Nat}
    (hlimit : limit < 2 ^ 64) (window now : Nat) :
    InRange (store.check key limit window now).state := by
  refine Each.check hrange key ?_ ?_ ?_
  · exact ⟨show 0 < 2 ^ 64 by decide, fun hpos => absurd hpos (Nat.lt_irrefl 0)⟩
  · exact fun hfits => ⟨show 1 < 2 ^ 64 by decide, fun _ => hfits⟩
  · intro counter hcounter hlive hfree
    exact ⟨Nat.lt_of_le_of_lt hfree hlimit, fun _ => hcounter.2 (Counter.isLive_iff.1 hlive).1⟩

theorem InRange.sweepEach (hrange : store.InRange) (instants : List Nat) :
    InRange (store.sweepEach instants) :=
  Each.sweepEach hrange instants

theorem InRange.retryAfter_lt (hrange : store.InRange) {name : String} {counter : Counter}
    (hcounter : store.get? name = some counter) (hpos : 0 < counter.count) (now : Nat) :
    retryAfter counter now < 2 ^ 64 :=
  Store.retryAfter_lt ((hrange name counter hcounter).2 hpos) now

end Store

namespace Session

variable {κ : Type} [SharedCounter κ]

theorem inRange_observedRun (settings : Settings) (counter : κ) (sweepInterval : Nat)
    (actions : List (TimedAction κ)) :
    (observedRun settings counter sweepInterval actions).limiter.store.InRange := by
  induction actions using List.reverseRecOn with
  | nil => exact fun name counter hcounter => nomatch hcounter
  | append_singleton actions last ih =>
      have hwired := wired_observedRun settings counter sweepInterval actions
      have hstep := (hwired.step_answered last).2
      rw [← observedRun_concat] at hstep
      rcases hstep with ⟨-, ticks, hstore⟩ | ⟨verdict, -, -, hanswered⟩
      · rw [hstore]
        exact ih.sweepEach _
      · cases hanswered with
        | refused hstore => exact hstore ▸ ih
        | counted answer hstore => exact hstore ▸ ih
        | checked hstore =>
            rw [hstore, Settings.checkIn]
            exact ih.check _ (UInt64.toNat_lt _) _ _

/-- Whatever a source says, a request is answered at once or soon, and has an admission for an
answer unless it opened a window in memory that would end after the clock does.  The count of its
key and the seconds that it may be told to wait for that stay within 64 bits. -/
theorem answered_unless_past_clock (source : Source) (counter : κ) (sweepInterval : Nat)
    (actions : List (TimedAction κ)) :
    let settings := (Settings.resolve source).value
    let session := (ofSettings settings counter sweepInterval).run actions
    (∀ verdict ∈ session.verdicts, (∃ admission, verdict.answer = .ok admission) ↔
        ¬ (verdict.opened = true ∧
          Instant.bound ≤ verdict.time + (settings.policy (.of verdict.key.method)).window)) ∧
      (∀ time method client,
        let after := session.request time method client
        (∃ verdict, verdict.key = .of client method ∧ verdict.time = time ∧
            after.verdicts = verdict :: session.verdicts) ∨
          ∃ pending, pending.key = .of client method ∧
            after.suspended = session.suspended ++ [pending] ∧
            ∃ backend, session.limiter.shared = some backend ∧
              pending.resumeAt < time + backend.opTimeout + Duration.ofMillis 2) ∧
      (∀ time place pending, session.suspended[place]? = some pending → pending.resumeAt ≤ time →
        ∃ verdict, verdict.key = pending.key ∧ verdict.time = time ∧
          (session.resume time place).verdicts = verdict :: session.verdicts) ∧
      (∀ name counter, session.limiter.store.get? name = some counter →
        counter.count < 2 ^ 64 ∧
          (0 < counter.count → ∀ now, Store.retryAfter counter now < 2 ^ 64)) := by
  intro settings session
  have hwired : Wired settings session := wired_run settings counter sweepInterval actions
  have hrange : session.limiter.store.InRange := by
    have hobserved := inRange_observedRun settings counter sweepInterval actions
    have hplain := plain_observedRun settings counter sweepInterval actions
    show ((ofSettings settings counter sweepInterval).run actions).limiter.store.InRange
    rw [← hplain]
    exact hobserved
  refine ⟨inClock_run settings counter sweepInterval actions, ?_, ?_, ?_⟩
  · intro time method client
    rcases hwired.request_inClock time method client with
      ⟨verdict, hkey, htime, -, hverdicts, -⟩ | ⟨pending, hkey, -, hsuspended, hsoon⟩
    · exact .inl ⟨verdict, hkey, htime, hverdicts⟩
    · exact .inr ⟨pending, hkey, hsuspended, hsoon⟩
  · intro time place pending hpending hdue
    obtain ⟨verdict, hkey, htime, -, hverdicts⟩ := hwired.resume_inClock hpending hdue
    exact ⟨verdict, hkey, htime, hverdicts⟩
  · intro name counter hcounter
    exact ⟨(hrange name counter hcounter).1, hrange.retryAfter_lt hcounter⟩

/-- With windows of `2 ^ 63 - 2` seconds, the longest that fit into the clock, the request that
opens one is answered. -/
theorem answered_unless_past_clock_at_the_end :
    let source : Source := .ofList
      [("RATE_LIMIT_GET_WINDOW", "9223372036854775806"), ("RATE_LIMIT_STORE", "memory")]
    let settings := (Settings.resolve source).value
    let session := (ofSettings settings ({} : Scripted) 5).run [⟨1, .request "GET" "c"⟩]
    session.verdicts.map (·.opened) = [true] ∧
      ∀ verdict ∈ session.verdicts, ∃ admission, verdict.answer = .ok admission := by
  intro source settings session
  have hanswered := answered_unless_past_clock source ({} : Scripted) 5 [⟨1, .request "GET" "c"⟩]
  refine ⟨by decide +kernel, fun verdict hverdict => (hanswered.1 verdict hverdict).2 ?_⟩
  revert verdict
  decide +kernel

/-- A request for which the settings have a window that is longer than the clock has no answer. -/
theorem no_answer_past_clock :
    let source : Source := .ofList
      [("RATE_LIMIT_GET_WINDOW", "18446744073709551615"), ("RATE_LIMIT_STORE", "memory")]
    let settings := (Settings.resolve source).value
    let session := (ofSettings settings ({} : Scripted) 5).run [⟨0, .request "GET" "c"⟩]
    session.verdicts.map (·.answer) = [.error .clockEnd] := by
  decide +kernel

end Session

end Throttle
