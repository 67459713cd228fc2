import Throttle.Proofs.Limiter.Charge
import Throttle.Proofs.Limiter.InMemory

/-!
# What an action does to a session

An action that deals with no request leaves the counters alone, but for sweeps and for what it does
to the shared counter directly.  The others go one of five ways, which are said here once, as the
moves of a session whose limiter was built as its settings say.  Later modules go by cases on them.
-/

namespace Throttle

/-- What a start, a stop or the environment does to the state of a shared counter. -/
def Action.effect {κ : Type} [SharedCounter κ] : Action κ → κ → κ
  | .start, counter => (SharedCounter.connect counter).1
  | .stop, counter => (SharedCounter.disconnect counter).1
  | .alter change, counter => change counter
  | _, counter => counter

namespace Session

variable {κ : Type} [SharedCounter κ]

/-! ## Actions that deal with no request -/

/-- A session goes on without dealing with a request: its store is swept at most, its shared counter
is connected, disconnected or altered at most, and it writes down no more than that. -/
structure Quiet (before : Session κ) (timed : TimedAction κ) (after : Session κ) : Prop where
  key?_eq : timed.action.key? = none
  settings_eq : after.limiter.settings = before.limiter.settings
  suspended_eq : after.suspended = before.suspended
  store_eq : ∃ ticks, after.limiter.store =
    before.limiter.store.sweepEach (List.replicate ticks timed.time)
  shared_eq : ∃ (change : κ → κ) (available : SharedBackend κ → Bool),
    (change = id ∨ change = timed.action.effect) ∧
      after.limiter.shared = before.limiter.shared.map fun backend =>
        { backend with counter := change backend.counter, available := available backend }
  trace_eq : ∃ notices, after.trace = notices ++ before.trace ∧
    ∀ notice ∈ notices, notice = .started ∨ notice = .stopped ∨
      before.limiter.shared.isSome = true ∧
        (notice = .disconnected ∨ ∃ event, notice = .told event)

section Quiet

variable (session : Session κ) (time : Nat)

theorem quiet_refl {timed : TimedAction κ} (hkey : timed.action.key? = none) :
    Quiet session timed session where
  key?_eq := hkey
  settings_eq := rfl
  suspended_eq := rfl
  store_eq := ⟨0, rfl⟩
  shared_eq := ⟨id, (·.available), .inl rfl, by simp⟩
  trace_eq := ⟨[], rfl, by simp⟩

theorem quiet_tick : Quiet session ⟨time, .tick⟩ (session.step ⟨time, .tick⟩) := by
  obtain ⟨ticks, lifecycle, hticks⟩ := Service.runTicks_eq session.limiter time
  rw [step, hticks]
  exact ⟨rfl, rfl, rfl, ⟨ticks, rfl⟩, ⟨id, (·.available), .inl rfl, by simp⟩, ⟨[], rfl, by simp⟩⟩

omit [SharedCounter κ] in
theorem mem_reverse_ofSignals {signals : List Signal} {notice : Notice}
    (hnotice : notice ∈ (Notice.ofSignals signals).reverse) : ∃ event, notice = .told event := by
  obtain ⟨signal, -, hsignal⟩ := List.mem_filterMap.1 (List.mem_reverse.1 hnotice)
  cases signal with
  | connection event => exact ⟨event, (Option.some.inj hsignal).symm⟩
  | report event => cases hsignal

theorem quiet_start : Quiet session ⟨time, .start⟩ (session.start time) := by
  unfold Session.start Limiter.start Limiter.isRunning
  cases session.limiter.lifecycle with
  | running task => exact quiet_refl session rfl
  | stopped =>
      refine ⟨rfl, rfl, rfl, ⟨0, rfl⟩, ⟨Action.start.effect, fun backend => Signal.available
        backend.available (SharedCounter.connect backend.counter).2, .inr rfl, ?_⟩, ?_⟩
      · simp only [note, Option.map_map]
        rfl
      · cases session.limiter.shared with
        | none => exact ⟨[.started], rfl, by simp⟩
        | some backend =>
            refine ⟨(Notice.ofSignals (SharedCounter.connect backend.counter).2).reverse ++
              [.started], by simp [note], fun notice hnotice => ?_⟩
            rcases List.mem_append.1 hnotice with htold | hstarted
            · exact .inr (.inr ⟨rfl, .inr (mem_reverse_ofSignals htold)⟩)
            · exact .inl (List.mem_singleton.1 hstarted)

theorem quiet_stop : Quiet session ⟨time, .stop⟩ session.stop := by
  unfold Session.stop Limiter.stop Limiter.takeTask Limiter.isRunning
  cases session.limiter.lifecycle with
  | stopped => exact quiet_refl session rfl
  | running task =>
      refine ⟨rfl, rfl, rfl, ⟨0, rfl⟩, ⟨Action.stop.effect, fun _ => false, .inr rfl, ?_⟩, ?_⟩
      · cases session.limiter.shared with
        | none => rfl
        | some backend =>
            have havailable := backend.available_disconnect
            simp only [note, Limiter.endTask, Option.map_some]
            rw [← havailable]
            rfl
      · cases session.limiter.shared with
        | none => exact ⟨[.stopped], rfl, by simp⟩
        | some backend =>
            refine ⟨.stopped :: .disconnected ::
              (Notice.ofSignals (SharedCounter.disconnect backend.counter).2).reverse,
              by simp [note], fun notice hnotice => ?_⟩
            rcases List.mem_cons.1 hnotice with hstopped | hnotice
            · exact .inr (.inl hstopped)
            · rcases List.mem_cons.1 hnotice with hdisconnected | htold
              · exact .inr (.inr ⟨rfl, .inl hdisconnected⟩)
              · exact .inr (.inr ⟨rfl, .inr (mem_reverse_ofSignals htold)⟩)

theorem quiet_notify (event : ConnectionEvent) :
    Quiet session ⟨time, .notify event⟩ (session.notify event) := by
  unfold Session.notify
  cases hshared : session.limiter.shared with
  | none => exact quiet_refl session rfl
  | some backend =>
      dsimp only
      split
      · refine ⟨rfl, rfl, rfl, ⟨0, rfl⟩, ⟨id, fun _ => event.isReady, .inl rfl, ?_⟩,
          ⟨[.told event], rfl, by simp [hshared]⟩⟩
        rw [hshared]
        rfl
      · exact quiet_refl session rfl

theorem quiet_alter (change : κ → κ) :
    Quiet session ⟨time, .alter change⟩ (session.step ⟨time, .alter change⟩) :=
  ⟨rfl, rfl, rfl, ⟨0, rfl⟩, ⟨change, (·.available), .inr rfl, rfl⟩, ⟨[], rfl, by simp⟩⟩

theorem Quiet.verdicts_eq {before after : Session κ} {timed : TimedAction κ}
    (hquiet : Quiet before timed after) : after.verdicts = before.verdicts := by
  obtain ⟨notices, htrace, hnotices⟩ := hquiet.trace_eq
  rw [verdicts, htrace, List.filterMap_append, verdicts]
  refine List.append_left_eq_self.2 (List.filterMap_eq_nil_iff.2 fun notice hnotice => ?_)
  rcases hnotices notice hnotice with rfl | rfl | ⟨-, rfl | ⟨event, rfl⟩⟩ <;> rfl

end Quiet

/-! ## Sessions as they were built -/

/-- A session of some settings has a shared counter exactly if they ask for one, calls its counts as
they say, and lets requests wait for nothing else, each with the policy of its method. -/
structure Wired (settings : Settings) (session : Session κ) : Prop where
  settings_eq : session.limiter.settings = settings
  keyPrefix_eq : session.limiter.shared.map (·.keyPrefix) =
    if settings.usesShared then some settings.keyPrefix else none
  suspended : ∀ pending ∈ session.suspended,
    settings.usesShared = true ∧ pending.policy = settings.policy (.of pending.key.method)

/-- What an action does to a session: one of the ways that there are. -/
inductive Move (before : Session κ) (timed : TimedAction κ) : Session κ → Prop where
  | quiet {after : Session κ} (hquiet : Quiet before timed after) : Move before timed after
  | refused (verdict : Verdict) (hactive : before.limiter.active = .unavailable)
      (hkey : timed.action.key? = some verdict.key) (htime : verdict.time = timed.time)
      (hanswer : verdict.answer = .ok (.unavailable 1)) (hsource : verdict.source = .unavailable) :
      Move before timed (before.note [.answered verdict])
  | checked (verdict : Verdict) (policy : WindowPolicy)
      {checked : Outcome Store (Except Fault Admission)}
      (hactive : before.limiter.active = .local_)
      (hpolicy : before.limiter.settings.policy (.of verdict.key.method) = policy)
      (hchecked : before.limiter.store.check verdict.key.localName policy.limit.toNat policy.window
        timed.time = checked)
      (hkey : timed.action.key? = some verdict.key) (htime : verdict.time = timed.time)
      (hanswer : verdict.answer = checked.value)
      (hopened : verdict.opened = decide (.windowOpened verdict.key.localName ∈ checked.events))
      (hsource : before.limiter.shared.isSome = true → verdict.source = .local_) :
      Move before timed
        ({ before with limiter := { before.limiter with store := checked.state } }.note
          [.answered verdict])
  | begun (backend : SharedBackend κ) (pending : Pending)
      (hshared : before.limiter.shared = some backend) (hactive : before.limiter.active = .shared)
      (hkey : timed.action.key? = some pending.key)
      (hpolicy : before.limiter.settings.policy (.of pending.key.method) = pending.policy) :
      Move before timed
        { before.beginning backend pending.key pending.policy.window with
          suspended := before.suspended ++ [pending] }
  | charged (backend : SharedBackend κ) (pending : Pending) {after : Session κ}
      (hshared : before.limiter.shared = some backend) (hactive : before.limiter.active = .shared)
      (hkey : timed.action.key? = some pending.key)
      (hpolicy : before.limiter.settings.policy (.of pending.key.method) = pending.policy)
      (hcharged : Charged (before.beginning backend pending.key pending.policy.window) pending
        timed.time ((backend.begin pending.key pending.policy.window).state.settle pending.key
          pending.policy.window pending.inTime timed.time) after) :
      Move before timed after
  | resumed (backend : SharedBackend κ) (pending : Pending) (place : Nat) {after : Session κ}
      (hshared : before.limiter.shared = some backend)
      (hpending : before.suspended[place]? = some pending)
      (hcharged : Charged { before with suspended := before.suspended.eraseIdx place } pending
        timed.time (backend.settle pending.key pending.policy.window pending.inTime timed.time)
          after) :
      Move before timed after

section Wired

variable {settings : Settings} {session : Session κ}

omit [SharedCounter κ] in
theorem Wired.shared_eq_none (hwired : Wired settings session)
    (hmemory : settings.usesShared = false) :
    session.limiter.shared = none ∧ session.suspended = [] := by
  constructor
  · have hnone := hwired.keyPrefix_eq
    rw [hmemory] at hnone
    simpa using hnone
  · refine List.eq_nil_iff_forall_not_mem.2 fun pending hpending => ?_
    have hshared := (hwired.suspended pending hpending).1
    rw [hmemory] at hshared
    cases hshared

omit [SharedCounter κ] in
theorem Wired.exists_backend (hwired : Wired settings session)
    (hshared : settings.usesShared = true) :
    ∃ backend, session.limiter.shared = some backend ∧
      backend.keyPrefix = settings.keyPrefix := by
  have hkeyPrefix := hwired.keyPrefix_eq
  rw [hshared, if_pos rfl] at hkeyPrefix
  exact Option.map_eq_some_iff.1 hkeyPrefix

omit [SharedCounter κ] in
theorem Wired.usesShared_eq (hwired : Wired settings session) {backend : SharedBackend κ}
    (hshared : session.limiter.shared = some backend) : settings.usesShared = true := by
  cases huses : settings.usesShared with
  | true => rfl
  | false =>
      rw [(hwired.shared_eq_none huses).1] at hshared
      cases hshared

omit [SharedCounter κ] in
/-- A session that differs in what the settings leave open stays wired. -/
theorem Wired.of_eq (hwired : Wired settings session) {after : Session κ}
    (hsettings : after.limiter.settings = session.limiter.settings)
    (hkeyPrefix : after.limiter.shared.map (·.keyPrefix) =
      session.limiter.shared.map (·.keyPrefix))
    (hsuspended : ∀ pending ∈ after.suspended, pending ∈ session.suspended) :
    Wired settings after :=
  ⟨hsettings.trans hwired.settings_eq, hkeyPrefix.trans hwired.keyPrefix_eq,
    fun pending hpending => hwired.suspended pending (hsuspended pending hpending)⟩

theorem move_request (session : Session κ) (time : Nat) (method client : String) :
    Move session ⟨time, .request method client⟩ (session.request time method client) := by
  have hclass : MethodClass.of (CounterKey.of client method).method = MethodClass.of method :=
    MethodClass.of_normalMethod method
  cases hactive : session.limiter.active with
  | unavailable =>
      obtain ⟨events, hsource, hrequest⟩ :=
        request_of_unavailable session time method client hactive rfl
      rw [hrequest]
      exact .refused _ hactive rfl rfl rfl hsource
  | local_ =>
      obtain ⟨events, hopened, hsource, hrequest⟩ :=
        request_of_local session time method client hactive rfl rfl rfl
      rw [hrequest]
      exact .checked _ _ hactive (congrArg _ hclass) rfl rfl rfl rfl hopened hsource
  | shared =>
      obtain ⟨backend, hshared, pending, hkey, hpolicy, hmove⟩ :=
        request_of_shared session time method client hactive rfl rfl
      have hpolicy' : session.limiter.settings.policy (.of pending.key.method) =
          pending.policy := by
        rw [hkey, hclass, hpolicy]
      rw [← hpolicy, ← hkey] at hmove
      rcases hmove with hrequest | hcharged
      · rw [hrequest]
        exact .begun backend pending hshared hactive (congrArg some hkey.symm) hpolicy'
      · exact .charged backend pending hshared hactive (congrArg some hkey.symm) hpolicy' hcharged

theorem Wired.move_resume (hwired : Wired settings session) (time place : Nat) :
    Move session ⟨time, .resume place⟩ (session.resume time place) := by
  rcases session.resume_eq_or_due time place with hsame | ⟨pending, hpending, hdue⟩
  · rw [hsame]
    exact .quiet (quiet_refl session rfl)
  · -- Only a shared counter makes a request wait, so there is one.
    obtain ⟨backend, hshared, -⟩ := hwired.exists_backend
      (hwired.suspended pending (List.mem_of_getElem? hpending)).1
    exact .resumed backend pending place hshared hpending
      (resume_charged session hshared hpending hdue)

/-- Every action is a move. -/
theorem Wired.move (hwired : Wired settings session) (timed : TimedAction κ) :
    Move session timed (session.step timed) := by
  obtain ⟨time, action⟩ := timed
  cases action with
  | request method client => exact move_request session time method client
  | resume place => exact hwired.move_resume time place
  | start => exact .quiet (quiet_start session time)
  | stop => exact .quiet (quiet_stop session time)
  | tick => exact .quiet (quiet_tick session time)
  | sweep => exact .quiet ⟨rfl, rfl, rfl, ⟨1, rfl⟩, ⟨id, (·.available), .inl rfl, by simp [step]⟩,
      ⟨[], rfl, by simp⟩⟩
  | notify event => exact .quiet (quiet_notify session time event)
  | alter change => exact .quiet (quiet_alter session time change)

theorem Charged.wired {before after : Session κ} {backend : SharedBackend κ} {pending : Pending}
    {time : Nat} {key : CounterKey} {window : Nat} {inTime : Bool}
    (hcharged : Charged before pending time (backend.settle key window inTime time) after)
    (hwired : Wired settings before)
    (hkeyPrefix : before.limiter.shared.map (·.keyPrefix) = some backend.keyPrefix) :
    Wired settings after := by
  have hended := backend.keyPrefix_settle key window inTime time
  cases hcharged with
  | counted => exact hwired.of_eq rfl (by simp [note, hended, hkeyPrefix]) fun _ h => h
  | refused => exact hwired.of_eq rfl (by simp [note, hended, hkeyPrefix]) fun _ h => h
  | fellBack => exact hwired.of_eq rfl (by simp [note, hended, hkeyPrefix]) fun _ h => h

theorem Wired.beginning (hwired : Wired settings session) {backend : SharedBackend κ}
    (hshared : session.limiter.shared = some backend) (key : CounterKey) (window : Nat) :
    Wired settings (session.beginning backend key window) :=
  hwired.of_eq rfl (by rw [hshared]; rfl) fun _ h => h

theorem Move.wired {timed : TimedAction κ} {after : Session κ} (hmove : Move session timed after)
    (hwired : Wired settings session) : Wired settings after := by
  cases hmove with
  | quiet hquiet =>
      obtain ⟨change, available, -, hshared⟩ := hquiet.shared_eq
      refine hwired.of_eq hquiet.settings_eq ?_ fun _ h => hquiet.suspended_eq ▸ h
      simp [hshared, Function.comp_def]
  | refused verdict => exact hwired.of_eq rfl rfl fun _ h => h
  | checked verdict policy => exact hwired.of_eq rfl rfl fun _ h => h
  | begun backend pending hshared _ _ hpolicy =>
      have hbegun := hwired.beginning hshared pending.key pending.policy.window
      refine ⟨hbegun.settings_eq, hbegun.keyPrefix_eq, fun other hother => ?_⟩
      rcases List.mem_append.1 hother with hmem | hmem
      · exact hwired.suspended other hmem
      · rw [List.mem_singleton.1 hmem, ← hpolicy, hwired.settings_eq]
        exact ⟨hwired.usesShared_eq hshared, rfl⟩
  | charged backend pending hshared _ _ _ hcharged =>
      exact hcharged.wired (hwired.beginning hshared _ _) rfl
  | resumed backend pending place hshared _ hcharged =>
      exact hcharged.wired (hwired.of_eq rfl rfl fun _ => List.mem_of_mem_eraseIdx)
        (by rw [hshared]; rfl)

theorem Wired.step (hwired : Wired settings session) (timed : TimedAction κ) :
    Wired settings (session.step timed) :=
  (hwired.move timed).wired hwired

end Wired

omit [SharedCounter κ] in
theorem wired_ofSettings (settings : Settings) (counter : κ) (sweepInterval : Nat) :
    Wired settings (ofSettings settings counter sweepInterval) := by
  refine ⟨rfl, ?_, by simp [ofSettings]⟩
  cases huses : settings.usesShared <;> simp [ofSettings, Limiter.build, huses]

theorem wired_run (settings : Settings) (counter : κ) (sweepInterval : Nat)
    (actions : List (TimedAction κ)) :
    Wired settings ((ofSettings settings counter sweepInterval).run actions) := by
  induction actions using List.reverseRecOn with
  | nil => exact wired_ofSettings settings counter sweepInterval
  | append_singleton actions last ih =>
      rw [run_concat]
      exact ih.step last

end Session

end Throttle
