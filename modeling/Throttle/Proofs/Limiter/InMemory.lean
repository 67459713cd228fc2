import Throttle.Proofs.Limiter.Session
import Throttle.Proofs.Limiter.Ticks

/-!
# Sessions that count in memory

A limiter whose settings ask for no shared counter answers every request at once, from its store.
Its session is a run of that store: a request is a check of the name of its key, every tick of the
sweep task is some sweeps, and all else does nothing.
-/

namespace Throttle

/-- Ticks sweep the store while the clock moves, and do nothing else to it. -/
theorem SweepTask.store_ticksBefore (interval stop due now : Nat) (store : Store) :
    ∃ instants : List Nat, (∀ instant ∈ instants, now ≤ instant ∧ instant < stop) ∧
      (ticksBefore .ofStore interval stop due now store).state.2 = store.sweepEach instants := by
  obtain ⟨instants, next, -, hbetween, -, hstate⟩ := exists_ticks interval stop due now
  refine ⟨instants, hbetween, ?_⟩
  rw [hstate]
  rfl

/-- A limiter takes the ticks of one instant by sweeping at it. -/
theorem Service.runTicks_eq {κ : Type} (limiter : Limiter κ) (now : Nat) :
    ∃ ticks : Nat, ∃ lifecycle : Lifecycle,
      (runTicks limiter now (now + 1)).state =
        { limiter with
          lifecycle
          store := limiter.store.sweepEach (List.replicate ticks now) } := by
  unfold runTicks
  split
  · next due hlifecycle =>
      obtain ⟨instants, hbetween, hstore⟩ :=
        SweepTask.store_ticksBefore limiter.sweepInterval (now + 1) due now limiter.store
      have hinstants : instants = List.replicate instants.length now := by
        rw [List.eq_replicate_iff]
        refine ⟨rfl, fun instant hinstant => ?_⟩
        have := hbetween instant hinstant
        omega
      exact ⟨instants.length, _, by rw [← hinstants, ← hstore]⟩
  · exact ⟨0, limiter.lifecycle, rfl⟩

/-- The check of the store that a request for a key is. -/
def Settings.checkOf (settings : Settings) (time : Nat) (key : CounterKey) : Store.Step :=
  let policy := settings.policy (.of key.method)
  .check time key.localName policy.limit.toNat policy.window

/-- The check of the store that an action is, if it is a request. -/
def TimedAction.check? {κ : Type} (settings : Settings) (timed : TimedAction κ) :
    Option Store.Step :=
  timed.action.key?.map (settings.checkOf timed.time)

/-- The record of the check that was answered so. -/
def Verdict.record (settings : Settings) (verdict : Verdict) : Store.Record :=
  let policy := settings.policy (.of verdict.key.method)
  { key := verdict.key.localName, limit := policy.limit.toNat, window := policy.window,
    time := verdict.time, answer := verdict.answer, opened := verdict.opened }

namespace Session

variable {κ : Type} [SharedCounter κ]

/-- A session that counts in memory, next to the log of a run of its store. -/
structure Mirrors (settings : Settings) (session : Session κ) (log : Store.Log) : Prop where
  settings_eq : session.limiter.settings = settings
  shared_eq : session.limiter.shared = none
  suspended_eq : session.suspended = []
  store_eq : session.limiter.store = log.store
  records_eq : log.records = session.verdicts.map (·.record settings)

section Mirrors

variable {settings : Settings} {session : Session κ} {log : Store.Log}

theorem Mirrors.begin_eq (hmirrors : Mirrors settings session log) (time : Nat)
    (method client : String) :
    let key := CounterKey.of client method
    let policy := settings.policy (.of method)
    let checked := log.store.check key.localName policy.limit.toNat policy.window time
    session.limiter.begin method client time =
      { state := { session.limiter with store := checked.state }
        value := .done checked.value
        events := .checking key.localName policy.limit.toNat policy.windowSecs.toNat ::
          checked.events } := by
  simp [Limiter.begin, hmirrors.shared_eq, hmirrors.settings_eq, Limiter.checkLocally,
    hmirrors.store_eq, Outcome.after]

theorem Mirrors.request (hmirrors : Mirrors settings session log) (time : Nat)
    (method client : String) :
    Mirrors settings (session.request time method client)
      (log.next (settings.checkOf time (.of client method))) := by
  have hbegin := hmirrors.begin_eq time method client
  have hclass : MethodClass.of (CounterKey.of client method).method = MethodClass.of method :=
    MethodClass.of_normalMethod method
  dsimp only at hbegin
  unfold Session.request
  rw [hbegin]
  dsimp only [Settings.checkOf]
  rw [hclass]
  refine ⟨hmirrors.settings_eq, hmirrors.shared_eq, hmirrors.suspended_eq, rfl, ?_⟩
  rw [verdicts_note_answered fun notice => Notice.verdict?_of_mem_ofEvents, List.map_cons]
  refine congrArg₂ List.cons ?_ hmirrors.records_eq
  simp [Verdict.record, Verdict.opened, Store.Log.recordOf, hclass]

omit [SharedCounter κ] in
/-- A session whose limiter differs at most in its lifecycle has the same mirror. -/
theorem Mirrors.of_eq {session' : Session κ} (hmirrors : Mirrors settings session log)
    (hsettings : session'.limiter.settings = session.limiter.settings)
    (hshared : session'.limiter.shared = none) (hsuspended : session'.suspended = session.suspended)
    (hstore : session'.limiter.store = session.limiter.store)
    (hverdicts : session'.verdicts = session.verdicts) : Mirrors settings session' log :=
  ⟨hsettings.trans hmirrors.settings_eq, hshared, hsuspended.trans hmirrors.suspended_eq,
    hstore.trans hmirrors.store_eq, hmirrors.records_eq.trans (by rw [hverdicts])⟩

theorem Mirrors.start (hmirrors : Mirrors settings session log) (time : Nat) :
    Mirrors settings (session.start time) log := by
  have hshared := hmirrors.shared_eq
  unfold Session.start Limiter.start Limiter.isRunning
  cases hlifecycle : session.limiter.lifecycle with
  | running task => exact hmirrors
  | stopped =>
      rw [hshared]
      exact hmirrors.of_eq rfl rfl rfl rfl (verdicts_note_of_none (by simp [Notice.verdict?]))

theorem Mirrors.stop (hmirrors : Mirrors settings session log) :
    Mirrors settings session.stop log := by
  have hshared := hmirrors.shared_eq
  unfold Session.stop Limiter.stop Limiter.takeTask Limiter.isRunning
  cases hlifecycle : session.limiter.lifecycle with
  | stopped => exact hmirrors
  | running task =>
      rw [hshared]
      exact hmirrors.of_eq rfl rfl rfl rfl (verdicts_note_of_none (by simp [Notice.verdict?]))

omit [SharedCounter κ] in
/-- Sweeps of the store are sweeps of its run. -/
theorem Mirrors.sweepEach (hmirrors : Mirrors settings session log) (instants : List Nat)
    (lifecycle : Lifecycle) :
    Mirrors settings
      { session with limiter := { session.limiter with
          lifecycle, store := session.limiter.store.sweepEach instants } }
      ((instants.map Store.Step.sweep).foldl Store.Log.next log) := by
  rw [Store.Log.foldl_next_sweep, ← hmirrors.store_eq]
  exact ⟨hmirrors.settings_eq, hmirrors.shared_eq, hmirrors.suspended_eq, rfl,
    hmirrors.records_eq⟩

/-- One action of the session is some steps of the run, at the same instant. -/
theorem Mirrors.step (hmirrors : Mirrors settings session log) (timed : TimedAction κ) :
    ∃ steps : List Store.Step,
      Mirrors settings (session.step timed) (steps.foldl Store.Log.next log) ∧
      steps.filter (·.isCheck) = (timed.check? settings).toList ∧
      ∀ step ∈ steps, step.time = timed.time := by
  obtain ⟨time, action⟩ := timed
  cases action with
  | request method client =>
      exact ⟨[settings.checkOf time (.of client method)], hmirrors.request time method client, rfl,
        by simp [Settings.checkOf, Store.Step.time]⟩
  | resume place =>
      refine ⟨[], ?_, rfl, by simp⟩
      simpa [Session.step, Session.resume, hmirrors.suspended_eq] using hmirrors
  | start => exact ⟨[], hmirrors.start time, rfl, by simp⟩
  | stop => exact ⟨[], hmirrors.stop, rfl, by simp⟩
  | tick =>
      obtain ⟨ticks, lifecycle, hticks⟩ := Service.runTicks_eq session.limiter time
      refine ⟨(List.replicate ticks time).map .sweep, ?_, ?_, ?_⟩
      · rw [Session.step, hticks]
        exact hmirrors.sweepEach _ lifecycle
      · simp [Store.Step.isCheck, TimedAction.check?, Action.key?, Action.request?]
      · simp [Store.Step.time]
  | sweep =>
      exact ⟨[.sweep time], hmirrors.sweepEach [time] session.limiter.lifecycle, rfl,
        by simp [Store.Step.time]⟩
  | notify event =>
      refine ⟨[], ?_, rfl, by simp⟩
      simpa [Session.step, Session.notify, hmirrors.shared_eq] using hmirrors
  | alter change =>
      refine ⟨[], hmirrors.of_eq rfl ?_ rfl rfl rfl, rfl, by simp⟩
      simp [Session.step, hmirrors.shared_eq]

end Mirrors

/-- A session that counts in memory is a timely run of its store, of which the checks are its
requests. -/
theorem mirrors_run (settings : Settings) (hmemory : settings.usesShared = false) (counter : κ)
    (sweepInterval : Nat) (actions : List (TimedAction κ)) (horder : InOrder actions) :
    ∃ steps : List Store.Step,
      Mirrors settings ((ofSettings settings counter sweepInterval).run actions)
        (Store.Log.run steps) ∧
      steps.filter (·.isCheck) = actions.filterMap (·.check? settings) ∧
      (∀ step ∈ steps, ∃ timed ∈ actions, step.time = timed.time) ∧
      Store.Timely steps := by
  induction actions using List.reverseRecOn with
  | nil =>
      refine ⟨[], ⟨rfl, ?_, rfl, rfl, rfl⟩, rfl, by simp, by simp [Store.Timely]⟩
      simp [ofSettings, Limiter.build, hmemory]
  | append_singleton actions last ih =>
      obtain ⟨hbefore, -, hlast⟩ := List.pairwise_append.1 horder
      obtain ⟨steps, hmirrors, hchecks, htimes, htimely⟩ := ih hbefore
      obtain ⟨added, hnext, hadded, hnow⟩ := hmirrors.step last
      refine ⟨steps ++ added, ?_, ?_, ?_, ?_⟩
      · rw [run_concat, Store.Log.run, List.foldl_append]
        exact hnext
      · rw [List.filter_append, hchecks, hadded, List.filterMap_append]
        rw [List.filterMap_cons, List.filterMap_nil]
        cases last.check? settings <;> rfl
      · intro step hstep
        rcases List.mem_append.1 hstep with hmem | hmem
        · obtain ⟨timed, htimed, htime⟩ := htimes step hmem
          exact ⟨timed, List.mem_append_left _ htimed, htime⟩
        · exact ⟨last, by simp, hnow step hmem⟩
      · -- The steps of an action share its instant, and no earlier action comes later.
        refine List.pairwise_append.2 ⟨htimely, ?_, ?_⟩
        · refine List.pairwise_of_forall_mem_list fun earlier hearlier later hlater _ => ?_
          have hsame : earlier.time = later.time := by
            rw [hnow earlier hearlier, hnow later hlater]
          omega
        · intro earlier hearlier later hlater _
          obtain ⟨timed, htimed, htime⟩ := htimes earlier hearlier
          rw [htime, hnow later hlater]
          exact hlast timed htimed last (by simp)

end Session

end Throttle
