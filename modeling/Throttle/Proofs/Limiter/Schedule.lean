import Throttle.Proofs.Limiter.Rota
import Throttle.Settings.Resolve
import Throttle.Shared.Scripted

/-!
# When a limiter sweeps

A cycle begins with a start and ends with a stop.  Main statement: sweeps happen only in a cycle,
and in every cycle no more of them than periods have gone by since its start, whether they panic or
not; a cycle goes on until it is stopped, and a tick that is due then is not taken any more.
-/

namespace Throttle.Rota

/-! ## Cycles -/

/-- The cycle that a trace is in: when it was started, and how many sweeps it has seen. -/
def cycle? : List Occasion → Option (Nat × Nat)
  | [] => none
  | .started time :: _ => some (time, 0)
  | .stopped _ :: _ => none
  | .swept _ :: earlier => (cycle? earlier).map fun (start, sweeps) => (start, sweeps + 1)

/-- Every sweep of a trace is in a cycle, and comes a period after its start for each sweep up to
itself. -/
def OnTime (period : Nat) : List Occasion → Prop
  | [] => True
  | .swept time :: earlier =>
    (∃ start sweeps, cycle? earlier = some (start, sweeps) ∧
      start + (sweeps + 1) * period ≤ time) ∧ OnTime period earlier
  | .started _ :: earlier => OnTime period earlier
  | .stopped _ :: earlier => OnTime period earlier

section Cycle

variable {period start : Nat}

theorem OnTime.of_append {later earlier : List Occasion}
    (hontime : OnTime period (later ++ earlier)) : OnTime period earlier := by
  induction later with
  | nil => exact hontime
  | cons occasion later ih =>
      apply ih
      cases occasion with
      | started => exact hontime
      | stopped => exact hontime
      | swept => exact hontime.2

theorem cycle?_append_started {sweeps : List Occasion}
    (hsweeps : ∀ occasion ∈ sweeps, occasion.isSweep = true) (earlier : List Occasion) :
    cycle? (sweeps ++ .started start :: earlier) = some (start, sweeps.length) := by
  induction sweeps with
  | nil => rfl
  | cons occasion sweeps ih =>
      obtain ⟨hoccasion, hrest⟩ := List.forall_mem_cons.1 hsweeps
      cases occasion with
      | started => cases hoccasion
      | stopped => cases hoccasion
      | swept time => rw [List.cons_append, cycle?, ih hrest]; rfl

theorem exists_of_cycle? {trace : List Occasion} {count : Nat}
    (hcycle : cycle? trace = some (start, count)) :
    ∃ sweeps earlier, trace = sweeps ++ .started start :: earlier ∧
      ∀ occasion ∈ sweeps, occasion.isSweep = true := by
  induction trace generalizing count with
  | nil => cases hcycle
  | cons occasion trace ih =>
      cases occasion with
      | started time =>
          cases hcycle
          exact ⟨[], trace, rfl, by simp⟩
      | stopped time => cases hcycle
      | swept time =>
          rw [cycle?, Option.map_eq_some_iff] at hcycle
          obtain ⟨⟨start', count'⟩, hearlier, hsame⟩ := hcycle
          cases hsame
          obtain ⟨sweeps, earlier, rfl, hsweeps⟩ := ih hearlier
          exact ⟨.swept time :: sweeps, earlier, rfl, List.forall_mem_cons.2 ⟨rfl, hsweeps⟩⟩

/-- Up to any time a cycle has seen no more sweeps than periods have gone by. -/
theorem OnTime.countP_le (hpos : 0 < period) {sweeps earlier : List Occasion}
    (hontime : OnTime period (sweeps ++ .started start :: earlier))
    (hsweeps : ∀ occasion ∈ sweeps, occasion.isSweep = true) (time : Nat) :
    sweeps.countP (fun occasion => occasion.time ≤ time) ≤ (time - start) / period := by
  induction sweeps with
  | nil => exact Nat.zero_le _
  | cons occasion sweeps ih =>
      obtain ⟨hoccasion, hrest⟩ := List.forall_mem_cons.1 hsweeps
      cases occasion with
      | started => cases hoccasion
      | stopped => cases hoccasion
      | swept swept =>
          obtain ⟨⟨start', count, hcycle, htime⟩, hontime⟩ := hontime
          have hsame : some (start', count) = some (start, sweeps.length) :=
            hcycle.symm.trans (cycle?_append_started hrest earlier)
          cases hsame
          have hcount := ih hontime hrest
          rw [List.countP_cons]
          by_cases hbefore : swept ≤ time
          · have hperiods : sweeps.length + 1 ≤ (time - start) / period := by
              rw [Nat.le_div_iff_mul_le hpos]
              omega
            have hhead : decide ((Occasion.swept swept).time ≤ time) = true :=
              decide_eq_true hbefore
            rw [if_pos hhead]
            exact Nat.le_trans (Nat.succ_le_succ List.countP_le_length) hperiods
          · simpa [Occasion.time, hbefore] using hcount

/-- Ticks of a task that is due on time are on time, and so is the next one. -/
theorem OnTime.ticks {due next count : Nat} {instants : List Nat} {trace : List Occasion}
    (hontime : OnTime period trace) (hticks : SweepTask.Ticks period due instants next)
    (hcycle : cycle? trace = some (start, count)) (hdue : start + (count + 1) * period ≤ due) :
    OnTime period ((instants.map .swept).reverse ++ trace) ∧
      ∃ count', cycle? ((instants.map .swept).reverse ++ trace) = some (start, count') ∧
        start + (count' + 1) * period ≤ next := by
  induction hticks generalizing trace count with
  | none due => exact ⟨hontime, count, hcycle, hdue⟩
  | @tick due taken next later htaken _ ih =>
      have hnext := SweepTask.add_le_nextTick period due taken
      rw [List.map_cons, List.reverse_cons, List.append_assoc]
      apply ih
      · exact ⟨⟨start, count, hcycle, Nat.le_trans hdue htaken⟩, hontime⟩
      · rw [List.singleton_append, cycle?, hcycle]
        rfl
      · rw [Nat.succ_mul (count + 1)]
        omega

end Cycle

variable {σ : Type} {period : Nat}

/-- The sweeps are on time, and so is the one that a running task waits for, which is due within a
period. -/
structure Sound (period : Nat) (lifecycle : Lifecycle) (now : Nat) (trace : List Occasion) :
    Prop where
  onTime : OnTime period trace
  waits : ∀ task, lifecycle = .running task →
    ∃ due start count, task = .waiting due ∧ cycle? trace = some (start, count) ∧
      start + (count + 1) * period ≤ due ∧ due ≤ now + period

theorem sound_of_stopped (period now : Nat) : Sound period .stopped now [] :=
  ⟨trivial, fun _ hrunning => nomatch hrunning⟩

theorem Sound.of_happened (hpos : 0 < period) {lifecycle lifecycle' : Lifecycle} {now now' : Nat}
    {seen trace : List Occasion} (hsound : Sound period lifecycle now trace)
    (hhappened : Happened period lifecycle now lifecycle' now' seen) :
    Sound period lifecycle' now' (seen ++ trace) := by
  cases hhappened with
  | idle hlater =>
      refine ⟨hsound.onTime, fun task hrunning => ?_⟩
      obtain ⟨due, start, count, htask, hcycle, hdue, hnear⟩ := hsound.waits task hrunning
      exact ⟨due, start, count, htask, hcycle, hdue, by omega⟩
  | started hstopped =>
      refine ⟨hsound.onTime, fun task hrunning => ?_⟩
      cases hrunning
      exact ⟨now + period, now, 0, if_neg (Nat.ne_of_gt hpos), rfl, by omega, Nat.le_refl _⟩
  | stopped hrunning => exact ⟨hsound.onTime, fun _ hrunning => nomatch hrunning⟩
  | swept hwaiting hticks hlater hpast =>
      obtain ⟨due, start, count, htask, hcycle, hdue, hnear⟩ := hsound.waits _ hwaiting
      cases htask
      obtain ⟨hontime, count', hcycle', hnext⟩ := hsound.onTime.ticks hticks hcycle hdue
      refine ⟨hontime, fun task hrunning => ?_⟩
      cases hrunning
      exact ⟨_, start, count', rfl, hcycle', hnext, hticks.next_le hpast (by omega)⟩

theorem sound_takeTurns (hpos : 0 < period) {rota : Rota σ}
    (hsound : Sound period rota.lifecycle rota.now rota.trace) (sweep : Sweep σ)
    (turns : List Turn) :
    Sound period (rota.takeTurns sweep period turns).lifecycle
      (rota.takeTurns sweep period turns).now (rota.takeTurns sweep period turns).trace := by
  induction turns using List.reverseRecOn with
  | nil => exact hsound
  | append_singleton turns last ih =>
      rw [takeTurns_concat]
      obtain ⟨lifecycle, now, seen, hhappened, hturn⟩ := exists_happened period last
        (rota.takeTurns sweep period turns).lifecycle (rota.takeTurns sweep period turns).now
      obtain ⟨rfl, rfl, htrace⟩ := hturn sweep _ rfl rfl
      rw [htrace]
      exact ih.of_happened hpos hhappened

/-- A task that runs sweeps within a period, give or take what a timer may be late. -/
theorem Sound.exists_swept (hpos : 0 < period) {rota : Rota σ} {task : SweepTask}
    (hsound : Sound period rota.lifecycle rota.now rota.trace)
    (hrunning : rota.lifecycle = .running task) (sweep : Sweep σ) {d : Nat}
    (hlong : period + Duration.ofMillis 2 ≤ d) {turn : Turn}
    (hpasses : turn = .jump d ∨ turn = .wait d) :
    (∃ next, (rota.turn sweep period turn).lifecycle = .running (.waiting next)) ∧
      ∃ instants, instants ≠ [] ∧
        (rota.turn sweep period turn).trace = (instants.map .swept).reverse ++ rota.trace := by
  obtain ⟨due, -, -, rfl, -, -, hnear⟩ := hsound.waits task hrunning
  have hseen : Timer.seenAt due rota.now < rota.now + d := by
    unfold Timer.seenAt Timer.goesOff
    simp only [Duration.ofMillis, Duration.millis] at hlong ⊢
    omega
  have hseen' : Timer.seenAt due (rota.now + d) < rota.now + d + 1 := by
    unfold Timer.seenAt Timer.goesOff
    simp only [Duration.ofMillis, Duration.millis] at hlong ⊢
    omega
  rcases hpasses with rfl | rfl
  · obtain ⟨instants, next, -, -, hsome, hrun⟩ :=
      exists_runTicks period due (rota.now + d) (rota.now + d + 1)
    rw [Rota.turn, hrun sweep { rota with now := rota.now + d } hrunning]
    exact ⟨⟨next, rfl⟩, instants, hsome ⟨hseen', hpos⟩, rfl⟩
  · obtain ⟨instants, next, -, -, hsome, hrun⟩ :=
      exists_runTicks period due rota.now (rota.now + d)
    rw [Rota.turn, hrun sweep rota hrunning]
    exact ⟨⟨next, rfl⟩, instants, hsome ⟨hseen, hpos⟩, rfl⟩

variable {κ : Type} [SharedCounter κ]

/-- A limiter that is started and stopped while time passes sweeps as its rota says, and would do so
at the same times if it swept something else, even if that panicked. -/
theorem sweeps_on_schedule (service : Service κ) (hstopped : service.limiter.lifecycle = .stopped)
    (hpos : 0 < service.limiter.sweepInterval) (turns : List Turn) (sweep : Sweep σ) (swept : σ) :
    let period := service.limiter.sweepInterval
    let own := (fresh service.now service.limiter.store).takeTurns .ofStore period turns
    let rota := (fresh service.now swept).takeTurns sweep period turns
    (own.Shows (service.takeTurns turns) ∧ own.lifecycle = rota.lifecycle ∧
      own.trace = rota.trace) ∧
    -- A sweep is in a cycle, and no earlier than a period after its start.
    (∀ later time earlier, rota.trace = later ++ .swept time :: earlier →
      ∃ sweeps start before, earlier = sweeps ++ .started start :: before ∧
        (∀ occasion ∈ sweeps, occasion.isSweep = true) ∧ start + period ≤ time) ∧
    -- A cycle has no more sweeps than periods.
    (∀ later sweeps start before, rota.trace = later ++ (sweeps ++ .started start :: before) →
      (∀ occasion ∈ sweeps, occasion.isSweep = true) → ∀ time,
        sweeps.countP (fun occasion => occasion.time ≤ time) ≤ (time - start) / period) ∧
    -- A cycle goes on: there is always a next sweep.
    (∀ task, rota.lifecycle = .running task → ∀ d, period + Duration.ofMillis 2 ≤ d →
      ∀ turn, turn = .jump d ∨ turn = .wait d →
        (∃ next, (rota.turn sweep period turn).lifecycle = .running (.waiting next)) ∧
          ∃ instants, instants ≠ [] ∧
            (rota.turn sweep period turn).trace = (instants.map .swept).reverse ++ rota.trace) ∧
    -- Nothing is swept after a stop, whatever was due.
    (∀ more : List Turn, (∀ turn ∈ more, turn ≠ .start) →
      (rota.takeTurns sweep period (.stop :: more)).trace =
        (rota.turn sweep period .stop).trace) ∧
    -- A new start is like the first one, at its own time.
    (rota.lifecycle = .stopped → ∀ more : List Turn,
      (rota.takeTurns sweep period (.start :: more)).trace =
        ((fresh rota.now rota.swept).takeTurns sweep period (.start :: more)).trace ++
          rota.trace) := by
  intro period own rota
  have hsound : Sound period rota.lifecycle rota.now rota.trace :=
    sound_takeTurns hpos (sound_of_stopped period service.now) sweep turns
  refine ⟨?_, ?_, ?_, ?_, ?_, ?_⟩
  · obtain ⟨lifecycle, seen, hrun⟩ := exists_takeTurns period turns .stopped service.now
    obtain ⟨hlifecycle, htrace⟩ := hrun sweep (fresh service.now swept) rfl rfl
    obtain ⟨hlifecycle', htrace'⟩ :=
      hrun .ofStore (fresh service.now service.limiter.store) rfl rfl
    have hshows : (fresh service.now service.limiter.store).Shows service :=
      ⟨hstopped.symm, rfl, rfl⟩
    refine ⟨hshows.takeTurns turns, ?_, ?_⟩
    · exact hlifecycle'.trans hlifecycle.symm
    · exact htrace'.trans htrace.symm
  · intro later time earlier htrace
    have hontime : OnTime period (.swept time :: earlier) :=
      OnTime.of_append (htrace ▸ hsound.onTime)
    obtain ⟨⟨start, count, hcycle, htime⟩, -⟩ := hontime
    obtain ⟨sweeps, before, hearlier, hsweeps⟩ := exists_of_cycle? hcycle
    refine ⟨sweeps, start, before, hearlier, hsweeps, ?_⟩
    have hperiod : period ≤ (count + 1) * period := Nat.le_mul_of_pos_left period count.succ_pos
    exact Nat.le_trans (Nat.add_le_add_left hperiod start) htime
  · intro later sweeps start before htrace hsweeps time
    have hontime : OnTime period (sweeps ++ .started start :: before) :=
      OnTime.of_append (htrace ▸ hsound.onTime)
    exact hontime.countP_le hpos hsweeps time
  · intro task hrunning d hlong turn hpasses
    exact hsound.exists_swept hpos hrunning sweep hlong hpasses
  · intro more hnostart
    have hstill := lifecycle_turn_stop rota sweep period
    exact (takeTurns_of_stopped _ hstill sweep period hnostart).2
  · intro hidle more
    obtain ⟨lifecycle, seen, hrun⟩ := exists_takeTurns period (.start :: more) .stopped rota.now
    have hagain := (hrun sweep rota hidle rfl).2
    have hfresh : ((fresh rota.now rota.swept).takeTurns sweep period (.start :: more)).trace =
        seen ++ [] := (hrun sweep (fresh rota.now rota.swept) rfl rfl).2
    rw [hagain, hfresh, List.append_nil]

/-- A sweep that panics at its first tick, which is late; a tick that is due but not taken when the
limiter is stopped; and a second cycle. -/
theorem sweeps_on_schedule_of_two_cycles :
    let settings := (Settings.resolve (.ofList [])).value
    let limiter : Limiter Scripted := { settings, sweepInterval := Duration.ofSecs 10 }
    let sweep : Sweep Nat := fun calls _ =>
      { state := calls + 1, value := if calls = 0 then none else some 0 }
    let turns : List Turn := [.start, .jump (Duration.ofSecs 25), .lag (Duration.ofSecs 11), .stop,
      .jump (Duration.ofSecs 60), .start, .wait (Duration.ofSecs 21)]
    let own := (fresh 0 limiter.store).takeTurns .ofStore (Duration.ofSecs 10) turns
    let rota := (fresh 0 0).takeTurns sweep (Duration.ofSecs 10) turns
    limiter.lifecycle = .stopped ∧ 0 < limiter.sweepInterval ∧
      rota.trace = [.swept (Duration.ofSecs 116), .swept (Duration.ofSecs 106),
        .started (Duration.ofSecs 96), .stopped (Duration.ofSecs 36), .swept (Duration.ofSecs 25),
        .started 0] ∧
      (own.Shows ((⟨limiter, 0⟩ : Service Scripted).takeTurns turns) ∧
        own.lifecycle = rota.lifecycle ∧ own.trace = rota.trace) ∧
      ∃ next, (rota.turn sweep (Duration.ofSecs 10) (.jump (Duration.ofSecs 11))).lifecycle =
        .running (.waiting next) := by
  intro settings limiter sweep turns own rota
  have hstopped : limiter.lifecycle = .stopped := rfl
  have hpos : 0 < limiter.sweepInterval := by decide
  have htrace : rota.trace = [.swept (Duration.ofSecs 116), .swept (Duration.ofSecs 106),
      .started (Duration.ofSecs 96), .stopped (Duration.ofSecs 36), .swept (Duration.ofSecs 25),
      .started 0] := by decide +kernel
  have hwaiting : rota.lifecycle = .running (.waiting (Duration.ofSecs 126)) := by decide +kernel
  obtain ⟨hown, -, -, hgoes, -⟩ := sweeps_on_schedule ⟨limiter, 0⟩ hstopped hpos turns sweep 0
  have hnext := hgoes _ hwaiting (Duration.ofSecs 11) (by decide) _ (.inl rfl)
  exact ⟨hstopped, hpos, htrace, hown, hnext.1⟩

end Throttle.Rota
