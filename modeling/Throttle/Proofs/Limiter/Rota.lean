import Mathlib.Data.List.Induction
import Throttle.Limiter.Service
import Throttle.Proofs.Limiter.Ticks

/-!
# Rotas

A limiter is started and stopped, and the clock moves on: by jumps, by waiting, or before the sweep
task has its turn.  A rota is what that comes to for the task.  It leaves open what is swept, and
writes down every start, stop and sweep.  `Happened` says what a turn can do to a rota; what is
swept, and whether it panics, makes no difference to it.
-/

namespace Throttle

namespace Rota

/-- What a limiter is seen to do with its sweep task. -/
inductive Occasion where
  | started (time : Nat)
  | stopped (time : Nat)
  | swept (time : Nat)
deriving DecidableEq, Repr

namespace Occasion

def time : Occasion → Nat
  | .started time => time
  | .stopped time => time
  | .swept time => time

def isSweep : Occasion → Bool
  | .swept _ => true
  | _ => false

end Occasion

/-- A call of a limiter, or a way for time to pass. -/
inductive Turn where
  | start
  | stop
  /-- The clock jumps, and the task takes the ticks that have come up. -/
  | jump (d : Nat)
  /-- The clock waits, and the task takes every tick that comes up on the way. -/
  | wait (d : Nat)
  /-- The clock moves on, and the task has not yet come to take a tick. -/
  | lag (d : Nat)
deriving DecidableEq, Repr

end Rota

namespace Service

variable {κ : Type} [SharedCounter κ]

def turn (service : Service κ) : Rota.Turn → Service κ
  | .start => service.start.state
  | .stop => service.stop.state
  | .jump d => (service.jump d).state
  | .wait d => (service.passUntil (service.now + d)).state
  | .lag d => { service with now := service.now + d }

def takeTurns (service : Service κ) (turns : List Rota.Turn) : Service κ :=
  turns.foldl turn service

end Service

/-- A sweep that is written down, newest first. -/
def Sweep.noted {σ : Type} (sweep : Sweep σ) : Sweep (σ × List Rota.Occasion) :=
  fun (state, trace) now =>
    let swept := sweep state now
    { state := (swept.state, .swept now :: trace), value := swept.value, events := swept.events }

theorem Sweep.each_noted {σ : Type} (sweep : Sweep σ) (state : σ)
    (trace : List Rota.Occasion) (instants : List Nat) :
    sweep.noted.each (state, trace) instants =
      (sweep.each state instants, (instants.map .swept).reverse ++ trace) := by
  induction instants generalizing state trace with
  | nil => rfl
  | cons instant instants ih =>
      have hrest := ih (sweep state instant).state (.swept instant :: trace)
      rw [List.map_cons, List.reverse_cons, List.append_assoc]
      exact hrest

/-- A sweep task and its clock. -/
structure Rota (σ : Type) where
  lifecycle : Lifecycle := .stopped
  now : Nat
  swept : σ
  trace : List Rota.Occasion := []

namespace Rota

variable {σ : Type}

def fresh (now : Nat) (swept : σ) : Rota σ := { now, swept }

/-- Has the task take the ticks that come up before the clock, which stands at `now`, reaches
`stop`. -/
def runTicks (rota : Rota σ) (sweep : Sweep σ) (period now stop : Nat) : Rota σ :=
  match rota.lifecycle with
  | .running (.waiting due) =>
    let ticked := SweepTask.ticksBefore sweep.noted period stop due now (rota.swept, rota.trace)
    { rota with
      lifecycle := .running (.waiting ticked.state.1)
      swept := ticked.state.2.1
      trace := ticked.state.2.2 }
  | _ => rota

def turn (rota : Rota σ) (sweep : Sweep σ) (period : Nat) : Turn → Rota σ
  | .start =>
    match rota.lifecycle with
    | .running _ => rota
    | .stopped =>
      { rota with
        lifecycle := .running (.start period rota.now)
        trace := .started rota.now :: rota.trace }
  | .stop =>
    match rota.lifecycle with
    | .running _ => { rota with lifecycle := .stopped, trace := .stopped rota.now :: rota.trace }
    | .stopped => rota
  | .jump d =>
    { rota with now := rota.now + d }.runTicks sweep period (rota.now + d) (rota.now + d + 1)
  | .wait d => { rota.runTicks sweep period rota.now (rota.now + d) with now := rota.now + d }
  | .lag d => { rota with now := rota.now + d }

def takeTurns (rota : Rota σ) (sweep : Sweep σ) (period : Nat) (turns : List Turn) : Rota σ :=
  turns.foldl (fun rota turn => rota.turn sweep period turn) rota

theorem takeTurns_concat (rota : Rota σ) (sweep : Sweep σ) (period : Nat) (turns : List Turn)
    (last : Turn) :
    rota.takeTurns sweep period (turns ++ [last]) =
      (rota.takeTurns sweep period turns).turn sweep period last := by
  simp [takeTurns]

/-! ## What a turn can do -/

/-- What a turn that finds a task in some state, at some instant, makes of both, and what is seen of
it, newest first. -/
inductive Happened (period : Nat) (lifecycle : Lifecycle) (now : Nat) :
    Lifecycle → Nat → List Occasion → Prop where
  | idle {later : Nat} (hlater : now ≤ later) : Happened period lifecycle now lifecycle later []
  | started (hstopped : lifecycle = .stopped) :
      Happened period lifecycle now (.running (.start period now)) now [.started now]
  | stopped {task : SweepTask} (hrunning : lifecycle = .running task) :
      Happened period lifecycle now .stopped now [.stopped now]
  | swept {due next later : Nat} {instants : List Nat}
      (hwaiting : lifecycle = .running (.waiting due))
      (hticks : SweepTask.Ticks period due instants next) (hlater : now ≤ later)
      (hpast : ∀ instant ∈ instants, instant ≤ later) :
      Happened period lifecycle now (.running (.waiting next)) later
        (instants.map .swept).reverse

/-- Whatever is swept, the same ticks are taken. -/
theorem exists_runTicks (period due now stop : Nat) :
    ∃ (instants : List Nat) (next : Nat), SweepTask.Ticks period due instants next ∧
      (∀ instant ∈ instants, now ≤ instant ∧ instant < stop) ∧
      (Timer.seenAt due now < stop ∧ 0 < period → instants ≠ []) ∧
      ∀ {σ : Type} (sweep : Sweep σ) (rota : Rota σ),
        rota.lifecycle = .running (.waiting due) →
          rota.runTicks sweep period now stop =
            { rota with
              lifecycle := .running (.waiting next)
              swept := sweep.each rota.swept instants
              trace := (instants.map .swept).reverse ++ rota.trace } := by
  obtain ⟨instants, next, hticks, hbetween, hnonempty, hstate⟩ :=
    SweepTask.exists_ticks period stop due now
  refine ⟨instants, next, hticks, hbetween, hnonempty, fun sweep rota hwaiting => ?_⟩
  simp only [runTicks, hwaiting, hstate, Sweep.each_noted]

theorem runTicks_of_not_waiting (rota : Rota σ) (sweep : Sweep σ) (period now stop : Nat)
    (hidle : ∀ due, rota.lifecycle ≠ .running (.waiting due)) :
    rota.runTicks sweep period now stop = rota := by
  unfold runTicks
  split
  · next due hwaiting => exact absurd hwaiting (hidle due)
  · rfl

theorem now_runTicks (rota : Rota σ) (sweep : Sweep σ) (period now stop : Nat) :
    (rota.runTicks sweep period now stop).now = rota.now := by
  unfold runTicks
  split <;> rfl

theorem exists_happened_runTicks (period : Nat) (lifecycle : Lifecycle) (start : Nat)
    {now stop later : Nat} (hlater : now ≤ later) (hstop : stop ≤ later + 1) :
    ∃ lifecycle' seen, Happened period lifecycle now lifecycle' later seen ∧
      ∀ {σ : Type} (sweep : Sweep σ) (rota : Rota σ), rota.lifecycle = lifecycle →
        (rota.runTicks sweep period start stop).lifecycle = lifecycle' ∧
          (rota.runTicks sweep period start stop).trace = seen ++ rota.trace := by
  by_cases hwaiting : ∃ due, lifecycle = .running (.waiting due)
  · obtain ⟨due, rfl⟩ := hwaiting
    obtain ⟨instants, next, hticks, hbetween, -, hrun⟩ := exists_runTicks period due start stop
    have hpast : ∀ instant ∈ instants, instant ≤ later := fun instant hinstant => by
      have := (hbetween instant hinstant).2
      omega
    refine ⟨_, _, .swept rfl hticks hlater hpast, fun sweep rota hrota => ?_⟩
    rw [hrun sweep rota hrota]
    exact ⟨rfl, rfl⟩
  · refine ⟨lifecycle, [], .idle hlater, fun sweep rota hrota => ?_⟩
    rw [rota.runTicks_of_not_waiting]
    · exact ⟨hrota, rfl⟩
    · exact fun due hdue => hwaiting ⟨due, hrota ▸ hdue⟩

/-- What happens in a turn does not depend on what is swept. -/
theorem exists_happened (period : Nat) (turn : Turn) (lifecycle : Lifecycle) (now : Nat) :
    ∃ lifecycle' now' seen, Happened period lifecycle now lifecycle' now' seen ∧
      ∀ {σ : Type} (sweep : Sweep σ) (rota : Rota σ), rota.lifecycle = lifecycle →
        rota.now = now →
          (rota.turn sweep period turn).lifecycle = lifecycle' ∧
            (rota.turn sweep period turn).now = now' ∧
            (rota.turn sweep period turn).trace = seen ++ rota.trace := by
  cases turn with
  | start =>
      cases lifecycle with
      | stopped =>
          refine ⟨_, _, _, .started rfl, fun sweep rota hrota hnow => ?_⟩
          simp [Rota.turn, hrota, hnow]
      | running task =>
          refine ⟨_, _, _, .idle (Nat.le_refl now), fun sweep rota hrota hnow => ?_⟩
          simp [Rota.turn, hrota, hnow]
  | stop =>
      cases lifecycle with
      | stopped =>
          refine ⟨_, _, _, .idle (Nat.le_refl now), fun sweep rota hrota hnow => ?_⟩
          simp [Rota.turn, hrota, hnow]
      | running task =>
          refine ⟨_, _, _, .stopped rfl, fun sweep rota hrota hnow => ?_⟩
          simp [Rota.turn, hrota, hnow]
  | jump d =>
      obtain ⟨lifecycle', seen, hhappened, hrun⟩ := exists_happened_runTicks period lifecycle
        (now + d) (Nat.le_add_right now d) (Nat.le_refl (now + d + 1))
      refine ⟨_, _, _, hhappened, fun sweep rota hrota hnow => ?_⟩
      subst hnow
      obtain ⟨hlifecycle, htrace⟩ := hrun sweep { rota with now := rota.now + d } hrota
      exact ⟨hlifecycle, now_runTicks .., htrace⟩
  | wait d =>
      obtain ⟨lifecycle', seen, hhappened, hrun⟩ := exists_happened_runTicks period lifecycle
        now (Nat.le_add_right now d) (Nat.le_succ (now + d))
      refine ⟨_, _, _, hhappened, fun sweep rota hrota hnow => ?_⟩
      subst hnow
      obtain ⟨hlifecycle, htrace⟩ := hrun sweep rota hrota
      exact ⟨hlifecycle, rfl, htrace⟩
  | lag d =>
      refine ⟨_, _, _, .idle (Nat.le_add_right now d), fun sweep rota hrota hnow => ?_⟩
      simp [Rota.turn, hrota, hnow]

/-- What happens in a run depends on when the task is next due, and on the clock. -/
theorem exists_takeTurns (period : Nat) (turns : List Turn) (lifecycle : Lifecycle) (now : Nat) :
    ∃ lifecycle' seen, ∀ {σ : Type} (sweep : Sweep σ) (rota : Rota σ),
      rota.lifecycle = lifecycle → rota.now = now →
        (rota.takeTurns sweep period turns).lifecycle = lifecycle' ∧
          (rota.takeTurns sweep period turns).trace = seen ++ rota.trace := by
  induction turns generalizing lifecycle now with
  | nil => exact ⟨lifecycle, [], fun sweep rota hlifecycle _ => ⟨hlifecycle, rfl⟩⟩
  | cons first rest ih =>
      obtain ⟨between, later, seen, -, hfirst⟩ := exists_happened period first lifecycle now
      obtain ⟨lifecycle', seen', hrest⟩ := ih between later
      refine ⟨lifecycle', seen' ++ seen, fun sweep rota hlifecycle hnow => ?_⟩
      obtain ⟨hbetween, hlater, htrace⟩ := hfirst sweep rota hlifecycle hnow
      obtain ⟨hend, hseen⟩ := hrest sweep (rota.turn sweep period first) hbetween hlater
      exact ⟨hend, by rw [List.append_assoc, ← htrace]; exact hseen⟩

/-- Nothing happens to a stopped task before it is started. -/
theorem turn_of_stopped (rota : Rota σ) (hstopped : rota.lifecycle = .stopped) (sweep : Sweep σ)
    (period : Nat) {turn : Turn} (hturn : turn ≠ .start) :
    (rota.turn sweep period turn).lifecycle = .stopped ∧
      (rota.turn sweep period turn).trace = rota.trace := by
  cases turn with
  | start => exact absurd rfl hturn
  | stop => simp [Rota.turn, hstopped]
  | jump d =>
      rw [Rota.turn, runTicks_of_not_waiting _ _ _ _ _ (by simp [hstopped])]
      exact ⟨hstopped, rfl⟩
  | wait d =>
      rw [Rota.turn, runTicks_of_not_waiting _ _ _ _ _ (by simp [hstopped])]
      exact ⟨hstopped, rfl⟩
  | lag d => exact ⟨hstopped, rfl⟩

theorem takeTurns_of_stopped (rota : Rota σ) (hstopped : rota.lifecycle = .stopped)
    (sweep : Sweep σ) (period : Nat) {turns : List Turn}
    (hnostart : ∀ turn ∈ turns, turn ≠ .start) :
    (rota.takeTurns sweep period turns).lifecycle = .stopped ∧
      (rota.takeTurns sweep period turns).trace = rota.trace := by
  induction turns using List.reverseRecOn with
  | nil => exact ⟨hstopped, rfl⟩
  | append_singleton turns last ih =>
      have hlast : last ≠ .start := hnostart last (by simp)
      obtain ⟨hstill, htrace⟩ := ih fun turn hmem => hnostart turn (by simp [hmem])
      obtain ⟨hlifecycle, hsame⟩ := turn_of_stopped _ hstill sweep period hlast
      rw [takeTurns_concat]
      exact ⟨hlifecycle, hsame.trans htrace⟩

theorem lifecycle_turn_stop (rota : Rota σ) (sweep : Sweep σ) (period : Nat) :
    (rota.turn sweep period .stop).lifecycle = .stopped := by
  cases hlifecycle : rota.lifecycle <;> simp [Rota.turn, hlifecycle]

/-! ## The rota of a limiter -/

section Shows

variable {κ : Type}

/-- A rota shows where the sweep task of a limiter is, and the counters that it sweeps. -/
structure Shows (rota : Rota Store) (service : Service κ) : Prop where
  lifecycle : rota.lifecycle = service.limiter.lifecycle
  now : rota.now = service.now
  swept : rota.swept = service.limiter.store

theorem runTicks_shows (rota : Rota Store) (limiter : Limiter κ) (now stop : Nat)
    (hlifecycle : rota.lifecycle = limiter.lifecycle) (hswept : rota.swept = limiter.store) :
    (rota.runTicks .ofStore limiter.sweepInterval now stop).lifecycle =
        (Service.runTicks limiter now stop).state.lifecycle ∧
      (rota.runTicks .ofStore limiter.sweepInterval now stop).swept =
        (Service.runTicks limiter now stop).state.store ∧
      (Service.runTicks limiter now stop).state.sweepInterval = limiter.sweepInterval := by
  by_cases hwaiting : ∃ due, limiter.lifecycle = .running (.waiting due)
  · obtain ⟨due, hdue⟩ := hwaiting
    obtain ⟨instants, next, -, -, -, hstate⟩ :=
      SweepTask.exists_ticks limiter.sweepInterval stop due now
    simp only [runTicks, Service.runTicks, hlifecycle, hdue, hstate, Sweep.each_noted, hswept,
      and_self]
  · have hsame : Service.runTicks limiter now stop = { state := limiter, value := () } := by
      unfold Service.runTicks
      split
      · next due hdue => exact absurd ⟨due, hdue⟩ hwaiting
      · rfl
    have hidle : ∀ due, rota.lifecycle ≠ .running (.waiting due) :=
      fun due hdue => hwaiting ⟨due, hlifecycle ▸ hdue⟩
    rw [runTicks_of_not_waiting rota _ _ _ _ hidle, hsame]
    exact ⟨hlifecycle, hswept, rfl⟩

variable [SharedCounter κ]

theorem Shows.turn {rota : Rota Store} {service : Service κ} (hshows : rota.Shows service)
    (turn : Turn) :
    (rota.turn .ofStore service.limiter.sweepInterval turn).Shows (service.turn turn) ∧
      (service.turn turn).limiter.sweepInterval = service.limiter.sweepInterval := by
  obtain ⟨lifecycle, now, swept, trace⟩ := rota
  obtain ⟨rfl, rfl, rfl⟩ : lifecycle = service.limiter.lifecycle ∧ now = service.now ∧
    swept = service.limiter.store := ⟨hshows.lifecycle, hshows.now, hshows.swept⟩
  cases turn with
  | start =>
      cases hrunning : service.limiter.lifecycle <;> refine ⟨⟨?_, ?_, ?_⟩, ?_⟩ <;>
        simp [Rota.turn, Service.turn, Service.start, Limiter.start, hrunning]
  | stop =>
      cases hrunning : service.limiter.lifecycle <;> refine ⟨⟨?_, ?_, ?_⟩, ?_⟩ <;>
        simp [Rota.turn, Service.turn, Service.stop, Limiter.stop, Limiter.takeTask,
          Limiter.endTask, hrunning]
  | jump d =>
      obtain ⟨hlifecycle, hswept, hinterval⟩ := runTicks_shows
        ⟨service.limiter.lifecycle, service.now + d, service.limiter.store, trace⟩
        service.limiter (service.now + d) (service.now + d + 1) rfl rfl
      exact ⟨⟨hlifecycle, now_runTicks .., hswept⟩, hinterval⟩
  | wait d =>
      obtain ⟨hlifecycle, hswept, hinterval⟩ := runTicks_shows
        ⟨service.limiter.lifecycle, service.now, service.limiter.store, trace⟩
        service.limiter service.now (service.now + d) rfl rfl
      have hend : max service.now (service.now + d) = service.now + d :=
        Nat.max_eq_right (Nat.le_add_right _ _)
      exact ⟨⟨hlifecycle, hend.symm, hswept⟩, hinterval⟩
  | lag d => exact ⟨⟨rfl, rfl, rfl⟩, rfl⟩

theorem Shows.takeTurns {rota : Rota Store} {service : Service κ} (hshows : rota.Shows service)
    (turns : List Turn) :
    (rota.takeTurns .ofStore service.limiter.sweepInterval turns).Shows
      (service.takeTurns turns) := by
  induction turns generalizing rota service with
  | nil => exact hshows
  | cons first rest ih =>
      obtain ⟨hfirst, hinterval⟩ := hshows.turn first
      rw [← hinterval]
      exact ih (hinterval ▸ hfirst)

end Shows

end Rota

end Throttle
