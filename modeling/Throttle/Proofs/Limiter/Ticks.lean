import Throttle.Limiter.Sweep

/-!
# The ticks of a sweep task

A tick comes an interval after the one before it was due, or later.  When ticks come depends on the
interval and on the clock alone: not on what is swept, nor on whether a sweep panics.
-/

namespace Throttle

theorem Outcome.state_after {σ α : Type} (events : List Event) (outcome : Outcome σ α) :
    (outcome.after events).state = outcome.state := rfl

/-- What sweeps at some instants leave of a state, one after the other. -/
def Sweep.each {σ : Type} (sweep : Sweep σ) (state : σ) (instants : List Nat) : σ :=
  instants.foldl (fun swept instant => (sweep swept instant).state) state

namespace SweepTask

variable {interval stop due now next : Nat}

theorem add_le_nextTick (interval due now : Nat) : due + interval ≤ nextTick interval due now := by
  unfold nextTick
  split <;> omega

theorem nextTick_le (interval : Nat) (hdue : due ≤ now) :
    nextTick interval due now ≤ now + interval := by
  unfold nextTick
  split <;> omega

section TicksBefore

variable {σ : Type} (sweep : Sweep σ) (state : σ)

theorem state_ticksBefore_of_taken (h : Timer.seenAt due now < stop ∧ 0 < interval) :
    (ticksBefore sweep interval stop due now state).state =
      (ticksBefore sweep interval stop (nextTick interval due (Timer.seenAt due now))
        (Timer.seenAt due now) (sweep state (Timer.seenAt due now)).state).state := by
  rw [ticksBefore, dif_pos h, Outcome.state_after]
  rfl

theorem state_ticksBefore_of_not (h : ¬ (Timer.seenAt due now < stop ∧ 0 < interval)) :
    (ticksBefore sweep interval stop due now state).state = (due, state) := by
  rw [ticksBefore, dif_neg h]

end TicksBefore

/-- A task of which a tick is due takes its ticks at some instants, in order, and the next one is
due then. -/
inductive Ticks (interval : Nat) : Nat → List Nat → Nat → Prop where
  | none (due : Nat) : Ticks interval due [] due
  | tick {due taken next : Nat} {later : List Nat} (hdue : due ≤ taken)
      (hlater : Ticks interval (nextTick interval due taken) later next) :
      Ticks interval due (taken :: later) next

theorem Ticks.next_le {instants : List Nat} (hticks : Ticks interval due instants next)
    (hpast : ∀ instant ∈ instants, instant ≤ now) (hdue : due ≤ now + interval) :
    next ≤ now + interval := by
  induction hticks with
  | none due => exact hdue
  | tick htaken _ ih =>
      obtain ⟨hnow, hlater⟩ := List.forall_mem_cons.1 hpast
      have hnext := nextTick_le interval htaken
      exact ih hlater (by omega)

/-- The instants at which a task takes its ticks are the same whatever it sweeps. -/
theorem exists_ticks (interval stop due now : Nat) :
    ∃ (instants : List Nat) (next : Nat), Ticks interval due instants next ∧
      (∀ instant ∈ instants, now ≤ instant ∧ instant < stop) ∧
      (Timer.seenAt due now < stop ∧ 0 < interval → instants ≠ []) ∧
      ∀ {σ : Type} (sweep : Sweep σ) (state : σ),
        (ticksBefore sweep interval stop due now state).state =
          (next, sweep.each state instants) := by
  -- The recursion is that of any sweep, so the one of nothing does.
  induction due, now, () using
    ticksBefore.induct (fun _ _ => { state := (), value := none }) interval stop with
  | case1 due now _ taken h _ _ _ ih =>
      obtain ⟨later, next, hticks, hbetween, -, hstate⟩ := ih
      have hnow : now ≤ taken := Timer.now_le_seenAt due now
      refine ⟨taken :: later, next, .tick (Timer.due_le_seenAt due now) hticks, ?_,
        fun _ => List.cons_ne_nil _ _, fun sweep state => ?_⟩
      · intro instant hinstant
        rcases List.mem_cons.1 hinstant with rfl | hmem
        · exact ⟨hnow, h.1⟩
        · exact ⟨Nat.le_trans hnow (hbetween instant hmem).1, (hbetween instant hmem).2⟩
      · rw [state_ticksBefore_of_taken sweep state h, hstate]
        rfl
  | case2 due now _ taken h =>
      refine ⟨[], due, .none due, by simp, fun htaken => absurd htaken h, fun sweep state => ?_⟩
      rw [state_ticksBefore_of_not sweep state h]
      rfl

end SweepTask

end Throttle
