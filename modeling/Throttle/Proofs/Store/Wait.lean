import Throttle.Proofs.Store.Hint
import Throttle.Proofs.Store.History
import Throttle.Proofs.Store.Sweep

/-!
# Waiting for a window to close

A request that is denied finds the counter of its key full, and it is told how long to wait.  Until
the window of that counter closes it stays full: later requests find it there, with less left to
wait.  The wait that was told falls short of the closing instant by less than a millisecond, if at
all, so a millisecond after it the counter counts no more.  Main statement: whoever waits for so
long is let through, unless the clock ends before the window that would open.
-/

namespace Throttle.Store

/-! ## The wait that is told -/

theorem retryAfter_le_retryAfter {counter other : Counter} {now later : Nat}
    (hsame : counter.resetAt = other.resetAt) (hle : now ≤ later) :
    retryAfter counter later ≤ retryAfter other now := by
  have hleft : counter.resetAt - later ≤ other.resetAt - now := by omega
  have hseconds :
      Duration.secsUp (counter.resetAt - later) ≤ Duration.secsUp (other.resetAt - now) := by
    unfold Duration.secsUp Duration.millis
    omega
  unfold retryAfter
  omega

/-- The milliseconds that are left are covered, so what is not is a part of one. -/
theorem resetAt_lt_add_retryAfter (counter : Counter) (now : Nat) :
    counter.resetAt <
      now + Duration.ofSecs (retryAfter counter now) + Duration.ofMillis 1 := by
  have hcovered : counter.resetAt - now <
      Duration.ofSecs (Duration.secsUp (counter.resetAt - now)) + Duration.ofMillis 1 := by
    unfold Duration.secsUp Duration.millis Duration.ofSecs Duration.ofMillis
    omega
  have hseconds : Duration.secsUp (counter.resetAt - now) ≤ retryAfter counter now :=
    Nat.le_max_right _ _
  unfold Duration.ofSecs at hcovered ⊢
  omega

/-! ## Until the window closes -/

/-- The counter of a key leaves no room under a limit until an instant, at which its window
closes. -/
def IsFull (key : String) (limit closes : Nat) (store : Store) : Prop :=
  ∃ counter, store.get? key = some counter ∧ 0 < counter.count ∧ limit ≤ counter.count ∧
    counter.resetAt = closes

section IsFull

variable {store : Store} {key : String} {limit closes now : Nat}

theorem IsFull.live (hfull : IsFull key limit closes store) (hopen : now ≤ closes) :
    ∃ counter, store.live key now = some counter ∧ limit ≤ counter.count ∧
      counter.resetAt = closes := by
  obtain ⟨counter, hget, hpos, hlimit, hcloses⟩ := hfull
  refine ⟨counter, live_eq_some_iff.2 ⟨hget, Counter.isLive_iff.2 ⟨hpos, ?_⟩⟩, hlimit, hcloses⟩
  omega

theorem isFull_of_live {counter : Counter} (hlive : store.live key now = some counter)
    (hlimit : limit ≤ counter.count) : IsFull key limit counter.resetAt store := by
  obtain ⟨hget, hlive⟩ := live_eq_some_iff.1 hlive
  exact ⟨counter, hget, (Counter.isLive_iff.1 hlive).1, hlimit, rfl⟩

theorem IsFull.check (hfull : IsFull key limit closes store) (hopen : now ≤ closes)
    (limit' window : Nat) :
    IsFull key limit closes (store.check key limit' window now).state := by
  obtain ⟨counter, hlive, hlimit, hcloses⟩ := hfull.live hopen
  rcases Nat.lt_or_ge counter.count limit' with hfree | hfull'
  · rw [check_of_live_free hlive hfree]
    exact ⟨_, Table.get?_put_self .., Nat.succ_pos _, Nat.le_succ_of_le hlimit, hcloses⟩
  · rw [check_of_live_full hlive hfull']
    exact hfull

/-- No step takes the counter away or makes room in it before its window has closed. -/
theorem IsFull.next {log : Log} (hfull : IsFull key limit closes log.store) {step : Step}
    (hopen : step.time ≤ closes) : IsFull key limit closes (log.next step).store := by
  cases step with
  | sweep time =>
      obtain ⟨counter, hget, hpos, hlimit, rfl⟩ := hfull
      exact ⟨counter, get?_sweep_eq_some_iff.2 ⟨hget, hopen⟩, hpos, hlimit, rfl⟩
  | check time other limit' window =>
      rw [Log.store_next_check]
      by_cases hkey : key = other
      · subst hkey
        exact hfull.check hopen limit' window
      · obtain ⟨counter, hget, hrest⟩ := hfull
        exact ⟨counter, (get?_check_of_ne hkey).trans hget, hrest⟩

theorem IsFull.runFrom (hfull : IsFull key limit closes store) (steps : List Step)
    (hopen : ∀ step ∈ steps, step.time ≤ closes) :
    IsFull key limit closes (Log.runFrom store steps).store := by
  induction steps using List.reverseRecOn with
  | nil => exact hfull
  | append_singleton steps last ih =>
      rw [Log.runFrom_concat]
      apply IsFull.next
      · exact ih fun step hstep => hopen step (List.mem_append_left _ hstep)
      · exact hopen last (by simp)

end IsFull

/-! ## Once it has closed -/

/-- The counter of a key has counted nothing, or closes at an instant at the latest. -/
def ClosesBy (key : String) (closes : Nat) (store : Store) : Prop :=
  ∀ counter, store.get? key = some counter → counter.count = 0 ∨ counter.resetAt ≤ closes

section ClosesBy

variable {store : Store} {key : String} {closes now : Nat}

theorem ClosesBy.live_eq_none (hcloses : ClosesBy key closes store) (hclosed : closes < now) :
    store.live key now = none := by
  rw [live_eq_none_iff]
  intro counter hget
  rw [← Bool.not_eq_true, Counter.isLive_iff]
  have := hcloses counter hget
  omega

/-- A check that does not let its request through opens no window. -/
theorem ClosesBy.check (hcloses : ClosesBy key closes store) {limit window : Nat}
    (hanswer : (store.check key limit window now).value ≠ .ok .allowed) :
    ClosesBy key closes (store.check key limit window now).state := by
  rcases check_cases store key limit window now with
    ⟨-, -, h⟩ | ⟨-, -, h⟩ | ⟨current, -, -, h⟩ | ⟨current, -, -, h⟩ <;> rw [h] at hanswer ⊢
  · exact absurd rfl hanswer
  · intro counter hget
    rw [Table.get?_put_self] at hget
    obtain rfl := Option.some.inj hget
    unfold counterOf
    cases hbefore : store.get? key with
    | none => exact .inl rfl
    | some before => exact hcloses before hbefore
  · exact hcloses
  · exact absurd rfl hanswer

theorem ClosesBy.next {log : Log} (hcloses : ClosesBy key closes log.store) {step : Step}
    (hrefused : ∀ record ∈ (log.next step).records, record.isAllowedOf key = false) :
    ClosesBy key closes (log.next step).store := by
  cases step with
  | sweep time =>
      intro counter hget
      exact hcloses counter (get?_sweep_eq_some_iff.1 hget).1
  | check time other limit window =>
      rw [Log.store_next_check]
      by_cases hkey : key = other
      · subst hkey
        apply hcloses.check
        intro hallowed
        have hrecord := hrefused (Log.recordOf log.store time key limit window) (by simp)
        rw [← Bool.not_eq_true, isAllowedOf_iff] at hrecord
        exact hrecord ⟨rfl, hallowed⟩
      · intro counter hget
        rw [get?_check_of_ne hkey] at hget
        exact hcloses counter hget

theorem ClosesBy.runFrom (hcloses : ClosesBy key closes store) (steps : List Step)
    (hrefused : ∀ record ∈ (Log.runFrom store steps).records, record.isAllowedOf key = false) :
    ClosesBy key closes (Log.runFrom store steps).store := by
  induction steps using List.reverseRecOn with
  | nil => exact hcloses
  | append_singleton steps last ih =>
      rw [Log.runFrom_concat] at hrefused ⊢
      refine ClosesBy.next (ih fun record hrecord => hrefused record ?_) hrefused
      cases last with
      | sweep time => exact hrecord
      | check time other limit window => exact List.mem_cons_of_mem _ hrecord

end ClosesBy

theorem value_check_of_live_none {store : Store} {key : String} {now : Nat}
    (hnone : store.live key now = none) (limit window : Nat) :
    (store.check key limit window now).value =
      if now + window < Instant.bound then .ok .allowed else .error .clockEnd := by
  by_cases hfit : now + window < Instant.bound
  · rw [check_of_live_none hnone hfit, if_pos hfit]
  · rw [check_of_live_none_of_bound_le hnone (Nat.not_lt.1 hfit), if_neg hfit]

/-- A check that is denied finds a counter whose window is still open.  Until that closes, every
later check of the key for the same limit is denied and changes nothing, with no longer a wait than
the first one, whatever else was checked and swept meanwhile.  When the wait that was told and a
millisecond are over, a check of the key is let through if none was before, whatever else was done
meanwhile, unless the clock ends before the window that it would open. -/
theorem served_after_wait (store : Store) (key : String) (limit window now seconds : Nat)
    (hdenied : (store.check key limit window now).value = .ok (.denied seconds)) :
    ∃ counter, store.get? key = some counter ∧ now ≤ counter.resetAt ∧
      ∀ meanwhile : List Step,
        let log := Log.runFrom (store.check key limit window now).state meanwhile
        (∀ later window', now ≤ later → later ≤ counter.resetAt →
          (∀ step ∈ meanwhile, step.time ≤ later) →
            let again := log.store.check key limit window' later
            (∃ seconds' ≤ seconds, again.value = .ok (.denied seconds')) ∧
              again.state = log.store) ∧
        ((∀ record ∈ log.records, record.isAllowedOf key = false) →
          ∀ later limit' window',
            now + Duration.ofSecs seconds + Duration.ofMillis 1 ≤ later →
              (log.store.check key limit' window' later).value =
                if later + window' < Instant.bound then .ok .allowed else .error .clockEnd) := by
  obtain ⟨counter, hlive, hlimit, rfl⟩ := live_of_check_denied hdenied
  obtain ⟨hget, hcounts⟩ := live_eq_some_iff.1 hlive
  refine ⟨counter, hget, (Counter.isLive_iff.1 hcounts).2, fun meanwhile => ?_⟩
  rw [check_of_live_full hlive hlimit]
  dsimp only
  constructor
  · intro later window' hle hopen htimes
    have hfull := (isFull_of_live hlive hlimit).runFrom meanwhile fun step hstep =>
      Nat.le_trans (htimes step hstep) hopen
    obtain ⟨other, hother, hroom, hcloses⟩ := hfull.live hopen
    rw [check_of_live_full hother hroom]
    exact ⟨⟨_, retryAfter_le_retryAfter hcloses hle, rfl⟩, rfl⟩
  · intro hrefused later limit' window' hwaited
    have hcloses : ClosesBy key counter.resetAt store := by
      intro other hother
      obtain rfl := Option.some.inj (hother.symm.trans hget)
      exact .inr (Nat.le_refl _)
    have hclosed : counter.resetAt < later :=
      Nat.lt_of_lt_of_le (resetAt_lt_add_retryAfter counter now) hwaited
    have hnone := (hcloses.runFrom meanwhile hrefused).live_eq_none hclosed
    exact value_check_of_live_none hnone limit' window'

/-- Half a millisecond beyond two seconds is left of a window, so its key is told to wait for two.
It is denied once more then, and let through a millisecond later. -/
theorem served_after_wait_of_sliver :
    let window := Duration.ofSecs 2 + Duration.ofMicros 500
    let store := (Log.run [.check 0 "k" 1 window]).store
    let meanwhile : List Step :=
      [.check 7 "other" 1 9, .check (Duration.ofSecs 1) "k" 1 window, .sweep (Duration.ofSecs 2)]
    let log := Log.runFrom (store.check "k" 1 window 0).state meanwhile
    (store.check "k" 1 window 0).value = .ok (.denied 2) ∧
      (∀ step ∈ meanwhile, step.time ≤ Duration.ofSecs 2) ∧ Duration.ofSecs 2 ≤ window ∧
      (∃ seconds ≤ 2, (log.store.check "k" 1 window (Duration.ofSecs 2)).value =
        .ok (.denied seconds)) ∧
      (∀ record ∈ log.records, record.isAllowedOf "k" = false) ∧
      (log.store.check "k" 1 window (Duration.ofSecs 2 + Duration.ofMillis 1)).value =
        .ok .allowed := by
  intro window store meanwhile log
  have hdenied : (store.check "k" 1 window 0).value = .ok (.denied 2) := by decide +kernel
  have htimes : ∀ step ∈ meanwhile, step.time ≤ Duration.ofSecs 2 := by decide
  have hopen : Duration.ofSecs 2 ≤ window := by decide
  have hrefused : ∀ record ∈ log.records, record.isAllowedOf "k" = false := by decide +kernel
  obtain ⟨counter, hget, -, hserved⟩ := served_after_wait store "k" 1 window 0 2 hdenied
  have hcounter : store.get? "k" = some ⟨1, window⟩ := by decide +kernel
  obtain rfl := Option.some.inj (hget.symm.trans hcounter)
  obtain ⟨huntil, hafter⟩ := hserved meanwhile
  refine ⟨hdenied, htimes, hopen, ?_, hrefused, ?_⟩
  · exact (huntil (Duration.ofSecs 2) window (Nat.zero_le _) hopen htimes).1
  · rw [hafter hrefused (Duration.ofSecs 2 + Duration.ofMillis 1) 1 window (by decide)]
    decide

/-- The wait of a key is over, and a check that asks for a window past the end of the clock gets no
answer. -/
theorem unserved_past_clock :
    let store := (Log.run [.check 0 "k" 1 (Duration.ofSecs 1)]).store
    let later := Duration.ofSecs 1 + Duration.ofMillis 1
    (store.check "k" 1 (Duration.ofSecs 1) 0).value = .ok (.denied 1) ∧
      (store.check "k" 1 Instant.bound later).value = .error .clockEnd := by
  decide +kernel

end Throttle.Store
