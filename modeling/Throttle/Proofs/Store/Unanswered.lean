import Mathlib.Logic.Function.Basic
import Throttle.Proofs.Store.Log

/-!
# Checks without an answer

A check that would open a window past the end of the clock gets no answer, and leaves an empty
counter behind if its key had none.  An empty counter is as good as none at every instant, so what
matters of a store is what its keys count.  A check without an answer changes nothing of that, and
any other step makes the same of two stores that count alike.  Main statement: the checks of a run
that get an answer get the one that they get in the run without the others.
-/

namespace Throttle.Store

/-! ## What the keys of a store count -/

/-- The counter of each key, but for those that have counted nothing. -/
def counting (store : Store) (key : String) : Option Counter :=
  (store.get? key).filter (0 < ·.count)

section Counting

variable {store : Store} {key : String} {limit window now : Nat}

theorem live_eq_filter_counting (store : Store) (key : String) (now : Nat) :
    store.live key now = (store.counting key).filter (!·.hasClosed now) := by
  rw [live, counting, Option.filter_filter]
  congr 1
  funext counter
  rw [Bool.eq_iff_iff, Counter.isLive_iff]
  simp only [Counter.hasClosed, Bool.and_eq_true, Bool.not_eq_true', decide_eq_true_eq,
    decide_eq_false_iff_not]
  omega

theorem counting_put (store : Store) (key : String) (counter : Counter) :
    counting (store.put key counter) =
      Function.update store.counting key ((some counter).filter (0 < ·.count)) := by
  funext other
  by_cases hother : other = key
  · subst hother
    rw [Function.update_self, counting, Table.get?_put_self]
  · rw [Function.update_of_ne hother, counting, Table.get?_put_of_ne _ _ hother, counting]

theorem counting_put_of_pos {counter : Counter} (hpos : 0 < counter.count) :
    counting (store.put key counter) = Function.update store.counting key (some counter) := by
  rw [counting_put, Option.filter_some_pos (by simpa using hpos)]

/-- To put back what was found, or an empty counter where there was none, changes no count. -/
theorem counting_put_counterOf (store : Store) (key : String) (now : Nat) :
    counting (store.put key (store.counterOf key now)) = store.counting := by
  rw [counting_put, Function.update_eq_self_iff, counting, counterOf]
  cases store.get? key with
  | none => rfl
  | some counter => rfl

/-- What a check leaves of the counts depends on nothing else. -/
theorem counting_check (store : Store) (key : String) (limit window now : Nat) :
    (store.check key limit window now).state.counting =
      match store.live key now with
      | none =>
        if now + window < Instant.bound then
          Function.update store.counting key (some ⟨1, now + window⟩)
        else store.counting
      | some counter =>
        if counter.count < limit then
          Function.update store.counting key (some ⟨counter.count + 1, counter.resetAt⟩)
        else store.counting := by
  rcases check_cases store key limit window now with
    ⟨hlive, hfit, h⟩ | ⟨hlive, hend, h⟩ | ⟨counter, hlive, hfull, h⟩ | ⟨counter, hlive, hfree, h⟩
  · rw [h, hlive]
    dsimp only
    rw [if_pos hfit]
    exact counting_put_of_pos Nat.one_pos
  · rw [h, hlive]
    dsimp only
    rw [if_neg (Nat.not_lt.2 hend)]
    exact counting_put_counterOf store key now
  · rw [h, hlive]
    dsimp only
    rw [if_neg (Nat.not_lt.2 hfull)]
  · rw [h, hlive]
    dsimp only
    rw [if_pos hfree]
    exact counting_put_of_pos (Nat.succ_pos _)

theorem counting_sweep (store : Store) (now : Nat) :
    (store.sweep now).state.counting =
      fun key => (store.counting key).filter (!·.hasClosed now) := by
  funext key
  simp only [counting, get?_sweep, Option.filter_filter, Bool.and_comm]

end Counting

section Alike

variable {left right : Store} (halike : left.counting = right.counting)
include halike

theorem live_eq_of_counting_eq (key : String) (now : Nat) :
    left.live key now = right.live key now := by
  rw [live_eq_filter_counting, live_eq_filter_counting, halike]

theorem counting_next (step : Step) :
    (Log.next { store := left } step).store.counting =
      (Log.next { store := right } step).store.counting := by
  cases step with
  | check time key limit window =>
      rw [Log.store_next_check, Log.store_next_check, counting_check, counting_check,
        live_eq_of_counting_eq halike, halike]
  | sweep time =>
      rw [Log.store_next_sweep, Log.store_next_sweep, counting_sweep, counting_sweep, halike]

theorem records_next (step : Step) :
    (Log.next { store := left } step).records = (Log.next { store := right } step).records := by
  cases step with
  | check time key limit window =>
      rw [Log.records_next_check, Log.records_next_check,
        record_congr limit window (live_eq_of_counting_eq halike key time)]
  | sweep time => rfl

end Alike

/-! ## Runs without the checks that get no answer -/

/-- Whether a step gets an answer of a store; a sweep always does. -/
def Step.isAnswered (store : Store) : Step → Bool
  | .check time key limit window => (store.check key limit window time).value.isOk
  | .sweep _ => true

/-- The steps of a run of a store but for the checks that get no answer. -/
def answered (store : Store) : List Step → List Step
  | [] => []
  | step :: steps =>
    let rest := answered (Log.next { store } step).store steps
    if step.isAnswered store then step :: rest else rest

section Answered

variable {store : Store} {step : Step}

theorem filter_isOk_of_isAnswered (hanswered : step.isAnswered store = true) :
    (Log.next { store } step).records.filter (·.answer.isOk) =
      (Log.next { store } step).records := by
  cases step with
  | check time key limit window => exact List.filter_cons_of_pos hanswered
  | sweep time => rfl

theorem filter_isOk_of_not_isAnswered (hanswered : ¬ step.isAnswered store = true) :
    (Log.next { store } step).records.filter (·.answer.isOk) = [] := by
  cases step with
  | check time key limit window => exact List.filter_cons_of_neg hanswered
  | sweep time => exact absurd rfl hanswered

/-- A check gets no answer exactly if it would open a window past the end of the clock. -/
theorem isOk_value_check (key : String) (limit window now : Nat) :
    (store.check key limit window now).value.isOk = false ↔
      store.live key now = none ∧ Instant.bound ≤ now + window := by
  rcases check_cases store key limit window now with
    ⟨hlive, hfit, h⟩ | ⟨hlive, hend, h⟩ | ⟨counter, hlive, -, h⟩ | ⟨counter, hlive, -, h⟩
  · simp [h, Except.isOk, Except.toBool, hfit]
  · simp [h, Except.isOk, Except.toBool, hlive, hend]
  · simp [h, Except.isOk, Except.toBool, hlive]
  · simp [h, Except.isOk, Except.toBool, hlive]

theorem counting_next_of_not_isAnswered (hanswered : ¬ step.isAnswered store = true) :
    (Log.next { store } step).store.counting = store.counting := by
  cases step with
  | check time key limit window =>
      obtain ⟨hlive, hend⟩ :=
        (isOk_value_check key limit window time).1 (Bool.eq_false_iff.2 hanswered)
      rw [Log.store_next_check, counting_check, hlive]
      dsimp only
      rw [if_neg (Nat.not_lt.2 hend)]
  | sweep time => exact absurd rfl hanswered

end Answered

/-- Without the checks that get no answer a run counts the same and answers the others the same, and
it may even start from another store that counts alike. -/
theorem runFrom_answered {left right : Store} (halike : left.counting = right.counting)
    (steps : List Step) :
    (Log.runFrom right (answered left steps)).store.counting =
        (Log.runFrom left steps).store.counting ∧
      (Log.runFrom right (answered left steps)).records =
        (Log.runFrom left steps).records.filter (·.answer.isOk) := by
  induction steps generalizing left right with
  | nil => exact ⟨halike.symm, rfl⟩
  | cons step steps ih =>
      rw [answered, Log.runFrom_cons left, List.filter_append]
      by_cases hanswered : step.isAnswered left = true
      · obtain ⟨hcounting, hrecords⟩ := ih (counting_next halike step)
        rw [if_pos hanswered, Log.runFrom_cons right, filter_isOk_of_isAnswered hanswered]
        refine ⟨hcounting, ?_⟩
        dsimp only
        rw [hrecords, records_next halike]
      · -- Only the run with all its steps goes on, to a store that counts as before.
        have hleft := counting_next_of_not_isAnswered hanswered
        obtain ⟨hcounting, hrecords⟩ := ih (hleft.trans halike)
        rw [if_neg hanswered, filter_isOk_of_not_isAnswered hanswered, List.append_nil]
        exact ⟨hcounting, hrecords⟩

/-- Checks without an answer leave no trace in those that get one.  Whatever is checked and swept,
and at whatever instants, the checks of a run that get an answer get it also in the run without the
others, and open the same windows there.  A check gets no answer exactly if no window of its key is
open and the clock ends before a new one would; it then leaves every counter that is there as it
was, and only puts an empty one where its key had none. -/
theorem no_trace_of_unanswered :
    (∀ steps : List Step,
      (Log.run (answered .empty steps)).records =
        (Log.run steps).records.filter (·.answer.isOk)) ∧
    ∀ (store : Store) (key : String) (limit window now : Nat),
      let checked := store.check key limit window now
      (checked.value.isOk = false ↔
        store.live key now = none ∧ Instant.bound ≤ now + window) ∧
      (checked.value.isOk = false →
        (∀ other, other ≠ key → checked.state.get? other = store.get? other) ∧
        (∀ counter, store.get? key = some counter →
          checked.state.get? key = some counter) ∧
        (store.get? key = none → checked.state.get? key = some ⟨0, now⟩)) := by
  refine ⟨fun steps => (runFrom_answered rfl steps).2, fun store key limit window now => ?_⟩
  intro checked
  refine ⟨isOk_value_check key limit window now, fun hfailed => ?_⟩
  obtain ⟨hlive, hend⟩ := (isOk_value_check key limit window now).1 hfailed
  have hstate : checked.state.get? key = some (store.counterOf key now) := by
    show (store.check key limit window now).state.get? key = _
    rw [check_of_live_none_of_bound_le hlive hend, Table.get?_put_self]
  rw [hstate, counterOf]
  refine ⟨fun other hne => get?_check_of_ne hne, fun counter hget => ?_, fun hget => ?_⟩
  · rw [hget, Option.getD_some]
  · rw [hget, Option.getD_none]

/-- The window of `a` has closed when a check of `a` gets no answer, and its counter stays; `b` had
no counter.  While a window is open, a check may ask for any other one. -/
theorem no_trace_of_unanswered_for_two_keys :
    let steps : List Step :=
      [.check 0 "a" 1 5, .check 6 "a" 1 Instant.bound, .check 6 "b" 1 Instant.bound, .sweep 6,
        .check 7 "a" 1 5, .check 7 "b" 2 5, .check 8 "b" 2 Instant.bound]
    let store := (Log.run (steps.take 1)).store
    let checked := store.check "a" 1 Instant.bound 6
    answered .empty steps = [.check 0 "a" 1 5, .sweep 6, .check 7 "a" 1 5, .check 7 "b" 2 5,
        .check 8 "b" 2 Instant.bound] ∧
      (Log.run (answered .empty steps)).records =
        (Log.run steps).records.filter (·.answer.isOk) ∧
      checked.value.isOk = false ∧ store.get? "a" = some ⟨1, 5⟩ ∧
      checked.state.get? "a" = some ⟨1, 5⟩ ∧
      (store.check "b" 1 Instant.bound 6).value.isOk = false ∧ store.get? "b" = none ∧
      (store.check "b" 1 Instant.bound 6).state.get? "b" = some ⟨0, 6⟩ := by
  intro steps store checked
  have hfailed : checked.value.isOk = false := by decide +kernel
  have hother : (store.check "b" 1 Instant.bound 6).value.isOk = false := by decide +kernel
  have ha : store.get? "a" = some ⟨1, 5⟩ := by decide +kernel
  have hb : store.get? "b" = none := by decide +kernel
  exact ⟨by decide +kernel, no_trace_of_unanswered.1 steps, hfailed, ha,
    ((no_trace_of_unanswered.2 store "a" 1 Instant.bound 6).2 hfailed).2.1 _ ha, hother, hb,
    ((no_trace_of_unanswered.2 store "b" 1 Instant.bound 6).2 hother).2.2 hb⟩

end Throttle.Store
