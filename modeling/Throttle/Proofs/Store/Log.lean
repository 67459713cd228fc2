import Mathlib.Data.List.Induction
import Throttle.Proofs.Store.Live

/-!
# Runs of a store

A run is a list of checks and sweeps, each at an instant of its own.  It leaves the store, and a
record of every check that was made, the latest first.  A run is timely if no check comes before
anything that precedes it in the list; sweeps may look back.  Main statement: the records of a key,
and its live counter, are those of the run of its checks alone.
-/

namespace Throttle

def isAllowed : Except Fault Admission → Bool
  | .ok admission => admission.mayProceed
  | .error _ => false

theorem isAllowed_iff {answer : Except Fault Admission} :
    isAllowed answer = true ↔ answer = .ok .allowed := by
  rcases answer with fault | (_ | _ | _) <;> simp [isAllowed, Admission.mayProceed]

namespace Store

structure Record where
  key : String
  limit : Nat
  window : Nat
  time : Nat
  answer : Except Fault Admission
  /-- Whether it opened a window of its key. -/
  opened : Bool

inductive Step where
  | check (time : Nat) (key : String) (limit window : Nat)
  | sweep (time : Nat)
deriving DecidableEq, Repr

namespace Step

def time : Step → Nat
  | .check time .. => time
  | .sweep time => time

def isCheck : Step → Bool
  | .check .. => true
  | .sweep _ => false

/-- Whether the clock reaches the end of a window that is opened by a step. -/
def fits : Step → Bool
  | .check time _ _ window => time + window < Instant.bound
  | .sweep _ => true

def isCheckOf (key : String) : Step → Bool
  | .check _ other .. => other == key
  | .sweep _ => false

end Step

/-- The store after sweeps at some instants, one after the other. -/
def sweepEach (store : Store) (instants : List Nat) : Store :=
  instants.foldl (fun swept instant => (swept.sweep instant).state) store

/-- Sweeps only take counters away. -/
theorem get?_of_sweepEach {store : Store} {instants : List Nat} {key : String} {counter : Counter}
    (hcounter : (store.sweepEach instants).get? key = some counter) :
    store.get? key = some counter := by
  induction instants generalizing store with
  | nil => exact hcounter
  | cons instant instants ih =>
      have hswept := ih hcounter
      rw [get?_sweep, Option.filter_eq_some_iff] at hswept
      exact hswept.1

def Record.step (record : Record) : Step :=
  .check record.time record.key record.limit record.window

/-- A store with the records of the checks that were made of it, the latest first. -/
structure Log where
  store : Store := .empty
  records : List Record := []

namespace Log

def recordOf (store : Store) (time : Nat) (key : String) (limit window : Nat) : Record :=
  let checked := store.check key limit window time
  { key, limit, window, time, answer := checked.value,
    opened := .windowOpened key ∈ checked.events }

section RecordOf

variable {store : Store} {time : Nat} {key : String} {limit window : Nat}

theorem recordOf_of_live_none (limit : Nat) (hlive : store.live key time = none)
    (hfit : time + window < Instant.bound) :
    recordOf store time key limit window =
      { key, limit, window, time, answer := .ok .allowed, opened := true } := by
  simp [recordOf, check_of_live_none hlive hfit]

theorem recordOf_of_live_full (window : Nat) {counter : Counter}
    (hlive : store.live key time = some counter) (hfull : limit ≤ counter.count) :
    recordOf store time key limit window =
      { key, limit, window, time, answer := .ok (.denied (retryAfter counter time)),
        opened := false } := by
  simp [recordOf, check_of_live_full hlive hfull]

theorem recordOf_of_live_free (window : Nat) {counter : Counter}
    (hlive : store.live key time = some counter) (hfree : counter.count < limit) :
    recordOf store time key limit window =
      { key, limit, window, time, answer := .ok .allowed, opened := false } := by
  simp [recordOf, check_of_live_free hlive hfree]

end RecordOf

def next (log : Log) : Step → Log
  | .check time key limit window =>
    { store := (log.store.check key limit window time).state
      records := recordOf log.store time key limit window :: log.records }
  | .sweep time => { log with store := (log.store.sweep time).state }

section Next

variable (log : Log) (time : Nat) (key : String) (limit window : Nat)

@[simp] theorem store_next_check :
    (log.next (.check time key limit window)).store =
      (log.store.check key limit window time).state := rfl

@[simp] theorem records_next_check :
    (log.next (.check time key limit window)).records =
      recordOf log.store time key limit window :: log.records := rfl

@[simp] theorem store_next_sweep :
    (log.next (.sweep time)).store = (log.store.sweep time).state := rfl

@[simp] theorem records_next_sweep : (log.next (.sweep time)).records = log.records := rfl

theorem foldl_next_sweep (instants : List Nat) :
    (instants.map Step.sweep).foldl next log =
      { log with store := log.store.sweepEach instants } := by
  induction instants generalizing log with
  | nil => rfl
  | cons instant instants ih => exact ih (log.next (.sweep instant))

end Next

def run (steps : List Step) : Log := steps.foldl next {}

@[simp] theorem run_nil : run [] = {} := rfl

theorem run_concat (steps : List Step) (step : Step) :
    run (steps ++ [step]) = (run steps).next step := by
  simp [run]

def runFrom (store : Store) (steps : List Step) : Log := steps.foldl next { store }

theorem runFrom_concat (store : Store) (steps : List Step) (step : Step) :
    runFrom store (steps ++ [step]) = (runFrom store steps).next step := by
  simp [runFrom]

/-- A run adds its records to those that are there, which do not matter to it. -/
theorem foldl_next (log : Log) (steps : List Step) :
    steps.foldl next log =
      { store := (runFrom log.store steps).store
        records := (runFrom log.store steps).records ++ log.records } := by
  induction steps using List.reverseRecOn with
  | nil => rfl
  | append_singleton steps step ih =>
      rw [List.foldl_append, ih, runFrom_concat]
      cases step <;> rfl

theorem runFrom_cons (store : Store) (step : Step) (steps : List Step) :
    runFrom store (step :: steps) =
      { store := (runFrom (next { store } step).store steps).store
        records := (runFrom (next { store } step).store steps).records ++
          (next { store } step).records } :=
  foldl_next (next { store } step) steps

end Log

/-- No check is made before an earlier step of the run. -/
def Timely (steps : List Step) : Prop :=
  steps.Pairwise fun earlier later => later.isCheck = true → earlier.time ≤ later.time

/-- Whatever window a check of the run may open, the clock reaches its end. -/
def Fits (steps : List Step) : Prop := ∀ step ∈ steps, step.fits = true

instance (steps : List Step) : Decidable (Timely steps) :=
  inferInstanceAs (Decidable (steps.Pairwise _))

instance (steps : List Step) : Decidable (Fits steps) :=
  inferInstanceAs (Decidable (∀ step ∈ steps, _))

theorem timely_concat {steps : List Step} {step : Step} :
    Timely (steps ++ [step]) ↔
      Timely steps ∧ (step.isCheck = true → ∀ earlier ∈ steps, earlier.time ≤ step.time) := by
  simp only [Timely, List.pairwise_append, List.pairwise_singleton, List.mem_singleton,
    true_and, forall_eq, and_congr_right_iff]
  exact fun _ => ⟨fun h hcheck earlier hmem => h earlier hmem hcheck,
    fun h earlier hmem hcheck => h hcheck earlier hmem⟩

theorem fits_concat {steps : List Step} {step : Step} :
    Fits (steps ++ [step]) ↔ Fits steps ∧ step.fits = true := by
  simp [Fits, or_imp, forall_and]

/-- The records of a run are those of its checks, one each. -/
theorem runFrom_map_step (store : Store) (steps : List Step) :
    (Log.runFrom store steps).records.map Record.step = (steps.filter (·.isCheck)).reverse := by
  induction steps using List.reverseRecOn with
  | nil => rfl
  | append_singleton steps step ih =>
      rw [Log.runFrom_concat, List.filter_append, List.reverse_append, ← ih]
      cases step <;> rfl

theorem records_map_step (steps : List Step) :
    (Log.run steps).records.map Record.step = (steps.filter (·.isCheck)).reverse :=
  runFrom_map_step .empty steps

theorem step_mem_of_mem_runFrom {store : Store} {steps : List Step} {record : Record}
    (hrecord : record ∈ (Log.runFrom store steps).records) : record.step ∈ steps := by
  have hstep := List.mem_map_of_mem (f := Record.step) hrecord
  rw [runFrom_map_step, List.mem_reverse, List.mem_filter] at hstep
  exact hstep.1

theorem step_mem_of_mem_records {steps : List Step} {record : Record}
    (hrecord : record ∈ (Log.run steps).records) : record.step ∈ steps :=
  step_mem_of_mem_runFrom hrecord

theorem record_congr {left right : Store} {key : String} {now : Nat} (limit window : Nat)
    (hlive : left.live key now = right.live key now) :
    Log.recordOf left now key limit window = Log.recordOf right now key limit window := by
  obtain ⟨hvalue, hevents, -⟩ := check_congr limit window hlive
  simp only [Log.recordOf, hvalue, hevents]

/-- Other keys and sweeps do not matter to a key: its records, and its live counter from then on,
are those of the run of its checks alone. -/
theorem run_filter_isCheckOf (key : String) (steps : List Step) (htimely : Timely steps) :
    (Log.run (steps.filter (·.isCheckOf key))).records =
        (Log.run steps).records.filter (·.key == key) ∧
      ∀ now, (∀ step ∈ steps, step.time ≤ now) →
        (Log.run (steps.filter (·.isCheckOf key))).store.live key now =
          (Log.run steps).store.live key now := by
  induction steps using List.reverseRecOn with
  | nil => simp
  | append_singleton steps step ih =>
      obtain ⟨htimely, hlast⟩ := timely_concat.1 htimely
      obtain ⟨hrecords, hlive⟩ := ih htimely
      have hbefore : ∀ {now}, (∀ s ∈ steps ++ [step], s.time ≤ now) → ∀ s ∈ steps, s.time ≤ now :=
        fun hall s hs => hall s (by simp [hs])
      rw [Log.run_concat, List.filter_append]
      cases step with
      | sweep time =>
          -- Only the whole run sweeps, which does not show in the live counter.
          rw [List.filter_cons_of_neg (by simp [Step.isCheckOf]), List.filter_nil, List.append_nil]
          refine ⟨hrecords, fun now hall => ?_⟩
          have htime : time ≤ now := hall (.sweep time) (by simp)
          rw [hlive now (hbefore hall)]
          exact (live_sweep _ _ htime).symm
      | check time other limit window =>
          by_cases hkey : other = key
          · subst hkey
            -- The stores may differ, but not in the live counter, which is all that a check reads.
            have hnow := hlive time (hlast rfl)
            rw [List.filter_cons_of_pos (by simp [Step.isCheckOf]), List.filter_nil,
              Log.run_concat]
            refine ⟨?_, fun now hall => ?_⟩
            · rw [Log.records_next_check, Log.records_next_check, hrecords,
                record_congr limit window hnow, List.filter_cons_of_pos]
              simp [Log.recordOf]
            · obtain ⟨-, -, hafter⟩ := check_congr limit window hnow
              exact hafter now (hall (.check time other limit window) (by simp))
          · rw [List.filter_cons_of_neg (by simpa [Step.isCheckOf] using hkey), List.filter_nil,
              List.append_nil]
            refine ⟨?_, fun now hall => ?_⟩
            · rw [Log.records_next_check, hrecords, List.filter_cons_of_neg]
              simpa [Log.recordOf] using hkey
            · rw [hlive now (hbefore hall)]
              exact (live_check_of_ne (Ne.symm hkey) now).symm

end Store

end Throttle
