import Mathlib.Data.List.Dedup
import Mathlib.Data.List.Perm.Subperm
import Throttle.Proofs.Store.Log

/-!
# Sweeps

A sweep takes away the counters whose windows closed before it, and no others, so two sweeps do what
the later one does alone.  What a sweep leaves closes no earlier than it, and no later than a window
after some check of its key; a check opens nothing that closes before it.  Main statement: after a
run there are no more counters than keys that were checked since the longest window before the most
recent sweep.
-/

namespace Throttle

namespace Table

variable {β : Type} (table : Table β)

theorem keep_keep (p q : String → β → Bool) :
    (table.keep p).keep q = table.keep fun name value => q name value && p name value := by
  simp only [keep, List.filter_filter]

theorem size_keep_add (p : String → β → Bool) :
    (table.keep p).size + table.entries.countP (fun entry => !p entry.1 entry.2) = table.size := by
  rw [size, keep, ← List.countP_eq_length_filter, size,
    List.length_eq_countP_add_countP fun entry => p entry.1 entry.2]
  simp only [Bool.not_eq_true, Bool.decide_eq_false]

theorem exists_get?_of_mem {name : String} (hname : name ∈ table.entries.map (·.1)) :
    ∃ value, table.get? name = some value := by
  unfold get?
  generalize table.entries = entries at hname ⊢
  induction entries with
  | nil => cases hname
  | cons entry rest ih =>
      obtain ⟨key, value⟩ := entry
      by_cases hkey : key = name
      · exact ⟨value, by rw [valueAt, if_pos hkey]⟩
      · rw [valueAt, if_neg hkey]
        apply ih
        simpa [Ne.symm hkey] using hname

/-- A table whose names are among some others has at most as many entries as those are distinct. -/
theorem size_le_length_dedup {names : List String}
    (hnames : ∀ name value, table.get? name = some value → name ∈ names) :
    table.size ≤ names.dedup.length := by
  have hsubset : table.entries.map (·.1) ⊆ names.dedup := by
    intro name hname
    obtain ⟨value, hvalue⟩ := table.exists_get?_of_mem hname
    exact List.mem_dedup.2 (hnames name value hvalue)
  calc table.size = (table.entries.map (·.1)).length := (List.length_map _).symm
    _ ≤ names.dedup.length := (table.nodup.subperm hsubset).length_le

end Table

theorem Counter.hasClosed_max (counter : Counter) (first second : Nat) :
    counter.hasClosed (max first second) =
      (counter.hasClosed first || counter.hasClosed second) := by
  rw [Bool.eq_iff_iff, Bool.or_eq_true]
  simp only [Counter.hasClosed, decide_eq_true_eq]
  omega

namespace Store

/-! ## What a sweep takes away -/

section Sweep

variable (store : Store) {now : Nat}

theorem get?_sweep_eq_some_iff {store : Store} {key : String} {counter : Counter} :
    (store.sweep now).state.get? key = some counter ↔
      store.get? key = some counter ∧ now ≤ counter.resetAt := by
  rw [get?_sweep, Option.filter_eq_some_iff]
  simp [Counter.hasClosed]

theorem size_sweep_add_value (now : Nat) :
    (store.sweep now).state.size + (store.sweep now).value = store.size := by
  have hsize := store.size_keep_add fun _ counter => !counter.hasClosed now
  simp only [sweep]
  omega

theorem value_sweep (now : Nat) :
    (store.sweep now).value = store.entries.countP fun entry => entry.2.hasClosed now := by
  have hkept := store.size_keep_add fun _ counter => !counter.hasClosed now
  have hsize := store.size_sweep_add_value now
  simp only [Bool.not_not] at hkept
  simp only [sweep] at hsize ⊢
  omega

/-- Two sweeps take away what the later one would have taken alone. -/
theorem state_sweep_sweep (first second : Nat) :
    ((store.sweep first).state.sweep second).state = (store.sweep (max first second)).state := by
  simp only [sweep, Table.keep_keep]
  congr 1
  funext name counter
  rw [Counter.hasClosed_max, Bool.not_or, Bool.and_comm]

theorem value_sweep_add_value_sweep (first second : Nat) :
    (store.sweep first).value + ((store.sweep first).state.sweep second).value =
      (store.sweep (max first second)).value := by
  have hfirst := store.size_sweep_add_value first
  have hsecond := (store.sweep first).state.size_sweep_add_value second
  have hboth := store.size_sweep_add_value (max first second)
  rw [store.state_sweep_sweep] at hsecond
  omega

end Sweep

/-! ## What a run leaves -/

namespace Step

def key? : Step → Option String
  | .check _ key .. => some key
  | .sweep _ => none

def window : Step → Nat
  | .check _ _ _ window => window
  | .sweep _ => 0

def sweep? : Step → Option Nat
  | .check .. => none
  | .sweep time => some time

end Step

/-- No check asks for a longer window. -/
def WindowsWithin (longest : Nat) (steps : List Step) : Prop :=
  ∀ step ∈ steps, step.window ≤ longest

instance (longest : Nat) (steps : List Step) : Decidable (WindowsWithin longest steps) :=
  inferInstanceAs (Decidable (∀ step ∈ steps, _))

/-- The instant of the most recent sweep. -/
def lastSweep (steps : List Step) : Option Nat := (steps.filterMap Step.sweep?).getLast?

/-- Whether a step of a run is no earlier than a time before the most recent sweep, if there is
one. -/
def Step.isSince (longest : Nat) (steps : List Step) (step : Step) : Bool :=
  (lastSweep steps).all fun swept => swept ≤ step.time + longest

/-- The keys that a run has checked since a time before its most recent sweep. -/
def keysSince (longest : Nat) (steps : List Step) : List String :=
  (steps.filter (·.isSince longest steps)).filterMap Step.key?

section Run

variable {steps : List Step} {longest : Nat}

theorem lastSweep_concat_check (steps : List Step) (time : Nat) (key : String)
    (limit window : Nat) :
    lastSweep (steps ++ [.check time key limit window]) = lastSweep steps := by
  simp [lastSweep, Step.sweep?]

theorem lastSweep_concat_sweep (steps : List Step) (time : Nat) :
    lastSweep (steps ++ [.sweep time]) = some time := by
  simp [lastSweep, Step.sweep?]

theorem exists_of_mem_lastSweep {swept : Nat} (hswept : swept ∈ lastSweep steps) :
    ∃ step ∈ steps, step.time = swept := by
  have hmem := List.mem_of_getLast? hswept
  obtain ⟨step, hstep, htime⟩ := List.mem_filterMap.1 hmem
  cases step with
  | check => cases htime
  | sweep time => exact ⟨_, hstep, Option.some.inj htime⟩

/-- Every counter of a run closes at the last sweep or later, and no later than the longest window
after some check of its key. -/
theorem exists_check_of_get?_run (steps : List Step) (htimely : Timely steps)
    (hwithin : WindowsWithin longest steps) (name : String) (counter : Counter)
    (hget : (Log.run steps).store.get? name = some counter) :
    (∀ swept ∈ lastSweep steps, swept ≤ counter.resetAt) ∧
      ∃ step ∈ steps, step.key? = some name ∧ counter.resetAt ≤ step.time + longest := by
  induction steps using List.reverseRecOn generalizing counter with
  | nil => cases hget
  | append_singleton steps last ih =>
      obtain ⟨hbefore, hlast⟩ := timely_concat.1 htimely
      have hearlier := ih hbefore fun step hstep => hwithin step (List.mem_append_left _ hstep)
      rw [Log.run_concat] at hget
      cases last with
      | sweep time =>
          rw [Log.store_next_sweep, get?_sweep_eq_some_iff] at hget
          obtain ⟨-, step, hstep, hkey, hcloses⟩ := hearlier counter hget.1
          rw [lastSweep_concat_sweep]
          refine ⟨?_, step, List.mem_append_left _ hstep, hkey, hcloses⟩
          rintro swept ⟨⟩
          exact hget.2
      | check time key limit window =>
          rw [Log.store_next_check] at hget
          rw [lastSweep_concat_check]
          rcases resetAt_of_get?_check hget with ⟨before, hold, hsame⟩ | ⟨hname, hfrom, hto⟩
          · obtain ⟨hswept, step, hstep, hkey, hcloses⟩ := hearlier before hold
            rw [hsame] at hswept hcloses
            exact ⟨hswept, step, List.mem_append_left _ hstep, hkey, hcloses⟩
          · subst hname
            refine ⟨fun swept hswept => ?_, _, List.mem_append_right _ (List.mem_singleton.2 rfl),
              rfl, ?_⟩
            · obtain ⟨step, hstep, rfl⟩ := exists_of_mem_lastSweep hswept
              exact Nat.le_trans (hlast rfl step hstep) hfrom
            · have hwindow : window ≤ longest :=
                hwithin (.check time name limit window) (by simp)
              show counter.resetAt ≤ time + longest
              omega

theorem size_run_le (htimely : Timely steps) (hwithin : WindowsWithin longest steps) :
    (Log.run steps).store.size ≤ (keysSince longest steps).dedup.length := by
  apply Table.size_le_length_dedup
  intro name counter hget
  obtain ⟨hswept, step, hstep, hkey, hcloses⟩ :=
    exists_check_of_get?_run steps htimely hwithin name counter hget
  refine List.mem_filterMap.2 ⟨step, List.mem_filter.2 ⟨hstep, ?_⟩, hkey⟩
  rw [Step.isSince, Option.all_eq_true]
  exact fun swept hmem => decide_eq_true (Nat.le_trans (hswept swept hmem) hcloses)

end Run

/-- A sweep takes away exactly the counters whose windows closed before it, and says how many those
were.  Two sweeps do what the later one does alone: if it comes second, they share its work between
them, and if it comes first, the other one finds nothing.  So a run never holds more counters than
it has checked keys since a time before its most recent sweep, if no window takes longer than that
time. -/
theorem sweeps_bound_memory :
    (∀ (store : Store) (now : Nat),
      (∀ key counter, (store.sweep now).state.get? key = some counter ↔
        store.get? key = some counter ∧ now ≤ counter.resetAt) ∧
      (store.sweep now).state.size + (store.sweep now).value = store.size ∧
      (store.sweep now).value = store.entries.countP fun entry => entry.2.resetAt < now) ∧
    (∀ (store : Store) (earlier later : Nat), earlier ≤ later →
      ((store.sweep earlier).state.sweep later).state = (store.sweep later).state ∧
      (store.sweep earlier).value + ((store.sweep earlier).state.sweep later).value =
        (store.sweep later).value ∧
      ((store.sweep later).state.sweep earlier).state = (store.sweep later).state ∧
      ((store.sweep later).state.sweep earlier).value = 0) ∧
    ∀ (longest : Nat) (steps : List Step), Timely steps → WindowsWithin longest steps →
      (Log.run steps).store.size ≤ (keysSince longest steps).dedup.length := by
  refine ⟨fun store now => ⟨fun key counter => get?_sweep_eq_some_iff,
    store.size_sweep_add_value now, store.value_sweep now⟩, fun store earlier later hle => ?_,
    fun longest steps htimely hwithin => size_run_le htimely hwithin⟩
  have hforth := store.value_sweep_add_value_sweep earlier later
  have hback := store.value_sweep_add_value_sweep later earlier
  rw [Nat.max_eq_right hle] at hforth
  rw [Nat.max_eq_left hle] at hback
  refine ⟨?_, hforth, ?_, by omega⟩
  · rw [state_sweep_sweep, Nat.max_eq_right hle]
  · rw [state_sweep_sweep, Nat.max_eq_left hle]

/-- The counter of `a` closes one instant before the sweep and is taken away, that of `b` closes at
the sweep and stays. -/
theorem sweeps_bound_memory_at_closing :
    let steps : List Step :=
      [.check 0 "a" 1 10, .check 1 "b" 1 10, .check 2 "c" 1 3, .sweep 11, .check 12 "a" 1 4,
        .check 12 "d" 1 2]
    let store := (Log.run steps).store
    Timely steps ∧ WindowsWithin 10 steps ∧ store.size = 3 ∧
      (keysSince 10 steps).dedup = ["b", "c", "a", "d"] ∧
      store.size ≤ (keysSince 10 steps).dedup.length ∧
      12 ≤ 16 ∧ (store.sweep 12).value = 1 ∧ ((store.sweep 12).state.sweep 16).value = 1 ∧
      (store.sweep 12).value + ((store.sweep 12).state.sweep 16).value =
        (store.sweep 16).value := by
  intro steps store
  have htimely : Timely steps := by decide
  have hwithin : WindowsWithin 10 steps := by decide
  exact ⟨htimely, hwithin, by decide, by decide, sweeps_bound_memory.2.2 10 steps htimely hwithin,
    by decide, by decide, by decide, (sweeps_bound_memory.2.1 store 12 16 (by decide)).2.1⟩

end Store

end Throttle
