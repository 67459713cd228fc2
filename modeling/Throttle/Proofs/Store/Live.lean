import Throttle.Store

/-!
# The live counter of a key

A check looks at the counter of its key only if that has counted something and its window has not
closed; any other counter is as good as none.  This module gives that view of a store a small
interface: what a check answers and what it leaves of the live counter of its key, and that neither
checks of other keys nor sweeps show in it.
-/

namespace Throttle

/-- Whether a counter still counts at an instant. -/
def Counter.isLive (counter : Counter) (now : Nat) : Bool :=
  counter.count != 0 && !counter.hasClosed now

theorem Counter.isLive_iff {counter : Counter} {now : Nat} :
    counter.isLive now = true ↔ 0 < counter.count ∧ now ≤ counter.resetAt := by
  simp [isLive, hasClosed, Nat.pos_iff_ne_zero]

theorem Counter.isLive_of_le {counter : Counter} {now later : Nat} (hle : now ≤ later)
    (hlive : counter.isLive later = true) : counter.isLive now = true := by
  rw [isLive_iff] at hlive ⊢
  omega

namespace Store

/-- The counter of a key in the window that is open at `now`, if there is one. -/
def live (store : Store) (key : String) (now : Nat) : Option Counter :=
  (store.get? key).filter (·.isLive now)

theorem live_eq_some_iff {store : Store} {key : String} {now : Nat} {counter : Counter} :
    store.live key now = some counter ↔
      store.get? key = some counter ∧ counter.isLive now = true := by
  simp [live, Option.filter_eq_some_iff]

theorem live_eq_none_iff {store : Store} {key : String} {now : Nat} :
    store.live key now = none ↔
      ∀ counter, store.get? key = some counter → counter.isLive now = false := by
  simp [live, Option.filter_eq_none_iff]

@[simp] theorem live_empty (key : String) (now : Nat) :
    live Table.empty key now = none := rfl

/-- What is live later was live before, so the live counter at one instant fixes all later ones. -/
theorem filter_live {store : Store} {key : String} {now later : Nat} (hle : now ≤ later) :
    (store.live key now).filter (·.isLive later) = store.live key later := by
  rw [live, live, Option.filter_filter]
  congr 1
  funext counter
  cases hlive : counter.isLive later with
  | false => simp
  | true => simp [Counter.isLive_of_le hle hlive]

/-! ## Checks -/

section Check

variable {store : Store} {key : String} {limit window now : Nat}

theorem counterOf_of_live {counter : Counter} (hlive : store.live key now = some counter) :
    store.counterOf key now = counter := by
  rw [live_eq_some_iff] at hlive
  simp [counterOf, hlive.1]

theorem not_isLive_counterOf (hlive : store.live key now = none) :
    (store.counterOf key now).isLive now = false := by
  rw [live_eq_none_iff] at hlive
  unfold counterOf
  cases hget : store.get? key with
  | none => rfl
  | some counter => exact hlive counter hget

/-- The test that a check makes of its counter is whether it is not live. -/
theorem opens_iff (counter : Counter) :
    (counter.count = 0 ∨ counter.hasClosed now = true) ↔ counter.isLive now = false := by
  rw [← Bool.not_eq_true, Counter.isLive_iff]
  simp only [Counter.hasClosed, decide_eq_true_eq]
  omega

theorem check_of_live_none (hlive : store.live key now = none)
    (hfit : now + window < Instant.bound) :
    store.check key limit window now =
      { state := store.put key ⟨1, now + window⟩
        value := .ok .allowed
        events := [.windowOpened key] } := by
  have hopens := (opens_iff _).2 (not_isLive_counterOf hlive)
  simp only [check, if_pos hopens, Instant.add?, if_pos hfit]

theorem check_of_live_none_of_bound_le (hlive : store.live key now = none)
    (hfit : Instant.bound ≤ now + window) :
    store.check key limit window now =
      { state := store.put key (store.counterOf key now)
        value := .error .clockEnd
        events := [.windowOpened key] } := by
  have hopens := (opens_iff _).2 (not_isLive_counterOf hlive)
  simp only [check, if_pos hopens, Instant.add?, if_neg (Nat.not_lt.2 hfit)]

theorem check_of_live_full {counter : Counter} (hlive : store.live key now = some counter)
    (hfull : limit ≤ counter.count) :
    store.check key limit window now =
      { state := store
        value := .ok (.denied (retryAfter counter now))
        events := [.localLimitExceeded key counter.count limit (retryAfter counter now)] } := by
  have hopens : ¬ (counter.count = 0 ∨ counter.hasClosed now = true) := by
    rw [opens_iff, (live_eq_some_iff.1 hlive).2]
    simp
  simp only [check, counterOf_of_live hlive, if_neg hopens, if_pos hfull]

theorem check_of_live_free {counter : Counter} (hlive : store.live key now = some counter)
    (hfree : counter.count < limit) :
    store.check key limit window now =
      { state := store.put key ⟨counter.count + 1, counter.resetAt⟩, value := .ok .allowed } := by
  have hopens : ¬ (counter.count = 0 ∨ counter.hasClosed now = true) := by
    rw [opens_iff, (live_eq_some_iff.1 hlive).2]
    simp
  simp only [check, counterOf_of_live hlive, if_neg hopens, if_neg (Nat.not_le.2 hfree)]

/-- Everything a check can do: open a window, run past the end of the clock, deny, or count. -/
theorem check_cases (store : Store) (key : String) (limit window now : Nat) :
    (store.live key now = none ∧ now + window < Instant.bound ∧
      store.check key limit window now =
        { state := store.put key ⟨1, now + window⟩
          value := .ok .allowed
          events := [.windowOpened key] }) ∨
    (store.live key now = none ∧ Instant.bound ≤ now + window ∧
      store.check key limit window now =
        { state := store.put key (store.counterOf key now)
          value := .error .clockEnd
          events := [.windowOpened key] }) ∨
    (∃ counter, store.live key now = some counter ∧ limit ≤ counter.count ∧
      store.check key limit window now =
        { state := store
          value := .ok (.denied (retryAfter counter now))
          events := [.localLimitExceeded key counter.count limit (retryAfter counter now)] }) ∨
    (∃ counter, store.live key now = some counter ∧ counter.count < limit ∧
      store.check key limit window now =
        { state := store.put key ⟨counter.count + 1, counter.resetAt⟩
          value := .ok .allowed }) := by
  cases hlive : store.live key now with
  | none =>
      rcases Nat.lt_or_ge (now + window) Instant.bound with hfit | hfit
      · exact .inl ⟨rfl, hfit, check_of_live_none hlive hfit⟩
      · exact .inr (.inl ⟨rfl, hfit, check_of_live_none_of_bound_le hlive hfit⟩)
  | some counter =>
      rcases Nat.lt_or_ge counter.count limit with hfree | hfull
      · exact .inr (.inr (.inr ⟨counter, rfl, hfree, check_of_live_free hlive hfree⟩))
      · exact .inr (.inr (.inl ⟨counter, rfl, hfull, check_of_live_full hlive hfull⟩))

theorem get?_check_of_ne {other : String} (hne : other ≠ key) :
    (store.check key limit window now).state.get? other = store.get? other := by
  rcases check_cases store key limit window now with
    ⟨-, -, h⟩ | ⟨-, -, h⟩ | ⟨counter, -, -, h⟩ | ⟨counter, -, -, h⟩
  · rw [h, Table.get?_put_of_ne store _ hne]
  · rw [h, Table.get?_put_of_ne store _ hne]
  · rw [h]
  · rw [h, Table.get?_put_of_ne store _ hne]

theorem live_check_of_ne {other : String} (hne : other ≠ key) (later : Nat) :
    (store.check key limit window now).state.live other later = store.live other later := by
  rw [live, live, get?_check_of_ne hne]

/-- A check leaves the end of every window where it was, except that it may set that of its own key,
to an instant from now to the end of a window that opens now. -/
theorem resetAt_of_get?_check {name : String} {counter : Counter}
    (hget : (store.check key limit window now).state.get? name = some counter) :
    (∃ before, store.get? name = some before ∧ before.resetAt = counter.resetAt) ∨
      (name = key ∧ now ≤ counter.resetAt ∧ counter.resetAt ≤ now + window) := by
  by_cases hname : name = key
  · subst hname
    rcases check_cases store name limit window now with
      ⟨-, -, h⟩ | ⟨-, -, h⟩ | ⟨current, -, -, h⟩ | ⟨current, hlive, -, h⟩ <;> rw [h] at hget
    · rw [Table.get?_put_self] at hget
      obtain rfl := Option.some.inj hget
      exact .inr ⟨rfl, Nat.le_add_right _ _, Nat.le_refl _⟩
    · -- The counter is put back as it was, or as one that closes now.
      rw [Table.get?_put_self] at hget
      obtain rfl := Option.some.inj hget
      unfold counterOf
      cases hbefore : store.get? name with
      | none => exact .inr ⟨rfl, Nat.le_refl _, Nat.le_add_right _ _⟩
      | some before => exact .inl ⟨before, rfl, rfl⟩
    · exact .inl ⟨counter, hget, rfl⟩
    · rw [Table.get?_put_self] at hget
      obtain rfl := Option.some.inj hget
      exact .inl ⟨current, (live_eq_some_iff.1 hlive).1, rfl⟩
  · rw [get?_check_of_ne hname] at hget
    exact .inl ⟨counter, hget, rfl⟩

/-- The counter that a check leaves of its key, if the clock reaches the end of a new window. -/
def counterAfter (limit window now : Nat) : Option Counter → Counter
  | none => ⟨1, now + window⟩
  | some counter =>
      if counter.count < limit then ⟨counter.count + 1, counter.resetAt⟩ else counter

theorem counterAfter_count_pos (limit window now : Nat) {before : Option Counter}
    (hbefore : ∀ counter, before = some counter → 0 < counter.count) :
    0 < (counterAfter limit window now before).count := by
  cases before with
  | none => exact Nat.one_pos
  | some counter =>
      have hpos := hbefore counter rfl
      simp only [counterAfter]
      split
      · exact Nat.succ_pos _
      · exact hpos

theorem resetAt_counterAfter (limit window now : Nat) (counter : Counter) :
    (counterAfter limit window now (some counter)).resetAt = counter.resetAt := by
  rw [counterAfter]
  split <;> rfl

theorem get?_check_of_live (limit window : Nat) {counter : Counter}
    (hlive : store.live key now = some counter) :
    (store.check key limit window now).state.get? key =
      some (counterAfter limit window now (some counter)) := by
  rcases Nat.lt_or_ge counter.count limit with hfree | hfull
  · rw [check_of_live_free hlive hfree, Table.get?_put_self, counterAfter, if_pos hfree]
  · rw [check_of_live_full hlive hfull, counterAfter, if_neg (Nat.not_lt.2 hfull)]
    exact (live_eq_some_iff.1 hlive).1

theorem get?_check_self (hfit : now + window < Instant.bound) :
    (store.check key limit window now).state.get? key =
      some (counterAfter limit window now (store.live key now)) := by
  cases hlive : store.live key now with
  | none => rw [check_of_live_none hlive hfit, Table.get?_put_self, counterAfter]
  | some counter => exact get?_check_of_live limit window hlive

theorem live_put_self (counter : Counter) (later : Nat) :
    live (store.put key counter) key later = (some counter).filter (·.isLive later) := by
  rw [live, Table.get?_put_self]

/-- A counter that is put back because the clock has ended is not live afterwards either. -/
theorem live_put_counterOf {later : Nat} (hlive : store.live key now = none) (hle : now ≤ later) :
    live (store.put key (store.counterOf key now)) key later = none := by
  have hnow := not_isLive_counterOf hlive
  rw [live_put_self, Option.filter_eq_none_iff]
  intro counter hcounter hlater
  cases hcounter
  rw [Counter.isLive_of_le hle hlater] at hnow
  cases hnow

/-- Stores with the same live counter of a key cannot be told apart by a check of it, nor after. -/
theorem check_congr (limit window : Nat) {left right : Store}
    (hlive : left.live key now = right.live key now) :
    (left.check key limit window now).value = (right.check key limit window now).value ∧
      (left.check key limit window now).events = (right.check key limit window now).events ∧
      ∀ later, now ≤ later →
        (left.check key limit window now).state.live key later =
          (right.check key limit window now).state.live key later := by
  cases hright : right.live key now with
  | none =>
      have hleft := hlive.trans hright
      rcases Nat.lt_or_ge (now + window) Instant.bound with hfit | hfit
      · rw [check_of_live_none hleft hfit, check_of_live_none hright hfit]
        refine ⟨rfl, rfl, fun later _ => ?_⟩
        rw [live_put_self, live_put_self]
      · rw [check_of_live_none_of_bound_le hleft hfit, check_of_live_none_of_bound_le hright hfit]
        refine ⟨rfl, rfl, fun later hle => ?_⟩
        rw [live_put_counterOf hleft hle, live_put_counterOf hright hle]
  | some counter =>
      have hleft := hlive.trans hright
      rcases Nat.lt_or_ge counter.count limit with hfree | hfull
      · rw [check_of_live_free hleft hfree, check_of_live_free hright hfree]
        refine ⟨rfl, rfl, fun later _ => ?_⟩
        rw [live_put_self, live_put_self]
      · rw [check_of_live_full hleft hfull, check_of_live_full hright hfull]
        refine ⟨rfl, rfl, fun later hle => ?_⟩
        rw [← filter_live hle, ← filter_live hle, hlive]

end Check

/-! ## Sweeps -/

theorem get?_sweep (store : Store) (key : String) (now : Nat) :
    (store.sweep now).state.get? key = (store.get? key).filter (!·.hasClosed now) :=
  Table.get?_keep store _ key

/-- A sweep removes no counter that still counts at the time, or later. -/
theorem live_sweep (store : Store) (key : String) {now later : Nat} (hle : now ≤ later) :
    (store.sweep now).state.live key later = store.live key later := by
  rw [live, live, get?_sweep, Option.filter_filter]
  congr 1
  funext counter
  cases hlive : counter.isLive later with
  | false => simp
  | true =>
      rw [Counter.isLive_iff] at hlive
      simp only [Counter.hasClosed, Bool.and_true, Bool.not_eq_true', decide_eq_false_iff_not]
      omega

end Store

end Throttle
