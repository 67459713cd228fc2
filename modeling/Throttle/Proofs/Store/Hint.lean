import Mathlib.Algebra.Group.Nat.Defs
import Mathlib.Algebra.Order.Floor.Div
import Throttle.Proofs.Store.Log

/-!
# The wait of a denied request

A denied request is told to wait for what is left of the window of its key: the least number of
seconds that covers it, and one at the least.  A store rounds what is left down to milliseconds
before it rounds that up to seconds.  It so drops up to a millisecond, which is one second too few
exactly if a second or more is left and nothing but that part of a millisecond goes beyond the whole
seconds.  Main statement: after any run of a store, a denial gives the exact wait but for this case,
in which it gives one second less.
-/

namespace Throttle

namespace Duration

/-- The least number of seconds that covers a duration. -/
def cover (d : Nat) : Nat := d ⌈/⌉ ofSecs 1

theorem cover_le_iff {d secs : Nat} : cover d ≤ secs ↔ d ≤ ofSecs secs := by
  have hsecond : 0 < ofSecs 1 := by decide
  rw [cover, ceilDiv_le_iff_le_mul hsecond, ofSecs, ofSecs, Nat.one_mul, Nat.mul_comm]

theorem cover_eq (d : Nat) : cover d = (d + 999999999) / 1000000000 := by
  rw [cover, Nat.ceilDiv_eq_add_pred_div, ofSecs, Nat.one_mul, Nat.add_sub_assoc (by decide)]

/-- Whether a duration goes beyond its whole seconds, of which there is one at least, but by less
than a millisecond. -/
def HasSliver (d : Nat) : Prop :=
  ofSecs 1 < d ∧ 0 < d % ofSecs 1 ∧ d % ofSecs 1 < ofMillis 1

instance (d : Nat) : Decidable (HasSliver d) := inferInstanceAs (Decidable (_ ∧ _ ∧ _))

theorem hasSliver_iff {d : Nat} :
    HasSliver d ↔
      1000000000 < d ∧ 0 < d % 1000000000 ∧ d % 1000000000 < 1000000 := Iff.rfl

theorem secsUp_le {d secs : Nat} (hle : d ≤ ofSecs secs) : secsUp d ≤ secs := by
  unfold ofSecs at hle
  unfold secsUp millis
  omega

theorem max_secsUp_add (d : Nat) :
    max 1 (secsUp d) + (if HasSliver d then 1 else 0) = max 1 (cover d) := by
  rw [cover_eq, secsUp, millis]
  split
  · next hsliver =>
    rw [hasSliver_iff] at hsliver
    omega
  · next hwhole =>
    rw [hasSliver_iff] at hwhole
    omega

end Duration

namespace Store

/-! ## The answer of a check -/

theorem one_le_retryAfter (counter : Counter) (now : Nat) : 1 ≤ retryAfter counter now :=
  Nat.le_max_left _ _

theorem retryAfter_le {counter : Counter} {now secs : Nat} (hsecs : 1 ≤ secs)
    (hcloses : counter.resetAt ≤ now + Duration.ofSecs secs) : retryAfter counter now ≤ secs := by
  have hleft : counter.resetAt - now ≤ Duration.ofSecs secs := by omega
  exact Nat.max_le.2 ⟨hsecs, Duration.secsUp_le hleft⟩

theorem retryAfter_lt {counter : Counter} (hcloses : counter.resetAt < Instant.bound) (now : Nat) :
    retryAfter counter now < 2 ^ 64 := by
  have hle : counter.resetAt ≤ now + Duration.ofSecs (2 ^ 63 - 1) := by
    have hbound : Instant.bound = Duration.ofSecs (2 ^ 63 - 1) := rfl
    omega
  have hseconds := retryAfter_le (by decide) hle
  omega

section Check

variable {store : Store} {key : String} {limit window now seconds : Nat}

theorem live_of_check_denied
    (hdenied : (store.check key limit window now).value = .ok (.denied seconds)) :
    ∃ counter, store.live key now = some counter ∧ limit ≤ counter.count ∧
      seconds = retryAfter counter now := by
  rcases check_cases store key limit window now with
    ⟨-, -, h⟩ | ⟨-, -, h⟩ | ⟨counter, hlive, hfull, h⟩ | ⟨counter, -, -, h⟩ <;> rw [h] at hdenied
  · cases hdenied
  · cases hdenied
  · injection hdenied with hseconds
    injection hseconds with hseconds
    exact ⟨counter, hlive, hfull, hseconds.symm⟩
  · cases hdenied

theorem check_ne_unavailable :
    (store.check key limit window now).value ≠ .ok (.unavailable seconds) := by
  rcases check_cases store key limit window now with
    ⟨-, -, h⟩ | ⟨-, -, h⟩ | ⟨counter, -, -, h⟩ | ⟨counter, -, -, h⟩ <;> rw [h] <;> simp

end Check

/-! ## What all counters have in common -/

/-- All counters of a store have a property. -/
def Each (p : Counter → Prop) (store : Store) : Prop :=
  ∀ name counter, store.get? name = some counter → p counter

section Each

variable {p : Counter → Prop} {store : Store} {limit window now : Nat}

theorem Each.put (heach : store.Each p) {key : String} {counter : Counter} (hcounter : p counter) :
    Each p (store.put key counter) := by
  intro name other hother
  rw [Table.get?_put] at hother
  split at hother
  · obtain rfl := Option.some.inj hother
    exact hcounter
  · exact heach name other hother

/-- A check opens a window, counts a request in one that is open, or puts back what it found. -/
theorem Each.check (heach : store.Each p) (key : String) (hempty : p ⟨0, now⟩)
    (hopened : now + window < Instant.bound → p ⟨1, now + window⟩)
    (hcounted : ∀ counter, p counter → counter.isLive now = true → counter.count < limit →
      p ⟨counter.count + 1, counter.resetAt⟩) :
    Each p (store.check key limit window now).state := by
  rcases check_cases store key limit window now with
    ⟨-, hfits, h⟩ | ⟨-, -, h⟩ | ⟨counter, -, -, h⟩ | ⟨counter, hlive, hfree, h⟩ <;> rw [h]
  · exact heach.put (hopened hfits)
  · unfold counterOf
    cases hget : store.get? key with
    | none => exact heach.put hempty
    | some counter => exact heach.put (heach key counter hget)
  · exact heach
  · obtain ⟨hget, hlive⟩ := live_eq_some_iff.1 hlive
    exact heach.put (hcounted counter (heach key counter hget) hlive hfree)

theorem Each.sweepEach (heach : store.Each p) (instants : List Nat) :
    Each p (store.sweepEach instants) :=
  fun name counter hcounter => heach name counter (get?_of_sweepEach hcounter)

end Each

/-- Windows that were opened end within the clock. -/
theorem withinClock_run (steps : List Step) :
    (Log.run steps).store.Each fun counter =>
      0 < counter.count → counter.resetAt < Instant.bound := by
  induction steps using List.reverseRecOn with
  | nil => exact fun name counter hcounter => nomatch hcounter
  | append_singleton steps last ih =>
      rw [Log.run_concat]
      cases last with
      | check time key limit window =>
          refine ih.check key ?_ ?_ ?_
          · exact fun hpos => absurd hpos (Nat.lt_irrefl 0)
          · exact fun hfits _ => hfits
          · exact fun counter hcounter hlive _ _ => hcounter (Counter.isLive_iff.1 hlive).1
      | sweep time => exact ih.sweepEach [time]

/-! ## The exact wait -/

/-- After any run of a store, a check is denied because of a counter whose window is still open.  It
tells its request to wait for the exact number of seconds that covers what is left of that window,
and for one at the least, unless a sliver is left, when it says one second less. -/
theorem denied_exact_unless_sliver (steps : List Step) (key : String)
    (limit window now seconds : Nat)
    (hdenied : ((Log.run steps).store.check key limit window now).value = .ok (.denied seconds)) :
    ∃ counter, (Log.run steps).store.get? key = some counter ∧ now ≤ counter.resetAt ∧
      seconds < 2 ^ 64 ∧
        seconds + (if Duration.HasSliver (counter.resetAt - now) then 1 else 0) =
          max 1 (Duration.cover (counter.resetAt - now)) := by
  obtain ⟨counter, hlive, -, rfl⟩ := live_of_check_denied hdenied
  obtain ⟨hget, hlive⟩ := live_eq_some_iff.1 hlive
  obtain ⟨hpos, hopen⟩ := Counter.isLive_iff.1 hlive
  have hcloses := withinClock_run steps key counter hget hpos
  exact ⟨counter, hget, hopen, retryAfter_lt hcloses now, Duration.max_secsUp_add _⟩

/-- One nanosecond decides between the exact wait and one that is a second too short. -/
theorem denied_exact_unless_sliver_at_a_millisecond :
    let window := Duration.ofSecs 2 + Duration.ofMillis 1
    let store := (Log.run [.check 0 "k" 1 window, .sweep 0]).store
    ((store.check "k" 1 window 0).value = .ok (.denied 3) ∧
      ∃ counter, store.get? "k" = some counter ∧ 0 ≤ counter.resetAt ∧ 3 < 2 ^ 64 ∧
        3 + (if Duration.HasSliver (counter.resetAt - 0) then 1 else 0) =
          max 1 (Duration.cover (counter.resetAt - 0))) ∧
      (store.check "k" 1 window 1).value = .ok (.denied 2) ∧
        ∃ counter, store.get? "k" = some counter ∧ 1 ≤ counter.resetAt ∧ 2 < 2 ^ 64 ∧
          2 + (if Duration.HasSliver (counter.resetAt - 1) then 1 else 0) =
            max 1 (Duration.cover (counter.resetAt - 1)) := by
  intro window store
  have hwhole : (store.check "k" 1 window 0).value = .ok (.denied 3) := by decide +kernel
  have hsliver : (store.check "k" 1 window 1).value = .ok (.denied 2) := by decide +kernel
  exact ⟨⟨hwhole, denied_exact_unless_sliver _ "k" 1 window 0 3 hwhole⟩, hsliver,
    denied_exact_unless_sliver _ "k" 1 window 1 2 hsliver⟩

/-- Half a millisecond beyond two seconds is left of a window, and its key is told to wait for two,
where three are needed to cover it. -/
theorem denied_too_short :
    let window := Duration.ofSecs 2 + Duration.ofMicros 500
    let store := (Log.run [.check 0 "k" 1 window]).store
    (store.check "k" 1 window 0).value = .ok (.denied 2) ∧
      store.get? "k" = some ⟨1, window⟩ ∧ max 1 (Duration.cover (window - 0)) = 3 := by
  decide +kernel

end Store

end Throttle
