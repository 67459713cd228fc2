import Throttle.Proofs.Store.Log

/-!
# What a store remembers

The store keeps one counter per key and forgets it on a sweep.  This module says what that amounts
to in terms of the history of a run: which check opened the last window of a key, and how many were
let through since.  Main statement: history alone decides every check, and a counter that is there
is the one that history implies.
-/

namespace Throttle.Store

def Record.opens (key : String) (record : Record) : Bool :=
  record.key == key && record.opened

def Record.isAllowedOf (key : String) (record : Record) : Bool :=
  record.key == key && isAllowed record.answer

/-- The check that opened the last window of a key. -/
def lastOpening (key : String) (records : List Record) : Option Record :=
  records.find? (·.opens key)

/-- The checks of a key from its last opening on; all of them if there was none. -/
def sinceOpening (key : String) : List Record → List Record
  | [] => []
  | record :: earlier =>
      if record.opens key then [record]
      else if record.key = key then record :: sinceOpening key earlier
      else sinceOpening key earlier

/-- How many checks of a key were let through since its last opening, that one included. -/
def admitted (key : String) (records : List Record) : Nat :=
  (sinceOpening key records).countP fun record => isAllowed record.answer

/-- The counter of a key that history implies. -/
def impliedCounter (key : String) (records : List Record) : Option Counter :=
  (lastOpening key records).map fun opening =>
    ⟨admitted key records, opening.time + opening.window⟩

section Cons

variable {key : String} {record : Record} {records : List Record}

theorem opens_of_ne (hkey : record.key ≠ key) : record.opens key = false := by
  simp [Record.opens, hkey]

theorem opens_of_not_opened (hopened : record.opened = false) : record.opens key = false := by
  simp [Record.opens, hopened]

theorem isAllowedOf_iff :
    record.isAllowedOf key = true ↔ record.key = key ∧ record.answer = .ok .allowed := by
  simp [Record.isAllowedOf, isAllowed_iff]

theorem key_eq_of_opens (hopens : record.opens key = true) : record.key = key := by
  simp only [Record.opens, Bool.and_eq_true, beq_iff_eq] at hopens
  exact hopens.1

theorem lastOpening_cons_of_opens (hopens : record.opens key = true) :
    lastOpening key (record :: records) = some record := by
  simp [lastOpening, hopens]

theorem lastOpening_cons_of_not_opens (hopens : record.opens key = false) :
    lastOpening key (record :: records) = lastOpening key records := by
  simp [lastOpening, hopens]

theorem admitted_cons_of_opens (hopens : record.opens key = true) :
    admitted key (record :: records) = if record.isAllowedOf key then 1 else 0 := by
  simp [admitted, sinceOpening, hopens, Record.isAllowedOf, key_eq_of_opens hopens,
    List.countP_cons]

theorem admitted_cons_of_not_opens (hopens : record.opens key = false) :
    admitted key (record :: records) =
      admitted key records + if record.isAllowedOf key then 1 else 0 := by
  by_cases hkey : record.key = key
  · simp [admitted, sinceOpening, hopens, Record.isAllowedOf, hkey, List.countP_cons]
  · simp [admitted, sinceOpening, hopens, Record.isAllowedOf, hkey]

theorem impliedCounter_cons_of_opens (hopens : record.opens key = true)
    (hallowed : record.isAllowedOf key = true) :
    impliedCounter key (record :: records) = some ⟨1, record.time + record.window⟩ := by
  rw [impliedCounter, lastOpening_cons_of_opens hopens, admitted_cons_of_opens hopens,
    if_pos hallowed, Option.map_some]

theorem impliedCounter_cons_of_counts (hopens : record.opens key = false)
    (hallowed : record.isAllowedOf key = true) {counter : Counter}
    (hcurrent : impliedCounter key records = some counter) :
    impliedCounter key (record :: records) = some ⟨counter.count + 1, counter.resetAt⟩ := by
  rw [impliedCounter, Option.map_eq_some_iff] at hcurrent
  obtain ⟨opening, hopening, rfl⟩ := hcurrent
  rw [impliedCounter, lastOpening_cons_of_not_opens hopens, hopening,
    admitted_cons_of_not_opens hopens, if_pos hallowed, Option.map_some]

/-- A check of another key, or one that is not let through, changes nothing. -/
theorem impliedCounter_cons_of_not (hopens : record.opens key = false)
    (hallowed : record.isAllowedOf key = false) :
    impliedCounter key (record :: records) = impliedCounter key records := by
  simp [impliedCounter, lastOpening_cons_of_not_opens hopens, admitted_cons_of_not_opens hopens,
    hallowed]

end Cons

section Reflects

variable {log : Log} {key : String}

/-- A store agrees with the history of a key: a counter that it holds is the implied one, which has
counted something. -/
structure Reflects (log : Log) (key : String) : Prop where
  entry : ∀ counter, log.store.get? key = some counter →
    impliedCounter key log.records = some counter
  count_pos : ∀ counter, impliedCounter key log.records = some counter → 0 < counter.count

theorem Reflects.live (hreflects : Reflects log key) {now : Nat} {counter : Counter}
    (hlive : log.store.live key now = some counter) :
    impliedCounter key log.records = some counter :=
  hreflects.entry counter (live_eq_some_iff.1 hlive).1

/-- History and store move alike when a key is checked. -/
theorem impliedCounter_next (hreflects : Reflects log key) {time : Nat} (limit : Nat)
    {window : Nat} (hfit : time + window < Instant.bound) :
    impliedCounter key (log.next (.check time key limit window)).records =
      some (counterAfter limit window time (log.store.live key time)) := by
  rw [Log.records_next_check]
  cases hlive : log.store.live key time with
  | none =>
      rw [Log.recordOf_of_live_none limit hlive hfit, counterAfter]
      exact impliedCounter_cons_of_opens (by simp [Record.opens]) (isAllowedOf_iff.2 ⟨rfl, rfl⟩)
  | some counter =>
      have hcurrent := hreflects.live hlive
      rcases Nat.lt_or_ge counter.count limit with hfree | hfull
      · rw [Log.recordOf_of_live_free window hlive hfree, counterAfter, if_pos hfree]
        exact impliedCounter_cons_of_counts (opens_of_not_opened rfl)
          (isAllowedOf_iff.2 ⟨rfl, rfl⟩) hcurrent
      · rw [Log.recordOf_of_live_full window hlive hfull, counterAfter,
          if_neg (Nat.not_lt.2 hfull), ← hcurrent]
        exact impliedCounter_cons_of_not (opens_of_not_opened rfl)
          (by simp [Record.isAllowedOf, isAllowed, Admission.mayProceed])

theorem Reflects.check_self (hreflects : Reflects log key) {time : Nat} (limit : Nat)
    {window : Nat} (hfit : time + window < Instant.bound) :
    Reflects (log.next (.check time key limit window)) key ∧
      ∀ now, (log.next (.check time key limit window)).store.live key now =
        (impliedCounter key (log.next (.check time key limit window)).records).filter
          (·.isLive now) := by
  have himplied := impliedCounter_next hreflects limit hfit
  have hget : (log.next (.check time key limit window)).store.get? key = _ :=
    get?_check_self hfit
  refine ⟨⟨fun counter hcounter => ?_, fun counter hcounter => ?_⟩, fun now => ?_⟩
  · rw [himplied, ← hget, hcounter]
  · rw [himplied] at hcounter
    cases hcounter
    exact counterAfter_count_pos limit window time
      fun before hbefore => hreflects.count_pos before (hreflects.live hbefore)
  · rw [himplied, Store.live, hget]

theorem impliedCounter_next_of_ne {other : String} (hne : other ≠ key) {time limit window : Nat} :
    impliedCounter key (log.next (.check time other limit window)).records =
      impliedCounter key log.records :=
  impliedCounter_cons_of_not (opens_of_ne hne) (by simp [Record.isAllowedOf, Log.recordOf, hne])

theorem Reflects.check_of_ne (hreflects : Reflects log key) {other : String} (hne : other ≠ key)
    (time limit window : Nat) : Reflects (log.next (.check time other limit window)) key := by
  have hget : (log.next (.check time other limit window)).store.get? key = log.store.get? key :=
    get?_check_of_ne (Ne.symm hne)
  refine ⟨fun counter hcounter => ?_, fun counter hcounter => ?_⟩
  · rw [impliedCounter_next_of_ne hne]
    exact hreflects.entry counter (hget ▸ hcounter)
  · rw [impliedCounter_next_of_ne hne] at hcounter
    exact hreflects.count_pos counter hcounter

theorem Reflects.sweep (hreflects : Reflects log key) (time : Nat) :
    Reflects (log.next (.sweep time)) key := by
  refine ⟨fun counter hcounter => ?_, hreflects.count_pos⟩
  rw [Log.store_next_sweep, get?_sweep, Option.filter_eq_some_iff] at hcounter
  exact hreflects.entry counter hcounter.1

end Reflects

/-- What a timely run leaves, seen from one key: its store agrees with its history, and the live
counter is the implied one for as long as its window is open. -/
theorem reflects_run (key : String) (steps : List Step) (htimely : Timely steps)
    (hfits : Fits steps) :
    Reflects (Log.run steps) key ∧
      ∀ now, (∀ step ∈ steps, step.time ≤ now) →
        (Log.run steps).store.live key now =
          (impliedCounter key (Log.run steps).records).filter (·.isLive now) := by
  induction steps using List.reverseRecOn with
  | nil =>
      have himplied : impliedCounter key [] = none := rfl
      exact ⟨⟨by simp, by simp [himplied]⟩, by simp [himplied]⟩
  | append_singleton steps step ih =>
      obtain ⟨hreflects, hlive⟩ := ih (timely_concat.1 htimely).1 (fits_concat.1 hfits).1
      have hbefore : ∀ {now}, (∀ s ∈ steps ++ [step], s.time ≤ now) → ∀ s ∈ steps, s.time ≤ now :=
        fun hall s hs => hall s (by simp [hs])
      rw [Log.run_concat]
      cases step with
      | sweep time =>
          -- A sweep may look back, but forgets only what no check from now on would count.
          refine ⟨hreflects.sweep time, fun now hall => ?_⟩
          have htime : time ≤ now := hall (.sweep time) (by simp)
          rw [Log.store_next_sweep, Log.records_next_sweep, live_sweep _ _ htime,
            hlive now (hbefore hall)]
      | check time other limit window =>
          by_cases hkey : other = key
          · subst hkey
            have hfit : time + window < Instant.bound := by
              simpa [Step.fits] using (fits_concat.1 hfits).2
            obtain ⟨hnext, hafter⟩ := hreflects.check_self limit hfit
            exact ⟨hnext, fun now _ => hafter now⟩
          · refine ⟨hreflects.check_of_ne hkey time limit window, fun now hall => ?_⟩
            rw [Log.store_next_check, live_check_of_ne (Ne.symm hkey), hlive now (hbefore hall),
              impliedCounter_next_of_ne hkey]

/-- No window of a key is open at an instant, as far as history tells: none was ever opened, or the
last one has closed by then. -/
def NoneOpen (key : String) (records : List Record) (now : Nat) : Prop :=
  ∀ opening, lastOpening key records = some opening → opening.time + opening.window < now

instance (key : String) (records : List Record) (now : Nat) :
    Decidable (NoneOpen key records now) :=
  match h : lastOpening key records with
  | none => isTrue (by simp [NoneOpen, h])
  | some opening =>
      decidable_of_iff (opening.time + opening.window < now) (by simp [NoneOpen, h])

section Verdict

variable {log : Log} {key : String} {now : Nat}

theorem live_eq_none_iff_noneOpen (hreflects : Reflects log key)
    (hlive : log.store.live key now = (impliedCounter key log.records).filter (·.isLive now)) :
    log.store.live key now = none ↔ NoneOpen key log.records now := by
  rw [hlive, NoneOpen]
  cases hlast : lastOpening key log.records with
  | none => simp [impliedCounter, hlast]
  | some opening =>
      have himplied : impliedCounter key log.records =
          some ⟨admitted key log.records, opening.time + opening.window⟩ := by
        rw [impliedCounter, hlast, Option.map_some]
      have hpos : 0 < admitted key log.records := hreflects.count_pos _ himplied
      rw [himplied, Option.filter_eq_none_iff]
      simp only [Option.some.injEq, forall_eq', Counter.isLive_iff]
      omega

theorem count_eq_admitted (hreflects : Reflects log key) {counter : Counter}
    (hlive : log.store.live key now = some counter) :
    counter.count = admitted key log.records := by
  have himplied := hreflects.live hlive
  rw [impliedCounter, Option.map_eq_some_iff] at himplied
  obtain ⟨opening, -, rfl⟩ := himplied
  rfl

end Verdict

/-- History decides every check.  After a timely run whose windows end before the clock does, a
counter that the store holds counts the requests let through since the last opening, and closes when
that window does.  The next check of a key is let through exactly if no window is open or fewer
requests than its limit were let through since the last opening, and is denied otherwise, which
changes nothing; it opens a window exactly if none is open; and it is answered as if its key had
been the only one and there had been no sweeps. -/
theorem check_iff_history (steps : List Step) (htimely : Timely steps) (hfits : Fits steps)
    (key : String) :
    (∀ counter, (Log.run steps).store.get? key = some counter →
      ∃ opening, lastOpening key (Log.run steps).records = some opening ∧
        counter.count = admitted key (Log.run steps).records ∧
        counter.resetAt = opening.time + opening.window) ∧
    ∀ limit window now, (∀ step ∈ steps, step.time ≤ now) → now + window < Instant.bound →
      let records := (Log.run steps).records
      let checked := (Log.run steps).store.check key limit window now
      (checked.value = .ok .allowed ↔
        NoneOpen key records now ∨ admitted key records < limit) ∧
      (¬ (NoneOpen key records now ∨ admitted key records < limit) →
        (∃ seconds, checked.value = .ok (.denied seconds)) ∧
          checked.state = (Log.run steps).store) ∧
      (.windowOpened key ∈ checked.events ↔ NoneOpen key records now) ∧
      checked.value =
        ((Log.run (steps.filter (·.isCheckOf key))).store.check key limit window now).value := by
  obtain ⟨hreflects, hlive⟩ := reflects_run key steps htimely hfits
  refine ⟨fun counter hget => ?_, fun limit window now hall hfit => ?_⟩
  · have himplied := hreflects.entry counter hget
    rw [impliedCounter, Option.map_eq_some_iff] at himplied
    obtain ⟨opening, hopening, rfl⟩ := himplied
    exact ⟨opening, hopening, rfl, rfl⟩
  · have hopen := live_eq_none_iff_noneOpen hreflects (hlive now hall)
    have halone := (run_filter_isCheckOf key steps htimely).2 now hall
    dsimp only
    rw [← hopen, (check_congr limit window halone).1]
    rcases check_cases (Log.run steps).store key limit window now with
      ⟨hnone, -, hcheck⟩ | ⟨-, hbound, -⟩ | ⟨counter, hsome, hfull, hcheck⟩ |
        ⟨counter, hsome, hfree, hcheck⟩
    · simp [hnone, hcheck]
    · omega
    · rw [count_eq_admitted hreflects hsome] at hfull
      simp [hsome, hcheck, Nat.not_lt.2 hfull]
    · rw [count_eq_admitted hreflects hsome] at hfree
      simp [hsome, hcheck, hfree]

/-- The closing instant belongs to the window, and a sweep at it forgets nothing: whatever window it
asks for, a request is let through then as long as fewer than its limit were before it. -/
theorem check_iff_history_at_closing :
    let steps : List Step :=
      [.check 0 "a" 2 10, .check 0 "b" 1 5, .check 10 "a" 4 3, .check 10 "b" 1 5, .sweep 10]
    Timely steps ∧ Fits steps ∧ (∀ step ∈ steps, step.time ≤ 10) ∧ 10 + 3 < Instant.bound ∧
      (∃ seconds, ((Log.run steps).store.check "a" 2 3 10).value = .ok (.denied seconds)) ∧
      ((Log.run steps).store.check "a" 3 3 10).value = .ok .allowed := by
  intro steps
  have htimely : Timely steps := by decide
  have hfits : Fits steps := by decide
  have hall : ∀ step ∈ steps, step.time ≤ 10 := by decide
  have hfit : 10 + 3 < Instant.bound := by decide
  have hchecks := (check_iff_history steps htimely hfits "a").2
  refine ⟨htimely, hfits, hall, hfit, ?_, ?_⟩
  · exact ((hchecks 2 3 10 hall hfit).2.1 (by decide)).1
  · exact (hchecks 3 3 10 hall hfit).1.2 (by decide)

end Throttle.Store
