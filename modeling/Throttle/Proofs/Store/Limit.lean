import Throttle.Proofs.Store.Quota
import Throttle.Proofs.Store.Sweep
import Throttle.Proofs.Store.Unanswered

/-!
# The limit of a window

All checks of a key ask for one limit and for windows of one length.  A window of the key is then the
time from the check that opened it to its closing instant, and the counter of the key, as long as
the window is open, counts the requests that were let through in it.  The check that opens a window
is let through before the limit is looked at, so a limit of zero lets one request through in each
window.  Main statement: that is the only exception, and otherwise as many checks of a window are
let through as there are, up to the limit.
-/

namespace Throttle.Store

/-- A check opened a window of a key, so that its request was let through. -/
def Record.Begins (key : String) (record : Record) : Prop :=
  record.opens key = true ∧ record.isAllowedOf key = true

instance (key : String) (record : Record) : Decidable (record.Begins key) :=
  inferInstanceAs (Decidable (_ ∧ _))

/-- Whether a check is of a key and from one instant to another, both included. -/
def Record.isMadeIn (key : String) (first last : Nat) (record : Record) : Bool :=
  record.key == key && first ≤ record.time && record.time ≤ last

def madeIn (key : String) (first last : Nat) (records : List Record) : Nat :=
  records.countP (·.isMadeIn key first last)

section Count

variable {key : String} {first last : Nat} {record : Record} {records : List Record}

theorem Record.isMadeIn_iff : record.isMadeIn key first last = true ↔
    record.key = key ∧ first ≤ record.time ∧ record.time ≤ last := by
  simp [isMadeIn, and_assoc]

theorem Record.isAllowedIn_iff_isMadeIn : record.isAllowedIn key first last = true ↔
    record.isMadeIn key first last = true ∧ record.answer = .ok .allowed := by
  rw [isAllowedIn_iff, isMadeIn_iff, isAllowedOf_iff]
  tauto

theorem Record.not_isMadeIn_of_lt (hlast : last < record.time) :
    ¬ record.isMadeIn key first last = true := by
  rw [isMadeIn_iff]
  omega

theorem Record.mem_of_begins_cons {opening : Record} (hnot : ¬ record.Begins key)
    (hopening : opening ∈ record :: records) (hbegins : opening.Begins key) :
    opening ∈ records := by
  rcases List.mem_cons.1 hopening with rfl | hearlier
  · exact absurd hbegins hnot
  · exact hearlier

theorem allowedIn_cons_of (hin : record.isAllowedIn key first last = true) :
    allowedIn key first last (record :: records) = allowedIn key first last records + 1 :=
  List.countP_cons_of_pos hin

theorem madeIn_cons_of (hin : record.isMadeIn key first last = true) :
    madeIn key first last (record :: records) = madeIn key first last records + 1 :=
  List.countP_cons_of_pos hin

theorem allowedIn_cons_of_not_isMadeIn (hout : ¬ record.isMadeIn key first last = true) :
    allowedIn key first last (record :: records) = allowedIn key first last records := by
  apply allowedIn_cons_of_not
  rw [Record.isAllowedIn_iff_isMadeIn]
  exact fun hin => hout hin.1

theorem madeIn_cons_of_not (hout : ¬ record.isMadeIn key first last = true) :
    madeIn key first last (record :: records) = madeIn key first last records :=
  List.countP_cons_of_neg hout

theorem allowedIn_le_madeIn : allowedIn key first last records ≤ madeIn key first last records :=
  List.countP_mono_left fun _ _ hin => (Record.isAllowedIn_iff_isMadeIn.1 hin).1

theorem allowedIn_pos (hrecord : record ∈ records) (hallowed : record.isAllowedOf key = true)
    (hlast : record.time ≤ last) : 0 < allowedIn key record.time last records :=
  List.countP_pos_iff.2 ⟨record, hrecord, Record.isAllowedIn_iff.2 ⟨hallowed, Nat.le_refl _, hlast⟩⟩

/-- A check that is let through as long as fewer than the limit were. -/
theorem allowedIn_cons_eq {limit : Nat} (hin : record.isMadeIn key first last = true)
    (hanswer : record.answer = .ok .allowed ↔ allowedIn key first last records < limit) :
    allowedIn key first last (record :: records) =
      if allowedIn key first last records < limit then allowedIn key first last records + 1
      else allowedIn key first last records := by
  split
  case isTrue hfree =>
    exact allowedIn_cons_of (Record.isAllowedIn_iff_isMadeIn.2 ⟨hin, hanswer.2 hfree⟩)
  case isFalse hfull =>
    apply allowedIn_cons_of_not
    exact fun hallowed => hfull (hanswer.1 (Record.isAllowedIn_iff_isMadeIn.1 hallowed).2)

end Count

/-- A check in an open window opens none, and is let through if there is room left. -/
theorem recordOf_of_live {store : Store} {key : String} {now : Nat} {counter : Counter}
    (limit window : Nat) (hlive : store.live key now = some counter) :
    let record := Log.recordOf store now key limit window
    record.opened = false ∧ (record.answer = .ok .allowed ↔ counter.count < limit) := by
  intro record
  rcases Nat.lt_or_ge counter.count limit with hfree | hfull
  · rw [show record = _ from Log.recordOf_of_live_free window hlive hfree]
    exact ⟨rfl, by simpa using hfree⟩
  · rw [show record = _ from Log.recordOf_of_live_full window hlive hfull]
    exact ⟨rfl, by simpa using hfull⟩

/-- A check without an answer asked for a window past the end of the clock. -/
theorem bound_le_of_unanswered {steps : List Step} {record : Record}
    (hrecord : record ∈ (Log.run steps).records) (hfailed : record.answer.isOk = false) :
    Instant.bound ≤ record.time + record.window := by
  induction steps using List.reverseRecOn with
  | nil => cases hrecord
  | append_singleton steps last ih =>
      rw [Log.run_concat] at hrecord
      cases last with
      | sweep time => exact ih hrecord
      | check time key limit window =>
          rcases List.mem_cons.1 hrecord with rfl | hearlier
          · exact ((isOk_value_check key limit window time).1 hfailed).2
          · exact ih hearlier

/-! ## What the steps of a run make of the windows -/

/-- What holds of the windows of a key whose checks ask for one limit and one length.  A counter that
has counted something belongs to one of them, and as long as nothing was done after its closing
instant, it counts the requests let through in it. -/
structure Windows (key : String) (limit window : Nat) (steps : List Step) (log : Log) : Prop where
  filled : ∀ opening ∈ log.records, opening.Begins key →
    allowedIn key opening.time (opening.time + window) log.records =
      min (max 1 limit) (madeIn key opening.time (opening.time + window) log.records)
  current : ∀ opening ∈ log.records, opening.Begins key →
    (∀ step ∈ steps, step.time ≤ opening.time + window) →
      log.store.get? key = some
        ⟨allowedIn key opening.time (opening.time + window) log.records, opening.time + window⟩
  entry : ∀ counter, log.store.get? key = some counter → 0 < counter.count →
    ∃ opening ∈ log.records, opening.Begins key ∧ counter.resetAt = opening.time + window
  covered : ∀ record ∈ log.records, record.key = key → record.answer.isOk = true →
    ∃ opening ∈ log.records, opening.Begins key ∧ opening.time ≤ record.time ∧
      record.time ≤ opening.time + window

section Windows

variable {key : String} {limit window : Nat} {steps : List Step} {log : Log}

/-- While a window is open, its counter is the live one. -/
theorem Windows.live (hwindows : Windows key limit window steps log) {opening : Record}
    (hopening : opening ∈ log.records) (hbegins : opening.Begins key) {now : Nat}
    (hlate : ∀ step ∈ steps, step.time ≤ now) (hopen : now ≤ opening.time + window) :
    log.store.live key now = some
      ⟨allowedIn key opening.time (opening.time + window) log.records, opening.time + window⟩ := by
  have hget := hwindows.current opening hopening hbegins fun step hstep =>
    Nat.le_trans (hlate step hstep) hopen
  refine live_eq_some_iff.2 ⟨hget, Counter.isLive_iff.2 ⟨?_, hopen⟩⟩
  exact allowedIn_pos hopening hbegins.2 (Nat.le_add_right _ _)

theorem Windows.sweep (hwindows : Windows key limit window steps log) (time : Nat) :
    Windows key limit window (steps ++ [.sweep time]) (log.next (.sweep time)) where
  filled := hwindows.filled
  current opening hopening hbegins hbefore := by
    rw [Log.store_next_sweep, get?_sweep_eq_some_iff]
    refine ⟨hwindows.current opening hopening hbegins fun step hstep => ?_, ?_⟩
    · exact hbefore step (List.mem_append_left _ hstep)
    · exact hbefore (.sweep time) (by simp)
  entry counter hcounter := by
    rw [Log.store_next_sweep, get?_sweep_eq_some_iff] at hcounter
    exact hwindows.entry counter hcounter.1
  covered := hwindows.covered

/-- What is recorded outside the windows, and no answer to a check of the key, changes nothing. -/
theorem Windows.cons_of_outside (hwindows : Windows key limit window steps log) {step : Step}
    {record : Record} {store : Store} (hanswer : record.key = key → record.answer.isOk = false)
    (hout : ∀ opening ∈ log.records, opening.Begins key →
      ¬ record.isMadeIn key opening.time (opening.time + window) = true)
    (hstore : ∀ opening ∈ log.records, opening.Begins key →
      step.time ≤ opening.time + window → store.get? key = log.store.get? key)
    (hentry : ∀ counter, store.get? key = some counter → 0 < counter.count →
      log.store.get? key = some counter) :
    Windows key limit window (steps ++ [step]) ⟨store, record :: log.records⟩ := by
  have hbegins : ¬ record.Begins key := by
    intro hbegins
    obtain ⟨hkey, hallowed⟩ := isAllowedOf_iff.1 hbegins.2
    have hfailed := hanswer hkey
    rw [hallowed] at hfailed
    cases hfailed
  constructor
  · intro opening hopening hopens
    have hbefore := Record.mem_of_begins_cons hbegins hopening hopens
    have hnot := hout opening hbefore hopens
    rw [allowedIn_cons_of_not_isMadeIn hnot, madeIn_cons_of_not hnot]
    exact hwindows.filled opening hbefore hopens
  · intro opening hopening hopens hall
    have hbefore := Record.mem_of_begins_cons hbegins hopening hopens
    rw [allowedIn_cons_of_not_isMadeIn (hout opening hbefore hopens),
      hstore opening hbefore hopens (hall step (by simp))]
    exact hwindows.current opening hbefore hopens fun earlier hearlier =>
      hall earlier (List.mem_append_left _ hearlier)
  · intro counter hcounter hpos
    obtain ⟨opening, hopening, hrest⟩ := hwindows.entry counter (hentry counter hcounter hpos) hpos
    exact ⟨opening, List.mem_cons_of_mem _ hopening, hrest⟩
  · rintro other (_ | ⟨_, hother⟩) hkey hok
    · rw [hanswer hkey] at hok
      cases hok
    · obtain ⟨opening, hopening, hrest⟩ := hwindows.covered other hother hkey hok
      exact ⟨opening, List.mem_cons_of_mem _ hopening, hrest⟩

theorem Windows.check_of_ne (hwindows : Windows key limit window steps log) {other : String}
    (hne : other ≠ key) (time limit' window' : Nat) :
    Windows key limit window (steps ++ [.check time other limit' window'])
      (log.next (.check time other limit' window')) := by
  have hget : (log.store.check other limit' window' time).state.get? key = log.store.get? key :=
    get?_check_of_ne (Ne.symm hne)
  apply hwindows.cons_of_outside
  · exact fun hkey => absurd hkey hne
  · intro opening hopening hbegins hin
    exact hne (Record.isMadeIn_iff.1 hin).1
  · exact fun _ _ _ _ => hget
  · intro counter hcounter _
    exact hget ▸ hcounter

section Self

variable {time : Nat} (hlate : ∀ step ∈ steps, step.time ≤ time)
include hlate

/-- A check that finds no window open comes after all that there were. -/
theorem Windows.closed (hwindows : Windows key limit window steps log)
    (hlive : log.store.live key time = none) {opening : Record} (hopening : opening ∈ log.records)
    (hbegins : opening.Begins key) : opening.time + window < time := by
  by_contra hopen
  have hsome := hwindows.live hopening hbegins hlate (Nat.not_lt.1 hopen)
  rw [hlive] at hsome
  cases hsome

theorem Windows.check_of_unanswered (hwindows : Windows key limit window steps log)
    (hlive : log.store.live key time = none) (hend : Instant.bound ≤ time + window) :
    Windows key limit window (steps ++ [.check time key limit window])
      (log.next (.check time key limit window)) := by
  have hcheck : (log.store.check key limit window time).state =
      log.store.put key (log.store.counterOf key time) := by
    rw [check_of_live_none_of_bound_le hlive hend]
  apply hwindows.cons_of_outside
  · intro _
    exact (isOk_value_check key limit window time).2 ⟨hlive, hend⟩
  · intro opening hopening hbegins
    exact Record.not_isMadeIn_of_lt (hwindows.closed hlate hlive hopening hbegins)
  · intro opening hopening hbegins hopen
    have hclosed := hwindows.closed hlate hlive hopening hbegins
    exact absurd hopen (Nat.not_le.2 hclosed)
  · intro counter hcounter hpos
    rw [hcheck, Table.get?_put_self, Option.some.injEq, counterOf] at hcounter
    subst hcounter
    cases hget : log.store.get? key with
    | none => simp [hget] at hpos
    | some counter => rw [Option.getD_some]

/-- In an open window a check counts if the limit leaves room, and is denied otherwise. -/
theorem Windows.check_of_live (hwindows : Windows key limit window steps log)
    (hrecords : ∀ record ∈ log.records, record.time ≤ time) {counter : Counter}
    (hlive : log.store.live key time = some counter) :
    Windows key limit window (steps ++ [.check time key limit window])
      (log.next (.check time key limit window)) := by
  obtain ⟨hopened, hanswer⟩ := recordOf_of_live limit window hlive
  have hget := get?_check_of_live limit window hlive
  have hkey : (Log.recordOf log.store time key limit window).key = key := rfl
  have htime : (Log.recordOf log.store time key limit window).time = time := rfl
  rw [Log.next]
  generalize Log.recordOf log.store time key limit window = record at *
  generalize (log.store.check key limit window time).state = store at *
  have hnot : ¬ record.Begins key := by
    intro hbegins
    exact absurd hbegins.1 (by simp [opens_of_not_opened hopened])
  -- In a window that is still open the counter stands for what was let through in it.
  have hopen : ∀ opening ∈ log.records, opening.Begins key → time ≤ opening.time + window →
      counter = ⟨allowedIn key opening.time (opening.time + window) log.records,
        opening.time + window⟩ ∧
        record.isMadeIn key opening.time (opening.time + window) = true := by
    intro opening hopening hbegins hle
    have hsome := hwindows.live hopening hbegins hlate hle
    rw [hlive, Option.some.injEq] at hsome
    refine ⟨hsome, Record.isMadeIn_iff.2 ⟨hkey, ?_⟩⟩
    rw [htime]
    exact ⟨hrecords opening hopening, hle⟩
  have hentry : ∃ opening ∈ record :: log.records, opening.Begins key ∧
      counter.resetAt = opening.time + window := by
    obtain ⟨hcounter, hisLive⟩ := live_eq_some_iff.1 hlive
    obtain ⟨opening, hopening, hrest⟩ :=
      hwindows.entry counter hcounter (Counter.isLive_iff.1 hisLive).1
    exact ⟨opening, List.mem_cons_of_mem _ hopening, hrest⟩
  constructor
  · intro opening hopening hbegins
    have hbefore := Record.mem_of_begins_cons hnot hopening hbegins
    have hfilled := hwindows.filled opening hbefore hbegins
    by_cases hle : time ≤ opening.time + window
    · obtain ⟨rfl, hin⟩ := hopen opening hbefore hbegins hle
      have hpos := allowedIn_pos hbefore hbegins.2 (Nat.le_add_right _ window)
      rw [madeIn_cons_of hin, allowedIn_cons_eq hin hanswer]
      split <;> omega
    · have hout : ¬ record.isMadeIn key opening.time (opening.time + window) = true := by
        apply Record.not_isMadeIn_of_lt
        omega
      rw [allowedIn_cons_of_not_isMadeIn hout, madeIn_cons_of_not hout]
      exact hfilled
  · intro opening hopening hbegins hall
    have hle : time ≤ opening.time + window := hall (.check time key limit window) (by simp)
    have hbefore := Record.mem_of_begins_cons hnot hopening hbegins
    obtain ⟨rfl, hin⟩ := hopen opening hbefore hbegins hle
    rw [hget, allowedIn_cons_eq hin hanswer, counterAfter]
    split <;> rfl
  · intro other hother _
    rw [hget, Option.some.injEq] at hother
    subst hother
    rw [resetAt_counterAfter]
    exact hentry
  · rintro other (_ | ⟨_, hother⟩) hself hisOk
    · obtain ⟨opening, hopening, hbegins, hresetAt⟩ := hentry
      refine ⟨opening, hopening, hbegins, ?_⟩
      rw [htime, ← hresetAt]
      refine ⟨hrecords opening (Record.mem_of_begins_cons hnot hopening hbegins), ?_⟩
      exact (Counter.isLive_iff.1 (live_eq_some_iff.1 hlive).2).2
    · obtain ⟨opening, hopening, hrest⟩ := hwindows.covered other hother hself hisOk
      exact ⟨opening, List.mem_cons_of_mem _ hopening, hrest⟩

/-- A check that opens a window is the first that is made from its instant on. -/
theorem Windows.madeIn_eq_zero (hwindows : Windows key limit window steps log)
    (hrecords : ∀ record ∈ log.records, record.time ≤ time)
    (hanswered : ∀ record ∈ log.records, record.key = key → record.answer.isOk = false →
      Instant.bound ≤ record.time + window)
    (hlive : log.store.live key time = none) (hfit : time + window < Instant.bound) :
    madeIn key time (time + window) log.records = 0 := by
  rw [madeIn, List.countP_eq_zero]
  intro record hrecord hin
  obtain ⟨hkey, hfirst, -⟩ := Record.isMadeIn_iff.1 hin
  cases hisOk : record.answer.isOk with
  | false =>
      have hend := hanswered record hrecord hkey hisOk
      have htime := hrecords record hrecord
      omega
  | true =>
      obtain ⟨opening, hopening, hbegins, -, hlast⟩ :=
        hwindows.covered record hrecord hkey hisOk
      have hclosed := hwindows.closed hlate hlive hopening hbegins
      omega

theorem Windows.check_of_begins (hwindows : Windows key limit window steps log)
    (hrecords : ∀ record ∈ log.records, record.time ≤ time)
    (hanswered : ∀ record ∈ log.records, record.key = key → record.answer.isOk = false →
      Instant.bound ≤ record.time + window)
    (hlive : log.store.live key time = none) (hfit : time + window < Instant.bound) :
    Windows key limit window (steps ++ [.check time key limit window])
      (log.next (.check time key limit window)) := by
  have hmade := hwindows.madeIn_eq_zero hlate hrecords hanswered hlive hfit
  have hallowed : allowedIn key time (time + window) log.records = 0 :=
    Nat.le_zero.1 (hmade ▸ allowedIn_le_madeIn)
  have hget : (log.store.check key limit window time).state.get? key = some ⟨1, time + window⟩ := by
    rw [check_of_live_none hlive hfit, Table.get?_put_self]
  rw [Log.next, Log.recordOf_of_live_none limit hlive hfit]
  generalize hrecord : Record.mk key limit window time (.ok .allowed) true = record
  have htime : record.time = time := by rw [← hrecord]
  have hbegins : record.Begins key := by
    rw [← hrecord]
    exact ⟨by simp [Record.opens], isAllowedOf_iff.2 ⟨rfl, rfl⟩⟩
  have hin : record.isMadeIn key time (time + window) = true :=
    Record.isMadeIn_iff.2 ⟨key_eq_of_opens hbegins.1, by omega⟩
  have hone : allowedIn key time (time + window) (record :: log.records) = 1 := by
    rw [allowedIn_cons_of, hallowed]
    exact Record.isAllowedIn_iff_isMadeIn.2 ⟨hin, (isAllowedOf_iff.1 hbegins.2).2⟩
  constructor
  · rintro opening (_ | ⟨_, hopening⟩) hopens
    · rw [htime, hone, madeIn_cons_of hin, hmade]
      omega
    · have hclosed := hwindows.closed hlate hlive hopening hopens
      have hout : ¬ record.isMadeIn key opening.time (opening.time + window) = true := by
        apply Record.not_isMadeIn_of_lt
        omega
      rw [allowedIn_cons_of_not_isMadeIn hout, madeIn_cons_of_not hout]
      exact hwindows.filled opening hopening hopens
  · rintro opening (_ | ⟨_, hopening⟩) hopens hall
    · rw [htime, hone]
      exact hget
    · have hclosed := hwindows.closed hlate hlive hopening hopens
      exact absurd (hall (.check time key limit window) (by simp)) (Nat.not_le.2 hclosed)
  · intro counter hcounter _
    rw [hget, Option.some.injEq] at hcounter
    subst hcounter
    exact ⟨record, List.mem_cons_self, hbegins, by rw [htime]⟩
  · rintro other (_ | ⟨_, hother⟩) hkey hisOk
    · exact ⟨record, List.mem_cons_self, hbegins, Nat.le_refl _, Nat.le_add_right _ _⟩
    · obtain ⟨opening, hopening, hrest⟩ := hwindows.covered other hother hkey hisOk
      exact ⟨opening, List.mem_cons_of_mem _ hopening, hrest⟩

end Self

end Windows

theorem windows_run {key : String} {limit window : Nat} (steps : List Step)
    (htimely : Timely steps)
    (hpolicy : ∀ record ∈ (Log.run steps).records, record.key = key →
      record.limit = limit ∧ record.window = window) :
    Windows key limit window steps (Log.run steps) := by
  induction steps using List.reverseRecOn with
  | nil => constructor <;> simp [Table.get?_empty]
  | append_singleton steps step ih =>
      obtain ⟨hbefore, hlast⟩ := timely_concat.1 htimely
      rw [Log.run_concat] at hpolicy ⊢
      cases step with
      | sweep time => exact (ih hbefore hpolicy).sweep time
      | check time other limit' window' =>
          have hearlier := ih hbefore fun record hrecord =>
            hpolicy record (List.mem_cons_of_mem _ hrecord)
          by_cases hkey : other = key
          · subst hkey
            obtain ⟨rfl, rfl⟩ := hpolicy (Log.recordOf _ time other limit' window')
              List.mem_cons_self rfl
            have hlate := hlast rfl
            have hrecords : ∀ record ∈ (Log.run steps).records, record.time ≤ time :=
              fun record hrecord => hlate _ (step_mem_of_mem_records hrecord)
            cases hlive : (Log.run steps).store.live other time with
            | some counter => exact hearlier.check_of_live hlate hrecords hlive
            | none =>
                by_cases hfit : time + window' < Instant.bound
                · apply hearlier.check_of_begins hlate hrecords _ hlive hfit
                  intro record hrecord hrecordKey hfailed
                  have hend := bound_le_of_unanswered hrecord hfailed
                  rwa [(hpolicy record (List.mem_cons_of_mem _ hrecord) hrecordKey).2] at hend
                · exact hearlier.check_of_unanswered hlate hlive (Nat.not_lt.1 hfit)
          · exact hearlier.check_of_ne hkey time limit' window'

/-- What a run lets through in each window.  All checks of a key ask for one limit and for windows of
one length; other keys may be checked as well, and sweeps may come at any time.  Then every window
lets the first checks that are made in it through, up to the limit, but at least the one that opens
it, so a limit is kept exactly if it is not zero.  No check that gets an answer is outside a
window. -/
theorem window_admits {key : String} {limit window : Nat} (steps : List Step)
    (htimely : Timely steps)
    (hpolicy : ∀ record ∈ (Log.run steps).records, record.key = key →
      record.limit = limit ∧ record.window = window) :
    let records := (Log.run steps).records
    (∀ opening ∈ records, opening.Begins key →
      let admitted := allowedIn key opening.time (opening.time + window) records
      admitted = min (max 1 limit) (madeIn key opening.time (opening.time + window) records) ∧
      (admitted ≤ limit ↔ 0 < limit)) ∧
    ∀ record ∈ records, record.key = key → record.answer.isOk = true →
      ∃ opening ∈ records, opening.Begins key ∧ opening.time ≤ record.time ∧
        record.time ≤ opening.time + window := by
  have hwindows := windows_run steps htimely hpolicy
  refine ⟨fun opening hopening hbegins => ?_, hwindows.covered⟩
  have hfilled := hwindows.filled opening hopening hbegins
  have hpos := allowedIn_pos hopening hbegins.2 (Nat.le_add_right _ window)
  exact ⟨hfilled, by omega⟩

/-- Two windows of `k`: in the first one the third check comes at its closing instant, with the limit
of two reached, and what was checked of another key in between counts for nothing. -/
theorem window_admits_two :
    let steps : List Step := [.check 0 "k" 2 5, .check 1 "other" 7 9, .check 4 "k" 2 5,
      .check 5 "k" 2 5, .sweep 6, .check 6 "k" 2 5]
    let records := (Log.run steps).records
    records.countP (·.Begins "k") = 2 ∧ madeIn "k" 0 5 records = 3 ∧
      allowedIn "k" 0 5 records = 2 ∧ (allowedIn "k" 0 5 records ≤ 2 ↔ 0 < 2) := by
  intro steps records
  have hpolicy : ∀ record ∈ records, record.key = "k" → record.limit = 2 ∧ record.window = 5 := by
    decide +kernel
  have hfirst : (⟨"k", 2, 5, 0, .ok .allowed, true⟩ : Record) ∈ records :=
    List.mem_of_getLast? (by rfl)
  have hmade : madeIn "k" 0 5 records = 3 := by decide +kernel
  obtain ⟨hadmitted, hiff⟩ :=
    (window_admits steps (by decide) hpolicy).1 _ hfirst (by decide +kernel)
  exact ⟨by decide +kernel, hmade, hadmitted.trans (congrArg (min 2) hmade), hiff⟩

/-- A window that is opened with a limit of zero lets the request through that opens it. -/
theorem window_admits_one_at_limit_zero :
    let steps : List Step := [.check 0 "k" 0 (Duration.ofSecs 60)]
    let records := (Log.run steps).records
    Timely steps ∧ (∀ record ∈ records, record.limit = 0) ∧
      ∃ opening ∈ records, opening.Begins "k" ∧
        ¬ allowedIn "k" opening.time (opening.time + Duration.ofSecs 60) records ≤ 0 := by
  decide +kernel

end Throttle.Store
