import Throttle.Proofs.Store.History

/-!
# Quotas

A window of a key lets no more requests through than the greatest limit its checks ask for.  If all
its checks ask for windows of one length, the next window opens more than that length after the last
one did, so an interval of that length meets at most two windows and sees at most twice the limit.
-/

namespace Throttle.Store

/-- Histories in which every check of a key was decided by what came before it. -/
inductive Lawful (key : String) : List Record → Prop where
  | nil : Lawful key []
  | ignored {record : Record} {earlier : List Record} (hopens : record.opens key = false)
      (hallowed : record.isAllowedOf key = false) (hearlier : Lawful key earlier) :
      Lawful key (record :: earlier)
  | opens {record : Record} {earlier : List Record} (hopens : record.opens key = true)
      (hallowed : record.isAllowedOf key = true) (hnone : NoneOpen key earlier record.time)
      (hlate : ∀ before ∈ earlier, before.time ≤ record.time)
      (hearlier : Lawful key earlier) : Lawful key (record :: earlier)
  | counts {record : Record} {earlier : List Record} (hopens : record.opens key = false)
      (hallowed : record.isAllowedOf key = true) (hfree : admitted key earlier < record.limit)
      (hlate : ∀ before ∈ earlier, before.time ≤ record.time)
      (hearlier : Lawful key earlier) : Lawful key (record :: earlier)

theorem Lawful.of_append {key : String} {later earlier : List Record}
    (hlawful : Lawful key (later ++ earlier)) : Lawful key earlier := by
  induction later with
  | nil => exact hlawful
  | cons record later ih => cases hlawful <;> exact ih ‹_›

/-- A check of the key itself is decided by the history that its store reflects. -/
theorem Lawful.check_self {log : Log} {key : String} (hlawful : Lawful key log.records)
    (hreflects : Reflects log key) {time : Nat} (limit : Nat) {window : Nat}
    (hlive : log.store.live key time = (impliedCounter key log.records).filter (·.isLive time))
    (hfit : time + window < Instant.bound)
    (hlate : ∀ before ∈ log.records, before.time ≤ time) :
    Lawful key (log.next (.check time key limit window)).records := by
  have hopen := live_eq_none_iff_noneOpen hreflects hlive
  rw [Log.records_next_check]
  cases hcounter : log.store.live key time with
  | none =>
      rw [Log.recordOf_of_live_none limit hcounter hfit]
      exact .opens (by simp [Record.opens]) (isAllowedOf_iff.2 ⟨rfl, rfl⟩) (hopen.1 hcounter)
        hlate hlawful
  | some counter =>
      have hcount := count_eq_admitted hreflects hcounter
      rcases Nat.lt_or_ge counter.count limit with hfree | hfull
      · rw [Log.recordOf_of_live_free window hcounter hfree]
        exact .counts (opens_of_not_opened rfl) (isAllowedOf_iff.2 ⟨rfl, rfl⟩) (hcount ▸ hfree)
          hlate hlawful
      · rw [Log.recordOf_of_live_full window hcounter hfull]
        exact .ignored (opens_of_not_opened rfl)
          (by simp [Record.isAllowedOf, isAllowed, Admission.mayProceed]) hlawful

theorem lawful_run (key : String) (steps : List Step) (htimely : Timely steps)
    (hfits : Fits steps) : Lawful key (Log.run steps).records := by
  induction steps using List.reverseRecOn with
  | nil => exact .nil
  | append_singleton steps step ih =>
      obtain ⟨htimely, hlast⟩ := timely_concat.1 htimely
      obtain ⟨hfits, hfit⟩ := fits_concat.1 hfits
      have hearlier := ih htimely hfits
      obtain ⟨hreflects, hlive⟩ := reflects_run key steps htimely hfits
      rw [Log.run_concat]
      cases step with
      | sweep time => exact hearlier
      | check time other limit window =>
          by_cases hkey : other = key
          · subst hkey
            have hfit : time + window < Instant.bound := by simpa [Step.fits] using hfit
            exact hearlier.check_self hreflects limit (hlive time (hlast rfl)) hfit
              fun before hbefore => hlast rfl _ (step_mem_of_mem_records hbefore)
          · exact .ignored (opens_of_ne hkey)
              (by simp [Record.isAllowedOf, Log.recordOf, hkey]) hearlier

/-- Whether a check let a request of a key through from one instant to another, both included. -/
def Record.isAllowedIn (key : String) (first last : Nat) (record : Record) : Bool :=
  record.isAllowedOf key && first ≤ record.time && record.time ≤ last

theorem Record.isAllowedIn_iff {key : String} {first last : Nat} {record : Record} :
    record.isAllowedIn key first last = true ↔
      record.isAllowedOf key = true ∧ first ≤ record.time ∧ record.time ≤ last := by
  simp [isAllowedIn, and_assoc]

def allowedIn (key : String) (first last : Nat) (records : List Record) : Nat :=
  records.countP (·.isAllowedIn key first last)

section AllowedIn

variable {key : String} {first last : Nat} {record : Record} {records : List Record}

theorem allowedIn_cons_le :
    allowedIn key first last (record :: records) ≤ allowedIn key first last records + 1 := by
  rw [allowedIn, allowedIn, List.countP_cons]
  split <;> omega

theorem allowedIn_cons_of_not (hnot : ¬ record.isAllowedIn key first last = true) :
    allowedIn key first last (record :: records) = allowedIn key first last records := by
  rw [allowedIn, List.countP_cons_of_neg hnot, ← allowedIn]

theorem allowedIn_eq_zero (hbefore : ∀ record ∈ records, record.time < first) :
    allowedIn key first last records = 0 := by
  rw [allowedIn, List.countP_eq_zero]
  intro record hrecord hin
  have hlt := hbefore record hrecord
  rw [Record.isAllowedIn_iff] at hin
  omega

end AllowedIn

/-- What holds of a history of a key whose checks ask for windows of one length and for limits of at
most `limit`.  The first two fields count in an interval of that length; which of them applies is
decided by where the last window opens. -/
structure Bounded (key : String) (limit window : Nat) (records : List Record) : Prop where
  opened_before : ∀ start,
    (∀ opening, lastOpening key records = some opening → opening.time < start) →
      allowedIn key start (start + window) records ≤ admitted key records
  opened_within : ∀ start,
    (∀ opening, lastOpening key records = some opening → opening.time ≤ start + window) →
      allowedIn key start (start + window) records ≤ limit + admitted key records
  allowedIn_le : ∀ start, allowedIn key start (start + window) records ≤ 2 * limit
  admitted_le : admitted key records ≤ limit

section Bounded

variable {key : String} {limit window : Nat} {record : Record} {earlier : List Record}

theorem Bounded.cons_of_ignored (hbounded : Bounded key limit window earlier)
    (hopens : record.opens key = false) (hallowed : record.isAllowedOf key = false) :
    Bounded key limit window (record :: earlier) := by
  have hlast : lastOpening key (record :: earlier) = lastOpening key earlier :=
    lastOpening_cons_of_not_opens hopens
  have hadmitted : admitted key (record :: earlier) = admitted key earlier := by
    simp [admitted_cons_of_not_opens hopens, hallowed]
  have hin : ∀ start, allowedIn key start (start + window) (record :: earlier) =
      allowedIn key start (start + window) earlier :=
    fun start => allowedIn_cons_of_not (by simp [Record.isAllowedIn, hallowed])
  constructor
  · intro start hstart
    rw [hin, hadmitted]
    exact hbounded.opened_before start (hlast ▸ hstart)
  · intro start hstart
    rw [hin, hadmitted]
    exact hbounded.opened_within start (hlast ▸ hstart)
  · intro start
    rw [hin]
    exact hbounded.allowedIn_le start
  · rw [hadmitted]
    exact hbounded.admitted_le

/-- The window before a new one opened more than a window's length earlier, so an interval that
reaches the new one misses all windows but these two. -/
theorem Bounded.allowedIn_le_of_noneOpen (hbounded : Bounded key limit window earlier)
    (hwindow : ∀ before ∈ earlier, before.key = key → before.window = window) {now : Nat}
    (hnone : NoneOpen key earlier now) {start : Nat} (hstart : now ≤ start + window) :
    allowedIn key start (start + window) earlier ≤ limit := by
  refine Nat.le_trans (hbounded.opened_before start fun opening hopening => ?_) hbounded.admitted_le
  have hclosed := hnone opening hopening
  have hkey := key_eq_of_opens (List.find?_some hopening)
  rw [hwindow opening (List.mem_of_find?_eq_some hopening) hkey] at hclosed
  omega

theorem Bounded.cons_of_opens (hbounded : Bounded key limit window earlier) (hpos : 0 < limit)
    (hwindow : ∀ before ∈ earlier, before.key = key → before.window = window)
    (hopens : record.opens key = true) (hallowed : record.isAllowedOf key = true)
    (hnone : NoneOpen key earlier record.time)
    (hlate : ∀ before ∈ earlier, before.time ≤ record.time) :
    Bounded key limit window (record :: earlier) := by
  have hlast : lastOpening key (record :: earlier) = some record :=
    lastOpening_cons_of_opens hopens
  have hadmitted : admitted key (record :: earlier) = 1 := by
    rw [admitted_cons_of_opens hopens, if_pos hallowed]
  constructor
  · intro start hstart
    -- Nothing has been checked since the interval began.
    have hbefore : record.time < start := hstart record hlast
    rw [allowedIn_eq_zero]
    · exact Nat.zero_le _
    · intro other hother
      rcases List.mem_cons.1 hother with rfl | hmem
      · exact hbefore
      · exact Nat.lt_of_le_of_lt (hlate other hmem) hbefore
  · intro start hstart
    have hprevious := hbounded.allowedIn_le_of_noneOpen hwindow hnone (hstart record hlast)
    rw [hadmitted]
    exact Nat.le_trans allowedIn_cons_le (by omega)
  · intro start
    by_cases hin : record.isAllowedIn key start (start + window) = true
    · have hupto := (Record.isAllowedIn_iff.1 hin).2.2
      have hprevious := hbounded.allowedIn_le_of_noneOpen hwindow hnone hupto
      exact Nat.le_trans allowedIn_cons_le (by omega)
    · rw [allowedIn_cons_of_not hin]
      exact hbounded.allowedIn_le start
  · rw [hadmitted]
    exact hpos

theorem Bounded.cons_of_counts (hbounded : Bounded key limit window earlier)
    (hopens : record.opens key = false) (hallowed : record.isAllowedOf key = true)
    (hlimit : record.limit ≤ limit) (hfree : admitted key earlier < record.limit)
    (hlate : ∀ before ∈ earlier, before.time ≤ record.time) :
    Bounded key limit window (record :: earlier) := by
  have hlast : lastOpening key (record :: earlier) = lastOpening key earlier :=
    lastOpening_cons_of_not_opens hopens
  have hadmitted : admitted key (record :: earlier) = admitted key earlier + 1 := by
    rw [admitted_cons_of_not_opens hopens, if_pos hallowed]
  have hwithin : ∀ start,
      (∀ opening, lastOpening key earlier = some opening → opening.time ≤ start + window) →
        allowedIn key start (start + window) (record :: earlier) ≤
          limit + admitted key (record :: earlier) := by
    intro start hstart
    have hinside := hbounded.opened_within start hstart
    rw [hadmitted]
    exact Nat.le_trans allowedIn_cons_le (by omega)
  constructor
  · intro start hstart
    rw [hlast] at hstart
    have hinside := hbounded.opened_before start hstart
    rw [hadmitted]
    exact Nat.le_trans allowedIn_cons_le (by omega)
  · intro start hstart
    exact hwithin start (hlast ▸ hstart)
  · intro start
    by_cases hin : record.isAllowedIn key start (start + window) = true
    · have hupto := (Record.isAllowedIn_iff.1 hin).2.2
      have hinside := hwithin start fun opening hopening =>
        Nat.le_trans (hlate opening (List.mem_of_find?_eq_some hopening)) hupto
      omega
    · rw [allowedIn_cons_of_not hin]
      exact hbounded.allowedIn_le start
  · omega

theorem Lawful.bounded {records : List Record} (hlawful : Lawful key records) (hpos : 0 < limit)
    (hpolicy : ∀ record ∈ records, record.key = key →
      record.limit ≤ limit ∧ record.window = window) :
    Bounded key limit window records := by
  induction hlawful with
  | nil => constructor <;> simp [allowedIn, admitted, sinceOpening]
  | ignored hopens hallowed _ ih =>
      have hbounded := ih fun before hmem => hpolicy before (by simp [hmem])
      exact hbounded.cons_of_ignored hopens hallowed
  | opens hopens hallowed hnone hlate _ ih =>
      have hbounded := ih fun before hmem => hpolicy before (by simp [hmem])
      exact hbounded.cons_of_opens hpos
        (fun before hmem hkey => (hpolicy before (by simp [hmem]) hkey).2) hopens hallowed hnone
        hlate
  | @counts record earlier hopens hallowed hfree hlate _ ih =>
      have hbounded := ih fun before hmem => hpolicy before (by simp [hmem])
      have hlimit := (hpolicy record (by simp) (isAllowedOf_iff.1 hallowed).1).1
      exact hbounded.cons_of_counts hopens hallowed hlimit hfree hlate

end Bounded

/-- A stretch of history in which only the earliest check may open a window lies in one window. -/
theorem countP_isAllowedOf_le_admitted {key : String} (stretch earlier : List Record)
    (hone : ∀ record ∈ stretch.dropLast, record.opens key = false) :
    stretch.countP (·.isAllowedOf key) ≤ admitted key (stretch ++ earlier) := by
  induction stretch with
  | nil => exact Nat.zero_le _
  | cons record rest ih =>
      rw [List.countP_cons, List.cons_append]
      cases hopens : record.opens key with
      | true =>
          have hrest : rest = [] := by
            cases rest with
            | nil => rfl
            | cons next rest => exact absurd hopens (by simp [hone record (by simp)])
          subst hrest
          refine Nat.le_of_eq ?_
          rw [List.nil_append, admitted_cons_of_opens hopens, List.countP_nil, Nat.zero_add]
      | false =>
          have hrest := ih fun before hbefore => hone before <| by
            cases rest with
            | nil => cases hbefore
            | cons next rest => exact List.mem_cons_of_mem _ hbefore
          rw [admitted_cons_of_not_opens hopens]
          exact Nat.add_le_add_right hrest _

/-- The quota of a key: at most twice the limit in an interval as long as a window, and at most the
limit from one opening to the next. -/
theorem quota_run {key : String} {limit window : Nat} (hpos : 0 < limit) (steps : List Step)
    (htimely : Timely steps) (hfits : Fits steps)
    (hpolicy : ∀ record ∈ (Log.run steps).records, record.key = key →
      record.limit ≤ limit ∧ record.window = window) :
    (∀ start, allowedIn key start (start + window) (Log.run steps).records ≤ 2 * limit) ∧
    ∀ later stretch earlier, (Log.run steps).records = later ++ (stretch ++ earlier) →
      (∀ record ∈ stretch.dropLast, record.opens key = false) →
        stretch.countP (·.isAllowedOf key) ≤ limit := by
  have hlawful := lawful_run key steps htimely hfits
  refine ⟨(hlawful.bounded hpos hpolicy).allowedIn_le, fun later stretch earlier hsplit hone => ?_⟩
  rw [hsplit] at hlawful hpolicy
  have hbounded := hlawful.of_append.bounded hpos fun record hrecord =>
    hpolicy record (List.mem_append_right _ hrecord)
  calc stretch.countP (·.isAllowedOf key)
      ≤ admitted key (stretch ++ earlier) := countP_isAllowedOf_le_admitted stretch earlier hone
    _ ≤ limit := hbounded.admitted_le

end Throttle.Store
