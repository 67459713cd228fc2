import Throttle.Proofs.Limiter.Answer
import Throttle.Proofs.Limiter.Books
import Throttle.Proofs.Settings.Bounds
import Throttle.Proofs.Store.Hint

/-!
# What a denial says of its window

A faithful counter may also count down: with every count it tells how many whole seconds its window
has left, if any.  A limiter passes them on to those it denies.  In the last second of a window
there are none, and it has them wait for a whole window instead.  Main statement: but for that last
second, no denial overstates what is left of its window; and one in memory never does.
-/

namespace Throttle

namespace SharedWindow

/-- The whole seconds that a window has left, if there are any. -/
def secsLeft? (current : SharedWindow) (now : Nat) : Option Nat :=
  let seconds := Duration.secs (current.endsAt - now)
  if seconds = 0 then none else some seconds

theorem lt_endsAt_next {window : Nat} (hpos : 0 < window) (before : Option SharedWindow)
    (now : Nat) : now < (next window before now).endsAt := by
  unfold next
  split
  · dsimp only
    omega
  · split
    · dsimp only
      omega
    · next hopen => exact Nat.lt_of_not_le hopen

end SharedWindow

/-- A faithful counter that counts down. -/
class CountdownCounter (κ : Type) [SharedCounter κ] [FaithfulCounter κ] : Prop where
  ttl_finish (counter : κ) (name : String) (window now : Nat) (answer : SharedCount)
    (hanswer : (SharedCounter.finish counter name window now).2 = .ok answer) :
    answer.ttl = (SharedWindow.next window (FaithfulCounter.windows counter name) now).secsLeft? now

instance : CountdownCounter Scripted.Counting where
  ttl_finish counter name window now answer hanswer := by
    obtain ⟨counter, hreplies⟩ := counter
    have hnext := Scripted.Counting.next_eq counter.counts name window now
    cases hfailure : counter.failure with
    | some error => simp [SharedCounter.finish, Scripted.answer, hfailure] at hanswer
    | none =>
        simp only [SharedCounter.finish, Scripted.answer, hfailure, hreplies, Scripted.count,
          Except.ok.injEq] at hanswer
        subst hanswer
        change _ = (SharedWindow.next window (counter.counts.get? name) now).secsLeft? now
        rw [hnext]
        rfl

section Settle

variable {κ : Type} [SharedCounter κ]

theorem SharedBackend.finish_of_settle (backend : SharedBackend κ) (key : CounterKey)
    (window : Nat) (inTime : Bool) (now : Nat) {answer : SharedCount}
    (hended : (backend.settle key window inTime now).value = .ok answer) :
    (SharedCounter.finish backend.counter (key.sharedName backend.keyPrefix) window now).2 =
      .ok answer := by
  cases inTime with
  | false => cases hended
  | true =>
      have hfinish : (backend.finish key window now).value = .ok answer := hended
      unfold finish conclude at hfinish
      dsimp only at hfinish
      split at hfinish
      · next count hcount => rw [hcount, ← hfinish]
      · cases hfinish

variable [FaithfulCounter κ] [CountdownCounter κ]

/-- An increment that is answered has been counted in a window that is still open, and is answered
with what that has counted and has left. -/
theorem SharedBackend.exists_window_of_settle (backend : SharedBackend κ) (key : CounterKey)
    {window : Nat} (hpos : 0 < window) (inTime : Bool) (now : Nat) {answer : SharedCount}
    (hended : (backend.settle key window inTime now).value = .ok answer) :
    ∃ current, (backend.settle key window inTime now).state.windows
        (key.sharedName backend.keyPrefix) = some current ∧
      now < current.endsAt ∧ answer = ⟨current.count, current.secsLeft? now⟩ := by
  have hfinish := backend.finish_of_settle key window inTime now hended
  have httl := CountdownCounter.ttl_finish _ _ _ _ _ hfinish
  rcases backend.settle_faithful key window inTime now with
    ⟨ttl, hvalue, hwindows⟩ | ⟨error, hvalue, -⟩
  · rw [hvalue] at hended
    obtain rfl := Except.ok.inj hended
    refine ⟨_, by rw [hwindows, SharedWindow.increment_self],
      SharedWindow.lt_endsAt_next hpos _ now, ?_⟩
    rw [SharedCount.mk.injEq]
    exact ⟨rfl, httl⟩
  · rw [hvalue] at hended
    cases hended

end Settle

/-! ## What a denial says -/

namespace Duration

theorem secs_eq_zero_iff {d : Nat} : secs d = 0 ↔ d < ofSecs 1 := by
  unfold secs ofSecs
  omega

theorem secs_le_cover (d : Nat) : secs d ≤ cover d := by
  rw [cover_eq, secs]
  omega

theorem cover_le_one {d : Nat} (hshort : d < ofSecs 1) : cover d ≤ 1 :=
  cover_le_iff.2 (Nat.le_of_lt hshort)

end Duration

/-- With a second or more left, the client is told to wait for the whole seconds, and else for a
whole window. -/
theorem SharedCount.denied_of_window {current : SharedWindow} {policy : WindowPolicy}
    {now seconds : Nat}
    (hdenied : admission ⟨current.count, current.secsLeft? now⟩ policy = .denied seconds) :
    policy.limit.toNat < current.count ∧
      seconds = if Duration.ofSecs 1 ≤ current.endsAt - now then
          Duration.secs (current.endsAt - now)
        else policy.windowSecs.toNat := by
  unfold admission at hdenied
  dsimp only [SharedWindow.secsLeft?] at hdenied
  split at hdenied
  · cases hdenied
  · next hbeyond =>
    refine ⟨Nat.lt_of_not_le hbeyond, ?_⟩
    by_cases hlast : current.endsAt - now < Duration.ofSecs 1
    · rw [if_pos (Duration.secs_eq_zero_iff.2 hlast)] at hdenied
      rw [if_neg (Nat.not_le.2 hlast)]
      injection hdenied with hseconds
      exact hseconds.symm
    · have hsome : Duration.secs (current.endsAt - now) ≠ 0 :=
        fun hzero => hlast (Duration.secs_eq_zero_iff.1 hzero)
      obtain ⟨rest, hrest⟩ := Nat.exists_eq_succ_of_ne_zero hsome
      rw [if_neg hsome, hrest] at hdenied
      rw [if_pos (Nat.le_of_not_lt hlast), hrest]
      injection hdenied with hseconds
      exact hseconds.symm

/-- Only in its last second is a window overstated, and then unless it is no longer than that. -/
theorem Duration.wait_le_iff (left window : Nat) :
    (if ofSecs 1 ≤ left then secs left else window) ≤ max 1 (cover left) ↔
      ofSecs 1 ≤ left ∨ window ≤ 1 := by
  by_cases hlong : ofSecs 1 ≤ left
  · rw [if_pos hlong]
    exact iff_of_true (Nat.le_trans (secs_le_cover left) (Nat.le_max_right ..)) (.inl hlong)
  · have hone : max 1 (cover left) = 1 := Nat.max_eq_left (cover_le_one (Nat.lt_of_not_le hlong))
    rw [if_neg hlong, hone]
    exact (or_iff_right hlong).symm

theorem Store.exists_counter_of_check_denied {store : Store} {key : String}
    {limit window now seconds : Nat}
    (hdenied : (store.check key limit window now).value = .ok (.denied seconds)) :
    ∃ counter, (store.check key limit window now).state.get? key = some counter ∧
      now ≤ counter.resetAt ∧ seconds ≤ max 1 (Duration.cover (counter.resetAt - now)) := by
  obtain ⟨counter, hlive, hfull, rfl⟩ := live_of_check_denied hdenied
  rw [check_of_live_full hlive hfull]
  obtain ⟨hget, hlive⟩ := live_eq_some_iff.1 hlive
  refine ⟨counter, hget, (Counter.isLive_iff.1 hlive).2, ?_⟩
  rw [← Duration.max_secsUp_add]
  exact Nat.le_add_right _ _

namespace Session

variable {κ : Type} [SharedCounter κ] [FaithfulCounter κ]

/-- Where an answer was counted, as it is in the session that has gone on from there. -/
inductive Counted (settings : Settings) (after : Session κ) (verdict : Verdict) : Prop where
  | refused (hanswer : verdict.answer = .ok (.unavailable 1))
  | shared (current : SharedWindow) (hsource : verdict.source = .shared)
      (hcurrent : after.books.windows (verdict.key.sharedName settings.keyPrefix) = some current)
      (hopen : verdict.time < current.endsAt)
      (hanswer : verdict.answer =
        .ok (SharedCount.admission ⟨current.count, current.secsLeft? verdict.time⟩
          (settings.policy (.of verdict.key.method))))
  | local_ (store : Store) (hsource : verdict.source = .local_)
      (hstore : after.limiter.store = (settings.checkIn store verdict.key verdict.time).state)
      (hanswer : verdict.answer = (settings.checkIn store verdict.key verdict.time).value)

variable [CountdownCounter κ] {settings : Settings}

theorem Charged.counted_in {before after : Session κ} {pending : Pending} {time : Nat}
    {backend : SharedBackend κ}
    (hcharged : Charged before pending time
      (backend.settle pending.key pending.policy.window pending.inTime time) after)
    (hpolicy : pending.policy = settings.policy (.of pending.key.method))
    (hkeyPrefix : backend.keyPrefix = settings.keyPrefix) (hpos : 0 < pending.policy.window) :
    ∃ verdict, verdict.time = time ∧ after.verdicts = verdict :: before.verdicts ∧
      Counted settings after verdict := by
  cases hcharged with
  | counted answer verdict hended hkey htime hanswer hsource =>
      obtain ⟨current, hcurrent, hopen, rfl⟩ :=
        backend.exists_window_of_settle pending.key hpos pending.inTime time hended
      refine ⟨verdict, htime, rfl, .shared current hsource ?_ (htime ▸ hopen) ?_⟩
      · rw [hkey, ← hkeyPrefix]
        exact hcurrent
      · rw [hanswer, hpolicy, hkey, htime]
  | refused error verdict _ _ _ htime hanswer => exact ⟨verdict, htime, rfl, .refused hanswer⟩
  | fellBack error verdict _ _ hkey htime hanswer _ hsource =>
      refine ⟨verdict, htime, rfl, .local_ before.limiter.store hsource ?_ ?_⟩
      · rw [hkey, htime, Settings.checkIn, ← hpolicy]
        rfl
      · rw [hkey, htime, Settings.checkIn, ← hpolicy]
        exact hanswer

/-- An action gives no answer, or one that was counted just then. -/
theorem Wired.step_counted {session : Session κ} (hwired : Wired settings session)
    (hshared : settings.usesShared = true)
    (hpos : ∀ methods, 0 < (settings.policy methods).window) (timed : TimedAction κ) :
    (session.step timed).verdicts = session.verdicts ∨
      ∃ verdict, verdict.time = timed.time ∧
        (session.step timed).verdicts = verdict :: session.verdicts ∧
        Counted settings (session.step timed) verdict := by
  obtain ⟨backend, hbackend, hkeyPrefix⟩ := hwired.exists_backend hshared
  have hmove := hwired.move timed
  generalize session.step timed = after at hmove ⊢
  cases hmove with
  | quiet hquiet => exact .inl hquiet.verdicts_eq
  | refused verdict _ _ htime hanswer => exact .inr ⟨verdict, htime, rfl, .refused hanswer⟩
  | @checked verdict policy checked _ hpolicy hchecked _ htime hanswer _ hsource =>
      have hcheck :
          settings.checkIn session.limiter.store verdict.key verdict.time = checked := by
        rw [Settings.checkIn, ← hwired.settings_eq, hpolicy, htime]
        exact hchecked
      have hlocal : verdict.source = .local_ := hsource (by rw [hbackend]; rfl)
      refine .inr ⟨verdict, htime, rfl, .local_ session.limiter.store hlocal ?_ ?_⟩
      · rw [hcheck]
        rfl
      · rw [hcheck, hanswer]
  | begun => exact .inl rfl
  | charged other pending hother _ _ hpolicy hcharged =>
      cases hbackend.symm.trans hother
      rw [hwired.settings_eq] at hpolicy
      exact .inr (hcharged.counted_in hpolicy.symm hkeyPrefix (hpolicy ▸ hpos _))
  | resumed other pending place hother hpending hcharged =>
      cases hbackend.symm.trans hother
      have hpolicy := (hwired.suspended pending (List.mem_of_getElem? hpending)).2
      exact .inr (hcharged.counted_in hpolicy hkeyPrefix (hpolicy ▸ hpos _))

section Run

variable (source : Source) (counter : κ) (sweepInterval : Nat)

/-- Every answer of a run was counted by one of its actions. -/
theorem exists_counted (actions : List (TimedAction κ))
    (hshared : (Settings.resolve source).value.usesShared = true) :
    let settings := (Settings.resolve source).value
    let after (done : List (TimedAction κ)) : Session κ :=
      (ofSettings settings counter sweepInterval).run done
    ∀ verdict ∈ (after actions).verdicts, ∃ earlier last later,
      actions = earlier ++ [last] ++ later ∧ verdict.time = last.time ∧
        (after (earlier ++ [last])).verdicts = verdict :: (after earlier).verdicts ∧
        Counted settings (after (earlier ++ [last])) verdict := by
  intro settings after verdict hverdict
  have hstep : ∀ earlier last,
      (after (earlier ++ [last])).verdicts = (after earlier).verdicts ∨
        ∃ verdict, (after (earlier ++ [last])).verdicts = verdict :: (after earlier).verdicts ∧
          verdict.time = last.time ∧ Counted settings (after (earlier ++ [last])) verdict := by
    intro earlier last
    have hwired : Wired settings (after earlier) := wired_run settings counter sweepInterval _
    have hanswers := hwired.step_counted hshared (Settings.resolve_window_pos source) last
    rw [← run_concat] at hanswers
    rcases hanswers with hsame | ⟨verdict, htime, hverdicts, hcounted⟩
    · exact .inl hsame
    · exact .inr ⟨verdict, hverdicts, htime, hcounted⟩
  obtain ⟨earlier, last, later, hactions, hverdicts, htime, hcounted⟩ :=
    exists_action_of_verdict (fun done => (after done).verdicts) _ rfl hstep actions verdict
      hverdict
  exact ⟨earlier, last, later, hactions, htime, hverdicts, hcounted⟩

/-- A denial says how long the window that it was counted in still lasts, as it is then: in whole
seconds, or by the length of a whole window if that is the shared one in its last second; and in no
other case is it more than the time that is left, rounded up, and one second at the least. -/
theorem retryAfter_counts_down (actions : List (TimedAction κ))
    (hshared : (Settings.resolve source).value.usesShared = true) :
    let settings := (Settings.resolve source).value
    let after (done : List (TimedAction κ)) : Session κ :=
      (ofSettings settings counter sweepInterval).run done
    ∀ verdict ∈ (after actions).verdicts, ∀ seconds, verdict.answer = .ok (.denied seconds) →
      ∃ earlier last later, actions = earlier ++ [last] ++ later ∧ verdict.time = last.time ∧
        (after (earlier ++ [last])).verdicts = verdict :: (after earlier).verdicts ∧
        let policy := settings.policy (.of verdict.key.method)
        let now := after (earlier ++ [last])
        ((verdict.source = .shared ∧ ∃ current,
            now.books.windows (verdict.key.sharedName settings.keyPrefix) = some current ∧
              verdict.time < current.endsAt ∧ policy.limit.toNat < current.count ∧
              let left := current.endsAt - verdict.time
              (seconds = if Duration.ofSecs 1 ≤ left then Duration.secs left
                else policy.windowSecs.toNat) ∧
              (seconds ≤ max 1 (Duration.cover left) ↔
                Duration.ofSecs 1 ≤ left ∨ policy.windowSecs = 1)) ∨
          verdict.source = .local_ ∧ ∃ counter,
            now.limiter.store.get? verdict.key.localName = some counter ∧
              verdict.time ≤ counter.resetAt ∧
              seconds ≤ max 1 (Duration.cover (counter.resetAt - verdict.time))) := by
  intro settings after verdict hverdict seconds hdenied
  obtain ⟨earlier, last, later, hactions, htime, hverdicts, hcounted⟩ :=
    exists_counted source counter sweepInterval actions hshared verdict hverdict
  refine ⟨earlier, last, later, hactions, htime, hverdicts, ?_⟩
  intro policy now
  cases hcounted with
  | refused hanswer => simp [hanswer] at hdenied
  | shared current hsource hcurrent hopen hanswer =>
      rw [hanswer, Except.ok.injEq] at hdenied
      obtain ⟨hlimit, hseconds⟩ := SharedCount.denied_of_window hdenied
      refine .inl ⟨hsource, current, hcurrent, hopen, hlimit, hseconds, ?_⟩
      have hwindow : policy.windowSecs.toNat ≤ 1 ↔ policy.windowSecs = 1 := by
        have hpos := Settings.resolve_windowSecs_pos source (.of verdict.key.method)
        rw [← UInt64.toNat_inj]
        change policy.windowSecs.toNat ≤ 1 ↔ policy.windowSecs.toNat = 1
        exact ⟨fun hle => Nat.le_antisymm hle hpos, Nat.le_of_eq⟩
      rw [hseconds, Duration.wait_le_iff]
      exact or_congr_right hwindow
  | local_ store hsource hstore hanswer =>
      rw [hanswer, Settings.checkIn] at hdenied
      obtain ⟨counter, hget, hopen, hseconds⟩ := Store.exists_counter_of_check_denied hdenied
      refine .inr ⟨hsource, counter, ?_, hopen, hseconds⟩
      exact hstore ▸ hget

end Run

/-- With a second and a half left of a minute, the client is told to wait for one second. -/
theorem retryAfter_counts_down_to_a_second :
    let source : Source := .ofList
      [("RATE_LIMIT_STORE", "shared"), ("RATE_LIMIT_GET_MAX", "1"), ("RATE_LIMIT_GET_WINDOW", "60")]
    let settings := (Settings.resolve source).value
    let actions : List (TimedAction Scripted.Counting) :=
      [⟨0, .start⟩, ⟨0, .notify .ready⟩, ⟨0, .request "GET" "c"⟩,
        ⟨Duration.ofMillis 58500, .request "GET" "c"⟩]
    let session := (ofSettings settings Scripted.Counting.fresh 5).run actions
    settings.usesShared = true ∧
      ∃ verdict ∈ session.verdicts, verdict.answer = .ok (.denied 1) ∧ verdict.source = .shared ∧
        ∃ current : SharedWindow, verdict.time < current.endsAt ∧
          let left := current.endsAt - verdict.time
          1 = (if Duration.ofSecs 1 ≤ left then Duration.secs left
            else (settings.policy (.of verdict.key.method)).windowSecs.toNat) := by
  intro source settings actions session
  have hshared : settings.usesShared = true := by decide
  have hany : session.verdicts.any (fun verdict =>
      verdict.answer = .ok (.denied 1) ∧ verdict.source = .shared) = true := by decide +kernel
  obtain ⟨verdict, hverdict, hboth⟩ := List.any_eq_true.1 hany
  obtain ⟨hdenied, hsource⟩ := of_decide_eq_true hboth
  obtain ⟨-, -, -, -, -, -, ⟨-, current, -, hopen, -, hseconds, -⟩ | ⟨hlocal, -⟩⟩ :=
    retryAfter_counts_down source Scripted.Counting.fresh 5 actions hshared verdict hverdict 1
      hdenied
  · exact ⟨hshared, verdict, hverdict, hdenied, hsource, current, hopen, hseconds⟩
  · simp [hsource] at hlocal

/-- Half a second is left of a minute, and the client is told to wait for another one, where one
second is enough to cover what is left. -/
theorem whole_window_in_last_second :
    let source : Source := .ofList
      [("RATE_LIMIT_STORE", "shared"), ("RATE_LIMIT_GET_MAX", "1"), ("RATE_LIMIT_GET_WINDOW", "60")]
    let settings := (Settings.resolve source).value
    let actions : List (TimedAction Scripted.Counting) :=
      [⟨0, .start⟩, ⟨0, .notify .ready⟩, ⟨0, .request "GET" "c"⟩,
        ⟨Duration.ofMillis 59500, .request "GET" "c"⟩]
    let session := (ofSettings settings Scripted.Counting.fresh 5).run actions
    let key := CounterKey.of "c" "GET"
    settings.usesShared = true ∧
      (session.verdicts.map fun verdict => (verdict.source, verdict.time, verdict.answer)) =
        [(.shared, Duration.ofMillis 59500, .ok (.denied 60)), (.shared, 0, .ok .allowed)] ∧
      session.books.windows (key.sharedName settings.keyPrefix) = some ⟨2, Duration.ofSecs 60⟩ ∧
      ¬ 60 ≤ max 1 (Duration.cover (Duration.ofSecs 60 - Duration.ofMillis 59500)) := by
  decide +kernel

end Session

end Throttle
