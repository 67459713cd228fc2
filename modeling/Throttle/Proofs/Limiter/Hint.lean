import Throttle.Proofs.Limiter.Answer
import Throttle.Proofs.Settings.Bounds
import Throttle.Proofs.Store.Hint
import Throttle.Shared.Scripted

/-!
# When to try again

A request that is turned away is told after how many seconds another try is worth while.  It never
is at once, and it is one second while the shared counter cannot be used.  A denied request is not
sent away for longer than a window of its policy, wherever it was counted: in memory because no
counter closes later than that, and by the shared counter if that keeps to the windows it is given.
-/

namespace Throttle

/-! ## Counters in memory -/

namespace Settings

/-- No counter in memory closes later than one window of its policy from now. -/
def ClosesInTime (settings : Settings) (now : Nat) (store : Store) : Prop :=
  ∀ key : CounterKey, HasNoColon key.method → ∀ counter, store.get? key.localName = some counter →
    counter.resetAt ≤ now + (settings.policy (.of key.method)).window

variable {settings : Settings} {store : Store} {now later : Nat}

theorem ClosesInTime.mono (hcloses : settings.ClosesInTime now store) (hle : now ≤ later) :
    settings.ClosesInTime later store := by
  intro key hkey counter hcounter
  have hnow := hcloses key hkey counter hcounter
  omega

theorem ClosesInTime.sweepEach (hcloses : settings.ClosesInTime now store) (instants : List Nat) :
    settings.ClosesInTime now (store.sweepEach instants) :=
  fun key hkey counter hcounter => hcloses key hkey counter (Store.get?_of_sweepEach hcounter)

/-- A check leaves the end of a window where it is, or opens a window that begins now. -/
theorem ClosesInTime.checkIn (hcloses : settings.ClosesInTime now store) {key : CounterKey}
    (hkey : HasNoColon key.method) :
    settings.ClosesInTime now (settings.checkIn store key now).state := by
  intro other hother counter hcounter
  rcases Store.resetAt_of_get?_check hcounter with
    ⟨before, hbefore, hsame⟩ | ⟨hname, -, hcounted⟩
  · rw [← hsame]
    exact hcloses other hother before hbefore
  · obtain rfl := (CounterKey.localName_inj hother hkey).1 hname
    exact hcounted

end Settings

/-! ## The shared counter -/

theorem SharedCount.one_le_of_denied {answer : SharedCount} {policy : WindowPolicy} {seconds : Nat}
    (hpolicy : 0 < policy.windowSecs.toNat)
    (hdenied : answer.admission policy = .denied seconds) : 1 ≤ seconds := by
  unfold admission at hdenied
  split at hdenied
  · cases hdenied
  · split at hdenied
    · injection hdenied with hseconds
      omega
    · injection hdenied with hseconds
      omega

theorem SharedCount.le_of_denied {answer : SharedCount} {policy : WindowPolicy} {seconds : Nat}
    (hfits : ∀ ttl ∈ answer.ttl, Duration.ofSecs ttl ≤ policy.window)
    (hdenied : answer.admission policy = .denied seconds) :
    seconds ≤ policy.windowSecs.toNat := by
  unfold admission at hdenied
  split at hdenied
  · cases hdenied
  · split at hdenied
    · next ttl httl =>
      injection hdenied with hseconds
      have hle := hfits (ttl + 1) httl
      unfold WindowPolicy.window Duration.ofSecs at hle
      omega
    · injection hdenied with hseconds
      omega

theorem SharedCount.admission_ne_unavailable (answer : SharedCount) (policy : WindowPolicy)
    (seconds : Nat) : answer.admission policy ≠ .unavailable seconds := by
  unfold admission
  split
  · simp
  · split <;> simp

namespace Session

variable {κ : Type}

/-- No answer of the shared counter has a count last longer than the window of its increment. -/
def TtlsFit (session : Session (Observed κ)) : Prop :=
  ∀ given ∈ session.answers, ∀ ttl ∈ given.2.ttl, Duration.ofSecs ttl ≤ given.1

instance (session : Session (Observed κ)) : Decidable session.TtlsFit :=
  inferInstanceAs (Decidable (∀ given ∈ session.answers, ∀ ttl ∈ given.2.ttl, _))

variable [SharedCounter κ] {settings : Settings}

omit [SharedCounter κ] in
theorem TtlsFit.of_subset {before after : Session (Observed κ)} (hfits : after.TtlsFit)
    (hsubset : before.answers ⊆ after.answers) : before.TtlsFit :=
  fun given hgiven => hfits given (hsubset hgiven)

/-! ## Answers -/

section Answered

variable {store : Store} {after : Session (Observed κ)} {verdict : Verdict} {seconds : Nat}

omit [SharedCounter κ] in
theorem Answered.one_le_of_denied (hanswered : Answered settings store after verdict)
    (hpositive : ∀ methods, 0 < (settings.policy methods).windowSecs.toNat)
    (hdenied : verdict.answer = .ok (.denied seconds)) : 1 ≤ seconds := by
  cases hanswered with
  | refused _ hanswer => simp [hanswer] at hdenied
  | counted answer _ _ hanswer =>
      rw [hanswer, Except.ok.injEq] at hdenied
      exact answer.one_le_of_denied (hpositive _) hdenied
  | checked _ hanswer =>
      rw [hanswer, Settings.checkIn] at hdenied
      obtain ⟨counter, -, -, rfl⟩ := Store.live_of_check_denied hdenied
      exact Store.one_le_retryAfter counter verdict.time

omit [SharedCounter κ] in
theorem Answered.eq_one_of_unavailable (hanswered : Answered settings store after verdict)
    (hunavailable : verdict.answer = .ok (.unavailable seconds)) : seconds = 1 := by
  cases hanswered with
  | refused _ hanswer =>
      rw [hanswer] at hunavailable
      injection hunavailable with hseconds
      injection hseconds with hseconds
      exact hseconds.symm
  | counted answer _ _ hanswer =>
      rw [hanswer, Except.ok.injEq] at hunavailable
      exact absurd hunavailable (answer.admission_ne_unavailable _ seconds)
  | checked _ hanswer =>
      rw [hanswer, Settings.checkIn] at hunavailable
      exact absurd hunavailable Store.check_ne_unavailable

omit [SharedCounter κ] in
theorem Answered.le_of_denied (hanswered : Answered settings store after verdict)
    (hpositive : ∀ methods, 0 < (settings.policy methods).windowSecs.toNat)
    (hfits : after.TtlsFit) (hcloses : settings.ClosesInTime verdict.time store)
    (hkey : HasNoColon verdict.key.method) (hdenied : verdict.answer = .ok (.denied seconds)) :
    seconds ≤ (settings.policy (.of verdict.key.method)).windowSecs.toNat := by
  cases hanswered with
  | refused _ hanswer => simp [hanswer] at hdenied
  | counted answer _ hknown hanswer =>
      rw [hanswer, Except.ok.injEq] at hdenied
      exact answer.le_of_denied (hfits _ hknown) hdenied
  | checked _ hanswer =>
      rw [hanswer, Settings.checkIn] at hdenied
      obtain ⟨counter, hlive, -, rfl⟩ := Store.live_of_check_denied hdenied
      have hcounter := (Store.live_eq_some_iff.1 hlive).1
      exact Store.retryAfter_le (hpositive _) (hcloses verdict.key hkey counter hcounter)

omit [SharedCounter κ] in
theorem Answered.closesInTime (hanswered : Answered settings store after verdict)
    (hcloses : settings.ClosesInTime verdict.time store) (hkey : HasNoColon verdict.key.method) :
    settings.ClosesInTime verdict.time after.limiter.store := by
  cases hanswered with
  | refused hstore => exact hstore ▸ hcloses
  | counted answer hstore => exact hstore ▸ hcloses
  | checked hstore => exact hstore ▸ hcloses.checkIn hkey

end Answered

/-! ## Runs -/

/-- In order of time, no counter in memory ever closes later than one window from now. -/
theorem closesInTime_observedRun (settings : Settings) (counter : κ) (sweepInterval : Nat)
    (actions : List (TimedAction κ)) (horder : InOrder actions) (hcolons : NoColons actions)
    (now : Nat) (hnow : ∀ timed ∈ actions, timed.time ≤ now) :
    settings.ClosesInTime now
      (observedRun settings counter sweepInterval actions).limiter.store := by
  induction actions using List.reverseRecOn generalizing now with
  | nil => exact fun key _ counter hcounter => nomatch hcounter
  | append_singleton actions last ih =>
      obtain ⟨hbefore, -, hlast⟩ := List.pairwise_append.1 horder
      have hclosed := ih hbefore (fun timed htimed => hcolons timed (List.mem_append_left _ htimed))
        last.time fun timed htimed => hlast timed htimed last (List.mem_singleton.2 rfl)
      refine Settings.ClosesInTime.mono ?_ (hnow last (by simp))
      have hwired := wired_observedRun settings counter sweepInterval actions
      have hstep := (hwired.step_answered last).2
      rw [← observedRun_concat] at hstep
      rcases hstep with ⟨-, ticks, hstore⟩ | ⟨verdict, htime, hverdicts, hanswered⟩
      · rw [hstore]
        exact hclosed.sweepEach _
      · have hmem : verdict ∈
            (observedRun settings counter sweepInterval (actions ++ [last])).verdicts :=
          hverdicts ▸ List.mem_cons_self
        rw [verdicts_observedRun] at hmem
        have hkey := hasNoColon_of_mem_verdicts hcolons verdict hmem
        rw [← htime] at hclosed ⊢
        exact hanswered.closesInTime hclosed hkey

/-- A request that is turned away is told to wait for a second at least, and for exactly one if the
shared counter cannot be used.  No denied request is told to wait for longer than a window of its
policy, if the clock does not run backwards and the shared counter keeps to the windows it is given,
whichever way the request went. -/
theorem retryAfter_bounds (source : Source) (counter : κ) (sweepInterval : Nat)
    (actions : List (TimedAction κ)) :
    let settings := (Settings.resolve source).value
    let verdicts := ((ofSettings settings counter sweepInterval).run actions).verdicts
    (∀ verdict ∈ verdicts, ∀ seconds,
      (verdict.answer = .ok (.denied seconds) → 1 ≤ seconds) ∧
        (verdict.answer = .ok (.unavailable seconds) → seconds = 1)) ∧
      (InOrder actions → NoColons actions →
        (observedRun settings counter sweepInterval actions).TtlsFit →
          ∀ verdict ∈ verdicts, ∀ seconds, verdict.answer = .ok (.denied seconds) →
            seconds ≤ (settings.policy (.of verdict.key.method)).windowSecs.toNat) := by
  intro settings verdicts
  have hpositive : ∀ methods, 0 < (settings.policy methods).windowSecs.toNat :=
    Settings.resolve_windowSecs_pos source
  have hsame : (observedRun settings counter sweepInterval actions).verdicts = verdicts :=
    verdicts_observedRun settings counter sweepInterval actions
  constructor
  · intro verdict hverdict seconds
    obtain ⟨earlier, last, later, -, -, hanswered⟩ :=
      exists_answered settings counter sweepInterval actions verdict (hsame ▸ hverdict)
    exact ⟨hanswered.one_le_of_denied hpositive, hanswered.eq_one_of_unavailable⟩
  · intro horder hcolons hfits verdict hverdict seconds hdenied
    have hkey := hasNoColon_of_mem_verdicts hcolons verdict hverdict
    obtain ⟨earlier, last, later, rfl, htime, hanswered⟩ :=
      exists_answered settings counter sweepInterval actions verdict (hsame ▸ hverdict)
    obtain ⟨hordered, -, -⟩ := List.pairwise_append.1 horder
    obtain ⟨hearlier, -, hlast⟩ := List.pairwise_append.1 hordered
    have hclosed : settings.ClosesInTime verdict.time
        (observedRun settings counter sweepInterval earlier).limiter.store := by
      refine closesInTime_observedRun settings counter sweepInterval earlier hearlier ?_ _ ?_
      · exact fun timed htimed => hcolons timed (by simp [htimed])
      · exact fun timed htimed => htime ▸ hlast timed htimed last (List.mem_singleton.2 rfl)
    have hsubset := answers_subset_append settings counter sweepInterval (earlier ++ [last]) later
    exact hanswered.le_of_denied hpositive (hfits.of_subset hsubset) hclosed hkey hdenied

/-- With a limit of one, the second of two requests is denied, by the shared counter while that can
be used and in memory once it has closed. -/
theorem retryAfter_bounds_on_each_path :
    let source : Source := .ofList
      [("RATE_LIMIT_STORE", "shared"), ("RATE_LIMIT_MEMORY_FALLBACK", "true"),
        ("RATE_LIMIT_GET_MAX", "1"), ("RATE_LIMIT_GET_WINDOW", "60")]
    let actions : List (TimedAction Scripted) :=
      [⟨0, .start⟩, ⟨0, .notify .ready⟩, ⟨1, .request "GET" "a"⟩, ⟨2, .request "GET" "a"⟩,
        ⟨3, .notify .closed⟩, ⟨3, .request "GET" "a"⟩, ⟨4, .request "GET" "a"⟩]
    let settings := (Settings.resolve source).value
    let verdicts := ((ofSettings settings ({} : Scripted) 5).run actions).verdicts
    InOrder actions ∧ NoColons actions ∧ (observedRun settings ({} : Scripted) 5 actions).TtlsFit ∧
      verdicts.map (·.answer) =
        [.ok (.denied 60), .ok .allowed, .ok (.denied 59), .ok .allowed] ∧
      (∀ verdict ∈ verdicts, ∀ seconds,
        (verdict.answer = .ok (.denied seconds) → 1 ≤ seconds) ∧
          (verdict.answer = .ok (.unavailable seconds) → seconds = 1)) ∧
      ∀ verdict ∈ verdicts, ∀ seconds, verdict.answer = .ok (.denied seconds) →
        seconds ≤ (settings.policy (.of verdict.key.method)).windowSecs.toNat := by
  intro source actions settings verdicts
  have horder : InOrder actions := by decide
  have hcolons : NoColons actions := by decide
  have hfits : (observedRun settings ({} : Scripted) 5 actions).TtlsFit := by decide +kernel
  have hbounds := retryAfter_bounds source ({} : Scripted) 5 actions
  exact ⟨horder, hcolons, hfits, by decide +kernel, hbounds.1, hbounds.2 horder hcolons hfits⟩

end Session

end Throttle
