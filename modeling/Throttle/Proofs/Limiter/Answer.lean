import Throttle.Proofs.Shared.Observed

/-!
# How an answer comes about

An action gives one answer at most.  It is a refusal for want of the shared counter, or what an
answer of the shared counter means, or the outcome of a check in memory; and only such a check, or a
sweep, touches the counters in memory.
-/

namespace Throttle

/-- The check of the counters in memory that a request for a key is. -/
def Settings.checkIn (settings : Settings) (store : Store) (key : CounterKey) (time : Nat) :
    Outcome Store (Except Fault Admission) :=
  store.check key.localName (settings.policy (.of key.method)).limit.toNat
    (settings.policy (.of key.method)).window time

namespace Session

variable {κ : Type} [SharedCounter κ] {settings : Settings}

/-- How an answer came about while the counters in memory were those of a store, in a session that
has gone on to be `after`. -/
inductive Answered (settings : Settings) (store : Store) (after : Session (Observed κ))
    (verdict : Verdict) : Prop where
  | refused (hstore : after.limiter.store = store) (hanswer : verdict.answer = .ok (.unavailable 1))
  | counted (answer : SharedCount) (hstore : after.limiter.store = store)
      (hknown : ((settings.policy (.of verdict.key.method)).window, answer) ∈ after.answers)
      (hanswer : verdict.answer =
        .ok (answer.admission (settings.policy (.of verdict.key.method))))
  | checked (hstore : after.limiter.store = (settings.checkIn store verdict.key verdict.time).state)
      (hanswer : verdict.answer = (settings.checkIn store verdict.key verdict.time).value)

theorem Charged.answers_eq {before after : Session (Observed κ)} {pending : Pending} {time : Nat}
    {backend : SharedBackend (Observed κ)}
    (hcharged : Charged before pending time
      (backend.settle pending.key pending.policy.window pending.inTime time) after) :
    after.answers = (Observed.answerOf? pending.policy.window (backend.settle pending.key
      pending.policy.window pending.inTime time).value).toList ++ backend.counter.answers := by
  have haccount := (backend.account_settle pending.key pending.policy.window pending.inTime time).2
  cases hcharged with
  | counted => exact haccount
  | refused => exact haccount
  | fellBack => exact haccount

/-- The end of an increment is the answer to its request. -/
theorem Charged.answered {before after : Session (Observed κ)} {pending : Pending} {time : Nat}
    {backend : SharedBackend (Observed κ)}
    (hcharged : Charged before pending time
      (backend.settle pending.key pending.policy.window pending.inTime time) after)
    (hpolicy : pending.policy = settings.policy (.of pending.key.method)) :
    ∃ verdict, verdict.time = time ∧ after.verdicts = verdict :: before.verdicts ∧
      Answered settings before.limiter.store after verdict := by
  have hanswers := hcharged.answers_eq
  cases hcharged with
  | counted answer verdict hended hkey htime hanswer =>
      refine ⟨verdict, htime, rfl, .counted answer rfl ?_ ?_⟩
      · rw [hanswers, hended, hkey, hpolicy]
        exact List.mem_cons_self
      · rw [hanswer, hpolicy, hkey]
  | refused error verdict _ _ _ htime hanswer => exact ⟨verdict, htime, rfl, .refused rfl hanswer⟩
  | fellBack error verdict _ _ hkey htime hanswer =>
      refine ⟨verdict, htime, rfl, .checked ?_ ?_⟩
      · rw [hkey, htime, Settings.checkIn, ← hpolicy]
        rfl
      · rw [hkey, htime, Settings.checkIn, ← hpolicy]
        exact hanswer

omit [SharedCounter κ] in
theorem answers_eq_of_shared_map {before after : Session (Observed κ)}
    {change : SharedBackend (Observed κ) → SharedBackend (Observed κ)}
    (hshared : after.limiter.shared = before.limiter.shared.map change)
    (hchange : ∀ backend, (change backend).counter.answers = backend.counter.answers) :
    after.answers = before.answers := by
  rw [answers, hshared, answers]
  cases before.limiter.shared with
  | none => rfl
  | some backend => exact hchange backend

theorem answers_effect_observed (action : Action κ) (observed : Observed κ) :
    (action.observed.effect observed).answers = observed.answers := by
  cases action <;> rfl

/-- An action forgets no answer of the shared counter.  It gives no answer to a request and sweeps
the counters in memory at most, or it gives one answer. -/
theorem Wired.step_answered {session : Session (Observed κ)} (hwired : Wired settings session)
    (timed : TimedAction κ) :
    let after := session.step timed.observed
    session.answers ⊆ after.answers ∧
      ((after.verdicts = session.verdicts ∧ ∃ ticks, after.limiter.store =
          session.limiter.store.sweepEach (List.replicate ticks timed.time)) ∨
        ∃ verdict, verdict.time = timed.time ∧ after.verdicts = verdict :: session.verdicts ∧
          Answered settings session.limiter.store after verdict) := by
  intro after
  have hmove : Move session timed.observed after := hwired.move timed.observed
  generalize after = after at hmove ⊢
  cases hmove with
  | quiet hquiet =>
      obtain ⟨change, available, hchange, hshared⟩ := hquiet.shared_eq
      have hkept : after.answers = session.answers := by
        refine answers_eq_of_shared_map hshared fun backend => ?_
        rcases hchange with rfl | rfl
        · rfl
        · exact answers_effect_observed timed.action backend.counter
      exact ⟨hkept ▸ List.Subset.refl _, .inl ⟨hquiet.verdicts_eq, hquiet.store_eq⟩⟩
  | refused verdict _ _ htime hanswer =>
      exact ⟨List.Subset.refl _, .inr ⟨verdict, htime, rfl, .refused rfl hanswer⟩⟩
  | @checked verdict policy checked _ hpolicy hchecked _ htime hanswer =>
      have hcheck :
          settings.checkIn session.limiter.store verdict.key verdict.time = checked := by
        rw [Settings.checkIn, ← hwired.settings_eq, hpolicy, htime]
        exact hchecked
      refine ⟨List.Subset.refl _, .inr ⟨verdict, htime, rfl, .checked ?_ ?_⟩⟩
      · rw [hcheck]
        rfl
      · rw [hcheck, hanswer]
  | begun backend pending hshared =>
      refine ⟨?_, .inl ⟨rfl, 0, rfl⟩⟩
      rw [answers, hshared]
      exact List.Subset.refl _
  | charged backend pending hshared _ _ hpolicy hcharged =>
      have hanswers := hcharged.answers_eq
      refine ⟨?_, .inr (hcharged.answered (hwired.settings_eq ▸ hpolicy.symm))⟩
      rw [hanswers, answers, hshared]
      exact List.subset_append_right _ _
  | resumed backend pending place hshared hpending hcharged =>
      have hpolicy := (hwired.suspended pending (List.mem_of_getElem? hpending)).2
      have hanswers := hcharged.answers_eq
      refine ⟨?_, .inr (hcharged.answered hpolicy)⟩
      rw [hanswers, answers, hshared]
      exact List.subset_append_right _ _

section Run

variable (settings : Settings) (counter : κ) (sweepInterval : Nat)

theorem wired_observedRun (actions : List (TimedAction κ)) :
    Wired settings (observedRun settings counter sweepInterval actions) :=
  wired_run settings _ sweepInterval _

theorem answers_subset_append (actions later : List (TimedAction κ)) :
    (observedRun settings counter sweepInterval actions).answers ⊆
      (observedRun settings counter sweepInterval (actions ++ later)).answers := by
  induction later using List.reverseRecOn with
  | nil =>
      rw [List.append_nil]
      exact List.Subset.refl _
  | append_singleton later last ih =>
      rw [← List.append_assoc, observedRun_concat]
      have hwired := wired_observedRun settings counter sweepInterval (actions ++ later)
      exact List.Subset.trans ih (hwired.step_answered last).1

/-- Every answer of a run came about by one of its actions. -/
theorem exists_answered (actions : List (TimedAction κ)) :
    ∀ verdict ∈ (observedRun settings counter sweepInterval actions).verdicts,
      ∃ earlier last later, actions = earlier ++ [last] ++ later ∧ verdict.time = last.time ∧
        Answered settings (observedRun settings counter sweepInterval earlier).limiter.store
          (observedRun settings counter sweepInterval (earlier ++ [last])) verdict := by
  let run := observedRun settings counter sweepInterval
  have hstep : ∀ earlier last, (run (earlier ++ [last])).verdicts = (run earlier).verdicts ∨
      ∃ verdict, (run (earlier ++ [last])).verdicts = verdict :: (run earlier).verdicts ∧
        verdict.time = last.time ∧
        Answered settings (run earlier).limiter.store (run (earlier ++ [last])) verdict := by
    intro earlier last
    have hwired := wired_observedRun settings counter sweepInterval earlier
    have hanswers := (hwired.step_answered last).2
    rw [← observedRun_concat] at hanswers
    rcases hanswers with ⟨hverdicts, -⟩ | ⟨verdict, htime, hverdicts, hanswered⟩
    · exact .inl hverdicts
    · exact .inr ⟨verdict, hverdicts, htime, hanswered⟩
  intro verdict hverdict
  obtain ⟨earlier, last, later, hactions, -, hanswered⟩ :=
    exists_action_of_verdict (fun done => (run done).verdicts) _ rfl hstep actions verdict hverdict
  exact ⟨earlier, last, later, hactions, hanswered⟩

end Run

end Session

end Throttle
