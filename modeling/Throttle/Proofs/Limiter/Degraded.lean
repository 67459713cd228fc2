import Throttle.Proofs.Limiter.Books
import Throttle.Proofs.Limiter.Quota

/-!
# Quotas while the shared counter comes and goes

A limiter with a shared counter decides some requests by it and others in memory.  The former are
answers to increments of a faithful counter; the latter are the checks of a run of the store.  So
each of the two lets a client through at most twice as often in any interval as long as a window as
its limit says, however often they take turns.
-/

namespace Throttle

/-- Whether a request for a key was let through from one instant to another, both included, by an
answer that came from somewhere. -/
def Verdict.isAllowedBy (source : ActiveBackend) (key : CounterKey) (first last : Nat)
    (verdict : Verdict) : Bool :=
  decide (verdict.source = source) && verdict.isAllowedIn key first last

/-- The clock reaches the end of every window that may be opened when an action is taken. -/
def ClockFits {κ : Type} (settings : Settings) (actions : List (TimedAction κ)) : Prop :=
  ∀ timed ∈ actions, ∀ methods, timed.time + (settings.policy methods).window < Instant.bound

namespace Session

variable {κ : Type} [SharedCounter κ]

/-! ## The counters in memory -/

/-- A session next to the log of a run of its store, of which the checks are the answers that came
from there.  No other answers but those of the shared counter let a request through. -/
structure StandsIn (settings : Settings) (session : Session κ) (log : Store.Log) : Prop where
  store_eq : session.limiter.store = log.store
  records_eq : log.records = (session.verdicts.filter fun verdict =>
    decide (verdict.source = .local_)).map (·.record settings)
  refused : ∀ verdict ∈ session.verdicts, verdict.source = .unavailable →
    verdict.isAllowed = false

section StandsIn

omit [SharedCounter κ]

variable {settings : Settings} {before after : Session κ} {log : Store.Log}

/-- Sweeps, and whatever is not written down as an answer, show in the store alone. -/
theorem StandsIn.sweepEach (hstands : StandsIn settings before log) (instants : List Nat)
    (hstore : after.limiter.store = before.limiter.store.sweepEach instants)
    (hverdicts : after.verdicts = before.verdicts) :
    StandsIn settings after ((instants.map Store.Step.sweep).foldl Store.Log.next log) := by
  rw [Store.Log.foldl_next_sweep]
  refine ⟨?_, ?_, ?_⟩
  · rw [hstore, hstands.store_eq]
  · rw [hverdicts]
    exact hstands.records_eq
  · rw [hverdicts]
    exact hstands.refused

/-- An answer from elsewhere leaves the store alone. -/
theorem StandsIn.answered (hstands : StandsIn settings before log) {verdict : Verdict}
    (hstore : after.limiter.store = before.limiter.store)
    (hverdicts : after.verdicts = verdict :: before.verdicts)
    (hsource : verdict.source = .shared ∨
      verdict.source = .unavailable ∧ verdict.isAllowed = false) :
    StandsIn settings after log := by
  refine ⟨hstore.trans hstands.store_eq, ?_, ?_⟩
  · rw [hverdicts, List.filter_cons_of_neg, hstands.records_eq]
    rcases hsource with hshared | ⟨hunavailable, -⟩ <;> simp [*]
  · rw [hverdicts]
    refine List.forall_mem_cons.2 ⟨fun hunavailable => ?_, hstands.refused⟩
    rcases hsource with hshared | ⟨-, hrefused⟩
    · rw [hshared] at hunavailable
      cases hunavailable
    · exact hrefused

/-- An answer from memory is a check of the store. -/
theorem StandsIn.checked (hstands : StandsIn settings before log) {verdict : Verdict}
    {policy : WindowPolicy} (hpolicy : settings.policy (.of verdict.key.method) = policy)
    {checked : Outcome Store (Except Fault Admission)}
    (hchecked : before.limiter.store.check verdict.key.localName policy.limit.toNat policy.window
      verdict.time = checked)
    (hstore : after.limiter.store = checked.state)
    (hverdicts : after.verdicts = verdict :: before.verdicts)
    (hanswer : verdict.answer = checked.value)
    (hopened : verdict.opened = decide (.windowOpened verdict.key.localName ∈ checked.events))
    (hsource : verdict.source = .local_) :
    StandsIn settings after (log.next (settings.checkOf verdict.time verdict.key)) := by
  rw [hstands.store_eq] at hchecked
  rw [Settings.checkOf, hpolicy]
  refine ⟨?_, ?_, ?_⟩
  · rw [hstore, Store.Log.store_next_check, hchecked]
  · rw [hverdicts, List.filter_cons_of_pos (by simp [hsource]), List.map_cons,
      Store.Log.records_next_check, hstands.records_eq]
    refine congrArg (· :: _) ?_
    rw [Store.Log.recordOf, hchecked, Verdict.record, hpolicy, hanswer, hopened]
  · rw [hverdicts]
    exact List.forall_mem_cons.2 ⟨by simp [hsource], hstands.refused⟩

theorem Charged.standsIn {pending : Pending} {time : Nat}
    {ended : Outcome (SharedBackend κ) (Except LimiterError SharedCount)}
    (hcharged : Charged before pending time ended after)
    (hpolicy : settings.policy (.of pending.key.method) = pending.policy)
    (hstands : StandsIn settings before log) :
    ∃ steps : List Store.Step, StandsIn settings after (steps.foldl Store.Log.next log) ∧
      ∀ step ∈ steps, step = settings.checkOf time pending.key := by
  cases hcharged with
  | counted answer verdict _ _ _ _ hsource =>
      exact ⟨[], hstands.answered rfl rfl (.inl hsource), by simp⟩
  | refused error verdict _ _ _ _ hanswer hsource =>
      refine ⟨[], hstands.answered rfl rfl (.inr ⟨hsource, ?_⟩), by simp⟩
      rw [Verdict.isAllowed, hanswer]
      rfl
  | fellBack error verdict _ _ hkey htime hanswer hopened hsource =>
      rw [← hkey] at hpolicy hanswer hopened
      rw [← htime] at hanswer hopened
      refine ⟨[settings.checkOf verdict.time verdict.key], hstands.checked hpolicy rfl ?_ rfl
        hanswer hopened hsource, by simp [hkey, htime]⟩
      rw [hkey, htime]
      rfl

end StandsIn

/-- A move adds sweeps to the run of the store, or a check at most. -/
theorem Move.standsIn {settings : Settings} {before after : Session κ} {timed : TimedAction κ}
    (hmove : Move before timed after) (hwired : Wired settings before)
    (hshared : settings.usesShared = true) {log : Store.Log}
    (hstands : StandsIn settings before log) :
    ∃ steps : List Store.Step, StandsIn settings after (steps.foldl Store.Log.next log) ∧
      ∀ step ∈ steps, step = .sweep timed.time ∨ ∃ key, step = settings.checkOf timed.time key := by
  obtain ⟨backend, hbackend, -⟩ := hwired.exists_backend hshared
  cases hmove with
  | quiet hquiet =>
      obtain ⟨ticks, hstore⟩ := hquiet.store_eq
      exact ⟨_, hstands.sweepEach _ hstore hquiet.verdicts_eq, by simp⟩
  | refused verdict _ _ _ hanswer hsource =>
      refine ⟨[], hstands.answered rfl rfl (.inr ⟨hsource, ?_⟩), by simp⟩
      rw [Verdict.isAllowed, hanswer]
      rfl
  | checked verdict policy _ hpolicy hchecked _ htime hanswer hopened hsource =>
      rw [hwired.settings_eq] at hpolicy
      rw [← htime] at hchecked
      exact ⟨[settings.checkOf verdict.time verdict.key], hstands.checked hpolicy hchecked rfl rfl
        hanswer hopened (hsource (by simp [hbackend])), by simp [htime]⟩
  | begun => exact ⟨[], ⟨hstands.store_eq, hstands.records_eq, hstands.refused⟩, by simp⟩
  | charged backend' pending _ _ _ hpolicy hcharged =>
      rw [hwired.settings_eq] at hpolicy
      obtain ⟨steps, hafter, hsteps⟩ := hcharged.standsIn hpolicy
        ⟨hstands.store_eq, hstands.records_eq, hstands.refused⟩
      exact ⟨steps, hafter, fun step hstep => .inr ⟨_, hsteps step hstep⟩⟩
  | resumed backend' pending place _ hpending hcharged =>
      have hpolicy := (hwired.suspended pending (List.mem_of_getElem? hpending)).2
      obtain ⟨steps, hafter, hsteps⟩ := hcharged.standsIn hpolicy.symm
        ⟨hstands.store_eq, hstands.records_eq, hstands.refused⟩
      exact ⟨steps, hafter, fun step hstep => .inr ⟨_, hsteps step hstep⟩⟩

/-- What a session does in memory is a run of its store in order. -/
theorem standsIn_run {settings : Settings} (hshared : settings.usesShared = true) (counter : κ)
    (sweepInterval : Nat) (actions : List (TimedAction κ)) (horder : InOrder actions) :
    ∃ steps : List Store.Step,
      StandsIn settings ((ofSettings settings counter sweepInterval).run actions)
        (Store.Log.run steps) ∧
      (∀ step ∈ steps, ∃ timed ∈ actions,
        step = .sweep timed.time ∨ ∃ key, step = settings.checkOf timed.time key) ∧
      steps.Pairwise fun earlier later => earlier.time ≤ later.time := by
  induction actions using List.reverseRecOn with
  | nil => exact ⟨[], ⟨rfl, rfl, by simp [verdicts, ofSettings]⟩, by simp, List.Pairwise.nil⟩
  | append_singleton actions last ih =>
      obtain ⟨hbefore, -, hlast⟩ := List.pairwise_append.1 horder
      obtain ⟨steps, hstands, htimes, hordered⟩ := ih hbefore
      have hwired := wired_run settings counter sweepInterval actions
      obtain ⟨added, hafter, hadded⟩ := (hwired.move last).standsIn hwired hshared hstands
      -- All that a move does to the store, it does at its own time.
      have hnow : ∀ step ∈ added, step.time = last.time := fun step hstep => by
        rcases hadded step hstep with rfl | ⟨key, rfl⟩ <;> rfl
      refine ⟨steps ++ added, ?_, ?_, ?_⟩
      · rw [run_concat, Store.Log.run, List.foldl_append]
        exact hafter
      · intro step hstep
        rcases List.mem_append.1 hstep with hmem | hmem
        · obtain ⟨timed, htimed, hcase⟩ := htimes step hmem
          exact ⟨timed, List.mem_append_left _ htimed, hcase⟩
        · exact ⟨last, by simp, hadded step hmem⟩
      · refine List.pairwise_append.2 ⟨hordered, ?_, fun earlier hearlier later hlater => ?_⟩
        · refine List.pairwise_of_forall_mem_list fun earlier hearlier later hlater => ?_
          rw [hnow earlier hearlier, hnow later hlater]
        · obtain ⟨timed, htimed, hcase⟩ := htimes earlier hearlier
          have htime : earlier.time = timed.time := by
            rcases hcase with rfl | ⟨key, rfl⟩ <;> rfl
          rw [htime, hnow later hlater]
          exact hlast timed htimed last (by simp)

/-! ## Quotas -/

section Quota

variable {settings : Settings} {session : Session κ}

omit [SharedCounter κ] in
theorem StandsIn.countP_isAllowedBy {log : Store.Log} (hstands : StandsIn settings session log)
    {key : CounterKey} (hkey : HasNoColon key.method)
    (hverdicts : ∀ verdict ∈ session.verdicts, HasNoColon verdict.key.method) (first last : Nat) :
    session.verdicts.countP (·.isAllowedBy .local_ key first last) =
      Store.allowedIn key.localName first last log.records := by
  rw [Store.allowedIn, hstands.records_eq, countP_record fun verdict hverdict =>
    isAllowedIn_record hkey (hverdicts verdict (List.mem_filter.1 hverdict).1) first last,
    List.countP_filter]
  exact List.countP_congr fun verdict _ => by simp [Verdict.isAllowedBy, and_comm]

omit [SharedCounter κ] in
theorem StandsIn.countP_isAllowedIn_le {log : Store.Log} (hstands : StandsIn settings session log)
    (key : CounterKey) (first last : Nat) :
    session.verdicts.countP (·.isAllowedIn key first last) ≤
      session.verdicts.countP (·.isAllowedBy .shared key first last) +
        session.verdicts.countP (·.isAllowedBy .local_ key first last) := by
  rw [List.countP_eq_countP_filter_add _ _ fun verdict => decide (verdict.source = .shared),
    List.countP_filter, List.countP_filter]
  refine Nat.add_le_add (List.countP_mono_left fun verdict _ hin => ?_)
    (List.countP_mono_left fun verdict hverdict hin => ?_)
  · simpa [Verdict.isAllowedBy, and_comm] using hin
  · obtain ⟨hallowed, hother⟩ := Bool.and_eq_true_iff.1 hin
    cases hsource : verdict.source with
    | local_ => simp [Verdict.isAllowedBy, hsource, hallowed]
    | shared => simp [hsource] at hother
    | unavailable =>
        have hrefused := hstands.refused verdict hverdict hsource
        simp [Verdict.isAllowedIn, Verdict.isAllowedOf, hrefused] at hallowed

variable [FaithfulCounter κ]

theorem countP_isAllowedBy_shared (key : CounterKey) (first last : Nat) :
    session.verdicts.countP (·.isAllowedBy .shared key first last) =
      (session.books.answersOf key).countP (isGrantedIn first last) := by
  rw [Books.answersOf, List.countP_reverse, List.countP_map, List.countP_filter, Books.answered,
    List.countP_filter]
  refine List.countP_congr fun verdict _ => ?_
  simp only [Verdict.isAllowedBy, Verdict.isAllowedIn, Verdict.isAllowedOf, isGrantedIn,
    Function.comp_apply, Bool.and_eq_true, decide_eq_true_eq]
  tauto

/-- The quota of a client and a method with a shared counter that may fail, be late, or lose and
regain its connection at any time: what is counted late, or not at all, only takes from it. -/
theorem degraded_quota (source : Source) (counter : κ) (sweepInterval : Nat)
    (actions : List (TimedAction κ)) (method client : String)
    (hshared : (Settings.resolve source).value.usesShared = true) (horder : InOrder actions)
    (hcolons : NoColons actions) (hfit : ClockFits (Settings.resolve source).value actions)
    (hlate : ∀ timed ∈ actions, timed.MayCountLate (Settings.resolve source).value)
    (hmethod : HasNoColon method) :
    let settings := (Settings.resolve source).value
    let policy := settings.policy (.of method)
    let key := CounterKey.of client method
    let verdicts := ((ofSettings settings counter sweepInterval).run actions).verdicts
    ∀ start,
      verdicts.countP (·.isAllowedBy .shared key start (start + policy.window)) ≤
        2 * policy.limit.toNat ∧
      verdicts.countP (·.isAllowedBy .local_ key start (start + policy.window)) ≤
        2 * policy.limit.toNat ∧
      verdicts.countP (·.isAllowedIn key start (start + policy.window)) ≤
        4 * policy.limit.toNat := by
  intro settings policy key verdicts start
  have hkey : HasNoColon key.method := hmethod.normalMethod
  have hclass : MethodClass.of key.method = MethodClass.of method :=
    MethodClass.of_normalMethod method
  have hverdicts : ∀ verdict ∈ verdicts, HasNoColon verdict.key.method :=
    hasNoColon_of_mem_verdicts hcolons
  obtain ⟨steps, hstands, hsteps, hordered⟩ :=
    standsIn_run hshared counter sweepInterval actions horder
  have hby : verdicts.countP (·.isAllowedBy .shared key start (start + policy.window)) ≤
      2 * policy.limit.toNat := by
    obtain ⟨-, hrun⟩ := books_run hshared counter sweepInterval actions hcolons hlate
    obtain ⟨times, htallied, hsorted, -⟩ := hrun.tallied rfl horder hkey
    -- Increments that went unheard take room, so the answers are no more than what is granted.
    have hsublist := htallied.answersOf_sublist
    rw [hclass] at hsublist
    rw [countP_isAllowedBy_shared]
    exact Nat.le_trans (hsublist.countP_le)
      (countP_granted_le (Settings.resolve_window_pos source (.of method)) hsorted _)
  have hlocal : verdicts.countP (·.isAllowedBy .local_ key start (start + policy.window)) ≤
      2 * policy.limit.toNat := by
    have hfits : Store.Fits steps := by
      intro step hstep
      obtain ⟨timed, htimed, rfl | ⟨other, rfl⟩⟩ := hsteps step hstep
      · rfl
      · simpa [Store.Step.fits, Settings.checkOf] using hfit timed htimed (.of other.method)
    have hpolicy : ∀ record ∈ (Store.Log.run steps).records, record.key = key.localName →
        record.limit ≤ policy.limit.toNat ∧ record.window = policy.window := by
      rw [hstands.records_eq]
      intro record hrecord hname
      obtain ⟨verdict, hverdict, rfl⟩ := List.mem_map.1 hrecord
      obtain ⟨hlimit, hwindow⟩ := policy_of_record hmethod
        (hverdicts verdict (List.mem_filter.1 hverdict).1) hname
      exact ⟨Nat.le_of_eq hlimit, hwindow⟩
    have htimely : Store.Timely steps := by
      refine List.Pairwise.imp ?_ hordered
      exact fun hle _ => hle
    rw [hstands.countP_isAllowedBy hkey hverdicts]
    exact (Store.quota_run (Settings.resolve_limit_pos source (.of method)) steps htimely hfits
      hpolicy).1 start
  have htotal : verdicts.countP (·.isAllowedIn key start (start + policy.window)) ≤
      verdicts.countP (·.isAllowedBy .shared key start (start + policy.window)) +
        verdicts.countP (·.isAllowedBy .local_ key start (start + policy.window)) :=
    hstands.countP_isAllowedIn_le key start (start + policy.window)
  exact ⟨hby, hlocal, by omega⟩

/-- With a limit of one, three requests are let through in a second while the shared counter fails
and recovers: two by it, in two windows, and one in memory. -/
theorem degraded_quota_while_flapping :
    let source : Source := .ofList
      [("RATE_LIMIT_STORE", "shared"), ("RATE_LIMIT_MEMORY_FALLBACK", "true"),
        ("RATE_LIMIT_GET_MAX", "1"), ("RATE_LIMIT_GET_WINDOW", "1")]
    let actions : List (TimedAction Scripted.Counting) :=
      [⟨0, .start⟩, ⟨0, .notify .ready⟩, ⟨1, .request "GET" "a"⟩,
        ⟨2, .alter (.withFailure (some (.backend "down")))⟩, ⟨2, .request "GET" "a"⟩,
        ⟨3, .request "GET" "a"⟩, ⟨4, .alter (.withFailure none)⟩, ⟨4, .notify .ready⟩,
        ⟨5, .request "GET" "a"⟩, ⟨1000000001, .request "GET" "a"⟩]
    let settings := (Settings.resolve source).value
    let policy := settings.policy (.of "GET")
    let verdicts := ((ofSettings settings Scripted.Counting.fresh 5).run actions).verdicts
    settings.usesShared = true ∧ settings.memoryFallback = true ∧ InOrder actions ∧
      NoColons actions ∧ ClockFits settings actions ∧
      (∀ timed ∈ actions, timed.MayCountLate settings) ∧ HasNoColon "GET" ∧
      verdicts.countP (·.isAllowedBy .shared (.of "a" "GET") 1 (1 + policy.window)) = 2 ∧
      verdicts.countP (·.isAllowedBy .local_ (.of "a" "GET") 1 (1 + policy.window)) = 1 ∧
      verdicts.countP (·.isAllowedIn (.of "a" "GET") 1 (1 + policy.window)) ≤
        4 * policy.limit.toNat := by
  intro source actions settings policy verdicts
  have hshared : settings.usesShared = true := by decide
  have horder : InOrder actions := by decide
  have hcolons : NoColons actions := by decide
  have hfit : ClockFits settings actions := by
    intro timed htimed methods
    cases methods <;> revert timed <;> decide
  have hlate : ∀ timed ∈ actions, timed.MayCountLate settings := by
    simp only [actions, List.forall_mem_cons, TimedAction.MayCountLate]
    exact ⟨trivial, trivial, trivial, fun _ => .inl rfl, trivial, trivial, fun _ => .inl rfl,
      trivial, trivial, trivial, by simp⟩
  have hmethod : HasNoColon "GET" := by decide
  have hquota := degraded_quota source Scripted.Counting.fresh 5 actions "GET" "a" hshared horder
    hcolons hfit hlate hmethod 1
  exact ⟨hshared, by decide, horder, hcolons, hfit, hlate, hmethod, by decide +kernel,
    by decide +kernel, hquota.2.2⟩

end Quota

end Session

end Throttle
