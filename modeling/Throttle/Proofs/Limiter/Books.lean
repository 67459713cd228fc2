import Throttle.Proofs.Limiter.Move
import Throttle.Proofs.Shared.Tally

/-!
# The books of a shared counter

The windows of a faithful counter are kept next to what the limiters that use it wrote down.  A move
of any of them counts one increment and writes its answer down, or counts one that is not answered,
because it failed or was given up, or leaves both alone.  So each key has a list of instants, those
of its increments, of which its window is the tally; its answers are among those that the increments
are due, and if none went without an answer they are all of them.
-/

namespace Throttle

theorem CounterKey.sharedName_inj {key key' : CounterKey} (keyPrefix : String)
    (hkey : HasNoColon key.method) (hkey' : HasNoColon key'.method) :
    key.sharedName keyPrefix = key'.sharedName keyPrefix ↔ key = key' := by
  rw [sharedName_eq_iff, localName_inj hkey hkey']

theorem SharedCount.mayProceed_admission (answer : SharedCount) (policy : WindowPolicy) :
    (answer.admission policy).mayProceed = decide (answer.count ≤ policy.limit.toNat) := by
  unfold admission
  split
  · next hwithin => simp [hwithin, Admission.mayProceed]
  · next hbeyond =>
      simp only [hbeyond, decide_false]
      split <;> rfl

/-- A request was let through or denied, and not turned away for want of a counter. -/
def Verdict.Decided (verdict : Verdict) : Prop :=
  verdict.answer = .ok .allowed ∨ ∃ seconds, verdict.answer = .ok (.denied seconds)

def Notice.isFailure : Notice → Bool
  | .failed _ => true
  | _ => false

/-- The windows of a shared counter and what was written down, newest first. -/
structure Books where
  windows : String → Option SharedWindow
  trace : List Notice

namespace Books

/-- The answers that came from the shared counter, newest first. -/
def answered (books : Books) : List Verdict :=
  (books.trace.filterMap Notice.verdict?).filter fun verdict => decide (verdict.source = .shared)

/-- The answers that came from the shared counter for a key, in order: when they came, and whether
they let the request through. -/
def answersOf (books : Books) (key : CounterKey) : List (Nat × Bool) :=
  ((books.answered.filter fun verdict => decide (verdict.key = key)).map fun verdict =>
    (verdict.time, verdict.isAllowed)).reverse

theorem answered_cons {windows : String → Option SharedWindow} {trace : List Notice}
    {verdict : Verdict} (hsource : verdict.source = .shared) :
    answered ⟨windows, .answered verdict :: trace⟩ = verdict :: answered ⟨windows, trace⟩ :=
  List.filter_cons_of_pos (decide_eq_true hsource)

theorem answered_note {windows : String → Option SharedWindow} {trace : List Notice}
    (notices : List Notice)
    (hnone : ∀ notice ∈ notices, ∀ verdict ∈ notice.verdict?, verdict.source ≠ .shared) :
    answered ⟨windows, notices ++ trace⟩ = answered ⟨windows, trace⟩ := by
  rw [answered, answered, List.filterMap_append, List.filter_append]
  refine List.append_left_eq_self.2 (List.filter_eq_nil_iff.2 fun verdict hverdict => ?_)
  obtain ⟨notice, hnotice, hsome⟩ := List.mem_filterMap.1 hverdict
  simpa using hnone notice hnotice verdict hsome

def Failed (books : Books) : Prop := ∃ notice ∈ books.trace, notice.isFailure = true

instance (books : Books) : Decidable books.Failed :=
  inferInstanceAs (Decidable (∃ notice ∈ books.trace, notice.isFailure = true))

end Books

section Environment

variable {κ : Type} [SharedCounter κ] [FaithfulCounter κ]

/-- The environment leaves the windows of a shared counter alone. -/
def Action.KeepsWindows : Action κ → Prop
  | .alter change => ∀ counter,
      FaithfulCounter.windows (change counter) = FaithfulCounter.windows counter
  | _ => True

/-- The environment changes the windows of a shared counter at most as an increment of the limiter
does that takes effect only now. -/
def TimedAction.MayCountLate (settings : Settings) (timed : TimedAction κ) : Prop :=
  match timed.action with
  | .alter change => ∀ counter,
      FaithfulCounter.windows (change counter) = FaithfulCounter.windows counter ∨
        ∃ method client, HasNoColon method ∧ FaithfulCounter.windows (change counter) =
          SharedWindow.increment (FaithfulCounter.windows counter)
            ((CounterKey.of client method).sharedName settings.keyPrefix)
            (settings.policy (.of method)).window timed.time
  | _ => True

theorem Action.KeepsWindows.mayCountLate {timed : TimedAction κ} (settings : Settings)
    (hkeeps : timed.action.KeepsWindows) : timed.MayCountLate settings := by
  obtain ⟨time, action⟩ := timed
  cases action with
  | alter change => exact fun counter => .inl (hkeeps counter)
  | _ => trivial

end Environment

section Step

variable {κ : Type} [SharedCounter κ] [FaithfulCounter κ] (keyPrefix : String)
  (policy : MethodClass → WindowPolicy)

/-- What an action does to the books. -/
inductive Books.Step (timed : TimedAction κ) (before after : Books) : Prop where
  | still (hwindows : after.windows = before.windows) (hanswered : after.answered = before.answered)
  | counted (verdict : Verdict) (ttl : Option Nat) (hcolon : HasNoColon verdict.key.method)
      (htime : verdict.time = timed.time)
      (hanswer : verdict.answer = .ok (SharedCount.admission
        ⟨(SharedWindow.next (policy (.of verdict.key.method)).window
          (before.windows (verdict.key.sharedName keyPrefix)) timed.time).count, ttl⟩
        (policy (.of verdict.key.method))))
      (hwindows : after.windows = SharedWindow.increment before.windows
        (verdict.key.sharedName keyPrefix) (policy (.of verdict.key.method)).window timed.time)
      (hanswered : after.answered = verdict :: before.answered)
  | unheard (key : CounterKey) (hcolon : HasNoColon key.method)
      (hwhy : after.Failed ∨ ¬ timed.action.KeepsWindows)
      (hwindows : after.windows = SharedWindow.increment before.windows (key.sharedName keyPrefix)
        (policy (.of key.method)).window timed.time)
      (hanswered : after.answered = before.answered)

inductive Books.Run (first : Books) : List (TimedAction κ) → Books → Prop where
  | nil : Books.Run first [] first
  | concat {actions : List (TimedAction κ)} {timed : TimedAction κ} {before after : Books}
      (hrun : Books.Run first actions before)
      (hstep : Books.Step keyPrefix policy timed before after)
      (hfailed : before.Failed → after.Failed) : Books.Run first (actions ++ [timed]) after

end Step

/-! ## The increments of a key -/

/-- The books agree with increments of a key at some instants, in order, after a window that it had
before: its window is their tally, and its answers are among those that they are due. -/
structure Books.Tallied (keyPrefix : String) (policy : MethodClass → WindowPolicy)
    (key : CounterKey) (opening : Option SharedWindow) (books : Books) (times : List Nat) :
    Prop where
  windows_eq : books.windows (key.sharedName keyPrefix) =
    tally (policy (.of key.method)).window opening times
  answersOf_sublist : (books.answersOf key).Sublist
    (granted (policy (.of key.method)).limit.toNat (policy (.of key.method)).window opening times)

namespace Books

variable {κ : Type} [SharedCounter κ] [FaithfulCounter κ] {keyPrefix : String}
  {policy : MethodClass → WindowPolicy} {key : CounterKey} {opening : Option SharedWindow}

theorem answersOf_congr (key : CounterKey) {before after : Books}
    (hanswered : after.answered = before.answered) :
    after.answersOf key = before.answersOf key := by
  rw [answersOf, answersOf, hanswered]

theorem answersOf_of_counted {before after : Books} {verdict : Verdict}
    (hanswered : after.answered = verdict :: before.answered) (hkey : verdict.key = key) :
    after.answersOf key = before.answersOf key ++ [(verdict.time, verdict.isAllowed)] := by
  rw [answersOf, answersOf, hanswered, List.filter_cons_of_pos (by simpa using hkey),
    List.map_cons, List.reverse_cons]

theorem answersOf_of_counted_of_ne {before after : Books} {verdict : Verdict}
    (hanswered : after.answered = verdict :: before.answered) (hne : verdict.key ≠ key) :
    after.answersOf key = before.answersOf key := by
  rw [answersOf, answersOf, hanswered, List.filter_cons_of_neg (by simpa using hne)]

theorem Tallied.answersOf_eq {books : Books} {times : List Nat}
    (htallied : Tallied keyPrefix policy key opening books times)
    (hheard : (books.answersOf key).map Prod.fst = times) :
    books.answersOf key = granted (policy (.of key.method)).limit.toNat
      (policy (.of key.method)).window opening times := by
  refine htallied.answersOf_sublist.eq_of_length ?_
  rw [← List.length_map Prod.fst, hheard, ← List.length_map Prod.fst, map_fst_granted]

/-- A step gives a key one more increment at most, and answers it unless it failed or was given
up. -/
theorem Tallied.step {before after : Books} {times : List Nat} {timed : TimedAction κ}
    (htallied : Tallied keyPrefix policy key opening before times) (hkey : HasNoColon key.method)
    (hstep : Step keyPrefix policy timed before after) :
    ∃ times', Tallied keyPrefix policy key opening after times' ∧
      (times' = times ∨ times' = times ++ [timed.time]) ∧
      (timed.action.KeepsWindows → ¬ after.Failed → (before.answersOf key).map Prod.fst = times →
        (after.answersOf key).map Prod.fst = times') := by
  obtain ⟨hwindow, hsublist⟩ := htallied
  have hother {other : CounterKey} (hcolon : HasNoColon other.method) (hne : other ≠ key)
      (window : Nat) : SharedWindow.increment before.windows (other.sharedName keyPrefix) window
        timed.time (key.sharedName keyPrefix) = before.windows (key.sharedName keyPrefix) :=
    SharedWindow.increment_of_ne _ _ _ _ fun hname =>
      hne ((CounterKey.sharedName_inj keyPrefix hkey hcolon).1 hname).symm
  have hself : SharedWindow.increment before.windows (key.sharedName keyPrefix)
      (policy (.of key.method)).window timed.time (key.sharedName keyPrefix) =
        tally (policy (.of key.method)).window opening (times ++ [timed.time]) := by
    rw [SharedWindow.increment_self, hwindow, tally_concat]
  cases hstep with
  | still hwindows hanswered =>
      have hsame := answersOf_congr key hanswered
      rw [← hwindows] at hwindow
      rw [← hsame] at hsublist
      exact ⟨times, ⟨hwindow, hsublist⟩, .inl rfl, fun _ _ hheard => hsame ▸ hheard⟩
  | counted verdict ttl hcolon htime hanswer hwindows hanswered =>
      by_cases hown : verdict.key = key
      · subst hown
        have hmore := answersOf_of_counted hanswered rfl
        refine ⟨times ++ [timed.time], ⟨by rw [hwindows, hself], ?_⟩, .inr rfl,
          fun _ _ hheard => ?_⟩
        · have hdue : verdict.isAllowed = decide ((SharedWindow.next (policy (.of
              verdict.key.method)).window (tally (policy (.of verdict.key.method)).window opening
              times) timed.time).count ≤ (policy (.of verdict.key.method)).limit.toNat) := by
            rw [Verdict.isAllowed, hanswer, isAllowed, SharedCount.mayProceed_admission, hwindow]
          rw [hmore, granted_concat, hdue, htime]
          exact hsublist.append (List.Sublist.refl _)
        · rw [hmore, List.map_append, hheard, htime]
          rfl
      · have hsame := answersOf_of_counted_of_ne hanswered hown
        refine ⟨times, ⟨?_, hsame ▸ hsublist⟩, .inl rfl, fun _ _ hheard => hsame ▸ hheard⟩
        rw [hwindows, hother hcolon hown, hwindow]
  | unheard other hcolon hwhy hwindows hanswered =>
      have hsame := answersOf_congr key hanswered
      have hcontra (hkeeps : timed.action.KeepsWindows) (hfine : ¬ after.Failed) : False :=
        hwhy.elim hfine fun hchanged => hchanged hkeeps
      by_cases hown : other = key
      · -- The window has counted once more, and the answers are still among those that are due.
        subst hown
        refine ⟨times ++ [timed.time], ⟨by rw [hwindows, hself], ?_⟩, .inr rfl,
          fun hkeeps hfine => (hcontra hkeeps hfine).elim⟩
        rw [hsame, granted_concat]
        exact hsublist.trans (List.sublist_append_left ..)
      · refine ⟨times, ⟨?_, hsame ▸ hsublist⟩, .inl rfl, fun _ _ hheard => hsame ▸ hheard⟩
        rw [hwindows, hother hcolon hown, hwindow]

theorem Run.decided {first books : Books} {actions : List (TimedAction κ)}
    (hrun : Run keyPrefix policy first actions books) (htrace : first.trace = []) :
    ∀ verdict ∈ books.answered, verdict.Decided := by
  induction hrun with
  | nil => simp [answered, htrace]
  | concat hrun hstep hfailed ih =>
      cases hstep with
      | still _ hanswered => exact hanswered ▸ ih
      | unheard _ _ _ _ hanswered => exact hanswered ▸ ih
      | counted verdict ttl _ _ hanswer _ hanswered =>
          rw [hanswered]
          refine List.forall_mem_cons.2 ⟨?_, ih⟩
          rw [Verdict.Decided, hanswer, SharedCount.admission]
          split
          · exact .inl rfl
          · split <;> exact .inr ⟨_, rfl⟩

/-- In a run, the increments of a key come in order, when actions are taken. -/
theorem Run.tallied {first books : Books} {actions : List (TimedAction κ)}
    (hrun : Run keyPrefix policy first actions books) (htrace : first.trace = [])
    (horder : InOrder actions) (hkey : HasNoColon key.method) :
    ∃ times, Tallied keyPrefix policy key (first.windows (key.sharedName keyPrefix)) books times ∧
      times.Pairwise (· ≤ ·) ∧ (∀ time ∈ times, ∃ timed ∈ actions, time = timed.time) ∧
      ((∀ timed ∈ actions, timed.action.KeepsWindows) → ¬ books.Failed →
        (books.answersOf key).map Prod.fst = times) := by
  induction hrun with
  | nil =>
      have hnone : first.answersOf key = [] := by simp [answersOf, answered, htrace]
      exact ⟨[], ⟨rfl, by simp [hnone]⟩, List.Pairwise.nil, by simp, by simp [hnone]⟩
  | @concat actions timed before after hrun hstep hfailed ih =>
      obtain ⟨hbefore, -, hlast⟩ := List.pairwise_append.1 horder
      obtain ⟨times, htallied, hsorted, htimes, hheard⟩ := ih hbefore
      obtain ⟨times', htallied', hmore, hheard'⟩ := htallied.step hkey hstep
      refine ⟨times', htallied', ?_, ?_, fun hkeeps hfine => ?_⟩
      · rcases hmore with rfl | rfl
        · exact hsorted
        · -- A new increment is as late as the last action, and the others as earlier ones.
          refine List.pairwise_append.2 ⟨hsorted, List.pairwise_singleton .., ?_⟩
          intro time htime last hmem
          obtain ⟨earlier, hearlier, rfl⟩ := htimes time htime
          rw [List.mem_singleton.1 hmem]
          exact hlast earlier hearlier timed (by simp)
      · intro time htime
        have hcase : time ∈ times ∨ time = timed.time := by
          rcases hmore with rfl | rfl
          · exact .inl htime
          · simpa using htime
        rcases hcase with hold | hnew
        · obtain ⟨earlier, hearlier, hsame⟩ := htimes time hold
          exact ⟨earlier, List.mem_append_left _ hearlier, hsame⟩
        · exact ⟨timed, by simp, hnew⟩
      · exact hheard' (hkeeps timed (by simp)) hfine
          (hheard (fun earlier hearlier => hkeeps earlier (List.mem_append_left _ hearlier))
            fun hbad => hfine (hfailed hbad))

end Books

/-! ## Runs without failures -/

section Undisturbed

variable {κ : Type} [SharedCounter κ] [FaithfulCounter κ]

/-- Actions in order, beside which nothing touches the windows of a shared counter, and which begin
when none of its windows is open any more. -/
structure Undisturbed (counter : κ) (actions : List (TimedAction κ)) : Prop where
  inOrder : InOrder actions
  noColons : NoColons actions
  keepsWindows : ∀ timed ∈ actions, timed.action.KeepsWindows
  ended : ∀ name window, FaithfulCounter.windows counter name = some window →
    ∀ timed ∈ actions, window.endsAt ≤ timed.time

/-- If no increment fails, the answers for a key are those that are due to increments when they
came, and its window is their tally. -/
theorem Books.Run.answersOf_eq {keyPrefix : String} {policy : MethodClass → WindowPolicy}
    {key : CounterKey} {counter : κ} {actions : List (TimedAction κ)} {books : Books}
    (hrun : Run keyPrefix policy ⟨FaithfulCounter.windows counter, []⟩ actions books)
    (hundisturbed : Undisturbed counter actions) (hfine : ¬ books.Failed)
    (hkey : HasNoColon key.method) :
    let limit := (policy (.of key.method)).limit.toNat
    let window := (policy (.of key.method)).window
    let opening := FaithfulCounter.windows counter (key.sharedName keyPrefix)
    let times := (books.answersOf key).map Prod.fst
    Reopens opening times ∧ books.answersOf key = granted limit window opening times ∧
      books.windows (key.sharedName keyPrefix) = tally window opening times := by
  intro limit window opening times
  obtain ⟨times', htallied, -, htimes, hheard⟩ := hrun.tallied rfl hundisturbed.inOrder hkey
  have hsame : times = times' := hheard hundisturbed.keepsWindows hfine
  rw [hsame]
  refine ⟨fun current hcurrent time htime => ?_, htallied.answersOf_eq hsame, htallied.windows_eq⟩
  obtain ⟨timed, htimed, rfl⟩ := htimes time (List.mem_of_mem_head? htime)
  exact hundisturbed.ended _ current hcurrent timed htimed

end Undisturbed

namespace Session

variable {κ : Type} [SharedCounter κ]

/-- Every request that waits is for a method without a colon. -/
def HasNoColons (session : Session κ) : Prop :=
  ∀ pending ∈ session.suspended, HasNoColon pending.key.method

omit [SharedCounter κ] in
theorem Charged.suspended_eq {before after : Session κ} {pending : Pending} {time : Nat}
    {ended : Outcome (SharedBackend κ) (Except LimiterError SharedCount)}
    (hcharged : Charged before pending time ended after) : after.suspended = before.suspended := by
  cases hcharged <;> rfl

theorem Move.hasNoColons {before after : Session κ} {timed : TimedAction κ}
    (hmove : Move before timed after) (hcolons : before.HasNoColons)
    (hcolon : ∀ key ∈ timed.action.key?, HasNoColon key.method) : after.HasNoColons := by
  cases hmove with
  | quiet hquiet =>
      rw [HasNoColons, hquiet.suspended_eq]
      exact hcolons
  | refused verdict => exact hcolons
  | checked verdict policy => exact hcolons
  | begun backend pending _ _ hkey =>
      intro other hother
      rcases List.mem_append.1 hother with hmem | hmem
      · exact hcolons other hmem
      · rw [List.mem_singleton.1 hmem]
        exact hcolon pending.key hkey
  | charged backend pending _ _ _ _ hcharged =>
      rw [HasNoColons, hcharged.suspended_eq]
      exact hcolons
  | resumed backend pending place _ _ hcharged =>
      rw [HasNoColons, hcharged.suspended_eq]
      exact fun other hother => hcolons other (List.mem_of_mem_eraseIdx hother)

variable [FaithfulCounter κ]

def books (session : Session κ) : Books :=
  ⟨session.limiter.shared.elim (fun _ => none) (·.windows), session.trace⟩

theorem windows_books {session : Session κ} {backend : SharedBackend κ}
    (hshared : session.limiter.shared = some backend) :
    session.books.windows = backend.windows := by
  rw [books, hshared]
  rfl

theorem failed_note (session : Session κ) (error : LimiterError) (verdict : Verdict) :
    (session.note [.failed error, .answered verdict]).books.Failed :=
  ⟨.failed error, by simp [books, note], rfl⟩

/-- The end of an increment is written down with what it counts, or counts nothing that is not
written down as a failure. -/
theorem Charged.books {before after : Session κ} {backend : SharedBackend κ} {pending : Pending}
    {timed : TimedAction κ} {books : Books} {policy : MethodClass → WindowPolicy}
    (hcharged : Charged before pending timed.time
      (backend.settle pending.key pending.policy.window pending.inTime timed.time) after)
    (hcolon : HasNoColon pending.key.method)
    (hpolicy : policy (.of pending.key.method) = pending.policy)
    (hwindows : books.windows = backend.windows)
    (hanswered : before.books.answered = books.answered) :
    Books.Step backend.keyPrefix policy timed books after.books := by
  have hsettle :=
    backend.settle_faithful pending.key pending.policy.window pending.inTime timed.time
  dsimp only at hsettle
  generalize backend.settle pending.key pending.policy.window pending.inTime timed.time = ended
    at hcharged hsettle
  rw [← hwindows] at hsettle
  -- A failure is the same for the books whether the request is turned away or counted in memory.
  have hfailed : ∀ error, ended.value = .error error →
      after.books.windows = ended.state.windows →
      after.books.answered = books.answered → after.books.Failed →
      Books.Step backend.keyPrefix policy timed books after.books := by
    intro error hended hafter hsame hwhy
    rcases hsettle with ⟨ttl, hvalue, -⟩ | ⟨error', -, hstill | hcounted⟩
    · rw [hvalue] at hended
      cases hended
    · exact .still (hafter.trans hstill) hsame
    · refine .unheard pending.key hcolon (.inl hwhy) ?_ hsame
      rw [hafter, hcounted, hpolicy]
  cases hcharged with
  | counted answer verdict hended hkey htime hanswer hsource =>
      rcases hsettle with ⟨ttl, hvalue, hcounted⟩ | ⟨error, hvalue, -⟩
      · rw [hvalue] at hended
        cases hended
        rw [← hkey] at hcolon hpolicy hanswer hcounted
        rw [← hpolicy] at hanswer hcounted
        refine .counted verdict ttl hcolon htime hanswer hcounted ?_
        rw [← hanswered]
        exact Books.answered_cons hsource
      · rw [hvalue] at hended
        cases hended
  | refused error verdict hended _ _ _ _ hsource =>
      refine hfailed error hended rfl ?_ (failed_note _ error verdict)
      rw [← hanswered]
      exact Books.answered_note [.answered verdict, .failed error]
        (by simp [Notice.verdict?, hsource])
  | fellBack error verdict hended _ _ _ _ _ hsource =>
      refine hfailed error hended rfl ?_ (failed_note _ error verdict)
      rw [← hanswered]
      exact Books.answered_note [.answered verdict, .failed error]
        (by simp [Notice.verdict?, hsource])

/-- An action that deals with no request changes the windows only if the environment does. -/
theorem Quiet.books {settings : Settings} {before after : Session κ} {timed : TimedAction κ}
    (hquiet : Quiet before timed after) {backend : SharedBackend κ}
    (hshared : before.limiter.shared = some backend) (hlate : timed.MayCountLate settings) :
    Books.Step settings.keyPrefix settings.policy timed before.books after.books := by
  obtain ⟨change, available, hchange, hafter⟩ := hquiet.shared_eq
  rw [hshared] at hafter
  have hwindows : after.books.windows = FaithfulCounter.windows (change backend.counter) :=
    windows_books hafter
  have hbefore : before.books.windows = FaithfulCounter.windows backend.counter :=
    windows_books hshared
  have hanswered : after.books.answered = before.books.answered :=
    congrArg (List.filter _) hquiet.verdicts_eq
  have hstill (hsame : FaithfulCounter.windows (change backend.counter) =
      FaithfulCounter.windows backend.counter) :
      Books.Step settings.keyPrefix settings.policy timed before.books after.books :=
    .still (by rw [hwindows, hbefore, hsame]) hanswered
  rcases hchange with rfl | rfl
  · exact hstill rfl
  obtain ⟨time, action⟩ := timed
  cases action with
  | start => exact hstill (FaithfulCounter.windows_connect _)
  | stop => exact hstill (FaithfulCounter.windows_disconnect _)
  | alter change =>
      rcases hlate backend.counter with hkept | ⟨method, client, hcolon, hcounted⟩
      · exact hstill hkept
      · have hclass : MethodClass.of (CounterKey.of client method).method = MethodClass.of method :=
          MethodClass.of_normalMethod method
        by_cases hkeeps : Action.KeepsWindows (.alter change)
        · exact hstill (hkeeps backend.counter)
        · refine .unheard (.of client method) hcolon.normalMethod (.inr hkeeps) ?_ hanswered
          rw [hwindows, hbefore, hclass]
          exact hcounted
  | request => exact hstill rfl
  | resume => exact hstill rfl
  | tick => exact hstill rfl
  | sweep => exact hstill rfl
  | notify => exact hstill rfl

theorem Move.books {settings : Settings} {before after : Session κ} {timed : TimedAction κ}
    (hmove : Move before timed after) (hwired : Wired settings before)
    (hshared : settings.usesShared = true) (hcolons : before.HasNoColons)
    (hcolon : ∀ key ∈ timed.action.key?, HasNoColon key.method)
    (hlate : timed.MayCountLate settings) :
    Books.Step settings.keyPrefix settings.policy timed before.books after.books := by
  obtain ⟨backend, hbackend, hkeyPrefix⟩ := hwired.exists_backend hshared
  cases hmove with
  | quiet hquiet => exact hquiet.books hbackend hlate
  | refused verdict _ _ _ _ hsource =>
      exact .still rfl (Books.answered_note [.answered verdict]
        (by simp [Notice.verdict?, hsource]))
  | checked verdict policy _ _ _ _ _ _ _ hsource =>
      exact .still rfl (Books.answered_note [.answered verdict]
        (by simp [Notice.verdict?, hsource (by simp [hbackend])]))
  | begun backend' pending hbackend' =>
      refine .still ?_ rfl
      rw [windows_books hbackend', ← backend'.windows_begin pending.key pending.policy.window]
      exact windows_books rfl
  | charged backend' pending hbackend' _ hkey hpolicy hcharged =>
      cases hbackend.symm.trans hbackend'
      rw [← hkeyPrefix]
      rw [hwired.settings_eq] at hpolicy
      refine hcharged.books (hcolon pending.key hkey) hpolicy ?_ rfl
      rw [windows_books hbackend, backend.windows_begin]
  | resumed backend' pending place hbackend' hpending hcharged =>
      cases hbackend.symm.trans hbackend'
      have hmem := List.mem_of_getElem? hpending
      rw [← hkeyPrefix]
      exact hcharged.books (hcolons pending hmem) (hwired.suspended pending hmem).2.symm
        (windows_books hbackend) rfl

omit [SharedCounter κ] [FaithfulCounter κ] in
theorem Charged.exists_notices {before after : Session κ} {pending : Pending} {time : Nat}
    {ended : Outcome (SharedBackend κ) (Except LimiterError SharedCount)}
    (hcharged : Charged before pending time ended after) :
    ∃ notices, after.trace = notices ++ before.trace := by
  cases hcharged <;> exact ⟨_, rfl⟩

omit [FaithfulCounter κ] in
theorem Move.exists_notices {before after : Session κ} {timed : TimedAction κ}
    (hmove : Move before timed after) : ∃ notices, after.trace = notices ++ before.trace := by
  cases hmove with
  | quiet hquiet =>
      obtain ⟨notices, htrace, -⟩ := hquiet.trace_eq
      exact ⟨notices, htrace⟩
  | refused verdict => exact ⟨[.answered verdict], rfl⟩
  | checked verdict => exact ⟨[.answered verdict], rfl⟩
  | begun => exact ⟨[.begun], rfl⟩
  | charged _ _ _ _ _ _ hcharged =>
      obtain ⟨notices, htrace⟩ := hcharged.exists_notices
      exact ⟨notices ++ [.begun], by rw [htrace, List.append_assoc]; rfl⟩
  | resumed _ _ _ _ _ hcharged => exact hcharged.exists_notices

theorem Move.failed {before after : Session κ} {timed : TimedAction κ}
    (hmove : Move before timed after) (hfailed : before.books.Failed) : after.books.Failed := by
  obtain ⟨notice, hmem, hfailure⟩ := hfailed
  obtain ⟨notices, htrace⟩ := hmove.exists_notices
  refine ⟨notice, ?_, hfailure⟩
  rw [Session.books, htrace]
  exact List.mem_append_right _ hmem

theorem books_ofSettings {settings : Settings} (hshared : settings.usesShared = true) (counter : κ)
    (sweepInterval : Nat) : (ofSettings settings counter sweepInterval).books =
      ⟨FaithfulCounter.windows counter, []⟩ := by
  simp [ofSettings, Limiter.build, hshared, books, SharedBackend.windows]

/-- A session is a run of its books. -/
theorem books_run {settings : Settings} (hshared : settings.usesShared = true) (counter : κ)
    (sweepInterval : Nat) (actions : List (TimedAction κ)) (hcolons : NoColons actions)
    (hlate : ∀ timed ∈ actions, timed.MayCountLate settings) :
    let session := (ofSettings settings counter sweepInterval).run actions
    session.HasNoColons ∧ Books.Run settings.keyPrefix settings.policy
      ⟨FaithfulCounter.windows counter, []⟩ actions session.books := by
  induction actions using List.reverseRecOn with
  | nil =>
      refine ⟨by simp [HasNoColons, ofSettings], ?_⟩
      rw [run_nil, books_ofSettings hshared]
      exact .nil
  | append_singleton actions last ih =>
      obtain ⟨hsession, hrun⟩ := ih
        (fun timed htimed => hcolons timed (List.mem_append_left _ htimed))
        fun timed htimed => hlate timed (List.mem_append_left _ htimed)
      have hwired := wired_run settings counter sweepInterval actions
      have hmove := hwired.move last
      have hcolon : ∀ key ∈ last.action.key?, HasNoColon key.method := fun key =>
        hcolons.key (show last ∈ actions ++ [last] by simp)
      dsimp only
      rw [run_concat]
      exact ⟨hmove.hasNoColons hsession hcolon, hrun.concat
        (hmove.books hwired hshared hsession hcolon (hlate last (by simp))) hmove.failed⟩

end Session

end Throttle
