import Throttle.Proofs.Limiter.Books
import Throttle.Proofs.Limiter.Isolation
import Throttle.Proofs.Limiter.Quota

/-!
# Counting in memory and counting together

A limiter that counts in memory and one that has the same requests counted by a faithful counter,
at the same times, let the same ones through.  They do not count alike: the store stops at the
limit, and its window still holds at the instant at which it closes, where that of the shared
counter has ended.  So this takes that no request comes at such an instant.
-/

namespace Throttle

def Verdict.call (verdict : Verdict) : CounterKey × Nat := (verdict.key, verdict.time)

/-- Among the answers for one key, when it was asked for tells a request apart. -/
theorem Verdict.filter_call (key : CounterKey) (verdicts : List Verdict) :
    (verdicts.map fun verdict => (verdict.call, verdict.isAllowed)).filter
        (fun answer => decide (answer.1.1 = key)) =
      ((verdicts.filter fun verdict => decide (verdict.key = key)).map fun verdict =>
        (verdict.time, verdict.isAllowed)).map fun pair => ((key, pair.1), pair.2) := by
  rw [List.filter_map, List.map_map]
  refine List.map_congr_left fun verdict hverdict => ?_
  have hkey : verdict.key = key := by
    simpa [call] using (List.mem_filter.1 hverdict).2
  simp [call, hkey]

def TimedAction.call? {κ : Type} (timed : TimedAction κ) : Option (CounterKey × Nat) :=
  timed.action.key?.map (·, timed.time)

/-! ## One name -/

/-- The counter in memory that stands for a window of the shared counter. -/
def SharedWindow.capped (limit : Nat) (window : SharedWindow) : Counter :=
  ⟨min window.count limit, window.endsAt⟩

theorem SharedWindow.count_next_pos (window : Nat) (before : Option SharedWindow) (now : Nat) :
    0 < (next window before now).count := by
  unfold next
  split
  · exact Nat.one_pos
  · split
    · exact Nat.one_pos
    · exact Nat.succ_pos _

theorem tally_count_pos {window : Nat} {times : List Nat} {current : SharedWindow}
    (htally : tally window none times = some current) : 0 < current.count := by
  induction times using List.reverseRecOn with
  | nil => cases htally
  | append_singleton times time ih =>
      rw [tally_concat, Option.some.injEq] at htally
      rw [← htally]
      exact SharedWindow.count_next_pos ..

/-- Where the windows agree and none of them is about to close, a check and an increment decide
alike and leave windows that agree. -/
theorem Store.check_agrees {store : Store} {name : String} {limit window now : Nat}
    {before : Option SharedWindow} (hget : store.get? name = before.map (·.capped limit))
    (hlimit : 0 < limit) (hcount : ∀ current, before = some current → 0 < current.count)
    (havoids : ∀ current, before = some current → current.endsAt ≠ now)
    (hfit : now + window < Instant.bound) :
    isAllowed (store.check name limit window now).value =
        decide ((SharedWindow.next window before now).count ≤ limit) ∧
      (store.check name limit window now).state.get? name =
        some ((SharedWindow.next window before now).capped limit) := by
  have hopens (hlive : store.live name now = none)
      (hnext : SharedWindow.next window before now = ⟨1, now + window⟩) :
      isAllowed (store.check name limit window now).value =
          decide ((SharedWindow.next window before now).count ≤ limit) ∧
        (store.check name limit window now).state.get? name =
          some ((SharedWindow.next window before now).capped limit) := by
    have hone : min 1 limit = 1 := Nat.min_eq_left hlimit
    rw [check_of_live_none hlive hfit, hnext]
    refine ⟨?_, ?_⟩
    · exact (decide_eq_true hlimit).symm
    · rw [Table.get?_put_self, SharedWindow.capped, hone]
  cases before with
  | none => exact hopens (by rw [live, hget]; rfl) rfl
  | some current =>
      obtain ⟨count, endsAt⟩ := current
      have hpos : 0 < count := hcount _ rfl
      have hne : endsAt ≠ now := havoids _ rfl
      rcases Nat.lt_or_ge now endsAt with hopen | hended
      · have hnext : SharedWindow.next window (some ⟨count, endsAt⟩) now = ⟨count + 1, endsAt⟩ := by
          simp [SharedWindow.next, Nat.not_le.2 hopen]
        have hlive : store.live name now = some ⟨min count limit, endsAt⟩ :=
          live_eq_some_iff.2 ⟨hget, Counter.isLive_iff.2 ⟨Nat.lt_min.2 ⟨hpos, hlimit⟩,
            Nat.le_of_lt hopen⟩⟩
        rw [hnext]
        rcases Nat.lt_or_ge count limit with hfree | hfull
        · have hcapped : min count limit = count := Nat.min_eq_left (Nat.le_of_lt hfree)
          have hcapped' : min (count + 1) limit = count + 1 := Nat.min_eq_left hfree
          rw [hcapped] at hlive
          rw [check_of_live_free hlive hfree, Table.get?_put_self, SharedWindow.capped, hcapped']
          exact ⟨(decide_eq_true hfree).symm, rfl⟩
        · have hcapped : min count limit = limit := Nat.min_eq_right hfull
          have hcapped' : min (count + 1) limit = limit :=
            Nat.min_eq_right (Nat.le_succ_of_le hfull)
          rw [hcapped] at hlive
          rw [check_of_live_full hlive (Nat.le_refl limit), hget, Option.map_some,
            SharedWindow.capped, SharedWindow.capped, hcapped, hcapped']
          exact ⟨(decide_eq_false (Nat.not_le.2 (Nat.lt_succ_of_le hfull))).symm, rfl⟩
      · refine hopens (live_eq_none_iff.2 fun counter hcounter => ?_) ?_
        · rw [hget, Option.map_some, Option.some.injEq] at hcounter
          rw [← hcounter, ← Bool.not_eq_true, Counter.isLive_iff]
          simp only [SharedWindow.capped]
          omega
        · simp [SharedWindow.next, hended]

theorem Store.check_decided (store : Store) (name : String) (limit : Nat) {window now : Nat}
    (hfit : now + window < Instant.bound) :
    (store.check name limit window now).value = .ok .allowed ∨
      ∃ seconds, (store.check name limit window now).value = .ok (.denied seconds) := by
  rcases check_cases store name limit window now with
    ⟨-, -, hopened⟩ | ⟨-, hbeyond, -⟩ | ⟨counter, -, -, hdenied⟩ | ⟨counter, -, -, hcounted⟩
  · exact .inl (by rw [hopened])
  · exact absurd hfit (Nat.not_lt.2 hbeyond)
  · exact .inr ⟨_, by rw [hdenied]⟩
  · exact .inl (by rw [hcounted])

/-! ## A session in memory -/

namespace Session

section SingleSession

variable {κ : Type} [SharedCounter κ]

/-- Something holds of each action and the session that it finds. -/
def Throughout (p : Session κ → TimedAction κ → Prop) (session : Session κ) :
    List (TimedAction κ) → Prop
  | [] => True
  | timed :: later => p session timed ∧ Throughout p (session.step timed) later

instance decidableThroughout {p : Session κ → TimedAction κ → Prop}
    [∀ session timed, Decidable (p session timed)] (session : Session κ) :
    ∀ actions : List (TimedAction κ), Decidable (Throughout p session actions)
  | [] => isTrue trivial
  | timed :: later =>
    have := decidableThroughout (p := p) (session.step timed) later
    inferInstanceAs (Decidable (p session timed ∧ Throughout p (session.step timed) later))

theorem throughout_concat {p : Session κ → TimedAction κ → Prop} {session : Session κ}
    {actions : List (TimedAction κ)} {last : TimedAction κ} :
    Throughout p session (actions ++ [last]) ↔
      Throughout p session actions ∧ p (session.run actions) last := by
  induction actions generalizing session with
  | nil => simp [Throughout]
  | cons timed actions ih =>
      rw [List.cons_append, Throughout, ih, Throughout, and_assoc]
      rfl

/-- No request comes at the instant at which the window of its key closes. -/
def AvoidsClosing (session : Session κ) (timed : TimedAction κ) : Prop :=
  ∀ key ∈ timed.action.key?, ∀ counter ∈ session.limiter.store.get? key.localName,
    counter.resetAt ≠ timed.time

omit [SharedCounter κ] in
instance (session : Session κ) (timed : TimedAction κ) : Decidable (session.AvoidsClosing timed) :=
  inferInstanceAs (Decidable (∀ key ∈ timed.action.key?,
    ∀ counter ∈ session.limiter.store.get? key.localName, counter.resetAt ≠ timed.time))

omit [SharedCounter κ] in
theorem callsOf_concat (key : CounterKey) (actions : List (TimedAction κ)) (last : TimedAction κ) :
    callsOf key (actions ++ [last]) = callsOf key actions ++
      if last.action.key? = some key then [last.time] else [] := by
  rw [callsOf, List.filterMap_append, ← callsOf]
  split <;> simp_all

section Memory

variable {settings : Settings} {key : CounterKey} {counter : κ} {sweepInterval : Nat}

omit [SharedCounter κ] in
theorem window_fits {actions : List (TimedAction κ)} (hfit : WindowsFit settings actions)
    {timed : TimedAction κ} (htimed : timed ∈ actions) (hkey : timed.action.key? = some key) :
    timed.time + (settings.policy (.of key.method)).window < Instant.bound := by
  obtain ⟨⟨method, client⟩, hrequest, rfl⟩ := Option.map_eq_some_iff.1 hkey
  have hclass : MethodClass.of (CounterKey.of client method).method = MethodClass.of method :=
    MethodClass.of_normalMethod method
  simpa [hclass] using hfit timed htimed _ hrequest

-- The counters themselves may differ: a sweep removes one whose window has ended, and the store of
-- the key alone is never swept.
theorem live_alone (hmemory : settings.usesShared = false) {actions : List (TimedAction κ)}
    (horder : InOrder actions) (hcolons : NoColons actions) (hkey : HasNoColon key.method)
    {now : Nat} (hnow : ∀ timed ∈ actions, timed.time ≤ now) :
    (Store.Log.run ((callsOf key actions).map (settings.checkOf · key))).store.live key.localName
        now =
      ((ofSettings settings counter sweepInterval).run actions).limiter.store.live key.localName
        now := by
  obtain ⟨steps, hmirrors, hchecks, htimes, htimely⟩ :=
    mirrors_run settings hmemory counter sweepInterval actions horder
  rw [← filter_isCheckOf_of_checks hkey hcolons hchecks,
    (Store.run_filter_isCheckOf key.localName steps htimely).2 now fun step hstep => ?_,
    hmirrors.store_eq]
  obtain ⟨timed, htimed, htime⟩ := htimes step hstep
  rw [htime]
  exact hnow timed htimed

/-- In memory, the answers to the requests for a key are those that a faithful counter would give to
increments when they come. -/
theorem alone_agrees (hmemory : settings.usesShared = false)
    (hlimit : 0 < (settings.policy (.of key.method)).limit.toNat)
    {actions : List (TimedAction κ)} (horder : InOrder actions) (hcolons : NoColons actions)
    (hfit : WindowsFit settings actions) (hkey : HasNoColon key.method)
    (havoids : Throughout AvoidsClosing (ofSettings settings counter sweepInterval) actions) :
    let limit := (settings.policy (.of key.method)).limit.toNat
    let window := (settings.policy (.of key.method)).window
    let log := Store.Log.run ((callsOf key actions).map (settings.checkOf · key))
    log.store.get? key.localName =
        (tally window none (callsOf key actions)).map (·.capped limit) ∧
      (log.records.map fun record => (record.time, isAllowed record.answer)).reverse =
        granted limit window none (callsOf key actions) := by
  intro limit window
  induction actions using List.reverseRecOn with
  | nil => exact ⟨rfl, rfl⟩
  | append_singleton actions last ih =>
      obtain ⟨hbefore, -, hlast⟩ := List.pairwise_append.1 horder
      obtain ⟨havoidsBefore, havoidsLast⟩ := throughout_concat.1 havoids
      have hcolonsBefore : NoColons actions := fun timed htimed =>
        hcolons timed (List.mem_append_left _ htimed)
      obtain ⟨hget, hanswers⟩ := ih hbefore hcolonsBefore
        (fun timed htimed => hfit timed (List.mem_append_left _ htimed)) havoidsBefore
      rw [callsOf_concat]
      split
      · next hcall =>
        -- A window that ends right now is live in the store, so the request would not avoid it.
        have hends : ∀ current, tally window none (callsOf key actions) = some current →
            current.endsAt ≠ last.time := by
          intro current htally hends
          rw [htally, Option.map_some] at hget
          have hlive := Store.live_eq_some_iff.2 ⟨hget, Counter.isLive_iff.2
            ⟨Nat.lt_min.2 ⟨tally_count_pos htally, hlimit⟩, Nat.le_of_eq hends.symm⟩⟩
          rw [live_alone hmemory hbefore hcolonsBefore hkey fun timed htimed =>
            hlast timed htimed last (by simp)] at hlive
          exact havoidsLast key hcall _ (Store.live_eq_some_iff.1 hlive).1 hends
        obtain ⟨hdue, hleft⟩ := Store.check_agrees hget hlimit (fun _ => tally_count_pos) hends
          (window_fits hfit (by simp) hcall)
        dsimp only
        rw [List.map_append, List.map_singleton, Store.Log.run_concat, Settings.checkOf,
          tally_concat, granted_concat, ← hanswers, ← hdue, Store.Log.records_next_check,
          List.map_cons, List.reverse_cons]
        exact ⟨hleft, rfl⟩
      · rw [List.append_nil]
        exact ⟨hget, hanswers⟩

theorem Move.decided {before after : Session κ} {timed : TimedAction κ}
    (hmove : Move before timed after) (hwired : Wired settings before)
    (hmemory : settings.usesShared = false)
    (hfit : ∀ key ∈ timed.action.key?,
      timed.time + (settings.policy (.of key.method)).window < Instant.bound)
    (hearlier : ∀ verdict ∈ before.verdicts, verdict.Decided) :
    ∀ verdict ∈ after.verdicts, verdict.Decided := by
  have hnone : before.limiter.shared = none := (hwired.shared_eq_none hmemory).1
  cases hmove with
  | quiet hquiet =>
      rw [hquiet.verdicts_eq]
      exact hearlier
  | refused verdict hactive => simp [Limiter.active, hnone] at hactive
  | checked verdict policy hactive hpolicy hchecked hkey htime hanswer =>
      rw [hwired.settings_eq] at hpolicy
      refine List.forall_mem_cons.2 ⟨?_, hearlier⟩
      rw [Verdict.Decided, hanswer, ← hchecked]
      exact Store.check_decided _ _ _ (hpolicy ▸ hfit verdict.key hkey)
  | begun backend pending hshared => simp [hnone] at hshared
  | charged backend pending hshared => simp [hnone] at hshared
  | resumed backend pending place hshared => simp [hnone] at hshared

/-- In memory every request is let through or denied. -/
theorem decided_run (hmemory : settings.usesShared = false) {actions : List (TimedAction κ)}
    (hfit : WindowsFit settings actions) :
    ∀ verdict ∈ ((ofSettings settings counter sweepInterval).run actions).verdicts,
      verdict.Decided := by
  induction actions using List.reverseRecOn with
  | nil => simp [ofSettings, verdicts]
  | append_singleton actions last ih =>
      have hwired := wired_run settings counter sweepInterval actions
      rw [run_concat]
      exact (hwired.move last).decided hwired hmemory (fun key => window_fits hfit (by simp))
        (ih fun timed htimed => hfit timed (List.mem_append_left _ htimed))

end Memory

/-! ## Sessions in which nothing waits -/

def AnswersAtOnce (session : Session κ) (timed : TimedAction κ) : Prop :=
  timed.action.key?.isSome = true → (session.step timed).suspended = []

/-- A request finds the shared counter usable, and its increment comes to an end at once. -/
def FindsShared (session : Session κ) (timed : TimedAction κ) : Prop :=
  session.AnswersAtOnce timed ∧
    (timed.action.key?.isSome = true → session.limiter.active = .shared)

instance (session : Session κ) (timed : TimedAction κ) : Decidable (session.FindsShared timed) :=
  inferInstanceAs (Decidable ((timed.action.key?.isSome = true →
    (session.step timed).suspended = []) ∧ (timed.action.key?.isSome = true →
      session.limiter.active = .shared)))

/-- Where nothing waits, an action is answered exactly if it is a request. -/
theorem Move.verdicts_eq {before after : Session κ} {timed : TimedAction κ}
    (hmove : Move before timed after) (hbefore : before.suspended = [])
    (hafter : timed.action.key?.isSome = true → after.suspended = []) :
    after.suspended = [] ∧
      (timed.action.key? = none ∧ after.verdicts = before.verdicts ∨
        ∃ verdict : Verdict, timed.action.key? = some verdict.key ∧ verdict.time = timed.time ∧
          after.verdicts = verdict :: before.verdicts) := by
  cases hmove with
  | quiet hquiet =>
      exact ⟨hquiet.suspended_eq.trans hbefore, .inl ⟨hquiet.key?_eq, hquiet.verdicts_eq⟩⟩
  | refused verdict _ hkey htime =>
      exact ⟨hbefore, .inr ⟨verdict, hkey, htime, rfl⟩⟩
  | checked verdict policy _ _ _ hkey htime =>
      exact ⟨hbefore, .inr ⟨verdict, hkey, htime, rfl⟩⟩
  | begun backend pending _ _ hkey =>
      have hwaits := hafter (by simp [hkey])
      simp at hwaits
  | charged backend pending _ _ hkey _ hcharged =>
      refine ⟨hcharged.suspended_eq.trans hbefore, .inr ?_⟩
      cases hcharged with
      | counted _ verdict _ hown htime => exact ⟨verdict, hown ▸ hkey, htime, rfl⟩
      | refused _ verdict _ _ hown htime => exact ⟨verdict, hown ▸ hkey, htime, rfl⟩
      | fellBack _ verdict _ _ hown htime => exact ⟨verdict, hown ▸ hkey, htime, rfl⟩
  | resumed backend pending place _ hpending =>
      simp [hbefore] at hpending

theorem calls_run (settings : Settings) (counter : κ) (sweepInterval : Nat)
    (actions : List (TimedAction κ))
    (hprompt : Throughout AnswersAtOnce (ofSettings settings counter sweepInterval) actions) :
    let session := (ofSettings settings counter sweepInterval).run actions
    session.suspended = [] ∧
      session.verdicts.reverse.map Verdict.call = actions.filterMap (·.call?) := by
  induction actions using List.reverseRecOn with
  | nil => exact ⟨rfl, rfl⟩
  | append_singleton actions last ih =>
      obtain ⟨hbefore, hlast⟩ := throughout_concat.1 hprompt
      obtain ⟨hsuspended, hcalls⟩ := ih hbefore
      have hmove := (wired_run settings counter sweepInterval actions).move last
      obtain ⟨hnone, hanswers⟩ := hmove.verdicts_eq hsuspended hlast
      dsimp only
      rw [run_concat, List.filterMap_append, ← hcalls]
      refine ⟨hnone, ?_⟩
      rcases hanswers with ⟨hkey, hsame⟩ | ⟨verdict, hkey, htime, hmore⟩
      · rw [hsame, List.filterMap_cons_none (by simp [TimedAction.call?, hkey]), List.filterMap_nil,
          List.append_nil]
      · have hcall : last.call? = some verdict.call := by
          rw [TimedAction.call?, hkey, ← htime]
          rfl
        rw [hmore, List.reverse_cons, List.map_append, List.filterMap_cons_some hcall]
        rfl

theorem throughout_answersAtOnce {settings : Settings} (hmemory : settings.usesShared = false)
    (counter : κ) (sweepInterval : Nat) (actions : List (TimedAction κ)) :
    Throughout AnswersAtOnce (ofSettings settings counter sweepInterval) actions := by
  induction actions using List.reverseRecOn with
  | nil => trivial
  | append_singleton actions last ih =>
      have hwired := wired_run settings counter sweepInterval actions
      exact throughout_concat.2 ⟨ih, fun _ => ((hwired.step last).shared_eq_none hmemory).2⟩

theorem Throughout.imp {p q : Session κ → TimedAction κ → Prop}
    (himp : ∀ session timed, p session timed → q session timed) {session : Session κ}
    {actions : List (TimedAction κ)} (hall : Throughout p session actions) :
    Throughout q session actions := by
  induction actions generalizing session with
  | nil => trivial
  | cons timed actions ih => exact ⟨himp session timed hall.1, ih hall.2⟩

variable [FaithfulCounter κ]

/-- A request that finds the shared counter usable is answered by it, unless its increment fails. -/
theorem Move.source_eq_shared {before after : Session κ} {timed : TimedAction κ}
    (hmove : Move before timed after) (hbefore : before.suspended = [])
    (hactive : timed.action.key?.isSome = true → before.limiter.active = .shared)
    (hfine : ¬ after.books.Failed)
    (hsources : ∀ verdict ∈ before.verdicts, verdict.source = .shared) :
    ∀ verdict ∈ after.verdicts, verdict.source = .shared := by
  cases hmove with
  | quiet hquiet =>
      rw [hquiet.verdicts_eq]
      exact hsources
  | refused verdict hother hkey =>
      have hshared := hactive (by simp [hkey])
      simp [hother] at hshared
  | checked verdict policy hother _ _ hkey =>
      have hshared := hactive (by simp [hkey])
      simp [hother] at hshared
  | begun => exact hsources
  | charged backend pending _ _ _ _ hcharged =>
      cases hcharged with
      | counted _ verdict _ _ _ _ hsource => exact List.forall_mem_cons.2 ⟨hsource, hsources⟩
      | refused error verdict => exact absurd (failed_note _ error verdict) hfine
      | fellBack error verdict => exact absurd (failed_note _ error verdict) hfine
  | resumed backend pending place _ hpending => simp [hbefore] at hpending

theorem source_run (settings : Settings) (counter : κ) (sweepInterval : Nat)
    (actions : List (TimedAction κ))
    (hfinds : Throughout FindsShared (ofSettings settings counter sweepInterval) actions)
    (hfine : ¬ ((ofSettings settings counter sweepInterval).run actions).books.Failed) :
    ∀ verdict ∈ ((ofSettings settings counter sweepInterval).run actions).verdicts,
      verdict.source = .shared := by
  induction actions using List.reverseRecOn with
  | nil => simp [ofSettings, verdicts]
  | append_singleton actions last ih =>
      obtain ⟨hbefore, hlast⟩ := throughout_concat.1 hfinds
      have hsuspended := (calls_run settings counter sweepInterval actions
        (hbefore.imp fun _ _ => And.left)).1
      have hmove := (wired_run settings counter sweepInterval actions).move last
      rw [run_concat] at hfine ⊢
      exact hmove.source_eq_shared hsuspended hlast.2 hfine
        (ih hbefore fun hfailed => hfine (hmove.failed hfailed))

/-- Then all answers are in the books of the shared counter. -/
theorem answered_eq_verdicts (settings : Settings) (counter : κ) (sweepInterval : Nat)
    (actions : List (TimedAction κ))
    (hfinds : Throughout FindsShared (ofSettings settings counter sweepInterval) actions)
    (hfine : ¬ ((ofSettings settings counter sweepInterval).run actions).books.Failed) :
    ((ofSettings settings counter sweepInterval).run actions).books.answered =
      ((ofSettings settings counter sweepInterval).run actions).verdicts :=
  List.filter_eq_self.2 fun verdict hverdict => decide_eq_true <|
    source_run settings counter sweepInterval actions hfinds hfine verdict hverdict

/-! ## Agreement -/

omit [SharedCounter κ] in
theorem callsOf_eq (key : CounterKey) (actions : List (TimedAction κ)) :
    callsOf key actions = (actions.filterMap (·.call?)).filterMap fun call =>
      if call.1 = key then some call.2 else none := by
  rw [callsOf, List.filterMap_filterMap]
  refine congrArg (List.filterMap · actions) (funext fun timed => ?_)
  cases hkey : timed.action.key? <;> simp [TimedAction.call?, hkey]

/-- Lists are equal if they have the same keys in order, and the same entries of each. -/
theorem eq_of_filter_eq {α β : Type} [DecidableEq β] (key : α → β) {left right : List α}
    (hkeys : left.map key = right.map key)
    (hsame : ∀ a ∈ left, left.filter (fun b => decide (key b = key a)) =
      right.filter fun b => decide (key b = key a)) : left = right := by
  induction left generalizing right with
  | nil => simpa using hkeys
  | cons a left ih =>
      cases right with
      | nil => simp at hkeys
      | cons b right =>
          rw [List.map_cons, List.map_cons, List.cons.injEq] at hkeys
          obtain ⟨hkey, hkeys⟩ := hkeys
          have hhead := hsame a (by simp)
          rw [List.filter_cons_of_pos (by simp), List.filter_cons_of_pos (by simp [hkey]),
            List.cons.injEq] at hhead
          obtain ⟨rfl, htail⟩ := hhead
          refine congrArg _ (ih hkeys fun c hc => ?_)
          by_cases hc' : key a = key c
          · rw [← hc']
            exact htail
          · have hrest := hsame c (List.mem_cons_of_mem _ hc)
            rwa [List.filter_cons_of_neg (by simpa using hc'),
              List.filter_cons_of_neg (by simpa using hc')] at hrest

omit [SharedCounter κ] [FaithfulCounter κ] in
/-- When a key was asked for is when it was answered, if every request was answered when it came. -/
theorem map_time_of_calls {session : Session κ} {actions : List (TimedAction κ)}
    (hcalls : session.verdicts.reverse.map Verdict.call = actions.filterMap (·.call?))
    (key : CounterKey) :
    ((session.verdictsOf key).map (·.time)).reverse = callsOf key actions := by
  rw [callsOf_eq, ← hcalls, List.filterMap_map, verdictsOf, ← List.map_reverse,
    ← List.filter_reverse]
  induction session.verdicts.reverse with
  | nil => rfl
  | cons verdict verdicts ih =>
      by_cases hkey : verdict.key = key <;> simp [Verdict.call, hkey, ih]

/-- The answers for a key from a shared counter that does not fail are those that are due to
increments when its requests come. -/
theorem shared_agrees {settings : Settings} (hshared : settings.usesShared = true) {counter : κ}
    {sweepInterval : Nat} {actions : List (TimedAction κ)}
    (hundisturbed : Undisturbed counter actions)
    (hfinds : Throughout FindsShared (ofSettings settings counter sweepInterval) actions)
    (hfine : ¬ ((ofSettings settings counter sweepInterval).run actions).books.Failed)
    {key : CounterKey} (hkey : HasNoColon key.method) :
    let session := (ofSettings settings counter sweepInterval).run actions
    ((session.verdictsOf key).map fun verdict => (verdict.time, verdict.isAllowed)).reverse =
      granted (settings.policy (.of key.method)).limit.toNat
        (settings.policy (.of key.method)).window none (callsOf key actions) := by
  intro session
  obtain ⟨-, hrun⟩ := books_run hshared counter sweepInterval actions hundisturbed.noColons
    fun timed htimed => (hundisturbed.keepsWindows timed htimed).mayCountLate settings
  obtain ⟨hreopens, hanswers, -⟩ := hrun.answersOf_eq hundisturbed hfine hkey
  have hsources : session.books.answered = session.verdicts :=
    answered_eq_verdicts settings counter sweepInterval actions hfinds hfine
  have hcalls := (calls_run settings counter sweepInterval actions
    (hfinds.imp fun _ _ => And.left)).2
  have htimes : (session.books.answersOf key).map Prod.fst = callsOf key actions := by
    rw [← map_time_of_calls hcalls key, Books.answersOf, hsources, List.map_reverse, List.map_map]
    rfl
  rw [htimes] at hreopens hanswers
  rw [Books.answersOf, hsources] at hanswers
  rw [granted_eq_rationed _ _ none _ (by simp [Reopens]), ← granted_eq_rationed _ _ _ _ hreopens]
  exact hanswers

omit [FaithfulCounter κ] in
theorem memory_agrees {settings : Settings} (hmemory : settings.usesShared = false)
    {counter : κ} {sweepInterval : Nat} {actions : List (TimedAction κ)} {key : CounterKey}
    (hlimit : 0 < (settings.policy (.of key.method)).limit.toNat) (horder : InOrder actions)
    (hcolons : NoColons actions) (hfit : WindowsFit settings actions)
    (havoids : Throughout AvoidsClosing (ofSettings settings counter sweepInterval) actions)
    (hkey : HasNoColon key.method) :
    let session := (ofSettings settings counter sweepInterval).run actions
    ((session.verdictsOf key).map fun verdict => (verdict.time, verdict.isAllowed)).reverse =
      granted (settings.policy (.of key.method)).limit.toNat
        (settings.policy (.of key.method)).window none (callsOf key actions) := by
  intro session
  rw [← (alone_agrees hmemory hlimit horder hcolons hfit hkey havoids).2,
    ← map_record_verdictsOf settings counter sweepInterval actions hmemory horder hcolons hkey,
    List.map_map]
  rfl

end SingleSession

/-! ## A session in memory and a shared one -/

variable {κ κ' : Type} [SharedCounter κ] [SharedCounter κ'] [FaithfulCounter κ']

/-- With the same policies and the same requests, a limiter that counts in memory and one whose
shared counter never fails them let the same through and deny the others, if no request comes at the
instant at which the window of its key closes. -/
theorem memory_agrees_with_shared (source source' : Source) (counter : κ) (counter' : κ')
    (sweepInterval sweepInterval' : Nat) (actions : List (TimedAction κ))
    (actions' : List (TimedAction κ'))
    (hmemory : (Settings.resolve source).value.usesShared = false)
    (hshared : (Settings.resolve source').value.usesShared = true)
    (hpolicy : (Settings.resolve source').value.policy = (Settings.resolve source).value.policy)
    (hrequests : actions.filterMap (·.call?) = actions'.filterMap (·.call?))
    (horder : InOrder actions) (hcolons : NoColons actions)
    (hfit : WindowsFit (Settings.resolve source).value actions)
    (havoids : Throughout AvoidsClosing
      (ofSettings (Settings.resolve source).value counter sweepInterval) actions)
    (hundisturbed : Undisturbed counter' actions')
    (hfinds : Throughout FindsShared
      (ofSettings (Settings.resolve source').value counter' sweepInterval') actions')
    (hfine : ¬ ((ofSettings (Settings.resolve source').value counter' sweepInterval').run
      actions').books.Failed) :
    let verdicts :=
      ((ofSettings (Settings.resolve source).value counter sweepInterval).run actions).verdicts
    let verdicts' :=
      ((ofSettings (Settings.resolve source').value counter' sweepInterval').run actions').verdicts
    verdicts.reverse.map Verdict.call = actions.filterMap (·.call?) ∧
      (∀ verdict ∈ verdicts, verdict.Decided) ∧ (∀ verdict ∈ verdicts', verdict.Decided) ∧
      verdicts.map (fun verdict => (verdict.call, verdict.isAllowed)) =
        verdicts'.map fun verdict => (verdict.call, verdict.isAllowed) := by
  intro verdicts verdicts'
  have hcalls : verdicts.reverse.map Verdict.call = actions.filterMap (·.call?) :=
    (calls_run _ counter sweepInterval actions
      (throughout_answersAtOnce hmemory counter sweepInterval actions)).2
  have hcalls' : verdicts'.reverse.map Verdict.call = actions'.filterMap (·.call?) :=
    (calls_run _ counter' sweepInterval' actions' (hfinds.imp fun _ _ => And.left)).2
  have hsame : verdicts.map Verdict.call = verdicts'.map Verdict.call := by
    rw [← hrequests, ← hcalls, List.map_reverse, List.map_reverse] at hcalls'
    exact (List.reverse_inj.1 hcalls').symm
  have hdecided' : ∀ verdict ∈ verdicts', verdict.Decided := by
    obtain ⟨-, hrun⟩ := books_run hshared counter' sweepInterval' actions' hundisturbed.noColons
      fun timed htimed => (hundisturbed.keepsWindows timed htimed).mayCountLate _
    have hdecided := hrun.decided rfl
    rw [answered_eq_verdicts _ counter' sweepInterval' actions' hfinds hfine] at hdecided
    exact hdecided
  refine ⟨hcalls, decided_run hmemory hfit, hdecided',
    eq_of_filter_eq (fun answer => answer.1.1) ?_ fun answer hanswer => ?_⟩
  · have hkeys := congrArg (List.map Prod.fst) hsame
    rw [List.map_map, List.map_map] at hkeys ⊢
    exact hkeys
  · obtain ⟨verdict, hverdict, rfl⟩ := List.mem_map.1 hanswer
    have hkey : HasNoColon verdict.key.method :=
      hasNoColon_of_mem_verdicts hcolons verdict hverdict
    have hagree := memory_agrees hmemory (Settings.resolve_limit_pos source _) horder hcolons hfit
      havoids hkey
    have hagree' := shared_agrees hshared hundisturbed hfinds hfine hkey
    rw [hpolicy, callsOf_eq, ← hrequests, ← callsOf_eq, ← hagree] at hagree'
    exact (Verdict.filter_call verdict.key verdicts).trans <|
      (congrArg _ (List.reverse_inj.1 hagree').symm).trans
        (Verdict.filter_call verdict.key verdicts').symm

/-- With a limit of one, three requests of a client in one second are answered alike in memory and
by a shared counter, which counts all of them, and so is one that comes after that second. -/
theorem memory_agrees_with_shared_twice :
    let source : Source := .ofList
      [("RATE_LIMIT_STORE", "memory"), ("RATE_LIMIT_GET_MAX", "1"), ("RATE_LIMIT_GET_WINDOW", "1")]
    let source' : Source := .ofList
      [("RATE_LIMIT_STORE", "shared"), ("RATE_LIMIT_GET_MAX", "1"), ("RATE_LIMIT_GET_WINDOW", "1")]
    let settings := (Settings.resolve source).value
    let settings' := (Settings.resolve source').value
    let actions : List (TimedAction Scripted) :=
      [⟨0, .request "GET" "a"⟩, ⟨1, .request "GET" "a"⟩, ⟨1, .request "GET" "b"⟩,
        ⟨2, .request "GET" "a"⟩, ⟨2, .start⟩, ⟨1000000001, .tick⟩, ⟨1000000001, .request "GET" "a"⟩]
    let actions' : List (TimedAction Scripted.Counting) :=
      [⟨0, .start⟩, ⟨0, .notify .ready⟩, ⟨0, .request "GET" "a"⟩, ⟨1, .request "GET" "a"⟩,
        ⟨1, .request "GET" "b"⟩, ⟨2, .request "GET" "a"⟩, ⟨1000000001, .request "GET" "a"⟩]
    let session := (ofSettings settings {} 5).run actions
    let session' := (ofSettings settings' Scripted.Counting.fresh 5).run actions'
    settings.usesShared = false ∧ settings'.usesShared = true ∧ settings'.policy = settings.policy ∧
      actions.filterMap (·.call?) = actions'.filterMap (·.call?) ∧ InOrder actions ∧
      NoColons actions ∧ WindowsFit settings actions ∧
      Throughout AvoidsClosing (ofSettings settings {} 5) actions ∧
      Undisturbed Scripted.Counting.fresh actions' ∧
      Throughout FindsShared (ofSettings settings' Scripted.Counting.fresh 5) actions' ∧
      ¬ session'.books.Failed ∧
      session.verdicts.map (·.isAllowed) = [true, false, true, false, true] ∧
      session.verdicts.map (fun verdict => (verdict.call, verdict.isAllowed)) =
        session'.verdicts.map fun verdict => (verdict.call, verdict.isAllowed) := by
  intro source source' settings settings' actions actions' session session'
  have hmemory : settings.usesShared = false := by decide
  have hshared : settings'.usesShared = true := by decide
  have hpolicy : settings'.policy = settings.policy := by
    funext methods
    cases methods <;> decide
  have hrequests : actions.filterMap (·.call?) = actions'.filterMap (·.call?) := by decide
  have horder : InOrder actions := by decide
  have hcolons : NoColons actions := by decide
  have hfit : WindowsFit settings actions := by decide
  have havoids : Throughout AvoidsClosing (ofSettings settings {} 5) actions := by decide +kernel
  have hundisturbed : Undisturbed Scripted.Counting.fresh actions' :=
    ⟨by decide, by decide, by simp [actions', Action.KeepsWindows], fun name window hwindow => by
      cases hwindow⟩
  have hfinds : Throughout FindsShared (ofSettings settings' Scripted.Counting.fresh 5)
      actions' := by
    decide +kernel
  have hfine : ¬ session'.books.Failed := by decide +kernel
  have hagree := memory_agrees_with_shared source source' {} Scripted.Counting.fresh 5 5 actions
    actions' hmemory hshared hpolicy hrequests horder hcolons hfit havoids hundisturbed hfinds hfine
  exact ⟨hmemory, hshared, hpolicy, hrequests, horder, hcolons, hfit, havoids, hundisturbed, hfinds,
    hfine, by decide +kernel, hagree.2.2.2⟩

end Session

end Throttle
