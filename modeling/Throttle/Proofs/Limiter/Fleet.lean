import Throttle.Proofs.Limiter.Books

/-!
# Limiters that share a counter

A fleet is any number of limiters that use one shared counter, each in a process of its own.  Their
actions come in any order, one at a time, and all that is shared is the counter.  Main statement: if
the members have one prefix and one set of policies and no increment fails, they enforce one quota.
-/

namespace Throttle

/-- Limiters that use one shared counter, and what they wrote down together, newest first. -/
structure Fleet (ι κ : Type) where
  /-- The session of each member, but for the shared counter and what is written down. -/
  members : ι → Session κ
  counter : κ
  trace : List Notice := []

namespace Fleet

variable {ι κ : Type}

/-- The session of a member with the shared counter and the log of the fleet. -/
def view (fleet : Fleet ι κ) (member : ι) : Session κ :=
  let session := fleet.members member
  { session with
    limiter := { session.limiter with
      shared := session.limiter.shared.map fun backend =>
        { backend with counter := fleet.counter } }
    trace := fleet.trace }

def update [DecidableEq ι] (fleet : Fleet ι κ) (member : ι) (after : Session κ) : Fleet ι κ :=
  { members := Function.update fleet.members member after
    counter := after.limiter.shared.elim fleet.counter (·.counter)
    trace := after.trace }

section Run

variable [DecidableEq ι] [SharedCounter κ]

def step (fleet : Fleet ι κ) (action : ι × TimedAction κ) : Fleet ι κ :=
  fleet.update action.1 ((fleet.view action.1).step action.2)

def run (fleet : Fleet ι κ) (actions : List (ι × TimedAction κ)) : Fleet ι κ :=
  actions.foldl step fleet

theorem run_concat (fleet : Fleet ι κ) (actions : List (ι × TimedAction κ))
    (last : ι × TimedAction κ) : fleet.run (actions ++ [last]) = (fleet.run actions).step last := by
  simp [run]

end Run

/-- The fleet of limiters that have just been built around a shared counter. -/
def ofSettings (settings : ι → Settings) (counter : κ) (sweepInterval : ι → Nat) : Fleet ι κ :=
  { members := fun member => .ofSettings (settings member) counter (sweepInterval member), counter }

def books [SharedCounter κ] [FaithfulCounter κ] (fleet : Fleet ι κ) : Books :=
  ⟨FaithfulCounter.windows fleet.counter, fleet.trace⟩

/-- Every member is as it was built, and none waits with a request for a method with a colon. -/
def Sound (settings : ι → Settings) (fleet : Fleet ι κ) : Prop :=
  ∀ member, Session.Wired (settings member) (fleet.members member) ∧
    (fleet.members member).HasNoColons

section Sound

variable {settings : ι → Settings} {fleet : Fleet ι κ}

theorem sound_ofSettings (settings : ι → Settings) (counter : κ) (sweepInterval : ι → Nat) :
    Sound settings (ofSettings settings counter sweepInterval) := fun member =>
  ⟨Session.wired_ofSettings (settings member) counter (sweepInterval member),
    by simp [ofSettings, Session.ofSettings, Session.HasNoColons]⟩

theorem Sound.wired_view (hsound : Sound settings fleet) (member : ι) :
    Session.Wired (settings member) (fleet.view member) := by
  refine (hsound member).1.of_eq rfl ?_ fun _ h => h
  simp [view, Function.comp_def]

variable [SharedCounter κ]

theorem Sound.step [DecidableEq ι] (hsound : Sound settings fleet) {action : ι × TimedAction κ}
    (hcolon : ∀ key ∈ action.2.action.key?, HasNoColon key.method) :
    Sound settings (fleet.step action) := by
  have hwired := hsound.wired_view action.1
  have hmove := hwired.move action.2
  intro member
  rw [Fleet.step, update]
  dsimp only
  by_cases hsame : member = action.1
  · subst hsame
    rw [Function.update_self]
    exact ⟨hmove.wired hwired, hmove.hasNoColons (hsound action.1).2 hcolon⟩
  · rw [Function.update_of_ne hsame]
    exact hsound member

variable [FaithfulCounter κ]

theorem Sound.books_view (hsound : Sound settings fleet) {member : ι}
    (hshared : (settings member).usesShared = true) : (fleet.view member).books = fleet.books := by
  obtain ⟨backend, hbackend, -⟩ := (hsound member).1.exists_backend hshared
  simp [Session.books, books, view, hbackend, SharedBackend.windows]

theorem Sound.books_step [DecidableEq ι] (hsound : Sound settings fleet)
    {action : ι × TimedAction κ} (hshared : (settings action.1).usesShared = true) :
    (fleet.step action).books = ((fleet.view action.1).step action.2).books := by
  obtain ⟨backend, hbackend, -⟩ :=
    ((hsound.wired_view action.1).step action.2).exists_backend hshared
  simp [Fleet.step, update, books, Session.books, hbackend, SharedBackend.windows]

variable {keyPrefix : String} {policy : MethodClass → WindowPolicy}

/-- A fleet is a run of its books, whichever member takes an action. -/
theorem books_run [DecidableEq ι] (hshared : ∀ member, (settings member).usesShared = true)
    (hkeyPrefix : ∀ member, (settings member).keyPrefix = keyPrefix)
    (hpolicy : ∀ member, (settings member).policy = policy) (counter : κ) (sweepInterval : ι → Nat)
    (actions : List (ι × TimedAction κ)) (hcolons : NoColons (actions.map Prod.snd))
    (hkeeps : ∀ timed ∈ actions.map Prod.snd, timed.action.KeepsWindows) :
    let fleet := (ofSettings settings counter sweepInterval).run actions
    Sound settings fleet ∧ Books.Run keyPrefix policy ⟨FaithfulCounter.windows counter, []⟩
      (actions.map Prod.snd) fleet.books := by
  induction actions using List.reverseRecOn with
  | nil => exact ⟨sound_ofSettings settings counter sweepInterval, .nil⟩
  | append_singleton actions last ih =>
      have hearlier : actions ⊆ actions ++ [last] := List.subset_append_left ..
      obtain ⟨hsound, hrun⟩ := ih
        (fun timed htimed => hcolons timed (List.map_subset _ hearlier htimed))
        fun timed htimed => hkeeps timed (List.map_subset _ hearlier htimed)
      dsimp only
      rw [run_concat, List.map_append, List.map_singleton]
      generalize (ofSettings settings counter sweepInterval).run actions = fleet at hsound hrun ⊢
      -- The member moves in its view of the fleet, which has the books of the fleet.
      have hwired := hsound.wired_view last.1
      have hmove := hwired.move last.2
      have hcolon : ∀ key ∈ last.2.action.key?, HasNoColon key.method := fun key =>
        hcolons.key (show last.2 ∈ (actions ++ [last]).map Prod.snd by simp)
      have hbefore := hsound.books_view (hshared last.1)
      have hstep := hmove.books hwired (hshared last.1) (hsound last.1).2 hcolon
        ((hkeeps last.2 (by simp)).mayCountLate _)
      have hfailed := hmove.failed
      rw [hbefore, hkeyPrefix, hpolicy, ← hsound.books_step (hshared last.1)] at hstep
      rw [hbefore, ← hsound.books_step (hshared last.1)] at hfailed
      exact ⟨hsound.step hcolon, hrun.concat hstep hfailed⟩

end Sound

/-! ## One quota -/

variable [SharedCounter κ] [FaithfulCounter κ]

section Quota

variable [DecidableEq ι] {settings : ι → Settings} {keyPrefix : String}
  {policy : MethodClass → WindowPolicy} (hshared : ∀ member, (settings member).usesShared = true)
  (hkeyPrefix : ∀ member, (settings member).keyPrefix = keyPrefix)
  (hpolicy : ∀ member, (settings member).policy = policy)

include hshared hkeyPrefix hpolicy

/-- All members of a fleet enforce one quota.  The increments for a client and a method fall into
stretches, one for each window of the shared counter, and of each the first are let through, up to
the limit, and the others denied.  Nothing else matters to that: in any other run in which they take
effect at the same times, they are answered alike. -/
theorem one_quota (counter : κ) (sweepInterval : ι → Nat) (actions : List (ι × TimedAction κ))
    (hundisturbed : Undisturbed counter (actions.map Prod.snd))
    (hfine : ¬ ((ofSettings settings counter sweepInterval).run actions).books.Failed)
    (method client : String) (hmethod : HasNoColon method) :
    let books := ((ofSettings settings counter sweepInterval).run actions).books
    let key := CounterKey.of client method
    let limit := (policy (.of method)).limit.toNat
    let window := (policy (.of method)).window
    let times := (books.answersOf key).map Prod.fst
    books.answersOf key = ((stretches window times).map (rationed limit)).flatten ∧
    books.windows (key.sharedName keyPrefix) =
      ((stretches window times).getLast?.map fun stretch =>
        ⟨stretch.length, stretch.headD 0 + window⟩).or
          (FaithfulCounter.windows counter (key.sharedName keyPrefix)) ∧
    (∀ verdict ∈ books.answered, verdict.Decided) ∧
    ∀ actions' : List (ι × TimedAction κ), Undisturbed counter (actions'.map Prod.snd) →
      let books' := ((ofSettings settings counter sweepInterval).run actions').books
      ¬ books'.Failed → (books'.answersOf key).map Prod.fst = times →
        books'.answersOf key = books.answersOf key := by
  intro books key limit window times
  have hkey : HasNoColon key.method := hmethod.normalMethod
  have hclass : MethodClass.of key.method = MethodClass.of method :=
    MethodClass.of_normalMethod method
  obtain ⟨-, hrun⟩ := books_run hshared hkeyPrefix hpolicy counter sweepInterval actions
    hundisturbed.noColons hundisturbed.keepsWindows
  obtain ⟨hreopens, hanswers, hwindow⟩ := hrun.answersOf_eq hundisturbed hfine hkey
  rw [hclass] at hanswers hwindow
  refine ⟨?_, ?_, hrun.decided rfl, ?_⟩
  · rw [← granted_eq_rationed limit window _ times hreopens]
    exact hanswers
  · rw [← tally_eq_last window _ times hreopens]
    exact hwindow
  · intro actions' hundisturbed' books' hfine' hsame
    obtain ⟨-, hrun'⟩ := books_run hshared hkeyPrefix hpolicy counter sweepInterval actions'
      hundisturbed'.noColons hundisturbed'.keepsWindows
    obtain ⟨-, hanswers', -⟩ := hrun'.answersOf_eq hundisturbed' hfine' hkey
    rw [hclass] at hanswers'
    exact hanswers'.trans ((congrArg _ hsame).trans hanswers.symm)

end Quota

/-- Two limiters with a limit of two let a client through twice in a second together, and again when
the second is over. -/
theorem one_quota_of_two :
    let policy : MethodClass → WindowPolicy := fun _ => ⟨2, 1⟩
    let settings : Bool → Settings := fun member =>
      { (default : Settings) with
        mode := .shared, mutating := ⟨2, 1⟩, read := ⟨2, 1⟩, memoryFallback := member }
    let actions : List (Bool × TimedAction Scripted.Counting) :=
      [(false, ⟨0, .start⟩), (true, ⟨0, .start⟩), (false, ⟨0, .notify .ready⟩),
        (true, ⟨0, .notify .ready⟩), (false, ⟨0, .request "GET" "a"⟩),
        (true, ⟨1, .request "GET" "b"⟩), (true, ⟨1, .request "get" "a"⟩),
        (false, ⟨2, .request "GET" " a"⟩), (true, ⟨1000000000, .request "GET" "a"⟩)]
    let books := ((ofSettings settings Scripted.Counting.fresh fun _ => 5).run actions).books
    let times := (books.answersOf (.of "a" "GET")).map Prod.fst
    (∀ member, (settings member).usesShared = true) ∧ (∀ member, (settings member).keyPrefix = "") ∧
      (∀ member, (settings member).policy = policy) ∧
      Undisturbed Scripted.Counting.fresh (actions.map Prod.snd) ∧ ¬ books.Failed ∧
      HasNoColon "GET" ∧
      books.answersOf (.of "a" "GET") = [(0, true), (1, true), (2, false), (1000000000, true)] ∧
      books.answersOf (.of "a" "GET") =
        ((stretches (policy (.of "GET")).window times).map (rationed 2)).flatten := by
  intro policy settings actions books times
  have hshared : ∀ member, (settings member).usesShared = true := by decide
  have hkeyPrefix : ∀ member, (settings member).keyPrefix = "" := by decide
  have hpolicy : ∀ member, (settings member).policy = policy := fun member => by
    funext methods
    cases methods <;> rfl
  have hundisturbed : Undisturbed Scripted.Counting.fresh (actions.map Prod.snd) :=
    ⟨by decide, by decide, by simp [actions, Action.KeepsWindows], fun name window hwindow => by
      cases hwindow⟩
  have hfine : ¬ books.Failed := by decide +kernel
  have hmethod : HasNoColon "GET" := by decide
  have hquota := (one_quota hshared hkeyPrefix hpolicy Scripted.Counting.fresh (fun _ => 5) actions
    hundisturbed hfine "GET" "a" hmethod).1
  exact ⟨hshared, hkeyPrefix, hpolicy, hundisturbed, hfine, hmethod, by decide +kernel, hquota⟩

end Fleet

end Throttle
