import Throttle.Proofs.Limiter.Outline
import Throttle.Shared.Scripted

/-!
# The circuit breaker

Whether the shared counter is usable is decided by the last word about it: what its connection told,
a failed increment, or a disconnection.  No increment is begun but after the word that the
connection is ready.  The proofs need no counter: they read what a session wrote down, newest first.
-/

namespace Throttle

namespace Notice

/-- What a notice says about the shared counter: a failed increment is as good as an error of the
connection, a disconnection as good as its end. -/
def word? : Notice → Option ConnectionEvent
  | .told event => some event
  | .failed error => some (.failed error.message)
  | .disconnected => some .closed
  | _ => none

def lifecycle? : Notice → Option Bool
  | .started => some true
  | .stopped => some false
  | _ => none

def increment? : Notice → Option Bool
  | .begun => some true
  | .failed _ => some false
  | _ => none

def isBegun : Notice → Bool
  | .begun => true
  | _ => false

def isFailed : Notice → Bool
  | .failed _ => true
  | _ => false

end Notice

def lastWord (trace : List Notice) : Option ConnectionEvent := trace.findSome? Notice.word?

/-- Whether the last change of the limiter was a start. -/
def lastStarted (trace : List Notice) : Bool := (trace.findSome? Notice.lifecycle?).getD false

/-- Whether an increment was begun and none has failed since. -/
def inFlight (trace : List Notice) : Bool := (trace.findSome? Notice.increment?).getD false

/-- Whether a notice may be written down after others: an increment is begun only after the word
that the connection is ready, the listener is told something only while the limiter runs, and the
limiter is stopped only when the shared counter is no longer usable. -/
def Notice.MayFollow (earlier : List Notice) : Notice → Prop
  | .begun => lastWord earlier = some .ready
  | .told _ => lastStarted earlier = true
  | .stopped => lastWord earlier ≠ some .ready
  | _ => True

/-- Whether a notice is no failure, or one of an increment that was begun after the failure before. -/
def Notice.IsPaired (earlier : List Notice) (notice : Notice) : Prop :=
  notice.isFailed = true → inFlight earlier = true

/-- Traces in which every notice is allowed after those before it. -/
inductive EachAllowed (allowed : List Notice → Notice → Prop) : List Notice → Prop where
  | nil : EachAllowed allowed []
  | cons {notice : Notice} {earlier : List Notice} (hallowed : allowed earlier notice)
      (hearlier : EachAllowed allowed earlier) : EachAllowed allowed (notice :: earlier)

/-- Traces in which every notice may follow those before it. -/
abbrev Orderly (trace : List Notice) : Prop := EachAllowed Notice.MayFollow trace

/-- Traces in which every failure has an increment of its own. -/
abbrev Paired (trace : List Notice) : Prop := EachAllowed Notice.IsPaired trace

section Trace

variable {notice : Notice} {later middle earlier : List Notice}

@[simp] theorem lastWord_cons :
    lastWord (notice :: earlier) = notice.word?.or (lastWord earlier) := by
  rw [lastWord, List.findSome?_cons]
  cases notice.word? <;> rfl

@[simp] theorem lastStarted_cons :
    lastStarted (notice :: earlier) = notice.lifecycle?.getD (lastStarted earlier) := by
  rw [lastStarted, List.findSome?_cons]
  cases notice.lifecycle? <;> rfl

@[simp] theorem inFlight_cons :
    inFlight (notice :: earlier) = notice.increment?.getD (inFlight earlier) := by
  rw [inFlight, List.findSome?_cons]
  cases notice.increment? <;> rfl

theorem EachAllowed.of_append {allowed : List Notice → Notice → Prop}
    (heach : EachAllowed allowed (later ++ earlier)) : EachAllowed allowed earlier := by
  induction later with
  | nil => exact heach
  | cons notice later ih =>
      cases heach with
      | cons _ hearlier => exact ih hearlier

theorem EachAllowed.allowed {allowed : List Notice → Notice → Prop}
    (heach : EachAllowed allowed (later ++ notice :: earlier)) : allowed earlier notice := by
  cases heach.of_append with
  | cons hallowed _ => exact hallowed

theorem word?_eq_ready_iff : notice.word? = some .ready ↔ notice = .told .ready := by
  cases notice <;> simp [Notice.word?]

/-- If the last word has become that the connection is ready, then that was told. -/
theorem told_ready_mem (hready : lastWord (later ++ earlier) = some .ready)
    (hbefore : lastWord earlier ≠ some .ready) : .told .ready ∈ later := by
  rw [lastWord, List.findSome?_append] at hready
  cases hlater : later.findSome? Notice.word? with
  | none =>
      rw [hlater, Option.none_or] at hready
      exact absurd hready hbefore
  | some event =>
      rw [hlater, Option.some_or] at hready
      obtain ⟨notice, hmem, hword⟩ := List.exists_of_findSome?_eq_some (hlater.trans hready)
      rwa [word?_eq_ready_iff.1 hword] at hmem

/-- If the limiter has come to run, then it was started. -/
theorem started_mem (hstarted : lastStarted (later ++ earlier) = true)
    (hbefore : lastStarted earlier = false) : .started ∈ later := by
  rw [lastStarted, List.findSome?_append] at hstarted
  cases hlater : later.findSome? Notice.lifecycle? with
  | none =>
      rw [hlater, Option.none_or, ← lastStarted, hbefore] at hstarted
      cases hstarted
  | some started =>
      rw [hlater, Option.some_or, Option.getD_some] at hstarted
      obtain ⟨notice, hmem, hnotice⟩ := List.exists_of_findSome?_eq_some hlater
      subst hstarted
      cases notice <;> simp [Notice.lifecycle?] at hnotice
      exact hmem

theorem told_ready_mem_of_begun {error : LimiterError}
    (horderly : Orderly (later ++ .begun :: (middle ++ .failed error :: earlier))) :
    .told .ready ∈ middle := by
  have hready : lastWord (middle ++ .failed error :: earlier) = some .ready := horderly.allowed
  refine told_ready_mem hready ?_
  simp [Notice.word?]

/-- After a stop, the limiter is started and the connection gets ready before an increment is
begun. -/
theorem started_of_begun
    (horderly : Orderly (later ++ .begun :: (middle ++ .stopped :: earlier))) :
    ∃ recent between older,
      middle = recent ++ .told .ready :: (between ++ .started :: older) := by
  have hready : lastWord (middle ++ .stopped :: earlier) = some .ready := horderly.allowed
  have hsplit : later ++ .begun :: (middle ++ .stopped :: earlier) =
      (later ++ .begun :: middle) ++ .stopped :: earlier := by
    simp
  -- The stop left the shared counter unusable, so it was told to be ready afterwards.
  have hstopped : lastWord (.stopped :: earlier) ≠ some .ready := by
    rw [hsplit] at horderly
    exact horderly.allowed
  obtain ⟨recent, older, hmiddle⟩ := List.append_of_mem (told_ready_mem hready hstopped)
  subst hmiddle
  have htold : later ++ .begun :: ((recent ++ .told .ready :: older) ++ .stopped :: earlier) =
      (later ++ .begun :: recent) ++ .told .ready :: (older ++ .stopped :: earlier) := by
    simp
  rw [htold] at horderly
  -- It was told so only because the limiter had been started again.
  have hlistening : lastStarted (older ++ .stopped :: earlier) = true := horderly.allowed
  obtain ⟨between, oldest, holder⟩ := List.append_of_mem (started_mem hlistening rfl)
  exact ⟨recent, between, oldest, by rw [holder]⟩

/-- Without the word that the connection is ready, at most one increment fails; after it has, none
is in flight, nor can one be begun. -/
theorem countP_isFailed_cases (horderly : Orderly (middle ++ earlier))
    (hpaired : Paired (middle ++ earlier)) (hready : .told .ready ∉ middle) :
    middle.countP Notice.isFailed = 0 ∨
      middle.countP Notice.isFailed = 1 ∧ inFlight (middle ++ earlier) = false ∧
        lastWord (middle ++ earlier) ≠ some .ready := by
  induction middle with
  | nil => exact .inl rfl
  | cons notice middle ih =>
      cases horderly with
      | cons hfollow horderly =>
      cases hpaired with
      | cons hbegun hpaired =>
      have hbefore := ih horderly hpaired fun hmem => hready (List.mem_cons_of_mem _ hmem)
      cases notice with
      | failed error =>
          -- The increment that fails was in flight, so none has failed before it.
          have hflight : inFlight (middle ++ earlier) = true := hbegun rfl
          rcases hbefore with hnone | ⟨-, hover, -⟩
          · refine .inr ⟨?_, ?_, ?_⟩
            · rw [List.countP_cons, hnone]
              rfl
            · simp [Notice.increment?]
            · simp [Notice.word?]
          · rw [hflight] at hover
            cases hover
      | begun =>
          -- It was begun on the word that the connection is ready, so none has failed before it.
          have hword : lastWord (middle ++ earlier) = some .ready := hfollow
          rcases hbefore with hnone | ⟨-, -, hunready⟩
          · exact .inl hnone
          · exact absurd hword hunready
      | told event =>
          have hevent : event ≠ .ready := fun heq => hready (by simp [heq])
          rcases hbefore with hnone | ⟨hone, hover, -⟩
          · exact .inl hnone
          · exact .inr ⟨hone, by simpa [Notice.increment?] using hover,
              by simpa [Notice.word?] using hevent⟩
      | disconnected =>
          rcases hbefore with hnone | ⟨hone, hover, -⟩
          · exact .inl hnone
          · exact .inr ⟨hone, by simpa [Notice.increment?] using hover, by simp [Notice.word?]⟩
      | started => exact hbefore
      | stopped => exact hbefore
      | answered verdict => exact hbefore

end Trace

section Signals

variable {trace : List Notice} (signals : List Signal)

theorem reverse_ofSignals_connection (event : ConnectionEvent) :
    (Notice.ofSignals (.connection event :: signals)).reverse ++ trace =
      (Notice.ofSignals signals).reverse ++ .told event :: trace := by
  have hnotices : Notice.ofSignals (.connection event :: signals) =
      .told event :: Notice.ofSignals signals := rfl
  rw [hnotices, List.reverse_cons, List.append_assoc, List.singleton_append]

/-- What stays true when the listener is told something stays true when signals are written down. -/
theorem signals_induction {motive : List Notice → Prop}
    (htold : ∀ event trace, motive trace → motive (.told event :: trace)) (htrace : motive trace) :
    motive ((Notice.ofSignals signals).reverse ++ trace) := by
  induction signals generalizing trace with
  | nil => exact htrace
  | cons signal signals ih =>
      cases signal with
      | report event => exact ih htrace
      | connection event =>
          rw [reverse_ofSignals_connection]
          exact ih (htold event trace htrace)

theorem inFlight_signals :
    inFlight ((Notice.ofSignals signals).reverse ++ trace) = inFlight trace :=
  signals_induction (motive := fun after => inFlight after = inFlight trace) signals
    (fun _ _ hsame => hsame) rfl

theorem countP_isBegun_signals :
    ((Notice.ofSignals signals).reverse ++ trace).countP Notice.isBegun =
      trace.countP Notice.isBegun :=
  signals_induction (motive := fun after =>
    after.countP Notice.isBegun = trace.countP Notice.isBegun) signals (fun _ _ hsame => hsame) rfl

theorem Paired.append_signals (hpaired : Paired trace) :
    Paired ((Notice.ofSignals signals).reverse ++ trace) :=
  signals_induction signals (fun _ _ hbefore => .cons nofun hbefore) hpaired

theorem isReady_iff {event : ConnectionEvent} : event.isReady = true ↔ event = .ready := by
  cases event <;> simp [ConnectionEvent.isReady]

/-- Signals leave word of the last event of the connection, and are told while the limiter runs. -/
theorem signals_spec {available : Bool} (horderly : Orderly trace)
    (hstarted : lastStarted trace = true)
    (havailable : available = true ↔ lastWord trace = some .ready) :
    Orderly ((Notice.ofSignals signals).reverse ++ trace) ∧
      lastStarted ((Notice.ofSignals signals).reverse ++ trace) = true ∧
      (Signal.available available signals = true ↔
        lastWord ((Notice.ofSignals signals).reverse ++ trace) = some .ready) := by
  induction signals generalizing trace available with
  | nil => exact ⟨horderly, hstarted, havailable⟩
  | cons signal signals ih =>
      cases signal with
      | report event => exact ih horderly hstarted havailable
      | connection event =>
          rw [reverse_ofSignals_connection]
          exact ih (.cons hstarted horderly) hstarted
            (by simp [Notice.word?, Signal.availableAfter, isReady_iff])

end Signals

/-- What is written down in a session agrees with what it shows. -/
structure Outline.Sound (outline : Outline) : Prop where
  available_iff : outline.available = true ↔ lastWord outline.trace = some .ready
  running_eq : outline.running = lastStarted outline.trace
  listening_eq : outline.listening = lastStarted outline.trace
  orderly : Orderly outline.trace

/-- An answer changes nothing that the trace tells of the shared counter. -/
theorem Outline.Sound.answered {outline : Outline} (hsound : outline.Sound) (verdict : Verdict)
    (suspended : List Pending) :
    Outline.Sound { outline with suspended, trace := .answered verdict :: outline.trace } :=
  ⟨hsound.available_iff, hsound.running_eq, hsound.listening_eq, .cons trivial hsound.orderly⟩

theorem Outline.Sound.begun {outline : Outline} (hsound : outline.Sound)
    (havailable : outline.available = true) (suspended : List Pending) :
    Outline.Sound { outline with suspended, trace := .begun :: outline.trace } :=
  ⟨hsound.available_iff, hsound.running_eq, hsound.listening_eq,
    .cons (hsound.available_iff.1 havailable) hsound.orderly⟩

theorem Outline.Sound.failed {outline : Outline} (hsound : outline.Sound) (error : LimiterError) :
    Outline.Sound { outline with available := false, trace := .failed error :: outline.trace } :=
  ⟨by simp [Notice.word?], hsound.running_eq, hsound.listening_eq, .cons trivial hsound.orderly⟩

theorem Outline.Sound.step {key? : Option CounterKey} {before after : Outline}
    (hsound : before.Sound) (hstep : Outline.Step key? before after) : after.Sound := by
  cases hstep with
  | quiet => exact hsound
  | answer verdict => exact hsound.answered verdict _
  | count verdict _ havailable =>
      exact (hsound.begun havailable before.suspended).answered verdict _
  | fail verdict error _ havailable =>
      exact ((hsound.begun havailable before.suspended).failed error).answered verdict _
  | wait pending _ havailable => exact hsound.begun havailable _
  | wake place pending verdict => exact hsound.answered verdict _
  | wakeFailed place pending verdict error => exact (hsound.failed error).answered verdict _
  | start signals =>
      obtain ⟨horderly, hstarted, havailable⟩ := signals_spec signals
        (.cons trivial hsound.orderly : Orderly (.started :: before.trace)) rfl
        hsound.available_iff
      exact ⟨havailable, hstarted.symm, hstarted.symm, horderly⟩
  | stop signals hrunning =>
      obtain ⟨horderly, -, -⟩ := signals_spec signals hsound.orderly
        (hsound.running_eq.symm.trans hrunning) hsound.available_iff
      refine ⟨by simp [Notice.word?], by simp [Notice.lifecycle?], by simp [Notice.lifecycle?], ?_⟩
      exact .cons (by simp [Notice.MayFollow, Notice.word?]) (.cons trivial horderly)
  | stopAlone havailable =>
      have hunready : lastWord before.trace ≠ some .ready := by
        intro hready
        rw [hsound.available_iff.2 hready] at havailable
        cases havailable
      exact ⟨hsound.available_iff, rfl, rfl, .cons hunready hsound.orderly⟩
  | tell event hlistening =>
      refine ⟨by simp [Notice.word?, isReady_iff], hsound.running_eq, hsound.listening_eq, ?_⟩
      exact .cons (hsound.listening_eq.symm.trans hlistening) hsound.orderly

/-- At most one increment is under way, and the trace tells so. -/
structure Outline.Single (outline : Outline) : Prop where
  length_le : outline.suspended.length ≤ 1
  inFlight : outline.suspended ≠ [] → inFlight outline.trace = true
  paired : Paired outline.trace

theorem Outline.Single.eraseIdx_eq_nil {outline : Outline} (hsingle : outline.Single) {place : Nat}
    {pending : Pending} (hpending : outline.suspended[place]? = some pending) :
    outline.suspended.eraseIdx place = [] := by
  obtain ⟨hplace, -⟩ := List.getElem?_eq_some_iff.1 hpending
  rw [← List.length_eq_zero_iff, List.length_eraseIdx, if_pos hplace]
  have hlength := hsingle.length_le
  omega

/-- A step that is a request only if none waits keeps increments from overlapping. -/
theorem Outline.Single.step {key? : Option CounterKey} {before after : Outline}
    (hsingle : before.Single) (hidle : key?.isSome = true → before.suspended = [])
    (hstep : Outline.Step key? before after) : after.Single := by
  cases hstep with
  | quiet => exact hsingle
  | answer verdict => exact ⟨hsingle.length_le, hsingle.inFlight, .cons nofun hsingle.paired⟩
  | count verdict =>
      exact ⟨hsingle.length_le, fun _ => rfl, .cons nofun (.cons nofun hsingle.paired)⟩
  | fail verdict error hkey =>
      have hempty : before.suspended = [] := hidle (by simp [hkey])
      exact ⟨hsingle.length_le, fun hsuspended => absurd hempty hsuspended,
        .cons nofun (.cons (fun _ => rfl) (.cons nofun hsingle.paired))⟩
  | wait pending hkey =>
      have hempty : before.suspended = [] := hidle (by simp [hkey])
      exact ⟨by simp [hempty], fun _ => rfl, .cons nofun hsingle.paired⟩
  | wake place pending verdict hpending =>
      have hempty := hsingle.eraseIdx_eq_nil hpending
      exact ⟨by simp [hempty], fun hsuspended => absurd hempty hsuspended,
        .cons nofun hsingle.paired⟩
  | wakeFailed place pending verdict error hpending =>
      -- The increment that fails is the only one that was under way.
      have hempty := hsingle.eraseIdx_eq_nil hpending
      have hflight := hsingle.inFlight (List.ne_nil_of_mem (List.mem_of_getElem? hpending))
      exact ⟨by simp [hempty], fun hsuspended => absurd hempty hsuspended,
        .cons nofun (.cons (fun _ => hflight) hsingle.paired)⟩
  | start signals =>
      have hstarted : Paired (.started :: before.trace) := .cons nofun hsingle.paired
      refine ⟨hsingle.length_le, ?_, hstarted.append_signals signals⟩
      rw [inFlight_signals]
      exact hsingle.inFlight
  | stop signals =>
      have htold := hsingle.paired.append_signals signals
      refine ⟨hsingle.length_le, ?_, .cons nofun (.cons nofun htold)⟩
      simp only [inFlight_cons, inFlight_signals]
      exact hsingle.inFlight
  | stopAlone => exact ⟨hsingle.length_le, hsingle.inFlight, .cons nofun hsingle.paired⟩
  | tell event => exact ⟨hsingle.length_le, hsingle.inFlight, .cons nofun hsingle.paired⟩

/-- Without a usable shared counter no step begins an increment. -/
theorem Outline.Step.countP_isBegun {key? : Option CounterKey} {before after : Outline}
    (hstep : Outline.Step key? before after) (hunavailable : before.available = false) :
    after.trace.countP Notice.isBegun = before.trace.countP Notice.isBegun := by
  cases hstep with
  | quiet => rfl
  | answer verdict => rfl
  | count verdict _ havailable => simp [hunavailable] at havailable
  | fail verdict error _ havailable => simp [hunavailable] at havailable
  | wait pending _ havailable => simp [hunavailable] at havailable
  | wake place pending verdict => rfl
  | wakeFailed place pending verdict error => rfl
  | start signals => exact countP_isBegun_signals signals
  | stop signals => exact countP_isBegun_signals signals
  | stopAlone => rfl
  | tell event => rfl

namespace Session

variable {κ : Type} [SharedCounter κ]

/-- A request comes only when none waits. -/
def OneByOne (session : Session κ) : List (TimedAction κ) → Prop
  | [] => True
  | timed :: rest =>
    (timed.action.key?.isSome = true → session.suspended = []) ∧
      OneByOne (session.step timed) rest

instance decidableOneByOne (session : Session κ) :
    (actions : List (TimedAction κ)) → Decidable (session.OneByOne actions)
  | [] => isTrue trivial
  | timed :: rest =>
    have := decidableOneByOne (session.step timed) rest
    inferInstanceAs (Decidable (_ ∧ _))

theorem oneByOne_concat {session : Session κ} {actions : List (TimedAction κ)}
    {last : TimedAction κ} :
    session.OneByOne (actions ++ [last]) ↔ session.OneByOne actions ∧
      (last.action.key?.isSome = true → (session.run actions).suspended = []) := by
  induction actions generalizing session with
  | nil => simp [OneByOne]
  | cons timed actions ih =>
      rw [List.cons_append, OneByOne, OneByOne, ih, and_assoc]
      rfl

/-- What a session writes down is sound. -/
theorem sound_run (settings : Settings) (counter : κ) (sweepInterval : Nat)
    (actions : List (TimedAction κ)) :
    ((ofSettings settings counter sweepInterval).run actions).outline.Sound := by
  refine outline_run _ actions ?_ fun timed _ before after hstep hsound => hsound.step hstep
  rw [outline_ofSettings]
  exact ⟨by simp [lastWord], rfl, rfl, .nil⟩

theorem single_run (settings : Settings) (counter : κ) (sweepInterval : Nat)
    (actions : List (TimedAction κ))
    (hone : (ofSettings settings counter sweepInterval).OneByOne actions) :
    ((ofSettings settings counter sweepInterval).run actions).outline.Single := by
  induction actions using List.reverseRecOn with
  | nil =>
      rw [run_nil, outline_ofSettings]
      exact ⟨by simp, by simp, .nil⟩
  | append_singleton actions last ih =>
      obtain ⟨hbefore, hidle⟩ := oneByOne_concat.1 hone
      rw [run_concat]
      exact (ih hbefore).step hidle (outline_step _ last)

/-- The circuit breaker, whatever the shared counter does.  It is usable exactly if the last word
about it is that its connection is ready, which it is not at first.  Increments are begun only then:
after a failure only when it was told to be ready again, and after a stop only when the limiter was
started again and then the connection became ready.  If requests do not overlap, at most one
increment fails while the connection does not become ready again. -/
theorem begun_only_when_ready (settings : Settings) (counter : κ) (sweepInterval : Nat)
    (actions : List (TimedAction κ)) :
    let session := (ofSettings settings counter sweepInterval).run actions
    (ofSettings settings counter sweepInterval).available = false ∧
    (session.available = true ↔ lastWord session.trace = some .ready) ∧
    (session.available = false → ∀ timed, (session.step timed).trace.countP Notice.isBegun =
      session.trace.countP Notice.isBegun) ∧
    (∀ later earlier, session.trace = later ++ .begun :: earlier →
      lastWord earlier = some .ready) ∧
    (∀ later middle error earlier,
      session.trace = later ++ .begun :: (middle ++ .failed error :: earlier) →
        .told .ready ∈ middle) ∧
    ((ofSettings settings counter sweepInterval).OneByOne actions →
      ∀ later middle earlier, session.trace = later ++ (middle ++ earlier) →
        .told .ready ∉ middle → middle.countP Notice.isFailed ≤ 1) ∧
    ∀ later middle earlier, session.trace = later ++ .begun :: (middle ++ .stopped :: earlier) →
      ∃ recent between older,
        middle = recent ++ .told .ready :: (between ++ .started :: older) := by
  intro session
  have hsound : session.outline.Sound := sound_run settings counter sweepInterval actions
  have horderly : Orderly session.trace := hsound.orderly
  refine ⟨congrArg Outline.available (outline_ofSettings settings counter sweepInterval),
    hsound.available_iff, fun hunavailable timed => ?_, fun later earlier htrace => ?_,
    fun later middle error earlier htrace => ?_, fun hone later middle earlier htrace hready => ?_,
    fun later middle earlier htrace => ?_⟩
  · exact (outline_step session timed).countP_isBegun hunavailable
  · rw [htrace] at horderly
    exact horderly.allowed
  · rw [htrace] at horderly
    exact told_ready_mem_of_begun horderly
  · have hpaired : Paired session.trace :=
      (single_run settings counter sweepInterval actions hone).paired
    rw [htrace] at horderly hpaired
    rcases countP_isFailed_cases horderly.of_append hpaired.of_append hready with
      hnone | ⟨hfailed, -, -⟩ <;> omega
  · rw [htrace] at horderly
    exact started_of_begun horderly

/-- Two increments fail one after the other, each after the connection has become ready; a request
between them, and one after the stop, begin none. -/
theorem begun_only_when_ready_twice :
    let settings : Settings := { (default : Settings) with mode := .shared }
    let actions : List (TimedAction Scripted) :=
      [⟨0, .request "GET" "a"⟩, ⟨0, .start⟩, ⟨1, .notify .ready⟩, ⟨2, .request "GET" "a"⟩,
        ⟨3, .alter fun counter => { counter with failure := some .notConnected }⟩,
        ⟨3, .request "GET" "a"⟩, ⟨4, .request "GET" "a"⟩, ⟨5, .notify .ready⟩,
        ⟨6, .request "GET" "b"⟩, ⟨7, .notify .ready⟩, ⟨8, .stop⟩, ⟨8, .notify .ready⟩,
        ⟨9, .request "GET" "a"⟩]
    let session := (ofSettings settings {} 5).run actions
    (ofSettings settings {} 5).OneByOne actions ∧
      session.trace.countP Notice.isBegun = 3 ∧ session.trace.countP Notice.isFailed = 2 ∧
      session.available = false ∧ lastWord session.trace ≠ some .ready ∧
      ∀ later middle earlier, session.trace = later ++ (middle ++ earlier) →
        .told .ready ∉ middle → middle.countP Notice.isFailed ≤ 1 := by
  intro settings actions session
  have hone : (ofSettings settings {} 5).OneByOne actions := by decide +kernel
  have hunavailable : session.available = false := by decide +kernel
  obtain ⟨-, hlast, -, -, -, hfailures, -⟩ := begun_only_when_ready settings {} 5 actions
  refine ⟨hone, by decide +kernel, by decide +kernel, hunavailable, ?_, hfailures hone⟩
  intro hready
  have havailable : session.available = true := hlast.2 hready
  rw [hunavailable] at havailable
  cases havailable

end Session

end Throttle
