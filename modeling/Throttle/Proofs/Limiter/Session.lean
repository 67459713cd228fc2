import Throttle.Limiter.Service
import Throttle.Proofs.Key
import Throttle.Proofs.Store.Log

/-!
# Sessions

A session is a limiter with everything that can happen to it from outside, in any order: requests,
the ends of their waits, starts and stops, ticks and sweeps, and a shared counter that tells what
becomes of its connection and changes as it likes.  The session writes down what it did.
-/

namespace Throttle

/-- What happens to a limiter whose shared counter has states `κ`. -/
inductive Action (κ : Type) where
  | request (method client : String)
  /-- The wait of the suspended check at a place is over. -/
  | resume (place : Nat)
  | start
  | stop
  /-- The sweep task takes the ticks that have come up. -/
  | tick
  /-- The host has the counters in memory swept. -/
  | sweep
  /-- The shared counter tells its listener something. -/
  | notify (event : ConnectionEvent)
  /-- Something happens to the shared counter that it does not tell. -/
  | alter (change : κ → κ)

def Action.request? {κ : Type} : Action κ → Option (String × String)
  | .request method client => some (method, client)
  | _ => none

def Action.key? {κ : Type} (action : Action κ) : Option CounterKey :=
  action.request?.map fun (method, client) => .of client method

structure Verdict where
  key : CounterKey
  time : Nat
  answer : Except Fault Admission
  /-- What was reported until it was there. -/
  events : List Event

namespace Verdict

def isAllowed (verdict : Verdict) : Bool := Throttle.isAllowed verdict.answer

def opened (verdict : Verdict) : Bool :=
  decide (.windowOpened verdict.key.localName ∈ verdict.events)

/-- Whether a request for a key was let through. -/
def isAllowedOf (key : CounterKey) (verdict : Verdict) : Bool :=
  decide (verdict.key = key) && verdict.isAllowed

/-- Whether a request for a key was let through from one instant to another, both included. -/
def isAllowedIn (key : CounterKey) (first last : Nat) (verdict : Verdict) : Bool :=
  verdict.isAllowedOf key && first ≤ verdict.time && verdict.time ≤ last

def opens (key : CounterKey) (verdict : Verdict) : Bool :=
  decide (verdict.key = key) && verdict.opened

end Verdict

/-- What a session writes down. -/
inductive Notice where
  | started
  | stopped
  | told (event : ConnectionEvent)
  | disconnected
  | begun
  | failed (error : LimiterError)
  | answered (verdict : Verdict)

namespace Notice

def ofSignal? : Signal → Option Notice
  | .connection event => some (.told event)
  | .report _ => none

def ofEvent? : Event → Option Notice
  | .incrementing _ => some .begun
  | .incrementFailed _ error => some (.failed error)
  | _ => none

def ofSignals (signals : List Signal) : List Notice := signals.filterMap ofSignal?

def ofEvents (events : List Event) : List Notice := events.filterMap ofEvent?

def verdict? : Notice → Option Verdict
  | .answered verdict => some verdict
  | _ => none

theorem verdict?_of_mem_ofSignals {signals : List Signal} {notice : Notice}
    (hnotice : notice ∈ ofSignals signals) : notice.verdict? = none := by
  obtain ⟨signal, -, hsignal⟩ := List.mem_filterMap.1 hnotice
  cases signal <;> simp only [ofSignal?, Option.some.injEq, reduceCtorEq] at hsignal
  subst hsignal
  rfl

theorem verdict?_of_mem_ofEvents {events : List Event} {notice : Notice}
    (hnotice : notice ∈ ofEvents events) : notice.verdict? = none := by
  obtain ⟨event, -, hevent⟩ := List.mem_filterMap.1 hnotice
  cases event <;> simp only [ofEvent?, Option.some.injEq, reduceCtorEq] at hevent <;>
    (subst hevent; rfl)

end Notice

/-- An action and when it is taken. -/
structure TimedAction (κ : Type) where
  time : Nat
  action : Action κ

/-- The clock does not run backwards from one action to the next. -/
def InOrder {κ : Type} (actions : List (TimedAction κ)) : Prop :=
  actions.Pairwise fun earlier later => earlier.time ≤ later.time

/-- No method that is asked for has a colon. -/
def NoColons {κ : Type} (actions : List (TimedAction κ)) : Prop :=
  ∀ timed ∈ actions, ∀ request ∈ timed.action.request?, HasNoColon request.1

/-- The clock reaches the end of every window that a request may open. -/
def WindowsFit {κ : Type} (settings : Settings) (actions : List (TimedAction κ)) : Prop :=
  ∀ timed ∈ actions, ∀ request ∈ timed.action.request?,
    timed.time + (settings.policy (.of request.1)).window < Instant.bound

instance {κ : Type} (actions : List (TimedAction κ)) : Decidable (InOrder actions) :=
  inferInstanceAs (Decidable (actions.Pairwise _))

instance {κ : Type} (actions : List (TimedAction κ)) : Decidable (NoColons actions) :=
  inferInstanceAs (Decidable (∀ timed ∈ actions, ∀ request ∈ timed.action.request?, _))

instance {κ : Type} (settings : Settings) (actions : List (TimedAction κ)) :
    Decidable (WindowsFit settings actions) :=
  inferInstanceAs (Decidable (∀ timed ∈ actions, ∀ request ∈ timed.action.request?, _))

theorem NoColons.key {κ : Type} {actions : List (TimedAction κ)} (hcolons : NoColons actions)
    {timed : TimedAction κ} (htimed : timed ∈ actions) {key : CounterKey}
    (hkey : timed.action.key? = some key) : HasNoColon key.method := by
  obtain ⟨⟨method, client⟩, hrequest, rfl⟩ := Option.map_eq_some_iff.1 hkey
  exact (hcolons timed htimed _ hrequest).normalMethod

/-- A limiter, the checks that wait, and what was written down. -/
structure Session (κ : Type) where
  limiter : Limiter κ
  /-- Whether the shared counter holds the listener of the limiter. -/
  listening : Bool := false
  /-- The checks that wait for the shared counter, oldest first. -/
  suspended : List Pending := []
  trace : List Notice := []

namespace Session

variable {κ : Type} [SharedCounter κ]

/-- Writes down notices, which come in order. -/
def note (session : Session κ) (notices : List Notice) : Session κ :=
  { session with trace := notices.reverse ++ session.trace }

def available (session : Session κ) : Bool :=
  session.limiter.shared.any (·.available)

/-- A request arrives: it is answered, or has to wait. -/
def request (session : Session κ) (time : Nat) (method client : String) : Session κ :=
  let begun := session.limiter.begin method client time
  let session := { session with limiter := begun.state }
  match begun.value with
  | .done answer =>
    session.note (Notice.ofEvents begun.events ++
      [Notice.answered ⟨CounterKey.of client method, time, answer, begun.events⟩])
  | .waiting pending =>
    { session with suspended := session.suspended ++ [pending] }.note
      (Notice.ofEvents begun.events)

/-- A suspended check goes on, if it is time. -/
def resume (session : Session κ) (time place : Nat) : Session κ :=
  match session.suspended[place]? with
  | none => session
  | some pending =>
    if time < pending.resumeAt then session
    else
      let resumed := session.limiter.resume pending time
      { session with
        limiter := resumed.state
        suspended := session.suspended.eraseIdx place }.note
          (Notice.ofEvents resumed.events ++
            [Notice.answered ⟨pending.key, time, resumed.value, resumed.events⟩])

/-- The limiter is started; the shared counter then holds its listener. -/
def start (session : Session κ) (time : Nat) : Session κ :=
  let started := { session with limiter := (session.limiter.start time).state }
  if session.limiter.isRunning then started
  else
    { started with listening := true }.note <| .started ::
      session.limiter.shared.elim [] fun backend =>
        Notice.ofSignals (SharedCounter.connect backend.counter).2

/-- The limiter is stopped; the shared counter then no longer holds its listener. -/
def stop (session : Session κ) : Session κ :=
  let stopped := { session with limiter := session.limiter.stop.state }
  if session.limiter.isRunning then
    { stopped with listening := false }.note <|
      (session.limiter.shared.elim [] fun backend =>
        Notice.ofSignals (SharedCounter.disconnect backend.counter).2 ++ [Notice.disconnected]) ++
          [Notice.stopped]
  else stopped

/-- The shared counter tells its listener something, if it holds one. -/
def notify (session : Session κ) (event : ConnectionEvent) : Session κ :=
  match session.limiter.shared with
  | none => session
  | some backend =>
    if session.listening then
      { session with limiter := { session.limiter with
          shared := some (backend.receive [.connection event]).state } }.note [.told event]
    else session

def step (session : Session κ) (timed : TimedAction κ) : Session κ :=
  match timed.action with
  | .request method client => session.request timed.time method client
  | .resume place => session.resume timed.time place
  | .start => session.start timed.time
  | .stop => session.stop
  | .tick =>
    { session with
      limiter := (Service.runTicks session.limiter timed.time (timed.time + 1)).state }
  | .sweep =>
    { session with limiter := { session.limiter with
        store := (session.limiter.store.sweep timed.time).state } }
  | .notify event => session.notify event
  | .alter change =>
    { session with limiter := { session.limiter with
        shared := session.limiter.shared.map fun backend =>
          { backend with counter := change backend.counter } } }

def run (session : Session κ) (actions : List (TimedAction κ)) : Session κ :=
  actions.foldl step session

@[simp] theorem run_nil (session : Session κ) : session.run [] = session := rfl

theorem run_concat (session : Session κ) (actions : List (TimedAction κ))
    (last : TimedAction κ) :
    session.run (actions ++ [last]) = (session.run actions).step last := by
  rw [run, List.foldl_append]
  rfl

omit [SharedCounter κ] in
/-- The session of a limiter of these settings that has just been built around a shared counter. -/
def ofSettings (settings : Settings) (counter : κ) (sweepInterval : Nat) : Session κ :=
  { limiter := { (Limiter.build settings (some counter)).state with sweepInterval } }

def verdicts (session : Session κ) : List Verdict := session.trace.filterMap Notice.verdict?

section Verdicts

omit [SharedCounter κ]

variable {session : Session κ} {notices : List Notice}

theorem verdicts_note_of_none (hnone : ∀ notice ∈ notices, notice.verdict? = none) :
    (session.note notices).verdicts = session.verdicts := by
  have hnew : notices.reverse.filterMap Notice.verdict? = [] :=
    List.filterMap_eq_nil_iff.2 fun notice hnotice => hnone notice (List.mem_reverse.1 hnotice)
  rw [verdicts, note, List.filterMap_append, hnew, List.nil_append, verdicts]

theorem verdicts_note_answered (hnone : ∀ notice ∈ notices, notice.verdict? = none)
    (verdict : Verdict) :
    (session.note (notices ++ [.answered verdict])).verdicts = verdict :: session.verdicts := by
  have hnoted : session.note (notices ++ [.answered verdict]) =
      (session.note notices).note [.answered verdict] := by
    simp [note]
  rw [hnoted]
  exact congrArg (verdict :: ·) (verdicts_note_of_none hnone)

end Verdicts

/-- If an action gives one answer at most, of which something is known, then so is of every answer
of a run, at the action that gave it. -/
theorem exists_action_of_verdict {α : Type} (answers : List α → List Verdict)
    (known : List α → α → Verdict → Prop) (hfirst : answers [] = [])
    (hstep : ∀ earlier last, answers (earlier ++ [last]) = answers earlier ∨
      ∃ verdict, answers (earlier ++ [last]) = verdict :: answers earlier ∧
        known earlier last verdict)
    (actions : List α) :
    ∀ verdict ∈ answers actions, ∃ earlier last later, actions = earlier ++ [last] ++ later ∧
      answers (earlier ++ [last]) = verdict :: answers earlier ∧ known earlier last verdict := by
  induction actions using List.reverseRecOn with
  | nil => simp [hfirst]
  | append_singleton actions last ih =>
      intro verdict hverdict
      have hearlier : verdict ∈ answers actions → ∃ earlier last' later,
          actions ++ [last] = earlier ++ [last'] ++ later ∧
            answers (earlier ++ [last']) = verdict :: answers earlier ∧
            known earlier last' verdict := by
        intro hold
        obtain ⟨earlier, last', later, rfl, hknown⟩ := ih verdict hold
        exact ⟨earlier, last', later ++ [last], by rw [List.append_assoc], hknown⟩
      rcases hstep actions last with hsame | ⟨new, hnew, hknown⟩
      · exact hearlier (hsame ▸ hverdict)
      · rcases List.mem_cons.1 (hnew ▸ hverdict) with rfl | hold
        · exact ⟨actions, last, [], (List.append_nil _).symm, hnew, hknown⟩
        · exact hearlier hold

end Session

end Throttle
