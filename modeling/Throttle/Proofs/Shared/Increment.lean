import Mathlib.Order.Basic
import Throttle.Proofs.Shared.Faithful

/-!
# Increments that are bounded in time

A backend waits for an increment of its counter as long as it takes, but no longer than an operation
may take, and no timer is set for more than its longest time.  An increment that is waited for ends
as the counter has it; one that is given up leaves the counter as it was when it began.  Main
statement: this is all that an increment does to a counter that follows a script, and whether it
fails is all that the backend remembers of it.
-/

namespace Throttle

/-- A timer is on time if the clock and its wait are of whole milliseconds. -/
theorem Timer.seenAt_ofMillis (n k : Nat) :
    seenAt (Duration.ofMillis n + Duration.ofMillis k) (Duration.ofMillis n) =
      Duration.ofMillis n + Duration.ofMillis k := by
  unfold seenAt goesOff Duration.millis Duration.ofMillis
  omega

/-- The shortest of some times in whole milliseconds and the longest time of a timer. -/
theorem Timer.min_ofMillis (d t : Nat) :
    min (min (Duration.ofMillis d) longest) (Duration.ofMillis t) =
      Duration.ofMillis (min (min d (30 * 365 * 86400 * 1000)) t) := by
  unfold Duration.ofMillis longest Duration.ofSecs
  omega

/-! ## What an increment comes to -/

namespace Scripted

/-- How an increment ends that is waited for: with the error that the script asks for, or with the
next of its answers, or with the count of the window that is open by then, and its whole seconds that
are left, if there are any. -/
inductive Ends (counter : Scripted) (name : String) (window now : Nat) :
    Scripted → Except LimiterError SharedCount → Prop where
  | fails {error : LimiterError} (hfailure : counter.failure = some error) :
      Ends counter name window now counter (.error error)
  | replies {reply : Except LimiterError SharedCount}
      {later : List (Except LimiterError SharedCount)} (hfailure : counter.failure = none)
      (hreplies : counter.replies = reply :: later) :
      Ends counter name window now { counter with replies := later } reply
  | counts {current : SharedWindow} {counts : Table SharedWindow}
      (hfailure : counter.failure = none) (hreplies : counter.replies = [])
      (hcurrent : current = SharedWindow.next window (counter.counts.get? name) now)
      (hcounts : counts.get? = SharedWindow.increment counter.counts.get? name window now) :
      Ends counter name window now { counter with counts }
        (.ok ⟨current.count, (some (Duration.secs (current.endsAt - now))).filter (0 < ·)⟩)

theorem snd_count (counts : Table SharedWindow) (name : String) (window now : Nat) :
    let current := SharedWindow.next window (counts.get? name) now
    (count counts name window now).2 =
      ⟨current.count, (some (Duration.secs (current.endsAt - now))).filter (0 < ·)⟩ := by
  intro current
  rw [count, ← Counting.next_eq]
  dsimp only
  congr 1
  by_cases hzero : Duration.secs (current.endsAt - now) = 0
  · rw [if_pos hzero, hzero]
    rfl
  · rw [if_neg hzero, Option.filter_some_pos]
    exact decide_eq_true (Nat.pos_of_ne_zero hzero)

theorem ends_answer (counter : Scripted) (name : String) (window now : Nat) :
    counter.Ends name window now (counter.answer name window now).1
      (counter.answer name window now).2 := by
  unfold answer
  split
  · next error hfailure => exact .fails hfailure
  · next reply later hfailure hreplies => exact .replies hfailure hreplies
  · next hfailure hreplies =>
    dsimp only
    rw [snd_count]
    exact .counts hfailure hreplies rfl (Counting.get?_count ..)

/-- However an increment ends, it does not begin another one. -/
theorem Ends.begun_eq {counter after : Scripted} {name : String} {window now : Nat}
    {result : Except LimiterError SharedCount}
    (hends : counter.Ends name window now after result) : after.begun = counter.begun := by
  cases hends with
  | fails | replies | counts => rfl

end Scripted

/-! ## What a backend makes of it -/

namespace SharedBackend

section Settle

variable {κ : Type} [SharedCounter κ] (backend : SharedBackend κ) (key : CounterKey)
  (window : Nat) (inTime : Bool) (now : Nat)

/-- A backend remembers of an increment only whether it failed. -/
theorem state_settle :
    let ended := backend.settle key window inTime now
    ended.state = { backend with
      counter := ended.state.counter
      available := backend.available && ended.value.isOk } := by
  intro ended
  obtain ⟨counter, ⟨answer, h⟩ | ⟨error, h⟩⟩ := backend.settle_cases key window inTime now
  · rw [show ended = _ from h]
    simp [Except.isOk, Except.toBool]
  · rw [show ended = _ from h]
    simp [Except.isOk, Except.toBool]

theorem settle_of_inTime :
    let name := key.sharedName backend.keyPrefix
    (backend.settle key window true now).state.counter =
        (SharedCounter.finish backend.counter name window now).1 ∧
      (backend.settle key window true now).value =
        (SharedCounter.finish backend.counter name window now).2 := by
  intro name
  rw [settle, if_pos rfl, finish]
  cases hresult : (SharedCounter.finish backend.counter name window now).2 with
  | ok count => simp [conclude, name, hresult]
  | error error => simp [conclude, fail, receive, name, hresult]

end Settle

section EndOf

variable {κ : Type} (backend : SharedBackend κ) (delay now : Nat)

theorem fst_endOf : (backend.endOf delay now).1 =
    if delay = 0 then now
    else Timer.seenAt (now + min (min delay Timer.longest) backend.opTimeout) now := by
  unfold endOf
  split <;> rfl

theorem snd_endOf :
    (backend.endOf delay now).2 = decide (min delay Timer.longest ≤ backend.opTimeout) := by
  unfold endOf
  split
  · next hzero => simp [hzero]
  · rfl

/-- A call is not over before its wait is. -/
theorem wait_le_endOf :
    now + min (min delay Timer.longest) backend.opTimeout ≤ (backend.endOf delay now).1 := by
  rw [fst_endOf]
  split
  · next hzero => simp [hzero]
  · exact Timer.due_le_seenAt ..

/-- On a clock of whole milliseconds a call is over as soon as its wait is. -/
theorem endOf_ofMillis {n d t : Nat} (hnow : now = Duration.ofMillis n)
    (hdelay : delay = Duration.ofMillis d) (htimeout : backend.opTimeout = Duration.ofMillis t) :
    (backend.endOf delay now).1 = now + min (min delay Timer.longest) backend.opTimeout := by
  rw [fst_endOf]
  split
  · next hzero => simp [hzero]
  · rw [hnow, hdelay, htimeout, Timer.min_ofMillis]
    exact Timer.seenAt_ofMillis ..

end EndOf

theorem ends_settle (backend : SharedBackend Scripted) (key : CounterKey) (window now : Nat) :
    let ended := backend.settle key window true now
    backend.counter.Ends (key.sharedName backend.keyPrefix) window now ended.state.counter
      ended.value := by
  intro ended
  obtain ⟨hcounter, hvalue⟩ := backend.settle_of_inTime key window now
  rw [show ended.state.counter = _ from hcounter, show ended.value = _ from hvalue]
  exact backend.counter.ends_answer _ window now

/-- An increment begins one increment of the counter, with the name of the key behind the prefix.
That takes its time, but no more than the longest of a timer.  If this is no more than an operation
may take, the call comes to what the counter makes of it, and otherwise to an error, with the counter
as it was when it had begun.  The backend is usable afterwards exactly if it was before and there is
an answer, and nothing else of it changes.  The call is not over before its wait is, and on a clock
of whole milliseconds it is over then. -/
theorem increment_in_time (backend : SharedBackend Scripted) (key : CounterKey)
    (window now : Nat) :
    let client := backend.counter
    let name := key.sharedName backend.keyPrefix
    let begun : Scripted := { client with begun := client.begun ++ [(name, window)] }
    let wait := min (min client.delay Timer.longest) backend.opTimeout
    let ended := backend.increment key window now
    let result := ended.value.1
    let stop := ended.value.2
    ended.state.counter.begun = client.begun ++ [(name, window)] ∧
    (min client.delay Timer.longest ≤ backend.opTimeout →
      begun.Ends name window stop ended.state.counter result) ∧
    (backend.opTimeout < min client.delay Timer.longest →
      ended.state.counter = begun ∧ result = .error (.timeout backend.opTimeout)) ∧
    ended.state = { backend with
      counter := ended.state.counter
      available := backend.available && result.isOk } ∧
    now + wait ≤ stop ∧
    ∀ n d t, now = Duration.ofMillis n → client.delay = Duration.ofMillis d →
      backend.opTimeout = Duration.ofMillis t → stop = now + wait := by
  intro client name begun wait ended result stop
  have hstop : stop = (backend.endOf client.delay now).1 := rfl
  have hended : ended.state = (SharedBackend.settle { backend with counter := begun } key window
      (decide (min client.delay Timer.longest ≤ backend.opTimeout)) stop).state ∧
      result = (SharedBackend.settle { backend with counter := begun } key window
        (decide (min client.delay Timer.longest ≤ backend.opTimeout)) stop).value := by
    rw [← snd_endOf backend client.delay now]
    exact ⟨rfl, rfl⟩
  obtain ⟨hstate, hresult⟩ := hended
  have hends : min client.delay Timer.longest ≤ backend.opTimeout →
      begun.Ends name window stop ended.state.counter result := by
    intro htime
    rw [hstate, hresult, decide_eq_true htime]
    exact ends_settle { backend with counter := begun } key window stop
  have hgivenUp : backend.opTimeout < min client.delay Timer.longest →
      ended.state.counter = begun ∧ result = .error (.timeout backend.opTimeout) := by
    intro hlate
    rw [hstate, hresult, decide_eq_false (Nat.not_le.2 hlate)]
    exact ⟨rfl, rfl⟩
  refine ⟨?_, hends, hgivenUp, ?_, ?_, ?_⟩
  · rcases Nat.lt_or_ge backend.opTimeout (min client.delay Timer.longest) with hlate | htime
    · rw [(hgivenUp hlate).1]
    · exact (hends htime).begun_eq
  · rw [hresult, hstate]
    exact state_settle { backend with counter := begun } key window _ stop
  · rw [hstop]
    exact wait_le_endOf backend client.delay now
  · intro n d t hnow hdelay htimeout
    rw [hstop]
    exact endOf_ofMillis backend client.delay now hnow hdelay htimeout

/-- An answer that comes at the very end of the wait is in time.  With a millisecond less to wait it
is not, and remains for the next increment. -/
theorem increment_in_time_at_the_end :
    let client : Scripted := { delay := Duration.ofMillis 100, replies := [.ok ⟨7, none⟩] }
    let backend : SharedBackend Scripted := ⟨client, true, "p", Duration.ofMillis 100⟩
    let hasty : SharedBackend Scripted := ⟨client, true, "p", Duration.ofMillis 99⟩
    let key := CounterKey.of "c" "get"
    let begun : Scripted := { client with begun := [("p:c:GET", Duration.ofSecs 60)] }
    let ended := backend.increment key (Duration.ofSecs 60) 0
    let givenUp := hasty.increment key (Duration.ofSecs 60) 0
    (begun.Ends "p:c:GET" (Duration.ofSecs 60) ended.value.2 ended.state.counter ended.value.1 ∧
      ended.value.2 = Duration.ofMillis 100) ∧
    givenUp.state.counter = begun ∧ givenUp.value.1 = .error (.timeout (Duration.ofMillis 99)) ∧
    givenUp.value.2 = Duration.ofMillis 99 := by
  intro client backend hasty key begun ended givenUp
  have hname : key.sharedName "p" = "p:c:GET" := by decide +kernel
  have hwait : min (min client.delay Timer.longest) backend.opTimeout = Duration.ofMillis 100 := by
    decide +kernel
  have hhasty : min (min client.delay Timer.longest) hasty.opTimeout = Duration.ofMillis 99 := by
    decide +kernel
  obtain ⟨-, hends, -, -, -, hstop⟩ := increment_in_time backend key (Duration.ofSecs 60) 0
  obtain ⟨-, -, hlate, -, -, hover⟩ := increment_in_time hasty key (Duration.ofSecs 60) 0
  have hended := hends (by decide)
  obtain ⟨hcounter, hresult⟩ := hlate (by decide)
  have hstopped := hstop 0 100 100 rfl rfl rfl
  have hwaited := hover 0 100 99 rfl rfl rfl
  rw [hwait, Nat.zero_add] at hstopped
  rw [hhasty, Nat.zero_add] at hwaited
  rw [hname] at hended hcounter
  exact ⟨⟨hended, hstopped⟩, hcounter, hresult, hwaited⟩

/-- An answer that takes a millisecond longer than the operation may, and has come nevertheless when
no timer waits for it any more. -/
theorem increment_in_time_past_the_longest :
    let client : Scripted := { delay := Duration.ofMillis 1000000000000000 }
    let backend : SharedBackend Scripted := ⟨client, true, "p", Duration.ofMillis 999999999999999⟩
    let ended := backend.increment (.of "a" "GET") (Duration.ofSecs 60) 0
    backend.opTimeout < client.delay ∧ ended.value.1 = .ok ⟨1, some 60⟩ ∧
      ended.value.2 = Timer.longest := by
  decide +kernel

end SharedBackend

end Throttle
