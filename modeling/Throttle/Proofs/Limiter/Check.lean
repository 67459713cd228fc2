import Throttle.Limiter.Check

/-!
# What a check can do

A check goes one of four ways, depending on whether there is a shared counter, whether it is usable,
and whether its increment takes time.  An increment ends in one of two ways, of which the bad one
makes the shared counter unusable.
-/

namespace Throttle

variable {κ : Type} [SharedCounter κ]

/-- An increment that ends leaves the backend as it was, but for its counter, or fails and makes it
unavailable. -/
theorem SharedBackend.settle_cases (backend : SharedBackend κ) (key : CounterKey) (window : Nat)
    (inTime : Bool) (now : Nat) :
    ∃ counter : κ,
      (∃ answer, backend.settle key window inTime now =
        { state := { backend with counter }, value := .ok answer }) ∨
      ∃ error, backend.settle key window inTime now =
        { state := { backend with counter, available := false }
          value := .error error
          events := [.incrementFailed (key.sharedName backend.keyPrefix) error,
            .backendFailed error.message] } := by
  cases inTime with
  | false => exact ⟨backend.counter, .inr ⟨.timeout backend.opTimeout, rfl⟩⟩
  | true =>
      refine ⟨(SharedCounter.finish backend.counter (key.sharedName backend.keyPrefix) window
        now).1, ?_⟩
      rw [SharedBackend.settle, if_pos rfl, SharedBackend.finish]
      cases hresult : (SharedCounter.finish backend.counter (key.sharedName backend.keyPrefix)
        window now).2 with
      | ok answer => exact .inl ⟨answer, by simp [hresult, SharedBackend.conclude]⟩
      | error error =>
          exact .inr ⟨error, by simp [hresult, SharedBackend.conclude, SharedBackend.fail,
            SharedBackend.receive, Signal.available, Signal.availableAfter, Signal.reported,
            ConnectionEvent.isReady, ConnectionEvent.report]⟩

namespace Limiter

variable (limiter : Limiter κ) (method client : String) (now : Nat)

def checkingEvent : Event :=
  .checking (CounterKey.of client method).localName
    (limiter.settings.policy (.of method)).limit.toNat
    (limiter.settings.policy (.of method)).windowSecs.toNat

theorem begin_of_none (hshared : limiter.shared = none) :
    let checked := limiter.checkLocally (.of client method)
      (limiter.settings.policy (.of method)) now
    limiter.begin method client now =
      { state := checked.state, value := .done checked.value,
        events := checkingEvent limiter method client :: checked.events } := by
  simp [begin, hshared, Outcome.after, checkingEvent]

theorem begin_of_unavailable {backend : SharedBackend κ} (hshared : limiter.shared = some backend)
    (havailable : backend.available = false) :
    let checked := limiter.checkWithoutBackend (.of client method)
      (limiter.settings.policy (.of method)) now
    limiter.begin method client now =
      { state := checked.state, value := .done checked.value,
        events := checkingEvent limiter method client :: checked.events } := by
  simp [begin, hshared, havailable, Outcome.after, checkingEvent]

/-- A check that finds the shared counter usable begins an increment.  It goes on at once if the
increment ends at once, and waits otherwise. -/
theorem begin_eq_of_available {backend : SharedBackend κ} (hshared : limiter.shared = some backend)
    (havailable : backend.available = true) :
    let key := CounterKey.of client method
    let policy := limiter.settings.policy (.of method)
    let begun := (backend.begin key policy.window).state
    let started : Limiter κ := { limiter with shared := some begun }
    let wait := begun.endOf (backend.begin key policy.window).value now
    limiter.begin method client now = Outcome.after [checkingEvent limiter method client,
      .incrementing (key.sharedName backend.keyPrefix)]
      (if wait.1 = now then
        let settled := started.settle begun key policy wait.2 now
        { state := settled.state, value := .done settled.value, events := settled.events }
      else { state := started, value := .waiting ⟨key, policy, wait.1, wait.2⟩ }) := by
  intro key policy begun started wait
  unfold begin
  rw [hshared]
  dsimp only
  rw [if_pos havailable]
  rfl

/-- A check that finds the shared counter usable begins an increment, and waits for its end unless
that takes no time. -/
theorem begin_of_available {backend : SharedBackend κ} (hshared : limiter.shared = some backend)
    (havailable : backend.available = true) :
    let key := CounterKey.of client method
    let policy := limiter.settings.policy (.of method)
    let counter := (SharedCounter.begin backend.counter (key.sharedName backend.keyPrefix)
      policy.window).1
    let started : Limiter κ := { limiter with shared := some { backend with counter } }
    let opening : List Event := [checkingEvent limiter method client,
      .incrementing (key.sharedName backend.keyPrefix)]
    (∃ inTime,
      let settled := started.settle { backend with counter } key policy inTime now
      limiter.begin method client now =
        { state := settled.state, value := .done settled.value,
          events := opening ++ settled.events }) ∨
    ∃ resumeAt inTime, limiter.begin method client now =
      { state := started, value := .waiting ⟨key, policy, resumeAt, inTime⟩,
        events := opening } := by
  intro key policy counter started opening
  have hbegin := limiter.begin_eq_of_available method client now hshared havailable
  dsimp only at hbegin
  split at hbegin
  · exact .inl ⟨_, hbegin⟩
  · exact .inr ⟨_, _, hbegin⟩

/-- A check whose increment has ended takes its answer, or goes on without the shared counter. -/
theorem settle_cases (backend : SharedBackend κ) (key : CounterKey) (policy : WindowPolicy)
    (inTime : Bool) :
    ∃ counter : κ,
      (∃ answer, limiter.settle backend key policy inTime now =
        { state := { limiter with shared := some { backend with counter } }
          value := .ok (admissionOf key answer policy).1
          events := (admissionOf key answer policy).2 }) ∨
      ∃ error,
        let failed : Limiter κ :=
          { limiter with shared := some { backend with counter, available := false } }
        limiter.settle backend key policy inTime now =
          (failed.checkWithoutBackend key policy now).after
            [.incrementFailed (key.sharedName backend.keyPrefix) error,
              .backendFailed error.message] := by
  obtain ⟨counter, ⟨answer, hsettle⟩ | ⟨error, hsettle⟩⟩ :=
    backend.settle_cases key policy.window inTime now
  · exact ⟨counter, .inl ⟨answer, by simp [settle, hsettle]⟩⟩
  · exact ⟨counter, .inr ⟨error, by simp [settle, hsettle]⟩⟩

end Limiter

end Throttle
