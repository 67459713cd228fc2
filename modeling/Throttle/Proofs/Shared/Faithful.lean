import Mathlib.Logic.Function.Basic
import Throttle.Proofs.Limiter.Check
import Throttle.Shared.Scripted

/-!
# Faithful shared counters

A faithful counter has a window for each name.  Every increment that succeeds is answered with the
count of the window that is open at the time, or of a new one, with itself; one that fails may have
been counted or not.  Nothing else that a limiter has it do changes a window.
-/

namespace Throttle

namespace SharedWindow

/-- The window of a name after an increment.  A window that has ended gives way to a new one, at the
very instant of its end. -/
def next (window : Nat) (before : Option SharedWindow) (now : Nat) : SharedWindow :=
  match before with
  | none => ⟨1, now + window⟩
  | some current =>
    if current.endsAt ≤ now then ⟨1, now + window⟩
    else { current with count := current.count + 1 }

/-- The windows of all names after an increment of one. -/
def increment (windows : String → Option SharedWindow) (name : String) (window now : Nat) :
    String → Option SharedWindow :=
  Function.update windows name (some (next window (windows name) now))

section Increment

variable (windows : String → Option SharedWindow) (name : String) (window now : Nat)

@[simp] theorem increment_self :
    increment windows name window now name = some (next window (windows name) now) :=
  Function.update_self ..

theorem increment_of_ne {other : String} (hne : other ≠ name) :
    increment windows name window now other = windows other :=
  Function.update_of_ne hne ..

end Increment

end SharedWindow

/-- A shared counter that counts as its windows say. -/
class FaithfulCounter (κ : Type) [SharedCounter κ] where
  /-- The window of each name, whether it has ended or not. -/
  windows : κ → String → Option SharedWindow
  windows_connect (counter : κ) : windows (SharedCounter.connect counter).1 = windows counter
  windows_disconnect (counter : κ) : windows (SharedCounter.disconnect counter).1 = windows counter
  windows_begin (counter : κ) (name : String) (window : Nat) :
    windows (SharedCounter.begin counter name window).1 = windows counter
  finish_cases (counter : κ) (name : String) (window now : Nat) :
    (∃ ttl, (SharedCounter.finish counter name window now).2 =
        .ok ⟨(SharedWindow.next window (windows counter name) now).count, ttl⟩ ∧
      windows (SharedCounter.finish counter name window now).1 =
        SharedWindow.increment (windows counter) name window now) ∨
    ∃ error, (SharedCounter.finish counter name window now).2 = .error error ∧
      (windows (SharedCounter.finish counter name window now).1 = windows counter ∨
        windows (SharedCounter.finish counter name window now).1 =
          SharedWindow.increment (windows counter) name window now)

namespace SharedBackend

variable {κ : Type} [SharedCounter κ] [FaithfulCounter κ]

def windows (backend : SharedBackend κ) : String → Option SharedWindow :=
  FaithfulCounter.windows backend.counter

theorem windows_begin (backend : SharedBackend κ) (key : CounterKey) (window : Nat) :
    (backend.begin key window).state.windows = backend.windows :=
  FaithfulCounter.windows_begin ..

/-- An increment that ends was counted and is answered so, or has failed, counted or not. -/
theorem settle_faithful (backend : SharedBackend κ) (key : CounterKey) (window : Nat)
    (inTime : Bool) (now : Nat) :
    let name := key.sharedName backend.keyPrefix
    let ended := backend.settle key window inTime now
    (∃ ttl, ended.value = .ok ⟨(SharedWindow.next window (backend.windows name) now).count, ttl⟩ ∧
      ended.state.windows = SharedWindow.increment backend.windows name window now) ∨
    ∃ error, ended.value = .error error ∧
      (ended.state.windows = backend.windows ∨
        ended.state.windows = SharedWindow.increment backend.windows name window now) := by
  intro name ended
  cases inTime with
  | false => exact .inr ⟨.timeout backend.opTimeout, rfl, .inl rfl⟩
  | true =>
      have hended : ended = backend.finish key window now := rfl
      rw [hended, finish]
      dsimp only
      rcases FaithfulCounter.finish_cases backend.counter name window now with
        ⟨ttl, hvalue, hwindows⟩ | ⟨error, hvalue, hwindows⟩
      · rw [hvalue]
        exact .inl ⟨ttl, rfl, hwindows⟩
      · rw [hvalue]
        exact .inr ⟨error, rfl, hwindows⟩

end SharedBackend

/-! ## Scripts that count -/

/-- A scripted counter that puts no answers in the place of counting. -/
def Scripted.Counting : Type := { counter : Scripted // counter.replies = [] }

namespace Scripted.Counting

def fresh : Counting := ⟨{}, rfl⟩

/-- The counter from when every increment ends with an error, or none does. -/
def withFailure (failure : Option LimiterError) (counter : Counting) : Counting :=
  ⟨{ counter.1 with failure }, counter.2⟩

theorem replies_answer (counter : Counting) (name : String) (window now : Nat) :
    (counter.1.answer name window now).1.replies = [] := by
  obtain ⟨counter, hreplies⟩ := counter
  unfold answer
  cases counter.failure <;> simp [hreplies]

instance : SharedCounter Counting where
  connect counter :=
    (⟨(SharedCounter.connect counter.1).1, counter.2⟩, (SharedCounter.connect counter.1).2)
  disconnect counter :=
    (⟨(SharedCounter.disconnect counter.1).1, counter.2⟩, (SharedCounter.disconnect counter.1).2)
  begin counter name window :=
    (⟨(SharedCounter.begin counter.1 name window).1, counter.2⟩,
      (SharedCounter.begin counter.1 name window).2)
  finish counter name window now :=
    (⟨(counter.1.answer name window now).1, counter.replies_answer name window now⟩,
      (counter.1.answer name window now).2)

theorem next_eq (counts : Table SharedWindow) (name : String) (window now : Nat) :
    SharedWindow.next window (counts.get? name) now =
      { windowOf counts name window now with
        count := (windowOf counts name window now).count + 1 } := by
  unfold SharedWindow.next windowOf
  cases counts.get? name with
  | none => rfl
  | some current =>
      dsimp only
      split <;> rfl

theorem get?_count (counts : Table SharedWindow) (name : String) (window now : Nat) :
    (count counts name window now).1.get? =
      SharedWindow.increment counts.get? name window now := by
  funext other
  rw [count, ← next_eq]
  by_cases hother : other = name
  · subst hother
    rw [SharedWindow.increment_self, Table.get?_put_self]
  · rw [SharedWindow.increment_of_ne _ _ _ _ hother, Table.get?_put_of_ne _ _ hother]

instance : FaithfulCounter Counting where
  windows counter name := counter.1.counts.get? name
  windows_connect _ := rfl
  windows_disconnect _ := rfl
  windows_begin _ _ _ := rfl
  finish_cases counter name window now := by
    obtain ⟨counter, hreplies⟩ := counter
    cases hfailure : counter.failure with
    | some error =>
        refine .inr ⟨error, ?_, .inl ?_⟩ <;> simp [SharedCounter.finish, answer, hfailure]
    | none =>
        have hnext := next_eq counter.counts name window now
        refine .inl ⟨(count counter.counts name window now).2.ttl, ?_, ?_⟩
        · simp [SharedCounter.finish, answer, hfailure, hreplies, count, hnext]
        · simp only [SharedCounter.finish, answer, hfailure, hreplies]
          exact get?_count ..

end Scripted.Counting

end Throttle
