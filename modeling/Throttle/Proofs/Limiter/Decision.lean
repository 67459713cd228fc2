import Throttle.Proofs.Limiter.Charge
import Throttle.Proofs.Limiter.InMemory

/-!
# How a check is decided

A check that nothing interrupts goes the way that its limiter is on.  If that is the shared one, it
makes one increment, for which it may have to wait while the sweep task does its work, and is
decided by the result; only if that is a failure are the counters in memory asked.  Main statement:
after a request was let through, the limiter is on the way that let it through.
-/

namespace Throttle

variable {κ : Type} [SharedCounter κ]

/-! ## Waiting -/

omit [SharedCounter κ] in
theorem SharedBackend.le_endOf (backend : SharedBackend κ) (delay now : Nat) :
    now ≤ (backend.endOf delay now).1 := by
  unfold endOf
  split
  · exact Nat.le_refl now
  · exact Timer.now_le_seenAt _ now

namespace Service

omit [SharedCounter κ] in
/-- While no time passes, no tick comes up. -/
theorem runTicks_self (limiter : Limiter κ) (now : Nat) :
    (runTicks limiter now now).state = limiter := by
  obtain ⟨settings, store, shared, lifecycle, sweepInterval, created, cancelled⟩ := limiter
  rcases lifecycle with - | (due | -)
  · rfl
  · have hnone : ¬ (Timer.seenAt due now < now ∧ 0 < sweepInterval) := fun h =>
      absurd h.1 (Nat.not_lt.2 (Timer.now_le_seenAt due now))
    dsimp only [runTicks]
    rw [SweepTask.state_ticksBefore_of_not .ofStore store hnone]
  · rfl

omit [SharedCounter κ] in
theorem runTicks_shared (limiter : Limiter κ) (shared : Option (SharedBackend κ))
    (now stop : Nat) :
    (runTicks { limiter with shared } now stop).state =
      { (runTicks limiter now stop).state with shared } := by
  obtain ⟨settings, store, other, lifecycle, sweepInterval, created, cancelled⟩ := limiter
  rcases lifecycle with - | (due | -) <;> rfl

omit [SharedCounter κ] in
theorem settings_runTicks (limiter : Limiter κ) (now stop : Nat) :
    (runTicks limiter now stop).state.settings = limiter.settings := by
  obtain ⟨settings, store, other, lifecycle, sweepInterval, created, cancelled⟩ := limiter
  rcases lifecycle with - | (due | -) <;> rfl

/-! ## Decisions -/

/-- How a check of a key under a policy is decided: on which way, with what left of the limiter and
its clock, and with what answer. -/
inductive Decided (before : Service κ) (key : CounterKey) (policy : WindowPolicy) :
    ActiveBackend → Service κ → Except Fault Admission → Prop where
  | turnedAway (hactive : before.limiter.active = .unavailable) :
      Decided before key policy .unavailable before (.ok (.unavailable 1))
  | checked (hactive : before.limiter.active = .local_)
      {store : Outcome Store (Except Fault Admission)}
      (hstore : before.limiter.store.check key.localName policy.limit.toNat policy.window
        before.now = store) :
      Decided before key policy .local_
        ⟨{ before.limiter with store := store.state }, before.now⟩ store.value
  | counted (backend ended : SharedBackend κ) (answer : SharedCount) (stop : Nat)
      (events : List Event) (hshared : before.limiter.shared = some backend)
      (havailable : backend.available = true)
      (hended : backend.increment key policy.window before.now =
        { state := ended, value := (.ok answer, stop), events }) :
      Decided before key policy .shared
        ⟨{ (runTicks before.limiter before.now stop).state with shared := some ended }, stop⟩
        (.ok (answer.admission policy))
  | refused (backend ended : SharedBackend κ) (error : LimiterError) (stop : Nat)
      (events : List Event) (hshared : before.limiter.shared = some backend)
      (havailable : backend.available = true)
      (hended : backend.increment key policy.window before.now =
        { state := ended, value := (.error error, stop), events })
      (hfallback : before.limiter.settings.memoryFallback = false) :
      Decided before key policy .unavailable
        ⟨{ (runTicks before.limiter before.now stop).state with shared := some ended }, stop⟩
        (.ok (.unavailable 1))
  /-- The increment failed, and the request was counted in memory when that was known. -/
  | fellBack (backend ended : SharedBackend κ) (error : LimiterError) (stop : Nat)
      (events : List Event) (hshared : before.limiter.shared = some backend)
      (havailable : backend.available = true)
      (hended : backend.increment key policy.window before.now =
        { state := ended, value := (.error error, stop), events })
      (hfallback : before.limiter.settings.memoryFallback = true)
      {store : Outcome Store (Except Fault Admission)}
      (hstore : (runTicks before.limiter before.now stop).state.store.check key.localName
        policy.limit.toNat policy.window stop = store) :
      Decided before key policy .local_
        ⟨{ (runTicks before.limiter before.now stop).state with
            store := store.state, shared := some ended }, stop⟩ store.value

section Available

variable (service : Service κ) (method client : String) {backend : SharedBackend κ}
  (hshared : service.limiter.shared = some backend) (havailable : backend.available = true)
  {key : CounterKey} (hkey : .of client method = key)
  {policy : WindowPolicy} (hpolicy : service.limiter.settings.policy (.of method) = policy)
  {begun : Outcome (SharedBackend κ) Nat} (hbegun : backend.begin key policy.window = begun)
  {stop : Nat} {inTime : Bool} (hwait : begun.state.endOf begun.value service.now = (stop, inTime))

include hshared havailable hkey hpolicy hbegun hwait

/-- On the shared way, a check begins an increment, waits for its end, and then goes on. -/
theorem check_eq_of_available {settled : Outcome (Limiter κ) (Except Fault Admission)}
    (hsettled : Limiter.settle { (runTicks service.limiter service.now stop).state with
      shared := some begun.state } begun.state key policy inTime stop = settled) :
    (service.check method client).state = ⟨settled.state, stop⟩ ∧
      (service.check method client).value = settled.value := by
  have hbegin := service.limiter.begin_eq_of_available method client service.now hshared havailable
  have hlater := begun.state.le_endOf begun.value service.now
  dsimp only at hbegin
  rw [hkey, hpolicy, hbegun, hwait] at hbegin
  rw [hwait] at hlater
  dsimp only at hbegin hlater
  rcases Nat.eq_or_lt_of_le hlater with hnow | hwaits
  · subst hnow
    rw [runTicks_self] at hsettled
    rw [if_pos rfl, hsettled] at hbegin
    rw [check, hbegin]
    exact ⟨rfl, rfl⟩
  · -- Ticks that come up while the check waits leave the shared counter alone.
    rw [← runTicks_shared] at hsettled
    rw [if_neg (Nat.ne_of_gt hwaits)] at hbegin
    have hresumed : (runTicks { service.limiter with shared := some begun.state } service.now
        stop).state.resume ⟨key, policy, stop, inTime⟩ stop = settled := by
      rw [← hsettled, Limiter.resume]
      rw [runTicks_shared]
    have hnow : max service.now stop = stop := Nat.max_eq_right hlater
    rw [check, hbegin]
    dsimp only [Outcome.after, resume, passUntil]
    rw [hnow, hresumed]
    exact ⟨rfl, rfl⟩

end Available

/-- Every check is decided in one of these ways. -/
theorem exists_decided (service : Service κ) (method client : String) :
    ∃ way, Decided service (.of client method) (service.limiter.settings.policy (.of method)) way
      (service.check method client).state (service.check method client).value := by
  generalize hkey : CounterKey.of client method = key
  generalize hpolicy : service.limiter.settings.policy (.of method) = policy
  obtain ⟨hactive, hshared⟩ | ⟨backend, hshared, ⟨-, havailable⟩ |
      ⟨hactive, havailable, hfallback⟩ | ⟨hactive, havailable, hfallback⟩⟩ :=
    service.limiter.active_cases
  · have hbegin := service.limiter.begin_of_none method client service.now hshared
    dsimp only at hbegin
    rw [hkey, hpolicy, Limiter.checkLocally] at hbegin
    rw [check, hbegin]
    exact ⟨.local_, .checked hactive rfl⟩
  · generalize hbegun : backend.begin key policy.window = begun
    obtain ⟨⟨stop, inTime⟩, hwait⟩ :
        ∃ wait, begun.state.endOf begun.value service.now = wait := ⟨_, rfl⟩
    obtain ⟨ended, hended⟩ :
        ∃ ended, begun.state.settle key policy.window inTime stop = ended := ⟨_, rfl⟩
    have hincrement : backend.increment key policy.window service.now =
        { state := ended.state, value := (ended.value, stop)
          events := begun.events ++ ended.events } := by
      simp only [SharedBackend.increment, hbegun, hwait, hended]
    obtain ⟨hstate, hvalue⟩ := service.check_eq_of_available method client hshared havailable hkey
      hpolicy hbegun hwait rfl
    rw [hstate, hvalue, Limiter.settle, hended]
    dsimp only
    cases hresult : ended.value with
    | ok answer =>
        rw [hresult] at hincrement
        refine ⟨.shared, ?_⟩
        dsimp only
        rw [Limiter.admissionOf_fst]
        exact .counted backend ended.state answer stop _ hshared havailable hincrement
    | error error =>
        rw [hresult] at hincrement
        have hsettings := settings_runTicks service.limiter service.now stop
        dsimp only [Outcome.after, Limiter.checkWithoutBackend]
        cases hfallback : service.limiter.settings.memoryFallback with
        | true =>
            rw [if_pos (by rw [hsettings, hfallback])]
            exact ⟨.local_, .fellBack backend ended.state error stop _ hshared havailable
              hincrement hfallback rfl⟩
        | false =>
            rw [if_neg (by rw [hsettings, hfallback]; decide)]
            exact ⟨.unavailable, .refused backend ended.state error stop _ hshared havailable
              hincrement hfallback⟩
  · have hbegin := service.limiter.begin_of_unavailable method client service.now hshared havailable
    dsimp only at hbegin
    rw [hkey, hpolicy, Limiter.checkWithoutBackend, if_pos hfallback, Limiter.checkLocally] at hbegin
    rw [check, hbegin]
    exact ⟨.local_, .checked hactive rfl⟩
  · have hbegin := service.limiter.begin_of_unavailable method client service.now hshared havailable
    dsimp only at hbegin
    rw [hkey, hpolicy, Limiter.checkWithoutBackend, if_neg (by simp [hfallback])] at hbegin
    rw [check, hbegin]
    exact ⟨.unavailable, .turnedAway hactive⟩

end Service

/-! ## The way of a request that was let through -/

/-- An increment leaves the shared counter as usable as it was, or fails. -/
theorem SharedBackend.available_increment (backend : SharedBackend κ) (key : CounterKey)
    (window now : Nat) :
    let ended := backend.increment key window now
    ended.state.available = backend.available ∧ (∃ answer, ended.value.1 = .ok answer) ∨
      ended.state.available = false ∧ ∃ error, ended.value.1 = .error error := by
  dsimp only [increment]
  obtain ⟨⟨stop, inTime⟩, hwait⟩ : ∃ wait, (backend.begin key window).state.endOf
      (backend.begin key window).value now = wait := ⟨_, rfl⟩
  rw [hwait]
  obtain ⟨counter, ⟨answer, hsettle⟩ | ⟨error, hsettle⟩⟩ :=
    (backend.begin key window).state.settle_cases key window inTime stop
  · rw [hsettle]
    exact .inl ⟨rfl, answer, rfl⟩
  · rw [hsettle]
    exact .inr ⟨rfl, error, rfl⟩

theorem Table.size_pos_of_get? {β : Type} {table : Table β} {name : String} {value : β}
    (hget : table.get? name = some value) : 0 < table.size := by
  obtain ⟨entries, nodup⟩ := table
  cases entries with
  | nil => cases hget
  | cons entry entries => exact Nat.succ_pos _

/-- A request that a check of the store lets through has a counter in it. -/
theorem Store.size_check_pos {store : Store} {key : String} {limit window now : Nat}
    (hallowed : (store.check key limit window now).value = .ok .allowed) :
    0 < (store.check key limit window now).state.size := by
  rcases check_cases store key limit window now with
    ⟨-, -, h⟩ | ⟨-, -, h⟩ | ⟨counter, -, -, h⟩ | ⟨counter, -, -, h⟩ <;> rw [h] at hallowed ⊢
  · exact Table.size_pos_of_get? (Table.get?_put_self ..)
  · cases hallowed
  · cases hallowed
  · exact Table.size_pos_of_get? (Table.get?_put_self ..)

/-- A limiter that has just let a request through is on the way that the request went, which is not
that of turning requests away; and if it was counted in memory, its counter is there. -/
theorem Service.Decided.active_eq {before after : Service κ} {key : CounterKey}
    {policy : WindowPolicy} {way : ActiveBackend} {answer : Except Fault Admission}
    (hdecided : Decided before key policy way after answer) (hallowed : answer = .ok .allowed) :
    after.limiter.active = way ∧ way ≠ .unavailable ∧
      (way = .local_ → 0 < after.limiter.store.size) := by
  cases hdecided with
  | turnedAway => cases hallowed
  | checked hactive hstore =>
      refine ⟨hactive, by decide, fun _ => ?_⟩
      rw [← hstore] at hallowed ⊢
      exact Store.size_check_pos hallowed
  | counted backend ended answer stop events hshared havailable hended =>
      have hafter := backend.available_increment key policy.window before.now
      rw [hended] at hafter
      simp only [reduceCtorEq, exists_false, and_false, or_false] at hafter
      refine ⟨?_, by decide, fun hlocal => by cases hlocal⟩
      rw [Limiter.active]
      dsimp only
      rw [if_pos (hafter.1.trans havailable)]
  | refused => cases hallowed
  | fellBack backend ended error stop events hshared havailable hended hfallback hstore =>
      have hafter := backend.available_increment key policy.window before.now
      rw [hended] at hafter
      simp only [reduceCtorEq, exists_false, and_false, false_or] at hafter
      refine ⟨?_, by decide, fun _ => ?_⟩
      · rw [Limiter.active]
        dsimp only
        rw [settings_runTicks, hfallback, hafter.1]
        rfl
      · rw [← hstore] at hallowed ⊢
        exact Store.size_check_pos hallowed

end Throttle
