import Throttle.Proofs.Limiter.Move
import Throttle.Shared.Scripted

/-!
# The way of a request

Which way a limiter says that a check would go is the way it goes, in every state that it can come
to.  A limiter without a shared counter never has one do anything, and one that must not fall back
never counts in memory.
-/

namespace Throttle

/-- Whether a notice tells of a start, a stop or an answer, and so of no shared counter. -/
def Notice.isOwn : Notice → Bool
  | .started | .stopped | .answered _ => true
  | _ => false

namespace Session

variable {κ : Type} [SharedCounter κ] {settings : Settings} {session : Session κ}

/-! ## Limiters without a shared counter -/

omit [SharedCounter κ] in
/-- Without a shared counter in its limiter, a session does not depend on how one works. -/
theorem step_eq_of_shared_none (one other : SharedCounter κ)
    (hshared : session.limiter.shared = none) (hsuspended : session.suspended = [])
    (timed : TimedAction κ) : @step κ one session timed = @step κ other session timed := by
  obtain ⟨time, action⟩ := timed
  cases action with
  | request method client =>
      have hone := @Limiter.begin_of_none κ one session.limiter method client time hshared
      have hother := @Limiter.begin_of_none κ other session.limiter method client time hshared
      dsimp only [step, request]
      rw [hone, hother]
  | resume place => simp [step, resume, hsuspended]
  | start =>
      unfold step start Limiter.start Limiter.isRunning
      cases session.limiter.lifecycle <;> simp [hshared]
  | stop =>
      unfold step stop Limiter.stop Limiter.takeTask Limiter.endTask Limiter.isRunning
      cases session.limiter.lifecycle <;> simp [hshared]
  | tick => rfl
  | sweep => rfl
  | notify event => rfl
  | alter change => rfl

omit [SharedCounter κ] in
/-- A limiter that counts in memory is the same whatever shared counter it is built with. -/
theorem run_eq_of_memory (one other : SharedCounter κ) (hmemory : settings.usesShared = false)
    (counter counter' : κ) (sweepInterval : Nat) (actions : List (TimedAction κ)) :
    @run κ other (ofSettings settings counter' sweepInterval) actions =
      @run κ one (ofSettings settings counter sweepInterval) actions := by
  induction actions using List.reverseRecOn with
  | nil => simp [ofSettings, Limiter.build, hmemory]
  | append_singleton actions last ih =>
      obtain ⟨hshared, hsuspended⟩ :=
        (@wired_run κ one settings counter sweepInterval actions).shared_eq_none hmemory
      rw [@run_concat κ one, @run_concat κ other, ih]
      exact step_eq_of_shared_none other one hshared hsuspended last

theorem Move.isOwn {timed : TimedAction κ} {after : Session κ} (hmove : Move session timed after)
    (hshared : session.limiter.shared = none)
    (hown : ∀ notice ∈ session.trace, notice.isOwn = true) :
    ∀ notice ∈ after.trace, notice.isOwn = true := by
  cases hmove with
  | quiet hquiet =>
      obtain ⟨notices, htrace, hnotices⟩ := hquiet.trace_eq
      rw [htrace]
      intro notice hnotice
      rcases List.mem_append.1 hnotice with hnew | hold
      · rcases hnotices notice hnew with rfl | rfl | ⟨hsome, -⟩
        · rfl
        · rfl
        · simp [hshared] at hsome
      · exact hown notice hold
  | refused verdict => exact List.forall_mem_cons.2 ⟨rfl, hown⟩
  | checked verdict => exact List.forall_mem_cons.2 ⟨rfl, hown⟩
  | begun backend pending hsome => simp [hshared] at hsome
  | charged backend pending hsome => simp [hshared] at hsome
  | resumed backend pending place hsome => simp [hshared] at hsome

theorem isOwn_run (hmemory : settings.usesShared = false) (counter : κ) (sweepInterval : Nat)
    (actions : List (TimedAction κ)) :
    ∀ notice ∈ ((ofSettings settings counter sweepInterval).run actions).trace,
      notice.isOwn = true := by
  induction actions using List.reverseRecOn with
  | nil => simp [ofSettings]
  | append_singleton actions last ih =>
      have hwired := wired_run settings counter sweepInterval actions
      rw [run_concat]
      exact (hwired.move last).isOwn (hwired.shared_eq_none hmemory).1 ih

/-! ## Limiters that must not fall back -/

omit [SharedCounter κ] in
theorem Charged.store_eq {before after : Session κ} {pending : Pending} {time : Nat}
    {ended : Outcome (SharedBackend κ) (Except LimiterError SharedCount)}
    (hcharged : Charged before pending time ended after)
    (hstrict : before.limiter.settings.memoryFallback = false) :
    after.limiter.store = before.limiter.store := by
  cases hcharged with
  | counted => rfl
  | refused => rfl
  | fellBack error verdict _ hfallback => simp [hstrict] at hfallback

theorem sweepEach_empty (instants : List Nat) : Store.sweepEach .empty instants = .empty := by
  induction instants with
  | nil => rfl
  | cons instant instants ih => exact ih

theorem Move.store_eq_empty {timed : TimedAction κ} {after : Session κ}
    (hmove : Move session timed after) (hshared : session.limiter.shared.isSome = true)
    (hstrict : session.limiter.settings.memoryFallback = false)
    (hempty : session.limiter.store = .empty) : after.limiter.store = .empty := by
  cases hmove with
  | quiet hquiet =>
      obtain ⟨ticks, hstore⟩ := hquiet.store_eq
      rw [hstore, hempty, sweepEach_empty]
  | refused => exact hempty
  | checked verdict policy hactive =>
      -- Only with a fallback, or without a shared counter, does a limiter call itself local.
      obtain ⟨backend, hbackend⟩ := Option.isSome_iff_exists.1 hshared
      unfold Limiter.active at hactive
      simp only [hbackend, hstrict] at hactive
      split at hactive <;> simp at hactive
  | begun => exact hempty
  | charged backend pending _ _ _ _ hcharged => exact (hcharged.store_eq hstrict).trans hempty
  | resumed backend pending place _ _ hcharged => exact (hcharged.store_eq hstrict).trans hempty

theorem store_run_of_strict (hshared : settings.usesShared = true)
    (hstrict : settings.memoryFallback = false) (counter : κ) (sweepInterval : Nat)
    (actions : List (TimedAction κ)) :
    ((ofSettings settings counter sweepInterval).run actions).limiter.store = .empty := by
  induction actions using List.reverseRecOn with
  | nil => rfl
  | append_singleton actions last ih =>
      have hwired := wired_run settings counter sweepInterval actions
      obtain ⟨backend, hbackend, -⟩ := hwired.exists_backend hshared
      rw [run_concat]
      exact (hwired.move last).store_eq_empty (by simp [hbackend])
        (by rw [hwired.settings_eq, hstrict]) ih

/-! ## The way of a request -/

/-- Wherever a run has brought a limiter, a request goes the way that it says, and is charged
nowhere else.  On the shared way an increment is begun, after which the request waits or is decided
by its end; so is one that waits, when it goes on.  A limiter that counts in memory leaves the
shared counter alone, so that any other would do as well, and one that must not fall back leaves its
store empty. -/
theorem charged_as_active (settings : Settings) (counter : κ) (sweepInterval : Nat)
    (actions : List (TimedAction κ)) :
    let session := (ofSettings settings counter sweepInterval).run actions
    (∀ time method client,
      let key := CounterKey.of client method
      let policy := settings.policy (.of method)
      let after := session.request time method client
      match session.limiter.active with
      | .unavailable =>
        ∃ events, after = session.note [.answered ⟨key, time, .ok (.unavailable 1), events⟩]
      | .local_ =>
        let checked :=
          session.limiter.store.check key.localName policy.limit.toNat policy.window time
        ∃ events, after = { session with limiter := { session.limiter with
          store := checked.state } }.note [.answered ⟨key, time, checked.value, events⟩]
      | .shared =>
        ∃ backend pending, session.limiter.shared = some backend ∧
          pending.key = key ∧ pending.policy = policy ∧
          (after = { session.beginning backend key policy.window with
              suspended := session.suspended ++ [pending] } ∨
            Charged (session.beginning backend key policy.window) pending time
              ((backend.begin key policy.window).state.settle key policy.window pending.inTime
                time) after)) ∧
    (∀ time place pending, session.suspended[place]? = some pending → pending.resumeAt ≤ time →
      pending.policy = settings.policy (.of pending.key.method) ∧
      ∃ backend, session.limiter.shared = some backend ∧
        Charged { session with suspended := session.suspended.eraseIdx place } pending time
          (backend.settle pending.key pending.policy.window pending.inTime time)
          (session.resume time place)) ∧
    (settings.usesShared = false → (∀ notice ∈ session.trace, notice.isOwn = true) ∧
      ∀ (other : SharedCounter κ) (counter' : κ),
        @run κ other (ofSettings settings counter' sweepInterval) actions = session) ∧
    (settings.usesShared = true → settings.memoryFallback = false →
      session.limiter.store = .empty) := by
  intro session
  have hwired : Wired settings session := wired_run settings counter sweepInterval actions
  refine ⟨fun time method client => ?_, fun time place pending hpending hdue => ?_,
    fun hmemory => ⟨isOwn_run hmemory counter sweepInterval actions, fun other counter' =>
      run_eq_of_memory _ other hmemory counter counter' sweepInterval actions⟩,
    fun hshared hstrict => store_run_of_strict hshared hstrict counter sweepInterval actions⟩
  · intro key policy after
    have hpolicy : session.limiter.settings.policy (.of method) = policy := by
      rw [hwired.settings_eq]
    split
    · next hactive =>
      obtain ⟨events, -, hrequest⟩ :=
        request_of_unavailable session time method client hactive rfl
      exact ⟨events, hrequest⟩
    · next hactive =>
      intro checked
      obtain ⟨events, -, -, hrequest⟩ :=
        request_of_local session time method client hactive rfl hpolicy rfl
      exact ⟨events, hrequest⟩
    · next hactive =>
      obtain ⟨backend, hshared, pending, hrequest⟩ :=
        request_of_shared session time method client hactive rfl hpolicy
      exact ⟨backend, pending, hshared, hrequest⟩
  · obtain ⟨hshared, hpolicy⟩ := hwired.suspended pending (List.mem_of_getElem? hpending)
    obtain ⟨backend, hbackend, -⟩ := hwired.exists_backend hshared
    exact ⟨hpolicy, backend, hbackend, resume_charged session hbackend hpending hdue⟩

/-- A limiter that must not fall back turns a client away until its shared counter is ready, and
when an increment is late; a limiter that counts in memory takes no notice of that. -/
theorem charged_as_active_until_ready :
    let strict : Settings := { (default : Settings) with mode := .shared, read := ⟨1, 1⟩ }
    let memory : Settings := { strict with mode := .memory }
    let actions : List (TimedAction Scripted) :=
      [⟨0, .start⟩, ⟨0, .request "GET" "a"⟩, ⟨0, .notify .ready⟩, ⟨0, .request "GET" "a"⟩,
        ⟨1, .request "GET" "a"⟩, ⟨2, .alter ({ · with failure := some (.backend "down") })⟩,
        ⟨2, .request "GET" "b"⟩, ⟨3, .stop⟩]
    let session := (ofSettings strict {} 5).run actions
    let session' := (ofSettings memory {} 5).run actions
    strict.usesShared = true ∧ strict.memoryFallback = false ∧ memory.usesShared = false ∧
      session.verdicts.map (·.answer) = [.ok (.unavailable 1), .ok (.denied 1), .ok .allowed,
        .ok (.unavailable 1)] ∧
      session.limiter.store = .empty ∧ ∀ notice ∈ session'.trace, notice.isOwn = true := by
  intro strict memory actions session session'
  have hshared : strict.usesShared = true := by decide
  have hstrict : strict.memoryFallback = false := by decide
  have hmemory : memory.usesShared = false := by decide
  have hempty := (charged_as_active strict {} 5 actions).2.2.2 hshared hstrict
  have hown := ((charged_as_active memory {} 5 actions).2.2.1 hmemory).1
  exact ⟨hshared, hstrict, hmemory, by decide +kernel, hempty, hown⟩

end Session

end Throttle
