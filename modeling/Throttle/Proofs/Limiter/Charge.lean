import Throttle.Proofs.Limiter.Outline

/-!
# Where a request is charged

A request goes the way that its limiter is on: it is turned away at once, or counted in memory at
once, or begins one increment of the shared counter.  The end of an increment decides the request,
and only if it fails are the counters in memory asked instead.  An answer tells by its events where
it came from.
-/

namespace Throttle

/-- Where a limiter that uses a shared counter took an answer from. -/
def Verdict.source (verdict : Verdict) : ActiveBackend :=
  if .fallingBack verdict.key.localName ∈ verdict.events then .local_
  else if .refusingWithoutBackend verdict.key.localName ∈ verdict.events then .unavailable
  else .shared

/-- The answer to a request that the shared counter has counted: it is let through up to the limit.
Beyond, the client may try again when the count ends, or after a whole window if that is not known
to lie ahead. -/
def SharedCount.admission (answer : SharedCount) (policy : WindowPolicy) : Admission :=
  if answer.count ≤ policy.limit.toNat then .allowed
  else match answer.ttl with
    | some (seconds + 1) => .denied (seconds + 1)
    | _ => .denied policy.windowSecs.toNat

section Check

theorem Limiter.admissionOf_fst (key : CounterKey) (answer : SharedCount) (policy : WindowPolicy) :
    (admissionOf key answer policy).1 = answer.admission policy := by
  unfold admissionOf SharedCount.admission
  split
  · rfl
  · rcases answer.ttl with - | (- | seconds) <;> rfl

theorem Limiter.not_mem_events_admissionOf (key : CounterKey) (answer : SharedCount)
    (policy : WindowPolicy) (name : String) :
    .fallingBack name ∉ (admissionOf key answer policy).2 ∧
      .refusingWithoutBackend name ∉ (admissionOf key answer policy).2 := by
  unfold admissionOf
  split <;> simp

variable {κ : Type} [SharedCounter κ]

theorem SharedBackend.keyPrefix_settle (backend : SharedBackend κ) (key : CounterKey)
    (window : Nat) (inTime : Bool) (now : Nat) :
    (backend.settle key window inTime now).state.keyPrefix = backend.keyPrefix := by
  obtain ⟨counter, ⟨answer, hended⟩ | ⟨error, hended⟩⟩ :=
    backend.settle_cases key window inTime now <;> rw [hended]

theorem Limiter.active_cases {κ : Type} (limiter : Limiter κ) :
    (limiter.active = .local_ ∧ limiter.shared = none) ∨
      ∃ backend, limiter.shared = some backend ∧
        ((limiter.active = .shared ∧ backend.available = true) ∨
          (limiter.active = .local_ ∧ backend.available = false ∧
            limiter.settings.memoryFallback = true) ∨
          (limiter.active = .unavailable ∧ backend.available = false ∧
            limiter.settings.memoryFallback = false)) := by
  unfold active
  cases hshared : limiter.shared with
  | none => exact .inl ⟨rfl, rfl⟩
  | some backend =>
      refine .inr ⟨backend, rfl, ?_⟩
      cases havailable : backend.available <;>
        cases limiter.settings.memoryFallback <;> simp [havailable]

end Check

namespace Session

variable {κ : Type} [SharedCounter κ]

omit [SharedCounter κ] in
theorem note_append (session : Session κ) (notices later : List Notice) :
    session.note (notices ++ later) = (session.note notices).note later := by
  simp [note]

/-- How a session goes on when the increment for a request has come to an end.  The shared counter
has answered; or it has failed, and the request is turned away, or counted in memory from then. -/
inductive Charged (before : Session κ) (pending : Pending) (time : Nat)
    (ended : Outcome (SharedBackend κ) (Except LimiterError SharedCount)) : Session κ → Prop where
  | counted (answer : SharedCount) (verdict : Verdict) (hended : ended.value = .ok answer)
      (hkey : verdict.key = pending.key) (htime : verdict.time = time)
      (hanswer : verdict.answer = .ok (answer.admission pending.policy))
      (hsource : verdict.source = .shared) :
      Charged before pending time ended <|
        { before with limiter := { before.limiter with shared := some ended.state } }.note
          [.answered verdict]
  | refused (error : LimiterError) (verdict : Verdict) (hended : ended.value = .error error)
      (hfallback : before.limiter.settings.memoryFallback = false)
      (hkey : verdict.key = pending.key) (htime : verdict.time = time)
      (hanswer : verdict.answer = .ok (.unavailable 1)) (hsource : verdict.source = .unavailable) :
      Charged before pending time ended <|
        { before with limiter := { before.limiter with shared := some ended.state } }.note
          [.failed error, .answered verdict]
  | fellBack (error : LimiterError) (verdict : Verdict) (hended : ended.value = .error error)
      (hfallback : before.limiter.settings.memoryFallback = true)
      (hkey : verdict.key = pending.key) (htime : verdict.time = time)
      (hanswer : verdict.answer = (before.limiter.store.check pending.key.localName
        pending.policy.limit.toNat pending.policy.window time).value)
      (hopened : verdict.opened = decide (.windowOpened pending.key.localName ∈
        (before.limiter.store.check pending.key.localName pending.policy.limit.toNat
          pending.policy.window time).events))
      (hsource : verdict.source = .local_) :
      Charged before pending time ended <|
        { before with limiter := { before.limiter with
            shared := some ended.state
            store := (before.limiter.store.check pending.key.localName
              pending.policy.limit.toNat pending.policy.window time).state } }.note
          [.failed error, .answered verdict]

/-- The end of an increment decides its request, whatever was reported when it began. -/
theorem charged_settle (before : Session κ) (backend : SharedBackend κ) (pending : Pending)
    (time : Nat) (opening : List Event)
    (hopening : ∀ name, .fallingBack name ∉ opening ∧ .refusingWithoutBackend name ∉ opening ∧
      .windowOpened name ∉ opening)
    {settled : Outcome (Limiter κ) (Except Fault Admission)}
    (hsettle : before.limiter.settle backend pending.key pending.policy pending.inTime time =
      settled) :
    Charged before pending time
      (backend.settle pending.key pending.policy.window pending.inTime time) <|
      { before with limiter := settled.state }.note (Notice.ofEvents settled.events ++
        [Notice.answered ⟨pending.key, time, settled.value, opening ++ settled.events⟩]) := by
  obtain ⟨hlocal, hunavailable, hopened⟩ := hopening pending.key.localName
  obtain ⟨counter, ⟨answer, hended⟩ | ⟨error, hended⟩⟩ :=
    backend.settle_cases pending.key pending.policy.window pending.inTime time
  · have hsettled : settled =
        { state := { before.limiter with shared := some { backend with counter } }
          value := .ok (answer.admission pending.policy)
          events := (Limiter.admissionOf pending.key answer pending.policy).2 } := by
      simp [← hsettle, Limiter.settle, hended, Limiter.admissionOf_fst]
    obtain ⟨hanswerLocal, hanswerUnavailable⟩ := Limiter.not_mem_events_admissionOf pending.key
      answer pending.policy pending.key.localName
    rw [hsettled, hended, Notice.ofEvents_admissionOf]
    refine .counted answer _ rfl rfl rfl rfl ?_
    simp [Verdict.source, hlocal, hunavailable, hanswerLocal, hanswerUnavailable]
  · -- What is reported of the failure says nothing of where the answer comes from then.
    have hsettled : settled =
        (Limiter.checkWithoutBackend { before.limiter with
            shared := some { backend with counter, available := false } }
          pending.key pending.policy time).after
            [.incrementFailed (pending.key.sharedName backend.keyPrefix) error,
              .backendFailed error.message] := by
      simp [← hsettle, Limiter.settle, hended]
    rw [hsettled, hended, Limiter.checkWithoutBackend]
    split
    · next hfallback =>
      rw [Outcome.after, Outcome.after, Limiter.checkLocally]
      dsimp only
      rw [Notice.ofEvents_append, Notice.ofEvents_append, Notice.ofEvents_check]
      refine .fellBack error _ rfl hfallback rfl rfl rfl ?_ ?_
      · simp [Verdict.opened, hopened]
      · simp [Verdict.source]
    · next hfallback =>
      rw [Outcome.after]
      refine .refused error _ rfl (by simpa using hfallback) rfl rfl rfl ?_
      simp [Verdict.source, hlocal, hunavailable]

section Request

variable (session : Session κ) (time : Nat) (method client : String)

/-- A limiter that calls itself unavailable turns a request away and does nothing else. -/
theorem request_of_unavailable (hactive : session.limiter.active = .unavailable)
    {key : CounterKey} (hkey : .of client method = key) :
    ∃ events,
      let verdict : Verdict := ⟨key, time, .ok (.unavailable 1), events⟩
      verdict.source = .unavailable ∧
        session.request time method client = session.note [.answered verdict] := by
  obtain ⟨hother, -⟩ | ⟨backend, hshared, ⟨hother, -⟩ | ⟨hother, -⟩ | ⟨-, havailable, hfallback⟩⟩ :=
    session.limiter.active_cases
  · simp [hactive] at hother
  · simp [hactive] at hother
  · simp [hactive] at hother
  · have hbegin := session.limiter.begin_of_unavailable method client time hshared havailable
    rw [Limiter.checkWithoutBackend, if_neg (by simp [hfallback]), hkey] at hbegin
    refine ⟨[session.limiter.checkingEvent method client, .refusingWithoutBackend key.localName],
      by simp [Verdict.source, Limiter.checkingEvent], ?_⟩
    rw [Session.request, hbegin, hkey]
    dsimp only
    rw [Notice.ofEvents_checkingEvent]
    rfl

/-- A limiter that calls itself local checks a request in memory and does nothing else. -/
theorem request_of_local (hactive : session.limiter.active = .local_) {key : CounterKey}
    (hkey : .of client method = key) {policy : WindowPolicy}
    (hpolicy : session.limiter.settings.policy (.of method) = policy)
    {checked : Outcome Store (Except Fault Admission)}
    (hchecked : session.limiter.store.check key.localName policy.limit.toNat policy.window time =
      checked) :
    ∃ events,
      let verdict : Verdict := ⟨key, time, checked.value, events⟩
      verdict.opened = decide (.windowOpened key.localName ∈ checked.events) ∧
        (session.limiter.shared.isSome = true → verdict.source = .local_) ∧
        session.request time method client =
          { session with limiter := { session.limiter with store := checked.state } }.note
            [.answered verdict] := by
  have hlocal : session.limiter.checkLocally key policy time =
      { state := { session.limiter with store := checked.state }
        value := checked.value
        events := checked.events } := by
    rw [Limiter.checkLocally, hchecked]
  have hquiet : Notice.ofEvents checked.events = [] := by
    rw [← hchecked]
    exact Notice.ofEvents_check ..
  obtain ⟨-, hshared⟩ |
      ⟨backend, hshared, ⟨hother, -⟩ | ⟨-, havailable, hfallback⟩ | ⟨hother, -⟩⟩ :=
    session.limiter.active_cases
  · have hbegin := session.limiter.begin_of_none method client time hshared
    dsimp only at hbegin
    rw [hkey, hpolicy, hlocal] at hbegin
    refine ⟨session.limiter.checkingEvent method client :: checked.events,
      by simp [Verdict.opened, Limiter.checkingEvent], by simp [hshared], ?_⟩
    rw [Session.request, hbegin, hkey]
    dsimp only
    rw [Notice.ofEvents_checkingEvent, hquiet]
    rfl
  · simp [hactive] at hother
  · have hbegin := session.limiter.begin_of_unavailable method client time hshared havailable
    dsimp only at hbegin
    rw [hkey, hpolicy, Limiter.checkWithoutBackend, if_pos hfallback, hlocal] at hbegin
    refine ⟨session.limiter.checkingEvent method client ::
      ([.fallingBack key.localName] ++ checked.events),
      by simp [Verdict.opened, Limiter.checkingEvent], fun _ => by simp [Verdict.source], ?_⟩
    rw [Session.request, hbegin, hkey]
    dsimp only [Outcome.after]
    rw [Notice.ofEvents_checkingEvent, Notice.ofEvents_append, hquiet]
    rfl
  · simp [hactive] at hother

def beginning (backend : SharedBackend κ) (key : CounterKey) (window : Nat) : Session κ :=
  { session with limiter := { session.limiter with
      shared := some (backend.begin key window).state } }.note [.begun]

/-- A limiter that calls itself shared begins an increment for a request.  Then the request waits,
or the increment comes to an end at once. -/
theorem request_of_shared (hactive : session.limiter.active = .shared) {key : CounterKey}
    (hkey : .of client method = key) {policy : WindowPolicy}
    (hpolicy : session.limiter.settings.policy (.of method) = policy) :
    ∃ backend, session.limiter.shared = some backend ∧
      ∃ pending : Pending, pending.key = key ∧ pending.policy = policy ∧
        (session.request time method client =
            { session.beginning backend key policy.window with
              suspended := session.suspended ++ [pending] } ∨
          Charged (session.beginning backend key policy.window) pending time
            ((backend.begin key policy.window).state.settle key policy.window pending.inTime time)
            (session.request time method client)) := by
  obtain ⟨hother, -⟩ | ⟨backend, hshared, ⟨-, havailable⟩ | ⟨hother, -⟩ | ⟨hother, -⟩⟩ :=
    session.limiter.active_cases
  · simp [hactive] at hother
  · have hbegins := session.limiter.begin_of_available method client time hshared havailable
    dsimp only at hbegins
    rw [hkey, hpolicy] at hbegins
    let started := (backend.begin key policy.window).state
    let begun := session.beginning backend key policy.window
    refine ⟨backend, hshared, ?_⟩
    rcases hbegins with ⟨inTime, hbegin⟩ | ⟨resumeAt, inTime, hbegin⟩
    · let opening : List Event :=
        [session.limiter.checkingEvent method client,
          .incrementing (key.sharedName backend.keyPrefix)]
      have hsettled : session.limiter.begin method client time =
          { state := (begun.limiter.settle started key policy inTime time).state
            value := .done (begun.limiter.settle started key policy inTime time).value
            events := opening ++ (begun.limiter.settle started key policy inTime time).events } :=
        hbegin
      have hcharged := charged_settle begun started ⟨key, policy, time, inTime⟩ time opening
        (by simp [opening, Limiter.checkingEvent]) rfl
      refine ⟨⟨key, policy, time, inTime⟩, rfl, rfl, .inr ?_⟩
      generalize begun.limiter.settle started key policy inTime time = settled
        at hcharged hsettled
      rw [Session.request, hsettled, hkey]
      dsimp only
      rw [Notice.ofEvents_append, List.append_assoc, note_append]
      exact hcharged
    · refine ⟨⟨key, policy, resumeAt, inTime⟩, rfl, rfl, .inl ?_⟩
      rw [Session.request, hbegin]
      rfl
  · simp [hactive] at hother
  · simp [hactive] at hother

end Request

/-- Only a check whose wait is over goes on. -/
theorem resume_eq_or_due (session : Session κ) (time place : Nat) :
    session.resume time place = session ∨
      ∃ pending, session.suspended[place]? = some pending ∧ pending.resumeAt ≤ time := by
  cases hpending : session.suspended[place]? with
  | none =>
      rw [Session.resume, hpending]
      exact .inl rfl
  | some pending =>
      rcases Nat.lt_or_ge time pending.resumeAt with hearly | hdue
      · rw [Session.resume, hpending]
        exact .inl (if_pos hearly)
      · exact .inr ⟨pending, rfl, hdue⟩

theorem resume_charged (session : Session κ) {backend : SharedBackend κ} {pending : Pending}
    {time place : Nat} (hshared : session.limiter.shared = some backend)
    (hpending : session.suspended[place]? = some pending) (hdue : pending.resumeAt ≤ time) :
    Charged { session with suspended := session.suspended.eraseIdx place } pending time
      (backend.settle pending.key pending.policy.window pending.inTime time)
      (session.resume time place) := by
  have hcharged := charged_settle { session with suspended := session.suspended.eraseIdx place }
    backend pending time [] (by simp) rfl
  rw [Session.resume, hpending]
  dsimp only
  rw [if_neg (Nat.not_lt.2 hdue), Limiter.resume, hshared]
  exact hcharged

end Session

end Throttle
