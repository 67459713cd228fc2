import Throttle.Http.Router
import Throttle.Proofs.Limiter.Decision
import Throttle.Settings.Resolve
import Throttle.Shared.Scripted

/-!
# The guard follows the limiter

A service that handles requests one at a time goes through the states that it would go through if it
did nothing but check them, whatever happens to it between two requests.  The status of a response
tells how the check came out, a rejection does not depend on the handler, and what the resource
reports is what the check of that same request left.
-/

namespace Throttle.Http

variable {κ : Type}

/-! ## Single responses -/

theorem Response.status_withHeader (response : Response) (name value : String) :
    (response.withHeader name value).status = response.status := by
  unfold withHeader
  split <;> rfl

theorem Response.status_rejection (violation : Violation) (requestId timestamp : String) :
    (rejection violation requestId timestamp).status = violation.status :=
  status_withHeader ..

theorem status_sent (request : Request) (response : Response) :
    (sent request response).status = response.status := by
  unfold sent
  dsimp only
  split <;> split <;> simp only [Response.status_withHeader]

theorem sent_of_get {request : Request} (hget : request.method = "GET") (response : Response) :
    sent request response = response := by
  simp [sent, hget]

/-- The resources respond with none of the statuses of a rejection. -/
theorem status_unguarded (limiter : Limiter κ) (request : Request) :
    (unguarded limiter request).status ∈ [200, 404, 405] := by
  unfold unguarded
  split
  · decide
  · split
    · exact List.mem_cons_self
    · decide

theorem unguarded_of_status {request : Request} (hget : request.method = "GET")
    (hpath : request.path = "/status") (limiter : Limiter κ) :
    unguarded limiter request = .json 200 (statusBody limiter) := by
  simp [unguarded, isStatusPath, hget, hpath]

section Respond

variable (handler : Limiter κ → Request → Response) (ambient : Ambient) (limiter : Limiter κ)
  (request : Request) {admission : Admission}

theorem status_respond_of_violation {violation : Violation}
    (hviolation : admission.violation? = some violation) :
    (respond handler ambient limiter request admission).1.status = violation.status := by
  rw [respond, hviolation]
  exact (status_sent ..).trans (Response.status_rejection ..)

theorem respond_of_ne_allowed (other : Limiter κ → Request → Response)
    (hturned : admission ≠ .allowed) :
    respond handler ambient limiter request admission =
      respond other ambient limiter request admission := by
  cases admission with
  | allowed => exact absurd rfl hturned
  | denied | unavailable => rfl

/-- The status of a response tells how the check of its request came out. -/
theorem status_respond (admission : Admission) :
    let status := (respond unguarded ambient limiter request admission).1.status
    (status = 429 ↔ ∃ seconds, admission = .denied seconds) ∧
      (status = 503 ↔ ∃ seconds, admission = .unavailable seconds) := by
  intro status
  cases admission with
  | allowed =>
      -- None of the resources responds with a status of its own that a rejection has.
      have hsent : status = (unguarded limiter request).status := status_sent ..
      have hstatus : status ∈ [200, 404, 405] := hsent ▸ status_unguarded limiter request
      have hnotDenied : status ≠ 429 := ne_of_mem_of_not_mem hstatus (by decide)
      have hnotRefused : status ≠ 503 := ne_of_mem_of_not_mem hstatus (by decide)
      simp [hnotDenied, hnotRefused]
  | denied seconds =>
      have hviolation : (Admission.denied seconds).violation? = some (.quotaExceeded seconds) := rfl
      have hstatus : status = 429 :=
        status_respond_of_violation unguarded ambient limiter request hviolation
      simp [hstatus]
  | unavailable seconds =>
      have hviolation : (Admission.unavailable seconds).violation? =
          some (.backendUnavailable seconds) := rfl
      have hstatus : status = 503 :=
        status_respond_of_violation unguarded ambient limiter request hviolation
      simp [hstatus]

end Respond

/-! ## Single requests -/

variable [SharedCounter κ]

section Guarded

variable (handler : Limiter κ → Request → Response) (ambient : Ambient) (service : Service κ)
  (request : Request)

theorem state_guarded :
    (guarded handler ambient service request).state =
      (service.check request.method request.client).state := by
  unfold guarded
  dsimp only
  split <;> rfl

theorem value_guarded :
    (guarded handler ambient service request).value =
      (service.check request.method request.client).value.map fun admission =>
        (respond handler ambient (service.check request.method request.client).state.limiter request
          admission).1 := by
  unfold guarded
  dsimp only
  cases (service.check request.method request.client).value <;> rfl

/-- A request that is turned away does not come to the handler. -/
theorem guarded_of_ne_allowed (other : Limiter κ → Request → Response) {admission : Admission}
    (hchecked : (service.check request.method request.client).value = .ok admission)
    (hturned : admission ≠ .allowed) :
    guarded handler ambient service request = guarded other ambient service request := by
  unfold guarded
  dsimp only
  rw [hchecked]
  dsimp only
  rw [respond_of_ne_allowed handler ambient _ request other hturned]

end Guarded

/-! ## Runs -/

/-- What happens to a service: it handles a request, or anything else happens to it before the next
one. -/
inductive Turn (κ : Type) where
  | arrival (ambient : Ambient) (request : Request)
  | meanwhile (change : Service κ → Service κ)

namespace Turn

def afterHandling (service : Service κ) : Turn κ → Service κ
  | .arrival ambient request => (handle ambient service request).state
  | .meanwhile change => change service

def afterChecking (service : Service κ) : Turn κ → Service κ
  | .arrival _ request => (service.check request.method request.client).state
  | .meanwhile change => change service

theorem afterHandling_eq_afterChecking (service : Service κ) (turn : Turn κ) :
    turn.afterHandling service = turn.afterChecking service := by
  cases turn with
  | arrival ambient request => exact state_guarded unguarded ambient service request
  | meanwhile change => rfl

end Turn

def afterHandling (service : Service κ) (turns : List (Turn κ)) : Service κ :=
  turns.foldl Turn.afterHandling service

def afterChecking (service : Service κ) (turns : List (Turn κ)) : Service κ :=
  turns.foldl Turn.afterChecking service

theorem afterHandling_eq_afterChecking (service : Service κ) (turns : List (Turn κ)) :
    afterHandling service turns = afterChecking service turns := by
  induction turns using List.reverseRecOn with
  | nil => rfl
  | append_singleton turns turn ih =>
      simp only [afterHandling, afterChecking, List.foldl_append, List.foldl_cons,
        List.foldl_nil] at ih ⊢
      rw [ih, Turn.afterHandling_eq_afterChecking]

/-- The guard is faithful to the limiter.  After any turns, a service is as if it had only checked
the requests, and so it is after one more request; that request is answered unless its check fails.
Its response has the status of a rejection exactly if it was turned away, and that is the same
whatever the handler is; otherwise it is the response of the resources after the check.  If it asks
for the status with success, it is told the way on which it was let through, which is either local
or shared. -/
theorem serves_as_admitted (service : Service κ) (turns : List (Turn κ)) (ambient : Ambient)
    (request : Request) :
    let before := afterHandling service turns
    let admitted := before.check request.method request.client
    let handled := handle ambient before request
    before = afterChecking service turns ∧ handled.state = admitted.state ∧
      (∀ fault, handled.value = .error fault ↔ admitted.value = .error fault) ∧
      ∀ admission, admitted.value = .ok admission → ∃ response, handled.value = .ok response ∧
        (response.status = 429 ↔ ∃ seconds, admission = .denied seconds) ∧
        (response.status = 503 ↔ ∃ seconds, admission = .unavailable seconds) ∧
        (admission = .allowed →
          response = sent request (unguarded admitted.state.limiter request)) ∧
        (admission ≠ .allowed → ∀ handler, guarded handler ambient before request = handled) ∧
        (request.method = "GET" → request.path = "/status" → response.status = 200 →
          ∃ (way : ActiveBackend) (reported : String),
            (way = .local_ ∧ reported = "local" ∨ way = .shared ∧ reported = "shared") ∧
            before.Decided (.of request.client request.method)
              (before.limiter.settings.policy (.of request.method)) way admitted.state
              (.ok .allowed) ∧
            admitted.state.limiter.active = way ∧
            response = .json 200 (.object [
              ("running", .bool admitted.state.limiter.isRunning),
              ("mode", .text admitted.state.limiter.settings.mode.word),
              ("backend", .text reported),
              ("localCounters", .nat admitted.state.limiter.store.size)]) ∧
            (way = .local_ → 1 ≤ admitted.state.limiter.store.size)) := by
  intro before admitted handled
  have hvalue : handled.value = admitted.value.map fun admission =>
      (respond unguarded ambient admitted.state.limiter request admission).1 :=
    value_guarded unguarded ambient before request
  refine ⟨afterHandling_eq_afterChecking service turns,
    state_guarded unguarded ambient before request, fun fault => ?_, fun admission hadmission => ?_⟩
  · rw [hvalue]
    cases admitted.value <;> simp [Except.map]
  · have hstatus := status_respond ambient admitted.state.limiter request admission
    refine ⟨_, by rw [hvalue, hadmission]; rfl, hstatus.1, hstatus.2, ?_, ?_, ?_⟩
    · rintro rfl
      rfl
    · exact fun hturned handler =>
        guarded_of_ne_allowed handler ambient before request unguarded hadmission hturned
    · intro hget hpath hsuccess
      cases admission with
      | denied seconds =>
          exact absurd (hstatus.1.2 ⟨seconds, rfl⟩) (by rw [hsuccess]; decide)
      | unavailable seconds =>
          exact absurd (hstatus.2.2 ⟨seconds, rfl⟩) (by rw [hsuccess]; decide)
      | allowed =>
          -- The resource is asked after the check, whose way it then finds the limiter on.
          obtain ⟨way, hdecided⟩ := before.exists_decided request.method request.client
          obtain ⟨hactive, hserved, hcounted⟩ := hdecided.active_eq hadmission
          have hadmission' : (before.check request.method request.client).value = .ok .allowed :=
            hadmission
          rw [hadmission'] at hdecided
          refine ⟨way, way.word, ActiveBackend.word_of_ne_unavailable hserved, hdecided, hactive, ?_,
            hcounted⟩
          calc (respond unguarded ambient admitted.state.limiter request .allowed).1
              = unguarded admitted.state.limiter request := sent_of_get hget _
            _ = .json 200 (statusBody admitted.state.limiter) := unguarded_of_status hget hpath _
            _ = _ := by rw [statusBody, hactive]

/-- With a limit of one, the first request is told that it was counted in memory, where there is its
counter then.  The second is turned away. -/
theorem serves_as_admitted_until_the_limit :
    let settings := (Settings.resolve (.ofList [("RATE_LIMIT_STORE", "memory"),
      ("RATE_LIMIT_GET_MAX", "1"), ("RATE_LIMIT_GET_WINDOW", "60")])).value
    let service : Service Scripted := ⟨{ settings }, 0⟩
    let ambient : Ambient := ⟨"2026-01-01T00:00:00+00:00", "none"⟩
    let request : Request := { method := "GET", path := "/status" }
    let later := afterHandling service [.arrival ambient request]
    (service.check "GET" "unknown").value = .ok .allowed ∧
      (later.check "GET" "unknown").value = .ok (.denied 60) ∧
      (∃ response, (handle ambient service request).value = .ok response ∧
        response.body = (Json.object [("running", .bool false), ("mode", .text "memory"),
          ("backend", .text "local"), ("localCounters", .nat 1)]).write) ∧
      ∃ response, (handle ambient later request).value = .ok response ∧
        response.status = 429 := by
  intro settings service ambient request later
  have hfirst : (service.check "GET" "unknown").value = .ok .allowed := by decide +kernel
  have hsecond : (later.check "GET" "unknown").value = .ok (.denied 60) := by decide +kernel
  refine ⟨hfirst, hsecond, ?_, ?_⟩
  · obtain ⟨-, -, -, hanswered⟩ := serves_as_admitted service [] ambient request
    obtain ⟨response, hresponse, -, -, hallowed, -, htold⟩ := hanswered .allowed hfirst
    have hstatus : response.status = 200 := by
      rw [hallowed rfl, status_sent, unguarded_of_status rfl rfl]
      rfl
    obtain ⟨way, reported, hreported, -, hactive, hbody, -⟩ := htold rfl rfl hstatus
    have hstate : (service.check "GET" "unknown").state.limiter.isRunning = false ∧
        (service.check "GET" "unknown").state.limiter.settings.mode.word = "memory" ∧
        (service.check "GET" "unknown").state.limiter.active = .local_ ∧
        (service.check "GET" "unknown").state.limiter.store.size = 1 := by decide +kernel
    have hlocal : way = .local_ := hactive.symm.trans hstate.2.2.1
    obtain ⟨-, rfl⟩ | ⟨hshared, -⟩ := hreported
    · refine ⟨response, hresponse, ?_⟩
      change response = .json 200 (.object [
        ("running", .bool (service.check "GET" "unknown").state.limiter.isRunning),
        ("mode", .text (service.check "GET" "unknown").state.limiter.settings.mode.word),
        ("backend", .text "local"),
        ("localCounters", .nat (service.check "GET" "unknown").state.limiter.store.size)]) at hbody
      rw [hbody, hstate.1, hstate.2.1, hstate.2.2.2]
      rfl
    · rw [hlocal] at hshared
      cases hshared
  · obtain ⟨-, -, -, hanswered⟩ :=
      serves_as_admitted service [.arrival ambient request] ambient request
    obtain ⟨response, hresponse, hdenied, -⟩ := hanswered (.denied 60) hsecond
    exact ⟨response, hresponse, hdenied.2 ⟨60, rfl⟩⟩

end Throttle.Http
