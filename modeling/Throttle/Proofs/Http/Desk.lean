import Mathlib.Data.List.Forall2
import Throttle.Http.Router
import Throttle.Proofs.Limiter.Likeness

/-!
# A limiter at work

A desk is a limiter with everything that comes to it, in any order: callers that have a request
checked, directly or with a request over HTTP, the ends of their waits, starts and stops, ticks and
sweeps, and what happens to the shared counter.  It keeps the answers it gave and everything that
was reported.  Main statement: desks of limiters that are alike, to which alike things come, give the
same answers; and they report the same, if that is part of their likeness.
-/

namespace Throttle

inductive Caller where
  | direct (method client : String)
  | web (request : Http.Request)

namespace Caller

def method : Caller → String
  | direct method _ => method
  | web request => request.method

def client : Caller → String
  | direct _ client => client
  | web request => request.client

/-- What is reported of a caller before the check. -/
def entered : Caller → List Event
  | direct .. => []
  | web request => [.requestEntered request.method request.path]

end Caller

structure Answer where
  caller : Caller
  result : Except Fault Admission
  /-- The response over HTTP, and what is reported of it. -/
  response : Option (Http.Ambient → Http.Response × List Event)

/-- A limiter, the callers who wait, and what became of the others. -/
structure Desk (κ : Type) where
  limiter : Limiter κ
  /-- The callers who wait for the shared counter, the first first. -/
  waiting : List (Caller × Pending) := []
  answers : List Answer := []
  log : List Event := []

namespace Desk

def ofBuilt {κ : Type} (built : Outcome (Limiter κ) Unit) (sweepInterval : Nat) : Desk κ :=
  { limiter := { built.state with sweepInterval }, log := built.events }

variable {κ : Type} [BusyCounter κ]

/-- What comes to a desk. -/
inductive Matter (κ : Type) [BusyCounter κ] where
  | call (caller : Caller)
  /-- The wait of the caller at a place is over. -/
  | resume (place : Nat)
  | start
  | stop
  /-- The sweep task takes the ticks that come up until an instant. -/
  | tick (stop : Nat)
  /-- The host has the counters in memory swept. -/
  | sweep
  | happen (happening : BusyCounter.Happening κ)

/-- What comes to a desk, and when. -/
structure Step (κ : Type) [BusyCounter κ] where
  time : Nat
  matter : Matter κ

omit [BusyCounter κ] in
def after {α : Type} (desk : Desk κ) (outcome : Outcome (Limiter κ) α) : Desk κ :=
  { desk with limiter := outcome.state, log := desk.log ++ outcome.events }

omit [BusyCounter κ] in
/-- Gives a caller the result of its check; who came over HTTP is let through to the resources. -/
def answer (desk : Desk κ) (caller : Caller) (result : Except Fault Admission) : Desk κ :=
  let response := match caller, result with
    | .web request, .ok admission =>
      some fun ambient => Http.respond Http.unguarded ambient desk.limiter request admission
    | _, _ => none
  { desk with answers := desk.answers ++ [⟨caller, result, response⟩] }

/-- A caller comes, and is answered or has to wait. -/
def call (desk : Desk κ) (time : Nat) (caller : Caller) : Desk κ :=
  let begun := desk.limiter.begin caller.method caller.client time
  let desk := { desk with log := desk.log ++ caller.entered }.after begun
  match begun.value with
  | .done result => desk.answer caller result
  | .waiting pending => { desk with waiting := desk.waiting ++ [(caller, pending)] }

/-- Goes on with a caller who waits, if it is time. -/
def resume (desk : Desk κ) (time place : Nat) : Desk κ :=
  match desk.waiting[place]? with
  | none => desk
  | some (caller, pending) =>
    if time < pending.resumeAt then desk
    else
      let resumed := desk.limiter.resume pending time
      ({ desk with waiting := desk.waiting.eraseIdx place }.after resumed).answer caller
        resumed.value

/-- Something happens to the shared counter, if the limiter uses one. -/
def happen (desk : Desk κ) (happening : BusyCounter.Happening κ) : Desk κ :=
  match desk.limiter.shared with
  | none => desk
  | some backend =>
    let happened := backend.happen happening
    { desk with
      limiter := { desk.limiter with shared := some happened.state }
      log := desk.log ++ happened.events }

/-- The same matters, or happenings that are alike. -/
inductive Matter.Alike (happenings : BusyCounter.Happening κ → BusyCounter.Happening κ → Prop) :
    Matter κ → Matter κ → Prop where
  | call (caller : Caller) : Alike happenings (.call caller) (.call caller)
  | resume (place : Nat) : Alike happenings (.resume place) (.resume place)
  | start : Alike happenings .start .start
  | stop : Alike happenings .stop .stop
  | tick (stop : Nat) : Alike happenings (.tick stop) (.tick stop)
  | sweep : Alike happenings .sweep .sweep
  | happen {x y : BusyCounter.Happening κ} (halike : happenings x y) :
      Alike happenings (.happen x) (.happen y)

/-- Matters that are alike, at the same time. -/
structure Step.Alike (happenings : BusyCounter.Happening κ → BusyCounter.Happening κ → Prop)
    (left right : Step κ) : Prop where
  time : left.time = right.time
  matter : Matter.Alike happenings left.matter right.matter

theorem Step.alike_refl {happenings : BusyCounter.Happening κ → BusyCounter.Happening κ → Prop}
    (hrefl : ∀ happening, happenings happening happening) (step : Step κ) :
    Step.Alike happenings step step := by
  obtain ⟨time, matter⟩ := step
  refine ⟨rfl, ?_⟩
  cases matter with
  | call caller => exact .call caller
  | resume place => exact .resume place
  | start => exact .start
  | stop => exact .stop
  | tick stop => exact .tick stop
  | sweep => exact .sweep
  | happen happening => exact .happen (hrefl happening)

def step (desk : Desk κ) (step : Step κ) : Desk κ :=
  match step.matter with
  | .call caller => desk.call step.time caller
  | .resume place => desk.resume step.time place
  | .start => desk.after (desk.limiter.start step.time)
  | .stop => desk.after desk.limiter.stop
  | .tick stop => desk.after (Service.runTicks desk.limiter step.time stop)
  | .sweep =>
    let swept := desk.limiter.store.sweep step.time
    { desk with
      limiter := { desk.limiter with store := swept.state }
      log := desk.log ++ swept.events }
  | .happen happening => desk.happen happening

def run (desk : Desk κ) (steps : List (Step κ)) : Desk κ := steps.foldl step desk

/-! ## A single caller -/

/-- A desk at which no one else waits answers a caller as a service does that has nothing else to
do: it goes on with the check when the ticks before that have been taken. -/
theorem exists_run_eq_check (service : Service κ) (caller : Caller) :
    ∃ later : List (Step κ),
      let checked := service.check caller.method caller.client
      Desk.run { limiter := service.limiter } (⟨service.now, .call caller⟩ :: later) =
        Desk.answer
          { limiter := checked.state.limiter, log := caller.entered ++ checked.events }
          caller checked.value := by
  obtain ⟨limiter, now⟩ := service
  unfold Service.check
  dsimp only
  cases hbegun : (limiter.begin caller.method caller.client now).value with
  | done result =>
      refine ⟨[], ?_⟩
      show Desk.call { limiter } now caller = _
      unfold Desk.call
      dsimp only
      rw [hbegun]
      rfl
  | waiting pending =>
      refine ⟨[⟨now, .tick pending.resumeAt⟩, ⟨max now pending.resumeAt, .resume 0⟩], ?_⟩
      have hcalled : Desk.call { limiter } now caller =
          { limiter := (limiter.begin caller.method caller.client now).state
            waiting := [(caller, pending)]
            log := caller.entered ++ (limiter.begin caller.method caller.client now).events } := by
        unfold Desk.call
        dsimp only
        rw [hbegun]
        rfl
      have hdue : ¬ max now pending.resumeAt < pending.resumeAt := by omega
      show ((Desk.call { limiter } now caller).after
        (Service.runTicks (Desk.call { limiter } now caller).limiter now pending.resumeAt)).resume
          (max now pending.resumeAt) 0 = _
      rw [hcalled]
      unfold Desk.resume Desk.after Service.resume Service.passUntil Outcome.after
      simp only [List.getElem?_cons_zero, if_neg hdue, List.eraseIdx_cons_zero, List.append_assoc]

/-- Handling a request over HTTP is what a desk does at which no one else waits. -/
theorem exists_run_eq_handle (ambient : Http.Ambient) (service : Service κ)
    (request : Http.Request) :
    ∃ (later : List (Step κ)) (answer : Answer),
      let handled := Http.handle ambient service request
      let desk := Desk.run { limiter := service.limiter }
        (⟨service.now, .call (.web request)⟩ :: later)
      desk.limiter = handled.state.limiter ∧ desk.answers = [answer] ∧
        (∀ fault, answer.result = .error fault →
          handled.value = .error fault ∧ handled.events = desk.log) ∧
        ∀ admission, answer.result = .ok admission → ∃ response, answer.response = some response ∧
          handled.value = .ok (response ambient).1 ∧
            handled.events = desk.log ++ (response ambient).2 := by
  obtain ⟨later, hrun⟩ := exists_run_eq_check service (.web request)
  unfold Http.handle Http.guarded
  dsimp only [Caller.method, Caller.client] at hrun ⊢
  generalize service.check request.method request.client = checked at hrun ⊢
  obtain ⟨state, value, events⟩ := checked
  cases value with
  | error fault =>
      refine ⟨later, ⟨.web request, .error fault, none⟩, ?_⟩
      rw [hrun]
      refine ⟨rfl, rfl, fun other hother => ?_, fun admission hadmission => ?_⟩
      · cases hother
        exact ⟨rfl, rfl⟩
      · cases hadmission
  | ok admission =>
      refine ⟨later, ⟨.web request, .ok admission, some fun ambient =>
        Http.respond Http.unguarded ambient state.limiter request admission⟩, ?_⟩
      rw [hrun]
      refine ⟨rfl, rfl, fun fault hfault => ?_, fun other hother => ?_⟩
      · cases hfault
      · cases hother
        exact ⟨_, rfl, rfl, rfl⟩

end Desk

namespace Likeness

variable {κ : Type} [BusyCounter κ] (like : Likeness κ)

structure Desks (left right : Desk κ) : Prop where
  limiter : like.Limiters left.limiter right.limiter
  waiting : left.waiting = right.waiting
  answers : left.answers = right.answers
  log : like.verbatim → left.log = right.log

variable {like}

theorem Limiters.respond_eq {left right : Limiter κ} (hlike : like.Limiters left right)
    (ambient : Http.Ambient) (request : Http.Request) (admission : Admission) :
    Http.respond Http.unguarded ambient left request admission =
      Http.respond Http.unguarded ambient right request admission := by
  have hstatus : Http.statusBody left = Http.statusBody right := by
    unfold Http.statusBody
    rw [hlike.isRunning_eq, (like.sameRules hlike.settings).mode, hlike.active_eq, hlike.store]
  have hunguarded : Http.unguarded left request = Http.unguarded right request := by
    unfold Http.unguarded
    rw [hstatus]
  unfold Http.respond
  rw [hunguarded]

namespace Desks

variable {left right : Desk κ}

theorem after (hlike : like.Desks left right) {α : Type} {values : α → α → Prop}
    {outcome outcome' : Outcome (Limiter κ) α}
    (houtcomes : like.Outcomes like.Limiters values outcome outcome') :
    like.Desks (left.after outcome) (right.after outcome') where
  limiter := houtcomes.state
  waiting := hlike.waiting
  answers := hlike.answers
  log hverbatim := by
    rw [Desk.after, Desk.after, hlike.log hverbatim, houtcomes.events hverbatim]

theorem answer (hlike : like.Desks left right) (caller : Caller) (result : Except Fault Admission) :
    like.Desks (left.answer caller result) (right.answer caller result) := by
  refine ⟨hlike.limiter, hlike.waiting, ?_, hlike.log⟩
  unfold Desk.answer
  simp only [hlike.answers, hlike.limiter.respond_eq]

theorem call (hlike : like.Desks left right) (time : Nat) (caller : Caller) :
    like.Desks (left.call time caller) (right.call time caller) := by
  have hbegun := hlike.limiter.begin caller.method caller.client time
  have hentered : like.Desks { left with log := left.log ++ caller.entered }
      { right with log := right.log ++ caller.entered } :=
    ⟨hlike.limiter, hlike.waiting, hlike.answers, fun hverbatim => by rw [hlike.log hverbatim]⟩
  have hafter := hentered.after hbegun
  unfold Desk.call
  dsimp only
  rw [hbegun.value]
  split
  · exact hafter.answer caller _
  · refine ⟨hafter.limiter, ?_, hafter.answers, hafter.log⟩
    exact congrArg (· ++ _) hafter.waiting

theorem resume (hlike : like.Desks left right) (time place : Nat) :
    like.Desks (left.resume time place) (right.resume time place) := by
  unfold Desk.resume
  rw [hlike.waiting]
  split
  · exact hlike
  · next caller pending _ =>
    split
    · exact hlike
    · have hresumed := hlike.limiter.resume pending time
      have hleft : like.Desks { left with waiting := right.waiting.eraseIdx place }
          { right with waiting := right.waiting.eraseIdx place } :=
        ⟨hlike.limiter, rfl, hlike.answers, hlike.log⟩
      dsimp only
      rw [hresumed.value]
      exact (hleft.after hresumed).answer caller _

theorem happen (hlike : like.Desks left right) {x y : BusyCounter.Happening κ}
    (halike : like.happening x y) : like.Desks (left.happen x) (right.happen y) := by
  unfold Desk.happen
  rcases hlike.limiter.shared_cases with ⟨hleft, hright⟩ | ⟨b, c, hleft, hright, hbackends⟩
  · rw [hleft, hright]
    exact hlike
  · have hhappened := hbackends.happen halike
    rw [hleft, hright]
    refine ⟨hlike.limiter.withShared (.some hhappened.state), hlike.waiting, hlike.answers,
      fun hverbatim => ?_⟩
    dsimp only
    rw [hlike.log hverbatim, hhappened.events hverbatim]

theorem step (hlike : like.Desks left right) {s t : Desk.Step κ}
    (halike : Desk.Step.Alike like.happening s t) :
    like.Desks (left.step s) (right.step t) := by
  obtain ⟨time, matter⟩ := s
  obtain ⟨time', matter'⟩ := t
  obtain ⟨rfl, hmatter⟩ := halike
  cases hmatter with
  | call caller => exact hlike.call time caller
  | resume place => exact hlike.resume time place
  | start => exact hlike.after (hlike.limiter.start time)
  | stop => exact hlike.after hlike.limiter.stop
  | tick stop => exact hlike.after (hlike.limiter.runTicks time stop)
  | sweep =>
      obtain ⟨hlimiter, hwaiting, hanswers, hlog⟩ := hlike
      unfold Desk.step
      dsimp only
      rw [hlimiter.store]
      exact ⟨⟨hlimiter.settings, rfl, hlimiter.shared, hlimiter.lifecycle, hlimiter.sweepInterval,
        hlimiter.timersCreated, hlimiter.timersCancelled⟩, hwaiting, hanswers,
        fun hverbatim => congrArg (· ++ _) (hlog hverbatim)⟩
  | happen halike => exact hlike.happen halike

theorem ofBuilt {built built' : Outcome (Limiter κ) Unit}
    (hbuilt : like.Outcomes like.Limiters Eq built built') (sweepInterval : Nat) :
    like.Desks (Desk.ofBuilt built sweepInterval) (Desk.ofBuilt built' sweepInterval) := by
  obtain ⟨hlimiter, -, hevents⟩ := hbuilt
  exact ⟨⟨hlimiter.settings, hlimiter.store, hlimiter.shared, hlimiter.lifecycle, rfl,
    hlimiter.timersCreated, hlimiter.timersCancelled⟩, rfl, rfl, hevents⟩

/-- Desks that are alike stay so while alike things come to them. -/
theorem run (hlike : like.Desks left right) {steps steps' : List (Desk.Step κ)}
    (halike : List.Forall₂ (Desk.Step.Alike like.happening) steps steps') :
    like.Desks (left.run steps) (right.run steps') := by
  induction halike generalizing left right with
  | nil => exact hlike
  | cons hstep _ ih => exact ih (hlike.step hstep)

end Desks

end Likeness

end Throttle
