import Throttle.Proofs.Database.Monitor

/-!
# The life of a connection

Where nobody else tells the listener anything, the backend is usable only while the counter is
connected, and the end of a connection is told by the task that watched it, once.
-/

namespace Throttle.Watch

/-- The listener takes the counter to be usable only where an increment finds a connection, and
hears of an end only by a task. -/
structure Sound (watch : Watch) : Prop where
  available : watch.backend.available = true → watch.backend.counter.connected = true
  calls : ∀ call ∈ watch.calls, call.answer ≠ .error .notConnected
  counted : ∀ notice ∈ watch.trace, ∀ result, notice.occasion = .counted true result →
    result ≠ .error .notConnected
  closed : ∀ notice ∈ watch.trace, .closed ∈ notice.told → ∃ i, notice.occasion = .ended i false

theorem sound_ofSettings (settings : RedisSettings) (server : Option Database.Server)
    (keyPrefix : String) (opTimeout : Nat) :
    (ofSettings settings server keyPrefix opTimeout).Sound where
  available h := by cases h
  calls := by simp [ofSettings]
  counted := by simp [ofSettings]
  closed := by simp [ofSettings]

/-- A round has no good outcome without a connection. -/
theorem place_of_mayAnswer {place : Place} {result : Except LimiterError Unit}
    (hmay : place.mayAnswer result = true) (hok : result.isOk = true) : place = .asking true := by
  cases result with
  | error error => cases hok
  | ok =>
      cases place with
      | asking holding => exact congrArg Place.asking hmay
      | resting => cases hmay
      | ended => cases hmay

namespace Sound

variable {watch : Watch} (h : watch.Sound)

include h

/-- Nothing is told. -/
theorem of_silent {next : Watch}
    (havailable : next.backend.available = true → next.backend.counter.connected = true)
    (hcalls : next.calls = watch.calls) (htrace : next.trace = watch.trace) : next.Sound where
  available := havailable
  calls := hcalls ▸ h.calls
  counted := htrace ▸ h.counted
  closed := htrace ▸ h.closed

/-- Something is told. -/
theorem of_notice {next : Watch} {notice : Notice}
    (havailable : next.backend.available = true → next.backend.counter.connected = true)
    (hcalls : ∀ call ∈ next.calls, call ∈ watch.calls) (htrace : next.trace = notice :: watch.trace)
    (hcounted : ∀ result, notice.occasion = .counted true result → result ≠ .error .notConnected)
    (hclosed : .closed ∈ notice.told → ∃ i, notice.occasion = .ended i false) : next.Sound where
  available := havailable
  calls call hcall := h.calls call (hcalls call hcall)
  counted := by
    rw [htrace, List.forall_mem_cons]
    exact ⟨hcounted, h.counted⟩
  closed := by
    rw [htrace, List.forall_mem_cons]
    exact ⟨hclosed, h.closed⟩

theorem result_ne {call : Call} (hcall : call ∈ watch.calls) (ending : Ending) :
    ending.result call watch.backend.opTimeout ≠ .error .notConnected := by
  cases ending with
  | answered => exact h.calls call hcall
  | broken reason => simp [Ending.result]
  | late => simp [Ending.result]

theorem unavailable (hsteady : watch.Steady) (hnone : ∀ task ∈ watch.tasks, task.isLive = false) :
    watch.backend.available = false := by
  by_contra havailable
  have hconnected := h.available (by simpa using havailable)
  rw [(hsteady.lone hnone).2] at hconnected
  cases hconnected

theorem of_step (hsteady : watch.Steady) {turn : Turn} {next : Watch}
    (hown : ∀ event, turn ≠ .heard event) (hstep : Step watch turn next) : next.Sound := by
  cases hstep with
  | still => exact h
  | connect => exact h.of_silent h.available rfl rfl
  | asked => exact h.of_silent h.available rfl rfl
  | opened => exact h.of_silent (fun _ => rfl) rfl rfl
  | @answered i task result htask hmay =>
      have hgood : result.isOk = true → watch.backend.counter.connected = true := by
        intro hok
        exact hsteady.holding htask (place_of_mayAnswer hmay hok)
      refine h.of_notice hgood (fun _ hcall => hcall) (by rfl) ?_ ?_
      · intro _ heq
        cases heq
      · intro hmem
        exact absurd hmem (closed_notMem_toldOfRound _ _ _)
  | cancel => exact h.of_silent h.available rfl rfl
  | @ended i task htask hlive hcancelled =>
      refine h.of_notice ?_ (fun _ hcall => hcall) (by rfl) ?_ fun _ => ⟨i, rfl⟩
      · intro havailable
        cases havailable
      · intro _ heq
        cases heq
  | disconnect _ hnone =>
      refine h.of_notice ?_ (fun _ hcall => hcall) (by rfl) ?_ ?_
      · intro havailable
        cases havailable
      · intro _ heq
        cases heq
      -- without a task the backend is not usable, and so there is nothing left to tell
      · rw [h.unavailable hsteady hnone]
        intro hmem
        cases hmem
  | served => exact h.of_silent h.available rfl rfl
  | heard event => exact absurd rfl (hown event)
  | @begun key window server answer hconnected hserver hanswer =>
      refine ⟨h.available, ?_, h.counted, h.closed⟩
      intro call hcall
      rcases List.mem_append.1 hcall with hcall | hcall
      · exact h.calls call hcall
      · rw [List.mem_singleton.1 hcall]
        exact hanswer
  | missed hconnected =>
      refine h.of_notice ?_ (fun _ hcall => hcall) (by rfl) ?_ ?_
      · intro havailable
        cases havailable
      -- without a connection the backend was not usable
      · intro result heq
        injection heq with husable
        rw [h.available husable] at hconnected
        cases hconnected
      · simp
  | @counted n ending call result hcall hresult =>
      refine h.of_notice ?_ (fun _ hcall => List.mem_of_mem_eraseIdx hcall) (by rfl) ?_ ?_
      · intro havailable
        exact h.available (Bool.and_eq_true_iff.1 havailable).1
      · intro other heq
        injection heq with _ heq
        rw [← heq, hresult]
        exact h.result_ne (List.mem_of_getElem? hcall) ending
      · cases result <;> simp [toldOfCount]

end Sound

theorem turn_returned {watch : Watch} (h : watch.Steady) {i : Nat} {task : Task}
    (hawaited : watch.monitor = .awaited i) (htask : watch.tasks[i]? = some task)
    (hended : task.isLive = false) :
    watch.turn .returned = { watch with
      backend.available := false
      monitor := .absent
      trace := ⟨.disconnected, if watch.backend.available then [.closed] else []⟩ ::
        watch.trace } := by
  rw [← disconnect_eq h (h.none_live_of_ended hawaited htask hended)]
  simp only [turn, hawaited, withTask, htask, hended, Bool.not_false, if_true]

/-- A call to disconnect with nothing but the end of its task between its parts: it is the whole
operation of the backend, and the end is told once. -/
theorem run_disconnect {watch : Watch} (h : watch.Steady) {i : Nat}
    (hheld : watch.monitor = .held i) :
    let after := watch.run [.disconnect, .ended i, .returned]
    after.backend = watch.backend.disconnect.state ∧ after.monitor = .absent ∧
      after.trace = ⟨.disconnected, []⟩ :: ⟨.ended i false, [.closed]⟩ :: watch.trace := by
  obtain ⟨task, htask, hlive, -⟩ := h.held hheld
  have hleft : watch.turn .disconnect = { watch with
      monitor := .awaited i, tasks := watch.tasks.set i { task with cancelled := true } } := by
    simp only [turn, hheld, withTask, htask, if_true]
  have hsteady := h.of_step (h.step .disconnect)
  have hcancelled : (watch.turn .disconnect).tasks[i]? = some { task with cancelled := true } := by
    rw [hleft]
    exact getElem?_set_self _ htask
  have hended := turn_ended hsteady hcancelled hlive rfl
  have hover : ((watch.turn .disconnect).turn (.ended i)).tasks[i]? =
      some { task with cancelled := true, place := .ended } := by
    rw [hended]
    exact getElem?_set_self _ hcancelled
  have hawaited : ((watch.turn .disconnect).turn (.ended i)).monitor = .awaited i := by
    rw [hended, hleft]
  have hreturned := turn_returned (hsteady.of_step (hsteady.step (.ended i))) hawaited hover rfl
  show let after := ((watch.turn .disconnect).turn (.ended i)).turn .returned
    after.backend = watch.backend.disconnect.state ∧ after.monitor = .absent ∧
      after.trace = ⟨.disconnected, []⟩ :: ⟨.ended i false, [.closed]⟩ :: watch.trace
  -- the task has left nothing for the call to drop or to tell
  rw [hreturned, hended, hleft, disconnect_state]
  exact ⟨rfl, rfl, rfl⟩

/-- Where only the tasks and the increments speak to the listener: at most one task lives, and to
connect while it does changes nothing; while none lives there is no connection, and increments say
so; while the backend is usable there is one, so that no increment begun then fails for the want of
it; and an end is told once by each task that ends, and by no call to disconnect.  A round, an
increment or a call to disconnect whose turns nothing comes between is the whole operation. -/
theorem connection_lasts_as_task (settings : RedisSettings) (server : Option Database.Server)
    (keyPrefix : String) (opTimeout : Nat) (turns : List Turn)
    (hown : ∀ event, .heard event ∉ turns) :
    let watch := (ofSettings settings server keyPrefix opTimeout).run turns
    (∀ (i j : Nat) (task other : Task), watch.tasks[i]? = some task → watch.tasks[j]? = some other →
      task.isLive = true → other.isLive = true → i = j) ∧
    ((∃ task ∈ watch.tasks, task.isLive = true) →
      watch.turn .connect = watch ∧ watch.backend.connect.state = watch.backend) ∧
    ((∀ task ∈ watch.tasks, task.isLive = false) →
      watch.backend.counter.connected = false ∧ watch.backend.available = false ∧
      ∀ key window now, (watch.backend.increment key window now).value.1 = .error .notConnected) ∧
    (watch.backend.available = true →
      watch.backend.counter.connected = true ∧
      ∀ key window now, (watch.backend.increment key window now).value.1 ≠ .error .notConnected) ∧
    (∀ notice ∈ watch.trace, ∀ result, notice.occasion = .counted true result →
      result ≠ .error .notConnected) ∧
    (∀ i task, watch.tasks[i]? = some task →
      (saidBy i watch.trace).count .closed = if task.isLive then 0 else 1) ∧
    (∀ notice ∈ watch.trace, .closed ∈ notice.told → ∃ i, notice.occasion = .ended i false) ∧
    (∀ i, watch.monitor = .held i →
      let after := watch.run [.disconnect, .ended i, .returned]
      after.backend = watch.backend.disconnect.state ∧ after.monitor = .absent ∧
      after.trace = ⟨.disconnected, []⟩ :: ⟨.ended i false, [.closed]⟩ :: watch.trace) ∧
    (∀ i failed, watch.tasks[i]? = some ⟨.resting, failed, false⟩ →
      let probed := watch.backend.counter.probe watch.backend.available
      (watch.run [.asked i, .opened i, .served (asks watch.backend.counter),
        .answered i watch.backend.counter.ping.2]).backend =
        (SharedBackend.receive { watch.backend with counter := probed.1 } probed.2).state) ∧
    (∀ key window now,
      (watch.run [.increment key window, .concluded watch.calls.length .answered]).backend =
        (watch.backend.increment key window now).state) := by
  intro watch
  have hsteady : watch.Steady := steady_run settings server keyPrefix opTimeout turns
  have htold : watch.Told := told_run settings server keyPrefix opTimeout turns
  have hsound : watch.Sound := run_induction
    (steady_ofSettings settings server keyPrefix opTimeout)
    (sound_ofSettings settings server keyPrefix opTimeout) turns
    fun turn hturn _ _ hsteady hstep h =>
      h.of_step hsteady (fun event heq => hown event (heq ▸ hturn)) hstep
  refine ⟨?_, ?_, ?_, ?_, hsound.counted, ?_, hsound.closed, fun i => run_disconnect hsteady,
    fun i failed htask => run_round htask (hsteady.live htask rfl).2, run_increment⟩
  · exact fun i j task other => hsteady.eq_of_live
  · rintro ⟨task, hmem, hlive⟩
    obtain ⟨i, htask⟩ := List.getElem?_of_mem hmem
    obtain ⟨hmonitor, hwatching⟩ := hsteady.live htask hlive
    have hconnect := connect_of_watched watch.backend hwatching
    refine ⟨?_, hconnect⟩
    rw [turn]
    split
    · next habsent =>
      rw [hsteady.none_live_of_absent habsent task hmem] at hlive
      cases hlive
    · rw [hconnect]
    · rfl
  · intro hnone
    have hconnected := (hsteady.lone hnone).2
    refine ⟨hconnected, hsound.unavailable hsteady hnone, fun key window now => ?_⟩
    rw [increment_value, RedisCounter.increment_of_not_connected _ _ _ hconnected]
  · intro havailable
    have hconnected := hsound.available havailable
    refine ⟨hconnected, fun key window now => ?_⟩
    rw [increment_value, ne_eq, RedisCounter.increment_eq_notConnected_iff, not_not]
    exact ⟨hconnected, hsteady.served hconnected⟩
  · intro i task htask
    by_cases hlive : task.isLive = true
    · rw [if_pos hlive, List.count_eq_zero, htold.closed htask, hlive]
      simp
    · obtain ⟨before, hsaid, honce⟩ :=
        htold.orderly.saidBy_eq ((htold.closed htask).2 (by simpa using hlive))
      rw [if_neg hlive, hsaid, List.count_cons_self, List.count_eq_zero.2 honce]

/-- A counter that was disconnected and connected again, with an increment between. -/
theorem connection_lasts_as_task_when_connected_again :
    let turns : List Turn := [.connect, .asked 0, .opened 0, .answered 0 (.ok ()),
      .increment ⟨"c", "GET"⟩ 1, .concluded 0 .late, .disconnect, .ended 0, .returned, .connect,
      .asked 1, .opened 1, .answered 1 (.ok ())]
    let watch := (ofSettings default (some {}) "" 0).run turns
    (∀ event, .heard event ∉ turns) ∧ watch.monitor = .held 1 ∧
    watch.backend.available = true ∧ watch.backend.counter.connected = true ∧
    watch.turn .connect = watch ∧ (saidBy 0 watch.trace).count .closed = 1 ∧
    (watch.run [.disconnect, .ended 1, .returned]).monitor = .absent ∧
    (watch.run [.asked 1, .opened 1, .served (asks watch.backend.counter),
      .answered 1 (.ok ())]).backend.available = true ∧
    (watch.run [.increment ⟨"c", "GET"⟩ 1, .concluded watch.calls.length .answered]).backend =
      (watch.backend.increment ⟨"c", "GET"⟩ 1 0).state := by
  intro turns watch
  have hown : ∀ event, .heard event ∉ turns := by
    intro event hmem
    simp [turns] at hmem
  obtain ⟨-, hconnect, -, havailable, -, hclosed, -, hdisconnect, hround, hincrement⟩ :=
    connection_lasts_as_task default (some {}) "" 0 turns hown
  have htasks : watch.tasks = [⟨.ended, false, true⟩, ⟨.resting, false, false⟩] := by
    decide +kernel
  have hmonitor : watch.monitor = .held 1 := by decide +kernel
  have husable : watch.backend.available = true := by decide +kernel
  have hgood : watch.backend.counter.ping.2 = .ok () := by decide +kernel
  have hprobed := hround 1 false (by rw [htasks]; rfl)
  refine ⟨hown, hmonitor, husable, (havailable husable).1, (hconnect ?_).1,
    hclosed 0 ⟨.ended, false, true⟩ ?_, (hdisconnect 1 hmonitor).2.1, ?_, hincrement _ 1 0⟩
  · exact ⟨⟨.resting, false, false⟩, by rw [htasks]; simp, rfl⟩
  · rw [htasks]
    rfl
  · rw [← hgood, hprobed]
    decide +kernel

end Throttle.Watch
