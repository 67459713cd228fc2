import Throttle.Proofs.Database.Watch

/-!
# One task at a time

However the turns come, the server is watched by at most one task, and the counter is connected only
while one watches.  What a turn does to such a watch is said once, as `Step`; what is shown of all
steps holds of all runs.
-/

namespace Throttle.Watch

/-- At most one task lives, the one that the counter has or that a call to disconnect waits for, and
the counter is watched for this task.  A task holds a connection only if there is one. -/
structure Steady (watch : Watch) : Prop where
  live : ∀ {i : Nat} {task : Task}, watch.tasks[i]? = some task → task.isLive = true →
    watch.monitor = (if task.cancelled then .awaited i else .held i) ∧
      watch.backend.counter.watching = some task.failed
  lone : (∀ task ∈ watch.tasks, task.isLive = false) →
    watch.backend.counter.watching = none ∧ watch.backend.counter.connected = false
  held : ∀ {i : Nat}, watch.monitor = .held i →
    ∃ task, watch.tasks[i]? = some task ∧ task.isLive = true ∧ task.cancelled = false
  awaited : ∀ {i : Nat}, watch.monitor = .awaited i →
    ∃ task, watch.tasks[i]? = some task ∧ task.cancelled = true
  holding : ∀ {i : Nat} {task : Task}, watch.tasks[i]? = some task → task.place = .asking true →
    watch.backend.counter.connected = true
  served : watch.backend.counter.connected = true → watch.backend.counter.server.isSome = true

theorem steady_ofSettings (settings : RedisSettings) (server : Option Database.Server)
    (keyPrefix : String) (opTimeout : Nat) :
    (ofSettings settings server keyPrefix opTimeout).Steady where
  live h := by cases h
  lone _ := ⟨rfl, rfl⟩
  held h := by cases h
  awaited h := by cases h
  holding h := by cases h
  served h := by cases h

namespace Steady

variable {watch : Watch} (h : watch.Steady)

include h

theorem eq_of_live {i j : Nat} {task other : Task} (htask : watch.tasks[i]? = some task)
    (hother : watch.tasks[j]? = some other) (hlive : task.isLive = true)
    (hotherLive : other.isLive = true) : i = j := by
  have hmonitor := (h.live htask hlive).1
  rw [(h.live hother hotherLive).1] at hmonitor
  by_cases hcancelled : task.cancelled <;> by_cases hotherCancelled : other.cancelled <;>
    simp_all

theorem none_live_of_absent (habsent : watch.monitor = .absent) :
    ∀ task ∈ watch.tasks, task.isLive = false := by
  intro task hmem
  obtain ⟨i, htask⟩ := List.getElem?_of_mem hmem
  by_contra hlive
  have hmonitor := (h.live htask (by simpa using hlive)).1
  rw [habsent] at hmonitor
  split at hmonitor <;> cases hmonitor

theorem none_live_of_ended {i : Nat} {task : Task} (hawaited : watch.monitor = .awaited i)
    (htask : watch.tasks[i]? = some task) (hended : task.isLive = false) :
    ∀ task ∈ watch.tasks, task.isLive = false := by
  intro other hmem
  obtain ⟨j, hother⟩ := List.getElem?_of_mem hmem
  by_contra hlive
  have hmonitor := (h.live hother (by simpa using hlive)).1
  rw [hawaited] at hmonitor
  split at hmonitor
  · injection hmonitor with hij
    subst hij
    rw [htask] at hother
    injection hother with hsame
    rw [← hsame, hended] at hlive
    exact hlive rfl
  · cases hmonitor

end Steady

/-- What a turn does to a watch with one task at a time. -/
inductive Step (watch : Watch) : Turn → Watch → Prop where
  | still (turn : Turn) : Step watch turn watch
  | connect (habsent : watch.monitor = .absent) :
      Step watch .connect { watch with
        backend.counter.watching := some false
        monitor := .held watch.tasks.length
        tasks := watch.tasks ++ [.begun] }
  | asked {i : Nat} {task : Task} (htask : watch.tasks[i]? = some task)
      (hplace : task.place = .resting) (hcancelled : task.cancelled = false) :
      Step watch (.asked i) { watch with
        tasks := watch.tasks.set i { task with place := .asking watch.backend.counter.connected } }
  | opened {i : Nat} {task : Task} (htask : watch.tasks[i]? = some task)
      (hplace : task.place = .asking false) (hserver : watch.backend.counter.server.isSome) :
      Step watch (.opened i) { watch with
        backend.counter.connected := true
        tasks := watch.tasks.set i { task with place := .asking true } }
  | answered {i : Nat} {task : Task} {result : Except LimiterError Unit}
      (htask : watch.tasks[i]? = some task) (hmay : task.place.mayAnswer result = true) :
      Step watch (.answered i result) { watch with
        backend := { watch.backend with
          counter.watching := some (!result.isOk)
          available := result.isOk }
        tasks := watch.tasks.set i { task with place := .resting, failed := !result.isOk }
        trace := ⟨.round i watch.backend.available result,
          toldOfRound watch.backend.available task.failed result⟩ :: watch.trace }
  | cancel {i : Nat} {task : Task} (hheld : watch.monitor = .held i)
      (htask : watch.tasks[i]? = some task) (hlive : task.isLive = true) :
      Step watch .disconnect { watch with
        monitor := .awaited i
        tasks := watch.tasks.set i { task with cancelled := true } }
  | ended {i : Nat} {task : Task} (htask : watch.tasks[i]? = some task)
      (hlive : task.isLive = true) (hcancelled : task.cancelled = true) :
      Step watch (.ended i) { watch with
        backend := { watch.backend with
          counter.connected := false
          counter.watching := none
          available := false }
        tasks := watch.tasks.set i { task with place := .ended }
        trace := ⟨.ended i false, [.closed]⟩ :: watch.trace }
  /-- A call to disconnect ends, or finds no task. -/
  | disconnect (turn : Turn) (hnone : ∀ task ∈ watch.tasks, task.isLive = false) :
      Step watch turn { watch with
        backend.available := false
        monitor := .absent
        trace := ⟨.disconnected, if watch.backend.available then [.closed] else []⟩ ::
          watch.trace }
  | served (change : Database.Server → Database.Server) :
      Step watch (.served change)
        { watch with backend.counter.server := watch.backend.counter.server.map change }
  | heard (event : ConnectionEvent) :
      Step watch (.heard event) { watch with
        backend.available := event.isReady
        trace := ⟨.other, [event]⟩ :: watch.trace }
  | begun {key : CounterKey} {window : Nat} (server : Option Database.Server)
      (answer : Except LimiterError SharedCount)
      (hconnected : watch.backend.counter.connected = true)
      (hserver : server.isSome = watch.backend.counter.server.isSome)
      (hanswer : answer ≠ .error .notConnected) :
      Step watch (.increment key window) { watch with
        backend.counter.server := server
        calls := watch.calls ++ [⟨key, watch.backend.available, answer⟩] }
  | missed {key : CounterKey} {window : Nat}
      (hconnected : watch.backend.counter.connected = false) :
      Step watch (.increment key window) { watch with
        backend.available := false
        trace := ⟨.counted watch.backend.available (.error .notConnected),
          [.failed LimiterError.notConnected.message]⟩ :: watch.trace }
  | counted {n : Nat} {ending : Ending} {call : Call} {result : Except LimiterError SharedCount}
      (hcall : watch.calls[n]? = some call)
      (hresult : result = ending.result call watch.backend.opTimeout) :
      Step watch (.concluded n ending) { watch with
        backend.available := watch.backend.available && result.isOk
        calls := watch.calls.eraseIdx n
        trace := ⟨.counted call.usable result, toldOfCount result⟩ :: watch.trace }

theorem step_withTask {watch : Watch} {turn : Turn} {i : Nat} {may : Task → Bool}
    {next : Task → Watch}
    (h : ∀ task, watch.tasks[i]? = some task → may task = true → Step watch turn (next task)) :
    Step watch turn (watch.withTask i may next) := by
  unfold withTask
  split
  · next task htask =>
    split
    · next hmay => exact h task htask hmay
    · exact .still turn
  · exact .still turn

theorem disconnect_eq {watch : Watch} (h : watch.Steady)
    (hnone : ∀ task ∈ watch.tasks, task.isLive = false) :
    watch.disconnect = { watch with
      backend.available := false
      monitor := .absent
      trace := ⟨.disconnected, if watch.backend.available then [.closed] else []⟩ ::
        watch.trace } := by
  obtain ⟨hwatching, hconnected⟩ := h.lone hnone
  obtain ⟨⟨⟨settings, server, connected, watching⟩, available, keyPrefix, opTimeout⟩, monitor,
    tasks, calls, trace⟩ := watch
  subst hwatching
  subst hconnected
  rw [disconnect, take, disconnect_state, disconnect_told]
  rfl

theorem step_increment {watch : Watch} (h : watch.Steady) (key : CounterKey) (window : Nat) :
    Step watch (.increment key window) (watch.increment key window) := by
  have hbegin : (watch.backend.begin key window).state = watch.backend := rfl
  have hanswer := RedisCounter.increment_eq_notConnected_iff watch.backend.counter
    (key.sharedName watch.backend.keyPrefix) window
  unfold increment
  simp only [hbegin]
  split
  · next hconnected =>
    obtain ⟨hframe, hserver⟩ := RedisCounter.increment_frame watch.backend.counter
      (key.sharedName watch.backend.keyPrefix) window
    rw [hframe]
    refine .begun _ _ hconnected hserver ?_
    rw [ne_eq, hanswer, not_not]
    exact ⟨hconnected, h.served hconnected⟩
  · next hconnected =>
    have hunchanged := RedisCounter.increment_of_not_connected watch.backend.counter
      (key.sharedName watch.backend.keyPrefix) window (by simpa using hconnected)
    have hunusable : (watch.backend.available &&
        (Except.error LimiterError.notConnected : Except LimiterError SharedCount).isOk) = false :=
      Bool.and_false _
    rw [hunchanged, take, conclude_state, conclude_told]
    dsimp only
    rw [hunusable]
    exact .missed (by simpa using hconnected)

theorem Steady.step {watch : Watch} (h : watch.Steady) (turn : Turn) :
    Step watch turn (watch.turn turn) := by
  cases turn with
  | connect =>
      rw [Watch.turn]
      split
      · next habsent =>
        rw [connect_of_unwatched _ (h.lone (h.none_live_of_absent habsent)).1]
        exact .connect habsent
      · next i hheld =>
        obtain ⟨task, htask, hlive, -⟩ := h.held hheld
        rw [connect_of_watched _ (h.live htask hlive).2]
        exact .still _
      · exact .still _
  | asked i =>
      refine step_withTask fun task htask hmay => ?_
      obtain ⟨hplace, hcancelled⟩ : task.place = .resting ∧ task.cancelled = false := by
        simpa using hmay
      exact .asked htask hplace hcancelled
  | opened i =>
      refine step_withTask fun task htask hmay => ?_
      obtain ⟨hplace, hserver⟩ : task.place = .asking false ∧
          watch.backend.counter.server.isSome = true := by
        simpa using hmay
      exact .opened htask hplace hserver
  | answered i result =>
      refine step_withTask fun task htask hmay => ?_
      rw [take, noteRound_state, noteRound_told]
      exact .answered htask hmay
  | disconnect =>
      rw [Watch.turn]
      split
      · next habsent =>
        have hnone := h.none_live_of_absent habsent
        rw [disconnect_eq h hnone]
        exact .disconnect _ hnone
      · next i hheld =>
        refine step_withTask fun task htask _ => ?_
        obtain ⟨held, hsame, hlive, -⟩ := h.held hheld
        rw [htask] at hsame
        injection hsame with hsame
        exact .cancel hheld htask (hsame ▸ hlive)
      · exact .still _
  | ended i =>
      refine step_withTask fun task htask hmay => ?_
      obtain ⟨hlive, hcancelled⟩ : task.isLive = true ∧ task.cancelled = true := by
        simpa using hmay
      have hwatching := (h.live htask hlive).2
      rw [take, leave_state _ hwatching, leave_told _ hwatching]
      exact .ended htask hlive hcancelled
  | returned =>
      rw [Watch.turn]
      split
      · next i hawaited =>
        refine step_withTask fun task htask hmay => ?_
        have hnone := h.none_live_of_ended hawaited htask (by simpa using hmay)
        rw [disconnect_eq h hnone]
        exact .disconnect _ hnone
      · exact .still _
  | served change => exact .served change
  | heard event =>
      rw [Watch.turn, take, receive_told]
      exact .heard event
  | increment key window => exact step_increment h key window
  | concluded n ending =>
      rw [Watch.turn]
      split
      · exact .still _
      · next call hcall =>
        dsimp only
        rw [take, conclude_state, conclude_told]
        exact .counted hcall rfl

theorem getElem?_set_cases {tasks : List Task} {i j : Nat} {next other : Task}
    (h : (tasks.set i next)[j]? = some other) :
    j = i ∧ other = next ∨ j ≠ i ∧ tasks[j]? = some other := by
  rw [List.getElem?_set] at h
  split at h
  · next heq =>
    split at h
    · injection h with h
      exact .inl ⟨heq.symm, h.symm⟩
    · cases h
  · next hne => exact .inr ⟨fun heq => hne heq.symm, h⟩

theorem getElem?_set_self {tasks : List Task} {i : Nat} {task : Task} (next : Task)
    (htask : tasks[i]? = some task) : (tasks.set i next)[i]? = some next := by
  obtain ⟨hlength, -⟩ := List.getElem?_eq_some_iff.1 htask
  exact List.getElem?_set_self hlength

theorem isLive_of_asking {task : Task} {holding : Bool} (h : task.place = .asking holding) :
    task.isLive = true := by
  simp [Task.isLive, h]

theorem isLive_of_mayAnswer {task : Task} {result : Except LimiterError Unit}
    (h : task.place.mayAnswer result = true) : task.isLive = true := by
  obtain ⟨place, failed, cancelled⟩ := task
  cases place with
  | asking holding => rfl
  | resting => cases result <;> cases h
  | ended => cases result <;> cases h

namespace Steady

variable {watch : Watch} (h : watch.Steady)

include h

/-- What keeps the tasks and the state of the connection keeps the watch steady. -/
theorem of_frame {next : Watch} (hmonitor : next.monitor = watch.monitor)
    (htasks : next.tasks = watch.tasks)
    (hwatching : next.backend.counter.watching = watch.backend.counter.watching)
    (hconnected : next.backend.counter.connected = watch.backend.counter.connected)
    (hserver : next.backend.counter.server.isSome = watch.backend.counter.server.isSome) :
    next.Steady where
  live := by
    rw [hmonitor, htasks, hwatching]
    exact h.live
  lone := by
    rw [htasks, hwatching, hconnected]
    exact h.lone
  held := by
    rw [hmonitor, htasks]
    exact h.held
  awaited := by
    rw [hmonitor, htasks]
    exact h.awaited
  holding := by
    rw [htasks, hconnected]
    exact h.holding
  served := by
    rw [hconnected, hserver]
    exact h.served

/-- The live task goes on. -/
theorem of_set {i : Nat} {task next : Task} {backend : SharedBackend RedisCounter}
    {trace : List Notice} (htask : watch.tasks[i]? = some task) (hlive : task.isLive = true)
    (hnext : next.isLive = true) (hcancelled : next.cancelled = task.cancelled)
    (hwatching : backend.counter.watching = some next.failed)
    (hholding : next.place = .asking true → backend.counter.connected = true)
    (hserved : backend.counter.connected = true → backend.counter.server.isSome = true) :
    Steady { watch with backend, trace, tasks := watch.tasks.set i next } where
  live := by
    intro j other hother hotherLive
    rcases getElem?_set_cases hother with ⟨rfl, rfl⟩ | ⟨hne, hother⟩
    · rw [hcancelled]
      exact ⟨(h.live htask hlive).1, hwatching⟩
    · exact absurd (h.eq_of_live hother htask hotherLive hlive) hne
  lone := by
    intro hnone
    have hmem := List.mem_of_getElem? (getElem?_set_self next htask)
    rw [hnone next hmem] at hnext
    cases hnext
  held := by
    intro j hheld
    obtain ⟨other, hother, hotherLive, hotherHeld⟩ := h.held hheld
    obtain rfl := h.eq_of_live hother htask hotherLive hlive
    rw [htask] at hother
    injection hother with hsame
    exact ⟨next, getElem?_set_self next htask, hnext, by rw [hcancelled, hsame, hotherHeld]⟩
  awaited := by
    intro j hawaited
    obtain ⟨other, hother, hotherCancelled⟩ := h.awaited hawaited
    by_cases hj : j = i
    · subst hj
      rw [htask] at hother
      injection hother with hsame
      exact ⟨next, getElem?_set_self next htask, by rw [hcancelled, hsame, hotherCancelled]⟩
    · refine ⟨other, ?_, hotherCancelled⟩
      rw [← hother]
      exact List.getElem?_set_ne fun heq => hj heq.symm
  holding := by
    intro j other hother hplace
    rcases getElem?_set_cases hother with ⟨rfl, rfl⟩ | ⟨hne, hother⟩
    · exact hholding hplace
    · exact absurd (h.eq_of_live hother htask (isLive_of_asking hplace) hlive) hne
  served := hserved

/-- The held task is cancelled. -/
theorem cancel {i : Nat} {task : Task} (hheld : watch.monitor = .held i)
    (htask : watch.tasks[i]? = some task) (hlive : task.isLive = true) :
    Steady { watch with
      monitor := .awaited i, tasks := watch.tasks.set i { task with cancelled := true } } where
  live := by
    intro j other hother hotherLive
    rcases getElem?_set_cases hother with ⟨rfl, rfl⟩ | ⟨hne, hother⟩
    · exact ⟨rfl, (h.live htask hlive).2⟩
    · exact absurd (h.eq_of_live hother htask hotherLive hlive) hne
  lone := by
    intro hnone
    have hmem := List.mem_of_getElem? (getElem?_set_self { task with cancelled := true } htask)
    exact absurd (hnone { task with cancelled := true } hmem) (by simpa [Task.isLive] using hlive)
  held := by
    intro j heq
    cases heq
  awaited := by
    intro j heq
    injection heq with heq
    subst heq
    exact ⟨_, getElem?_set_self _ htask, rfl⟩
  holding := by
    intro j other hother hplace
    rcases getElem?_set_cases hother with ⟨rfl, rfl⟩ | ⟨hne, hother⟩
    · exact h.holding htask hplace
    · exact h.holding hother hplace
  served := h.served

/-- The cancelled task ends, and with it the connection. -/
theorem ended {i : Nat} {task : Task} {trace : List Notice}
    (htask : watch.tasks[i]? = some task) (hlive : task.isLive = true)
    (hcancelled : task.cancelled = true) :
    Steady { watch with
      backend := { watch.backend with
        counter.connected := false
        counter.watching := none
        available := false }
      tasks := watch.tasks.set i { task with place := .ended }
      trace } := by
  have hmonitor := (h.live htask hlive).1
  rw [if_pos hcancelled] at hmonitor
  have hnone : ∀ (j : Nat) (other : Task),
      (watch.tasks.set i { task with place := .ended })[j]? = some other →
        other.isLive = false := by
    intro j other hother
    rcases getElem?_set_cases hother with ⟨rfl, rfl⟩ | ⟨hne, hother⟩
    · rfl
    · by_contra hotherLive
      exact hne (h.eq_of_live hother htask (by simpa using hotherLive) hlive)
  refine ⟨?_, ?_, ?_, ?_, ?_, ?_⟩
  · intro j other hother hotherLive
    rw [hnone j other hother] at hotherLive
    cases hotherLive
  · exact fun _ => ⟨rfl, rfl⟩
  · intro j hheld
    cases hmonitor.symm.trans hheld
  · intro j hawaited
    -- only the task that has just ended was awaited
    injection hmonitor.symm.trans hawaited with hij
    subst hij
    exact ⟨_, getElem?_set_self _ htask, hcancelled⟩
  · intro j other hother hplace
    have hotherLive := isLive_of_asking hplace
    rw [hnone j other hother] at hotherLive
    cases hotherLive
  · exact fun hconnected => by cases hconnected

/-- A task is begun where none was. -/
theorem connect (habsent : watch.monitor = .absent) :
    Steady { watch with
      backend.counter.watching := some false
      monitor := .held watch.tasks.length
      tasks := watch.tasks ++ [.begun] } := by
  have hnew : (watch.tasks ++ [Task.begun])[watch.tasks.length]? = some .begun := by simp
  have hcases : ∀ {j : Nat} {other : Task}, (watch.tasks ++ [Task.begun])[j]? = some other →
      other.isLive = true → j = watch.tasks.length ∧ other = .begun := by
    intro j other hother hlive
    rcases Nat.lt_trichotomy j watch.tasks.length with hlt | rfl | hgt
    · rw [List.getElem?_append_left hlt] at hother
      rw [h.none_live_of_absent habsent other (List.mem_of_getElem? hother)] at hlive
      cases hlive
    · rw [hnew] at hother
      exact ⟨rfl, (Option.some.inj hother).symm⟩
    · rw [List.getElem?_eq_none (by simp; omega)] at hother
      cases hother
  refine ⟨?_, ?_, ?_, ?_, ?_, ?_⟩
  · intro j other hother hlive
    obtain ⟨rfl, rfl⟩ := hcases hother hlive
    exact ⟨rfl, rfl⟩
  · intro hnone
    cases hnone .begun (by simp)
  · intro j hheld
    injection hheld with hj
    subst hj
    exact ⟨.begun, hnew, rfl, rfl⟩
  · intro j hawaited
    cases hawaited
  · intro j other hother hplace
    obtain ⟨-, rfl⟩ := hcases hother (isLive_of_asking hplace)
    cases hplace
  · exact h.served

/-- A call to disconnect ends. -/
theorem disconnect {trace : List Notice} (hnone : ∀ task ∈ watch.tasks, task.isLive = false) :
    Steady { watch with backend.available := false, monitor := .absent, trace } := by
  refine ⟨?_, h.lone, ?_, ?_, h.holding, h.served⟩
  · intro j other hother hlive
    rw [hnone other (List.mem_of_getElem? hother)] at hlive
    cases hlive
  · intro j hheld
    cases hheld
  · intro j hawaited
    cases hawaited

theorem of_step {turn : Turn} {next : Watch} (hstep : Step watch turn next) : next.Steady := by
  cases hstep with
  | still => exact h
  | connect habsent => exact h.connect habsent
  | @asked i task htask hplace hcancelled =>
      have hlive : task.isLive = true := by simp [Task.isLive, hplace]
      refine h.of_set htask hlive rfl rfl (h.live htask hlive).2 ?_ h.served
      -- a round begins with the connection that there is
      exact fun hasking => Place.asking.inj hasking
  | opened htask hplace hserver =>
      have hlive := isLive_of_asking hplace
      exact h.of_set htask hlive rfl rfl (h.live htask hlive).2 (fun _ => rfl) fun _ => hserver
  | answered htask hmay =>
      refine h.of_set htask (isLive_of_mayAnswer hmay) rfl rfl rfl ?_ h.served
      intro hasking
      cases hasking
  | cancel hheld htask hlive => exact h.cancel hheld htask hlive
  | ended htask hlive hcancelled => exact h.ended htask hlive hcancelled
  | disconnect _ hnone => exact h.disconnect hnone
  | served change => exact h.of_frame rfl rfl rfl rfl (by simp)
  | heard event => exact h.of_frame rfl rfl rfl rfl rfl
  | begun server answer hconnected hserver _ => exact h.of_frame rfl rfl rfl rfl hserver
  | missed hconnected => exact h.of_frame rfl rfl rfl rfl rfl
  | counted hcall hresult => exact h.of_frame rfl rfl rfl rfl rfl

theorem run (turns : List Turn) : (watch.run turns).Steady := by
  induction turns generalizing watch with
  | nil => exact h
  | cons turn turns ih => exact ih (h.of_step (h.step turn))

end Steady

theorem steady_run (settings : RedisSettings) (server : Option Database.Server)
    (keyPrefix : String) (opTimeout : Nat) (turns : List Turn) :
    ((ofSettings settings server keyPrefix opTimeout).run turns).Steady :=
  (steady_ofSettings settings server keyPrefix opTimeout).run turns

/-- What holds of a steady watch, and is kept by the steps of these turns, holds after them. -/
theorem run_induction {watch : Watch} (h : watch.Steady) {p : Watch → Prop} (hp : p watch)
    (turns : List Turn) (hstep : ∀ turn ∈ turns, ∀ {before after : Watch}, before.Steady →
      Step before turn after → p before → p after) : p (watch.run turns) := by
  induction turns generalizing watch with
  | nil => exact hp
  | cons turn turns ih =>
      have hnext := hstep turn List.mem_cons_self h (h.step turn) hp
      exact ih (h.of_step (h.step turn)) hnext fun later hlater =>
        hstep later (List.mem_cons_of_mem _ hlater)

end Throttle.Watch
