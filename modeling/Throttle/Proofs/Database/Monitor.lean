import Throttle.Proofs.Database.Steady

/-!
# What a task tells

A task that watches the server speaks after a round, if the outcome is news, and once more when it
ends.  The proofs read what was noted, newest first: each notice of a task is settled by those
before it.
-/

namespace Throttle.Watch

def lastWord (trace : List Notice) : Option ConnectionEvent := (trace.flatMap (·.told)).head?

def isFailure : ConnectionEvent → Bool
  | .failed _ => true
  | _ => false

/-- Whether a notice is what its occasion calls for.  A round that finds the listener as the last
word left it tells what is news; the end of a task is told without a connection; nobody else tells
more than one thing at a time. -/
def Notice.IsDue (earlier : List Notice) (notice : Notice) : Prop :=
  match notice.occasion with
  | .round i usable result =>
    usable = decide (lastWord earlier = some .ready) ∧
      notice.told = toldOfRound usable (hasFailed i earlier) result ∧
      .closed ∉ saidBy i earlier
  | .ended i connected => connected = false ∧ notice.told = [.closed] ∧ .closed ∉ saidBy i earlier
  | _ => notice.told.length ≤ 1

/-- Traces in which every notice is due. -/
inductive Orderly : List Notice → Prop where
  | nil : Orderly []
  | cons {notice : Notice} {earlier : List Notice} (hdue : notice.IsDue earlier)
      (hearlier : Orderly earlier) : Orderly (notice :: earlier)

section Trace

variable {i : Nat} {notice : Notice} {later earlier : List Notice}

theorem Orderly.of_append (h : Orderly (later ++ earlier)) : Orderly earlier := by
  induction later with
  | nil => exact h
  | cons notice later ih =>
      cases h with
      | cons _ hearlier => exact ih hearlier

theorem Orderly.isDue (h : Orderly (later ++ notice :: earlier)) : notice.IsDue earlier := by
  cases h.of_append with
  | cons hdue _ => exact hdue

theorem lastWord_cons : lastWord (notice :: earlier) = notice.told.head?.or (lastWord earlier) := by
  rw [lastWord, List.flatMap_cons, List.head?_append]
  rfl

theorem saidBy_cons : saidBy i (notice :: earlier) =
    (if notice.occasion.task? = some i then notice.told else []) ++ saidBy i earlier := by
  by_cases htask : notice.occasion.task? = some i
  · rw [if_pos htask, saidBy, List.filter_cons_of_pos (by simpa using htask), List.flatMap_cons]
    rfl
  · rw [if_neg htask, saidBy, List.filter_cons_of_neg (by simpa using htask)]
    rfl

theorem hasFailed_cons : hasFailed i (notice :: earlier) =
    (notice.occasion.failedRound? i).getD (hasFailed i earlier) := by
  rw [hasFailed, List.findSome?_cons]
  cases notice.occasion.failedRound? i <;> rfl

theorem failedRound?_of_task?_ne {occasion : Occasion} (h : occasion.task? ≠ some i) :
    occasion.failedRound? i = none := by
  cases occasion with
  | round task usable result => exact if_neg fun heq => h (congrArg some heq)
  | _ => rfl

theorem saidBy_cons_of_eq (h : notice.occasion.task? = some i) :
    saidBy i (notice :: earlier) = notice.told ++ saidBy i earlier := by
  rw [saidBy_cons, if_pos h]

theorem saidBy_cons_of_ne (h : notice.occasion.task? ≠ some i) :
    saidBy i (notice :: earlier) = saidBy i earlier := by
  rw [saidBy_cons, if_neg h, List.nil_append]

theorem hasFailed_cons_of_ne (h : notice.occasion.task? ≠ some i) :
    hasFailed i (notice :: earlier) = hasFailed i earlier := by
  rw [hasFailed_cons, failedRound?_of_task?_ne h, Option.getD_none]

theorem lastWord_ne_ready_of_notMem (htold : .ready ∉ notice.told)
    (h : lastWord earlier ≠ some .ready) : lastWord (notice :: earlier) ≠ some .ready := by
  rw [lastWord_cons]
  cases htoldEq : notice.told with
  | nil => exact h
  | cons event told =>
      intro heq
      obtain rfl : event = .ready := Option.some.inj heq
      exact htold (htoldEq ▸ List.mem_cons_self)

/-- After a round the last word is that the connection is ready just if the round was good. -/
theorem lastWord_round (failed : Bool) (result : Except LimiterError Unit) {usable : Bool}
    (husable : usable = decide (lastWord earlier = some .ready))
    (htold : notice.told = toldOfRound usable failed result) :
    decide (lastWord (notice :: earlier) = some .ready) = result.isOk := by
  rw [lastWord_cons, htold]
  cases result with
  | ok =>
      cases usable with
      | false => rfl
      | true => exact husable.symm
  | error error =>
      cases usable with
      | true => rfl
      | false =>
          cases failed with
          | false => rfl
          | true => exact husable.symm

theorem closed_notMem_toldOfRound (usable failed : Bool) (result : Except LimiterError Unit) :
    .closed ∉ toldOfRound usable failed result := by
  cases result <;> cases usable <;> cases failed <;> simp [toldOfRound]

/-- A task that has told its end has told it once, as its last word. -/
theorem Orderly.saidBy_eq (h : Orderly earlier) (hclosed : .closed ∈ saidBy i earlier) :
    ∃ before, saidBy i earlier = .closed :: before ∧ .closed ∉ before := by
  induction h with
  | nil => cases hclosed
  | @cons notice earlier hdue _ ih =>
      by_cases htask : notice.occasion.task? = some i
      -- a task that speaks has not told its end before, so that the notice itself tells it
      · rw [saidBy_cons_of_eq htask] at hclosed ⊢
        obtain ⟨occasion, told⟩ := notice
        cases occasion with
        | round task usable result =>
            injection htask with htask
            subst htask
            obtain ⟨-, htold, hopen⟩ := hdue
            rcases List.mem_append.1 hclosed with hmem | hmem
            · dsimp only at htold hmem
              rw [htold] at hmem
              exact absurd hmem (closed_notMem_toldOfRound _ _ _)
            · exact absurd hmem hopen
        | ended task connected =>
            injection htask with htask
            subst htask
            obtain ⟨-, htold, hopen⟩ := hdue
            dsimp only at htold ⊢
            exact ⟨_, by rw [htold, List.singleton_append], hopen⟩
        | disconnected => cases htask
        | counted usable result => cases htask
        | other => cases htask
      · rw [saidBy_cons_of_ne htask] at hclosed ⊢
        exact ih hclosed

/-- How far a streak of failed rounds of a task has come: it has not begun, or its first failure was
told and no other since. -/
inductive Streak (i : Nat) (earlier recent : List Notice) : Prop where
  | ahead (hnone : ∀ notice ∈ recent, notice.occasion.failedRound? i = none)
      (hcount : (saidBy i recent).countP isFailure = 0)
      (hfailed : hasFailed i (recent ++ earlier) = false)
  | told (hsome : ∃ notice ∈ recent, notice.occasion.failedRound? i = some true)
      (hcount : (saidBy i recent).countP isFailure = 1)
      (hfailed : hasFailed i (recent ++ earlier) = true)
      (hlast : lastWord (recent ++ earlier) ≠ some .ready)

section Streak

variable {recent : List Notice} (h : Streak i earlier recent)

include h

theorem Streak.other (htask : notice.occasion.task? ≠ some i) (hword : .ready ∉ notice.told) :
    Streak i earlier (notice :: recent) := by
  have hround := failedRound?_of_task?_ne htask
  cases h with
  | ahead hnone hcount hfailed =>
      refine .ahead (List.forall_mem_cons.2 ⟨hround, hnone⟩) ?_ ?_
      · rw [saidBy_cons_of_ne htask, hcount]
      · rw [List.cons_append, hasFailed_cons_of_ne htask, hfailed]
  | told hsome hcount hfailed hlast =>
      obtain ⟨round, hmem, hfailure⟩ := hsome
      refine .told ⟨round, List.mem_cons_of_mem _ hmem, hfailure⟩ ?_ ?_ ?_
      · rw [saidBy_cons_of_ne htask, hcount]
      · rw [List.cons_append, hasFailed_cons_of_ne htask, hfailed]
      · exact lastWord_ne_ready_of_notMem hword hlast

theorem Streak.ended (connected : Bool) :
    Streak i earlier (⟨.ended i connected, [.closed]⟩ :: recent) := by
  have hsaid : saidBy i (⟨.ended i connected, [.closed]⟩ :: recent) = .closed :: saidBy i recent :=
    saidBy_cons_of_eq rfl
  cases h with
  | ahead hnone hcount hfailed =>
      refine .ahead (List.forall_mem_cons.2 ⟨rfl, hnone⟩) ?_ ?_
      · rw [hsaid, List.countP_cons_of_neg (by decide), hcount]
      · rw [List.cons_append, hasFailed_cons]
        exact hfailed
  | told hsome hcount hfailed hlast =>
      obtain ⟨round, hmem, hfailure⟩ := hsome
      refine .told ⟨round, List.mem_cons_of_mem _ hmem, hfailure⟩ ?_ ?_ ?_
      · rw [hsaid, List.countP_cons_of_neg (by decide), hcount]
      · rw [List.cons_append, hasFailed_cons]
        exact hfailed
      · exact lastWord_ne_ready_of_notMem (by simp) hlast

/-- The first failed round is told, whoever has spoken before; the next ones find the listener as
the first has left it, and are not. -/
theorem Streak.round {usable : Bool} {error : LimiterError} {told : List ConnectionEvent}
    (husable : usable = decide (lastWord (recent ++ earlier) = some .ready))
    (htold : told = toldOfRound usable (hasFailed i (recent ++ earlier)) (.error error)) :
    Streak i earlier (⟨.round i usable (.error error), told⟩ :: recent) := by
  have hround : (Occasion.round i usable (.error error)).failedRound? i = some true := if_pos rfl
  have hsaid : saidBy i (⟨.round i usable (.error error), told⟩ :: recent) =
      told ++ saidBy i recent := saidBy_cons_of_eq rfl
  have hfailedNow : hasFailed i (⟨.round i usable (.error error), told⟩ :: (recent ++ earlier)) =
      true := by
    rw [hasFailed_cons, hround]
    rfl
  refine .told ⟨_, List.mem_cons_self, hround⟩ ?_ hfailedNow ?_
  · cases h with
    | ahead hnone hcount hfailed =>
        have hfirst : told = [.failed error.message] := by
          rw [htold, hfailed]
          cases usable <;> rfl
        rw [hsaid, hfirst, List.singleton_append, List.countP_cons_of_pos rfl, hcount]
    | told hsome hcount hfailed hlast =>
        -- nobody has said since that the connection is ready
        have hsilent : told = [] := by
          rw [htold, hfailed, husable, decide_eq_false hlast]
          rfl
        rw [hsaid, hsilent, List.nil_append, hcount]
  · have hlast : decide (lastWord (⟨.round i usable (.error error), told⟩ :: (recent ++ earlier)) =
        some .ready) = false :=
      lastWord_round (hasFailed i (recent ++ earlier)) (.error error) husable htold
    exact of_decide_eq_false hlast

end Streak

/-- In a streak of failures, with no word from others that the connection is ready, a task tells
the first failure and no other. -/
theorem Orderly.streak {recent : List Notice} (h : Orderly (recent ++ earlier))
    (hbefore : hasFailed i earlier = false)
    (hothers : ∀ notice ∈ recent, notice.occasion.task? ≠ some i → .ready ∉ notice.told)
    (hstreak : ∀ notice ∈ recent, notice.occasion.failedRound? i ≠ some false) :
    Streak i earlier recent := by
  induction recent with
  | nil => exact .ahead (by simp) rfl hbefore
  | cons notice recent ih =>
      cases h with
      | cons hdue horderly =>
      rw [List.forall_mem_cons] at hothers hstreak
      have hsofar := ih horderly hothers.2 hstreak.2
      by_cases htask : notice.occasion.task? = some i
      · obtain ⟨occasion, told⟩ := notice
        cases occasion with
        | round task usable result =>
            injection htask with htask
            subst htask
            obtain ⟨husable, htold, -⟩ := hdue
            cases result with
            | ok => exact absurd (if_pos rfl) hstreak.1
            | error error => exact hsofar.round husable htold
        | ended task connected =>
            injection htask with htask
            subst htask
            obtain ⟨-, htold, -⟩ := hdue
            dsimp only at htold
            subst htold
            exact hsofar.ended connected
        | disconnected => cases htask
        | counted usable result => cases htask
        | other => cases htask
      · exact hsofar.other htask (hothers.1 htask)

theorem hasFailed_of_forall (h : ∀ notice ∈ earlier, notice.occasion.task? ≠ some i) :
    hasFailed i earlier = false := by
  have hnone : earlier.findSome? (·.occasion.failedRound? i) = none :=
    List.findSome?_eq_none_iff.2 fun notice hnotice => failedRound?_of_task?_ne (h notice hnotice)
  rw [hasFailed, hnone]
  rfl

theorem saidBy_of_forall (h : ∀ notice ∈ earlier, notice.occasion.task? ≠ some i) :
    saidBy i earlier = [] := by
  have hnone : earlier.filter (·.occasion.task? = some i) = [] :=
    List.filter_eq_nil_iff.2 fun notice hnotice => by simpa using h notice hnotice
  rw [saidBy, hnone]
  rfl

end Trace

/-- What was told fits the listener and the tasks. -/
structure Told (watch : Watch) : Prop where
  orderly : Orderly watch.trace
  available : watch.backend.available = decide (lastWord watch.trace = some .ready)
  unborn : ∀ {i : Nat}, watch.tasks[i]? = none →
    ∀ notice ∈ watch.trace, notice.occasion.task? ≠ some i
  failed : ∀ {i : Nat} {task : Task}, watch.tasks[i]? = some task →
    task.failed = hasFailed i watch.trace
  closed : ∀ {i : Nat} {task : Task}, watch.tasks[i]? = some task →
    (.closed ∈ saidBy i watch.trace ↔ task.isLive = false)

theorem told_ofSettings (settings : RedisSettings) (server : Option Database.Server)
    (keyPrefix : String) (opTimeout : Nat) :
    (ofSettings settings server keyPrefix opTimeout).Told where
  orderly := .nil
  available := rfl
  unborn _ := by simp [ofSettings]
  failed h := by cases h
  closed h := by cases h

namespace Told

variable {watch : Watch} (h : watch.Told)

include h

theorem of_frame {next : Watch} (htrace : next.trace = watch.trace)
    (htasks : next.tasks = watch.tasks)
    (havailable : next.backend.available = watch.backend.available) : next.Told where
  orderly := htrace ▸ h.orderly
  available := by
    rw [havailable, htrace]
    exact h.available
  unborn := by
    rw [htasks, htrace]
    exact h.unborn
  failed := by
    rw [htasks, htrace]
    exact h.failed
  closed := by
    rw [htasks, htrace]
    exact h.closed

/-- A task goes on, and nothing is told. -/
theorem of_set {i : Nat} {task next : Task} {backend : SharedBackend RedisCounter}
    {monitor : Monitor} (htask : watch.tasks[i]? = some task) (hfailed : next.failed = task.failed)
    (hlive : next.isLive = task.isLive) (havailable : backend.available = watch.backend.available) :
    Told { watch with backend, monitor, tasks := watch.tasks.set i next } where
  orderly := h.orderly
  available := havailable.trans h.available
  unborn := by
    intro j hnone
    exact h.unborn (by simpa using hnone)
  failed := by
    intro j other hother
    rcases getElem?_set_cases hother with ⟨rfl, rfl⟩ | ⟨-, hother⟩
    · exact hfailed.trans (h.failed htask)
    · exact h.failed hother
  closed := by
    intro j other hother
    rcases getElem?_set_cases hother with ⟨rfl, rfl⟩ | ⟨-, hother⟩
    · rw [hlive]
      exact h.closed htask
    · exact h.closed hother

/-- Something is told that is not by a task. -/
theorem of_other {next : Watch} {notice : Notice} (htrace : next.trace = notice :: watch.trace)
    (htasks : next.tasks = watch.tasks) (hother : notice.occasion.task? = none)
    (hdue : notice.IsDue watch.trace)
    (havailable : next.backend.available =
      decide (lastWord (notice :: watch.trace) = some .ready)) : next.Told where
  orderly := htrace ▸ .cons hdue h.orderly
  available := htrace ▸ havailable
  unborn := by
    intro i hnone
    rw [htasks] at hnone
    rw [htrace, List.forall_mem_cons]
    exact ⟨by rw [hother]; simp, h.unborn hnone⟩
  failed := by
    intro i task htask
    rw [htasks] at htask
    rw [htrace, hasFailed_cons_of_ne (by rw [hother]; simp)]
    exact h.failed htask
  closed := by
    intro i task htask
    rw [htasks] at htask
    rw [htrace, saidBy_cons_of_ne (by rw [hother]; simp)]
    exact h.closed htask

/-- A task tells something. -/
theorem of_task {i : Nat} {task next : Task} {notice : Notice}
    {backend : SharedBackend RedisCounter} (htask : watch.tasks[i]? = some task)
    (hnotice : notice.occasion.task? = some i) (hdue : notice.IsDue watch.trace)
    (havailable : backend.available = decide (lastWord (notice :: watch.trace) = some .ready))
    (hfailed : next.failed = hasFailed i (notice :: watch.trace))
    (hclosed : .closed ∈ saidBy i (notice :: watch.trace) ↔ next.isLive = false) :
    Told { watch with
      backend, tasks := watch.tasks.set i next, trace := notice :: watch.trace } where
  orderly := .cons hdue h.orderly
  available := havailable
  unborn := by
    intro j hnone
    have hnone : watch.tasks[j]? = none := by simpa using hnone
    rw [List.forall_mem_cons]
    refine ⟨?_, h.unborn hnone⟩
    rintro heq
    rw [hnotice] at heq
    injection heq with heq
    rw [← heq, htask] at hnone
    cases hnone
  failed := by
    intro j other hother
    rcases getElem?_set_cases hother with ⟨rfl, rfl⟩ | ⟨hne, hother⟩
    · exact hfailed
    · rw [hasFailed_cons_of_ne fun heq => hne (Option.some.inj (heq.symm.trans hnotice))]
      exact h.failed hother
  closed := by
    intro j other hother
    rcases getElem?_set_cases hother with ⟨rfl, rfl⟩ | ⟨hne, hother⟩
    · exact hclosed
    · rw [saidBy_cons_of_ne fun heq => hne (Option.some.inj (heq.symm.trans hnotice))]
      exact h.closed hother

theorem connect {backend : SharedBackend RedisCounter}
    (havailable : backend.available = watch.backend.available) (monitor : Monitor) :
    Told { watch with backend, monitor, tasks := watch.tasks ++ [.begun] } := by
  have hcases : ∀ {i : Nat} {task : Task}, (watch.tasks ++ [Task.begun])[i]? = some task →
      watch.tasks[i]? = some task ∨ watch.tasks[i]? = none ∧ task = .begun := by
    intro i task htask
    by_cases hlt : i < watch.tasks.length
    · rw [List.getElem?_append_left hlt] at htask
      exact .inl htask
    · have hge := Nat.le_of_not_lt hlt
      rw [List.getElem?_append_right hge] at htask
      refine .inr ⟨List.getElem?_eq_none hge, ?_⟩
      exact List.mem_singleton.1 (List.mem_of_getElem? htask)
  refine ⟨h.orderly, havailable.trans h.available, ?_, ?_, ?_⟩
  · intro i hnone
    refine h.unborn (List.getElem?_eq_none ?_)
    have hlength := List.getElem?_eq_none_iff.1 hnone
    rw [List.length_append] at hlength
    omega
  · intro i task htask
    rcases hcases htask with htask | ⟨hnone, rfl⟩
    · exact h.failed htask
    · exact (hasFailed_of_forall (h.unborn hnone)).symm
  · intro i task htask
    rcases hcases htask with htask | ⟨hnone, rfl⟩
    · exact h.closed htask
    · show .closed ∈ saidBy i watch.trace ↔ _
      rw [saidBy_of_forall (h.unborn hnone)]
      exact iff_of_false List.not_mem_nil (by decide)

theorem of_step {turn : Turn} {next : Watch} (hstep : Step watch turn next) : next.Told := by
  cases hstep with
  | still => exact h
  | connect =>
      apply h.connect
      rfl
  | asked htask hplace => exact h.of_set htask rfl (by simp [Task.isLive, hplace]) rfl
  | opened htask hplace => exact h.of_set htask rfl (by simp [Task.isLive, hplace]) rfl
  | @answered i task result htask hmay =>
      have hopen : .closed ∉ saidBy i watch.trace := by
        rw [h.closed htask, isLive_of_mayAnswer hmay]
        simp
      have hround : (Occasion.round i watch.backend.available result).failedRound? i =
          some (!result.isOk) := if_pos rfl
      have htold := closed_notMem_toldOfRound watch.backend.available task.failed result
      apply h.of_task htask rfl
      · exact ⟨h.available, by rw [h.failed htask], hopen⟩
      · exact (lastWord_round task.failed result h.available rfl).symm
      · rw [hasFailed_cons, hround]
        rfl
      · rw [saidBy_cons_of_eq rfl, List.mem_append]
        exact iff_of_false (not_or.2 ⟨htold, hopen⟩) (by simp [Task.isLive])
  | cancel hheld htask hlive => exact h.of_set htask rfl rfl rfl
  | @ended i task htask hlive hcancelled =>
      have hopen : .closed ∉ saidBy i watch.trace := by
        rw [h.closed htask, hlive]
        simp
      apply h.of_task htask rfl
      · exact ⟨rfl, rfl, hopen⟩
      · simp [lastWord_cons]
      · rw [hasFailed_cons]
        exact (h.failed htask :)
      · rw [saidBy_cons_of_eq rfl]
        exact iff_of_true (by simp) rfl
  | disconnect =>
      refine h.of_other (by rfl) (by rfl) (by rfl) ?_ ?_
      · show List.length _ ≤ 1
        split <;> simp
      · rw [lastWord_cons, h.available]
        by_cases hready : lastWord watch.trace = some .ready <;> simp [hready]
  | served => exact h.of_frame rfl rfl rfl
  | heard event =>
      refine h.of_other (by rfl) (by rfl) (by rfl) ?_ ?_
      · simp [Notice.IsDue]
      · rw [lastWord_cons]
        cases event <;> simp [ConnectionEvent.isReady]
  | begun => exact h.of_frame rfl rfl rfl
  | missed =>
      refine h.of_other (by rfl) (by rfl) (by rfl) ?_ ?_
      · simp [Notice.IsDue]
      · simp [lastWord_cons]
  | @counted n ending call result hcall hresult =>
      refine h.of_other (by rfl) (by rfl) (by rfl) ?_ ?_
      · show (toldOfCount result).length ≤ 1
        cases result <;> simp [toldOfCount]
      · rw [lastWord_cons]
        cases result with
        | ok count =>
            show (watch.backend.available && true) = _
            rw [Bool.and_true]
            exact h.available
        | error error => simp [toldOfCount, Except.isOk, Except.toBool]

end Told

theorem told_run (settings : RedisSettings) (server : Option Database.Server)
    (keyPrefix : String) (opTimeout : Nat) (turns : List Turn) :
    ((ofSettings settings server keyPrefix opTimeout).run turns).Told :=
  run_induction (steady_ofSettings settings server keyPrefix opTimeout)
    (told_ofSettings settings server keyPrefix opTimeout) turns
    fun _ _ _ _ _ hstep h => h.of_step hstep

/-! ## The main statement -/

theorem turn_answered {watch : Watch} {i : Nat} {task : Task} {result : Except LimiterError Unit}
    (htask : watch.tasks[i]? = some task) (hmay : task.place.mayAnswer result = true) :
    (watch.turn (.answered i result)).backend.available = result.isOk ∧
      (watch.turn (.answered i result)).trace = ⟨.round i watch.backend.available result,
        toldOfRound watch.backend.available task.failed result⟩ :: watch.trace := by
  simp only [turn, withTask, htask, if_pos hmay, take, noteRound_state, noteRound_told, and_self]

theorem turn_ended {watch : Watch} (h : watch.Steady) {i : Nat} {task : Task}
    (htask : watch.tasks[i]? = some task) (hlive : task.isLive = true)
    (hcancelled : task.cancelled = true) :
    watch.turn (.ended i) = { watch with
      backend := { watch.backend with
        counter.connected := false
        counter.watching := none
        available := false }
      tasks := watch.tasks.set i { task with place := .ended }
      trace := ⟨.ended i false, [.closed]⟩ :: watch.trace } := by
  have hmay : (task.isLive && task.cancelled) = true := by rw [hlive, hcancelled, Bool.and_true]
  have hwatching := (h.live htask hlive).2
  simp only [turn, withTask, htask, if_pos hmay, take, leave_state _ hwatching,
    leave_told _ hwatching]

/-- What the tasks tell, whatever turns come, with whatever the listener is told by others.  The
backend is usable just if the last word was that the connection is ready.  A round leaves the
listener as the round went, and tells only what is news.  In a streak of failures with no word from
others that the connection is ready, the first failure is told and no other.  A task that lives has
not told its end; once cancelled it may end in every place, and does so after the connection was
dropped; its end is then the last that it has told. -/
theorem task_tells_news_and_end (settings : RedisSettings) (server : Option Database.Server)
    (keyPrefix : String) (opTimeout : Nat) (turns : List Turn) (i : Nat) :
    let watch := (ofSettings settings server keyPrefix opTimeout).run turns
    watch.backend.available = decide (lastWord watch.trace = some .ready) ∧
    (∀ later notice earlier, watch.trace = later ++ notice :: earlier →
      notice.occasion.task? = some i → notice.IsDue earlier) ∧
    (∀ task result, watch.tasks[i]? = some task → task.place.mayAnswer result = true →
      (watch.turn (.answered i result)).backend.available = result.isOk ∧
      (watch.turn (.answered i result)).trace = ⟨.round i watch.backend.available result,
        toldOfRound watch.backend.available (hasFailed i watch.trace) result⟩ :: watch.trace) ∧
    (∀ recent earlier, watch.trace = recent ++ earlier → hasFailed i earlier = false →
      (∀ notice ∈ recent, notice.occasion.task? ≠ some i → .ready ∉ notice.told) →
      (∀ notice ∈ recent, notice.occasion.failedRound? i ≠ some false) →
      (∃ notice ∈ recent, notice.occasion.failedRound? i = some true) →
      (saidBy i recent).countP isFailure = 1) ∧
    (∀ task, watch.tasks[i]? = some task → task.isLive = true →
      .closed ∉ saidBy i watch.trace ∧
      (task.cancelled = true →
        (watch.turn (.ended i)).backend.counter.connected = false ∧
        (watch.turn (.ended i)).backend.available = false ∧
        (watch.turn (.ended i)).trace = ⟨.ended i false, [.closed]⟩ :: watch.trace)) ∧
    (∀ task, watch.tasks[i]? = some task → task.isLive = false →
      ∃ before, saidBy i watch.trace = .closed :: before ∧ .closed ∉ before) := by
  intro watch
  have hsteady : watch.Steady := steady_run settings server keyPrefix opTimeout turns
  have htold : watch.Told := told_run settings server keyPrefix opTimeout turns
  refine ⟨htold.available, ?_, ?_, ?_, ?_, ?_⟩
  · intro later notice earlier htrace _
    exact (htrace ▸ htold.orderly).isDue
  · intro task result htask hmay
    rw [← htold.failed htask]
    exact turn_answered htask hmay
  · intro recent earlier htrace hbefore hothers hstreak hsome
    obtain ⟨round, hround, hfailure⟩ := hsome
    cases (htrace ▸ htold.orderly).streak hbefore hothers hstreak with
    | ahead hnone =>
        rw [hnone round hround] at hfailure
        cases hfailure
    | told _ hcount => exact hcount
  · intro task htask hlive
    refine ⟨?_, fun hcancelled => ?_⟩
    · rw [htold.closed htask, hlive]
      simp
    · rw [turn_ended hsteady htask hlive hcancelled]
      exact ⟨rfl, rfl, rfl⟩
  · intro task htask hended
    exact htold.orderly.saidBy_eq ((htold.closed htask).2 hended)

/-- A server that becomes ready and then fails twice is told of twice; the task is cancelled in its
next round. -/
theorem task_tells_news_and_end_of_a_task :
    let failure : Except LimiterError Unit := .error .notConnected
    let turns : List Turn := [.connect, .asked 0, .opened 0, .answered 0 (.ok ()), .asked 0,
      .answered 0 failure, .asked 0, .answered 0 failure, .asked 0]
    let watch := (ofSettings default (some {}) "" 0).run turns
    let cancelled := (ofSettings default (some {}) "" 0).run (turns ++ [.disconnect])
    let ended := (ofSettings default (some {}) "" 0).run (turns ++ [.disconnect, .ended 0])
    (watch.turn (.answered 0 failure)).backend.available = false ∧
    (saidBy 0 (watch.trace.take 2)).countP isFailure = 1 ∧
    (cancelled.turn (.ended 0)).trace = ⟨.ended 0 false, [.closed]⟩ :: cancelled.trace ∧
    ∃ before, saidBy 0 ended.trace = .closed :: before ∧ before.length = 2 ∧ .closed ∉ before := by
  intro failure turns watch cancelled ended
  obtain ⟨-, -, hround, hstreak, -, -⟩ :=
    task_tells_news_and_end default (some {}) "" 0 turns 0
  obtain ⟨-, -, -, -, hlive, -⟩ :=
    task_tells_news_and_end default (some {}) "" 0 (turns ++ [.disconnect]) 0
  obtain ⟨-, -, -, -, -, hended⟩ :=
    task_tells_news_and_end default (some {}) "" 0 (turns ++ [.disconnect, .ended 0]) 0
  have hwatch : watch.tasks[0]? = some ⟨.asking true, true, false⟩ := by decide +kernel
  have hcancelled : cancelled.tasks[0]? = some ⟨.asking true, true, true⟩ := by decide +kernel
  have hlast : ended.tasks[0]? = some ⟨.ended, true, true⟩ := by decide +kernel
  have hlength : (saidBy 0 ended.trace).length = 3 := by decide +kernel
  obtain ⟨before, hsaid, honce⟩ := hended _ hlast rfl
  refine ⟨(hround _ failure hwatch rfl).1, ?_, ((hlive _ hcancelled rfl).2 rfl).2.2,
    before, hsaid, ?_, honce⟩
  · exact hstreak (watch.trace.take 2) (watch.trace.drop 2) (List.take_append_drop 2 _).symm
      (by decide +kernel) (by decide +kernel) (by decide +kernel) (by decide +kernel)
  · rw [hsaid, List.length_cons] at hlength
    exact Nat.succ.inj hlength

end Throttle.Watch
