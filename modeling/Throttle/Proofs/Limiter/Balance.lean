import Mathlib.Data.List.Perm.Basic
import Throttle.Proofs.Limiter.Lifetime
import Throttle.Settings.Resolve
import Throttle.Shared.Scripted

/-!
# The balance of starts and stops

However starts and stops overlap, no sweep task is lost: every one that was begun was counted at its
end, or is on its way to that, or is the one of the running limiter; and the shared counter was
connected and disconnected as often as tasks were begun and counted.

The order of those calls is another matter.  A start that takes effect while a call to stop still
waits for its task is overtaken by it: the counter is connected first and disconnected then, and the
limiter runs on without it.  Apart from that, a limiter at rest is connected exactly if it runs.
-/

namespace Throttle

namespace Lifetime

variable {κ : Type}

/-- What holds between any two turns of a limiter of some settings that has an account. -/
structure Balance (settings : Settings) (account : Account) (lifetime : Lifetime κ) : Prop where
  isSome_orders : account.orders.isSome = settings.usesShared
  created_eq : account.created = account.cancelled + account.running.toNat + lifetime.endings
  length_eq : lifetime.cancelled.length = account.created
  count_false : lifetime.cancelled.count false = account.running.toNat
  held : account.running = true →
    ∃ place, lifetime.held = some place ∧ lifetime.cancelled[place]? = some false
  counts : ∀ orders ∈ account.orders,
    orders.count .connect = account.created ∧ orders.count .disconnect = account.cancelled
  last : ∀ orders ∈ account.orders,
    (orders.head? = some .connect ↔ account.listening = true)
  /-- A limiter that runs since a start that was not overtaken is connected. -/
  connected : account.running = true → lifetime.overtaken = false →
    lifetime.endings = 0 ∧ account.listening = true
  /-- Any other limiter is connected at most until its calls to stop have done their part. -/
  disconnected : lifetime.endings = 0 →
    ¬ (account.running = true ∧ lifetime.overtaken = false) → account.listening = false

def Balanced (settings : Settings) (lifetime : Lifetime κ) : Prop :=
  Balance settings lifetime.session.account lifetime

variable {settings : Settings} {lifetime : Lifetime κ}

/-- The balance reads of the session no more than its account. -/
theorem Balanced.of_account_eq (hbalanced : Balanced settings lifetime)
    {session : Session (Observed κ)} (haccount : session.account = lifetime.session.account) :
    Balanced settings { lifetime with session } := by
  unfold Balanced at hbalanced ⊢
  dsimp only
  rw [haccount]
  exact { hbalanced with }

section Stops

variable {stops : List Stopping} {place : Nat}

theorem countP_set_closing {task : SweepTask} (hplace : stops[place]? = some (.ending task)) :
    stops.countP (·.isEnding) = (stops.set place .closing).countP (·.isEnding) + 1 := by
  obtain ⟨hlt, hget⟩ := List.getElem?_eq_some_iff.1 hplace
  have hpos : 0 < stops.countP (·.isEnding) :=
    List.countP_pos_iff.2 ⟨_, List.mem_of_getElem? hplace, rfl⟩
  rw [List.countP_set hlt, hget]
  show stops.countP (·.isEnding) = stops.countP (·.isEnding) - 1 + 0 + 1
  omega

theorem countP_eraseIdx_closing (hplace : stops[place]? = some .closing) :
    (stops.eraseIdx place).countP (·.isEnding) = stops.countP (·.isEnding) := by
  obtain ⟨hlt, hget⟩ := List.getElem?_eq_some_iff.1 hplace
  have hperm := List.getElem_cons_eraseIdx_perm hlt
  rw [hget] at hperm
  rw [← hperm.countP_eq, List.countP_cons_of_neg]
  decide

end Stops

theorem count_false_set {cancelled : List Bool} {place : Nat}
    (hplace : cancelled[place]? = some false) :
    (cancelled.set place true).count false = cancelled.count false - 1 := by
  obtain ⟨hlt, hget⟩ := List.getElem?_eq_some_iff.1 hplace
  rw [List.count_set hlt, hget]
  rfl

theorem balanced_ofSettings (settings : Settings) (counter : κ) (sweepInterval : Nat) :
    Balanced settings (ofSettings settings counter sweepInterval) := by
  cases huses : settings.usesShared <;>
    constructor <;> simp [ofSettings, Session.ofSettings, Limiter.build, Session.account,
      Limiter.isRunning, endings, huses]

section Step

variable [SharedCounter κ]

theorem Balanced.start (hbalanced : Balanced settings lifetime) (time : Nat) :
    Balanced settings (lifetime.start time) := by
  unfold Lifetime.start
  cases hrunning : lifetime.isRunning with
  | true =>
      rw [if_pos rfl, Session.start_of_running _ _ hrunning]
      exact hbalanced
  | false =>
      rw [if_neg (by simp)]
      have hstopped : lifetime.session.account.running = false := hrunning
      have hcreated := hbalanced.created_eq
      have hcount := hbalanced.count_false
      rw [hstopped, Bool.toNat_false] at hcreated hcount
      unfold Balanced
      dsimp only
      rw [lifetime.session.account_start time hrunning]
      exact
        { isSome_orders := by
            rw [Option.isSome_map]
            exact hbalanced.isSome_orders
          created_eq := by
            show lifetime.session.account.created + 1 =
              lifetime.session.account.cancelled + 1 + lifetime.endings
            omega
          length_eq := by
            rw [List.length_append, hbalanced.length_eq, List.length_singleton]
          count_false := by
            rw [List.count_append, hcount]
            rfl
          held := fun _ => ⟨lifetime.cancelled.length, rfl, by simp⟩
          counts := by
            intro orders horders
            obtain ⟨before, hbefore, rfl⟩ := Option.map_eq_some_iff.1 horders
            obtain ⟨hconnects, hdisconnects⟩ := hbalanced.counts before hbefore
            refine ⟨?_, ?_⟩
            · rw [List.count_cons_self, hconnects]
            · rw [List.count_cons_of_ne (by decide), hdisconnects]
          last := by
            intro orders horders
            obtain ⟨before, hbefore, rfl⟩ := Option.map_eq_some_iff.1 horders
            simp
          connected := by
            intro _ hovertaken
            have hnone : decide (lifetime.endings ≠ 0) = false := hovertaken
            refine ⟨?_, rfl⟩
            show lifetime.endings = 0
            simpa using hnone
          disconnected := by
            intro hnone hnot
            have hfree : lifetime.endings = 0 := hnone
            exact absurd ⟨rfl, by simp [hfree]⟩ hnot }

omit [SharedCounter κ] in
theorem Balanced.stop (hbalanced : Balanced settings lifetime) :
    Balanced settings lifetime.stop := by
  have haccount := lifetime.session.account_takeTask
  unfold Lifetime.stop
  cases hlifecycle : lifetime.session.limiter.lifecycle with
  | stopped =>
      have hnone : lifetime.session.limiter.takeTask.value = none := by
        rw [Limiter.takeTask, hlifecycle]
      have hstopped : lifetime.session.account.running = false := by
        rw [Session.account, Limiter.isRunning, hlifecycle]
      rw [hnone]
      refine hbalanced.of_account_eq ?_
      rw [haccount, ← hstopped]
  | running task =>
      have hsome : lifetime.session.limiter.takeTask.value = some task := by
        rw [Limiter.takeTask, hlifecycle]
      have hrunning : lifetime.session.account.running = true := by
        rw [Session.account, Limiter.isRunning, hlifecycle]
      obtain ⟨place, hheld, hplace⟩ := hbalanced.held hrunning
      have hcreated := hbalanced.created_eq
      have hcount := hbalanced.count_false
      have hone : (lifetime.stops ++ [Stopping.ending task]).countP (·.isEnding) =
          lifetime.endings + 1 := by
        rw [List.countP_append]
        rfl
      rw [hrunning, Bool.toNat_true] at hcreated hcount
      unfold Balanced
      rw [hsome, hheld]
      dsimp only [Option.elim_some]
      rw [haccount]
      exact
        { isSome_orders := hbalanced.isSome_orders
          created_eq := by
            show lifetime.session.account.created = lifetime.session.account.cancelled + 0 +
              (lifetime.stops ++ [Stopping.ending task]).countP (·.isEnding)
            omega
          length_eq := by
            rw [List.length_set]
            exact hbalanced.length_eq
          count_false := by
            rw [count_false_set hplace, hcount]
            rfl
          held := fun hfalse => absurd hfalse Bool.false_ne_true
          counts := hbalanced.counts
          last := hbalanced.last
          connected := fun hfalse => absurd hfalse Bool.false_ne_true
          disconnected := by
            intro hnone
            have hpositive : (lifetime.stops ++ [Stopping.ending task]).countP (·.isEnding) = 0 :=
              hnone
            omega }

theorem Balanced.taskEnded (hbalanced : Balanced settings lifetime) {place : Nat} {task : SweepTask}
    (hplace : lifetime.stops[place]? = some (.ending task)) :
    Balanced settings { lifetime with
      session := lifetime.session.leave task, stops := lifetime.stops.set place .closing } := by
  have hone : lifetime.endings = (lifetime.stops.set place .closing).countP (·.isEnding) + 1 :=
    countP_set_closing hplace
  have hcreated := hbalanced.created_eq
  unfold Balanced
  dsimp only
  rw [lifetime.session.account_leave task]
  exact
    { isSome_orders := by
        rw [Option.isSome_map]
        exact hbalanced.isSome_orders
      created_eq := by
        show lifetime.session.account.created = lifetime.session.account.cancelled + 1 +
          lifetime.session.account.running.toNat +
            (lifetime.stops.set place .closing).countP (·.isEnding)
        omega
      length_eq := hbalanced.length_eq
      count_false := hbalanced.count_false
      held := hbalanced.held
      counts := by
        intro orders horders
        obtain ⟨before, hbefore, rfl⟩ := Option.map_eq_some_iff.1 horders
        obtain ⟨hconnects, hdisconnects⟩ := hbalanced.counts before hbefore
        refine ⟨?_, ?_⟩
        · rw [List.count_cons_of_ne (by decide), hconnects]
        · rw [List.count_cons_self, hdisconnects]
      last := by
        intro orders horders
        obtain ⟨before, hbefore, rfl⟩ := Option.map_eq_some_iff.1 horders
        simp
      connected := by
        -- If the start was not overtaken, no call to stop is left that waits for its task.
        intro hrunning hovertaken
        have hnone := (hbalanced.connected hrunning hovertaken).1
        omega
      disconnected := fun _ _ => rfl }

omit [SharedCounter κ] in
theorem Balanced.disconnect (hbalanced : Balanced settings lifetime) {place : Nat}
    (hplace : lifetime.stops[place]? = some .closing) :
    Balanced settings { lifetime with
      session := lifetime.session.close, stops := lifetime.stops.eraseIdx place } := by
  have hsame : (lifetime.stops.eraseIdx place).countP (·.isEnding) = lifetime.endings :=
    countP_eraseIdx_closing hplace
  unfold Balanced
  dsimp only
  rw [lifetime.session.account_close]
  exact
    { hbalanced with
      created_eq := by
        rw [endings, hsame]
        exact hbalanced.created_eq
      connected := by
        rw [endings, hsame]
        exact hbalanced.connected
      disconnected := by
        rw [endings, hsame]
        exact hbalanced.disconnected }

theorem Balanced.step (hbalanced : Balanced settings lifetime) (turn : Turn κ) :
    Balanced settings (lifetime.step turn) := by
  cases turn with
  | act timed =>
      unfold Lifetime.step
      dsimp only
      split
      · exact hbalanced.start timed.time
      · exact hbalanced.stop
      · next hstart hstop =>
        exact hbalanced.of_account_eq (lifetime.session.account_step timed hstart hstop)
  | taskEnded place =>
      unfold Lifetime.step
      dsimp only
      split
      · next task hplace => exact hbalanced.taskEnded hplace
      · exact hbalanced
  | disconnected place =>
      unfold Lifetime.step
      dsimp only
      split
      · next hplace => exact hbalanced.disconnect hplace
      · exact hbalanced
  | taskDied => exact hbalanced.of_account_eq lifetime.session.account_loseTask

theorem balanced_run (settings : Settings) (counter : κ) (sweepInterval : Nat)
    (turns : List (Turn κ)) :
    Balanced settings ((ofSettings settings counter sweepInterval).run turns) := by
  induction turns using List.reverseRecOn with
  | nil => exact balanced_ofSettings settings counter sweepInterval
  | append_singleton turns last ih =>
      rw [run_concat]
      exact ih.step last

end Step

section Result

theorem Balanced.isSome_shared (hbalanced : Balanced settings lifetime) :
    lifetime.session.limiter.shared.isSome = settings.usesShared := by
  rw [← hbalanced.isSome_orders, Session.account, Option.isSome_map]

theorem Balanced.orders_eq (hbalanced : Balanced settings lifetime)
    (hshared : settings.usesShared = true) :
    lifetime.session.account.orders = some lifetime.session.orders := by
  obtain ⟨backend, hbackend⟩ :=
    Option.isSome_iff_exists.1 (hbalanced.isSome_shared.trans hshared)
  rw [Session.account, Session.orders, hbackend]
  rfl

variable [SharedCounter κ]

/-- However starts, stops, deaths of the sweep task and all else come, every sweep task that was
begun was counted at its end, waits to be, or is the one of the running limiter, which alone is not
cancelled; and the shared counter was told to connect and to disconnect as often.  A start of a
limiter that runs and a stop of one that does not change nothing. -/
theorem lifecycle_balance (settings : Settings) (counter : κ) (sweepInterval : Nat)
    (turns : List (Turn κ)) :
    let lifetime := (ofSettings settings counter sweepInterval).run turns
    let limiter := lifetime.session.limiter
    limiter.timersCreated =
        limiter.timersCancelled + (if limiter.isRunning then 1 else 0) + lifetime.endings ∧
      lifetime.cancelled.length = limiter.timersCreated ∧
      lifetime.cancelled.count false = (if limiter.isRunning then 1 else 0) ∧
      (lifetime.stops = [] →
        limiter.timersCreated - limiter.timersCancelled = if limiter.isRunning then 1 else 0) ∧
      limiter.shared.isSome = settings.usesShared ∧
      (settings.usesShared = true →
        lifetime.session.orders.count .connect = limiter.timersCreated ∧
          lifetime.session.orders.count .disconnect = limiter.timersCancelled) ∧
      (limiter.isRunning = true → ∀ time, lifetime.step (.act ⟨time, .start⟩) = lifetime) ∧
      (limiter.isRunning = false → ∀ time, lifetime.step (.act ⟨time, .stop⟩) = lifetime) := by
  intro lifetime limiter
  have hbalanced : Balanced settings lifetime := balanced_run settings counter sweepInterval turns
  have hone : limiter.isRunning.toNat = if limiter.isRunning then 1 else 0 := by
    cases limiter.isRunning <;> rfl
  have hcreated : limiter.timersCreated =
      limiter.timersCancelled + (if limiter.isRunning then 1 else 0) + lifetime.endings := by
    rw [← hone]
    exact hbalanced.created_eq
  refine ⟨hcreated, hbalanced.length_eq, hone ▸ hbalanced.count_false, ?_,
    hbalanced.isSome_shared, ?_, step_start_of_running, step_stop_of_stopped⟩
  · intro hreturned
    have hnone : lifetime.endings = 0 := by rw [endings, hreturned, List.countP_nil]
    omega
  · intro hshared
    exact hbalanced.counts lifetime.session.orders (hbalanced.orders_eq hshared)

/-- Two calls to stop wait for their tasks, of which the second has died, while the limiter runs for
the third time; then both return. -/
theorem lifecycle_balance_while_stopping :
    let settings := (Settings.resolve (.ofList [("RATE_LIMIT_STORE", "shared")])).value
    let turns : List (Turn Scripted) :=
      [.act ⟨0, .start⟩, .act ⟨1, .stop⟩, .act ⟨2, .start⟩, .act ⟨2, .start⟩, .taskDied,
        .act ⟨3, .stop⟩, .act ⟨3, .stop⟩, .act ⟨4, .start⟩, .act ⟨5, .request "GET" "a"⟩]
    let during := (ofSettings settings ({} : Scripted) 5).run turns
    let afterwards := (ofSettings settings ({} : Scripted) 5).run
      (turns ++ [.taskEnded 1, .taskEnded 0, .disconnected 1, .disconnected 0])
    (during.stops = [.ending (.waiting 5), .ending .failed] ∧
        during.session.limiter.isRunning = true ∧
        during.cancelled = [true, true, false] ∧
        during.session.limiter.timersCreated =
          during.session.limiter.timersCancelled +
            (if during.session.limiter.isRunning then 1 else 0) + during.endings) ∧
      settings.usesShared = true ∧ afterwards.stops = [] ∧
      afterwards.session.limiter.isRunning = true ∧
      afterwards.session.limiter.timersCreated = 3 ∧
      afterwards.session.limiter.timersCancelled = 2 ∧
      afterwards.session.orders.count .connect = 3 ∧
      afterwards.session.orders.count .disconnect = 2 ∧
      ∀ time, afterwards.step (.act ⟨time, .start⟩) = afterwards := by
  intro settings turns during afterwards
  have hduring := lifecycle_balance settings ({} : Scripted) 5 turns
  have hafterwards := lifecycle_balance settings ({} : Scripted) 5
    (turns ++ [.taskEnded 1, .taskEnded 0, .disconnected 1, .disconnected 0])
  have hstart := hafterwards.2.2.2.2.2.2.1 (by decide +kernel)
  refine ⟨⟨by decide +kernel, by decide +kernel, by decide +kernel, hduring.1⟩, ?_⟩
  exact ⟨by decide, by decide +kernel, by decide +kernel, by decide +kernel, by decide +kernel,
    by decide +kernel, by decide +kernel, hstart⟩

end Result

/-! ## Connected limiters -/

section Connected

variable [SharedCounter κ]

omit [SharedCounter κ] in
theorem available_notify_ready {session : Session κ} (hlistening : session.listening = true)
    (hshared : session.limiter.shared.isSome = true) :
    (session.notify .ready).available = true := by
  obtain ⟨backend, hbackend⟩ := Option.isSome_iff_exists.1 hshared
  rw [Session.notify, hbackend]
  dsimp only
  rw [if_pos hlistening]
  rfl

omit [SharedCounter κ] in
theorem notify_of_not_listening {session : Session κ} (hlistening : session.listening = false)
    (event : ConnectionEvent) : session.notify event = session := by
  unfold Session.notify
  cases session.limiter.shared with
  | none => rfl
  | some backend => exact if_neg (by simp [hlistening])

/-- When all calls have returned, the shared counter was last told to connect exactly if the limiter
runs and was not overtaken when it was started.  Then the next readiness makes it available; a
limiter that was overtaken runs on and hears of none. -/
theorem connected_iff_not_overtaken (settings : Settings) (counter : κ) (sweepInterval : Nat)
    (turns : List (Turn κ)) (hshared : settings.usesShared = true)
    (hreturned : ((ofSettings settings counter sweepInterval).run turns).stops = []) :
    let lifetime := (ofSettings settings counter sweepInterval).run turns
    (lifetime.session.orders.head? = some .connect ↔
        lifetime.isRunning = true ∧ lifetime.overtaken = false) ∧
      (lifetime.isRunning = true → lifetime.overtaken = false →
        (lifetime.session.notify .ready).available = true) ∧
      (lifetime.isRunning = true → lifetime.overtaken = true →
        ∀ event, lifetime.session.notify event = lifetime.session) := by
  intro lifetime
  have hbalanced : Balanced settings lifetime := balanced_run settings counter sweepInterval turns
  have hnone : lifetime.endings = 0 := by
    rw [endings, hreturned, List.countP_nil]
  have hisSome : lifetime.session.limiter.shared.isSome = true :=
    hbalanced.isSome_shared.trans hshared
  have hlast := hbalanced.last lifetime.session.orders (hbalanced.orders_eq hshared)
  refine ⟨?_, ?_, ?_⟩
  · rw [hlast]
    constructor
    · intro hlistening
      by_contra hnot
      have hdisconnected := hbalanced.disconnected hnone hnot
      rw [hdisconnected] at hlistening
      cases hlistening
    · exact fun hruns => (hbalanced.connected hruns.1 hruns.2).2
  · intro hruns hovertaken
    exact available_notify_ready (hbalanced.connected hruns hovertaken).2 hisSome
  · intro _ hovertaken
    refine notify_of_not_listening (hbalanced.disconnected hnone ?_)
    rintro ⟨-, hnot⟩
    rw [hovertaken] at hnot
    cases hnot

/-- A start that comes while a call to stop waits for the shared counter to disconnect is not
overtaken. -/
theorem connected_iff_not_overtaken_while_closing :
    let settings := (Settings.resolve (.ofList [("RATE_LIMIT_STORE", "shared")])).value
    let turns : List (Turn Scripted) :=
      [.act ⟨0, .start⟩, .act ⟨1, .stop⟩, .taskEnded 0, .act ⟨2, .start⟩, .disconnected 0]
    let lifetime := (ofSettings settings ({} : Scripted) 5).run turns
    settings.usesShared = true ∧ lifetime.stops = [] ∧ lifetime.isRunning = true ∧
      lifetime.session.orders = [.connect, .disconnect, .connect] ∧
      (lifetime.session.orders.head? = some .connect ↔
        lifetime.isRunning = true ∧ lifetime.overtaken = false) ∧
      (lifetime.session.notify .ready).available = true := by
  intro settings turns lifetime
  have hshared : settings.usesShared = true := by decide
  have hreturned : lifetime.stops = [] := by decide +kernel
  have hruns : lifetime.isRunning = true := by decide +kernel
  have hnot : lifetime.overtaken = false := by decide +kernel
  have hconnected :=
    connected_iff_not_overtaken settings ({} : Scripted) 5 turns hshared hreturned
  exact ⟨hshared, hreturned, hruns, by decide +kernel, hconnected.1,
    hconnected.2.1 hruns hnot⟩

/-- A start that comes while a call to stop waits for the sweep task leaves the limiter running with
a shared counter that was disconnected last, and that no readiness makes available. -/
theorem disconnected_while_running :
    let settings := (Settings.resolve (.ofList [("RATE_LIMIT_STORE", "shared")])).value
    let turns : List (Turn Scripted) :=
      [.act ⟨0, .start⟩, .act ⟨1, .stop⟩, .act ⟨1, .start⟩, .taskEnded 0, .disconnected 0]
    let lifetime := (ofSettings settings ({} : Scripted) 5).run turns
    settings.usesShared = true ∧ lifetime.stops = [] ∧ lifetime.isRunning = true ∧
      lifetime.session.orders = [.disconnect, .connect, .connect] ∧
      (lifetime.session.notify .ready).available = false := by
  decide +kernel

end Connected

end Lifetime

end Throttle
