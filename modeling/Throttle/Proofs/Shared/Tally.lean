import Mathlib.Data.List.TakeWhile
import Throttle.Proofs.Shared.Faithful

/-!
# Increments of a name

What a faithful counter answers to the increments of a name depends on when they come.  They fall
into stretches, one for each window, of which each counts from one.  So within a limit are the first
of each stretch, and an interval as long as a window sees those of two stretches at most.
-/

namespace Throttle

/-- The window of a name after increments at some instants, in order. -/
def tally (window : Nat) (before : Option SharedWindow) (times : List Nat) : Option SharedWindow :=
  times.foldl (fun before time => some (.next window before time)) before

/-- Increments at some instants, in order, each with whether its count is within the limit. -/
def granted (limit window : Nat) : Option SharedWindow → List Nat → List (Nat × Bool)
  | _, [] => []
  | before, time :: later =>
    let after := SharedWindow.next window before time
    (time, decide (after.count ≤ limit)) :: granted limit window (some after) later

/-- Instants, in order, divided into stretches that lie in one window each: a window is opened by
its first instant and leaves out what comes at its end or later. -/
def stretches (window : Nat) : List Nat → List (List Nat)
  | [] => []
  | first :: later =>
    (first :: later.takeWhile fun time => decide (time < first + window)) ::
      stretches window (later.dropWhile fun time => decide (time < first + window))
termination_by times => times.length
decreasing_by exact Nat.lt_succ_of_le (List.dropWhile_sublist _).length_le

/-- Instants of which those up to the limit are let through. -/
def rationed (limit : Nat) (times : List Nat) : List (Nat × Bool) :=
  (times.take limit).map (·, true) ++ (times.drop limit).map (·, false)

section Granted

variable (limit window : Nat)

theorem tally_concat (before : Option SharedWindow) (times : List Nat) (time : Nat) :
    tally window before (times ++ [time]) =
      some (.next window (tally window before times) time) := by
  simp [tally]

theorem granted_append (before : Option SharedWindow) (times later : List Nat) :
    granted limit window before (times ++ later) =
      granted limit window before times ++
        granted limit window (tally window before times) later := by
  induction times generalizing before with
  | nil => rfl
  | cons time times ih => exact congrArg (_ :: ·) (ih _)

theorem granted_concat (before : Option SharedWindow) (times : List Nat) (time : Nat) :
    granted limit window before (times ++ [time]) =
      granted limit window before times ++
        [(time, decide ((SharedWindow.next window (tally window before times) time).count ≤
          limit))] :=
  granted_append limit window before times [time]

theorem map_fst_granted (before : Option SharedWindow) (times : List Nat) :
    (granted limit window before times).map Prod.fst = times := by
  induction times generalizing before with
  | nil => rfl
  | cons time times ih => exact congrArg (time :: ·) (ih _)

theorem map_fst_rationed (times : List Nat) : (rationed limit times).map Prod.fst = times := by
  simp [rationed, Function.comp_def]

theorem rationed_cons (time : Nat) (times : List Nat) :
    rationed limit (time :: times) = (time, decide (0 < limit)) :: rationed (limit - 1) times := by
  cases limit with
  | zero => simp [rationed]
  | succ limit => simp [rationed]

variable {limit window}

/-- Increments in an open window are let through as far as it has room. -/
theorem granted_of_open (limit window count : Nat) {endsAt : Nat} {times : List Nat}
    (hopen : ∀ time ∈ times, time < endsAt) :
    granted limit window (some ⟨count, endsAt⟩) times = rationed (limit - count) times ∧
      tally window (some ⟨count, endsAt⟩) times = some ⟨count + times.length, endsAt⟩ := by
  induction times generalizing count with
  | nil => exact ⟨by simp [granted, rationed], rfl⟩
  | cons time times ih =>
      obtain ⟨htime, htimes⟩ := List.forall_mem_cons.1 hopen
      obtain ⟨hgranted, htally⟩ := ih (count + 1) htimes
      have hnext : SharedWindow.next window (some ⟨count, endsAt⟩) time = ⟨count + 1, endsAt⟩ := by
        simp [SharedWindow.next, Nat.not_le.2 htime]
      refine ⟨?_, ?_⟩
      · rw [granted, hnext, hgranted, rationed_cons, Nat.sub_sub]
        simp only [Nat.sub_pos_iff_lt, Nat.succ_le_iff]
      · rw [tally, List.foldl_cons, hnext, ← tally, htally, List.length_cons]
        simp only [Nat.add_assoc, Nat.add_comm 1]

/-- No window is open any more when the first of the increments comes. -/
def Reopens (before : Option SharedWindow) (times : List Nat) : Prop :=
  ∀ current, before = some current → ∀ time ∈ times.head?, current.endsAt ≤ time

theorem le_of_head?_dropWhile {bound time : Nat} {times : List Nat}
    (htime : time ∈ (times.dropWhile fun time => decide (time < bound)).head?) : bound ≤ time := by
  have hstops := List.head?_dropWhile_not (fun time => decide (time < bound)) times
  rw [Option.mem_def.1 htime] at hstops
  simpa using hstops

theorem reopens_dropWhile (count endsAt : Nat) (times : List Nat) :
    Reopens (some ⟨count, endsAt⟩) (times.dropWhile fun time => decide (time < endsAt)) := by
  rintro current ⟨⟩ time htime
  exact le_of_head?_dropWhile htime

theorem lt_of_mem_takeWhile {bound time : Nat} {times : List Nat}
    (htime : time ∈ times.takeWhile fun time => decide (time < bound)) : time < bound := by
  simpa using List.mem_takeWhile_imp htime

theorem next_of_reopens {before : Option SharedWindow} {first : Nat} {later : List Nat}
    (hreopens : Reopens before (first :: later)) :
    SharedWindow.next window before first = ⟨1, first + window⟩ := by
  cases before with
  | none => rfl
  | some current => simp [SharedWindow.next, hreopens current rfl first rfl]

/-- Increments of which the first opens a window are let through up to the limit while it is open;
the others find it closed. -/
theorem granted_cons_of_reopens (limit : Nat) {before : Option SharedWindow} {first : Nat}
    {later : List Nat} (hreopens : Reopens before (first :: later)) :
    let inside := later.takeWhile fun time => decide (time < first + window)
    let rest := later.dropWhile fun time => decide (time < first + window)
    let after : Option SharedWindow := some ⟨1 + inside.length, first + window⟩
    granted limit window before (first :: later) =
        rationed limit (first :: inside) ++ granted limit window after rest ∧
      tally window before (first :: later) = tally window after rest := by
  intro inside rest after
  have hinside : ∀ time ∈ inside, time < first + window := fun time => lt_of_mem_takeWhile
  obtain ⟨hgranted, htally⟩ := granted_of_open limit window 1 hinside
  have hlater : inside ++ rest = later := List.takeWhile_append_dropWhile
  refine ⟨?_, ?_⟩
  · rw [granted, next_of_reopens hreopens, ← hlater, granted_append, hgranted, htally,
      rationed_cons, List.cons_append]
    rfl
  · rw [tally, List.foldl_cons, next_of_reopens hreopens, ← hlater, List.foldl_append, ← tally,
      ← tally, htally]

/-- The increments that a counter answers fall into stretches, and of each the first are let
through, up to the limit. -/
theorem granted_eq_rationed (limit window : Nat) (before : Option SharedWindow) (times : List Nat)
    (hreopens : Reopens before times) :
    granted limit window before times =
      ((stretches window times).map (rationed limit)).flatten := by
  induction times using stretches.induct window generalizing before with
  | case1 => simp [granted, stretches]
  | case2 first later ih =>
      rw [(granted_cons_of_reopens limit hreopens).1, ih _ (reopens_dropWhile _ _ _), stretches]
      rfl

/-- The window that is left counts the last stretch, and ends as long after its first increment as a
window takes. -/
theorem tally_eq_last (window : Nat) (before : Option SharedWindow) (times : List Nat)
    (hreopens : Reopens before times) :
    tally window before times = ((stretches window times).getLast?.map fun stretch =>
      ⟨stretch.length, stretch.headD 0 + window⟩).or before := by
  induction times using stretches.induct window generalizing before with
  | case1 => simp [tally, stretches]
  | case2 first later ih =>
      rw [(granted_cons_of_reopens 0 hreopens).2, ih _ (reopens_dropWhile _ _ _),
        stretches, List.getLast?_cons]
      cases (stretches window _).getLast? with
      | none => simp [Nat.add_comm]
      | some stretch => simp

end Granted

/-! ## Intervals -/

/-- Whether an increment is within the limit and lies between two instants, both included. -/
def isGrantedIn (first last : Nat) (grant : Nat × Bool) : Bool :=
  grant.2 && first ≤ grant.1 && grant.1 ≤ last

section Intervals

variable {limit window start : Nat} {before : Option SharedWindow} {times : List Nat}

theorem countP_rationed_le (limit first last : Nat) (times : List Nat) :
    (rationed limit times).countP (isGrantedIn first last) ≤ limit := by
  have hdenied : ((times.drop limit).map (·, false)).countP (isGrantedIn first last) = 0 := by
    rw [List.countP_map, List.countP_eq_zero]
    simp [isGrantedIn]
  rw [rationed, List.countP_append, hdenied, Nat.add_zero]
  refine Nat.le_trans List.countP_le_length ?_
  rw [List.length_map, List.length_take]
  exact Nat.min_le_left ..

theorem countP_isGrantedIn_eq_zero {last : Nat} {grants : List (Nat × Bool)}
    (houtside : ∀ time ∈ grants.map Prod.fst, time < start ∨ last < time) :
    grants.countP (isGrantedIn start last) = 0 := by
  rw [List.countP_eq_zero]
  intro grant hgrant hin
  have := houtside grant.1 (List.mem_map_of_mem hgrant)
  simp only [isGrantedIn, Bool.and_eq_true, decide_eq_true_eq] at hin
  omega

theorem le_of_mem_dropWhile (hordered : times.Pairwise (· ≤ ·)) {bound time : Nat}
    (htime : time ∈ times.dropWhile fun time => decide (time < bound)) : bound ≤ time := by
  have hrest := hordered.sublist (List.dropWhile_sublist fun time => decide (time < bound))
  have hhead : ∀ first ∈ (times.dropWhile fun time => decide (time < bound)).head?,
      bound ≤ first := fun _ => le_of_head?_dropWhile
  cases hdrop : times.dropWhile fun time => decide (time < bound) with
  | nil =>
      rw [hdrop] at htime
      cases htime
  | cons first later =>
      rw [hdrop] at htime hrest hhead
      have hfirst : bound ≤ first := hhead first rfl
      rcases List.mem_cons.1 htime with rfl | hmem
      · exact hfirst
      · exact Nat.le_trans hfirst ((List.pairwise_cons.1 hrest).1 time hmem)

/-- If an interval sees increments of a window, then all later ones lie in one more, at most. -/
theorem countP_granted_le_limit (hordered : times.Pairwise (· ≤ ·))
    (hreopens : Reopens before times) (hafter : ∀ time ∈ times, start < time) :
    (granted limit window before times).countP (isGrantedIn start (start + window)) ≤ limit := by
  cases times with
  | nil => exact Nat.zero_le _
  | cons first later =>
      have hfirst : start < first := hafter first (by simp)
      have hrest : ∀ before, (granted limit window before (later.dropWhile fun time =>
          decide (time < first + window))).countP (isGrantedIn start (start + window)) = 0 :=
        fun before => countP_isGrantedIn_eq_zero fun time htime => by
          rw [map_fst_granted] at htime
          have := le_of_mem_dropWhile (List.pairwise_cons.1 hordered).2 htime
          omega
      rw [(granted_cons_of_reopens limit hreopens).1, List.countP_append, hrest, Nat.add_zero]
      exact countP_rationed_le ..

/-- What is let through before a window ends adds to what comes later only within two limits. -/
theorem countP_add_countP_granted_le {endsAt : Nat} {inside : List Nat} {room : Nat}
    (hroom : room ≤ limit) (hinside : ∀ time ∈ inside, time < endsAt)
    (hordered : times.Pairwise (· ≤ ·)) (hreopens : Reopens before times)
    (hrest : ∀ time ∈ times, endsAt ≤ time)
    (hlater : (granted limit window before times).countP (isGrantedIn start (start + window)) ≤
      2 * limit) :
    (rationed room inside).countP (isGrantedIn start (start + window)) +
      (granted limit window before times).countP (isGrantedIn start (start + window)) ≤
        2 * limit := by
  rcases Nat.lt_or_ge start endsAt with hmeets | hmisses
  · -- All that is left begins after the interval does.
    have hwithin := countP_rationed_le room start (start + window) inside
    have hbeyond : (granted limit window before times).countP
        (isGrantedIn start (start + window)) ≤ limit :=
      countP_granted_le_limit hordered hreopens fun time htime =>
        Nat.lt_of_lt_of_le hmeets (hrest time htime)
    omega
  · have hbefore : (rationed room inside).countP (isGrantedIn start (start + window)) = 0 :=
      countP_isGrantedIn_eq_zero fun time htime => by
        rw [map_fst_rationed] at htime
        exact .inl (Nat.lt_of_lt_of_le (hinside time htime) hmisses)
    omega

/-- An interval as long as a window sees two windows at most. -/
theorem countP_granted_le_of_reopens (hwindow : 0 < window) (hordered : times.Pairwise (· ≤ ·))
    (hreopens : Reopens before times) :
    (granted limit window before times).countP (isGrantedIn start (start + window)) ≤
      2 * limit := by
  induction times using stretches.induct window generalizing before with
  | case1 => exact Nat.zero_le _
  | case2 first later ih =>
      have hlater := (List.pairwise_cons.1 hordered).2
      have hrest := hlater.sublist
        (List.dropWhile_sublist fun time => decide (time < first + window))
      rw [(granted_cons_of_reopens limit hreopens).1, List.countP_append]
      have hinside : ∀ time ∈ first :: later.takeWhile fun time => decide (time < first + window),
          time < first + window :=
        List.forall_mem_cons.2 ⟨by omega, fun time => lt_of_mem_takeWhile⟩
      exact countP_add_countP_granted_le (Nat.le_refl limit) hinside hrest (reopens_dropWhile _ _ _)
        (fun time => le_of_mem_dropWhile hlater) (ih hrest (reopens_dropWhile _ _ _))

theorem countP_granted_le (hwindow : 0 < window) (hordered : times.Pairwise (· ≤ ·))
    (before : Option SharedWindow) :
    (granted limit window before times).countP (isGrantedIn start (start + window)) ≤
      2 * limit := by
  cases before with
  | none => exact countP_granted_le_of_reopens hwindow hordered (by simp [Reopens])
  | some current =>
      -- The window that is open takes what comes before its end; from then on none is open.
      obtain ⟨count, endsAt⟩ := current
      have hinside : ∀ time ∈ times.takeWhile fun time => decide (time < endsAt), time < endsAt :=
        fun time => lt_of_mem_takeWhile
      have hrest := hordered.sublist (List.dropWhile_sublist fun time => decide (time < endsAt))
      obtain ⟨hgranted, htally⟩ := granted_of_open limit window count hinside
      have hsplit := granted_append limit window (some ⟨count, endsAt⟩)
        (times.takeWhile fun time => decide (time < endsAt))
        (times.dropWhile fun time => decide (time < endsAt))
      rw [List.takeWhile_append_dropWhile, hgranted, htally] at hsplit
      rw [hsplit, List.countP_append]
      exact countP_add_countP_granted_le (Nat.sub_le ..) hinside hrest (reopens_dropWhile _ _ _)
        (fun time => le_of_mem_dropWhile hordered)
        (countP_granted_le_of_reopens hwindow hrest (reopens_dropWhile _ _ _))

end Intervals

end Throttle
