import Throttle.Database.Counter
import Throttle.Proofs.Binary64

/-!
# What the counting script does

One run of the script adds one to the number under a name and leaves all other names alone.  The
name then ends: when it did before, if it did, and otherwise after the seconds that the script was
given.  What it answers is rounded to double precision, which matters above 53 bits only.
-/

namespace Throttle.Database.Server

def kept (server : Server) (name : String) : Option Entry := server.entries.get? name

/-- When a name ends, if it is kept and ends at all. -/
def deadline? (server : Server) (name : String) : Option Nat :=
  (server.kept name).bind Entry.endsAt

/-- A name has come to a count, which is zero if the name is not kept. -/
def Counts (server : Server) (name : String) (count : Nat) : Prop :=
  ((server.kept name).getD ⟨"0", none⟩).value = Decimal.natText count

/-- Nothing is kept that has ended. -/
def Current (server : Server) : Prop :=
  ∀ name, ∀ entry ∈ server.kept name, entry.lastsAt server.now = true

/-! ## Time -/

theorem kept_purge (server : Server) (name : String) :
    server.purge.kept name = (server.kept name).filter (·.lastsAt server.now) :=
  Table.get?_keep ..

theorem kept_pass (server : Server) (milliseconds : Nat) (name : String) :
    (server.pass milliseconds).kept name =
      (server.kept name).filter (·.lastsAt (server.now + milliseconds)) :=
  kept_purge ..

theorem current_pass (server : Server) (milliseconds : Nat) :
    (server.pass milliseconds).Current := by
  intro name entry hentry
  rw [kept_pass] at hentry
  exact (Option.mem_filter_iff.1 hentry).2

theorem Current.filter_kept {server : Server} (hcurrent : server.Current) (name : String) :
    (server.kept name).filter (·.lastsAt server.now) = server.kept name := by
  cases hkept : server.kept name with
  | none => rfl
  | some entry => exact (Option.filter_some ..).trans (if_pos (hcurrent name entry hkept))

/-! ## Numbers -/

theorem greatest_eq : greatest = 9223372036854775807 := by decide

theorem intText_natCast (n : Nat) : Decimal.intText (n : Int) = Decimal.natText n := rfl

theorem wholeNumber?_natText {n : Nat} (hn : (n : Int) ≤ greatest) :
    wholeNumber? (Decimal.natText n) = some (n : Int) := by
  have hleast : -greatest - 1 ≤ (n : Int) := by
    have := greatest_eq
    omega
  have hread := Decimal.integer?_intText hleast hn
  rw [intText_natCast] at hread
  rw [wholeNumber?, hread]
  simp [intText_natCast]

/-- The number that a script answers in place of a number that is not negative. -/
def rounded (n : Nat) : Nat := min (2 ^ 63 - 1) (Binary64.ofNat n).wholePart

theorem answered_natCast (n : Nat) : answered n = rounded n := by
  have hsign : (n : Int).sign * ((Binary64.ofNat n).wholePart : Int) =
      (Binary64.ofNat n).wholePart := by
    rcases Nat.eq_zero_or_pos n with rfl | hpos
    · decide +kernel
    · rw [Int.sign_eq_one_of_pos (by omega), Int.one_mul]
  rw [answered, Int.natAbs_natCast, hsign, rounded, greatest_eq]
  omega

theorem rounded_of_le {n : Nat} (hn : n ≤ 2 ^ 53) : rounded n = n := by
  rw [rounded, Binary64.wholePart_ofNat hn]
  omega

/-! ## One run -/

theorem endsAt_getD (server : Server) (name : String) :
    ((server.kept name).getD ⟨"0", none⟩).endsAt = server.deadline? name := by
  rw [deadline?]
  cases server.kept name <;> rfl

/-- The seconds that the script takes to be left: those of the name, or those it was given if the
name had no end before. -/
def secondsTold (server : Server) (name : String) (seconds : Nat) : Nat :=
  ((server.deadline? name).map fun endsAt => server.secondsOf (endsAt - server.now)).getD seconds

/-- A run of the script by which a name comes to one more than a count. -/
structure Counted (before : Server) (name : String) (seconds count : Nat) (after : Server) :
    Prop where
  kept_self : after.kept name = some ⟨Decimal.natText (count + 1),
    some ((before.deadline? name).getD (before.now + 1000 * seconds))⟩
  kept_other : ∀ other, other ≠ name → after.kept other = before.kept other
  now_eq : after.now = before.now
  nextReply_eq : after.nextReply = before.nextReply
  /-- A time to live is set only if there was none. -/
  seen_eq : after.seen = before.seen ++ ([["INCR", name], ["TTL", name]] ++
    if (before.deadline? name).isSome then []
    else [["EXPIRE", name, Decimal.natText seconds]])

theorem secondsLeft_of_endsAt {server : Server} {name value : String} {endsAt : Nat}
    (hkept : server.kept name = some ⟨value, some endsAt⟩) :
    server.secondsLeft name = server.secondsOf (endsAt - server.now) := by
  rw [kept] at hkept
  rw [secondsLeft, hkept]

theorem secondsLeft_of_endless {server : Server} {name value : String}
    (hkept : server.kept name = some ⟨value, none⟩) : server.secondsLeft name = -1 := by
  rw [kept] at hkept
  rw [secondsLeft, hkept]

theorem expire_of_kept {server : Server} {name : String} {entry : Entry} {seconds : Nat}
    (hkept : server.kept name = some entry) (hseconds : seconds ≤ greatestSeconds) :
    server.expire name seconds =
      ((server.saw ["EXPIRE", name, Decimal.natText seconds]).set name entry.value (some seconds),
        .ok ()) := by
  have hsaw : (server.saw ["EXPIRE", name, Decimal.natText seconds]).entries.get? name =
      some entry := hkept
  unfold expire
  rw [if_neg (Nat.not_lt.2 hseconds), hsaw]

theorem kept_set_self (server : Server) (name value : String) {seconds : Nat}
    (hpositive : 0 < seconds) :
    (server.set name value (some seconds)).kept name =
      some ⟨value, some (server.now + 1000 * seconds)⟩ := by
  have hlasts : Entry.lastsAt ⟨value, some (server.now + 1000 * seconds)⟩ server.now = true := by
    simp [Entry.lastsAt, hpositive]
  rw [set, kept_purge, kept, Table.get?_put_self, Option.map_some, Option.filter_some,
    if_pos hlasts]

theorem kept_set_of_ne (server : Server) {name other : String} (hother : other ≠ name)
    (value : String) (seconds : Option Nat) :
    (server.set name value seconds).kept other =
      (server.kept other).filter (·.lastsAt server.now) := by
  rw [set, kept_purge, kept, Table.get?_put_of_ne _ _ hother]
  rfl

/-- The server when the script has added one to a count and has asked for the seconds that are
left. -/
def grown (server : Server) (name : String) (count : Nat) : Server :=
  { server with
    entries := server.entries.put name ⟨Decimal.natText (count + 1), server.deadline? name⟩
    seen := server.seen ++ [["INCR", name], ["TTL", name]] }

theorem kept_grown_self (server : Server) (name : String) (count : Nat) :
    (server.grown name count).kept name =
      some ⟨Decimal.natText (count + 1), server.deadline? name⟩ :=
  Table.get?_put_self ..

theorem kept_grown_of_ne (server : Server) {name other : String} (hother : other ≠ name)
    (count : Nat) : (server.grown name count).kept other = server.kept other :=
  Table.get?_put_of_ne _ _ hother

section Run

variable {server : Server} {name : String} {count : Nat} (hcounts : server.Counts name count)
  (hcount : (count : Int) < greatest)

include hcounts hcount

theorem increase_of_counts :
    ∃ increased : Server, server.increase name = (increased, .ok (count + 1 : Nat)) ∧
      increased.saw ["TTL", name] = server.grown name count := by
  have hread : wholeNumber? (((server.saw ["INCR", name]).entries.get? name).getD
      ⟨"0", none⟩).value = some (count : Int) := by
    rw [← wholeNumber?_natText (Int.le_of_lt hcount), ← hcounts]
    rfl
  have hends : (((server.saw ["INCR", name]).entries.get? name).getD ⟨"0", none⟩).endsAt =
      server.deadline? name := endsAt_getD server name
  refine ⟨{ server.saw ["INCR", name] with
    entries := server.entries.put name
      ⟨Decimal.natText (count + 1), server.deadline? name⟩ }, ?_, ?_⟩
  · dsimp only [increase]
    rw [hread]
    dsimp only
    rw [if_neg (Int.ne_of_lt hcount), hends]
    rfl
  · simp [saw, grown]

theorem count_of_counts (seconds : Nat) :
    server.count name seconds =
      if 0 ≤ (server.grown name count).secondsLeft name then
        (server.grown name count,
          .ok [answered (count + 1 : Nat), answered ((server.grown name count).secondsLeft name)])
      else
        (((server.grown name count).expire name seconds).1,
          ((server.grown name count).expire name seconds).2.map fun _ =>
            [answered (count + 1 : Nat), answered seconds]) := by
  obtain ⟨increased, hincrease, hgrown⟩ := increase_of_counts hcounts hcount
  rw [Server.count, hincrease]
  dsimp only
  rw [hgrown]

/-- A run of the script on a name that has come to a count brings it one further. -/
theorem counted_count (hcurrent : server.Current) {seconds : Nat} (hpositive : 0 < seconds)
    (hseconds : seconds ≤ greatestSeconds) :
    server.Counted name seconds count (server.count name seconds).1 ∧
      (server.count name seconds).2 = .ok [(rounded (count + 1) : Int),
        (rounded (server.secondsTold name seconds) : Int)] := by
  have hself := server.kept_grown_self name count
  rw [count_of_counts hcounts hcount, secondsTold]
  cases hdeadline : server.deadline? name with
  | some endsAt =>
      -- The name ends already, so nothing more is done.
      rw [hdeadline] at hself
      rw [secondsLeft_of_endsAt hself, if_pos (Int.natCast_nonneg _), answered_natCast,
        answered_natCast]
      refine ⟨⟨?_, fun other hother => kept_grown_of_ne server hother count, rfl, rfl, ?_⟩, rfl⟩
      · rw [hself, hdeadline]
        rfl
      · simp [hdeadline, grown]
  | none =>
      -- It has no end yet and gets one; nothing else has ended meanwhile.
      rw [hdeadline] at hself
      rw [secondsLeft_of_endless hself, if_neg (by decide), expire_of_kept hself hseconds,
        answered_natCast, answered_natCast]
      refine ⟨⟨?_, fun other hother => ?_, rfl, rfl, ?_⟩, rfl⟩
      · rw [hdeadline]
        exact kept_set_self _ name _ hpositive
      · have hsaw : ((server.grown name count).saw ["EXPIRE", name,
            Decimal.natText seconds]).kept other = server.kept other :=
          kept_grown_of_ne server hother count
        rw [kept_set_of_ne _ hother, hsaw]
        exact hcurrent.filter_kept other
      · rw [hdeadline]
        exact List.append_assoc ..

end Run

end Throttle.Database.Server
