import Mathlib.Data.List.Chain
import Throttle.Proofs.Database.Script

/-!
# Windows in a database

A counter in a database is called again and again, on any names, with any windows and with any time
between two calls; nobody else changes what the server keeps.  Main statement: a name always ends
after a call.  Its end is set by the first call that finds none, and no other call moves it; until
the name ends, the calls on it count on without a gap.
-/

namespace Throttle.RedisCounter

open Database

def kept (counter : RedisCounter) (name : String) : Option Entry :=
  counter.server.bind (·.kept name)

def now (counter : RedisCounter) : Nat := (counter.server.map (·.now)).getD 0

def seen (counter : RedisCounter) : List (List String) := (counter.server.map (·.seen)).getD []

def pass (counter : RedisCounter) (milliseconds : Nat) : RedisCounter :=
  { counter with server := counter.server.map (·.pass milliseconds) }

/-! ## Calls -/

/-- An increment of a name for a window, some milliseconds after the call before it. -/
structure Call where
  pause : Nat
  name : String
  window : Nat

/-- The time to live that a call gives: whole seconds, and at least one. -/
def Call.seconds (call : Call) : Nat := max 1 (Duration.secs call.window)

/-- A call, with the counter as it was when it began and when it had ended. -/
structure Visit where
  call : Call
  before : RedisCounter
  after : RedisCounter
  result : Except LimiterError SharedCount

namespace Visit

def time (visit : Visit) : Nat := visit.before.now

/-- What the call found under its name. -/
def found (visit : Visit) : Option Entry := visit.before.kept visit.call.name

def left (visit : Visit) : Option Entry := visit.after.kept visit.call.name

/-- When the name was to end before the call. -/
def deadline? (visit : Visit) : Option Nat := visit.found.bind Entry.endsAt

def expirations (visit : Visit) : List (List String) :=
  (visit.after.seen.drop visit.before.seen.length).filter (·.head? == some "EXPIRE")

def secondsTold (visit : Visit) : Nat :=
  (visit.before.server.map (·.secondsTold visit.call.name visit.call.seconds)).getD 0

/-- The name ends at an instant from this call on: when it was to end before, or else as long after
the call as that says. -/
def closesAt (visit : Visit) : Nat :=
  visit.deadline?.getD (visit.time + 1000 * visit.call.seconds)

/-- A call brings its name from a count to the next, and does nothing else but make it end. -/
structure CountsFrom (visit : Visit) (count : Nat) : Prop where
  found : ∀ entry ∈ visit.found, entry.value = Decimal.natText count
  missing : visit.found = none → count = 0
  left : visit.left = some ⟨Decimal.natText (count + 1), some visit.closesAt⟩
  others : ∀ name, name ≠ visit.call.name → visit.after.kept name = visit.before.kept name
  now : visit.after.now = visit.time
  expirations : visit.expirations = if visit.deadline?.isSome then []
    else [["EXPIRE", visit.call.name, Decimal.natText visit.call.seconds]]
  result : visit.result = .ok ⟨Server.rounded (count + 1),
    if 0 < Server.rounded visit.secondsTold then some (Server.rounded visit.secondsTold) else none⟩

/-- A call follows another on the same name: it finds what that has left, unless it has ended. -/
structure Precedes (earlier later : Visit) : Prop where
  time_le : earlier.time ≤ later.time
  found : later.found = earlier.left.filter (·.lastsAt later.time)

end Visit

def visit (counter : RedisCounter) (call : Call) : Visit :=
  let before := counter.pass call.pause
  let ended := before.increment call.name call.window
  { call, before, after := ended.1, result := ended.2 }

def visits (counter : RedisCounter) : List Call → List Visit
  | [] => []
  | call :: calls => counter.visit call :: (counter.visit call).after.visits calls

/-- A counter that is connected to a server, which runs its scripts, accepts the times to live, and
keeps no number that the calls would bring beyond the greatest. -/
structure Fits (counter : RedisCounter) (calls : List Call) : Prop where
  connected : counter.connected = true
  server : ∃ server, counter.server = some server ∧ server.nextReply = none
  length : calls.length < 2 ^ 63
  counts : ∀ call ∈ calls, ∀ entry ∈ counter.kept call.name, ∃ count : Nat,
    entry.value = Decimal.natText count ∧ count + calls.length < 2 ^ 63
  seconds : ∀ call ∈ calls, call.seconds ≤ Server.greatestSeconds

/-! ## One call -/

theorem kept_pass (counter : RedisCounter) (milliseconds : Nat) (name : String) :
    (counter.pass milliseconds).kept name =
      (counter.kept name).filter (·.lastsAt (counter.pass milliseconds).now) := by
  rw [pass, kept, kept, now]
  cases counter.server with
  | none => rfl
  | some server => exact server.kept_pass milliseconds name

theorem mem_kept_of_pass {counter : RedisCounter} {server : Server}
    (hserver : counter.server = some server) {milliseconds : Nat} {name : String} {entry : Entry}
    (hpassed : (server.pass milliseconds).kept name = some entry) : entry ∈ counter.kept name := by
  rw [Server.kept_pass] at hpassed
  rw [kept, hserver]
  exact (Option.filter_eq_some_iff.1 hpassed).1

theorem now_le_now_pass (counter : RedisCounter) (milliseconds : Nat) :
    counter.now ≤ (counter.pass milliseconds).now := by
  rw [pass, now, now]
  cases counter.server with
  | none => exact Nat.le_refl 0
  | some server => exact Nat.le_add_right server.now milliseconds

theorem rounded_lt (n : Nat) : Server.rounded n < 2 ^ 63 := by
  rw [Server.rounded]
  omega

theorem countOfReply_rounded (count ttl : Nat) :
    countOfReply [(Server.rounded count : Int), (Server.rounded ttl : Int)] =
      .ok ⟨Server.rounded count,
        if 0 < Server.rounded ttl then some (Server.rounded ttl) else none⟩ := by
  have hcount := rounded_lt count
  simp only [countOfReply, Int.natCast_pos, Int.toNat_natCast, Nat.pow_eq]
  congr 2
  omega

theorem increment_of_count {counter : RedisCounter} {server after : Server} {name : String}
    {window count told : Nat} (hconnected : counter.connected = true)
    (hserver : counter.server = some server) (hreply : server.nextReply = none)
    (hcount : server.count name (max 1 (Duration.secs window)) =
      (after, .ok [(Server.rounded count : Int), (Server.rounded told : Int)])) :
    counter.increment name window = ({ counter with server := some after },
      .ok ⟨Server.rounded count,
        if 0 < Server.rounded told then some (Server.rounded told) else none⟩) := by
  have hrun : server.increment name (max 1 (Duration.secs window)) =
      (after, .ok [(Server.rounded count : Int), (Server.rounded told : Int)]) := by
    rw [Server.increment, hreply]
    exact hcount
  rw [increment, hconnected, hserver]
  dsimp only
  rw [hrun]
  dsimp only
  rw [countOfReply_rounded]

/-- What a run of the script says of the call that sent it. -/
theorem Visit.countsFrom_of_counted {visit : Visit} {before after : Server} {count : Nat}
    (hbefore : visit.before.server = some before) (hafter : visit.after.server = some after)
    (hcounts : before.Counts visit.call.name count)
    (hcounted : before.Counted visit.call.name visit.call.seconds count after)
    (hresult : visit.result = .ok ⟨Server.rounded (count + 1),
      if 0 < Server.rounded (before.secondsTold visit.call.name visit.call.seconds) then
        some (Server.rounded (before.secondsTold visit.call.name visit.call.seconds))
      else none⟩) :
    visit.CountsFrom count := by
  have hkept : visit.before.kept = before.kept := by
    funext name
    rw [RedisCounter.kept, hbefore]
    rfl
  have hkeptAfter : visit.after.kept = after.kept := by
    funext name
    rw [RedisCounter.kept, hafter]
    rfl
  have htime : visit.time = before.now := by rw [time, RedisCounter.now, hbefore]; rfl
  have hdeadline : visit.deadline? = before.deadline? visit.call.name := by
    rw [deadline?, found, hkept, Server.deadline?]
  have hcommands : visit.expirations =
      (after.seen.drop before.seen.length).filter (·.head? == some "EXPIRE") := by
    rw [expirations, RedisCounter.seen, RedisCounter.seen, hbefore, hafter]
    rfl
  have htold : visit.secondsTold = before.secondsTold visit.call.name visit.call.seconds := by
    rw [secondsTold, hbefore]
    rfl
  constructor
  · intro entry hentry
    rw [found, hkept] at hentry
    rw [Server.Counts, hentry] at hcounts
    exact hcounts
  · intro hmissing
    rw [found, hkept] at hmissing
    rw [Server.Counts, hmissing] at hcounts
    have hzero : Decimal.natText 0 = Decimal.natText count := Decimal.natText_zero.trans hcounts
    exact (Decimal.natText_injective hzero).symm
  · rw [left, hkeptAfter, hcounted.kept_self, closesAt, hdeadline, htime]
  · intro name hname
    rw [hkeptAfter, hkept]
    exact hcounted.kept_other name hname
  · rw [RedisCounter.now, hafter, htime]
    exact hcounted.now_eq
  · rw [hcommands, hcounted.seen_eq, List.drop_left, hdeadline]
    cases before.deadline? visit.call.name <;> rfl
  · rw [htold]
    exact hresult

section Visit

variable {counter : RedisCounter} {call : Call} {calls : List Call}
  (hfits : counter.Fits (call :: calls)) {server : Server} (hserver : counter.server = some server)

include hfits hserver

theorem Fits.exists_count :
    ∃ count, (server.pass call.pause).Counts call.name count ∧
      count + calls.length + 1 < 2 ^ 63 := by
  have hlength := hfits.length
  rw [List.length_cons] at hlength
  unfold Server.Counts
  cases hfound : (server.pass call.pause).kept call.name with
  | none => exact ⟨0, Decimal.natText_zero.symm, by omega⟩
  | some entry =>
      have hkept : entry ∈ counter.kept call.name := mem_kept_of_pass hserver hfound
      obtain ⟨count, hvalue, hcount⟩ := hfits.counts call List.mem_cons_self entry hkept
      rw [List.length_cons] at hcount
      exact ⟨count, hvalue, by omega⟩

/-- A call that counts leaves the counter ready for the calls after it. -/
theorem Fits.of_counted {after : Server} {count : Nat}
    (hcounted : (server.pass call.pause).Counted call.name call.seconds count after)
    (hreply : server.nextReply = none) (hcount : count + calls.length + 1 < 2 ^ 63) :
    Fits { counter.pass call.pause with server := some after } calls := by
  refine ⟨hfits.connected, ⟨after, rfl, hcounted.nextReply_eq.trans hreply⟩, by omega, ?_,
    fun later hlater => hfits.seconds later (List.mem_cons_of_mem _ hlater)⟩
  intro later hlater entry hentry
  by_cases hname : later.name = call.name
  · have hself : after.kept later.name = some entry := hentry
    rw [hname, hcounted.kept_self] at hself
    exact ⟨count + 1, by rw [← Option.some.inj hself], by omega⟩
  · have hother : (server.pass call.pause).kept later.name = some entry := by
      rw [← hcounted.kept_other later.name hname]
      exact hentry
    have hkept : entry ∈ counter.kept later.name := mem_kept_of_pass hserver hother
    obtain ⟨total, hvalue, htotal⟩ :=
      hfits.counts later (List.mem_cons_of_mem _ hlater) entry hkept
    rw [List.length_cons] at htotal
    exact ⟨total, hvalue, by omega⟩

omit hserver in
/-- A call counts, and leaves the counter ready for the calls after it. -/
theorem Fits.visit :
    (∃ count, (counter.visit call).CountsFrom count) ∧
      (counter.visit call).after.Fits calls := by
  obtain ⟨server, hserver, hreply⟩ := hfits.server
  obtain ⟨count, hcounts, hcount⟩ := hfits.exists_count hserver
  have hgreatest : (count : Int) < Server.greatest := by
    have := Server.greatest_eq
    omega
  have hpositive : 0 < call.seconds := Nat.le_max_left 1 _
  obtain ⟨hcounted, hanswer⟩ := Server.counted_count hcounts hgreatest
    (server.current_pass call.pause) hpositive (hfits.seconds call List.mem_cons_self)
  obtain ⟨after, hafter⟩ :
      ∃ after, ((server.pass call.pause).count call.name call.seconds).1 = after := ⟨_, rfl⟩
  rw [hafter] at hcounted
  have hconnected : (counter.pass call.pause).connected = true := hfits.connected
  have hbefore : (counter.pass call.pause).server = some (server.pass call.pause) := by
    rw [pass, hserver]
    rfl
  have hincrement := increment_of_count hconnected hbefore hreply (Prod.ext hafter hanswer)
  have hvisitAfter : (counter.visit call).after =
      { counter.pass call.pause with server := some after } := congrArg Prod.fst hincrement
  refine ⟨⟨count, Visit.countsFrom_of_counted hbefore (by rw [hvisitAfter]) hcounts hcounted
    (congrArg Prod.snd hincrement)⟩, ?_⟩
  rw [hvisitAfter]
  exact hfits.of_counted hserver hcounted hreply hcount

end Visit

/-! ## Calls one after the other -/

theorem map_call_visits (counter : RedisCounter) (calls : List Call) :
    (counter.visits calls).map (·.call) = calls := by
  induction calls generalizing counter with
  | nil => rfl
  | cons call calls ih => rw [visits, List.map_cons, ih]; rfl

theorem Fits.countsFrom {counter : RedisCounter} {calls : List Call} (hfits : counter.Fits calls) :
    ∀ visit ∈ counter.visits calls, ∃ count, visit.CountsFrom count := by
  induction calls generalizing counter with
  | nil => simp [visits]
  | cons call calls ih =>
      intro visit hvisit
      obtain ⟨hcounts, hrest⟩ := hfits.visit
      rcases List.mem_cons.1 hvisit with rfl | hlater
      · exact hcounts
      · exact ih hrest visit hlater

theorem filter_lastsAt {earlier later : Nat} (h : earlier ≤ later) (held : Option Entry) :
    (held.filter (·.lastsAt earlier)).filter (·.lastsAt later) = held.filter (·.lastsAt later) := by
  have hlasts : ∀ entry : Entry, entry.lastsAt later = true → entry.lastsAt earlier = true := by
    rintro ⟨value, - | endsAt⟩ hlater
    · rfl
    · simp only [Entry.lastsAt, Option.all_some, decide_eq_true_eq] at hlater ⊢
      omega
  rw [Option.filter_filter]
  congr 1
  funext entry
  cases hlater : entry.lastsAt later with
  | true => rw [hlasts entry hlater, Bool.and_true]
  | false => exact Bool.and_false _

/-- The first call on a name finds what was kept under it, unless that has ended. -/
theorem Fits.found_head {counter : RedisCounter} {calls : List Call} (hfits : counter.Fits calls)
    (name : String) :
    ∀ visit ∈ ((counter.visits calls).filter (·.call.name = name)).head?,
      counter.now ≤ visit.time ∧
        visit.found = (counter.kept name).filter (·.lastsAt visit.time) := by
  induction calls generalizing counter with
  | nil => simp [visits]
  | cons call calls ih =>
      intro visit hvisit
      obtain ⟨⟨count, hcounts⟩, hrest⟩ := hfits.visit
      have hlater : counter.now ≤ (counter.visit call).time := counter.now_le_now_pass call.pause
      rw [visits, List.filter_cons] at hvisit
      by_cases hname : (counter.visit call).call.name = name
      · rw [if_pos (decide_eq_true hname)] at hvisit
        obtain rfl := Option.some.inj hvisit
        refine ⟨hlater, ?_⟩
        rw [← hname]
        exact counter.kept_pass call.pause call.name
      · -- The call is on another name, so what it leaves here is what had not ended by then.
        rw [if_neg (fun h => hname (of_decide_eq_true h))] at hvisit
        obtain ⟨hnow, hfound⟩ := ih hrest visit hvisit
        have htime : (counter.visit call).time ≤ visit.time := hcounts.now ▸ hnow
        have hother : (counter.visit call).after.kept name =
            (counter.kept name).filter (·.lastsAt (counter.visit call).time) :=
          (hcounts.others name (Ne.symm hname)).trans (counter.kept_pass call.pause name)
        refine ⟨Nat.le_trans hlater htime, ?_⟩
        rw [hfound, hother, filter_lastsAt htime]

/-- Each call on a name but the first finds what the one before has left, unless it has ended. -/
theorem Fits.isChain_precedes {counter : RedisCounter} {calls : List Call}
    (hfits : counter.Fits calls) (name : String) :
    ((counter.visits calls).filter (·.call.name = name)).IsChain Visit.Precedes := by
  induction calls generalizing counter with
  | nil => exact .nil
  | cons call calls ih =>
      obtain ⟨⟨count, hcounts⟩, hrest⟩ := hfits.visit
      rw [visits, List.filter_cons]
      split
      · next hname =>
        have hname : call.name = name := of_decide_eq_true hname
        refine List.isChain_cons.2 ⟨fun later hlater => ?_, ih hrest⟩
        obtain ⟨hnow, hfound⟩ := hrest.found_head name later hlater
        exact ⟨hcounts.now ▸ hnow, by rw [hfound, ← hname]; rfl⟩
      · exact ih hrest

/-! ## Windows -/

/-- A call that finds its name counts on from the call before it and leaves the end as it is. -/
theorem Visit.CountsFrom.next {earlier later : Visit} {count : Nat}
    (hcounts : earlier.CountsFrom count) (hprecedes : earlier.Precedes later)
    (hfound : later.found ≠ none) {total : Nat} (hlater : later.CountsFrom total) :
    total = count + 1 ∧ later.deadline? = some earlier.closesAt := by
  obtain ⟨entry, hentry⟩ := Option.ne_none_iff_exists'.1 hfound
  have hleft : earlier.left = some entry := by
    have hsome := hprecedes.found.symm.trans hentry
    exact (Option.filter_eq_some_iff.1 hsome).1
  have hvalue := hlater.found entry hentry
  rw [deadline?, hentry]
  rw [hcounts.left] at hleft
  rw [← Option.some.inj hleft] at hvalue ⊢
  exact ⟨(Decimal.natText_injective hvalue).symm, rfl⟩

/-- As long as calls find their name, they count without a gap, and its end stays as it is. -/
theorem Visit.CountsFrom.getElem? {first : Visit} {rest : List Visit} {count : Nat}
    (hcounts : first.CountsFrom count) (hchain : (first :: rest).IsChain Precedes)
    (heach : ∀ visit ∈ rest, ∃ count, visit.CountsFrom count)
    (hfound : ∀ visit ∈ rest, visit.found ≠ none) {i : Nat} {visit : Visit}
    (hvisit : (first :: rest)[i]? = some visit) :
    visit.CountsFrom (count + i) ∧ visit.closesAt = first.closesAt ∧
      (0 < i → visit.deadline? = some first.closesAt) := by
  -- Along the calls after the first; each begins one count later and with the same end.
  induction rest generalizing first count i with
  | nil =>
      cases i with
      | zero => obtain rfl := Option.some.inj hvisit; exact ⟨hcounts, rfl, nofun⟩
      | succ i => cases hvisit
  | cons second rest ih =>
      cases i with
      | zero => obtain rfl := Option.some.inj hvisit; exact ⟨hcounts, rfl, nofun⟩
      | succ i =>
          obtain ⟨hprecedes, hrest⟩ := List.isChain_cons_cons.1 hchain
          obtain ⟨total, htotal⟩ := heach second List.mem_cons_self
          obtain ⟨rfl, hdeadline⟩ :=
            hcounts.next hprecedes (hfound second List.mem_cons_self) htotal
          have hcloses : second.closesAt = first.closesAt := by
            rw [closesAt, hdeadline]
            rfl
          obtain ⟨hlast, hlastCloses, hlastDeadline⟩ := ih htotal hrest
            (fun visit h => heach visit (List.mem_cons_of_mem _ h))
            (fun visit h => hfound visit (List.mem_cons_of_mem _ h)) hvisit
          have hplace : count + 1 + i = count + (i + 1) := by omega
          refine ⟨hplace ▸ hlast, hlastCloses.trans hcloses, fun _ => ?_⟩
          rcases Nat.eq_zero_or_pos i with rfl | hlater
          · obtain rfl := Option.some.inj hvisit
            exact hdeadline
          · exact (hlastDeadline hlater).trans (congrArg some hcloses)

/-- The law of windows.  Every call counts and leaves its name with an end, and does nothing to
other names; a number up to `2 ^ 53` is told as it is.  On each name, a call finds what the call
before has left, unless that has ended.  And as long as the calls after some call find the name, it
ends when that call left it to end: when it was to end already, or else as long after the call as
that says, which is set then, and only then.  Until that end the counts have no gap. -/
theorem window_law (counter : RedisCounter) (calls : List Call) (hfits : counter.Fits calls) :
    let visits := counter.visits calls
    visits.map (·.call) = calls ∧ (∀ visit ∈ visits, ∃ count, visit.CountsFrom count) ∧
      (∀ n ≤ 2 ^ 53, Server.rounded n = n) ∧
      ∀ name,
        let own := visits.filter (·.call.name = name)
        own.IsChain Visit.Precedes ∧
        ∀ earlier first rest later, own = earlier ++ first :: (rest ++ later) →
          (∀ visit ∈ rest, visit.found ≠ none) →
          ∃ count, (first.found = none → count = 0) ∧
            (∀ entry ∈ first.found, entry.value = Decimal.natText count) ∧
            first.expirations = (if first.deadline?.isSome then []
              else [["EXPIRE", name, Decimal.natText first.call.seconds]]) ∧
            (∀ visit ∈ rest, visit.expirations = []) ∧
            ∀ (i : Nat) (visit : Visit), (first :: rest)[i]? = some visit →
              visit.left = some ⟨Decimal.natText (count + i + 1), some first.closesAt⟩ ∧
                ∃ ttl, visit.result = .ok ⟨Server.rounded (count + i + 1), ttl⟩ := by
  intro visits
  refine ⟨map_call_visits counter calls, hfits.countsFrom, fun n => Server.rounded_of_le,
    fun name => ⟨hfits.isChain_precedes name, ?_⟩⟩
  intro earlier first rest later hown hfound
  have hchain : (first :: rest).IsChain Visit.Precedes := by
    have hwhole := hfits.isChain_precedes name
    rw [hown] at hwhole
    exact (List.isChain_append.1 (List.isChain_append.1 hwhole).2.1).1
  have hmem : ∀ visit ∈ first :: rest, visit ∈ visits ∧ visit.call.name = name := by
    intro visit hvisit
    have hown' : visit ∈ visits.filter (·.call.name = name) := by
      rw [hown]
      exact List.mem_append_right _ (List.mem_append_left later hvisit)
    exact ⟨(List.mem_filter.1 hown').1, of_decide_eq_true (List.mem_filter.1 hown').2⟩
  obtain ⟨hfirst, hname⟩ := hmem first List.mem_cons_self
  obtain ⟨count, hcounts⟩ := hfits.countsFrom first hfirst
  have heach : ∀ visit ∈ rest, ∃ count, visit.CountsFrom count := fun visit hvisit =>
    hfits.countsFrom visit (hmem visit (List.mem_cons_of_mem _ hvisit)).1
  refine ⟨count, hcounts.missing, hcounts.found, hname ▸ hcounts.expirations, ?_, ?_⟩
  · intro visit hvisit
    obtain ⟨i, hi⟩ := List.mem_iff_getElem?.1 hvisit
    obtain ⟨hlast, -, hdeadline⟩ := hcounts.getElem? hchain heach hfound (i := i + 1) hi
    rw [hlast.expirations, hdeadline (Nat.succ_pos i)]
    rfl
  · intro i visit hvisit
    obtain ⟨hlast, hcloses, -⟩ := hcounts.getElem? hchain heach hfound hvisit
    exact ⟨by rw [hlast.left, hcloses], _, hlast.result⟩

/-- A name that was kept without an end gets one from the first of two calls, five seconds after it.
Another name has a fifth of a second left when it is called, which is told as nothing but keeps its
end where it is, and is counted anew when that is over. -/
theorem window_law_for_an_endless_count :
    let server : Server :=
      { entries := (Table.empty.put "a" ⟨"7", none⟩).put "b" ⟨"3", some 300⟩ }
    let counter : RedisCounter := ⟨default, some server, true, none⟩
    let calls : List Call :=
      [⟨0, "a", Duration.ofSecs 5⟩, ⟨100, "b", Duration.ofSecs 60⟩, ⟨1000, "a", Duration.ofSecs 60⟩,
        ⟨0, "b", 0⟩]
    counter.Fits calls ∧ ∃ first second third fourth : Visit,
      counter.visits calls = [first, second, third, fourth] ∧
        first.expirations = [["EXPIRE", "a", "5"]] ∧ third.expirations = [] ∧
        third.left = some ⟨"9", some 5000⟩ ∧
        second.left = some ⟨"4", some 300⟩ ∧ second.result = .ok ⟨4, none⟩ ∧
        fourth.left = some ⟨"1", some 2100⟩ ∧ fourth.result = .ok ⟨1, some 1⟩ := by
  intro server counter calls
  have hfits : counter.Fits calls := by
    refine ⟨rfl, ⟨server, rfl, rfl⟩, by decide, ?_, by decide⟩
    have hseven : Decimal.natText 7 = "7" := by decide +kernel
    have hthree : Decimal.natText 3 = "3" := by decide +kernel
    intro call hcall entry hentry
    simp only [calls, List.mem_cons, List.not_mem_nil, or_false] at hcall
    rcases hcall with rfl | rfl | rfl | rfl
    · exact ⟨7, by rw [hseven, ← Option.some.inj hentry], by decide⟩
    · exact ⟨3, by rw [hthree, ← Option.some.inj hentry], by decide⟩
    · exact ⟨7, by rw [hseven, ← Option.some.inj hentry], by decide⟩
    · exact ⟨3, by rw [hthree, ← Option.some.inj hentry], by decide⟩
  obtain ⟨-, -, -, hnames⟩ := window_law counter calls hfits
  obtain ⟨first, hfirst⟩ : ∃ first, counter.visit ⟨0, "a", Duration.ofSecs 5⟩ = first := ⟨_, rfl⟩
  obtain ⟨second, hsecond⟩ : ∃ second,
    first.after.visit ⟨100, "b", Duration.ofSecs 60⟩ = second := ⟨_, rfl⟩
  obtain ⟨third, hthird⟩ : ∃ third,
    second.after.visit ⟨1000, "a", Duration.ofSecs 60⟩ = third := ⟨_, rfl⟩
  obtain ⟨fourth, hfourth⟩ : ∃ fourth, third.after.visit ⟨0, "b", 0⟩ = fourth := ⟨_, rfl⟩
  have hvisits : counter.visits calls = [first, second, third, fourth] := by
    simp only [calls, visits, hfirst, hsecond, hthird, hfourth]
  have hown : (counter.visits calls).filter (·.call.name = "a") =
      [] ++ first :: ([third] ++ []) := by
    rw [hvisits, ← hfourth, ← hthird, ← hsecond, ← hfirst]
    rfl
  have hfound : third.found = some ⟨"8", some 5000⟩ := by
    rw [← hthird, ← hsecond, ← hfirst]
    decide +kernel
  obtain ⟨count, -, hcount, hset, hkept, hleft⟩ := (hnames "a").2 [] first [third] [] hown (by
    simp [hfound])
  have hseven : count = 7 := by
    have hvalue := hcount ⟨"7", none⟩ (by rw [← hfirst]; rfl)
    have htext : Decimal.natText 7 = "7" := by decide +kernel
    exact (Decimal.natText_injective (htext.trans hvalue)).symm
  have hcloses : first.closesAt = 5000 := by
    rw [← hfirst]
    decide +kernel
  have hother : second.left = some ⟨"4", some 300⟩ ∧ second.result = .ok ⟨4, none⟩ ∧
      fourth.left = some ⟨"1", some 2100⟩ ∧ fourth.result = .ok ⟨1, some 1⟩ := by
    rw [← hfourth, ← hthird, ← hsecond, ← hfirst]
    decide +kernel
  refine ⟨hfits, first, second, third, fourth, hvisits, ?_, hkept third List.mem_cons_self, ?_,
    hother⟩
  · rw [hset, ← hfirst]
    decide +kernel
  · rw [(hleft 1 third rfl).1, hcloses, hseven]
    decide +kernel

end Throttle.RedisCounter
