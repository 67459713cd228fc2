import Throttle.Database.Counter
import Throttle.Proofs.Limiter.Likeness

/-!
# Counters with different logins

How a counter logs in shows in the commands that its server has seen, and nowhere else.  Main
statement: counters in the same state, whatever their settings, do the same and report the same, word
for word, whatever happens at the server.
-/

namespace Throttle

namespace Database.Server

/-- Servers in the same state, but for the commands that they have seen. -/
def Alike (left right : Server) : Prop := ∃ seen, right = { left with seen }

namespace Alike

variable {left right : Server}

theorem refl (server : Server) : server.Alike server := ⟨server.seen, rfl⟩

theorem saw (halike : left.Alike right) (command command' : List String) :
    (left.saw command).Alike (right.saw command') := by
  obtain ⟨seen, rfl⟩ := halike
  exact ⟨_, rfl⟩

theorem foldl_saw (halike : left.Alike right) (commands commands' : List (List String)) :
    (commands.foldl Server.saw left).Alike (commands'.foldl Server.saw right) := by
  have hseen : ∀ (commands : List (List String)) (server : Server),
      ∃ seen, commands.foldl Server.saw server = { server with seen } := by
    intro commands
    induction commands with
    | nil => exact fun server => ⟨server.seen, rfl⟩
    | cons command commands ih => exact fun server => ih (server.saw command)
  obtain ⟨before, rfl⟩ := halike
  obtain ⟨seen, hleft⟩ := hseen commands left
  obtain ⟨seen', hright⟩ := hseen commands' { left with seen := before }
  rw [hleft, hright]
  exact ⟨seen', rfl⟩

theorem pass (halike : left.Alike right) (milliseconds : Nat) :
    (left.pass milliseconds).Alike (right.pass milliseconds) := by
  obtain ⟨seen, rfl⟩ := halike
  exact ⟨_, rfl⟩

theorem set (halike : left.Alike right) (name value : String) (seconds : Option Nat) :
    (left.set name value seconds).Alike (right.set name value seconds) := by
  obtain ⟨seen, rfl⟩ := halike
  exact ⟨_, rfl⟩

theorem increase (halike : left.Alike right) (name : String) :
    (left.increase name).1.Alike (right.increase name).1 ∧
      (left.increase name).2 = (right.increase name).2 := by
  obtain ⟨seen, rfl⟩ := halike
  unfold Server.increase
  dsimp only [Server.saw]
  split
  · exact ⟨⟨_, rfl⟩, rfl⟩
  · split <;> exact ⟨⟨_, rfl⟩, rfl⟩

theorem expire (halike : left.Alike right) (name : String) (seconds : Nat) :
    (left.expire name seconds).1.Alike (right.expire name seconds).1 ∧
      (left.expire name seconds).2 = (right.expire name seconds).2 := by
  obtain ⟨seen, rfl⟩ := halike
  unfold Server.expire
  dsimp only [Server.saw]
  split
  · exact ⟨⟨_, rfl⟩, rfl⟩
  · split <;> exact ⟨⟨_, rfl⟩, rfl⟩

theorem secondsLeft_eq (halike : left.Alike right) (name : String) :
    left.secondsLeft name = right.secondsLeft name := by
  obtain ⟨seen, rfl⟩ := halike
  rfl

theorem count (halike : left.Alike right) (name : String) (seconds : Nat) :
    (left.count name seconds).1.Alike (right.count name seconds).1 ∧
      (left.count name seconds).2 = (right.count name seconds).2 := by
  obtain ⟨hincreased, hcounted⟩ := halike.increase name
  unfold Server.count
  generalize left.increase name = increased at hincreased hcounted ⊢
  generalize right.increase name = increased' at hincreased hcounted ⊢
  obtain ⟨server, counted⟩ := increased
  obtain ⟨server', counted'⟩ := increased'
  dsimp only at hincreased hcounted ⊢
  subst hcounted
  cases counted with
  | error reason => exact ⟨hincreased, rfl⟩
  | ok count =>
      have hasked := hincreased.saw ["TTL", name] ["TTL", name]
      dsimp only
      rw [hasked.secondsLeft_eq name]
      split
      · exact ⟨hasked, rfl⟩
      · obtain ⟨hexpired, hexpiring⟩ := hasked.expire name seconds
        refine ⟨hexpired, ?_⟩
        rw [hexpiring]

theorem increment (halike : left.Alike right) (name : String) (seconds : Nat) :
    (left.increment name seconds).1.Alike (right.increment name seconds).1 ∧
      (left.increment name seconds).2 = (right.increment name seconds).2 := by
  have hcount := halike.count name seconds
  obtain ⟨seen, rfl⟩ := halike
  unfold Server.increment
  dsimp only
  split
  · exact ⟨⟨_, rfl⟩, rfl⟩
  · exact hcount

end Alike

end Database.Server

namespace RedisCounter

open Database (Server PingAnswer)

/-- What happens to a counter, or at its server. -/
inductive Happening where
  | probe
  | pass (milliseconds : Nat)
  | set (name value : String) (seconds : Option Nat)
  /-- How the server answers from now on when it is asked whether it is there. -/
  | answer (answer : PingAnswer)
  /-- What the server answers to the next script instead of running it. -/
  | reply (reply : List Int)
  /-- From now on another server, or none, stands in the place of the server. -/
  | serve (server : Option Server)

def happen (counter : RedisCounter) (available : Bool) : Happening → RedisCounter × List Signal
  | .probe => counter.probe available
  | .pass milliseconds =>
    ({ counter with server := counter.server.map (·.pass milliseconds) }, [])
  | .set name value seconds =>
    ({ counter with server := counter.server.map (·.set name value seconds) }, [])
  | .answer answer =>
    ({ counter with server := counter.server.map ({ · with ping := answer }) }, [])
  | .reply reply =>
    ({ counter with server := counter.server.map ({ · with nextReply := some reply }) }, [])
  | .serve server => ({ counter with server }, [])

instance : BusyCounter RedisCounter where
  Happening := Happening
  happen happening counter available := counter.happen available happening

/-- Counters in the same state, but for their settings and for what their servers have seen. -/
structure Alike (left right : RedisCounter) : Prop where
  server : Option.Rel Server.Alike left.server right.server
  connected : left.connected = right.connected
  watching : left.watching = right.watching

theorem alike_of_settings (settings settings' : RedisSettings) (server : Option Server) :
    Alike { settings, server } { settings := settings', server } := by
  refine ⟨?_, rfl, rfl⟩
  cases server with
  | none => exact .none
  | some server => exact .some (.refl server)

namespace Alike

variable {left right : RedisCounter}

theorem text_eq (halike : left.Alike right) : left.text = right.text := by
  rw [text, text, halike.connected, halike.watching]

theorem map_server (halike : left.Alike right) {f : Server → Server}
    (hf : ∀ {s t : Server}, s.Alike t → (f s).Alike (f t)) :
    Alike { left with server := left.server.map f } { right with server := right.server.map f } := by
  obtain ⟨hserver, hconnected, hwatching⟩ := halike
  refine ⟨?_, hconnected, hwatching⟩
  generalize left.server = server at hserver ⊢
  generalize right.server = server' at hserver ⊢
  cases hserver with
  | none => exact .none
  | some hserver => exact .some (hf hserver)

theorem ping (halike : left.Alike right) :
    left.ping.1.Alike right.ping.1 ∧ left.ping.2 = right.ping.2 := by
  obtain ⟨hserver, hconnected, hwatching⟩ := halike
  unfold RedisCounter.ping
  generalize hleft : left.server = server at hserver ⊢
  generalize hright : right.server = server' at hserver ⊢
  cases hserver with
  | none => exact ⟨⟨by rw [hleft, hright]; exact .none, hconnected, hwatching⟩, rfl⟩
  | some hserver =>
      refine ⟨⟨.some (hserver.foldl_saw _ _), rfl, hwatching⟩, ?_⟩
      obtain ⟨seen, rfl⟩ := hserver
      rfl

theorem noteProbe (halike : left.Alike right) (told available : Bool)
    (result : Except LimiterError Unit) :
    (left.noteProbe told available result).1.Alike (right.noteProbe told available result).1 ∧
      (left.noteProbe told available result).2 = (right.noteProbe told available result).2 := by
  cases result with
  | ok => exact ⟨⟨halike.server, halike.connected, rfl⟩, rfl⟩
  | error error => exact ⟨⟨halike.server, halike.connected, rfl⟩, rfl⟩

theorem probe (halike : left.Alike right) (available : Bool) :
    (left.probe available).1.Alike (right.probe available).1 ∧
      (left.probe available).2 = (right.probe available).2 := by
  unfold RedisCounter.probe
  rw [halike.watching]
  split
  · exact ⟨halike, rfl⟩
  · next told _ =>
    obtain ⟨hasked, hresult⟩ := halike.ping
    dsimp only
    rw [hresult]
    exact hasked.noteProbe told available _

theorem connect (halike : left.Alike right) :
    left.connect.1.Alike right.connect.1 ∧ left.connect.2 = right.connect.2 := by
  unfold RedisCounter.connect
  rw [halike.watching]
  split
  · exact ⟨halike, rfl⟩
  · exact ⟨⟨halike.server, halike.connected, rfl⟩, rfl⟩

theorem disconnect (halike : left.Alike right) :
    left.disconnect.1.Alike right.disconnect.1 ∧ left.disconnect.2 = right.disconnect.2 := by
  unfold RedisCounter.disconnect
  rw [halike.watching]
  exact ⟨⟨halike.server, rfl, rfl⟩, rfl⟩

theorem increment (halike : left.Alike right) (name : String) (window : Nat) :
    (left.increment name window).1.Alike (right.increment name window).1 ∧
      (left.increment name window).2 = (right.increment name window).2 := by
  have hsame := halike
  obtain ⟨hserver, hconnected, hwatching⟩ := halike
  unfold RedisCounter.increment
  rw [hconnected]
  generalize left.server = server at hserver ⊢
  generalize right.server = server' at hserver ⊢
  cases right.connected with
  | false => exact ⟨hsame, rfl⟩
  | true =>
      cases hserver with
      | none => exact ⟨hsame, rfl⟩
      | some hserver =>
          obtain ⟨hcounted, hreply⟩ := hserver.increment name (max 1 (Duration.secs window))
          refine ⟨⟨.some hcounted, rfl, hwatching⟩, ?_⟩
          dsimp only
          rw [hreply]

theorem happen (halike : left.Alike right) (available : Bool) (happening : Happening) :
    (left.happen available happening).1.Alike (right.happen available happening).1 ∧
      (left.happen available happening).2 = (right.happen available happening).2 := by
  cases happening with
  | probe => exact halike.probe available
  | pass milliseconds => exact ⟨halike.map_server fun hserver => hserver.pass milliseconds, rfl⟩
  | set name value seconds =>
      exact ⟨halike.map_server fun hserver => hserver.set name value seconds, rfl⟩
  | answer answer =>
      refine ⟨halike.map_server ?_, rfl⟩
      rintro s t ⟨seen, rfl⟩
      exact ⟨seen, rfl⟩
  | reply reply =>
      refine ⟨halike.map_server ?_, rfl⟩
      rintro s t ⟨seen, rfl⟩
      exact ⟨seen, rfl⟩
  | serve server =>
      refine ⟨⟨?_, halike.connected, halike.watching⟩, rfl⟩
      exact (alike_of_settings left.settings right.settings server).server

end Alike

theorem bisimulation_alike : BusyCounter.Bisimulation Alike where
  connect := Alike.connect
  disconnect := Alike.disconnect
  begin _ _ halike := ⟨halike, rfl⟩
  finish name window _ halike := halike.increment name window
  happen happening available halike := halike.happen available happening

end RedisCounter

end Throttle
