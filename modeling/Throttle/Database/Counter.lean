import Throttle.Database.Address
import Throttle.Database.Server
import Throttle.Shared.Counter
import Throttle.Text.Record

/-!
# Counting in a database

Connecting begins to watch the server: now, and again after every interval, it is asked whether it
is there.  The first time this opens the connection, which is then kept until the counter is
disconnected, also while the server gives no good answer.  A listener is told when the server
becomes ready, and once when it stops being so.
-/

namespace Throttle

/-- A counter in a database, and the server of the database if there is one. -/
structure RedisCounter where
  settings : RedisSettings
  server : Option Database.Server
  connected : Bool := false
  /-- While the server is watched: whether its failure has been told since it was last ready. -/
  watching : Option Bool := none

namespace RedisCounter

/-- The time for opening the connection and for the answer whether the server is there. -/
def connectTimeout : Nat := Duration.ofSecs 5

def ofSettings? (settings : RedisSettings) (server : Option Database.Server) :
    Except LimiterError (RedisCounter × List Event) :=
  match settings.addressFault? with
  | some fault => .error (.config ("Invalid Redis connection settings: " ++ fault.message))
  | none =>
    .ok ({ settings, server },
      [.redisClientCreated settings.host settings.port settings.db settings.tls])

def greeting (settings : RedisSettings) : List (List String) :=
  let user := (settings.username.filter (!·.isEmpty)).toList
  let login := match settings.password.filter (!·.isEmpty) with
    | none => []
    | some password => ["AUTH" :: (user ++ [password])]
  login ++ if settings.db = 0 then [] else [["SELECT", Decimal.intText settings.db.toInt]]

def pingResult : Database.PingAnswer → Except LimiterError Unit
  | .ready => .ok ()
  | .notReady =>
    .error (.backend "An error was signalled by the server - ResponseError: not ready")
  | .silence => .error (.timeout connectTimeout)

/-- Opens the connection if need be, and asks whether the server is there. -/
def ping (counter : RedisCounter) : RedisCounter × Except LimiterError Unit :=
  match counter.server with
  | none => (counter, .error (.backend "Connection refused (os error 111)"))
  | some server =>
    let commands := (if counter.connected then [] else greeting counter.settings) ++ [["PING"]]
    ({ counter with server := some (commands.foldl .saw server), connected := true },
      pingResult server.ping)

/-- Takes note of the outcome of one round of watching, with the signals to a listener that takes
the counter to be usable or not: a failure is told if it is news, and readiness if it is. -/
def noteProbe (counter : RedisCounter) (told available : Bool) (result : Except LimiterError Unit) :
    RedisCounter × List Signal :=
  match result with
  | .ok () =>
    ({ counter with watching := some false }, if available then [] else [.connection .ready])
  | .error error =>
    ({ counter with watching := some true },
      if available || !told then [.connection (.failed error.message)] else [])

def probe (counter : RedisCounter) (available : Bool) : RedisCounter × List Signal :=
  match counter.watching with
  | none => (counter, [])
  | some told =>
    let (counter, result) := counter.ping
    counter.noteProbe told available result

def connect (counter : RedisCounter) : RedisCounter × List Signal :=
  match counter.watching with
  | some _ => (counter, [.report .monitorAlreadyRunning])
  | none => ({ counter with watching := some false }, [])

def disconnect (counter : RedisCounter) : RedisCounter × List Signal :=
  ({ counter with connected := false, watching := none },
    if counter.watching.isSome then [.connection .closed, .report .redisClosed] else [])

def countOfReply : List Int → Except LimiterError SharedCount
  | [count, ttl] =>
    .ok ⟨(count % Nat.pow 2 64).toNat, if 0 < ttl then some ttl.toNat else none⟩
  | _ => .error (.backend "Response was of incompatible type - TypeError")

/-- Increments a name for a window of whole seconds, of which there is at least one. -/
def increment (counter : RedisCounter) (name : String) (window : Nat) :
    RedisCounter × Except LimiterError SharedCount :=
  match counter.connected, counter.server with
  | true, some server =>
    let (server, reply) := server.increment name (max 1 (Duration.secs window))
    ({ counter with server := some server },
      match reply with
      | .ok reply => countOfReply reply
      | .error reason =>
        .error (.backend ("An error was signalled by the server - ResponseError: " ++ reason)))
  | _, _ => (counter, .error .notConnected)

instance : SharedCounter RedisCounter where
  connect := connect
  disconnect := disconnect
  begin counter _ _ := (counter, 0)
  finish counter name window _ := counter.increment name window

def text (counter : RedisCounter) : String :=
  Text.record "RedisCounter" [
    ("connected", Text.truth counter.connected),
    ("monitoring", Text.truth counter.watching.isSome)]

end RedisCounter

end Throttle
