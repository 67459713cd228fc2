import Throttle.Clock
import Throttle.Key
import Throttle.Text.Percent

/-!
# Settings of the limiter

How many requests are let through in which window, where they are counted, and how the shared
counter is reached.  The mode `auto` trusts the name of the environment: a development environment
counts in memory, every other one in the shared counter.
-/

namespace Throttle

inductive BackendMode where
  | memory
  | shared
  | auto
deriving DecidableEq, Repr, Inhabited

namespace BackendMode

/-- Reads a mode, without regard to blanks around it and to case. -/
def parse? (s : String) : Option BackendMode :=
  let word := Text.asciiLower (Text.trim s)
  if word = "memory" then some .memory
  else if word = "shared" ∨ word = "redis" then some .shared
  else if word = "auto" then some .auto
  else none

def word : BackendMode → String
  | .memory => "memory"
  | .shared => "shared"
  | .auto => "auto"

def name : BackendMode → String
  | .memory => "Memory"
  | .shared => "Shared"
  | .auto => "Auto"

end BackendMode

structure WindowPolicy where
  limit : UInt64
  windowSecs : UInt64
deriving DecidableEq, Repr, Inhabited

def WindowPolicy.window (policy : WindowPolicy) : Nat := Duration.ofSecs policy.windowSecs.toNat

structure RedisSettings where
  host : String
  port : UInt16
  username : Option String
  password : Option String
  db : Int64
  tls : Bool
  opTimeout : Nat
deriving DecidableEq, Repr, Inhabited

namespace RedisSettings

/-- The part of the address that names the user, with its closing at-sign. -/
def credentials (redis : RedisSettings) : String :=
  match redis.username, redis.password with
  | some user, some pass => Text.percentEncode user ++ ":" ++ Text.percentEncode pass ++ "@"
  | none, some pass => ":" ++ Text.percentEncode pass ++ "@"
  | some user, none => Text.percentEncode user ++ "@"
  | none, none => ""

def scheme (redis : RedisSettings) : String := if redis.tls then "rediss" else "redis"

def url (redis : RedisSettings) : String :=
  redis.scheme ++ "://" ++ redis.credentials ++ redis.host ++ ":" ++
    Decimal.natText redis.port.toNat ++ "/" ++ Decimal.intText redis.db.toInt

end RedisSettings

structure Settings where
  mutating : WindowPolicy
  read : WindowPolicy
  mode : BackendMode
  environment : String
  /-- What the names of shared counters begin with. -/
  keyPrefix : String
  /-- Whether requests are counted in memory while the shared counter cannot be reached. -/
  memoryFallback : Bool
  redis : RedisSettings
deriving DecidableEq, Repr, Inhabited

def isDevelopmentName (environment : String) : Bool :=
  Text.asciiLower (Text.trim environment) ∈ ["development", "dev", "local"]

namespace Settings

def inDevelopment (settings : Settings) : Bool := isDevelopmentName settings.environment

def usesShared (settings : Settings) : Bool :=
  match settings.mode with
  | .memory => false
  | .shared => true
  | .auto => !settings.inDevelopment

def policy (settings : Settings) : MethodClass → WindowPolicy
  | .mutating => settings.mutating
  | .read => settings.read

end Settings

end Throttle
