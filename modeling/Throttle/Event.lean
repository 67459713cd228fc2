import Throttle.Error
import Throttle.Settings.Basic
import Throttle.Text.Record

/-!
# Events

What the limiter reports while it works.  An event is data; its line names its level, says what
happened and lists its fields in order.  Passwords occur in no event.
-/

namespace Throttle

inductive Event where
  | unknownMode (value : String)
  | invalidNumber (key value : String) (default : Nat)
  | invalidTruth (key value : String) (default : Bool)
  | zeroLimit (key : String) (default : Nat)
  | zeroWindow (key : String) (default : Nat)
  | limiterConfigured (mode : BackendMode) (environment : String) (shared memoryFallback : Bool)
  | limiterStarted (sweepInterval : Nat)
  | limiterStopped
  | alreadyRunning
  | notRunning
  | sweepTaskFailed (error : String)
  | sweepTaskExiting
  | sweepPanicked
  | checking (key : String) (limit windowSecs : Nat)
  | windowOpened (key : String)
  | localLimitExceeded (key : String) (count limit retryAfter : Nat)
  | swept (removed remaining : Nat)
  | backendReady
  | backendFailed (reason : String)
  | backendEnded
  | incrementing (key : String)
  | incrementFailed (key : String) (error : LimiterError)
  | fallingBack (key : String)
  | refusingWithoutBackend (key : String)
  | sharedLimitExceeded (key : String) (count limit retryAfter : Nat)
  | requestEntered (method path : String)
  | requestRejected (client : String) (violation : Violation)
  | redisClientCreated (host : String) (port : UInt16) (db : Int64) (tls : Bool)
  | monitorAlreadyRunning
  | redisClosed
deriving DecidableEq, Repr, Inhabited

namespace Event

def level : Event → String
  | .unknownMode .. | .invalidNumber .. | .invalidTruth .. | .zeroLimit .. | .zeroWindow ..
  | .sweepTaskFailed .. | .sweepPanicked | .backendFailed .. | .backendEnded
  | .incrementFailed .. | .refusingWithoutBackend .. => "WARN"
  | .limiterConfigured .. | .limiterStarted .. | .limiterStopped | .backendReady
  | .redisClosed => "INFO"
  | .alreadyRunning | .notRunning | .localLimitExceeded .. | .swept .. | .fallingBack ..
  | .sharedLimitExceeded .. | .requestRejected .. | .redisClientCreated ..
  | .monitorAlreadyRunning => "DEBUG"
  | .sweepTaskExiting | .checking .. | .windowOpened .. | .incrementing .. => "TRACE"
  | .requestEntered .. => "SPAN"

def message : Event → String
  | .unknownMode .. => "Unknown RATE_LIMIT_STORE, using auto"
  | .invalidNumber .. => "Invalid number, using default"
  | .invalidTruth .. => "Invalid boolean, using default"
  | .zeroLimit .. => "Zero limit, using default"
  | .zeroWindow .. => "Zero window, using default"
  | .limiterConfigured .. => "Rate limiter configured"
  | .limiterStarted .. => "Rate limiter started"
  | .limiterStopped => "Rate limiter stopped"
  | .alreadyRunning => "Rate limiter already running"
  | .notRunning => "Rate limiter not running"
  | .sweepTaskFailed .. => "Sweep task ended abnormally"
  | .sweepTaskExiting => "Sweep task exiting"
  | .sweepPanicked => "Rate limit sweep panicked, will retry on next tick"
  | .checking .. => "Checking rate limit"
  | .windowOpened .. => "Opening rate limit window"
  | .localLimitExceeded .. => "Local rate limit exceeded"
  | .swept .. => "Swept expired rate limit counters"
  | .backendReady => "Rate limiter connected to shared backend"
  | .backendFailed .. => "Rate limiter shared backend error"
  | .backendEnded => "Rate limiter shared backend connection ended"
  | .incrementing .. => "Incrementing shared counter"
  | .incrementFailed .. => "Shared counter increment failed"
  | .fallingBack .. => "Shared backend unavailable, using in-memory fallback"
  | .refusingWithoutBackend .. =>
    "Shared backend unavailable and memory fallback disabled, rejecting request"
  | .sharedLimitExceeded .. => "Shared rate limit exceeded"
  | .requestEntered .. => "rate_limit"
  | .requestRejected .. => "Request rejected by rate limiter"
  | .redisClientCreated .. => "Created Redis client for rate limiting"
  | .monitorAlreadyRunning => "Redis monitor already running"
  | .redisClosed => "Redis connection for rate limiting closed"

def exceededFields (key : String) (count limit retryAfter : Nat) : List (String × String) :=
  [("key", key), ("count", Decimal.natText count), ("limit", Decimal.natText limit),
    ("retry_after", Decimal.natText retryAfter)]

def fields : Event → List (String × String)
  | .unknownMode value => [("value", value)]
  | .invalidNumber key value default =>
    [("key", key), ("value", value), ("default", Decimal.natText default)]
  | .invalidTruth key value default =>
    [("key", key), ("value", value), ("default", Text.truth default)]
  | .zeroLimit key default => [("key", key), ("default", Decimal.natText default)]
  | .zeroWindow key default => [("key", key), ("default", Decimal.natText default)]
  | .limiterConfigured mode environment shared memoryFallback =>
    [("mode", mode.name), ("environment", environment), ("shared", Text.truth shared),
      ("memory_fallback", Text.truth memoryFallback)]
  | .limiterStarted sweepInterval => [("sweep_interval", Duration.text sweepInterval)]
  | .sweepTaskFailed error => [("error", error)]
  | .checking key limit windowSecs =>
    [("key", key), ("limit", Decimal.natText limit), ("window", Decimal.natText windowSecs)]
  | .windowOpened key => [("key", key)]
  | .localLimitExceeded key count limit retryAfter => exceededFields key count limit retryAfter
  | .swept removed remaining =>
    [("removed", Decimal.natText removed), ("remaining", Decimal.natText remaining)]
  | .backendFailed reason => [("reason", reason)]
  | .incrementing key => [("key", key)]
  | .incrementFailed key error => [("key", key), ("error", error.message)]
  | .fallingBack key => [("key", key)]
  | .refusingWithoutBackend key => [("key", key)]
  | .sharedLimitExceeded key count limit retryAfter => exceededFields key count limit retryAfter
  | .requestEntered method path => [("method", method), ("path", path)]
  | .requestRejected client violation =>
    [("client", client), ("code", violation.code),
      ("retry_after", Decimal.natText violation.retryAfter)]
  | .redisClientCreated host port db tls =>
    [("host", host), ("port", Decimal.natText port.toNat), ("db", Decimal.intText db.toInt),
      ("tls", Text.truth tls)]
  | .limiterStopped | .alreadyRunning | .notRunning | .sweepTaskExiting | .sweepPanicked
  | .backendReady | .backendEnded | .monitorAlreadyRunning | .redisClosed => []

def line (event : Event) : String :=
  event.level ++ " " ++ event.message ++
    String.join (event.fields.map fun (key, value) => " " ++ key ++ "=" ++ value)

end Event

end Throttle
