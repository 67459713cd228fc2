import Throttle.Clock

/-!
# Errors and rejections

The causes for which an operation of the limiter fails, with the one wording of each, and the two
reasons for which a request is turned away.
-/

namespace Throttle

inductive LimiterError where
  | config (reason : String)
  | backend (reason : String)
  | timeout (limit : Nat)
  | notConnected
  | io (reason : String)
deriving DecidableEq, Repr, Inhabited

def LimiterError.message : LimiterError → String
  | .config reason => "Configuration error: " ++ reason
  | .backend reason => "Shared backend error: " ++ reason
  | .timeout limit => "Shared backend operation timed out after " ++ Duration.text limit
  | .notConnected => "Shared backend is not connected"
  | .io reason => "I/O error: " ++ reason

/-- Why a request was turned away; the client may try again after so many seconds. -/
inductive Violation where
  | quotaExceeded (retryAfter : Nat)
  | backendUnavailable (retryAfter : Nat)
deriving DecidableEq, Repr, Inhabited

namespace Violation

def code : Violation → String
  | .quotaExceeded _ => "THROTTLED"
  | .backendUnavailable _ => "RATE_LIMIT_BACKEND_UNAVAILABLE"

def message : Violation → String
  | .quotaExceeded _ => "Too many requests, please try again later"
  | .backendUnavailable _ => "Rate limit backend unavailable"

def retryAfter : Violation → Nat
  | .quotaExceeded n => n
  | .backendUnavailable n => n

def status : Violation → Nat
  | .quotaExceeded _ => 429
  | .backendUnavailable _ => 503

end Violation

end Throttle
