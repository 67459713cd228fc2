import Throttle.Error
import Throttle.Text.Record

/-!
# Admissions

The outcome of one check of a request.
-/

namespace Throttle

inductive Admission where
  | allowed
  /-- The client has used up its quota of this window. -/
  | denied (retryAfter : Nat)
  /-- The shared counter is required and cannot be reached. -/
  | unavailable (retryAfter : Nat)
deriving DecidableEq, Repr, Inhabited

namespace Admission

def mayProceed : Admission → Bool
  | .allowed => true
  | _ => false

def violation? : Admission → Option Violation
  | .allowed => none
  | .denied n => some (.quotaExceeded n)
  | .unavailable n => some (.backendUnavailable n)

def text : Admission → String
  | .allowed => "Allowed"
  | .denied n => Text.record "Denied" [("retry_after", Decimal.natText n)]
  | .unavailable n => Text.record "Unavailable" [("retry_after", Decimal.natText n)]

end Admission

def Violation.text : Violation → String
  | .quotaExceeded n => Text.record "QuotaExceeded" [("retry_after", Decimal.natText n)]
  | .backendUnavailable n => Text.record "BackendUnavailable" [("retry_after", Decimal.natText n)]

end Throttle
