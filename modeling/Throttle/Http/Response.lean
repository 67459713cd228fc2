import Throttle.Admission
import Throttle.Json.Writer

/-!
# Responses

A rejected request is answered with the status of the violation, the seconds to wait both in a
header and in the body, and the name of the request, so that it can be found again.
-/

namespace Throttle.Http

/-- A response: its status, its headers in the order of their names, and its body. -/
structure Response where
  status : Nat
  headers : List (String × String) := []
  body : String := ""
deriving DecidableEq, Repr, Inhabited

namespace Response

/-- The response with one more header, unless it has one of this name, in the order of names. -/
def withHeader (response : Response) (name value : String) : Response :=
  if response.headers.any (·.1 == name) then response
  else
    let (before, after) := response.headers.partition (·.1 < name)
    { response with headers := before ++ (name, value) :: after }

def json (status : Nat) (body : Json) : Response :=
  { status, headers := [("content-type", "application/json")], body := body.write }

def rejectionBody (violation : Violation) (requestId timestamp : String) : Json :=
  .object [
    ("status", .nat violation.status),
    ("message", .text violation.message),
    ("code", .text violation.code),
    ("retryAfter", .nat violation.retryAfter),
    ("timestamp", .text timestamp),
    ("requestId", .text requestId)]

def rejection (violation : Violation) (requestId timestamp : String) : Response :=
  (json violation.status (rejectionBody violation requestId timestamp)).withHeader "retry-after"
    (Decimal.natText violation.retryAfter)

end Response

end Throttle.Http
