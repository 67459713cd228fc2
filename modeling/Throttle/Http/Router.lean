import Throttle.Http.Request
import Throttle.Http.Response
import Throttle.Limiter.Service

/-!
# The guarded router

The one resource is `/status`, which tells how the limiter is doing.  Every request is checked
first, also one for which there is no resource or no such method.
-/

namespace Throttle.Http

/-- What a response takes from outside: the time of day, and a name for a request that has none. -/
structure Ambient where
  timestamp : String
  freshId : String
deriving Repr, Inhabited

def statusBody {κ : Type} (limiter : Limiter κ) : Json :=
  .object [
    ("running", .bool limiter.isRunning),
    ("mode", .text limiter.settings.mode.word),
    ("backend", .text limiter.active.word),
    ("localCounters", .nat limiter.store.size)]

def isStatusPath (path : String) : Bool := path == "/status"

/-- The response of the resources, without a check. -/
def unguarded {κ : Type} (limiter : Limiter κ) (request : Request) : Response :=
  if !isStatusPath request.path then { status := 404 }
  else if request.method == "GET" || request.method == "HEAD" then .json 200 (statusBody limiter)
  else { status := 405 }

/-- The response as it is sent: the resource names its methods to a request with another method, and
the response to a HEAD request has no body. -/
def sent (request : Request) (response : Response) : Response :=
  let response :=
    if isStatusPath request.path && request.method != "GET" && request.method != "HEAD" then
      response.withHeader "allow" "GET,HEAD"
    else response
  if request.method == "HEAD" then { response with body := "" } else response

/-- The response to a request that was checked, and what is reported of it.  Only one that may
proceed comes to the handler. -/
def respond {κ : Type} (handler : Limiter κ → Request → Response) (ambient : Ambient)
    (limiter : Limiter κ) (request : Request) (admission : Admission) : Response × List Event :=
  match admission.violation? with
  | none => (sent request (handler limiter request), [])
  | some violation =>
    let requestId := request.requestId?.getD ambient.freshId
    (sent request (.rejection violation requestId ambient.timestamp),
      [.requestRejected request.client violation])

/-- Handles a request behind the guard: checks it and responds. -/
def guarded {κ : Type} [SharedCounter κ] (handler : Limiter κ → Request → Response)
    (ambient : Ambient) (service : Service κ) (request : Request) :
    Outcome (Service κ) (Except Fault Response) :=
  let checked := service.check request.method request.client
  let entered := Event.requestEntered request.method request.path
  match checked.value with
  | .error fault =>
    { state := checked.state, value := .error fault, events := entered :: checked.events }
  | .ok admission =>
    let (response, events) := respond handler ambient checked.state.limiter request admission
    { state := checked.state
      value := .ok response
      events := entered :: (checked.events ++ events) }

def handle {κ : Type} [SharedCounter κ] (ambient : Ambient) (service : Service κ)
    (request : Request) : Outcome (Service κ) (Except Fault Response) :=
  guarded unguarded ambient service request

end Throttle.Http
