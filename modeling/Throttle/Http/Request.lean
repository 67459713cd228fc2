import Throttle.Http.Header
import Throttle.Http.Target
import Throttle.Net.Socket

/-!
# Requests

A request as the limiter sees it, and who sent it.  Behind a proxy the client is named by the first
entry of `x-forwarded-for` or by `x-real-ip`; otherwise it is known by an address that was resolved
before, or by the address of the connection.  What was forged or is not readable falls through to
the next.
-/

namespace Throttle.Http

structure Request where
  method : String
  path : String
  headers : List Header := []
  /-- The address of the client that was resolved before. -/
  resolved : Option Net.IpAddress := none
  /-- The other end of the connection. -/
  peer : Option Net.SocketAddress := none
deriving Repr, Inhabited

namespace Request

def unknownClient : String := "unknown"

def client (request : Request) : String :=
  ((firstItem? "x-forwarded-for" request.headers).orElse fun _ =>
    (headerText? "x-real-ip" request.headers).orElse fun _ =>
    (request.resolved.map Net.IpAddress.text).orElse fun _ =>
    request.peer.map fun peer => peer.ip.text).getD unknownClient

/-- The name by which the sender refers to the request, if it gave one. -/
def requestId? (request : Request) : Option String := headerText? "x-request-id" request.headers

end Request

end Throttle.Http
