import Throttle.Net.Ip

/-!
# Socket addresses

An internet address and a port.  A version 6 address stands in brackets and may name a numeric scope
after a percent sign.
-/

namespace Throttle.Net

structure SocketAddress where
  ip : IpAddress
  port : UInt16
deriving DecidableEq, Repr, Inhabited

namespace SocketAddress

def digitsFront? (greatest : Nat) (cs : List Char) : Option (Nat × List Char) :=
  let ds := cs.takeWhile Char.isDigit
  (Decimal.digits? ds).bind fun n =>
    if n ≤ greatest then some (n, cs.dropWhile Char.isDigit) else none

def port? : List Char → Option UInt16
  | ':' :: cs =>
    match digitsFront? 65535 cs with
    | some (n, []) => some (UInt16.ofNat n)
    | _ => none
  | _ => none

/-- Reads an optional numeric scope. -/
def scope? : List Char → Option (List Char)
  | '%' :: cs => (digitsFront? 4294967295 cs).map (·.2)
  | cs => some cs

def v4? (cs : List Char) : Option SocketAddress := do
  let ((a, b, c, d), rest) ← IpAddress.v4Front? cs
  let port ← port? rest
  return ⟨.v4 a b c d, port⟩

/-- Reads a version 6 address in brackets and a port. -/
def v6? : List Char → Option SocketAddress
  | '[' :: cs => do
    let (ip, rest) ← IpAddress.v6Front? cs
    let rest ← scope? rest
    match rest with
    | ']' :: rest =>
      let port ← port? rest
      return ⟨ip, port⟩
    | _ => none
  | _ => none

def parse? (s : String) : Option SocketAddress :=
  (v4? s.toList).orElse fun _ => v6? s.toList

end SocketAddress

end Throttle.Net
