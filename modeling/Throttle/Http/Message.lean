import Throttle.Http.Request
import Throttle.Http.Response

/-!
# Messages

Requests and responses as they are written on a connection: a first line, one line per header, an
empty line, and the body.  The body of a request is not looked at, but its headers must tell how
long it is.
-/

namespace Throttle.Http

/-- Why what was sent is refused before it is a request. -/
inductive Refusal where
  | malformed
  | targetTooLong
  /-- There are too many headers, or the body is too long. -/
  | tooLarge
deriving DecidableEq, Repr, Inhabited

def Refusal.status : Refusal → Nat
  | malformed => 400
  | targetTooLong => 414
  | tooLarge => 431

namespace Request

def isGap (b : UInt8) : Bool := b == 32 || b == 9

/-- The bytes of the value of a header, without gaps around it. -/
def valueBytes (s : String) : List UInt8 :=
  Text.dropTrailing isGap (s.toUTF8.toList.dropWhile isGap)

def greatestHeaderCount : Nat := 100

/-- Whether a byte may stand in a target on a connection. -/
def isVisible (b : UInt8) : Bool := 0x20 < b && b != 0x7F

/-- What the headers tell about the length of the body so far. -/
structure Framing where
  length : Option Nat := none
  /-- If the body is encoded: whether that ends with its last chunk. -/
  chunked : Option Bool := none
deriving DecidableEq, Repr, Inhabited

def endsChunked (header : Header) : Bool :=
  match header.text? with
  | none => false
  | some s =>
    let last := (s.toList.reverse.takeWhile (· != ',')).reverse
    Text.asciiLower (String.ofList (Text.trimChars last)) == "chunked"

/-- The length that a header gives: digits, and a number of 64 bits. -/
def length? (header : Header) : Option Nat :=
  (Decimal.digits? (header.value.map fun b => Char.ofNat b.toNat)).filter (· < Nat.pow 2 64)

/-- The framing after one more header.  A length that is given twice must be the same, and counts
for nothing after an encoding; the two greatest lengths have a meaning of their own. -/
def Framing.next (framing : Framing) (header : Header) : Except Refusal Framing :=
  if header.name = "transfer-encoding" then
    .ok { framing with chunked := some (endsChunked header) }
  else if header.name = "content-length" ∧ framing.chunked = none then
    match length? header, framing.length with
    | none, _ => .error .malformed
    | some n, some length => if n = length then .ok framing else .error .malformed
    | some n, none =>
      if n > Nat.pow 2 64 - 3 then .error .tooLarge else .ok { framing with length := some n }
  else .ok framing

/-- Checks that the headers tell how long the body is. -/
def checkFraming (headers : List Header) : Except Refusal Unit := do
  let framing ← headers.foldlM Framing.next {}
  if framing.chunked = some false then throw .malformed

/-- The headers of names and values, of which there may not be too many. -/
def readHeaders (headers : List (String × String)) : Except Refusal (List Header) :=
  let read := (headers.take greatestHeaderCount).mapM fun (name, value) =>
    Header.ofBytes? name (valueBytes value)
  match read with
  | none => .error .malformed
  | some read => if headers.length > greatestHeaderCount then .error .tooLarge else .ok read

def ofParts (method target : String) (headers : List (String × String))
    (peer : Option Net.SocketAddress) : Except Refusal Request := do
  let bytes := target.toUTF8.toList
  if !isToken method || bytes.isEmpty || !bytes.all isVisible then throw .malformed
  let headers ← readHeaders headers
  if bytes.length ≥ Target.lengthBound then throw .targetTooLong
  match Target.path? target with
  | none => throw .malformed
  | some path =>
    checkFraming headers
    return { method, path, headers, peer }

def headerLine? (line : String) : Option (String × String) :=
  let cs := line.toList
  let name := cs.takeWhile (· != ':')
  match cs.drop name.length with
  | [] => none
  | _ :: value => some (String.ofList name, String.ofList value)

/-- Reads a request from its lines up to the empty one. -/
def ofLines (peer : Option Net.SocketAddress) : List String → Except Refusal Request
  | [] => .error .malformed
  | first :: lines =>
    match first.splitOn " ", lines.mapM headerLine? with
    | [method, target, version], some headers =>
      if version == "HTTP/1.1" || version == "HTTP/1.0" then ofParts method target headers peer
      else .error .malformed
    | _, _ => .error .malformed

end Request

namespace Response

def refusal (refusal : Refusal) : Response := { status := refusal.status }

def statusWords : Nat → String
  | 200 => "OK"
  | 400 => "Bad Request"
  | 404 => "Not Found"
  | 405 => "Method Not Allowed"
  | 414 => "URI Too Long"
  | 429 => "Too Many Requests"
  | 431 => "Request Header Fields Too Large"
  | 503 => "Service Unavailable"
  | _ => ""

def message (response : Response) : String :=
  let size := ("content-length", Decimal.natText response.body.utf8ByteSize)
  let head := (size :: response.headers).map fun (name, value) => name ++ ": " ++ value
  "\r\n".intercalate
    (["HTTP/1.1 " ++ Decimal.natText response.status ++ " " ++ statusWords response.status] ++
      head ++ ["", response.body])

end Response

end Throttle.Http
