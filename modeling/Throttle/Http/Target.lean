/-!
# Request targets

What a request is for is written as a path with an optional query and fragment, as an absolute
address with a scheme and an authority, as an authority alone, or as an asterisk.  `path?` gives the
path of a well-formed target; an authority alone has none, which is the empty path.
-/

namespace Throttle.Http.Target

/-- A target has fewer bytes than this. -/
def lengthBound : Nat := 65535

def isSchemeByte (b : UInt8) : Bool :=
  (48 ≤ b && b ≤ 57) || (65 ≤ b && b ≤ 90) || (97 ≤ b && b ≤ 122) ||
    b == 43 || b == 45 || b == 46 || b == 126

/-- Whether a byte may stand in an address at all, percent signs aside. -/
def isAddressByte (b : UInt8) : Bool :=
  (48 ≤ b && b ≤ 57) || (65 ≤ b && b ≤ 90) || (97 ≤ b && b ≤ 122) ||
    "!#$&()*+,-./:;=?@[]_~".toUTF8.toList.contains b || b == 39

def isPathByte (b : UInt8) : Bool :=
  b == 0x21 || b == 0x22 || (0x24 ≤ b && b ≤ 0x3B) || b == 0x3D || (0x40 ≤ b && b ≤ 0x5F) ||
    (0x61 ≤ b && b != 0x7F)

def isQueryByte (b : UInt8) : Bool :=
  b == 0x21 || (0x24 ≤ b && b ≤ 0x3B) || b == 0x3D || (0x3F ≤ b && b != 0x7F)

/-- The path at the front of bytes that go on with nothing, a query or a fragment. -/
def pathBytes? (bytes : List UInt8) : Option (List UInt8) :=
  let path := bytes.takeWhile fun b => b != 63 && b != 35
  let query := match bytes.drop path.length with
    | 63 :: rest => rest.takeWhile (· != 35)
    | _ => []
  if path.all isPathByte && query.all isQueryByte then some path else none

/-- What was seen of an authority: colons and a percent sign since the last at-sign or bracket, and
which brackets. -/
structure AuthorityScan where
  colons : Nat := 0
  opened : Bool := false
  closed : Bool := false
  percent : Bool := false
  atEnd : Bool := false

def AuthorityScan.next (scan : AuthorityScan) (b : UInt8) : Option AuthorityScan :=
  let scan := { scan with atEnd := b == 64 }
  if b == 58 then
    if scan.colons ≥ 8 then none else some { scan with colons := scan.colons + 1 }
  else if b == 91 then
    if scan.percent || scan.opened then none else some { scan with opened := true }
  else if b == 93 then
    if !scan.opened || scan.closed then none
    else some { scan with closed := true, colons := 0, percent := false }
  else if b == 64 then some { scan with colons := 0, percent := false }
  else if b == 37 then some { scan with percent := true }
  else if isAddressByte b then some scan
  else none

/-- The authority at the front of bytes, which ends before a slash, question mark or number sign. -/
def authority? (bytes : List UInt8) : Option (List UInt8) :=
  let front := bytes.takeWhile fun b => b != 47 && b != 63 && b != 35
  match front.foldlM AuthorityScan.next {} with
  | some scan =>
    if (scan.opened != scan.closed) || scan.colons > 1 || scan.atEnd || scan.percent then none
    else some front
  | none => none

/-- The bytes after the scheme and its slashes, if there is a scheme; a scheme of more than 64 bytes
is refused. -/
def afterScheme? (bytes : List UInt8) : Option (Option (List UInt8)) :=
  let scheme := bytes.takeWhile isSchemeByte
  match bytes.drop scheme.length with
  | 58 :: 47 :: 47 :: rest => if scheme.length > 64 then none else some (some rest)
  | _ => some none

def pathOfBytes? (bytes : List UInt8) : Option (List UInt8) :=
  match bytes with
  | [] => none
  | [42] => some [42]
  | 47 :: _ => pathBytes? bytes
  | _ =>
    match afterScheme? bytes with
    | none => none
    | some none =>
      match authority? bytes with
      | some front => if front.length = bytes.length then some [] else none
      | none => none
    | some (some rest) =>
      match authority? rest with
      | none | some [] => none
      | some front =>
        (pathBytes? (rest.drop front.length)).map fun path => if path.isEmpty then [47] else path

def path? (target : String) : Option String :=
  if target.utf8ByteSize ≥ lengthBound then none
  else (pathOfBytes? target.toUTF8.toList).bind fun path =>
    String.fromUTF8? (ByteArray.mk path.toArray)

end Throttle.Http.Target
