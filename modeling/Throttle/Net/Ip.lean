import Throttle.Decimal
import Throttle.Text.Hex

/-!
# Internet addresses

Addresses of version 4 and 6 and the texts that denote them.  A part of a version 4 address has no
superfluous zero.  A version 6 address may leave out one run of zero groups, and may end in a
version 4 address; it is printed with its longest run of zero groups left out (the first of equals,
and never a single group), and with a version 4 ending if it maps such an address.
-/

namespace Throttle.Net

/-- An internet address, as four bytes or as eight groups of sixteen bits. -/
inductive IpAddress where
  | v4 (a b c d : UInt8)
  | v6 (a b c d e f g h : UInt16)
deriving DecidableEq, Repr, Inhabited

namespace IpAddress

/-- Reads a byte: up to three digits, no superfluous zero. -/
def byte? (cs : List Char) : Option (UInt8 × List Char) :=
  let ds := cs.takeWhile Char.isDigit
  let rest := cs.dropWhile Char.isDigit
  if ds.length > 3 || (ds.length > 1 && ds.head? == some '0') then none
  else (Decimal.digits? ds).bind fun n =>
    if n ≤ 255 then some (UInt8.ofNat n, rest) else none

def dotByte? : List Char → Option (UInt8 × List Char)
  | '.' :: cs => byte? cs
  | _ => none

def v4Front? (cs : List Char) : Option ((UInt8 × UInt8 × UInt8 × UInt8) × List Char) := do
  let (a, cs) ← byte? cs
  let (b, cs) ← dotByte? cs
  let (c, cs) ← dotByte? cs
  let (d, cs) ← dotByte? cs
  return ((a, b, c, d), cs)

/-- Reads a group: one to four hexadecimal digits. -/
def group? (cs : List Char) : Option (UInt16 × List Char) :=
  let ds := cs.takeWhile fun c => (Text.hexValue? c).isSome
  if ds.isEmpty || ds.length > 4 then none
  else some (UInt16.ofNat (ds.foldl (fun n c => 16 * n + (Text.hexValue? c).getD 0) 0),
    cs.drop ds.length)

/-- Reads up to `room` groups with colons between them, the last two of which may be written as a
version 4 address; `first` says that no group stands before them.  The flag of the result tells
whether the groups end in a version 4 address. -/
def groups (room : Nat) (first : Bool) (cs : List Char) : List UInt16 × Bool × List Char :=
  match room with
  | 0 => ([], false, cs)
  | room + 1 =>
    let afterColon := if first then some cs else
      match cs with
      | ':' :: cs => some cs
      | _ => none
    match afterColon with
    | none => ([], false, cs)
    | some inner =>
      match (if room = 0 then none else v4Front? inner) with
      | some ((a, b, c, d), rest) =>
        ([a.toUInt16 * 256 + b.toUInt16, c.toUInt16 * 256 + d.toUInt16], true, rest)
      | none =>
        match group? inner with
        | none => ([], false, cs)
        | some (g, rest) =>
          let (gs, ended, rest) := groups room false rest
          (g :: gs, ended, rest)

def ofGroups? : List UInt16 → Option IpAddress
  | [a, b, c, d, e, f, g, h] => some (.v6 a b c d e f g h)
  | _ => none

def v6Front? (cs : List Char) : Option (IpAddress × List Char) :=
  let (head, headV4, rest) := groups 8 true cs
  if head.length = 8 then (ofGroups? head).map (·, rest)
  else if headV4 then none
  else match rest with
    | ':' :: ':' :: rest =>
      let (tail, _, rest) := groups (7 - head.length) true rest
      (ofGroups? (head ++ List.replicate (8 - head.length - tail.length) 0 ++ tail)).map (·, rest)
    | _ => none

def parse? (s : String) : Option IpAddress :=
  match v4Front? s.toList with
  | some ((a, b, c, d), []) => some (.v4 a b c d)
  | _ =>
    match v6Front? s.toList with
    | some (ip, []) => some ip
    | _ => none

def dotted (a b c d : UInt8) : String :=
  ".".intercalate ([a, b, c, d].map fun n => Decimal.natText n.toNat)

def groupText (g : UInt16) : String := String.ofList (Nat.toDigits 16 g.toNat)

def zeroRun (gs : List UInt16) : Nat := (gs.takeWhile (· == 0)).length

/-- Where the first of the longest runs of zero groups begins, and how long it is. -/
def longestZeroRun (gs : List UInt16) : Nat × Nat :=
  (List.range gs.length).foldl (fun (best : Nat × Nat) i =>
    let n := zeroRun (gs.drop i)
    if n > best.2 then (i, n) else best) (0, 0)

def groupsText (gs : List UInt16) : String := ":".intercalate (gs.map groupText)

def text : IpAddress → String
  | .v4 a b c d => dotted a b c d
  | .v6 0 0 0 0 0 0xFFFF g h =>
    "::ffff:" ++ dotted (g >>> 8).toUInt8 g.toUInt8 (h >>> 8).toUInt8 h.toUInt8
  | .v6 a b c d e f g h =>
    let gs := [a, b, c, d, e, f, g, h]
    let (start, n) := longestZeroRun gs
    if n > 1 then groupsText (gs.take start) ++ "::" ++ groupsText (gs.drop (start + n))
    else groupsText gs

end IpAddress

end Throttle.Net
