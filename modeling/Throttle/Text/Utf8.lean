/-!
# Reading UTF-8

`decodeLossy` reads bytes as characters; where they do not form one, the longest front of a
character that stands there is read as the replacement character.
-/

namespace Throttle.Text

def replacement : Char := '\ufffd'

/-- The ranges of the bytes that go on with a character after its first byte; none if no character
begins with the byte. -/
def laterBytes? (b : UInt8) : Option (List (UInt8 × UInt8)) :=
  if b < 0x80 then some []
  else if b < 0xC2 then none
  else if b < 0xE0 then some [(0x80, 0xBF)]
  else if b = 0xE0 then some [(0xA0, 0xBF), (0x80, 0xBF)]
  else if b = 0xED then some [(0x80, 0x9F), (0x80, 0xBF)]
  else if b < 0xF0 then some [(0x80, 0xBF), (0x80, 0xBF)]
  else if b = 0xF0 then some [(0x90, 0xBF), (0x80, 0xBF), (0x80, 0xBF)]
  else if b < 0xF4 then some [(0x80, 0xBF), (0x80, 0xBF), (0x80, 0xBF)]
  else if b = 0xF4 then some [(0x80, 0x8F), (0x80, 0xBF), (0x80, 0xBF)]
  else none

/-- How many bytes at the front lie in their ranges. -/
def countInRanges : List (UInt8 × UInt8) → List UInt8 → Nat
  | (low, high) :: ranges, b :: bs =>
    if low ≤ b ∧ b ≤ high then countInRanges ranges bs + 1 else 0
  | _, _ => 0

def codeOf (first : UInt8) (later : List UInt8) : Nat :=
  let lead := match later.length with
    | 0 => first.toNat
    | 1 => first.toNat % 32
    | 2 => first.toNat % 16
    | _ => first.toNat % 8
  later.foldl (fun n b => 64 * n + b.toNat % 64) lead

def decodeLossy : List UInt8 → List Char
  | [] => []
  | b :: bs =>
    match laterBytes? b with
    | none => replacement :: decodeLossy bs
    | some ranges =>
      let count := countInRanges ranges bs
      let c := if count = ranges.length then Char.ofNat (codeOf b (bs.take count)) else replacement
      c :: decodeLossy (bs.drop count)
termination_by bs => bs.length
decreasing_by all_goals grind

end Throttle.Text
