import Throttle.Text.Hex

/-!
# Percent-encoding

ASCII letters and digits stand for themselves; every other character is written as its UTF-8 bytes,
each as a percent sign and two capital hexadecimal digits.  `percentDecode` reads nothing else, and
`percentBytesOf` every text.
-/

namespace Throttle.Text

def isPlainByte (b : UInt8) : Bool :=
  (48 ≤ b && b ≤ 57) || (65 ≤ b && b ≤ 90) || (97 ≤ b && b ≤ 122)

/-- A byte as itself or as a percent sign and two digits. -/
def percentByte (b : UInt8) : List Char :=
  if isPlainByte b then [Char.ofNat b.toNat]
  else ['%', hexDigit (b.toNat / 16), hexDigit (b.toNat % 16)]

def percentBytes (bs : List UInt8) : List Char := bs.flatMap percentByte

def percentEncode (s : String) : String :=
  String.ofList (percentBytes s.toUTF8.toList)

/-- The bytes that a percent-encoded text denotes; a percent sign without two digits is refused, and
so is a character beyond ASCII. -/
def percentDecode : List Char → Option (List UInt8)
  | [] => some []
  | '%' :: a :: b :: rest => do
    let high ← hexValue? a
    let low ← hexValue? b
    let bytes ← percentDecode rest
    return UInt8.ofNat (16 * high + low) :: bytes
  | c :: rest =>
    if c = '%' ∨ 128 ≤ c.toNat then none
    else (percentDecode rest).map (UInt8.ofNat c.toNat :: ·)

/-- The bytes of a text in which some may be percent-encoded; a percent sign without two digits
stands for itself. -/
def percentBytesOf : List Char → List UInt8
  | [] => []
  | '%' :: a :: b :: rest =>
    match hexValue? a, hexValue? b with
    | some high, some low => UInt8.ofNat (16 * high + low) :: percentBytesOf rest
    | _, _ => 37 :: percentBytesOf (a :: b :: rest)
  | c :: rest => (String.singleton c).toUTF8.toList ++ percentBytesOf rest

/-- The text that a text denotes in which bytes may be percent-encoded, if the bytes are one. -/
def percentText? (cs : List Char) : Option String :=
  String.fromUTF8? (ByteArray.mk (percentBytesOf cs).toArray)

end Throttle.Text
