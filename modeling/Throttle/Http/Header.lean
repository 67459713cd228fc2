import Throttle.Text.AsciiCase
import Throttle.Text.Blank

/-!
# Header lines

A header has a name, which is a token and is compared without regard to case, and a value of bytes.
Only a value of visible ASCII characters, spaces and tabs can be read as a text.
-/

namespace Throttle.Http

def isTokenByte (b : UInt8) : Bool :=
  (48 ≤ b && b ≤ 57) || (65 ≤ b && b ≤ 90) || (97 ≤ b && b ≤ 122) ||
    "!#$%&*+-.^_|~".toUTF8.toList.contains b || b == 39 || b == 96

def isToken (s : String) : Bool :=
  let bytes := s.toUTF8.toList
  !bytes.isEmpty && bytes.all isTokenByte

def isValueByte (b : UInt8) : Bool := (32 ≤ b && b != 127) || b == 9

/-- Whether a byte is a visible ASCII character, a space or a tab. -/
def isTextByte (b : UInt8) : Bool := (32 ≤ b && b < 127) || b == 9

/-- A header line: its name in small letters, and its value. -/
structure Header where
  name : String
  value : List UInt8
deriving DecidableEq, Repr, Inhabited

namespace Header

def ofBytes? (name : String) (value : List UInt8) : Option Header :=
  if isToken name && value.all isValueByte then some ⟨Text.asciiLower name, value⟩ else none

def text? (header : Header) : Option String :=
  if header.value.all isTextByte then
    some (String.ofList (header.value.map fun b => Char.ofNat b.toNat))
  else none

end Header

/-- The text of the first header with this name, without blanks around it; none if there is no such
header, if it cannot be read as a text, or if nothing but blanks is in it. -/
def headerText? (name : String) (headers : List Header) : Option String :=
  (((headers.find? (·.name == name)).bind Header.text?).map Text.trim).filter (!·.isEmpty)

/-- The part of the first header with this name up to the first comma, without blanks around it;
none under the same conditions. -/
def firstItem? (name : String) (headers : List Header) : Option String :=
  (((headers.find? (·.name == name)).bind Header.text?).map fun s =>
    Text.trim (String.ofList (s.toList.takeWhile (· != ',')))).filter (!·.isEmpty)

end Throttle.Http
