import Throttle.Binary64
import Throttle.Decimal
import Throttle.Json.Basic
import Throttle.Text.Hex

/-!
# Compact JSON texts

A value is written without blanks, an object with its fields in order.  In a string only quotes,
backslashes and the characters below the space are escaped: five of those have a short form, the
others are written by code point.  A number of double precision is written with its shortest digits,
with an exponent if it is very large or very small.
-/

namespace Throttle.Json

/-- The escape of a character by its code point, below 256. -/
def escapeCode (c : Char) : List Char :=
  let digits := [c.toNat / 16, c.toNat % 16].map fun n => (Text.hexDigit n).toLower
  ['\\', 'u', '0', '0'] ++ digits

def escape (c : Char) : List Char :=
  if c = '"' then ['\\', '"']
  else if c = '\\' then ['\\', '\\']
  else if c.toNat = 8 then ['\\', 'b']
  else if c.toNat = 12 then ['\\', 'f']
  else if c = '\n' then ['\\', 'n']
  else if c = '\r' then ['\\', 'r']
  else if c = '\t' then ['\\', 't']
  else if c.toNat < 32 then escapeCode c
  else [c]

def writeText (s : String) : List Char :=
  '"' :: (s.toList.flatMap escape ++ ['"'])

/-- The numeral of `c · 10 ^ p`: a point stands within the first sixteen places or at most five
places before the digits, and otherwise after the first digit, with an exponent. -/
def writeScaled (c : Nat) (p : Int) : List Char :=
  let ds := Decimal.ofNat c
  let place := (ds.length : Int) + p
  if 0 ≤ p ∧ place ≤ 16 then Binary64.positional c p ++ ['.', '0']
  else if -5 < place ∧ place ≤ 16 then Binary64.positional c p
  else
    let fraction := if ds.length = 1 then [] else '.' :: ds.drop 1
    ds.take 1 ++ fraction ++ 'e' :: Decimal.ofInt (place - 1)

/-- The numeral of a number of double precision; one that is not finite is null. -/
def writeFloat : Binary64 → List Char
  | .finite negative significand e =>
    let sign := if negative then ['-'] else []
    if significand = 0 then sign ++ ['0', '.', '0']
    else
      let (c, p) := Binary64.shortest .toEven significand e
      sign ++ writeScaled c p
  | _ => "null".toList

def Number.write : Number → List Char
  | .int i => Decimal.ofInt i
  | .float x => writeFloat x

mutual

/-- The compact text of a value.  A broken value is written as null. -/
def writeChars : Json → List Char
  | .null => "null".toList
  | .bool true => "true".toList
  | .bool false => "false".toList
  | .number n => n.write
  | .text s => writeText s
  | .broken => "null".toList
  | .list [] => ['[', ']']
  | .list (item :: items) => '[' :: (writeChars item ++ writeItems items)
  | .object [] => ['{', '}']
  | .object ((name, value) :: fields) =>
    '{' :: (writeText name ++ ':' :: (writeChars value ++ writeFields fields))

/-- The items after the first, each after a comma, and the closing bracket. -/
def writeItems : List Json → List Char
  | [] => [']']
  | item :: items => ',' :: (writeChars item ++ writeItems items)

/-- The fields after the first, each after a comma, and the closing brace. -/
def writeFields : List (String × Json) → List Char
  | [] => ['}']
  | (name, value) :: fields =>
    ',' :: (writeText name ++ ':' :: (writeChars value ++ writeFields fields))

end

def write (j : Json) : String := String.ofList (writeChars j)

end Throttle.Json
