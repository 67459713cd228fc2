import Throttle.Binary64
import Throttle.Json.Basic
import Throttle.Settings.Source
import Throttle.Text.AsciiCase

/-!
# Layered sources

A settings file and the environment above it form one source.  Names are compared in small letters;
a name with dots or subscripts is a path and sets something inside the value of its first part.
Where a name is set again, the later value counts, also when it is blank.  Only scalars have a
text: a list, a table or nothing hides what was there.
-/

namespace Throttle

/-- The text of a number in a settings file: a whole number of 64 bits with a sign as it is, every
other number in double precision. -/
def Json.Number.settingText : Json.Number → String
  | .int i => if i < Nat.pow 2 63 then Decimal.intText i else (Binary64.ofNat i.toNat).text
  | .float x => x.text

namespace Layered

inductive Value where
  | text (s : String)
  /-- A list, or nothing. -/
  | hidden
  /-- A table, which is merged into a table that is there already. -/
  | table (isEmpty : Bool)
deriving DecidableEq, Repr, Inhabited

def Value.ofJson : Json → Value
  | .text s => .text s
  | .bool true => .text "true"
  | .bool false => .text "false"
  | .number n => .text n.settingText
  | .object fields => .table fields.isEmpty
  | .null | .broken | .list _ => .hidden

/-- A layer: names and what they are set to, in order. -/
abbrev Layer := List (String × Value)

/-- The small letter of a character.  Besides the ASCII capitals only the Kelvin sign has a small
letter in ASCII; all recognised names are ASCII, so no other letter matters to them. -/
def smallLetter (c : Char) : Char :=
  if c.toNat = 0x212A then 'k' else c.toLower

def smallName (name : String) : String := String.ofList (name.toList.map smallLetter)

def isPathChar (c : Char) : Bool :=
  c.isAlphanum || c == '_' || c == '-' || c == ' '

/-- The rest of a text after a subscript, without its opening bracket: a number of 64 bits with
gaps around it, and the closing bracket. -/
def afterSubscript? (cs : List Char) : Option (List Char) :=
  let isGap (c : Char) : Bool := c == ' ' || c == '\t'
  let number := cs.dropWhile isGap
  let sign := number.takeWhile (· == '-')
  let digits := (number.drop sign.length).takeWhile Char.isDigit
  let inRange := sign.length ≤ 1 &&
    (Decimal.integerChars? (-(Nat.pow 2 63)) (Nat.pow 2 63 - 1) (sign ++ digits)).isSome
  match inRange, ((number.drop sign.length).drop digits.length).dropWhile isGap with
  | true, ']' :: rest => some rest
  | _, _ => none

/-- Whether a text is a sequence of parts after dots and subscripts in brackets. -/
def isPathRest (fuel : Nat) (cs : List Char) : Bool :=
  match fuel, cs with
  | _, [] => true
  | fuel + 1, '.' :: cs =>
    !(cs.takeWhile isPathChar).isEmpty && isPathRest fuel (cs.dropWhile isPathChar)
  | fuel + 1, '[' :: cs => (afterSubscript? cs).any (isPathRest fuel)
  | _, _ => false

/-- The name that a small name sets, and whether it sets something inside of it. -/
def target (name : String) : String × Bool :=
  let cs := name.toList
  let first := cs.takeWhile isPathChar
  let rest := cs.dropWhile isPathChar
  if first.isEmpty || rest.isEmpty || !isPathRest rest.length rest then (name, false)
  else (String.ofList first, true)

/-- What a name denotes after it was set: the text of a scalar, or none if it is hidden. -/
def set (old : Option (Option String)) (inside : Bool) : Value → Option (Option String)
  | .text s => some (if inside then none else some s)
  | .hidden => some none
  | .table isEmpty => if isEmpty && !inside then some (old.getD none) else some none

/-- What a small name denotes after a sequence of settings, if it was ever set. -/
def denoted (layer : Layer) (name : String) : Option (Option String) :=
  layer.foldl (fun old (key, value) =>
    let (key, inside) := target (smallName key)
    if key = name then set old inside value else old) none

/-- The source of a file and the environment above it. -/
def source (file : Layer) (environment : List (String × String)) : Source := fun name =>
  let layer := file ++ environment.map fun (key, value) => (key, Value.text value)
  (denoted layer (Text.asciiLower name)).getD none

def ofJson? : Json → Option Layer
  | .object fields => some (fields.map fun (name, value) => (name, Value.ofJson value))
  | _ => none

end Layered

end Throttle
