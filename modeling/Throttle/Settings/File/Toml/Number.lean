import Throttle.Json.Basic
import Throttle.Settings.File.Toml.Text
import Throttle.Yaml.Node

/-!
# Numbers and dates in TOML

A number is whole and has 64 bits, in one of four bases, or it has double precision.  A single
underscore may stand between two digits.  A date, a time or both count as a text.
-/

namespace Throttle.Toml

/-- A value, and what its kind is called. -/
structure Value where
  kind : String
  json : Json
deriving Repr, Inhabited

def outOfRange : String := "value is out of range"

/-- Reads further digits; an underscore must be followed by one. -/
def readMoreDigits (p : Char → Bool) : List Char → Except Fault (List Char × List Char)
  | [] => .ok ([], [])
  | ['_'] => .error { expected := ["digit"], rest := [] }
  | '_' :: c :: cs =>
    if p c then do
      let (ds, rest) ← readMoreDigits p cs
      return (c :: ds, rest)
    else .error { expected := ["digit"], rest := c :: cs }
  | c :: cs =>
    if p c then do
      let (ds, rest) ← readMoreDigits p cs
      return (c :: ds, rest)
    else .ok ([], c :: cs)

def readDigits (p : Char → Bool) (cs : List Char) : Except Fault (List Char × List Char) :=
  if cs.head?.any p then readMoreDigits p cs else .error { rest := cs, isFinal := false }

/-- Whether there is a minus sign, and what follows a sign if there is one. -/
def splitSign : List Char → Bool × List Char
  | '-' :: cs => (true, cs)
  | '+' :: cs => (false, cs)
  | cs => (false, cs)

/-- Reads a sign and digits, the first of which is no zero unless it is the only one. -/
def readDecimal (cs : List Char) : Except Fault ((Bool × List Char) × List Char) :=
    within "integer" do
  let (negative, cs) := splitSign cs
  let (digits, rest) ←
    if cs.head? = some '0' then .ok (['0'], cs.drop 1) else readDigits Char.isDigit cs
  return ((negative, digits), rest)

/-- The whole number of digits, if it has 64 bits. -/
def wholeNumber (start : List Char) (negative : Bool) (n : Nat) (rest : List Char) :
    Except Fault (Value × List Char) :=
  let i : Int := if negative then -n else n
  if i < -(Nat.pow 2 63) then
    .error { reason := "number too small to fit in target type", rest := start }
  else if Nat.pow 2 63 ≤ i then
    .error { reason := "number too large to fit in target type", rest := start }
  else .ok (⟨"integer", .int i⟩, rest)

def readBased (kind : String) (base : Nat) (start : List Char) :
    Except Fault (Value × List Char) := do
  let isDigit (c : Char) : Bool := (Text.hexValue? c).any (· < base)
  let (digits, rest) ← final (within kind (readDigits isDigit (start.drop 2)))
  wholeNumber start false ((digits.filterMap Text.hexValue?).foldl (base * · + ·) 0) rest

def readInteger (start : List Char) : Except Fault (Value × List Char) :=
  match start with
  | '0' :: 'x' :: _ => readBased "hexadecimal integer" 16 start
  | '0' :: 'o' :: _ => readBased "octal integer" 8 start
  | '0' :: 'b' :: _ => readBased "binary integer" 2 start
  | _ => do
    let ((negative, digits), rest) ← readDecimal start
    wholeNumber start negative (Decimal.valueFrom 0 digits) rest

def readSpecial (cs : List Char) : Except Fault (Binary64 × List Char) :=
  let (negative, cs) := splitSign cs
  if cs.take 3 = "inf".toList then .ok (.infinite negative, cs.drop 3)
  else if cs.take 3 = "nan".toList then .ok (.notANumber, cs.drop 3)
  else .error { rest := cs, isFinal := false }

/-- Reads an exponent after its letter, with the letter. -/
def readExponent (cs : List Char) : Except Fault (List Char × List Char) := do
  let (negative, cs) := splitSign cs
  let (digits, rest) ← final (readDigits Char.isDigit cs)
  return ('e' :: (if negative then ['-'] else []) ++ digits, rest)

def isExponentMark (c : Char) : Bool := c == 'e' || c == 'E'

/-- Reads what makes a number one of double precision: a fraction, an exponent, or both. -/
def readFraction (cs : List Char) : Except Fault (List Char × List Char) :=
  match cs with
  | '.' :: cs => do
    let (digits, rest) ← final (expecting ["digit"] (readDigits Char.isDigit cs))
    if rest.head?.any isExponentMark then
      let (exponent, rest) ← readExponent (rest.drop 1)
      return ('.' :: digits ++ exponent, rest)
    else return ('.' :: digits, rest)
  | cs =>
    if cs.head?.any isExponentMark then readExponent (cs.drop 1)
    else .error { rest := cs, isFinal := false }

/-- Reads the digits of a number of double precision, which must not be too great. -/
def readFinite (start : List Char) : Except Fault (Binary64 × List Char) := do
  let ((negative, whole), rest) ← readDecimal start
  let (fraction, rest) ← readFraction rest
  let sign := if negative then ['-'] else []
  let x := (Yaml.number? (String.ofList (sign ++ whole ++ fraction))).getD .notANumber
  if x = .infinite false then .error { rest := start } else return (x, rest)

def readFloat (start : List Char) : Except Fault (Value × List Char) :=
  within "floating-point number" do
    let (x, rest) ← orElse (readFinite start) fun _ => readSpecial start
    return (⟨"float", .number (.float x)⟩, rest)

def readTwo (least greatest : Nat) : List Char → Except Fault (Nat × List Char)
  | a :: b :: rest =>
    if a.isDigit && b.isDigit then
      let n := Decimal.valueFrom 0 [a, b]
      if least ≤ n ∧ n ≤ greatest then .ok (n, rest)
      else .error { reason := outOfRange, rest := a :: b :: rest, isFinal := false }
    else .error { rest := a :: b :: rest, isFinal := false }
  | cs => .error { rest := cs, isFinal := false }

def readMark (c : Char) (cs : List Char) : Except Fault (Unit × List Char) :=
  if cs.head? = some c then .ok ((), cs.drop 1) else .error { rest := cs, isFinal := false }

def twoDigits (n : Nat) : List Char := (if n < 10 then ['0'] else []) ++ Decimal.ofNat n

def daysIn (year month : Nat) : Nat :=
  if month = 2 then
    if year % 4 = 0 ∧ (year % 100 ≠ 0 ∨ year % 400 = 0) then 29 else 28
  else if month = 4 ∨ month = 6 ∨ month = 9 ∨ month = 11 then 30
  else 31

def readDay (cs : List Char) : Except Fault (List Char × List Char) := do
  let year := (cs.takeWhile Char.isDigit).take 4
  if year.length < 4 then throw { rest := cs, isFinal := false }
  let (_, cs) ← readMark '-' (cs.drop 4)
  let (month, cs) ← final (readTwo 1 12 cs)
  let (_, cs) ← final (readMark '-' cs)
  let (day, rest) ← final (readTwo 1 31 cs)
  if daysIn (Decimal.valueFrom 0 year) month < day then
    throw { reason := outOfRange, rest := cs }
  return (year ++ '-' :: twoDigits month ++ '-' :: twoDigits day, rest)

/-- Reads the fraction of a second, of which nine digits count, if there is one. -/
def readSecondFraction (cs : List Char) : List Char × List Char :=
  match cs with
  | '.' :: rest =>
    let digits := rest.takeWhile Char.isDigit
    if digits.isEmpty then ([], cs)
    else
      let shown := ((digits.take 9).reverse.dropWhile (· == '0')).reverse
      (if shown.isEmpty then [] else '.' :: shown, rest.drop digits.length)
  | _ => ([], cs)

def readTime (cs : List Char) : Except Fault (List Char × List Char) := do
  let (hour, cs) ← readTwo 0 23 cs
  let (_, cs) ← readMark ':' cs
  final do
    let (minute, cs) ← readTwo 0 59 cs
    let (_, cs) ← readMark ':' cs
    let (second, cs) ← readTwo 0 60 cs
    let (fraction, rest) := readSecondFraction cs
    return (twoDigits hour ++ ':' :: twoDigits minute ++ ':' :: twoDigits second ++ fraction, rest)

def readOffset (cs : List Char) : Except Fault (List Char × List Char) := within "time offset" do
  match cs with
  | 'Z' :: rest | 'z' :: rest => return (['Z'], rest)
  | '+' :: cs | '-' :: cs => final do
    let (hours, cs) ← readTwo 0 23 cs
    let (_, cs) ← readMark ':' cs
    let (minutes, rest) ← readTwo 0 59 cs
    return (twoDigits hours ++ ':' :: twoDigits minutes, rest)
  | cs => throw { rest := cs, isFinal := false }

/-- The text of an offset whose sign is in front of `cs`; one of nothing is positive. -/
def signedOffset (cs offset : List Char) : List Char :=
  if offset = ['Z'] then offset
  else if cs.head? = some '-' ∧ offset ≠ "00:00".toList then '-' :: offset
  else '+' :: offset

/-- Reads the time after a date, if there is one. -/
def readTimeOfDay (cs : List Char) : Except Fault (List Char × List Char) := do
  if cs.head?.any fun c => c == 'T' || c == 't' || c == ' ' then
    let (time, rest) ← optional cs (readTime (cs.drop 1))
    match time with
    | none => return ([], cs)
    | some time =>
      let (offset, after) ← optional rest (readOffset rest)
      return ('T' :: time ++ (offset.map (signedOffset rest)).getD [], after)
  else return ([], cs)

/-- Reads a date and perhaps a time, or a time alone. -/
def readDate (start : List Char) : Except Fault (Value × List Char) := do
  let dated := within "date-time" do
    let (day, cs) ← readDay start
    let (time, rest) ← readTimeOfDay cs
    return (day ++ time, rest)
  let (text, rest) ← orElse dated fun _ => within "time" (readTime start)
  return (⟨"datetime", .text (String.ofList text)⟩, rest)

def readNumber (start : List Char) : Except Fault (Value × List Char) :=
  orElse (readDate start) fun _ => orElse (readFloat start) fun _ => readInteger start

end Throttle.Toml
