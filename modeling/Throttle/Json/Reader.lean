import Throttle.Decimal
import Throttle.Json.Basic
import Throttle.Json.Fault
import Throttle.Text.Hex

/-!
# Reading JSON texts

`read?` and `readSound` accept exactly one value, with blanks around it.  Strings may hold every
character from the space on and the usual escapes; a pair of surrogate escapes is one character.
What is well formed but denotes nothing is kept by the one and is a fault for the other.
-/

namespace Throttle.Json

def skipBlanks (cs : List Char) : List Char :=
  cs.dropWhile fun c => c == ' ' || c == '\n' || c == '\t' || c == '\r'

def hex4? (a b c d : Char) : Option Nat := do
  let a ← Text.hexValue? a
  let b ← Text.hexValue? b
  let c ← Text.hexValue? c
  let d ← Text.hexValue? d
  return 4096 * a + 256 * b + 16 * c + d

def shortEscape? (c : Char) : Option Nat :=
  if c = '"' then some 34
  else if c = '\\' then some 92
  else if c = '/' then some 47
  else if c = 'b' then some 8
  else if c = 'f' then some 12
  else if c = 'n' then some 10
  else if c = 'r' then some 13
  else if c = 't' then some 9
  else none

/-- Reads the units of a string up to its closing quote: code points, and halves of surrogate pairs
where they are escaped. -/
def readUnits : List Char → Except Fault (List Nat × List Char)
  | [] => .error ⟨.endInText, []⟩
  | '"' :: cs => .ok ([], cs)
  | '\\' :: 'u' :: a :: b :: c :: d :: cs =>
    match hex4? a b c d with
    | none => .error ⟨.badEscape, cs⟩
    | some unit => do
      let (units, rest) ← readUnits cs
      return (unit :: units, rest)
  | ['\\', 'u'] | ['\\', 'u', _] | ['\\', 'u', _, _] | ['\\', 'u', _, _, _] =>
    .error ⟨.endInText, []⟩
  | '\\' :: e :: cs =>
    match shortEscape? e with
    | none => .error ⟨.badEscape, cs⟩
    | some unit => do
      let (units, rest) ← readUnits cs
      return (unit :: units, rest)
  | c :: cs =>
    if c = '\\' then .error ⟨.endInText, []⟩
    else if c.toNat < 32 then .error ⟨.controlCharacter, cs⟩
    else do
      let (units, rest) ← readUnits cs
      return (c.toNat :: units, rest)

/-- The characters of units, unless half of a surrogate pair stands alone. -/
def charsOfUnits? : List Nat → Option (List Char)
  | [] => some []
  | [u] => if 0xD800 ≤ u ∧ u < 0xE000 then none else some [Char.ofNat u]
  | u :: v :: units =>
    if 0xD800 ≤ u ∧ u < 0xDC00 then
      if 0xDC00 ≤ v ∧ v < 0xE000 then
        (charsOfUnits? units).map (Char.ofNat (0x10000 + (u - 0xD800) * 1024 + (v - 0xDC00)) :: ·)
      else none
    else if 0xDC00 ≤ u ∧ u < 0xE000 then none
    else (charsOfUnits? (v :: units)).map (Char.ofNat u :: ·)

/-- Where half of a surrogate pair stands alone in a string, if one does. -/
def loneHalf? : List Char → Option Fault
  | [] => none
  | '"' :: _ => none
  | '\\' :: 'u' :: a :: b :: c :: d :: cs =>
    let unit := (hex4? a b c d).getD 0
    if 0xDC00 ≤ unit ∧ unit < 0xE000 then some ⟨.loneHalf, cs⟩
    else if 0xD800 ≤ unit ∧ unit < 0xDC00 then
      match cs with
      | '\\' :: 'u' :: a :: b :: c :: d :: cs =>
        let unit := (hex4? a b c d).getD 0
        if 0xDC00 ≤ unit ∧ unit < 0xE000 then loneHalf? cs else some ⟨.loneHalf, cs⟩
      | '\\' :: cs => some (.atNext .noSecondHalf cs)
      | cs => some (.atNext .noSecondHalf cs)
    else loneHalf? cs
  | '\\' :: _ :: cs => loneHalf? cs
  | _ :: cs => loneHalf? cs

/-- Reads a string after its opening quote; none if half of a surrogate pair stands alone in it. -/
def readText (cs : List Char) : Except Fault (Option String × List Char) := do
  let (units, rest) ← readUnits cs
  return ((charsOfUnits? units).map String.ofList, rest)

/-- Reads the digits of a whole part: a zero, or digits that begin with none. -/
def readWhole : List Char → Except Fault (List Char × List Char)
  | [] => .error ⟨.endInValue, []⟩
  | '0' :: cs =>
    if cs.head?.any Char.isDigit then .error (.atNext .badNumber cs) else .ok (['0'], cs)
  | c :: cs =>
    if c.isDigit then .ok (c :: cs.takeWhile Char.isDigit, cs.dropWhile Char.isDigit)
    else .error ⟨.badNumber, cs⟩

def readDigits (cs : List Char) : Option (List Char × List Char) :=
  match cs.takeWhile Char.isDigit with
  | [] => none
  | ds => some (ds, cs.dropWhile Char.isDigit)

def noDigit (cs : List Char) : Fault :=
  .atNext (if cs.isEmpty then .endInValue else .badNumber) cs

def readFraction : List Char → Except Fault (Option (List Char) × List Char)
  | '.' :: cs =>
    match readDigits cs with
    | none => .error (noDigit cs)
    | some (ds, rest) => .ok (some ds, rest)
  | cs => .ok (none, cs)

def readExponent : List Char → Except Fault (Option Int × List Char)
  | c :: cs =>
    if c = 'e' ∨ c = 'E' then
      let (negative, cs) := match cs with
        | '-' :: cs => (true, cs)
        | '+' :: cs => (false, cs)
        | cs => (false, cs)
      match readDigits cs with
      | none => .error (noDigit cs)
      | some (ds, rest) =>
        let n : Int := Decimal.valueFrom 0 ds
        .ok (some (if negative then -n else n), rest)
    else .ok (none, c :: cs)
  | [] => .ok (none, [])

/-- Goes on with a number by digits, as long as it has 64 bits: the number, and how many digits have
gone into it. -/
def keepDigits (n : Nat) : List Char → Nat × Nat
  | [] => (n, 0)
  | d :: ds =>
    let next := Decimal.valueFrom n [d]
    if next < Nat.pow 2 64 then
      let (n, count) := keepDigits next ds
      (n, count + 1)
    else (n, 0)

/-- A number of 64 bits times a power of ten.  Both are rounded first and their product or quotient
then; the number is divided more than once if the power of ten is too small. -/
def scaled (x : Binary64) (exponent : Int) : Binary64 :=
  if x.isZero then x
  else if h : exponent < -308 then scaled (x.div (.ofDecimal false 1 308)) (exponent + 308)
  else if exponent < 0 then x.div (.ofDecimal false 1 (-exponent))
  else if exponent ≤ 308 then x.mul (.ofDecimal false 1 exponent)
  else .infinite false
termination_by (-exponent).toNat

/-- The number of a numeral's parts, if it is not too large.  Of the digits only those count that
go into 64 bits, and a whole part that does not has its other digits dropped. -/
def Number.ofParts? (negative : Bool) (whole : List Char) (fraction : Option (List Char))
    (exponent : Option Int) : Option Number :=
  let (n, count) := keepDigits 0 whole
  let dropped : Int := (whole.length - count : Nat)
  let float (n : Nat) (e : Int) : Option Number :=
    match scaled (.ofNat n) e with
    | .finite _ significand e => some (.float (.finite negative significand e))
    | _ => none
  match fraction, exponent with
  | none, none =>
    if dropped = 0 then
      if !negative then some (.int n)
      else if n = 0 ∨ Nat.pow 2 63 < n then float n 0
      else some (.int (-(n : Int)))
    else float n dropped
  | _, _ =>
    let (n, count) := keepDigits n (fraction.getD [])
    float n (dropped - count + exponent.getD 0)

/-- Reads a number without its sign; none if it is too large. -/
def readUnsigned (negative : Bool) (cs : List Char) :
    Except Fault (Option Number × List Char) := do
  let (whole, cs) ← readWhole cs
  let (fraction, cs) ← readFraction cs
  let (exponent, cs) ← readExponent cs
  return (Number.ofParts? negative whole fraction exponent, cs)

def readNumber : List Char → Except Fault (Option Number × List Char)
  | '-' :: cs => readUnsigned true cs
  | c :: cs =>
    if c.isDigit then readUnsigned false (c :: cs) else .error (.atNext .noValue (c :: cs))
  | [] => .error ⟨.endInValue, []⟩

def readWord : List Char → List Char → Except Fault (List Char)
  | [], cs => .ok cs
  | _ :: _, [] => .error ⟨.endInValue, []⟩
  | d :: ds, c :: cs => if c = d then readWord ds cs else .error ⟨.badWord, cs⟩

/-- The depth to which lists and objects may be nested where that is bounded. -/
def greatestDepth : Nat := 127

/-- What a value is that may denote nothing: broken, unless every value has to denote something,
which is the case where a depth is given. -/
def orBroken (depth : Option Nat) (fault : Fault) : Option Json → Except Fault Json
  | some j => .ok j
  | none => if depth.isSome then .error fault else .ok .broken

mutual

/-- Reads a value; `fuel` bounds the number of steps.  If a depth is given, lists and objects may be
nested no deeper, and every part of the value has to denote something. -/
def readValue (depth : Option Nat) : Nat → List Char → Except Fault (Json × List Char)
  | 0, _ => .error ⟨.tooDeep, []⟩
  | fuel + 1, cs =>
    match skipBlanks cs with
    | 'n' :: rest => do return (.null, ← readWord ['u', 'l', 'l'] rest)
    | 't' :: rest => do return (.bool true, ← readWord ['r', 'u', 'e'] rest)
    | 'f' :: rest => do return (.bool false, ← readWord ['a', 'l', 's', 'e'] rest)
    | '"' :: cs => do
      let (s, rest) ← readText cs
      return (← orBroken depth ((loneHalf? cs).getD default) (s.map Json.text), rest)
    | '[' :: rest =>
      if depth == some 0 then .error ⟨.tooDeep, rest⟩
      else
        match skipBlanks rest with
        | [] => .error ⟨.endInList, []⟩
        | ']' :: rest => .ok (.list [], rest)
        | rest => do
          let (items, rest) ← readItems (depth.map (· - 1)) fuel rest
          return (.list items, rest)
    | '{' :: rest =>
      if depth == some 0 then .error ⟨.tooDeep, rest⟩
      else
        match skipBlanks rest with
        | [] => .error ⟨.endInObject, []⟩
        | '}' :: rest => .ok (.object [], rest)
        | '"' :: rest => do
          let (fields, rest) ← readFields (depth.map (· - 1)) fuel rest
          return ((fields.map Json.object).getD .broken, rest)
        | rest => .error (.atNext .nameNotText rest)
    | rest => do
      let (n, rest) ← readNumber rest
      return (← orBroken depth ⟨.tooLarge, rest⟩ (n.map Json.number), rest)

def readItems (depth : Option Nat) : Nat → List Char → Except Fault (List Json × List Char)
  | 0, _ => .error ⟨.tooDeep, []⟩
  | fuel + 1, cs => do
    let (item, cs) ← readValue depth fuel cs
    match skipBlanks cs with
    | [] => .error ⟨.endInList, []⟩
    | ']' :: rest => return ([item], rest)
    | ',' :: rest =>
      match skipBlanks rest with
      | [] => .error ⟨.endInValue, []⟩
      | ']' :: rest => .error ⟨.trailingComma, rest⟩
      | rest =>
        let (items, rest) ← readItems depth fuel rest
        return (item :: items, rest)
    | rest => .error (.atNext .noItemEnd rest)

/-- Reads the fields of an object after the opening quote of the first name, and the closing brace;
none if a name is broken. -/
def readFields (depth : Option Nat) :
    Nat → List Char → Except Fault (Option (List (String × Json)) × List Char)
  | 0, _ => .error ⟨.tooDeep, []⟩
  | fuel + 1, cs => do
    let (name, rest) ← readText cs
    if depth.isSome && name.isNone then throw ((loneHalf? cs).getD default)
    match skipBlanks rest with
    | [] => .error ⟨.endInObject, []⟩
    | ':' :: rest =>
      let (value, rest) ← readValue depth fuel rest
      let field := name.map fun name => (name, value)
      match skipBlanks rest with
      | [] => .error ⟨.endInObject, []⟩
      | '}' :: rest => return (field.map ([·]), rest)
      | ',' :: rest =>
        match skipBlanks rest with
        | [] => .error ⟨.endInValue, []⟩
        | '"' :: rest =>
          let (fields, rest) ← readFields depth fuel rest
          return (field.bind fun field => fields.map (field :: ·), rest)
        | '}' :: rest => .error ⟨.trailingComma, rest⟩
        | rest => .error (.atNext .nameNotText rest)
      | rest => .error (.atNext .noFieldEnd rest)
    | rest => .error (.atNext .noColon rest)

end

def readAll (depth : Option Nat) (cs : List Char) : Except Fault Json := do
  let (value, rest) ← readValue depth (2 * cs.length + 2) cs
  match skipBlanks rest with
  | [] => return value
  | rest => .error (.atNext .trailingCharacters rest)

/-- Reads a value that is the whole text, blanks aside; what denotes nothing is kept as broken. -/
def read? (s : String) : Option Json := (readAll none s.toList).toOption

/-- Reads a value that is the whole text, blanks aside, every part of which denotes something. -/
def readSound (s : String) : Except Fault Json := readAll (some greatestDepth) s.toList

end Throttle.Json
