import Throttle.Settings.File.Fault
import Throttle.Text.Hex
import Throttle.Yaml.Node

/-!
# Settings files in JSON5

JSON with comments, names without quotes, texts in quotes of either kind, commas at the ends of
lists and objects, and numbers with a sign, in base sixteen, or that are not finite.  The fault of a
text that is not well formed tells what was looked for in vain at the furthest place.  A text that
is well formed may still hold a number or an escape that has no value.
-/

namespace Throttle.Json5

inductive Thing where
  | textEnd
  | list
  | truth
  | escape
  | char
  | hexEscape
  | name
  | nulEscape
  | null
  | number
  | object
  | text
  | unicodeEscape
deriving DecidableEq, Repr, Inhabited

namespace Thing

/-- All things, in the order in which they are named. -/
def all : List Thing :=
  [textEnd, list, truth, escape, char, hexEscape, name, nulEscape, null, number, object, text,
    unicodeEscape]

def word : Thing → String
  | textEnd => "EOI"
  | list => "array"
  | truth => "boolean"
  | escape => "char_escape_sequence"
  | char => "char_literal"
  | hexEscape => "hex_escape_sequence"
  | name => "identifier"
  | nulEscape => "nul_escape_sequence"
  | null => "null"
  | number => "number"
  | object => "object"
  | text => "string"
  | unicodeEscape => "unicode_escape_sequence"

def choice : List String → String
  | [] => ""
  | [a] => a
  | [a, b] => a ++ " or " ++ b
  | words => ", ".intercalate words.dropLast ++ ", or " ++ words.getLast?.getD ""

end Thing

/-- What is left of a text, and what was looked for in vain. -/
structure Scan where
  rest : List Char
  place : Nat := 0
  /-- The furthest place at which something was looked for in vain. -/
  furthest : Nat := 0
  missed : List Thing := []
deriving Repr, Inhabited

/-- Steps over a text, which may fail and then still tell what was missed. -/
abbrev Reading := OptionT (StateM Scan)

namespace Scan

def skip (scan : Scan) (n : Nat) : Scan :=
  { scan with rest := scan.rest.drop n, place := scan.place + n }

/-- The scan with something that was looked for in vain at the place of an earlier scan, and that
place again. -/
def miss (scan earlier : Scan) (thing : Thing) : Scan :=
  let scan := { scan with rest := earlier.rest, place := earlier.place }
  if scan.furthest < earlier.place then
    { scan with furthest := earlier.place, missed := [thing] }
  else if scan.furthest = earlier.place then { scan with missed := thing :: scan.missed }
  else scan

def isBreak (c : Char) : Bool := "\n\r\u2028\u2029".toList.contains c

def isBlank (c : Char) : Bool :=
  isBreak c || "\t\x0b\x0c \u00a0\u1680\u202f\u205f\u3000\ufeff".toList.contains c ||
    (0x2000 ≤ c.toNat && c.toNat ≤ 0x200A)

/-- How many characters a comment has after its first two, up to its closing mark, if it has one. -/
def commentLength? : List Char → Option Nat
  | '*' :: '/' :: _ => some 2
  | _ :: cs => (commentLength? cs).map (· + 1)
  | [] => none

def skipVoid : Nat → Scan → Scan
  | 0, scan => scan
  | fuel + 1, scan =>
    let scan := scan.skip (scan.rest.takeWhile isBlank).length
    match scan.rest with
    | '/' :: '/' :: cs => skipVoid fuel (scan.skip (2 + (cs.takeWhile fun c => !isBreak c).length))
    | '/' :: '*' :: cs =>
      match commentLength? cs with
      | some n => skipVoid fuel (scan.skip (2 + n))
      | none => scan
    | _ => scan

end Scan

namespace Reading

/-- Looks for something; if that fails, nothing is read. -/
def lookFor {α : Type} (thing : Thing) (reading : Reading α) : Reading α :=
  OptionT.mk fun scan =>
    match reading.run scan with
    | (some value, after) => (some value, after)
    | (none, after) => (none, after.miss scan thing)

/-- Reads something; if that fails, nothing is read. -/
def backtrack {α : Type} (reading : Reading α) : Reading α :=
  OptionT.mk fun scan =>
    match reading.run scan with
    | (some value, after) => (some value, after)
    | (none, after) => (none, { after with rest := scan.rest, place := scan.place })

/-- Reads something if it is there. -/
def optional {α : Type} (reading : Reading α) : Reading (Option α) :=
  some <$> backtrack reading <|> pure none

def skipVoid : Reading Unit := modify fun scan => scan.skipVoid (scan.rest.length + 1)

def charWith (p : Char → Bool) : Reading Char := do
  let scan ← get
  match scan.rest with
  | c :: _ =>
    if p c then do
      set (scan.skip 1)
      return c
    else failure
  | [] => failure

def word (s : String) : Reading Unit := do
  let scan ← get
  if scan.rest.take s.length = s.toList then set (scan.skip s.length) else failure

def charsWith (p : Char → Bool) : Reading (List Char) := do
  let scan ← get
  let front := scan.rest.takeWhile p
  set (scan.skip front.length)
  return front

def digits (p : Char → Bool) : Reading (List Char) := do
  let ds ← charsWith p
  if ds.isEmpty then failure else return ds

def hexDigits (size : Nat) : Reading Nat := do
  let scan ← get
  let ds := (scan.rest.take size).filterMap Text.hexValue?
  if ds.length < size then failure
  else do
    set (scan.skip size)
    return ds.foldl (16 * · + ·) 0

def exponent : Reading (List Char) := do
  let letter ← charWith fun c => c == 'e' || c == 'E'
  let sign ← optional (charWith fun c => c == '+' || c == '-')
  let ds ← digits Char.isDigit
  return letter :: sign.toList ++ ds

def wholePart : Reading (List Char) := do
  let first ← charWith Char.isDigit
  if first = '0' then return [first] else return first :: (← charsWith Char.isDigit)

def unsigned : Reading (List Char) :=
  backtrack (do
    let zero ← charWith (· == '0')
    let mark ← charWith fun c => c == 'x' || c == 'X'
    return zero :: mark :: (← digits fun c => (Text.hexValue? c).isSome)) <|>
  backtrack (do
    let whole ← wholePart
    let point ← charWith (· == '.')
    let fraction ← charsWith Char.isDigit
    return whole ++ point :: fraction ++ ((← optional exponent).getD [])) <|>
  backtrack (do
    let point ← charWith (· == '.')
    let fraction ← digits Char.isDigit
    return point :: fraction ++ ((← optional exponent).getD [])) <|>
  backtrack (do
    let whole ← wholePart
    return whole ++ ((← optional exponent).getD [])) <|>
  backtrack (do
    word "Infinity"
    return "Infinity".toList) <|>
  (do
    word "NaN"
    return "NaN".toList)

def number : Reading (List Char) := lookFor .number do
  let sign ← optional (charWith fun c => c == '+' || c == '-')
  return sign.toList ++ (← unsigned)

def shortEscapes : List (Char × Nat) :=
  [('b', 8), ('f', 12), ('n', 10), ('r', 13), ('t', 9), ('v', 11)]

/-- Whether a backslash before a character stands for that character, or for another one. -/
def isEscapable (c : Char) : Bool :=
  !(c.isDigit || c == 'x' || c == 'u' || Scan.isBreak c)

def escape : Reading Nat :=
  lookFor .escape (do
    let c ← charWith isEscapable
    return (shortEscapes.lookup c).getD c.toNat) <|>
  lookFor .nulEscape (do
    word "0"
    return 0) <|>
  backtrack (do
    word "x"
    lookFor .hexEscape (hexDigits 2)) <|>
  (do
    word "u"
    lookFor .unicodeEscape (hexDigits 4))

/-- Reads one character of a text between these quotes, as numbers: none for a line that goes on
after a backslash. -/
def textChar (quote : Char) : Reading (List Nat) :=
  backtrack (do
    word "\\"
    return [← escape]) <|>
  backtrack (do
    word "\\"
    word "\r\n" <|> discard (charWith Scan.isBreak)
    return []) <|>
  (do
    if (← get).rest.head? = some quote then failure
    else
      let c ← lookFor .char (charWith fun c => c != '\\' && !Scan.isBreak c)
      return [c.toNat])

def textChars (quote : Char) : Nat → Reading (List Nat)
  | 0 => return []
  | fuel + 1 => do
    match ← optional (textChar quote) with
    | none => return []
    | some front => return front ++ (← textChars quote fuel)

def text : Reading (List Nat) := lookFor .text do
  let quote ← charWith fun c => c == '"' || c == '\''
  let content ← textChars quote ((← get).rest.length + 1)
  discard (charWith (· == quote))
  return content

def isNameStart (c : Char) : Bool :=
  c.isAlpha || c == '$' || c == '_' || (128 ≤ c.toNat && !Scan.isBlank c)

def nameChar (p : Char → Bool) : Reading Nat :=
  backtrack (Char.toNat <$> charWith p) <|>
  (do
    word "\\u"
    lookFor .unicodeEscape (hexDigits 4))

def nameChars : Nat → Reading (List Nat)
  | 0 => return []
  | fuel + 1 => do
    match ← optional (nameChar fun c => isNameStart c || c.isDigit) with
    | none => return []
    | some n => return n :: (← nameChars fuel)

def name : Reading (List Nat) := lookFor .name do
  let first ← nameChar isNameStart
  return first :: (← nameChars ((← get).rest.length + 1))

end Reading

/-- The text of numbers, in which a pair of surrogates stands for one character. -/
def textOf? : List Nat → Except String (List Char)
  | [] => .ok []
  | a :: rest =>
    if 0xDC00 ≤ a ∧ a < 0xE000 then .error "unexpected unicode trail surrogate"
    else if 0xD800 ≤ a ∧ a < 0xDC00 then
      match rest with
      | b :: rest =>
        if 0xDC00 ≤ b ∧ b < 0xE000 then
          (textOf? rest).map (Char.ofNat ((a - 0xD800) * 0x400 + (b - 0xDC00) + 0x10000) :: ·)
        else .error "missing unicode trail surrogate"
      | [] => .error "missing unicode trail surrogate"
    else (textOf? rest).map (Char.ofNat a :: ·)

/-- The value of a number: whole if it has neither a point nor an exponent. -/
def numberOf? (plain : List Char) : Except String Json :=
  let isHex := plain.take 2 = ['0', 'x'] ∨ plain.take 2 = ['0', 'X']
  let isWhole := !plain.contains '.' && !plain.contains 'e' && !plain.contains 'E'
  let unsigned := plain.dropWhile (· == '-')
  let real : Except String Json :=
    match Yaml.number? (String.ofList plain) with
    | some x => .ok (.number (.float x))
    | none => .error "error parsing number"
  if isHex then
    let n : Nat := ((plain.drop 2).filterMap Text.hexValue?).foldl (16 * · + ·) 0
    if n < Nat.pow 2 32 then .ok (.int n) else .error "error parsing hex"
  else if isWhole ∧ unsigned ≠ "Infinity".toList ∧ unsigned ≠ "NaN".toList then
    match Decimal.integer? (-(Nat.pow 2 63)) (Nat.pow 2 63 - 1) (String.ofList plain) with
    | some i => .ok (.int i)
    | none => .error "error parsing integer"
  else real

namespace Reading

/-- Reads a comma and goes on, unless nothing follows the comma. -/
def further {α : Type} (reading : Reading α) : Nat → Reading (List α)
  | 0 => return []
  | fuel + 1 => do
    let next ← optional do
      skipVoid
      word ","
      skipVoid
      reading
    match next with
    | none => return []
    | some value => return value :: (← further reading fuel)

/-- Reads what stands between brackets, with commas between and perhaps one at the end. -/
def between {α : Type} (first last : String) (reading : Reading α) : Reading (List α) :=
  backtrack (do
    word first
    skipVoid
    word last
    return []) <|>
  (do
    word first
    skipVoid
    let value ← reading
    let values ← further reading ((← get).rest.length + 1)
    skipVoid
    discard (optional (word ","))
    skipVoid
    word last
    return value :: values)

/-- Reads a value, of which the parts may have none. -/
def value : Nat → Reading (Except String Json)
  | 0 => failure
  | fuel + 1 =>
    lookFor .null (do
      word "null"
      return .ok .null) <|>
    lookFor .truth (do
      let isTrue ← optional (word "true")
      if isTrue.isNone then word "false"
      return .ok (.bool isTrue.isSome)) <|>
    (do return (textOf? (← text)).map fun cs => .text (String.ofList cs)) <|>
    (do return numberOf? (← number)) <|>
    lookFor .object (do
      let fields ← between "\x7b" "\x7d" do
        let key ← name <|> text
        skipVoid
        word ":"
        skipVoid
        return (key, ← value fuel)
      let pairs : Except String (List (String × Json)) := fields.mapM fun (key, value) => do
        return (String.ofList (← textOf? key), ← value)
      return pairs.map .object) <|>
    lookFor .list (do
      let items ← between "[" "]" (value fuel)
      let values : Except String (List Json) := items.mapM id
      return values.map .list)

def whole (fuel : Nat) : Reading (Except String Json) := do
  skipVoid
  let value ← value fuel
  skipVoid
  lookFor .textEnd do
    if (← get).rest.isEmpty then return value else failure

end Reading

def faultOf (text : List Char) (scan : Scan) : String :=
  let before := text.take scan.furthest
  let rest := text.drop scan.furthest
  let number := Decimal.natText (before.count '\n' + 1)
  let margin := String.ofList (List.replicate number.length ' ')
  let front := (before.reverse.takeWhile (· != '\n')).reverse
  let isAtBreak := rest.head?.any fun c => c == '\n' || c == '\r'
  let ending := if rest.contains '\n' then ['\n'] else []
  let line := front ++ rest.takeWhile (· != '\n') ++ ending
  let shown :=
    if isAtBreak then
      line.map fun c => if c = '\n' then '\u240a' else if c = '\r' then '\u240d' else c
    else line.filter fun c => c != '\n' && c != '\r'
  let indent := front.map fun c => if c = '\t' then c else ' '
  let missed := (Thing.all.filter scan.missed.contains).map Thing.word
  "\n".intercalate [
    margin ++ "--> " ++ number ++ ":" ++ Decimal.natText (front.length + 1),
    margin ++ " |", number ++ " | " ++ String.ofList shown,
    margin ++ " | " ++ String.ofList indent ++ "^---", margin ++ " |",
    margin ++ " = expected " ++ Thing.choice missed]

def readSettings (s : String) : Except FileFault Json :=
  let text := s.toList
  match (Reading.whole (text.length + 1)).run { rest := text } with
  | (some (.ok value), _) => .ok value
  | (some (.error reason), _) => .error (.form reason)
  | (none, scan) => .error (.form (faultOf text scan))

end Throttle.Json5
