import Throttle.Settings.File.Fault
import Throttle.Text.Blank
import Throttle.Text.Hex

/-!
# Settings files in INI form

A line sets a name to a text after an equals sign or a colon; a text may stand in quotes, and a
backslash begins an escape everywhere.  A name in brackets begins a section, which is a table.  A
comment is a line of its own.
-/

namespace Throttle.Ini

inductive Cause where
  | lateComment
  | noKey
  | noEnd (expected : List Char) (mayEnd : Bool)
  | noBreak (found : Option Char)
  | badEscape
deriving DecidableEq, Repr, Inhabited

def described (c : Char) : String :=
  let shown := if c = '\n' then "\\n" else if c = '\r' then "\\r" else String.singleton c
  "Some('" ++ shown ++ "')"

def Cause.message : Cause → String
  | lateComment => "doesn't support inline comment"
  | noKey => "missing key"
  | noEnd expected mayEnd =>
    let shown := expected.map described ++ if mayEnd then ["None"] else []
    "expecting \"[" ++ ", ".intercalate shown ++ "]\" but found EOF."
  | noBreak found => "expecting \"\\\\n\" but found \"" ++ found.elim "None" described ++ "\"."
  | badEscape => "unknown character in \\xHH form"

structure Fault where
  cause : Cause
  rest : List Char
deriving DecidableEq, Repr, Inhabited

/-- The line of the last character of a text, and how many characters of the line there are. -/
def place (cs : List Char) : Nat × Nat :=
  cs.foldl (fun (line, column) c => if c = '\n' then (line + 1, 0) else (line, column + 1)) (0, 0)

/-- The wording of a fault in a text; the next character counts as read. -/
def Fault.message (whole : List Char) (fault : Fault) : String :=
  let (line, column) := place (whole.take (whole.length - (fault.rest.length - 1)))
  Decimal.natText (line + 1) ++ ":" ++ Decimal.natText (column + 1) ++ " " ++ fault.cause.message

def shortEscapes : List (Char × Char) :=
  [('0', '\x00'), ('a', '\x07'), ('b', '\x08'), ('t', '\t'), ('r', '\r'), ('n', '\n')]

def readHex (expected : List Char) (mayEnd : Bool) :
    Nat → List Char → Except Fault (List Char × List Char)
  | 0, cs => .ok ([], cs)
  | count + 1, '\\' :: '\n' :: cs => do
    let (ds, rest) ← readHex expected mayEnd count cs
    return ('\\' :: ds, rest)
  | _ + 1, '\\' :: cs => .error ⟨.noBreak cs.head?, cs⟩
  | count + 1, c :: cs => do
    let (ds, rest) ← readHex expected mayEnd count cs
    return (c :: ds, rest)
  | _ + 1, [] => .error ⟨.noEnd expected mayEnd, []⟩

/-- The character of a number in hexadecimal, which may have a plus sign. -/
def hexChar? (ds : List Char) : Option Char := do
  let ds := match ds with
    | '+' :: ds => ds
    | ds => ds
  let n ← ds.foldlM (fun n d => (Text.hexValue? d).map fun v => 16 * n + v) 0
  guard (n < 0xD800 ∨ (0xDFFF < n ∧ n < 0x110000))
  return Char.ofNat n

/-- Reads up to one of some characters, or perhaps to the end of the text. -/
def readUntil (expected : List Char) (mayEnd : Bool) :
    Nat → List Char → Except Fault (List Char × List Char)
  | 0, cs => .ok ([], cs)
  | _ + 1, [] => if mayEnd then .ok ([], []) else .error ⟨.noEnd expected mayEnd, []⟩
  | fuel + 1, '\\' :: cs =>
    if expected.contains '\\' then .ok ([], '\\' :: cs)
    else
      match cs with
      | [] => .error ⟨.noEnd expected mayEnd, []⟩
      | '\n' :: cs => readUntil expected mayEnd fuel cs
      | 'x' :: cs => do
        let (ds, rest) ← readHex expected mayEnd 4 cs
        match hexChar? ds with
        | none => .error ⟨.badEscape, cs.drop (cs.length - rest.length - 1)⟩
        | some c => do
          let (text, rest) ← readUntil expected mayEnd fuel rest
          return (c :: text, rest)
      | c :: cs => do
        let (text, rest) ← readUntil expected mayEnd fuel cs
        return ((shortEscapes.lookup c).getD c :: text, rest)
  | fuel + 1, c :: cs =>
    if expected.contains c then .ok ([], c :: cs)
    else do
      let (text, rest) ← readUntil expected mayEnd fuel cs
      return (c :: text, rest)

def readValue (cs : List Char) : Except Fault (List Char × List Char) := do
  let cs := cs.dropWhile fun c => Text.isBlank c && c != '\n' && c != '\r'
  let fuel := cs.length + 1
  match cs with
  | '"' :: cs => do
    let (text, rest) ← readUntil ['"'] false fuel cs
    return (text, rest.tail)
  | '\'' :: cs => do
    let (text, rest) ← readUntil ['\''] false fuel cs
    return (text, rest.tail)
  | cs => do
    let (text, rest) ← readUntil ['\n', '\r'] true fuel cs
    return (Text.trimChars text, rest)

structure Scan where
  fields : List (String × Json) := []
  /-- The section that is open, with its fields. -/
  current : Option (String × List (String × Json)) := none
  /-- The name that was read last, if it has not been set. -/
  key : List Char := []

/-- All fields, with the open section as a field. -/
def Scan.result (scan : Scan) : List (String × Json) :=
  scan.fields ++ (scan.current.map fun (name, fields) => (name, Json.object fields)).toList

def Scan.set (scan : Scan) (value : List Char) : Scan :=
  let field := (String.ofList scan.key, Json.text (String.ofList value))
  match scan.current with
  | none => { scan with fields := scan.fields ++ [field], key := [] }
  | some (name, fields) => { scan with current := some (name, fields ++ [field]), key := [] }

/-- Reads the rest of a file, of which `whole` is the whole text. -/
def readRest (whole : List Char) : Nat → Scan → List Char → Except Fault (List (String × Json))
  | 0, scan, _ => .ok scan.result
  | fuel + 1, scan, cs =>
    match cs.dropWhile Text.isBlank with
    | [] => .ok scan.result
    | c :: cs =>
      if c = ';' ∨ c = '#' then
        if (place (whole.take (whole.length - cs.length))).2 > 1 then
          .error ⟨.lateComment, c :: cs⟩
        else readRest whole fuel scan (cs.dropWhile (· != '\n'))
      else if c = '[' then do
        let (name, rest) ← readUntil [']'] false (cs.length + 1) cs
        let name := String.ofList (Text.trimChars name)
        readRest whole fuel { scan with fields := scan.result, current := some (name, []) }
          rest.tail
      else if c = '=' ∨ c = ':' then
        if scan.key.isEmpty then .error ⟨.noKey, c :: cs⟩
        else do
          let (value, rest) ← readValue cs
          readRest whole fuel (scan.set value) rest
      else do
        let (key, rest) ← readUntil ['=', ':'] false (cs.length + 2) (c :: cs)
        readRest whole fuel { scan with key := Text.trimChars key } rest

def readSettings (s : String) : Except FileFault Json :=
  let whole := s.toList
  match readRest whole (whole.length + 1) {} whole with
  | .ok fields => .ok (.object fields)
  | .error fault => .error (.form (fault.message whole))

end Throttle.Ini
