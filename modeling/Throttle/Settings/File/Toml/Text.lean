import Throttle.Settings.File.Toml.Fault
import Throttle.Text.Hex

/-!
# Texts and keys in TOML

A text stands in quotes.  Between double quotes a backslash begins an escape, between single quotes
it is a character like any other.  A text in three quotes may go over several lines.  A key is a
path of names between points; a name may do without quotes.
-/

namespace Throttle.Toml

def isLineChar (c : Char) : Bool := c == '\t' || (0x20 ≤ c.toNat && c.toNat != 0x7F)

def isGap (c : Char) : Bool := c == ' ' || c == '\t'

def skipGaps (cs : List Char) : List Char := cs.dropWhile isGap

/-- What follows the end of a line, if there is one. -/
def afterBreak? : List Char → Option (List Char)
  | '\n' :: cs => some cs
  | '\r' :: '\n' :: cs => some cs
  | _ => none

def skipComment (cs : List Char) : List Char :=
  if cs.head? = some '#' then cs.dropWhile isLineChar else cs

def skipBlanks : Nat → List Char → List Char
  | 0, cs => cs
  | fuel + 1, cs =>
    match afterBreak? (skipGaps cs) with
    | some cs => skipBlanks fuel cs
    | none => skipGaps cs

def skipVoid : Nat → List Char → List Char
  | 0, cs => cs
  | fuel + 1, cs =>
    let cs := skipBlanks (cs.length + 1) cs
    if cs.head? = some '#' then skipVoid fuel (skipComment cs) else cs

def shortEscapes : List (Char × Char) :=
  [('b', '\x08'), ('f', '\x0c'), ('n', '\n'), ('r', '\r'), ('t', '\t'), ('\\', '\\'), ('"', '"')]

def escapeLetters : List String := ["`b`", "`f`", "`n`", "`r`", "`t`", "`u`", "`U`", "`\\`", "`\"`"]

def readCodePoint (kind : String) (size : Nat) (cs : List Char) : Except Fault (Char × List Char) :=
  let digits := (cs.take size).filterMap Text.hexValue?
  if digits.length < size then .error { kind, rest := cs }
  else
    let n := digits.foldl (16 * · + ·) 0
    if n < 0xD800 ∨ (0xDFFF < n ∧ n < 0x110000) then .ok (Char.ofNat n, cs.drop size)
    else .error { kind, reason := "value is out of range", rest := cs }

def readEscape (c : Char) (cs : List Char) : Except Fault (Char × List Char) :=
  if c = 'u' then readCodePoint "unicode 4-digit hex code" 4 cs
  else if c = 'U' then readCodePoint "unicode 8-digit hex code" 8 cs
  else
    match shortEscapes.lookup c with
    | some d => .ok (d, cs)
    | none => .error { kind := "escape sequence", expected := escapeLetters, rest := cs }

def kindOf (quote : Char) : String := if quote = '"' then "basic string" else "literal string"

def readLineText (quote : Char) : Nat → List Char → Except Fault (List Char × List Char)
  | fuel + 1, c :: cs =>
    if c = quote then .ok ([], cs)
    else if c = '\\' ∧ quote = '"' then
      match cs with
      | [] => .error { kind := kindOf quote, rest := [c] }
      | e :: cs => do
        let (d, rest) ← readEscape e cs
        let (text, rest) ← readLineText quote fuel rest
        return (d :: text, rest)
    else if isLineChar c then do
      let (text, rest) ← readLineText quote fuel cs
      return (c :: text, rest)
    else .error { kind := kindOf quote, rest := c :: cs }
  | _, cs => .error { kind := kindOf quote, rest := cs }

def goesOn (cs : List Char) : Bool := cs.head?.any isLineChar || (afterBreak? cs).isSome

/-- Reads a text on several lines up to its three closing quotes, before which two more may stand;
after a backslash at the end of a line the blanks up to the next text are left out. -/
def readLongText (quote : Char) : Nat → List Char → Except Fault (List Char × List Char)
  | 0, cs => .error { rest := cs }
  | fuel + 1, cs =>
    let cons (c : Char) (cs : List Char) : Except Fault (List Char × List Char) := do
      let (text, rest) ← readLongText quote fuel cs
      return (c :: text, rest)
    let fault : Fault := { kind := "multiline " ++ kindOf quote, rest := cs }
    let quotes := (cs.takeWhile (· == quote)).length
    if 3 ≤ quotes then
      let extra := min 2 (quotes - 3)
      .ok (List.replicate extra quote, cs.drop (3 + extra))
    else if 0 < quotes then
      if goesOn (cs.drop quotes) then do
        let (text, rest) ← readLongText quote fuel (cs.drop quotes)
        return (List.replicate quotes quote ++ text, rest)
      else .error fault
    else
      match afterBreak? cs, cs with
      | some rest, _ => cons '\n' rest
      | none, '\\' :: rest =>
        if quote ≠ '"' then cons '\\' rest
        else
          match afterBreak? (skipGaps rest), rest with
          | some after, _ => readLongText quote fuel (skipBlanks (after.length + 1) after)
          | none, [] => .error fault
          | none, e :: rest => do
            let (d, rest) ← readEscape e rest
            cons d rest
      | none, c :: rest => if isLineChar c then cons c rest else .error fault
      | none, [] => .error fault

def readText (quote : Char) (cs : List Char) : Except Fault (String × List Char) := do
  let (text, rest) ←
    if cs.take 2 = [quote, quote] then
      let inside := cs.drop 2
      readLongText quote (cs.length + 1) ((afterBreak? inside).getD inside)
    else readLineText quote (cs.length + 1) cs
  return (String.ofList text, rest)

def isBareChar (c : Char) : Bool := c.isAlphanum || c == '_' || c == '-'

/-- Reads one name of a key, and the gaps around it. -/
def readName (cs : List Char) : Except Fault (String × List Char) :=
  match skipGaps cs with
  | '"' :: cs => do
    let (name, rest) ← readLineText '"' (cs.length + 1) cs
    return (String.ofList name, skipGaps rest)
  | '\'' :: cs => do
    let (name, rest) ← readLineText '\'' (cs.length + 1) cs
    return (String.ofList name, skipGaps rest)
  | cs =>
    match cs.takeWhile isBareChar with
    | [] => .error { rest := cs, isFinal := false }
    | name => .ok (String.ofList name, skipGaps (cs.drop name.length))

def readNames : Nat → List Char → Except Fault (List String × List Char)
  | fuel + 1, '.' :: cs => do
    let (name, rest) ← optional ('.' :: cs) (readName cs)
    match name with
    | none => return ([], rest)
    | some name =>
      let (names, rest) ← readNames fuel rest
      return (name :: names, rest)
  | _, cs => .ok ([], cs)

def readKey (cs : List Char) : Except Fault (List String × List Char) := within "key" do
  let (name, rest) ← readName cs
  let (names, rest) ← readNames rest.length rest
  return (name :: names, rest)

end Throttle.Toml
