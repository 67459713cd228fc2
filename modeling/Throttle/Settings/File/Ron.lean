import Throttle.Settings.File.Fault
import Throttle.Text.Hex
import Throttle.Yaml.Node

/-!
# Settings files in object notation with structures

A table is a structure, whose fields have names without quotes between round brackets, or a map
between braces.  A value may be optional.  What else stands between round brackets is a list; a name
alone, or with empty brackets, is nothing.
-/

namespace Throttle.Ron

structure Fault where
  reason : String
  rest : List Char
deriving DecidableEq, Repr, Inhabited

def Fault.message (whole : List Char) (fault : Fault) : String :=
  let before := whole.take (whole.length - fault.rest.length)
  let column := (String.ofList (before.reverse.takeWhile (· != '\n'))).utf8ByteSize
  Decimal.natText (before.count '\n' + 1) ++ ":" ++ Decimal.natText (column + 1) ++ ": " ++
    fault.reason

def atEnd : Fault := ⟨"Unexpected end of RON", []⟩

def unexpected (c : Char) (rest : List Char) : Fault :=
  ⟨"Unexpected byte '" ++ String.singleton c ++ "'", rest⟩

/-- A text after a comment, of which `depth` opening marks were read. -/
def afterComment : Nat → List Char → Except Fault (List Char)
  | 0, cs => .ok cs
  | depth + 1, '*' :: '/' :: cs => afterComment depth cs
  | depth + 1, '/' :: '*' :: cs => afterComment (depth + 2) cs
  | depth + 1, _ :: cs => afterComment (depth + 1) cs
  | _ + 1, [] => .error ⟨"Unclosed block comment", []⟩
termination_by depth cs => (cs.length, depth)

/-- A text without the blanks and comments at its front. -/
def skipVoid : Nat → List Char → Except Fault (List Char)
  | 0, cs => .ok cs
  | fuel + 1, cs =>
    match cs.dropWhile fun c => " \n\t\r".toList.contains c with
    | '/' :: '/' :: cs => skipVoid fuel (cs.dropWhile (· != '\n'))
    | '/' :: '*' :: cs => do skipVoid fuel (← afterComment 1 cs)
    | '/' :: c :: cs => .error (unexpected c cs)
    | ['/'] => .error atEnd
    | cs => .ok cs

def trim (cs : List Char) : Except Fault (List Char) := skipVoid (cs.length + 1) cs

def isNameChar (c : Char) : Bool := c.isAlphanum || c == '_'

def readName (cs : List Char) : Except Fault (String × List Char) :=
  match cs with
  | [] => .error atEnd
  | c :: _ =>
    let isRawText := c == 'r' && ((cs.drop 1).head? == some '"' || cs.getD 1 ' ' == '#')
    if (c.isAlpha || c == '_') && !isRawText then
      let name := cs.takeWhile isNameChar
      .ok (String.ofList name, cs.drop name.length)
    else .error ⟨"Expected identifier", cs⟩

def hexNumber (ds : List Char) : Nat := (ds.filterMap Text.hexValue?).foldl (16 * · + ·) 0

def shortEscapes : List (Char × Char) :=
  [('\'', '\''), ('"', '"'), ('\\', '\\'), ('n', '\n'), ('r', '\r'), ('t', '\t'), ('0', '\x00')]

def isHexDigit (c : Char) : Bool := (Text.hexValue? c).isSome

def readEscape (cs : List Char) : Except Fault (Char × List Char) :=
  let invalid (reason : String) (rest : List Char) : Except Fault (Char × List Char) :=
    .error ⟨"Invalid escape sequence: " ++ reason, rest⟩
  match cs with
  | [] => .error atEnd
  | 'x' :: cs =>
    if ((cs.take 2).filter isHexDigit).length = 2 then
      .ok (Char.ofNat (hexNumber (cs.take 2)), cs.drop 2)
    else invalid "Non-hex digit found" (cs.drop ((cs.takeWhile isHexDigit).length + 1))
  | 'u' :: '{' :: cs =>
    let digits := (cs.takeWhile isHexDigit).take 6
    let n := hexNumber digits
    match cs.drop digits.length with
    | '}' :: rest =>
      if digits.isEmpty then
        invalid "Expected 1-6 digits, got 0 digits in Unicode escape" ('}' :: rest)
      else if n < 0xD800 ∨ (0xDFFF < n ∧ n < 0x110000) then .ok (Char.ofNat n, rest)
      else invalid "Not a valid Unicode-escaped character" rest
    | [] => .error atEnd
    | _ :: rest =>
      if digits.length < 6 then invalid "Non-hex digit found" rest
      else invalid "No \x7d at the end of Unicode escape" rest
  | 'u' :: cs => invalid "Missing \x7b in Unicode escape" (cs.drop 1)
  | c :: cs =>
    match shortEscapes.lookup c with
    | some d => .ok (d, cs)
    | none => invalid "Unknown escape character" cs

def readText : Nat → List Char → Except Fault (List Char × List Char)
  | _, '"' :: cs => .ok ([], cs)
  | fuel + 1, '\\' :: cs => do
    let (c, rest) ← readEscape cs
    if rest.contains '"' || rest.contains '\\' then
      let (text, rest) ← readText fuel rest
      return (c :: text, rest)
    else throw { atEnd with rest }
  | fuel + 1, c :: cs => do
    let (text, rest) ← readText fuel cs
    return (c :: text, rest)
  | _, cs => .error ⟨"Expected end of string", cs⟩

/-- Reads a text without escapes after its first letter, up to a quote and as many number signs as
stand before its opening quote. -/
def readRawText (cs : List Char) : Except Fault (List Char × List Char) :=
  let signs := cs.takeWhile (· == '#')
  let inside := cs.drop (signs.length + 1)
  let closing := '"' :: signs
  let found := (List.range (inside.length + 1)).find? fun i =>
    (inside.drop i).take closing.length == closing
  match cs.drop signs.length, found with
  | '"' :: _, some i => .ok (inside.take i, inside.drop (i + closing.length))
  | '"' :: _, none => .error ⟨"Expected end of string", inside⟩
  | rest, _ => .error ⟨"Expected string", rest⟩

def readChar (cs : List Char) : Except Fault (Char × List Char) := do
  let fault : Fault := ⟨"Expected char", cs⟩
  let (c, rest) ← match cs with
    | [] => .error atEnd
    | '\\' :: cs => readEscape cs
    | c :: rest => if rest.head? = some '\'' then .ok (c, rest) else .error fault
  if rest.head? = some '\'' then return (c, rest.drop 1) else throw { fault with rest }

def isWholeChar (c : Char) : Bool := isHexDigit c || c == '_'

def isRealChar (c : Char) : Bool := c.isDigit || "eE.+-_".toList.contains c

/-- Reads the digits of a whole number, after its sign and the mark of its base. -/
def readBased (negative : Bool) (base : Nat) (cs : List Char) : Except Fault (Json × List Char) :=
  let plain := cs.takeWhile isWholeChar
  let rest := cs.drop plain.length
  let digits := (plain.filter (· != '_')).filterMap Text.hexValue?
  let n := digits.foldl (base * · + ·) 0
  if plain.isEmpty then .error ⟨"Expected integer", cs⟩
  else if plain.head? = some '_' then .error ⟨"Unexpected leading underscore in a number", cs⟩
  else if digits.any (base ≤ ·) then .error ⟨"Expected integer", cs⟩
  else if if negative then Nat.pow 2 63 < n else Nat.pow 2 64 ≤ n then
    .error ⟨"Integer is out of bounds", cs⟩
  else .ok (.int (if negative then -n else n), rest)

/-- Reads a whole number after its sign, in base ten unless it is marked. -/
def readUnsigned (negative : Bool) : List Char → Except Fault (Json × List Char)
  | '0' :: 'x' :: cs => readBased negative 16 cs
  | '0' :: 'o' :: cs => readBased negative 8 cs
  | '0' :: 'b' :: cs => readBased negative 2 cs
  | cs => readBased negative 10 cs

def readWhole : List Char → Except Fault (Json × List Char)
  | '-' :: cs => readUnsigned true cs
  | '+' :: cs => readUnsigned false cs
  | cs => readUnsigned false cs

/-- Reads a number, of double precision if it has a point or another sign inside. -/
def readNumber (start : List Char) : Except Fault (Json × List Char) :=
  let sign := (start.take 1).filter fun c => c == '+' || c == '-'
  let cs := start.drop sign.length
  let plain := cs.takeWhile isRealChar
  if plain.length ≤ (cs.takeWhile isWholeChar).length then readWhole start
  else
    match Yaml.number? (String.ofList (sign ++ plain.filter (· != '_'))) with
    | some x => .ok (.number (.float x), cs.drop plain.length)
    | none => .error ⟨"Expected float", start⟩

def words : List (String × Json) :=
  [("true", .bool true), ("false", .bool false), ("None", .null),
    ("inf", .number (.float (.infinite false))), ("NaN", .number (.float .notANumber))]

/-- Whether a structure follows after an opening bracket: a name and a colon. -/
def isStructure (cs : List Char) : Bool :=
  match (do
    let (_, rest) ← readName (← trim cs)
    trim rest : Except Fault (List Char)) with
  | .ok rest => rest.head? == some ':'
  | .error _ => false

def badKey (key : Json) (rest : List Char) : Fault :=
  ⟨"invalid type: " ++ key.described ++ ", expected a string", rest⟩

mutual

def readValue : Nat → List Char → Except Fault (Json × List Char)
  | 0, _ => .error atEnd
  | fuel + 1, cs => do
    match readName cs with
    | .ok (name, rest) =>
      match words.lookup name with
      | some value => return (value, rest)
      | none =>
        let rest ← trim rest
        if name = "Some" then readOptional fuel rest
        else if rest.head? = some '(' then readRound fuel rest
        else return (.null, rest)
    | .error _ =>
      match cs with
      | [] => throw atEnd
      | '(' :: _ => readRound fuel cs
      | '[' :: cs => do
        let (items, rest) ← readItems ']' fuel true cs
        return (.list items, rest)
      | '{' :: cs => do
        let (fields, rest) ← readFields '}' fuel true cs
        return (.object fields, rest)
      | '"' :: cs => do
        let (text, rest) ← readText (cs.length + 1) cs
        return (.text (String.ofList text), rest)
      | 'r' :: cs => do
        let (text, rest) ← readRawText cs
        return (.text (String.ofList text), rest)
      | '\'' :: cs => do
        let (c, rest) ← readChar cs
        return (.text (String.singleton c), rest)
      | c :: _ =>
        if c.isDigit || c == '+' || c == '-' || c == '.' then readNumber cs
        else throw (unexpected c cs)

/-- Reads an optional value after its word. -/
def readOptional : Nat → List Char → Except Fault (Json × List Char)
  | 0, _ => .error atEnd
  | fuel + 1, cs => do
    if cs.head? = some '(' then
      let (value, rest) ← readValue fuel (← trim (cs.drop 1))
      let rest ← trim rest
      if rest.head? = some ')' then return (value, rest.drop 1)
      else throw ⟨"Expected closing `)`", rest⟩
    else throw ⟨"Expected option", cs⟩

def readRound : Nat → List Char → Except Fault (Json × List Char)
  | 0, _ => .error atEnd
  | fuel + 1, cs => do
    let inside := cs.drop 1
    if isStructure inside then do
      let (fields, rest) ← readFields ')' fuel true inside
      return (.object fields, rest)
    else do
      let (items, rest) ← readItems ')' fuel true inside
      return (if items.isEmpty then .null else .list items, rest)

/-- Reads items and the closing bracket, after a comma or the opening bracket or not. -/
def readItems (closing : Char) : Nat → Bool → List Char → Except Fault (List Json × List Char)
  | 0, _, _ => .error atEnd
  | fuel + 1, mayGoOn, cs => do
    match ← trim cs with
    | [] => throw atEnd
    | c :: rest =>
      if c = closing then return ([], rest)
      else if !mayGoOn then throw ⟨"Expected comma", c :: rest⟩
      else do
        let (item, rest) ← readValue fuel (c :: rest)
        let rest ← trim rest
        let isFurther := rest.head? == some ','
        let (items, rest) ←
          readItems closing fuel isFurther (if isFurther then rest.drop 1 else rest)
        return (item :: items, rest)

/-- Reads fields and the closing bracket, after a comma or the opening bracket or not. -/
def readFields (closing : Char) : Nat → Bool → List Char →
    Except Fault (List (String × Json) × List Char)
  | 0, _, _ => .error atEnd
  | fuel + 1, mayGoOn, cs => do
    match ← trim cs with
    | [] => throw atEnd
    | c :: rest =>
      if c = closing then return ([], rest)
      else if !mayGoOn then throw ⟨"Expected comma", c :: rest⟩
      else do
        let (name, rest) ← readKey closing fuel (c :: rest)
        let rest ← trim rest
        if rest.head? ≠ some ':' then throw ⟨"Expected colon", rest⟩
        let (value, rest) ← readValue fuel (← trim (rest.drop 1))
        let rest ← trim rest
        let isFurther := rest.head? == some ','
        let (fields, rest) ←
          readFields closing fuel isFurther (if isFurther then rest.drop 1 else rest)
        return ((name, value) :: fields, rest)

/-- Reads the key of a field: a name in a structure, and a text in a map. -/
def readKey (closing : Char) : Nat → List Char → Except Fault (String × List Char)
  | 0, _ => .error atEnd
  | fuel + 1, cs => do
    if closing = ')' then readName cs
    else
      let (key, rest) ← readValue fuel cs
      match key with
      | .text name => return (name, rest)
      | key => throw (badKey key rest)

end

def readSettings (s : String) : Except FileFault Json :=
  let whole := s.toList
  let value : Except Fault Json := do
    let (value, rest) ← readValue (4 * whole.length + 4) (← trim whole)
    let rest ← trim rest
    if rest.isEmpty then return value else throw ⟨"Non-whitespace trailing characters", rest⟩
  value.mapError fun fault => .form (fault.message whole)

end Throttle.Ron
