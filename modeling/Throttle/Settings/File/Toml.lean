import Throttle.Settings.File.Fault
import Throttle.Settings.File.Toml.Number
import Throttle.Settings.File.Toml.Table

/-!
# Settings files in TOML

A line sets a key to a value, or is the header of the table that the next lines fill.  A list may go
over several lines, a table between braces may not.
-/

namespace Throttle.Toml

def depthLimit : Nat := 80

/-- The fault of something that does not begin like a value. -/
def noValue (cs : List Char) (isFinal : Bool) : Fault :=
  { kind := "string", expected := ["`\"`", "`'`"], rest := cs, isFinal }

def readWord (word : String) (kind : String) (json : Json) (isFinal : Bool) (cs : List Char) :
    Except Fault (Value × List Char) :=
  if cs.take word.length = word.toList then .ok (⟨kind, json⟩, cs.drop word.length)
  else .error (noValue cs isFinal)

mutual

def readValue (depth : Nat) : Nat → List Char → Except Fault (Value × List Char)
  | 0, cs => .error { rest := cs }
  | _ + 1, [] => .error { rest := [], isFinal := false }
  | fuel + 1, c :: cs =>
    let whole := c :: cs
    if c = '"' ∨ c = '\'' then do
      let (text, rest) ← readText c cs
      return (⟨"string", .text text⟩, rest)
    else if c = '[' ∨ c = '{' then
      if depthLimit ≤ depth + 1 then .error { reason := "recursion limit exceeded", rest := whole }
      else if c = '[' then readList (depth + 1) fuel cs
      else readInline (depth + 1) fuel cs
    else if c = '+' ∨ c = '-' ∨ c.isDigit then readNumber whole
    else if c = '_' then expecting ["leading digit"] (readInteger whole)
    else if c = '.' then expecting ["leading digit"] (readFloat whole)
    else if c = 't' then readWord "true" "boolean" (.bool true) true whole
    else if c = 'f' then readWord "false" "boolean" (.bool false) true whole
    else if c = 'i' then readWord "inf" "float" (.number (.float (.infinite false))) false whole
    else if c = 'n' then readWord "nan" "float" (.number (.float .notANumber)) false whole
    else .error (noValue whole false)

def readList (depth : Nat) : Nat → List Char → Except Fault (Value × List Char)
  | 0, cs => .error { rest := cs }
  | fuel + 1, cs => do
    let (items, rest) ←
      if cs.head? = some ']' then .ok ([], cs) else readItems depth fuel true cs
    let rest := if rest.head? = some ',' then rest.drop 1 else rest
    let rest := skipVoid (rest.length + 1) rest
    if rest.head? = some ']' then return (⟨"array", .list items⟩, rest.drop 1)
    else throw { kind := "array", expected := ["`]`"], rest }

/-- Reads items, the first of which has no comma before it, as long as there are any. -/
def readItems (depth : Nat) : Nat → Bool → List Char → Except Fault (List Json × List Char)
  | 0, _, cs => .ok ([], cs)
  | fuel + 1, isFirst, cs => do
    if !isFirst && cs.head? != some ',' then return ([], cs)
    else
      let inside := if isFirst then cs else cs.drop 1
      let (item, rest) ← optional cs <|
        readValue depth fuel (skipVoid (inside.length + 1) inside)
      match item with
      | none => return ([], rest)
      | some item =>
        let (items, rest) ← readItems depth fuel false (skipVoid (rest.length + 1) rest)
        return (item.json :: items, rest)

def readInline (depth : Nat) : Nat → List Char → Except Fault (Value × List Char)
  | 0, cs => .error { rest := cs }
  | fuel + 1, cs => do
    let (pairs, rest) ← readPairs depth fuel true cs
    let rest := skipGaps rest
    match pairs.foldlM (fun fields (key, item) => Fields.setInline fields key item) [] with
    | .error clash => throw { reason := clash.message, rest := cs }
    | .ok fields =>
      if rest.head? = some '}' then
        return (⟨"inline table", .object (fieldsJson fields)⟩, rest.drop 1)
      else throw { kind := "inline table", expected := ["`\x7d`"], rest }

/-- Reads keys and their values, the first of which has no comma before it, as long as there are
any. -/
def readPairs (depth : Nat) : Nat → Bool → List Char →
    Except Fault (List (List String × Item) × List Char)
  | 0, _, cs => .ok ([], cs)
  | fuel + 1, isFirst, cs => do
    if !isFirst && cs.head? != some ',' then return ([], cs)
    else
      let (key, rest) ← optional cs (readKey (if isFirst then cs else cs.drop 1))
      match key with
      | none => return ([], rest)
      | some key =>
        let (value, rest) ← readSetting depth fuel rest
        let (pairs, rest) ← readPairs depth fuel false (skipGaps rest)
        return ((key, .value value.kind value.json) :: pairs, rest)

def readSetting (depth : Nat) : Nat → List Char → Except Fault (Value × List Char)
  | 0, cs => .error { rest := cs }
  | fuel + 1, cs =>
    if cs.head? = some '=' then final (readValue depth fuel (skipGaps (cs.drop 1)))
    else .error { expected := ["`.`", "`=`"], rest := cs }

end

def readLineEnd (cs : List Char) : Except Fault (Unit × List Char) :=
  let rest := skipComment (skipGaps cs)
  match afterBreak? rest with
  | some after => .ok ((), after)
  | none =>
    if rest.isEmpty then .ok ((), []) else .error { expected := ["newline", "`#`"], rest }

/-- Reads the header of a table or of one more table in a list: its path. -/
def readHeader (cs : List Char) : Except Fault ((Bool × List String) × List Char) :=
    within "table header" do
  if cs.length < 2 then throw { rest := cs }
  else
    let isList := cs.take 2 = ['[', '[']
    let closing := if isList then "]]" else "]"
    let (path, rest) ← final (readKey (cs.drop closing.length))
    if rest.take closing.length = closing.toList then
      let (_, rest) ← readLineEnd (rest.drop closing.length)
      return ((isList, path), rest)
    else throw { expected := ["`.`", "`" ++ closing ++ "`"], rest }

/-- Reads the lines of a file into the table at a path. -/
def readLines : Nat → List String → Fields → List Char → Except Fault Fields
  | 0, _, fields, _ => .ok fields
  | fuel + 1, table, fields, cs =>
    match skipGaps cs with
    | [] => .ok fields
    | '#' :: cs =>
      match skipComment ('#' :: cs) with
      | [] => .ok fields
      | rest =>
        match afterBreak? rest with
        | some rest => readLines fuel table fields rest
        | none => .error { rest }
    | '[' :: cs => do
      let ((isList, path), rest) ← readHeader ('[' :: cs)
      match fields.openTable isList path with
      | .error clash =>
        throw { kind := "table header", reason := clash.message, rest := '[' :: cs }
      | .ok fields => readLines fuel path fields rest
    | cs =>
      match afterBreak? cs with
      | some rest => readLines fuel table fields rest
      | none =>
        if cs.head? = some '\r' then .error { rest := cs }
        else do
          let (key, rest) ← readKey cs
          let (value, rest) ← readSetting 0 (2 * cs.length + 2) rest
          let (_, rest) ← readLineEnd rest
          match fields.setIn table key (.value value.kind value.json) with
          | .error clash => throw { reason := clash.message, rest := cs }
          | .ok fields => readLines fuel table fields rest

/-- The value of a settings file, which may begin with a mark of its byte order. -/
def readSettings (s : String) : Except FileFault Json :=
  let whole := s.toList
  let text := if whole.head?.any (·.toNat == 0xFEFF) then whole.drop 1 else whole
  match readLines (whole.length + 1) [] [] text with
  | .ok fields => .ok (.object (fieldsJson fields))
  | .error fault => .error (.form (fault.message whole))

end Throttle.Toml
