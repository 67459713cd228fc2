import Throttle.Decimal

/-!
# Faults in JSON texts

What can be wrong with a JSON text, and where.  A fault remembers what of the text was left, from
which its line and column follow; a column counts bytes.
-/

namespace Throttle.Json

inductive Cause where
  | endInValue
  | endInText
  | endInList
  | endInObject
  | noValue
  | noColon
  | noItemEnd
  | noFieldEnd
  | nameNotText
  | trailingComma
  | trailingCharacters
  | badWord
  | badNumber
  | badEscape
  | loneHalf
  | noSecondHalf
  | controlCharacter
  | tooLarge
  | tooDeep
deriving DecidableEq, Repr, Inhabited

def Cause.message : Cause → String
  | endInValue => "EOF while parsing a value"
  | endInText => "EOF while parsing a string"
  | endInList => "EOF while parsing a list"
  | endInObject => "EOF while parsing an object"
  | noValue => "expected value"
  | noColon => "expected `:`"
  | noItemEnd => "expected `,` or `]`"
  | noFieldEnd => "expected `,` or `\x7d`"
  | nameNotText => "key must be a string"
  | trailingComma => "trailing comma"
  | trailingCharacters => "trailing characters"
  | badWord => "expected ident"
  | badNumber => "invalid number"
  | badEscape => "invalid escape"
  | loneHalf => "lone leading surrogate in hex escape"
  | noSecondHalf => "unexpected end of hex escape"
  | controlCharacter => "control character (\\u0000-\\u001F) found while parsing a string"
  | tooLarge => "number out of range"
  | tooDeep => "recursion limit exceeded"

structure Fault where
  cause : Cause
  rest : List Char
deriving DecidableEq, Repr, Inhabited

namespace Fault

/-- A fault at the next character, which counts as read. -/
def atNext (cause : Cause) (rest : List Char) : Fault := ⟨cause, rest.tail⟩

/-- The line and the column of the end of a text, the column in bytes. -/
def place (cs : List Char) : Nat × Nat :=
  cs.foldl (fun (line, column) c =>
    if c = '\n' then (line + 1, 0) else (line, column + c.utf8Size)) (1, 0)

def message (whole : List Char) (fault : Fault) : String :=
  let (line, column) := place (whole.take (whole.length - fault.rest.length))
  fault.cause.message ++ " at line " ++ Decimal.natText line ++ " column " ++
    Decimal.natText column

end Fault

end Throttle.Json
