import Throttle.Decimal

/-!
# Faults in TOML texts

What is wrong with a text, and where.  Some faults only say that a text is not one kind of thing,
and then another kind is tried; a final fault ends the reading.  The wording shows the line of the
fault.  A fault at the end of the text lies after the last character, even if that ends a line.
-/

namespace Throttle.Toml

structure Fault where
  /-- The kind of thing that is not well formed. -/
  kind : Option String := none
  /-- What could stand here. -/
  expected : List String := []
  reason : Option String := none
  rest : List Char
  /-- Whether nothing else is tried. -/
  isFinal : Bool := true
deriving DecidableEq, Repr, Inhabited

/-- A result whose fault is about this kind of thing, unless it is about a part of it. -/
def within {α : Type} (kind : String) (result : Except Fault α) : Except Fault α :=
  result.mapError fun fault => { fault with kind := fault.kind.or kind }

/-- A result whose fault says what could stand here. -/
def expecting {α : Type} (expected : List String) (result : Except Fault α) : Except Fault α :=
  result.mapError fun fault => { fault with expected := fault.expected ++ expected }

/-- A result whose fault is final. -/
def final {α : Type} (result : Except Fault α) : Except Fault α :=
  result.mapError fun fault => { fault with isFinal := true }

/-- A result, or another one if its fault is not final. -/
def orElse {α : Type} (result : Except Fault α) (other : Unit → Except Fault α) :
    Except Fault α :=
  match result with
  | .error fault => if fault.isFinal then .error fault else other ()
  | .ok value => .ok value

/-- What was read, if anything; otherwise `cs` is what is left. -/
def optional {α : Type} (cs : List Char) (result : Except Fault (α × List Char)) :
    Except Fault (Option α × List Char) :=
  match result with
  | .ok (value, rest) => .ok (some value, rest)
  | .error fault => if fault.isFinal then .error fault else .ok (none, cs)

namespace Fault

def byteCount (cs : List Char) : Nat := (String.ofList cs).utf8ByteSize

/-- The line and the column of a place, counted from zero.  A column counts characters; before a
character of several bytes it counts bytes. -/
def place (before rest : List Char) : Nat × Nat :=
  let (before, after, extra) := match rest, before.getLast? with
    | [], some c => (before.dropLast, some c, 1)
    | rest, _ => (before, rest.head?, 0)
  let line := (before.reverse.takeWhile (· != '\n')).reverse
  let isWide := extra == 0 && after.any fun c => 1 < c.utf8Size
  (before.count '\n', (if isWide then byteCount line else line.length) + extra)

def text (fault : Fault) : String :=
  let kind := fault.kind.toList.map ("invalid " ++ ·)
  let expected :=
    if fault.expected.isEmpty then [] else ["expected " ++ ", ".intercalate fault.expected]
  "\n".intercalate (kind ++ expected ++ fault.reason.toList)

def message (whole : List Char) (fault : Fault) : String :=
  let (line, column) := place (whole.take (whole.length - fault.rest.length)) fault.rest
  let number := Decimal.natText (line + 1)
  let margin := String.ofList (List.replicate (number.length + 1) ' ') ++ "|"
  let shown := ((String.ofList whole).splitOn "\n").getD line ""
  let indent := String.ofList (List.replicate (column + 1) ' ')
  "\n".intercalate [
    "TOML parse error at line " ++ number ++ ", column " ++ Decimal.natText (column + 1),
    margin, number ++ " | " ++ shown, margin ++ indent ++ "^", fault.text, ""]

end Fault

end Throttle.Toml
