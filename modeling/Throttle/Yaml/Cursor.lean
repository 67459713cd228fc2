import Throttle.Yaml.Fault
import Throttle.Yaml.Letter

/-!
# Places in a text while it is read

A cursor is what is left of a text and where that begins.  It also knows whether only gaps stand
before it on its line, since indentation ends with the first other character.  Two characters that
end a line together count as one end, but as two characters.
-/

namespace Throttle.Yaml

structure Cursor where
  rest : List Char
  mark : Mark := {}
  /-- Whether only gaps stand before on this line. -/
  inMargin : Bool := true
deriving Repr, Inhabited

structure Gaps where
  tab : Bool
  space : Bool
deriving DecidableEq, Repr, Inhabited

namespace Cursor

/-- The front of a text, which ends before its first NUL character. -/
def ofText (s : String) : Cursor := ⟨s.toList.takeWhile fun c => !isEnd c, {}, true⟩

/-- A number of steps that suffices for everything that can be done with the rest. -/
def fuel (c : Cursor) : Nat := c.rest.length + 1

def next (c : Cursor) : Char := c.rest.headD '\x00'

def nextAt (c : Cursor) (n : Nat) : Char := c.rest.getD n '\x00'

def skipGap (c : Cursor) (n : Nat) : Cursor :=
  { c with
    rest := c.rest.drop n
    mark := { c.mark with index := c.mark.index + n, column := c.mark.column + n } }

def skip (c : Cursor) (n : Nat) : Cursor := { c.skipGap n with inMargin := false }

def skipBreak (c : Cursor) : Cursor :=
  let size := if c.next == '\r' && c.nextAt 1 == '\n' then 2 else 1
  { rest := c.rest.drop size
    mark := ⟨c.mark.index + size, c.mark.line + 1, 0⟩
    inMargin := true }

def takeWhile (p : Char → Bool) (c : Cursor) : List Char × Cursor :=
  let front := c.rest.takeWhile p
  (front, if front.isEmpty then c else c.skip front.length)

def skipGaps (c : Cursor) : Cursor := c.skipGap (c.rest.takeWhile isGap).length

def skipLine (c : Cursor) : Cursor := (c.takeWhile fun d => !isLineEnd d).2

def fail {α : Type} (c : Cursor) (cause : Cause) : Except Fault α := .error ⟨cause, c.mark⟩

/-- Skips gaps and the comment after them; tabs count as gaps only if they are allowed. -/
def skipComment (c : Cursor) (tabs : Bool) : Except Fault (Gaps × Cursor) :=
  let front := c.rest.takeWhile fun d => d == ' ' || (tabs && d == '\t')
  let gaps : Gaps := ⟨front.contains '\t', front.contains ' '⟩
  let after := c.skipGap front.length
  if after.next == '#' then
    if front.isEmpty then after.fail .commentTooClose else .ok (gaps, after.skipLine)
  else .ok (gaps, after)

/-- Skips gaps, comments and ends of lines, and tells whether there was an end of a line.  A tab may
not indent anything to a column below `indent`. -/
def skipVoid (indent : Int) : Nat → Bool → Cursor → Except Fault (Bool × Cursor)
  | 0, broken, c => .ok (broken, c)
  | fuel + 1, broken, c =>
    if c.next == '\t' && c.inMargin && c.mark.column < indent then do
      let (_, c) ← c.skipComment true
      if isLineEnd c.next then skipVoid indent fuel broken c else c.fail .tabInIndentation
    else if isGap c.next then skipVoid indent fuel broken (c.skipGap 1)
    else if isBreak c.next then skipVoid indent fuel true c.skipBreak
    else if c.next == '#' then skipVoid indent fuel broken c.skipLine
    else .ok (broken, c)

/-- Skips spaces, comments and ends of lines, of which there must be a space or the end of a line,
and tells whether there was an end of a line. -/
def skipSpace : Nat → Bool → Bool → Cursor → Except Fault (Bool × Cursor)
  | 0, _, broken, c => .ok (broken, c)
  | fuel + 1, found, broken, c =>
    if c.next == ' ' then skipSpace fuel true broken (c.skipGap 1)
    else if isBreak c.next then skipSpace fuel true true c.skipBreak
    else if c.next == '#' then skipSpace fuel found broken c.skipLine
    else if found then .ok (broken, c)
    else c.fail .noBlankInKey

/-- Whether three equal characters stand here, and nothing after them. -/
def isThree (c : Cursor) (d : Char) : Bool :=
  c.next == d && c.nextAt 1 == d && c.nextAt 2 == d && isVoid (c.nextAt 3)

def isDocumentStart (c : Cursor) : Bool := c.mark.column == 0 && c.isThree '-'

def isDocumentEnd (c : Cursor) : Bool := c.mark.column == 0 && c.isThree '.'

def isDocumentMark (c : Cursor) : Bool := c.isDocumentStart || c.isDocumentEnd

end Cursor

end Throttle.Yaml
