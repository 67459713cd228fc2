import Throttle.Yaml.Tag

/-!
# Quoted scalars

A scalar in quotes may go over several lines: the gaps around an end of a line are left out, one end
of a line becomes a space, and of several all but the first are kept.  In single quotes a quote is
written twice; in double quotes a backslash begins an escape, and one at the end of a line joins the
line to the next.
-/

namespace Throttle.Yaml

def shortEscapes : List (Char × Char) :=
  [('0', '\x00'), ('a', '\x07'), ('b', '\x08'), ('t', '\t'), ('\t', '\t'), ('n', '\n'),
    ('v', '\x0b'), ('f', '\x0c'), ('r', '\r'), ('e', '\x1b'), (' ', ' '), ('"', '"'), ('/', '/'),
    ('\\', '\\'), ('N', '\u0085'), ('_', '\u00a0'), ('L', '\u2028'), ('P', '\u2029')]

/-- How many hexadecimal digits follow the letter of a long escape. -/
def longEscapes : List (Char × Nat) := [('x', 2), ('u', 4), ('U', 8)]

namespace Cursor

def hexNumber? (ds : List Char) : Option Nat :=
  ds.foldlM (fun n d => (Text.hexValue? d).map fun v => 16 * n + v) 0

def readEscape (start : Mark) (c : Cursor) : Except Fault (Char × Cursor) :=
  match shortEscapes.lookup (c.nextAt 1), longEscapes.lookup (c.nextAt 1) with
  | some d, _ => .ok (d, c.skip 2)
  | none, none => .error ⟨.unknownEscape, start⟩
  | none, some size =>
    let digits := (c.rest.drop 2).take size
    match hexNumber? digits, digits.length == size with
    | some n, true =>
      match char? n with
      | some d => .ok (d, c.skip (2 + size))
      | none => .error ⟨.notCharacter, start⟩
    | _, _ => .error ⟨.notHexadecimal, start⟩

/-- What was read of a quoted scalar up to a gap, the end of a line, or the quote. -/
structure QuotedRun where
  text : List Char
  /-- Whether a backslash joins the line to the next. -/
  joins : Bool
  cursor : Cursor

def readQuotedRun (start : Mark) (quote : Char) : Nat → Cursor → Except Fault QuotedRun
  | 0, c => .ok ⟨[], false, c⟩
  | fuel + 1, c =>
    let cons (d : Char) (c : Cursor) : Except Fault QuotedRun := do
      let run ← readQuotedRun start quote fuel c
      return { run with text := d :: run.text }
    if isVoid c.next then .ok ⟨[], false, c⟩
    else if c.next == quote then
      if quote == '\'' && c.nextAt 1 == quote then cons quote (c.skip 2) else .ok ⟨[], false, c⟩
    else if c.next == '\\' && quote == '"' then
      if isBreak (c.nextAt 1) then .ok ⟨[], true, (c.skip 1).skipBreak⟩
      else do
        let (d, c) ← c.readEscape start
        cons d c
    else cons c.next (c.skip 1)

structure QuotedGap where
  gaps : List Char := []
  /-- Whether the next gap is at the front of a line. -/
  broken : Bool
  folded : Bool := false
  extra : Nat := 0

def QuotedGap.text (gap : QuotedGap) : List Char :=
  if !gap.broken then gap.gaps
  else if gap.folded && gap.extra == 0 then [' ']
  else List.replicate gap.extra '\n'

def skipQuotedGap (indent : Int) : Nat → QuotedGap → Cursor → Except Fault (QuotedGap × Cursor)
  | 0, gap, c => .ok (gap, c)
  | fuel + 1, gap, c =>
    if isGap c.next then
      if !gap.broken then
        skipQuotedGap indent fuel { gap with gaps := gap.gaps ++ [c.next] } (c.skipGap 1)
      else if c.next == '\t' && c.mark.column < indent then c.fail .tabInQuoted
      else skipQuotedGap indent fuel gap (c.skipGap 1)
    else if isBreak c.next then
      if gap.broken then skipQuotedGap indent fuel { gap with extra := gap.extra + 1 } c.skipBreak
      else skipQuotedGap indent fuel { gap with broken := true, folded := true } c.skipBreak
    else .ok (gap, c)

def readQuotedText (start : Mark) (quote : Char) (indent : Int) :
    Nat → Cursor → Except Fault (List Char × Cursor)
  | 0, c => .ok ([], c)
  | fuel + 1, c =>
    if c.isDocumentMark then .error ⟨.markInQuoted, start⟩
    else if isEnd c.next then .error ⟨.endInQuoted, start⟩
    else if c.mark.column < indent then .error ⟨.quotedIndentation, start⟩
    else do
      let run ← c.readQuotedRun start quote c.fuel
      if run.cursor.next == quote then return (run.text, run.cursor)
      else
        let (gap, c) ← run.cursor.skipQuotedGap indent run.cursor.fuel { broken := run.joins }
        let (text, c) ← readQuotedText start quote indent fuel c
        return (run.text ++ gap.text ++ text, c)

def endsQuoted (start : Mark) (inFlow : Bool) (c : Cursor) : Bool :=
  isLineEnd c.next || (inFlow && (c.next == ',' || c.next == '}' || c.next == ']')) ||
    (c.next == ':' && (inFlow || start.line == c.mark.line))

def readQuoted (indent : Int) (inFlow : Bool) (c : Cursor) : Except Fault (Token × Cursor) := do
  let start := c.mark
  let inside := c.skip 1
  let (text, c) ← inside.readQuotedText start c.next indent inside.fuel
  let (_, c) ← (c.skip 1).skipComment true
  if c.endsQuoted start inFlow then return (⟨.scalar false (String.ofList text), start⟩, c)
  else c.fail .afterQuoted

end Cursor

end Throttle.Yaml
