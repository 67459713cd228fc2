import Throttle.Yaml.Cursor
import Throttle.Yaml.Token

/-!
# Block scalars

A block scalar is the indented lines after a bar, which keeps the ends of lines, or after a
greater-than sign, which makes one end of a line between two lines without a gap at their fronts a
space.  Its header may give the indentation and what becomes of the ends of lines at its end: one is
kept, or none, or all.
-/

namespace Throttle.Yaml

inductive Chomping where
  | clip
  | strip
  | keep
deriving DecidableEq, Repr, Inhabited

structure BlockHeader where
  chomping : Chomping := .clip
  /-- The indentation that is given, or zero. -/
  indent : Nat := 0
deriving DecidableEq, Repr, Inhabited

namespace Cursor

def readChomping (c : Cursor) : Option (Chomping × Cursor) :=
  if c.next == '+' then some (.keep, c.skip 1)
  else if c.next == '-' then some (.strip, c.skip 1)
  else none

def readIndicator (start : Mark) (c : Cursor) : Except Fault (Nat × Cursor) :=
  if c.next == '0' then .error ⟨.zeroIndicator, start⟩
  else if c.next.isDigit then .ok (c.next.toNat - 48, c.skip 1)
  else .ok (0, c)

def readBlockHeader (start : Mark) (c : Cursor) : Except Fault (BlockHeader × Cursor) := do
  match c.readChomping with
  | some (chomping, c) =>
    let (indent, c) ← c.readIndicator start
    return (⟨chomping, indent⟩, c)
  | none =>
    let (indent, after) ← c.readIndicator start
    if indent = 0 then return ({}, after)
    else
      let (chomping, after) := after.readChomping.getD (.clip, after)
      return (⟨chomping, indent⟩, after)

/-- Skips empty lines and the indentation of the next line, of which no more than `limit` is
skipped, and tells how many empty lines there were and the greatest indentation of all lines. -/
def skipIndent (limit : Option Nat) : Nat → Nat → Nat → Cursor → Nat × Nat × Cursor
  | 0, lines, greatest, c => (lines, greatest, c)
  | fuel + 1, lines, greatest, c =>
    let spaces := (c.rest.takeWhile (· == ' ')).length
    let c := c.skipGap (limit.elim spaces fun limit => min spaces (limit - c.mark.column))
    let greatest := max greatest c.mark.column
    if isBreak c.next then skipIndent limit fuel (lines + 1) greatest c.skipBreak
    else (lines, greatest, c)

structure BlockScan where
  text : List Char := []
  ended : Bool := false
  empty : Nat
  /-- Whether the last line has a gap at its front. -/
  indented : Bool := false
  cursor : Cursor

/-- The scan after one more line, and the empty lines and the indentation after it. -/
def BlockScan.readLine (keepsBreaks : Bool) (indent : Nat) (scan : BlockScan) : BlockScan :=
  let c := scan.cursor
  let indented := isGap c.next
  let between :=
    if !keepsBreaks && scan.ended && !scan.indented && !indented then
      if scan.empty = 0 then [' '] else List.replicate scan.empty '\n'
    else List.replicate ((if scan.ended then 1 else 0) + scan.empty) '\n'
  let (line, after) := c.takeWhile fun d => !isLineEnd d
  let text := scan.text ++ between ++ line
  if isEnd after.next then { text, ended := false, empty := 0, indented, cursor := after }
  else
    let (empty, _, after) := after.skipBreak.skipIndent (some indent) after.fuel 0 0
    { text, ended := true, empty, indented, cursor := after }

def readBlockLines (keepsBreaks : Bool) (indent : Nat) : Nat → BlockScan → BlockScan
  | 0, scan => scan
  | fuel + 1, scan =>
    let c := scan.cursor
    if c.mark.column != indent || isEnd c.next || (indent == 0 && c.isDocumentEnd) then scan
    else readBlockLines keepsBreaks indent fuel (scan.readLine keepsBreaks indent)

def BlockScan.result (scan : BlockScan) (chomping : Chomping) (indent : Nat) : List Char :=
  let lastBreak := if scan.ended then ['\n'] else []
  let missingBreak :=
    if isEnd scan.cursor.next && scan.cursor.mark.column ≥ max indent 1 then ['\n'] else []
  scan.text ++ match chomping with
    | .strip => []
    | .clip => lastBreak ++ missingBreak
    | .keep => lastBreak ++ missingBreak ++ List.replicate scan.empty '\n'

def emptyBlock (chomping : Chomping) (broken : Bool) (empty : Nat) : List Char :=
  if !broken then []
  else
    match chomping with
    | .strip => []
    | .clip => ['\n']
    | .keep => List.replicate (max empty 1) '\n'

def readBlock (keepsBreaks : Bool) (outer : Int) (c : Cursor) :
    Except Fault (Token × Cursor) := do
  let start := c.mark
  let (header, c) ← (c.skip 1).readBlockHeader start
  let (_, c) ← c.skipComment true
  if !isLineEnd c.next then .error ⟨.blockHeader, start⟩
  else
    let c := if isBreak c.next then c.skipBreak else c
    if c.next == '\t' then .error ⟨.blockTab, start⟩
    else
      let given := (header.indent + max outer 0).toNat
      let limit := if header.indent = 0 then none else some given
      let (empty, greatest, c) := c.skipIndent limit c.fuel 0 0
      let indent :=
        if header.indent = 0 then max greatest (max (outer + 1).toNat (if outer > 0 then 1 else 0))
        else given
      if isEnd c.next then
        let text := emptyBlock header.chomping (c.mark.line != start.line) empty
        return (⟨.scalar false (String.ofList text), start⟩, c)
      else if c.mark.column < indent ∧ c.mark.column > outer then c.fail .blockIndentation
      else
        let scan := readBlockLines keepsBreaks indent c.fuel { empty, cursor := c }
        let text := scan.result header.chomping indent
        return (⟨.scalar false (String.ofList text), c.mark⟩, scan.cursor)

end Cursor

end Throttle.Yaml
