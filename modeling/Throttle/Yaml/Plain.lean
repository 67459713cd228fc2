import Throttle.Yaml.Cursor
import Throttle.Yaml.Token

/-!
# Plain scalars

A plain scalar ends before a colon with nothing after it, before a comment, and in a flow collection
before its punctuation.  It may go over several lines, which are folded as in quotes, as long as
they are indented.
-/

namespace Throttle.Yaml

namespace Cursor

def continuesPlain (inFlow : Bool) (c : Cursor) : Bool :=
  if c.next == ':' then !(isVoid (c.nextAt 1) || (inFlow && isFlowMark (c.nextAt 1)))
  else !(inFlow && isFlowMark c.next)

def readPlainRun (inFlow : Bool) : Nat → Cursor → List Char × Cursor
  | 0, c => ([], c)
  | fuel + 1, c =>
    if isVoid c.next || !c.continuesPlain inFlow then ([], c)
    else
      let (run, after) := readPlainRun inFlow fuel (c.skip 1)
      (c.next :: run, after)

structure PlainGap where
  gaps : List Char := []
  folded : Bool := false
  extra : Nat := 0

/-- What stands for the part between two runs, of which the second begins in the margin or not. -/
def PlainGap.text (gap : PlainGap) (inMargin : Bool) : List Char :=
  if !inMargin then gap.gaps
  else if gap.folded && gap.extra == 0 then [' ']
  else List.replicate gap.extra '\n'

def skipPlainGap (start : Mark) (indent : Int) :
    Nat → PlainGap → Cursor → Except Fault (PlainGap × Cursor)
  | 0, gap, c => .ok (gap, c)
  | fuel + 1, gap, c =>
    if isGap c.next then
      if !c.inMargin then
        skipPlainGap start indent fuel { gap with gaps := gap.gaps ++ [c.next] } (c.skipGap 1)
      else if c.next == '\t' && c.mark.column < indent then do
        let (_, c) ← c.skipComment true
        if isLineEnd c.next then skipPlainGap start indent fuel gap c
        else .error ⟨.tabInPlain, start⟩
      else skipPlainGap start indent fuel gap (c.skipGap 1)
    else if isBreak c.next then
      let gap : PlainGap :=
        if c.inMargin then { gap with extra := gap.extra + 1 }
        else { gap with gaps := [], folded := true }
      skipPlainGap start indent fuel gap c.skipBreak
    else .ok (gap, c)

/-- Reads the rest of a plain scalar after what lies before it.  In a block it ends where a line is
not indented as far as `indent`. -/
def readPlainText (start : Mark) (indent : Int) (inFlow : Bool) :
    Nat → PlainGap → Cursor → Except Fault (List Char × Cursor)
  | 0, _, c => .ok ([], c)
  | fuel + 1, gap, c =>
    if c.isDocumentMark || c.next == '#' then .ok ([], c)
    else if inFlow && c.next == '-' && isFlowMark (c.nextAt 1) then c.fail .dashBeforeFlow
    else do
      let (run, after) := c.readPlainRun inFlow c.fuel
      let (text, gap) := if run.isEmpty then ([], gap) else (gap.text c.inMargin ++ run, {})
      if !(isGap after.next || isBreak after.next) then return (text, after)
      else
        let (gap, after) ← after.skipPlainGap start indent after.fuel gap
        if !inFlow && after.mark.column < indent then return (text, after)
        else
          let (rest, after) ← readPlainText start indent inFlow fuel gap after
          return (text ++ rest, after)

def readPlain (outer : Int) (inFlow : Bool) (c : Cursor) : Except Fault (Token × Cursor) := do
  let indent := outer + 1
  if inFlow && c.mark.column < indent then c.fail .flowIndentation
  else
    let (text, after) ← c.readPlainText c.mark indent inFlow c.fuel {}
    return (⟨.scalar true (String.ofList text), c.mark⟩, after)

end Cursor

end Throttle.Yaml
