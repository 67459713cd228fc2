import Throttle.Yaml.Block
import Throttle.Yaml.Plain
import Throttle.Yaml.Quoted

/-!
# Reading tokens

Tokens are read from left to right.  A node on one line may turn out to be a key when a colon
follows, and then the tokens for the key and for its mapping stand before it; so a token is given
out only when it cannot become a key any more.  Indentation opens and closes collections in block
style.  Main definition: `tokens`, all tokens of a text up to the first fault.
-/

namespace Throttle.Yaml

/-- The last node that may turn out to be a key. -/
structure Candidate where
  possible : Bool := false
  /-- Whether the node must be a key, since it stands where only keys stand. -/
  required : Bool := false
  /-- How many tokens stand before the node. -/
  number : Nat := 0
  mark : Mark := {}
deriving DecidableEq, Repr, Inhabited

structure Indent where
  /-- The column that counts again when it is closed. -/
  outer : Int
  /-- Whether it belongs to a collection, or only keeps values to the right of their keys. -/
  isBlock : Bool
deriving DecidableEq, Repr, Inhabited

structure Lexer where
  cursor : Cursor
  pending : List Token := []
  given : Nat := 0
  keyAllowed : Bool := true
  candidate : Candidate := {}
  /-- The candidates outside of it. -/
  outerCandidates : List Candidate := []
  indent : Int := -1
  indents : List Indent := []
  flowDepth : Nat := 0
  /-- Where a colon may stand without a gap after it. -/
  adjacentAt : Nat := 0
  flowMapSeen : Bool := false
  /-- For every open flow list whether a mapping without braces is open in it. -/
  bareMaps : List Bool := []
deriving Repr, Inhabited

namespace Lexer

def depthLimit : Nat := 255

def inFlow (l : Lexer) : Bool := l.flowDepth != 0

def moveTo (l : Lexer) (c : Cursor) : Lexer := { l with cursor := c }

def push (l : Lexer) (kind : TokenKind) (mark : Mark) : Lexer :=
  { l with pending := l.pending ++ [⟨kind, mark⟩] }

def insert (l : Lexer) (number : Nat) (kind : TokenKind) (mark : Mark) : Lexer :=
  let place := number - l.given
  { l with pending := l.pending.take place ++ ⟨kind, mark⟩ :: l.pending.drop place }

def fail {α : Type} (l : Lexer) (cause : Cause) : Except Fault α := l.cursor.fail cause

def dropCandidate (l : Lexer) : Except Fault Lexer :=
  if l.candidate.possible && l.candidate.required then l.fail .keyExpected
  else .ok { l with candidate := { l.candidate with possible := false } }

def saveCandidate (l : Lexer) : Except Fault Lexer :=
  if !l.keyAllowed then .ok l
  else do
    let required := !l.inFlow && l.indent == l.cursor.mark.column &&
      l.indents.head?.any (·.isBlock)
    let number := l.given + l.pending.length
    let l ← l.dropCandidate
    return { l with candidate := ⟨true, required, number, l.cursor.mark⟩ }

/-- Gives up a candidate of a block that is on an earlier line or too far away. -/
def checkCandidate (l : Lexer) : Except Fault Lexer :=
  let now := l.cursor.mark
  let old := l.candidate.mark
  if l.candidate.possible && !l.inFlow && (old.line < now.line || old.index + 1024 < now.index) then
    if l.candidate.required then l.fail .keyWithoutColon
    else .ok { l with candidate := { l.candidate with possible := false } }
  else .ok l

/-- Opens the indentation of a collection at a column to the right; its first token stands at the
end, or before the token with this number of tokens before it. -/
def openIndent (l : Lexer) (column : Nat) (number : Option Nat) (kind : TokenKind) (mark : Mark) :
    Lexer :=
  if l.inFlow then l
  else
    let l := match l.indents with
      | ⟨outer, false⟩ :: indents =>
        if l.indent ≤ (column : Int) then { l with indent := outer, indents } else l
      | _ => l
    if l.indent < (column : Int) then
      let l := { l with indent := (column : Int), indents := ⟨l.indent, true⟩ :: l.indents }
      match number with
      | some number => l.insert number kind mark
      | none => l.push kind mark
    else l

/-- Keeps what follows to the right of a key or a dash. -/
def openMargin (l : Lexer) : Lexer :=
  if !l.inFlow && l.indents.head?.any (·.isBlock) then
    { l with indent := l.indent + 1, indents := ⟨l.indent, false⟩ :: l.indents }
  else l

/-- Closes the innermost indentations that do not belong to collections. -/
def closeMargins (l : Lexer) : Lexer :=
  let margins := l.indents.takeWhile fun indent => !indent.isBlock
  { l with
    indent := (margins.getLast?.map (·.outer)).getD l.indent
    indents := l.indents.drop margins.length }

/-- Closes open indentations, the innermost first, down to a column. -/
def closeTo (column : Int) (mark : Mark) :
    Int → List Token → List Indent → Int × List Token × List Indent
  | indent, tokens, [] => (indent, tokens, [])
  | indent, tokens, inner :: indents =>
    if indent > column then
      closeTo column mark inner.outer
        (if inner.isBlock then tokens ++ [⟨.blockEnd, mark⟩] else tokens) indents
    else (indent, tokens, inner :: indents)

/-- Closes the indentations to the right of a column. -/
def closeIndents (l : Lexer) (column : Int) : Lexer :=
  if l.inFlow then l
  else
    let (indent, pending, indents) := closeTo column l.cursor.mark l.indent l.pending l.indents
    { l with indent, pending, indents }

/-- Skips what lies before the next token; in a block a key may begin after the end of a line. -/
def skipVoid (l : Lexer) : Except Fault Lexer := do
  let (broken, c) ← l.cursor.skipVoid l.indent l.cursor.fuel false
  return { l with cursor := c, keyAllowed := l.keyAllowed || (broken && !l.inFlow) }

def skipComment (l : Lexer) (tabs : Bool) : Except Fault (Gaps × Lexer) := do
  let (gaps, c) ← l.cursor.skipComment tabs
  return (gaps, l.moveTo c)

/-- Adds the end of the text, which counts as the front of a line.  No node can become a key
then. -/
def readEnd (l : Lexer) : Except Fault Lexer := do
  let mark := l.cursor.mark
  let mark := if mark.column = 0 then mark else { mark with line := mark.line + 1, column := 0 }
  let l := l.moveTo { l.cursor with mark }
  if (l.candidate :: l.outerCandidates).any fun candidate =>
      candidate.required && candidate.possible then l.fail .keyExpected
  else
    let closed (candidate : Candidate) : Candidate := { candidate with possible := false }
    let l := { l with
      candidate := closed l.candidate
      outerCandidates := l.outerCandidates.map closed }
    return ({ l.closeIndents (-1) with keyAllowed := false }).push .textEnd mark

def closeDocument (l : Lexer) : Except Fault Lexer := do
  let l ← (l.closeIndents (-1)).dropCandidate
  return { l with keyAllowed := false }

def readDirective (l : Lexer) : Except Fault Lexer := do
  let l ← l.closeDocument
  let (token, c) ← l.cursor.readDirective
  return (l.moveTo c).push token.kind token.mark

def readDocumentStart (l : Lexer) : Except Fault Lexer := do
  let l ← l.closeDocument
  return (l.moveTo (l.cursor.skip 3)).push .documentStart l.cursor.mark

def readDocumentEnd (l : Lexer) : Except Fault Lexer := do
  let l ← l.closeDocument
  let (_, l) ← ((l.moveTo (l.cursor.skip 3)).push .documentEnd l.cursor.mark).skipComment true
  if isLineEnd l.cursor.next then return l else l.fail .afterDocumentEnd

def readFlowStart (l : Lexer) (isMap : Bool) : Except Fault Lexer := do
  let l := (← l.saveCandidate).openMargin
  if l.flowDepth ≥ depthLimit then l.fail .tooDeep
  else
    let mark := l.cursor.mark
    let (_, l) ← { l with
      cursor := l.cursor.skip 1
      keyAllowed := true
      candidate := {}
      outerCandidates := l.candidate :: l.outerCandidates
      flowDepth := l.flowDepth + 1
      flowMapSeen := l.flowMapSeen || isMap
      bareMaps := if isMap then l.bareMaps else false :: l.bareMaps }.skipComment true
    return l.push (if isMap then .flowMapStart else .flowListStart) mark

/-- Ends the mapping without braces that is open in the innermost flow list. -/
def closeBareMap (l : Lexer) : Lexer :=
  match l.bareMaps with
  | true :: outer =>
    { l with flowMapSeen := false, bareMaps := false :: outer }.push .flowMapEnd l.cursor.mark
  | _ => l

def readFlowEnd (l : Lexer) (isMap : Bool) : Except Fault Lexer := do
  let l ← l.dropCandidate
  let l := match l.outerCandidates with
    | candidate :: outerCandidates =>
      { l with flowDepth := l.flowDepth - 1, candidate, outerCandidates }
    | [] => l
  let l := { l with keyAllowed := false }
  let l :=
    if isMap then l
    else
      let l := l.closeBareMap
      { l with bareMaps := l.bareMaps.tail }
  let mark := l.cursor.mark
  let (_, l) ← (l.moveTo (l.cursor.skip 1)).skipComment true
  let l := if l.inFlow then { l with adjacentAt := l.cursor.mark.index } else l
  return l.push (if isMap then .flowMapEnd else .flowListEnd) mark

def readComma (l : Lexer) : Except Fault Lexer := do
  let l := ({ ← l.dropCandidate with keyAllowed := true }).closeBareMap
  let mark := l.cursor.mark
  let (_, l) ← (l.moveTo (l.cursor.skip 1)).skipComment true
  return l.push .comma mark

/-- The place of the last pending token if that is a property of a node. -/
def propertyMark? (l : Lexer) : Option Mark :=
  match l.pending.getLast? with
  | some ⟨.anchor _, mark⟩ | some ⟨.tag _ _, mark⟩ => some mark
  | _ => none

def readItem (l : Lexer) : Except Fault Lexer := do
  if l.inFlow then l.fail .itemInFlow
  else if !l.keyAllowed then l.fail .itemNotAllowed
  else
    let mark := l.cursor.mark
    match l.propertyMark?.filter fun property =>
        mark.column == 0 && property.column == 0 && l.indent > -1 with
    | some property => .error ⟨.anchorIndentation, property⟩
    | none =>
      let l := (l.moveTo (l.cursor.skip 1)).openIndent mark.column none .blockListStart mark
      let (gaps, l) ← l.skipComment true
      if gaps.tab && l.cursor.next == '-' && isVoid (l.cursor.nextAt 1) then l.fail .tabAfterDash
      else
        let (_, l) ← l.skipComment false
        let opens := isBreak l.cursor.next || isFlowMark l.cursor.next
        let l ← (if opens then l.openMargin else l).dropCandidate
        return ({ l with keyAllowed := true }).push .item l.cursor.mark

def readKey (l : Lexer) : Except Fault Lexer := do
  let mark := l.cursor.mark
  if !l.inFlow && !l.keyAllowed then l.fail .keyNotAllowed
  else
    let l :=
      if l.inFlow then { l with flowMapSeen := true }
      else l.openIndent mark.column none .blockMapStart mark
    let l := { ← l.dropCandidate with keyAllowed := !l.inFlow }
    let c := l.cursor.skip 1
    let (broken, c) ← c.skipSpace c.fuel false false
    if c.next == '\t' then c.fail .tabInKey
    else
      let l := { l with cursor := c, keyAllowed := l.keyAllowed || (broken && !l.inFlow) }
      return l.push .key mark

def skipColon (l : Lexer) : Except Fault Lexer := do
  let l := l.moveTo (l.cursor.skip 1)
  if l.cursor.next != '\t' then return l
  else
    let (gaps, l) ← l.skipComment true
    if !gaps.space && (l.cursor.next == '-' || isNameChar l.cursor.next) then l.fail .tabAfterColon
    else return l

/-- Makes the candidate the key of the value whose colon is at `mark`. -/
def confirmCandidate (l : Lexer) (isBare : Bool) (mark : Mark) : Except Fault Lexer :=
  let candidate := l.candidate
  let l := l.insert candidate.number .key candidate.mark
  if isBare && candidate.mark.line < mark.line then .error ⟨.colonNotAllowed, mark⟩
  else
    let l := if isBare then l.insert candidate.number .flowMapStart l.cursor.mark else l
    let l := l.openIndent candidate.mark.column (some candidate.number) .blockMapStart mark
    let l := l.openMargin
    .ok { l with candidate := { l.candidate with possible := false }, keyAllowed := false }

/-- Begins a value at `mark` whose key was marked, or is missing. -/
def beginValue (l : Lexer) (isBare : Bool) (mark : Mark) : Except Fault Lexer :=
  let l := if isBare then l.push .flowMapStart l.cursor.mark else l
  if l.inFlow then .ok { l with keyAllowed := false }
  else if !l.keyAllowed then .error ⟨.valueNotAllowed, mark⟩
  else
    let l := (l.openIndent mark.column none .blockMapStart mark).openMargin
    .ok { l with keyAllowed := true }

/-- Reads the colon before a value.  In a flow list it makes a mapping without braces. -/
def readValue (l : Lexer) : Except Fault Lexer := do
  let mark := l.cursor.mark
  let isBare := !l.bareMaps.isEmpty && !l.flowMapSeen
  let l := if isBare then { l with bareMaps := true :: l.bareMaps.tail } else l
  let l ← l.skipColon
  let l ← if l.candidate.possible then l.confirmCandidate isBare mark else l.beginValue isBare mark
  return l.push .value mark

/-- Reads the colon before a value that follows without a gap in a flow collection. -/
def readFlowValue (l : Lexer) : Except Fault Lexer :=
  let next := l.cursor.nextAt 1
  if l.cursor.mark.index != l.adjacentAt && (next == '[' || next == '{') then
    l.fail .bracketAfterColon
  else l.readValue

def readAlias (l : Lexer) : Except Fault Lexer := do
  let l ← l.saveCandidate
  let (name, c) ← l.cursor.readAnchorName
  return ({ l with cursor := c, keyAllowed := false }).push (.alias name) l.cursor.mark

def readAnchor (l : Lexer) : Except Fault Lexer := do
  let l ← l.saveCandidate
  let (name, c) ← l.cursor.readAnchorName
  return ({ l with cursor := c, keyAllowed := false }).push (.anchor name) l.cursor.mark

def readTag (l : Lexer) : Except Fault Lexer := do
  let l ← l.saveCandidate
  let (token, c) ← l.cursor.readTag l.inFlow
  return ({ l with cursor := c, keyAllowed := false }).push token.kind token.mark

def readBlock (l : Lexer) (keepsBreaks : Bool) : Except Fault Lexer := do
  let l := (← l.saveCandidate).closeMargins
  let (token, c) ← l.cursor.readBlock keepsBreaks l.indent
  return ({ l with cursor := c, keyAllowed := true }).push token.kind token.mark

/-- Reads a quoted scalar and what lies before the next token; a colon may follow it at once. -/
def readQuoted (l : Lexer) : Except Fault Lexer := do
  let l := { ← l.saveCandidate with keyAllowed := false }
  let (token, c) ← l.cursor.readQuoted l.indent l.inFlow
  let l ← (l.moveTo c).skipVoid
  return ({ l with adjacentAt := l.cursor.mark.index }).push token.kind token.mark

/-- Reads a plain scalar; a key may begin after it if it ends in a margin. -/
def readPlain (l : Lexer) : Except Fault Lexer := do
  let l := (← l.saveCandidate).closeMargins
  let (token, c) ← l.cursor.readPlain l.indent l.inFlow
  return ({ l with cursor := c, keyAllowed := c.inMargin }).push token.kind token.mark

def readContent (l : Lexer) : Except Fault Lexer :=
  let c := l.cursor.next
  let alone := isVoid (l.cursor.nextAt 1)
  let adjacent := isFlowMark (l.cursor.nextAt 1) || l.cursor.mark.index == l.adjacentAt
  if c == '[' then l.readFlowStart false
  else if c == '{' then l.readFlowStart true
  else if c == ']' then l.readFlowEnd false
  else if c == '}' then l.readFlowEnd true
  else if c == ',' then l.readComma
  else if c == '-' && alone then l.readItem
  else if c == '?' && alone then l.readKey
  else if c == ':' && alone then l.readValue
  else if c == ':' && l.inFlow && adjacent then l.readFlowValue
  else if c == '*' then l.readAlias
  else if c == '&' then l.readAnchor
  else if c == '!' then l.readTag
  else if c == '|' && !l.inFlow then l.readBlock true
  else if c == '>' && !l.inFlow then l.readBlock false
  else if c == '\'' || c == '"' then l.readQuoted
  else if c == '%' || c == '@' || c.toNat == 0x60 then l.fail (.unexpectedCharacter c)
  else l.readPlain

def readToken (l : Lexer) : Except Fault Lexer := do
  let l ← l.skipVoid
  let l ← l.checkCandidate
  let l := l.closeIndents l.cursor.mark.column
  if isEnd l.cursor.next then l.readEnd
  else if l.cursor.mark.column == 0 && l.cursor.next == '%' then l.readDirective
  else if l.cursor.isDocumentStart then l.readDocumentStart
  else if l.cursor.isDocumentEnd then l.readDocumentEnd
  else if l.cursor.mark.column < l.indent then l.fail .indentation
  else l.readContent

/-- Whether the first pending token may still become a key. -/
def mayBeKey (l : Lexer) : Bool :=
  (l.candidate :: l.outerCandidates).any fun candidate =>
    candidate.possible && candidate.number == l.given

def run : Nat → Lexer → List Token × Option Fault
  | 0, _ => ([], none)
  | fuel + 1, l =>
    match l.pending with
    | [] =>
      match l.readToken with
      | .error fault => ([], some fault)
      | .ok l => run fuel l
    | token :: pending =>
      match l.checkCandidate with
      | .error fault => ([], some fault)
      | .ok l =>
        if l.mayBeKey then
          match l.readToken with
          | .error fault => ([], some fault)
          | .ok l => run fuel l
        else if token.kind = .textEnd then ([token], none)
        else
          let (tokens, fault) := run fuel { l with pending, given := l.given + 1 }
          (token :: tokens, fault)

end Lexer

/-- The tokens of a text, the last of which is its end unless there is a fault. -/
def tokens (s : String) : List Token × Option Fault :=
  let cursor := Cursor.ofText s
  Lexer.run (16 * (cursor.fuel + 1)) { cursor }

end Throttle.Yaml
