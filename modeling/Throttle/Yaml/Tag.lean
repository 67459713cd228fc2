import Throttle.Text.Hex
import Throttle.Yaml.Cursor
import Throttle.Yaml.Token

/-!
# Anchors, tags and directives

A tag is an address in angle brackets or a handle and a suffix.  Handles are declared by directives,
of which there is one for the version as well; a directive that is not known declares nothing.
Bytes may be written in hexadecimal after percent signs; the character is made of the bytes as they
are, one after the other.
-/

namespace Throttle.Yaml

def byteCount? (b : Nat) : Option Nat :=
  if b < 0x80 then some 1
  else if 0xC0 ≤ b ∧ b < 0xE0 then some 2
  else if 0xE0 ≤ b ∧ b < 0xF0 then some 3
  else if 0xF0 ≤ b ∧ b < 0xF8 then some 4
  else none

def char? (n : Nat) : Option Char :=
  if n < 0xD800 ∨ (0xDFFF < n ∧ n < 0x110000) then some (Char.ofNat n) else none

namespace Cursor

def escapedByte? (c : Cursor) : Option Nat := do
  guard (c.next == '%')
  let high ← Text.hexValue? (c.nextAt 1)
  let low ← Text.hexValue? (c.nextAt 2)
  return 16 * high + low

def readBytes (start : Mark) : Nat → Nat → Cursor → Except Fault (Nat × Cursor)
  | 0, code, c => .ok (code, c)
  | count + 1, code, c =>
    match c.escapedByte? with
    | none => .error ⟨.uriEscape, start⟩
    | some b =>
      if b < 0x80 ∨ 0xC0 ≤ b then .error ⟨.uriTrailingByte, start⟩
      else readBytes start count (256 * code + b) (c.skip 3)

def readUriEscape (start : Mark) (c : Cursor) : Except Fault (Char × Cursor) :=
  match c.escapedByte? with
  | none => .error ⟨.uriEscape, start⟩
  | some b =>
    match byteCount? b with
    | none => .error ⟨.uriLeadingByte, start⟩
    | some count => do
      let (code, c) ← readBytes start (count - 1) b (c.skip 3)
      match char? code with
      | some d => .ok (d, c)
      | none => .error ⟨.uriCharacter, start⟩

def readUri (start : Mark) (p : Char → Bool) : Nat → Cursor → Except Fault (List Char × Cursor)
  | 0, c => .ok ([], c)
  | fuel + 1, c =>
    if !p c.next then .ok ([], c)
    else do
      let (d, c) ← if c.next == '%' then c.readUriEscape start else .ok (c.next, c.skip 1)
      let (ds, c) ← readUri start p fuel c
      return (d :: ds, c)

/-- Reads the handle of a tag; in a directive it must end with an exclamation mark. -/
def readHandle (start : Mark) (inDirective : Bool) (c : Cursor) :
    Except Fault (List Char × Cursor) :=
  if c.next != '!' then .error ⟨.tagHandle, start⟩
  else
    let (name, c) := (c.skip 1).takeWhile isNameChar
    if c.next == '!' then .ok ('!' :: name ++ ['!'], c.skip 1)
    else if inDirective && !name.isEmpty then .error ⟨.tagDirectiveHandle, start⟩
    else .ok ('!' :: name, c)

def readVerbatim (start : Mark) (c : Cursor) : Except Fault (List Char × Cursor) := do
  let c := c.skip 2
  let (uri, c) ← c.readUri start isUriChar c.fuel
  if c.next == '>' then return (uri, c.skip 1) else .error ⟨.verbatimEnd, start⟩

def readTagParts (start : Mark) (c : Cursor) : Except Fault (List Char × List Char × Cursor) :=
  if c.nextAt 1 == '<' then do
    let (uri, c) ← c.readVerbatim start
    return ([], uri, c)
  else do
    let (handle, c) ← c.readHandle start false
    let (suffix, c) ← c.readUri start isTagChar c.fuel
    if handle.length ≥ 2 && handle.getLast? == some '!' then
      if suffix.isEmpty then .error ⟨.tagSuffix, start⟩ else return (handle, suffix, c)
    else
      let suffix := handle.drop 1 ++ suffix
      return if suffix.isEmpty then ([], ['!'], c) else (['!'], suffix, c)

def readTag (inFlow : Bool) (c : Cursor) : Except Fault (Token × Cursor) := do
  let start := c.mark
  let (handle, suffix, c) ← c.readTagParts start
  if isVoid c.next || (inFlow && isFlowMark c.next) then
    return (⟨.tag (String.ofList handle) (String.ofList suffix), start⟩, c)
  else .error ⟨.tagEnd, start⟩

def readAnchorName (c : Cursor) : Except Fault (String × Cursor) :=
  let (name, after) := (c.skip 1).takeWhile isAnchorChar
  if name.isEmpty then c.fail .anchorName else .ok (String.ofList name, after)

def skipVersionPart (start : Mark) (c : Cursor) : Except Fault Cursor :=
  let (digits, c) := c.takeWhile Char.isDigit
  if digits.isEmpty then .error ⟨.versionNumber, start⟩
  else if digits.length > 9 then .error ⟨.versionLength, start⟩
  else .ok c

def readVersion (start : Mark) (c : Cursor) : Except Fault (TokenKind × Cursor) := do
  let c ← c.skipGaps.skipVersionPart start
  if c.next != '.' then .error ⟨.versionPoint, start⟩
  else
    let c ← (c.skip 1).skipVersionPart start
    return (.versionDirective, c)

def readTagHead (start : Mark) (c : Cursor) : Except Fault (List Char × Cursor) := do
  let (first, c) ←
    if c.next == '!' then .ok (c.next, c.skip 1)
    else if !isTagChar c.next then .error ⟨.globalTag, start⟩
    else if c.next == '%' then c.readUriEscape start
    else .ok (c.next, c.skip 1)
  let (rest, c) ← c.readUri start isUriChar c.fuel
  return (first :: rest, c)

def readTagDirective (start : Mark) (c : Cursor) : Except Fault (TokenKind × Cursor) := do
  let (handle, c) ← c.skipGaps.readHandle start true
  let (head, c) ← c.skipGaps.readTagHead start
  if isVoid c.next then
    return (.tagDirective (String.ofList handle) (String.ofList head), c)
  else .error ⟨.tagDirectiveEnd, start⟩

def readDirective (c : Cursor) : Except Fault (Token × Cursor) := do
  let start := c.mark
  let (name, after) := (c.skip 1).takeWhile isNameChar
  if name.isEmpty then .error ⟨.directiveName, (c.skip 1).mark⟩
  else if !isVoid after.next then .error ⟨.directiveLetter, (c.skip 1).mark⟩
  else
    let (kind, c) ←
      if name = "YAML".toList then after.readVersion start
      else if name = "TAG".toList then after.readTagDirective start
      else .ok (.tagDirective "" "", after.skipLine)
    let (_, c) ← c.skipComment true
    if isBreak c.next then return (⟨kind, start⟩, c.skipBreak)
    else if isEnd c.next then return (⟨kind, start⟩, c)
    else .error ⟨.directiveEnd, start⟩

end Cursor

end Throttle.Yaml
