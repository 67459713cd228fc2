import Throttle.Yaml.Lexer
import Throttle.Yaml.Node

/-!
# YAML documents

A text is a sequence of documents, each of which is one node.  The nodes of a mapping are a key and
its value by turns; a key that is broken is passed over, so that its value becomes the next key.  A
key that is used twice is a fault, but one that counts only if the text has no other.  Main
definition: `documents?`.
-/

namespace Throttle.Yaml

structure Stream where
  tokens : List Token
  /-- The fault that ends the tokens, if they do not end with the text. -/
  fault : Option Fault
  /-- What the handles of tags stand for. -/
  heads : List (String × String) := []
  /-- The numbers of the anchors of this document, the latest first. -/
  anchors : List (String × Nat) := []
  anchorCount : Nat := 0
  /-- The nodes of anchors, by number. -/
  anchored : List (Nat × Node) := []
  repeated : Option Fault := none

abbrev Reading := StateT Stream (Except Fault)

namespace Reading

def next : Reading Token := do
  let stream ← get
  match stream.tokens, stream.fault with
  | token :: _, _ => return token
  | [], some fault => throw fault
  | [], none => return ⟨.textEnd, {}⟩

def skip : Reading Unit := modify fun stream => { stream with tokens := stream.tokens.tail }

def fail {α : Type} (cause : Cause) (mark : Mark) : Reading α := throw ⟨cause, mark⟩

def addAnchor (name : String) : Reading Nat := do
  let number := (← get).anchorCount + 1
  modify fun stream => { stream with
    anchorCount := number
    anchors := (name, number) :: stream.anchors }
  return number

def keep (anchor : Option Nat) (node : Node) : Reading Unit :=
  match anchor with
  | none => return
  | some number =>
    modify fun stream => { stream with anchored := (number, node) :: stream.anchored }

def resolveTag (mark : Mark) (handle suffix : String) : Reading (String × String) := do
  let heads := (← get).heads
  if handle = "!!" then return ((heads.lookup "!!").getD Node.standardHead, suffix)
  else if handle = "" ∧ suffix = "!" then return ((heads.lookup "").getD "", suffix)
  else
    match heads.lookup handle with
    | some head => return (head, suffix)
    | none =>
      if handle.length ≥ 2 ∧ handle.toList.head? = some '!' ∧ handle.toList.getLast? = some '!' then
        fail .undeclaredHandle mark
      else return (handle, suffix)

end Reading

structure Properties where
  anchor : Option Nat := none
  tag : Option (String × String) := none

namespace Reading

def properties : Reading Properties := do
  let first ← next
  match first.kind with
  | .anchor name => do
    skip
    let anchor ← addAnchor name
    match (← next).kind with
    | .tag handle suffix => do
      skip
      return ⟨anchor, ← resolveTag first.mark handle suffix⟩
    | _ => return ⟨anchor, none⟩
  | .tag handle suffix => do
    skip
    let tag ← resolveTag first.mark handle suffix
    match (← next).kind with
    | .anchor name => do
      skip
      return ⟨← addAnchor name, tag⟩
    | _ => return ⟨none, tag⟩
  | _ => return {}

def referent (name : String) (mark : Mark) : Reading Node := do
  let stream ← get
  match stream.anchors.lookup name with
  | none => fail .unknownAnchor mark
  | some number => return (stream.anchored.lookup number).getD .broken

end Reading

structure MapScan where
  entries : List (Node × Node) := []
  key : Option Node := none

/-- A node, and the place where it counts as read. -/
abbrev Placed := Node × Mark

namespace Reading

def addTo (scan : MapScan) (node : Placed) : Reading MapScan :=
  match scan.key with
  | none => return if node.1.isBroken then scan else { scan with key := some node.1 }
  | some key => do
    if scan.entries.any fun entry => entry.1.describe == key.describe then
      let fault : Fault := ⟨.repeatedKey key.describe, node.2⟩
      modify fun stream => { stream with repeated := stream.repeated.or fault }
    return ⟨scan.entries ++ [(key, node.1)], none⟩

/-- Whether a token cannot begin the node after a key mark or a colon in a block. -/
def endsEntry (token : Token) : Bool :=
  token.kind == .key || token.kind == .value || token.kind == .blockEnd

/-- Whether a token cannot begin the node after a colon in a flow mapping. -/
def endsFlowEntry (token : Token) : Bool := token.kind == .comma || token.kind == .flowMapEnd

/-- Whether a token cannot begin the node after a colon in a flow list. -/
def endsFlowItem (token : Token) : Bool := token.kind == .comma || token.kind == .flowListEnd

mutual

/-- Takes a node.  In a flow collection no block begins; the value of a key may be a list that is
not indented. -/
def node (inBlock mayBeBare : Bool) : Nat → Reading Placed
  | 0 => return (.broken, {})
  | fuel + 1 => do
    let first ← next
    match first.kind with
    | .alias name => do
      skip
      return (← referent name first.mark, first.mark)
    | _ => do
      let properties ← properties
      let placed ← nodeWith properties inBlock mayBeBare fuel
      keep properties.anchor placed.1
      return placed

def nodeWith (properties : Properties) (inBlock mayBeBare : Bool) : Nat → Reading Placed
  | 0 => return (.broken, {})
  | fuel + 1 => do
    let token ← next
    match token.kind, inBlock, mayBeBare with
    | .item, _, true => bareList fuel []
    | .scalar isPlain text, _, _ => do
      skip
      return (.ofScalar isPlain properties.tag text, token.mark)
    | .flowListStart, _, _ => do
      skip
      flowList true fuel []
    | .flowMapStart, _, _ => do
      skip
      flowMap true fuel {}
    | .blockListStart, true, _ => do
      skip
      blockList fuel []
    | .blockMapStart, true, _ => do
      skip
      blockMap fuel {}
    | _, _, _ =>
      if properties.tag.isSome || properties.anchor.isSome then
        return (.ofScalar true properties.tag "", token.mark)
      else fail .noNode token.mark

def blockList : Nat → List Node → Reading Placed
  | 0, _ => return (.broken, {})
  | fuel + 1, items => do
    let token ← next
    match token.kind with
    | .blockEnd => do
      skip
      return (.list items, token.mark)
    | .item => do
      skip
      let first ← next
      let item ←
        if first.kind == .item || first.kind == .blockEnd then pure (.null, first.mark)
        else node true false fuel
      blockList fuel (items ++ [item.1])
    | _ => fail .noDash token.mark

/-- Takes the items of a list that is not indented. -/
def bareList : Nat → List Node → Reading Placed
  | 0, _ => return (.broken, {})
  | fuel + 1, items => do
    let token ← next
    match token.kind with
    | .item => do
      skip
      let first ← next
      let item ←
        if first.kind == .item || endsEntry first then pure (.null, first.mark)
        else node true false fuel
      bareList fuel (items ++ [item.1])
    | _ => return (.list items, token.mark)

def blockMap : Nat → MapScan → Reading Placed
  | 0, _ => return (.broken, {})
  | fuel + 1, scan => do
    let token ← next
    match token.kind with
    | .key => do
      skip
      let first ← next
      let key ← if endsEntry first then pure (.null, first.mark) else node true true fuel
      blockValue fuel (← addTo scan key)
    | .value => do
      blockValue fuel (← addTo scan (.null, token.mark))
    | .blockEnd => do
      skip
      return (.map scan.entries, token.mark)
    | _ => fail .noBlockKey token.mark

def blockValue : Nat → MapScan → Reading Placed
  | 0, _ => return (.broken, {})
  | fuel + 1, scan => do
    let token ← next
    if token.kind == .value then
      skip
      let first ← next
      let value ← if endsEntry first then pure (.null, first.mark) else node true true fuel
      blockMap fuel (← addTo scan value)
    else
      blockMap fuel (← addTo scan (.null, token.mark))

def flowList (isFirst : Bool) : Nat → List Node → Reading Placed
  | 0, _ => return (.broken, {})
  | fuel + 1, items => do
    let token ← next
    if token.kind == .flowListEnd then
      skip
      return (.list items, token.mark)
    else
      if !isFirst then
        if token.kind == .comma then skip else fail .noListComma token.mark
      let token ← next
      match token.kind with
      | .flowListEnd => do
        skip
        return (.list items, token.mark)
      | .key => do
        skip
        let item ← flowPair fuel
        flowList false fuel (items ++ [item])
      | _ => do
        let item ← node false false fuel
        flowList false fuel (items ++ [item.1])

def flowPair : Nat → Reading Node
  | 0 => return .broken
  | fuel + 1 => do
    let token ← next
    let key ←
      if token.kind == .value || endsFlowItem token then do
        skip
        pure (.null, token.mark)
      else node false false fuel
    let scan ← addTo {} key
    let token ← next
    let value ←
      if token.kind == .value then do
        skip
        let first ← next
        if endsFlowItem first then pure (.null, first.mark) else node false false fuel
      else pure (.null, token.mark)
    return .map (← addTo scan value).entries

def flowMap (isFirst : Bool) : Nat → MapScan → Reading Placed
  | 0, _ => return (.broken, {})
  | fuel + 1, scan => do
    let token ← next
    if token.kind == .flowMapEnd then
      skip
      return (.map scan.entries, token.mark)
    else
      if !isFirst then
        if token.kind == .comma then skip else fail .noMapComma token.mark
      let first ← next
      match first.kind with
      | .flowMapEnd => do
        skip
        return (.map scan.entries, token.mark)
      | .key => do
        skip
        let begins ← next
        let key ←
          if begins.kind == .value || endsFlowEntry begins then pure (.null, begins.mark)
          else node false false fuel
        flowValue fuel (← addTo scan key)
      | .value => do
        flowValue fuel (← addTo scan (.null, first.mark))
      | _ => do
        let key ← node false false fuel
        let scan ← addTo scan key
        let after ← next
        flowMap false fuel (← addTo scan (.null, after.mark))

def flowValue : Nat → MapScan → Reading Placed
  | 0, _ => return (.broken, {})
  | fuel + 1, scan => do
    let token ← next
    let value ←
      if token.kind == .value then do
        skip
        let first ← next
        if endsFlowEntry first then pure (.null, token.mark) else node false false fuel
      else pure (.null, token.mark)
    flowMap false fuel (← addTo scan value)

end

/-- Takes directives, of which only the last one declares a handle. -/
def directives : Nat → Bool → Reading Unit
  | 0, _ => return
  | fuel + 1, hasVersion => do
    let token ← next
    match token.kind with
    | .versionDirective =>
      if hasVersion then fail .repeatedVersion token.mark
      else do
        modify fun stream => { stream with heads := [] }
        skip
        directives fuel true
    | .tagDirective handle head => do
      modify fun stream => { stream with heads := [(handle, head)] }
      skip
      directives fuel hasVersion
    | _ => return

def skipEnds : Nat → Reading Unit
  | 0 => return
  | fuel + 1 => do
    if (← next).kind == .documentEnd then
      skip
      skipEnds fuel

def isDirective : TokenKind → Bool
  | .versionDirective | .tagDirective _ _ => true
  | _ => false

def documentNode (fuel : Nat) : Reading Node := do
  let token ← next
  let between := isDirective token.kind || token.kind == .documentStart ||
    token.kind == .documentEnd || token.kind == .textEnd
  if between then return .null else (·.1) <$> node true false fuel

def markedDocument (fuel : Nat) : Reading Node := do
  directives fuel false
  let token ← next
  if token.kind == .documentStart then
    skip
    documentNode fuel
  else fail .noDocumentStart token.mark

/-- Takes the documents of a text; one without a mark may stand first or after a mark for an end. -/
def documents : Nat → Bool → List Node → Reading (List Node)
  | 0, _, done => return done
  | fuel + 1, mayBeBare, done => do
    skipEnds fuel
    let token ← next
    if token.kind == .textEnd then return done
    else
      modify fun stream => { stream with anchors := [] }
      let isMarked := isDirective token.kind || token.kind == .documentStart || !mayBeBare
      let document ← if isMarked then markedDocument fuel else (·.1) <$> node true false fuel
      let after ← next
      modify fun stream => { stream with heads := [] }
      if after.kind == .documentEnd then
        skip
        documents fuel true (done ++ [document])
      else if isDirective after.kind then fail .noDocumentEnd after.mark
      else documents fuel false (done ++ [document])

end Reading

def documents? (s : String) : Except Fault (List Node) := do
  let (tokens, fault) := tokens s
  let fuel := 4 * tokens.length + 16
  let (documents, stream) ← (Reading.documents fuel true []).run { tokens, fault }
  match stream.repeated with
  | some fault => .error fault
  | none => return documents

end Throttle.Yaml
