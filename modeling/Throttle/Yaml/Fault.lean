import Throttle.Decimal

/-!
# Faults in YAML texts

What can be wrong with a YAML text, and where.  A place counts characters from the front of the
text, lines from one, and columns from zero; the wording of a fault counts columns from one.
-/

namespace Throttle.Yaml

structure Mark where
  index : Nat := 0
  line : Nat := 1
  column : Nat := 0
deriving DecidableEq, Repr, Inhabited

inductive Cause where
  | unexpectedCharacter (c : Char)
  | commentTooClose
  | keyWithoutColon
  | keyExpected
  | indentation
  | anchorIndentation
  | flowIndentation
  | quotedIndentation
  | tabInIndentation
  | tabInQuoted
  | tabInPlain
  | tabInKey
  | tabAfterDash
  | tabAfterColon
  | noBlankInKey
  | afterDocumentEnd
  | tooDeep
  | itemInFlow
  | itemNotAllowed
  | keyNotAllowed
  | valueNotAllowed
  | colonNotAllowed
  | bracketAfterColon
  | dashBeforeFlow
  | markInQuoted
  | endInQuoted
  | afterQuoted
  | unknownEscape
  | notHexadecimal
  | notCharacter
  | zeroIndicator
  | blockHeader
  | blockTab
  | blockIndentation
  | anchorName
  | directiveName
  | directiveLetter
  | directiveEnd
  | versionNumber
  | versionLength
  | versionPoint
  | tagDirectiveEnd
  | tagDirectiveHandle
  | globalTag
  | tagHandle
  | tagEnd
  | tagSuffix
  | verbatimEnd
  | uriEscape
  | uriLeadingByte
  | uriTrailingByte
  | uriCharacter
  | undeclaredHandle
  | unknownAnchor
  | noDocumentStart
  | noDocumentEnd
  | repeatedVersion
  | noNode
  | noBlockKey
  | noDash
  | noMapComma
  | noListComma
  | repeatedKey (key : String)
deriving DecidableEq, Repr, Inhabited

def Cause.message : Cause → String
  | unexpectedCharacter c => "unexpected character: `" ++ String.singleton c ++ "'"
  | commentTooClose => "comments must be separated from other tokens by whitespace"
  | keyWithoutColon => "simple key expect ':'"
  | keyExpected => "simple key expected"
  | indentation => "invalid indentation"
  | anchorIndentation => "invalid indentation for anchor"
  | flowIndentation => "invalid indentation in flow construct"
  | quotedIndentation => "invalid indentation in quoted scalar"
  | tabInIndentation => "tabs disallowed within this context (block indentation)"
  | tabInQuoted => "tab cannot be used as indentation"
  | tabInPlain => "while scanning a plain scalar, found a tab"
  | tabInKey => "tabs disallowed in this context"
  | tabAfterDash => "'-' must be followed by a valid YAML whitespace"
  | tabAfterColon => "':' must be followed by a valid YAML whitespace"
  | noBlankInKey => "expected whitespace"
  | afterDocumentEnd => "invalid content after document end marker"
  | tooDeep => "recursion limit exceeded"
  | itemInFlow => "\"-\" is only valid inside a block"
  | itemNotAllowed => "block sequence entries are not allowed in this context"
  | keyNotAllowed => "mapping keys are not allowed in this context"
  | valueNotAllowed => "mapping values are not allowed in this context"
  | colonNotAllowed => "illegal placement of ':' indicator"
  | bracketAfterColon => "':' may not precede any of `[\x7b` in flow mapping"
  | dashBeforeFlow => "plain scalar cannot start with '-' followed by ,[]\x7b\x7d"
  | markInQuoted => "while scanning a quoted scalar, found unexpected document indicator"
  | endInQuoted => "while scanning a quoted scalar, found unexpected end of stream"
  | afterQuoted => "invalid trailing content after double-quoted scalar"
  | unknownEscape => "while parsing a quoted scalar, found unknown escape character"
  | notHexadecimal => "while parsing a quoted scalar, did not find expected hexadecimal number"
  | notCharacter => "while parsing a quoted scalar, found invalid Unicode character escape code"
  | zeroIndicator => "while scanning a block scalar, found an indentation indicator equal to 0"
  | blockHeader => "while scanning a block scalar, did not find expected comment or line break"
  | blockTab => "a block scalar content cannot start with a tab"
  | blockIndentation => "wrongly indented line in block scalar"
  | anchorName => "while scanning an anchor or alias, did not find expected alphabetic or " ++
      "numeric character"
  | directiveName => "while scanning a directive, could not find expected directive name"
  | directiveLetter => "while scanning a directive, found unexpected non-alphabetical character"
  | directiveEnd => "while scanning a directive, did not find expected comment or line break"
  | versionNumber => "while scanning a YAML directive, did not find expected version number"
  | versionLength => "while scanning a YAML directive, found extremely long version number"
  | versionPoint => "while scanning a YAML directive, did not find expected digit or '.' character"
  | tagDirectiveEnd => "while scanning TAG, did not find expected whitespace or line break"
  | tagDirectiveHandle => "while parsing a tag directive, did not find expected '!'"
  | globalTag => "invalid global tag character"
  | tagHandle => "while scanning a tag, did not find expected '!'"
  | tagEnd => "while scanning a tag, did not find expected whitespace or line break"
  | tagSuffix => "while parsing a tag, did not find expected tag URI"
  | verbatimEnd => "while scanning a verbatim tag, did not find the expected '>'"
  | uriEscape => "while parsing a tag, found an invalid escape sequence"
  | uriLeadingByte => "while parsing a tag, found an incorrect leading UTF-8 byte"
  | uriTrailingByte => "while parsing a tag, found an incorrect trailing UTF-8 byte"
  | uriCharacter => "while parsing a tag, found an invalid UTF-8 codepoint"
  | undeclaredHandle => "the handle wasn't declared"
  | unknownAnchor => "while parsing node, found unknown anchor"
  | noDocumentStart => "did not find expected <document start>"
  | noDocumentEnd => "missing explicit document end marker before directive"
  | repeatedVersion => "duplicate version directive"
  | noNode => "while parsing a node, did not find expected node content"
  | noBlockKey => "while parsing a block mapping, did not find expected key"
  | noDash => "while parsing a block collection, did not find expected '-' indicator"
  | noMapComma => "while parsing a flow mapping, did not find expected ',' or '\x7d'"
  | noListComma => "while parsing a flow sequence, expected ',' or ']'"
  | repeatedKey key => key ++ ": duplicated key in mapping"

structure Fault where
  cause : Cause
  place : Mark
deriving DecidableEq, Repr, Inhabited

def Fault.message (fault : Fault) : String :=
  fault.cause.message ++ " at byte " ++ Decimal.natText fault.place.index ++ " line " ++
    Decimal.natText fault.place.line ++ " column " ++ Decimal.natText (fault.place.column + 1)

end Throttle.Yaml
