/-!
# Characters in YAML texts

The classes of characters that the rules of YAML tell apart.  The NUL character stands for the end
of a text.
-/

namespace Throttle.Yaml

def isBreak (c : Char) : Bool := c == '\n' || c == '\r'

def isEnd (c : Char) : Bool := c.toNat == 0

def isLineEnd (c : Char) : Bool := isBreak c || isEnd c

def isGap (c : Char) : Bool := c == ' ' || c == '\t'

/-- Whether nothing stands here: a gap, or the end of a line or the text. -/
def isVoid (c : Char) : Bool := isGap c || isLineEnd c

def isFlowMark (c : Char) : Bool :=
  c == ',' || c == '[' || c == ']' || c == '{' || c == '}'

def isNameChar (c : Char) : Bool := c.isAlphanum || c == '_' || c == '-'

def isUriChar (c : Char) : Bool :=
  isNameChar c || "#;/?:@&=+$,.!~*'()[]%".toList.contains c

def isTagChar (c : Char) : Bool := isUriChar c && !isFlowMark c && c != '!'

def isAnchorChar (c : Char) : Bool := !isVoid c && !isFlowMark c && c.toNat != 0xFEFF

end Throttle.Yaml
