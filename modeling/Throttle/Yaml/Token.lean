import Throttle.Yaml.Fault

/-!
# Tokens of a YAML text

A token is an indicator, the beginning or end of a collection that follows from indentation, a
property of a node, or a scalar.
-/

namespace Throttle.Yaml

inductive TokenKind where
  | textEnd
  | versionDirective
  | tagDirective (handle head : String)
  | documentStart
  | documentEnd
  | blockListStart
  | blockMapStart
  | blockEnd
  | flowListStart
  | flowListEnd
  | flowMapStart
  | flowMapEnd
  | item
  | comma
  | key
  | value
  | alias (name : String)
  | anchor (name : String)
  | tag (handle suffix : String)
  | scalar (isPlain : Bool) (text : String)
deriving DecidableEq, Repr, Inhabited

structure Token where
  kind : TokenKind
  mark : Mark
deriving DecidableEq, Repr, Inhabited

end Throttle.Yaml
