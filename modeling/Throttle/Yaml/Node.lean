import Throttle.Binary64
import Throttle.Text.AsciiCase
import Throttle.Text.Hex
import Throttle.Text.Quoted

/-!
# YAML nodes

The values that a YAML text denotes.  A mapping keeps its entries in the order in which they were
written.  A plain scalar without a tag is null, a truth value, a whole number of 64 bits in one of
three bases, a number of double precision, or a text.  A number keeps its text, since two numbers
are the same key only if they are written in the same way.
-/

namespace Throttle.Yaml

/-- A value.  `broken` is a scalar that is not what its tag asks for, or a reference to a node that
has not ended. -/
inductive Node where
  | null
  | bool (b : Bool)
  | int (i : Int)
  | real (plain : String)
  | text (s : String)
  | list (items : List Node)
  | map (entries : List (Node × Node))
  | broken
deriving Repr, Inhabited

/-- The value of digits of a base up to sixteen after a sign, if it has 64 bits. -/
def inBase? (base : Nat) (cs : List Char) : Option Int := do
  let (negative, ds) := match cs with
    | '-' :: ds => (true, ds)
    | '+' :: ds => (false, ds)
    | ds => (false, ds)
  guard (!ds.isEmpty)
  let n ← ds.foldlM (fun n d =>
    ((Text.hexValue? d).filter (· < base)).map fun v => base * n + v) 0
  let i : Int := if negative then -n else n
  if -(Nat.pow 2 63) ≤ i ∧ i < Nat.pow 2 63 then some i else none

def exponent? : List Char → Option Int
  | [] => some 0
  | e :: cs =>
    if e = 'e' ∨ e = 'E' then
      match cs with
      | '-' :: ds => (Decimal.digits? ds).map fun n => -(n : Int)
      | '+' :: ds => (Decimal.digits? ds).map fun n => (n : Int)
      | ds => (Decimal.digits? ds).map fun n => (n : Int)
    else none

/-- Reads a number: digits with a point somewhere or nowhere, and perhaps an exponent, or a word for
infinity or for what is no number, all after a sign. -/
def number? (s : String) : Option Binary64 := do
  let (negative, cs) := match s.toList with
    | '-' :: cs => (true, cs)
    | '+' :: cs => (false, cs)
    | cs => (false, cs)
  let word := Text.asciiLower (String.ofList cs)
  if word = "inf" ∨ word = "infinity" then return .infinite negative
  if word = "nan" then return .notANumber
  let whole := cs.takeWhile Char.isDigit
  let (fraction, cs) := match cs.drop whole.length with
    | '.' :: cs => (cs.takeWhile Char.isDigit, cs.dropWhile Char.isDigit)
    | cs => ([], cs)
  let mantissa ← Decimal.digits? (whole ++ fraction)
  let exponent ← exponent? cs
  return .ofDecimal negative mantissa (exponent - fraction.length)

def notFinite : List String :=
  [".inf", ".Inf", ".INF", "+.inf", "+.Inf", "+.INF", "-.inf", "-.Inf", "-.INF", ".nan", "NaN",
    ".NAN"]

def isReal (s : String) : Bool := notFinite.contains s || (number? s).isSome

namespace Node

/-- The whole number that a plain scalar is: in base sixteen or eight if it is marked so, and after
one more plus sign. -/
def wholeNumber? (s : String) : Option Int :=
  match s.toList with
  | '0' :: 'x' :: ds => inBase? 16 ds
  | '0' :: 'o' :: ds => inBase? 8 ds
  | '+' :: cs => inBase? 10 cs
  | cs => inBase? 10 cs

def ofPlain (s : String) : Node :=
  match wholeNumber? s with
  | some i => int i
  | none =>
    if s = "" ∨ s = "~" ∨ s = "null" then null
    else if s = "true" then bool true
    else if s = "false" then bool false
    else if isReal s then real s
    else text s

def standardHead : String := "tag:yaml.org,2002:"

def ofTagged (head suffix s : String) : Node :=
  if head ≠ standardHead then text s
  else if suffix = "bool" then
    if s = "true" then bool true else if s = "false" then bool false else broken
  else if suffix = "int" then ((inBase? 10 s.toList).map int).getD broken
  else if suffix = "float" then if isReal s then real s else broken
  else if suffix = "null" then if s = "~" ∨ s = "null" then null else broken
  else text s

/-- What a scalar denotes; in quotes or in a block it is a text, whatever its tag is. -/
def ofScalar (isPlain : Bool) (tag : Option (String × String)) (s : String) : Node :=
  match isPlain, tag with
  | false, _ => text s
  | true, none => ofPlain s
  | true, some (head, suffix) => ofTagged head suffix s

mutual

def describe : Node → String
  | null => "Null"
  | bool b => "Boolean(" ++ (if b then "true" else "false") ++ ")"
  | int i => "Integer(" ++ Decimal.intText i ++ ")"
  | real s => "Real(" ++ Text.quoted s ++ ")"
  | text s => "String(" ++ Text.quoted s ++ ")"
  | list items => "Array([" ++ ", ".intercalate (describeItems items) ++ "])"
  | map entries => "Hash(\x7b" ++ ", ".intercalate (describeEntries entries) ++ "\x7d)"
  | broken => "BadValue"

def describeItems : List Node → List String
  | [] => []
  | item :: items => item.describe :: describeItems items

def describeEntries : List (Node × Node) → List String
  | [] => []
  | (key, value) :: entries => (key.describe ++ ": " ++ value.describe) :: describeEntries entries

end

def isBroken : Node → Bool
  | broken => true
  | _ => false

end Node

end Throttle.Yaml
