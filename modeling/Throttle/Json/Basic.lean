import Throttle.Binary64

/-!
# JSON values

The values that a JSON text denotes.  An object keeps its fields in the order in which they were
written, with repetitions.  A number is a whole number of 64 bits or one of double precision, since
the two are accepted in different places.
-/

namespace Throttle

namespace Json

/-- A number: a whole number that has 64 bits, with or without a sign, or any other number in double
precision.  Minus zero is not a whole number. -/
inductive Number where
  | int (value : Int)
  | float (x : Binary64)
deriving DecidableEq, Repr, Inhabited

end Json

/-- A JSON value.  `broken` is what is well formed but denotes nothing: a string in which half of a
surrogate pair stands alone, an object with such a name, or a number that is too large. -/
inductive Json where
  | null
  | bool (b : Bool)
  | number (n : Json.Number)
  | text (s : String)
  | broken
  | list (items : List Json)
  | object (fields : List (String × Json))
deriving Repr, Inhabited

namespace Json

def nat (n : Nat) : Json := .number (.int n)

def int (i : Int) : Json := .number (.int i)

def optionalText : Option String → Json
  | none => .null
  | some s => .text s

def valuesOf (name : String) (fields : List (String × Json)) : List Json :=
  (fields.filter (·.1 == name)).map (·.2)

/-- The first field of an object with this name. -/
def field? (name : String) : Json → Option Json
  | .object fields => (valuesOf name fields).head?
  | _ => none

end Json

end Throttle
