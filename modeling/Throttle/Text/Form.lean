import Throttle.Text.Percent
import Throttle.Text.Utf8

/-!
# Fields of a form

A query is a sequence of fields with ampersands between them, each a name and perhaps a value after
an equals sign.  A plus sign stands for a space, and bytes may be percent-encoded.
-/

namespace Throttle.Text

def formText (cs : List Char) : String :=
  String.ofList (decodeLossy (percentBytesOf (cs.map fun c => if c = '+' then ' ' else c)))

def formField (cs : List Char) : String × String :=
  let name := cs.takeWhile (· != '=')
  (formText name, formText (cs.drop (name.length + 1)))

def formParts : List Char → List (List Char)
  | [] => [[]]
  | c :: cs =>
    match formParts cs with
    | [] => [[c]]
    | part :: parts => if c = '&' then [] :: part :: parts else (c :: part) :: parts

/-- The fields of a query, in order; an empty part is none. -/
def formFields (query : List Char) : List (String × String) :=
  ((formParts query).filter (!·.isEmpty)).map formField

/-- The value of the last field with a name. -/
def lastValue? (name : String) (fields : List (String × String)) : Option String :=
  fields.reverse.lookup name

end Throttle.Text
