/-!
# Texts of records

The text of a value with named parts: its name, and its parts in order between braces.
-/

namespace Throttle.Text

def truth (b : Bool) : String := if b then "true" else "false"

def optional : Option String → String
  | none => "None"
  | some s => "Some(" ++ s ++ ")"

def record (name : String) (fields : List (String × String)) : String :=
  let parts := fields.map fun (key, value) => key ++ ": " ++ value
  name ++ " \x7b " ++ ", ".intercalate parts ++ " \x7d"

end Throttle.Text
