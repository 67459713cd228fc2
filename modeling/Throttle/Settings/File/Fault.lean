import Throttle.Decimal
import Throttle.Json.Basic
import Throttle.Text.Quoted

/-!
# Faults of settings files

Why a settings file cannot be used.  The wording names the file, which is written without what
changes nothing in its name.
-/

namespace Throttle

inductive FileFault where
  | form (reason : String)
  /-- A number is not finite and has no plain form. -/
  | number (plain : String)
  | documents (count : Nat)
  /-- A key of a table is not a scalar. -/
  | key (description : String)
  | root (found : String)
deriving DecidableEq, Repr, Inhabited

def FileFault.message (file : String) (fault : FileFault) : String :=
  let reason := match fault with
    | form reason => reason
    | number plain => "Parsing " ++ plain ++ " as floating point number failed"
    | documents count => "Got " ++ Decimal.natText count ++ " YAML documents, expected 1"
    | key description =>
      "Cannot parse " ++ description ++ " because it is an unsupported hash key type"
    | root found => "invalid type: " ++ found ++ ", expected a map in " ++ file
  reason ++ " in " ++ file

/-- What a value is called that stands where a table should. -/
def Json.described : Json → String
  | .null | .broken => "unit value"
  | .bool b => "boolean `" ++ (if b then "true" else "false") ++ "`"
  | .number (.int i) =>
    if i < Nat.pow 2 63 then "64-bit integer `" ++ Decimal.intText i ++ "`"
    else "floating point `" ++ (Binary64.ofNat i.toNat).text ++ "`"
  | .number (.float x) => "floating point `" ++ x.text ++ "`"
  | .text s => "string " ++ Text.quoted s
  | .list _ => "sequence"
  | .object _ => "map"

end Throttle
