/-!
# Names of settings files

The name of a file consists of parts between slashes.  Empty parts and single points change nothing,
except that a name which ends in one is not the name of a file.  The ending of a name is what
follows the last point of its last part, if that does not begin the part.
-/

namespace Throttle.FileName

def parts (name : String) : List String := name.splitOn "/"

def isIdle (part : String) : Bool := part == "" || part == "."

/-- A name without the parts that change nothing. -/
def tidy (name : String) : String :=
  let root := if name.toList.head? == some '/' then "/" else ""
  root ++ "/".intercalate ((parts name).filter fun part => !isIdle part)

def mayBeFile (name : String) : Bool := (parts name).getLast?.any fun part => !isIdle part

/-- The ending of a name. -/
def ending? (name : String) : Option String :=
  let last := ((parts (tidy name)).getLast?.getD "").toList
  let ending := (last.reverse.takeWhile (· != '.')).reverse
  if ending.length + 1 < last.length then some (String.ofList ending) else none

end Throttle.FileName
