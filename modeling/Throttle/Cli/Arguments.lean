import Throttle.Cli.Option
import Throttle.Net.Socket
import Throttle.Text.Similarity

/-!
# Reading the arguments

Arguments are read from left to right.  A value that stands apart from its option is settled only
when the next option is met, or at the end, so a later argument that is not known hides its faults.
The first fault, or the first call for help or for the version, ends the reading.  An address that
no argument gives is taken from the environment.  Main definition: `Options.read`.
-/

namespace Throttle.Cli

inductive ArgumentFault where
  /-- There is no such option, or no place for a word alone; a similar option may exist.  The
  options used so far are remembered for the reminder of the usage. -/
  | unexpected (argument : String) (similar : Option OptionName) (used : List OptionName)
  | missingValue (option : OptionName)
  | invalidValue (option : OptionName) (value : String)
  /-- An option that takes no value is given one, after others or as the first. -/
  | unneededValue (option : OptionName) (value : String) (isFirst : Bool)
  | repeated (option : OptionName)
deriving DecidableEq, Repr, Inhabited

/-- How reading ends before the end of the arguments. -/
inductive Stop where
  | refused (fault : ArgumentFault)
  | help
  | version
deriving DecidableEq, Repr, Inhabited

structure Options where
  /-- The name of the settings file. -/
  config : Option String
  listen : Net.SocketAddress
  logJson : Bool
deriving DecidableEq, Repr, Inhabited

structure Scan where
  config : Option String := none
  listen : Option Net.SocketAddress := none
  /-- The options that are settled, in order. -/
  used : List OptionName := []
  /-- An option that is not settled, with its value if that has been read. -/
  pending : Option (OptionName × Option String) := none
  /-- Whether only words may follow. -/
  wordsOnly : Bool := false
deriving DecidableEq, Repr, Inhabited

namespace Scan

/-- Uses an option, which must be the first time; if it is not, its first use is forgotten. -/
def use (scan : Scan) (option : OptionName) : Scan × Option ArgumentFault :=
  if option ∈ scan.used then
    ({ scan with used := scan.used.erase option }, some (.repeated option))
  else ({ scan with used := scan.used ++ [option] }, none)

/-- Gives an option its value.  The name of a file must not be empty, and an address must be one. -/
def setValue (scan : Scan) (option : OptionName) (value : String) :
    Scan × Option ArgumentFault :=
  match option with
  | .config =>
    if value.isEmpty then (scan, some (.missingValue .config))
    else ({ scan with config := some value }, none)
  | .listen =>
    match Net.SocketAddress.parse? value with
    | some address => ({ scan with listen := some address }, none)
    | none => (scan, some (.invalidValue .listen value))
  | _ => (scan, none)

def settleWith (scan : Scan) (option : OptionName) (value : String) :
    Scan × Option ArgumentFault :=
  match scan.use option with
  | (scan, none) => scan.setValue option value
  | refused => refused

def settle (scan : Scan) : Scan × Option ArgumentFault :=
  let settled := { scan with pending := none }
  match scan.pending with
  | none => (settled, none)
  | some (option, none) => (settled, some (.missingValue option))
  | some (option, some value) => settled.settleWith option value

def usedWith (scan : Scan) (option : OptionName) : List OptionName :=
  if option ∈ scan.used then scan.used else scan.used ++ [option]

def goOn (result : Scan × Option ArgumentFault) : Except Stop Scan :=
  match result with
  | (scan, none) => .ok scan
  | (_, some fault) => .error (.refused fault)

def similarityBound : Binary64 := .ofDecimal false 7 (-1)

/-- The option with the word most similar to an unknown one, if that is similar enough; of equally
similar ones the last. -/
def similarOption (word : String) : Option OptionName :=
  let shares := OptionName.all.map fun option => (option, Text.similarity word option.word)
  let similar := shares.filter fun (_, share) => similarityBound.less share
  let best := similar.foldl (fun best (option, share) =>
    match best with
    | some (old, greatest) =>
      if share.less greatest then some (old, greatest) else some (option, share)
    | none => some (option, share)) none
  best.map (·.1)

/-- Refuses an unknown option; what is pending is settled as far as it can be. -/
def refuseOption (scan : Scan) (word : String) : Stop :=
  let scan := scan.settle.1
  let similar := similarOption word
  .refused (.unexpected ("--" ++ word) similar (similar.elim scan.used scan.usedWith))

def readFlag (scan : Scan) (option : OptionName) : Except Stop Scan := do
  let scan ← goOn scan.settle
  match option with
  | .help => .error .help
  | .version => .error .version
  | _ => goOn (scan.use option)

/-- Reads an option that is written as a word, perhaps with a value after an equals sign. -/
def readLong (scan : Scan) (word : String) (value : Option String) : Except Stop Scan :=
  match OptionName.ofWord? word with
  | none => .error (scan.refuseOption word)
  | some option =>
    match option.takesValue, value with
    | true, some value => do
      let scan ← goOn scan.settle
      goOn (scan.settleWith option value)
    | true, none => do
      let scan ← goOn scan.settle
      return { scan with pending := some (option, none) }
    | false, some value =>
      .error (.refused (.unneededValue option value scan.used.isEmpty))
    | false, none => scan.readFlag option

def readLetters (scan : Scan) : List Char → Except Stop Scan
  | [] => .ok scan
  | letter :: letters =>
    match OptionName.ofLetter? letter with
    | none => .error (.refused (.unexpected (String.ofList ['-', letter]) none []))
    | some option => do
      let scan ← scan.readFlag option
      scan.readLetters letters

/-- Reads a word that is no option: the value of the option before it, if that waits for one. -/
def readWord (scan : Scan) (word : String) : Except Stop Scan :=
  match scan.wordsOnly, scan.pending with
  | false, some (option, none) => .ok { scan with pending := some (option, some word) }
  | _, _ => .error (.refused (.unexpected word none []))

def readArgument (scan : Scan) (argument : String) : Except Stop Scan :=
  if scan.wordsOnly then scan.readWord argument
  else
    match argument.toList with
    | ['-', '-'] => .ok { scan with wordsOnly := true }
    | '-' :: '-' :: cs =>
      let word := cs.takeWhile (· != '=')
      let value := match cs.drop word.length with
        | [] => none
        | _ :: value => some (String.ofList value)
      scan.readLong (String.ofList word) value
    | '-' :: letter :: letters => scan.readLetters (letter :: letters)
    | _ => scan.readWord argument

end Scan

namespace Options

def defaultListen : Net.SocketAddress := ⟨.v4 127 0 0 1, 3000⟩

/-- Reads arguments, with the address that the environment gives. -/
def read (arguments : List String) (listenVariable : Option String) : Except Stop Options := do
  let scan ← arguments.foldlM Scan.readArgument {}
  let scan ← Scan.goOn scan.settle
  let scan ← match scan.listen, listenVariable with
    | none, some value => Scan.goOn (scan.setValue .listen value)
    | _, _ => .ok scan
  return {
    config := scan.config
    listen := scan.listen.getD defaultListen
    logJson := scan.used.contains .logJson }

end Options

end Throttle.Cli
