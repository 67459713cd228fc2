import Throttle.Cli.Arguments
import Throttle.Text.Terminal

/-!
# What the command line answers

The texts of help, of the version, and of the faults of arguments, and the codes with which the
program ends.  What the texts repeat of the arguments and the environment is written as a terminal
shows it.
-/

namespace Throttle.Cli

structure Exit where
  code : Nat
  stdout : String := ""
  stderr : String := ""
deriving DecidableEq, Repr, Inhabited

def programName : String := "turnstile"

def programVersion : String := "0.1.0"

def usageOf (parts : List String) : String := "Usage: " ++ " ".intercalate (programName :: parts)

def usage (used : List OptionName) : String :=
  usageOf (if used.isEmpty then ["[OPTIONS]"] else used.map OptionName.label)

/-- The usage of the program with an option after others; the settings stand together. -/
def usageAmong (option : OptionName) : String :=
  let settings := (OptionName.all.filter OptionName.isSetting).map OptionName.label
  let own := if option.isSetting then [] else [option.label]
  usageOf (own ++ ["<" ++ "|".intercalate settings ++ ">"])

def explanationColumn : Nat := 25

/-- A text whose further lines begin in the column of the explanations. -/
def indented (s : String) : String :=
  let margin := List.replicate explanationColumn ' '
  String.ofList (s.toList.flatMap fun c => if c = '\n' then c :: margin else [c])

/-- The explanation of the option for the address, up to the next option; the variable that gives
the address is shown with its value. -/
def listenExplanation (listenVariable : Option String) : String :=
  Text.Terminal.shown ("  Address for the HTTP listener [env: TURNSTILE_LISTEN=" ++
    indented (listenVariable.getD "") ++ "] [default: 127.0.0.1:3000]\n      ")

def helpText (listenVariable : Option String) : String :=
  "Per-client HTTP request rate limiting with Redis and in-memory backends\n\n" ++
  usage [] ++ "\n\nOptions:\n" ++
  "      --config <CONFIG>  Optional YAML file with limiter settings; " ++
  "environment variables win\n" ++
  "      --listen <LISTEN>" ++ listenExplanation listenVariable ++
  "--log-json         Emit logs as JSON lines\n" ++
  "  -h, --help             Print help\n" ++
  "  -V, --version          Print version\n"

namespace ArgumentFault

open Text.Terminal (shown)

def message : ArgumentFault → String
  | unexpected argument _ _ => "unexpected argument '" ++ shown argument ++ "' found"
  | missingValue option => "a value is required for '" ++ option.label ++ "' but none was supplied"
  | invalidValue option value =>
    "invalid value '" ++ shown value ++ "' for '" ++ option.label ++
      "': invalid socket address syntax"
  | unneededValue option value _ =>
    "unexpected value '" ++ shown value ++ "' for '" ++ option.label ++
      "' found; no more were expected"
  | repeated option => "the argument '" ++ option.label ++ "' cannot be used multiple times"

def hints : ArgumentFault → List String
  | unexpected _ similar used =>
    (similar.map fun option => "  tip: a similar argument exists: '--" ++ option.word ++ "'").toList
      ++ [usage used]
  | unneededValue option _ isFirst =>
    [if isFirst then usage [option] else usageAmong option]
  | repeated _ => [usage []]
  | missingValue _ | invalidValue _ _ => []

def text (fault : ArgumentFault) : String :=
  "\n\n".intercalate
    (("error: " ++ fault.message) :: fault.hints ++
      ["For more information, try '--help'.\n"])

end ArgumentFault

def Stop.exit (listenVariable : Option String) : Stop → Exit
  | .refused fault => { code := 2, stderr := fault.text }
  | .help => { code := 0, stdout := helpText listenVariable }
  | .version => { code := 0, stdout := programName ++ " " ++ programVersion ++ "\n" }

end Throttle.Cli
