import Throttle.Cli.Text
import Throttle.Http.Message
import Throttle.Http.Router
import Throttle.Limiter.OfSettings
import Throttle.Settings.File
import Throttle.Settings.Resolve

/-!
# The program

The program reads its arguments, then the settings file under the environment, builds the limiter,
starts it, takes its address, and answers requests until it is told to stop.  The first step that
fails ends it.
-/

namespace Throttle.Cli

structure Surroundings where
  environment : List (String × String) := []
  /-- The files that can be read, with their texts. -/
  files : List (String × String) := []
  canServe : Net.SocketAddress → Bool

def Exit.failure (message : String) (causes : List String) : Exit :=
  let caused := if causes.isEmpty then [] else ["\n\nCaused by:"] ++ causes.map ("\n    " ++ ·)
  { code := 1, stderr := "Error: " ++ message ++ String.join caused ++ "\n" }

def Exit.success : Exit := { code := 0 }

def listenVariable : String := "TURNSTILE_LISTEN"

def addressNotAvailable : String := "Cannot assign requested address (os error 99)"

def Exit.ofError (error : LimiterError) : Exit :=
  .failure error.message (match error with
    | .io reason => [reason]
    | _ => [])

def readOptions (surroundings : Surroundings) (arguments : List String) : Except Exit Options :=
  let listen := surroundings.environment.lookup listenVariable
  (Options.read arguments listen).mapError (Stop.exit listen)

def readSettings (surroundings : Surroundings) (options : Options) : Except Exit Settings := do
  let file ← match options.config with
    | none => .ok []
    | some name =>
      (SettingsFile.layer surroundings.files name).mapError fun (found, fault) =>
        .failure (fault.message found) []
  return (Settings.resolve (Layered.source file surroundings.environment)).value

/-- Begins a run: the limiter that has been started, or the end of the run. -/
def beginRun (surroundings : Surroundings) (arguments : List String) :
    Except Exit (Service RedisCounter) := do
  let options ← readOptions surroundings arguments
  let settings ← readSettings surroundings options
  let built ← (Limiter.ofSettings? settings none).mapError Exit.ofError
  if surroundings.canServe options.listen then
    return (Service.start ⟨built.state, 0⟩).state
  else throw (.ofError (.io addressNotAvailable))

/-- Answers a request, or what was refused.  There is no answer if the clock has come to its end. -/
def respond (ambient : Http.Ambient) (service : Service RedisCounter)
    (request : Except Http.Refusal Http.Request) :
    Service RedisCounter × Option Http.Response :=
  match request with
  | .error refusal => (service, some (.refusal refusal))
  | .ok request =>
    let handled := Http.handle ambient service request
    (handled.state, handled.value.toOption)

end Throttle.Cli
