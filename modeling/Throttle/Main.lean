import Std.Time.Format
import Throttle.Cli.Program
import Throttle.Text.Uuid

/-!
# The command line

Requests are read from standard input and answered on standard output, one after the other, until
the input ends.  The environment is read under the names of the settings, in capitals.
-/

open Throttle

namespace Throttle.Cli

/-- The part of the environment that is looked at. -/
def readEnvironment : IO (List (String × String)) := do
  let names := listenVariable :: SettingName.all.flatMap SettingName.names
  let found ← names.mapM fun name => return (← IO.getEnv name).map fun value => (name, value)
  return found.filterMap id

def readFile? (name : String) : IO (Option String) :=
  try return some (← IO.FS.readFile name) catch _ => return none

def readFiles (names : List String) : IO (List (String × String)) := do
  let found ← names.mapM fun name => return (← readFile? name).map fun text => (name, text)
  return found.filterMap id

def readAmbient : IO Http.Ambient := do
  let now := Std.Time.DateTime.ofTimestamp (← Std.Time.Timestamp.now) .UTC
  return {
    timestamp := now.format "uuuu-MM-dd'T'HH:mm:ss.SSSSSSSSSxxx"
    freshId := Text.uuid (← IO.rand 0 (Nat.pow 2 122 - 1)) }

/-- Reads lines up to an empty one; none if the input has ended. -/
partial def readLines (input : IO.FS.Stream) : IO (Option (List String)) := do
  let line ← input.getLine
  if line.isEmpty then return none
  let line := (line.dropEndWhile fun c => c == '\n' || c == '\r').toString
  if line.isEmpty then return some []
  return (← readLines input).map (line :: ·)

partial def serve (input output : IO.FS.Stream) (peer : Net.SocketAddress) (started : Nat)
    (service : Service RedisCounter) : IO Unit := do
  if let some lines ← readLines input then
    let elapsed := (← IO.monoNanosNow) - started
    let service := (service.jump (elapsed - service.now)).state
    let (service, response) :=
      respond (← readAmbient) service (Http.Request.ofLines (some peer) lines)
    output.putStr (response.elim "" Http.Response.message)
    output.flush
    serve input output peer started service

def finish (exit : Exit) : IO UInt32 := do
  (← IO.getStdout).putStr exit.stdout
  (← IO.getStderr).putStr exit.stderr
  return UInt32.ofNat exit.code

end Throttle.Cli

def main (arguments : List String) : IO UInt32 := do
  let loopback : Net.IpAddress := .v4 127 0 0 1
  let surroundings : Cli.Surroundings := {
    environment := ← Cli.readEnvironment
    canServe := fun address => address.ip == loopback }
  let config := (Cli.readOptions surroundings arguments).toOption.bind (·.config)
  let files ← Cli.readFiles (config.elim [] SettingsFile.candidates)
  match Cli.beginRun { surroundings with files } arguments with
  | .error exit => Cli.finish exit
  | .ok service =>
    Cli.serve (← IO.getStdin) (← IO.getStdout) ⟨loopback, 0⟩ (← IO.monoNanosNow) service
    Cli.finish .success
