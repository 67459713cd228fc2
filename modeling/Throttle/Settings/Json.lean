import Throttle.Json.Reader
import Throttle.Json.Writer
import Throttle.Settings.Basic

/-!
# Settings as JSON

`Settings.toJson` writes settings without the password.  `Settings.ofJson?` reads them from an
object with one field per part, in any order and beside other fields, or from a list of the parts
in order.  A user name or password may be null or left out of an object; every other part is
required.
-/

namespace Throttle

namespace Json

/-- The parts of a record: the fields of an object with these names, none of them twice, or the
items of a list of the same length. -/
def parts? (names : List String) : Json → Option (List (Option Json))
  | .object fields => names.mapM fun name =>
    match valuesOf name fields with
    | [] => some none
    | [value] => some (some value)
    | _ => none
  | .list items => if items.length = names.length then some (items.map some) else none
  | _ => none

def natBelow? (bound : Nat) : Json → Option Nat
  | .number (.int (.ofNat n)) => if n < bound then some n else none
  | _ => none

def word64? (j : Json) : Option UInt64 := (j.natBelow? (Nat.pow 2 64)).map UInt64.ofNat

def word16? (j : Json) : Option UInt16 := (j.natBelow? (Nat.pow 2 16)).map UInt16.ofNat

def signed64? : Json → Option Int64
  | .number (.int i) => if -(Nat.pow 2 63) ≤ i ∧ i < Nat.pow 2 63 then some (.ofInt i) else none
  | _ => none

def truth? : Json → Option Bool
  | .bool b => some b
  | _ => none

def text? : Json → Option String
  | .text s => some s
  | _ => none

/-- A text that may be null or left out. -/
def optionalText? : Option Json → Option (Option String)
  | none | some .null => some none
  | some (.text s) => some (some s)
  | _ => none

end Json

def BackendMode.ofWord? (s : String) : Option BackendMode :=
  if s = "memory" then some .memory
  else if s = "shared" then some .shared
  else if s = "auto" then some .auto
  else none

/-- Reads a mode: its word, or an object whose only field has that name and is null. -/
def BackendMode.ofJson? : Json → Option BackendMode
  | .text s => BackendMode.ofWord? s
  | .object [(s, .null)] => BackendMode.ofWord? s
  | _ => none

namespace WindowPolicy

def toJson (policy : WindowPolicy) : Json :=
  .object [("limit", .nat policy.limit.toNat), ("window_secs", .nat policy.windowSecs.toNat)]

def ofJson? (j : Json) : Option WindowPolicy := do
  match ← j.parts? ["limit", "window_secs"] with
  | [some limit, some windowSecs] => return ⟨← limit.word64?, ← windowSecs.word64?⟩
  | _ => none

end WindowPolicy

namespace RedisSettings

/-- The settings of the shared counter as JSON, without the password. -/
def toJson (redis : RedisSettings) : Json :=
  .object [
    ("host", .text redis.host),
    ("port", .nat redis.port.toNat),
    ("username", .optionalText redis.username),
    ("db", .int redis.db.toInt),
    ("tls", .bool redis.tls),
    ("op_timeout", .nat (Duration.millis redis.opTimeout % Nat.pow 2 64))]

def ofJson? (j : Json) : Option RedisSettings := do
  match ← j.parts? ["host", "port", "username", "password", "db", "tls", "op_timeout"] with
  | [some host, some port, username, password, some db, some tls, some opTimeout] =>
    return {
      host := ← host.text?
      port := ← port.word16?
      username := ← Json.optionalText? username
      password := ← Json.optionalText? password
      db := ← db.signed64?
      tls := ← tls.truth?
      opTimeout := Duration.ofMillis (← opTimeout.natBelow? (Nat.pow 2 64)) }
  | _ => none

end RedisSettings

namespace Settings

def toJson (settings : Settings) : Json :=
  .object [
    ("mutating", settings.mutating.toJson),
    ("read", settings.read.toJson),
    ("mode", .text settings.mode.word),
    ("environment", .text settings.environment),
    ("key_prefix", .text settings.keyPrefix),
    ("memory_fallback", .bool settings.memoryFallback),
    ("redis", settings.redis.toJson)]

def ofJson? (j : Json) : Option Settings := do
  let names :=
    ["mutating", "read", "mode", "environment", "key_prefix", "memory_fallback", "redis"]
  match ← j.parts? names with
  | [some mutating, some read, some mode, some environment, some keyPrefix, some memoryFallback,
      some redis] =>
    return {
      mutating := ← WindowPolicy.ofJson? mutating
      read := ← WindowPolicy.ofJson? read
      mode := ← BackendMode.ofJson? mode
      environment := ← environment.text?
      keyPrefix := ← keyPrefix.text?
      memoryFallback := ← memoryFallback.truth?
      redis := ← RedisSettings.ofJson? redis }
  | _ => none

def write (settings : Settings) : String := settings.toJson.write

def read? (s : String) : Option Settings := (Json.read? s).bind ofJson?

end Settings

end Throttle
