import Throttle.Event
import Throttle.Settings.Source

/-!
# Resolving settings

Settings are resolved from any source and never fail: what is missing takes its default, and what
cannot be used takes it with a warning.  Main definitions: `Settings.resolve`, and the grammars of
the words and numbers that it accepts.
-/

namespace Throttle

structure Resolved (α : Type) where
  value : α
  warnings : List Event := []

namespace Resolved

/-- What a setting denotes, or a default with a warning if it cannot be used, or a default. -/
def read {α : Type} (parse? : String → Option α) (warning : String → Event) (default : α) :
    Option String → Resolved α
  | none => ⟨default, []⟩
  | some raw =>
    match parse? raw with
    | some value => ⟨value, []⟩
    | none => ⟨default, [warning raw]⟩

end Resolved

def word64? (s : String) : Option UInt64 :=
  (Decimal.natural? (Nat.pow 2 64 - 1) s).map UInt64.ofNat

def word16? (s : String) : Option UInt16 :=
  (Decimal.natural? (Nat.pow 2 16 - 1) s).map UInt16.ofNat

def signed64? (s : String) : Option Int64 :=
  (Decimal.integer? (-(Nat.pow 2 63)) (Nat.pow 2 63 - 1) s).map Int64.ofInt

/-- Reads a truth value, without regard to case. -/
def truth? (s : String) : Option Bool :=
  let word := Text.asciiLower s
  if word = "true" ∨ word = "1" ∨ word = "yes" then some true
  else if word = "false" ∨ word = "0" ∨ word = "no" then some false
  else none

namespace Settings

/-- The policy limits and the other values that hold where a source names none. -/
def defaultMutatingLimit : UInt64 := 5
def defaultReadLimit : UInt64 := 50
def defaultWindowSecs : UInt64 := 60
def defaultEnvironment : String := "development"
def defaultKeyPrefix : String := "rate_limit"
def defaultHost : String := "localhost"
def defaultPort : UInt16 := 6379
def defaultDb : Int64 := 0
def defaultOpTimeoutMillis : UInt64 := 500

def textSetting (source : Source) (name : SettingName) (default : String) : String :=
  (name.lookup source).getD default

def modeSetting (source : Source) : Resolved BackendMode :=
  .read BackendMode.parse? .unknownMode .auto (SettingName.mode.lookup source)

def numberSetting (source : Source) (name : SettingName) (default : UInt64) : Resolved UInt64 :=
  .read word64? (fun raw => .invalidNumber name.primary raw default.toNat) default
    (name.lookup source)

/-- A number for which zero stands for the default, with a warning. -/
def positiveSetting (source : Source) (name : SettingName) (default : UInt64)
    (warning : String → Nat → Event) : Resolved UInt64 :=
  let number := numberSetting source name default
  if number.value = 0 then
    ⟨default, number.warnings ++ [warning name.primary default.toNat]⟩
  else number

def limitSetting (source : Source) (name : SettingName) (default : UInt64) : Resolved UInt64 :=
  positiveSetting source name default .zeroLimit

def windowSetting (source : Source) (name : SettingName) : Resolved UInt64 :=
  positiveSetting source name defaultWindowSecs .zeroWindow

def truthSetting (source : Source) (name : SettingName) (default : Bool) : Resolved Bool :=
  .read truth? (fun raw => .invalidTruth name.primary raw default) default (name.lookup source)

def portSetting (source : Source) : Resolved UInt16 :=
  .read word16? (fun raw => .invalidNumber SettingName.port.primary raw defaultPort.toNat)
    defaultPort (SettingName.port.lookup source)

def dbSetting (source : Source) : Resolved Int64 :=
  .read signed64? (fun raw => .invalidNumber SettingName.db.primary raw 0) defaultDb
    (SettingName.db.lookup source)

/-- The settings that a source gives, and the warnings in the order of the settings. -/
def resolve (source : Source) : Resolved Settings :=
  let environment := textSetting source .environment defaultEnvironment
  let mode := modeSetting source
  let mutatingLimit := limitSetting source .mutatingLimit defaultMutatingLimit
  let mutatingWindow := windowSetting source .mutatingWindow
  let readLimit := limitSetting source .readLimit defaultReadLimit
  let readWindow := windowSetting source .readWindow
  let memoryFallback :=
    truthSetting source .memoryFallback (isDevelopmentName environment)
  let port := portSetting source
  let db := dbSetting source
  let tls := truthSetting source .tls false
  let opTimeout := numberSetting source .opTimeout defaultOpTimeoutMillis
  { value :=
      { mutating := ⟨mutatingLimit.value, mutatingWindow.value⟩
        read := ⟨readLimit.value, readWindow.value⟩
        mode := mode.value
        environment
        keyPrefix := textSetting source .keyPrefix defaultKeyPrefix
        memoryFallback := memoryFallback.value
        redis :=
          { host := textSetting source .host defaultHost
            port := port.value
            username := SettingName.username.lookup source
            password := SettingName.password.lookup source
            db := db.value
            tls := tls.value
            opTimeout := Duration.ofMillis opTimeout.value.toNat } }
    warnings :=
      mode.warnings ++ mutatingLimit.warnings ++ mutatingWindow.warnings ++ readLimit.warnings ++
        readWindow.warnings ++ memoryFallback.warnings ++ port.warnings ++ db.warnings ++
        tls.warnings ++ opTimeout.warnings }

end Settings

end Throttle
