import Throttle.Text.Blank

/-!
# Sources of settings

A source gives texts for names.  A setting is looked up under a primary name and then under its
aliases; the first value that is not blank counts, without the blanks around it.
-/

namespace Throttle

/-- Where settings are read from: the value of a name, if it has one. -/
abbrev Source := String → Option String

/-- The source of a list of names and values, of which the first with a name counts. -/
def Source.ofList (entries : List (String × String)) : Source := fun name => entries.lookup name

/-- The name of a setting and the names that stand in for it. -/
structure SettingName where
  primary : String
  aliases : List String := []
deriving DecidableEq, Repr, Inhabited

namespace SettingName

def names (name : SettingName) : List String := name.primary :: name.aliases

/-- The first value that is not blank, trimmed. -/
def lookup (source : Source) (name : SettingName) : Option String :=
  name.names.findSome? fun key =>
    ((source key).map Text.trim).filter fun value => !value.isEmpty

def environment : SettingName := ⟨"APP_ENV", ["NODE_ENV"]⟩
def mode : SettingName := ⟨"RATE_LIMIT_STORE", []⟩
def mutatingLimit : SettingName := ⟨"RATE_LIMIT_POST_MAX", ["RATE_LIMIT_POST_LIMIT"]⟩
def mutatingWindow : SettingName := ⟨"RATE_LIMIT_POST_WINDOW", []⟩
def readLimit : SettingName := ⟨"RATE_LIMIT_GET_MAX", ["RATE_LIMIT_GET_LIMIT"]⟩
def readWindow : SettingName := ⟨"RATE_LIMIT_GET_WINDOW", []⟩
def keyPrefix : SettingName := ⟨"RATE_LIMIT_KEY_PREFIX", []⟩
def memoryFallback : SettingName := ⟨"RATE_LIMIT_MEMORY_FALLBACK", []⟩
def host : SettingName := ⟨"RATE_LIMIT_REDIS_HOST", ["REDIS_HOST"]⟩
def port : SettingName := ⟨"RATE_LIMIT_REDIS_PORT", ["REDIS_PORT"]⟩
def username : SettingName := ⟨"RATE_LIMIT_REDIS_USERNAME", ["REDIS_USERNAME"]⟩
def password : SettingName := ⟨"RATE_LIMIT_REDIS_PASSWORD", ["REDIS_PASSWORD"]⟩
def db : SettingName := ⟨"RATE_LIMIT_REDIS_DB", []⟩
def tls : SettingName := ⟨"RATE_LIMIT_REDIS_TLS", []⟩
def opTimeout : SettingName := ⟨"RATE_LIMIT_REDIS_TIMEOUT_MS", []⟩

/-- Every setting, in the order in which a source spells them out. -/
def all : List SettingName :=
  [environment, mode, mutatingLimit, mutatingWindow, readLimit, readWindow, keyPrefix,
    memoryFallback, host, port, username, password, db, tls, opTimeout]

end SettingName

end Throttle
