/-!
# The options of the command line

Every option has a word, which follows two hyphens; two of them have a letter as well, and two take
a value.
-/

namespace Throttle.Cli

inductive OptionName where
  | config
  | listen
  | logJson
  | help
  | version
deriving DecidableEq, Repr, Inhabited

namespace OptionName

/-- All options, in the order in which they are explained. -/
def all : List OptionName := [config, listen, logJson, help, version]

def word : OptionName → String
  | config => "config"
  | listen => "listen"
  | logJson => "log-json"
  | help => "help"
  | version => "version"

def takesValue : OptionName → Bool
  | config | listen => true
  | logJson | help | version => false

def label : OptionName → String
  | config => "--config <CONFIG>"
  | listen => "--listen <LISTEN>"
  | logJson => "--log-json"
  | help => "--help"
  | version => "--version"

/-- Whether an option belongs to the settings of a run, of which any number may be given. -/
def isSetting : OptionName → Bool
  | config | listen | logJson => true
  | help | version => false

def ofWord? (word : String) : Option OptionName := all.find? (·.word == word)

def ofLetter? (letter : Char) : Option OptionName :=
  if letter = 'h' then some help else if letter = 'V' then some version else none

end OptionName

end Throttle.Cli
