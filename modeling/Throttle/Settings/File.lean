import Throttle.Json.Reader
import Throttle.Settings.File.Ini
import Throttle.Settings.File.Json5
import Throttle.Settings.File.Name
import Throttle.Settings.File.Ron
import Throttle.Settings.File.Toml
import Throttle.Settings.File.Yaml
import Throttle.Settings.Layered

/-!
# Settings files

A settings file is a table of names and values in one of several formats, which the ending of its
name tells.  A file of the name itself comes first; if it is there and its ending is not known, it
is passed over.  Otherwise every ending is tried after the name.
-/

namespace Throttle

inductive FileFormat where
  | yaml
  | json
  | ini
  | toml
  | ron
  | json5
deriving DecidableEq, Repr, Inhabited

namespace FileFormat

def all : List FileFormat := [yaml, json, ini, toml, ron, json5]

def endings : FileFormat → List String
  | yaml => ["yaml", "yml"]
  | json => ["json"]
  | ini => ["ini"]
  | toml => ["toml"]
  | ron => ["ron"]
  | json5 => ["json5"]

def ofEnding? (ending : String) : Option FileFormat := all.find? (·.endings.contains ending)

def read (format : FileFormat) (text : String) : Except FileFault Json :=
  match format with
  | yaml => Yaml.readSettings text
  | json => (Json.readSound text).mapError fun fault => .form (fault.message text.toList)
  | ini => Ini.readSettings text
  | toml => Toml.readSettings text
  | ron => Ron.readSettings text
  | json5 => Json5.readSettings text

/-- The layer of a text in a format, which must be a table. -/
def readLayer (format : FileFormat) (text : String) : Except FileFault Layered.Layer := do
  let value ← format.read text
  match Layered.ofJson? value with
  | some layer => return layer
  | none => throw (.root value.described)

end FileFormat

namespace SettingsFile

/-- The names under which a settings file is looked for, best first. -/
def candidates (name : String) : List String :=
  let tidy := FileName.tidy name
  let exact := if FileName.mayBeFile name then [tidy] else []
  exact ++ FileFormat.all.flatMap fun format => format.endings.map fun e => tidy ++ "." ++ e

/-- The layer of the settings file of this name, or its name and its fault: a file that is missing,
or of an unknown format, adds nothing. -/
def layer (files : List (String × String)) (name : String) :
    Except (String × FileFault) Layered.Layer :=
  match (candidates name).findSome? fun n => (files.lookup n).map fun text => (n, text) with
  | none => .ok []
  | some (found, text) =>
    match (FileName.ending? found).bind FileFormat.ofEnding? with
    | none => .ok []
    | some format => (format.readLayer text).mapError fun fault => (found, fault)

end SettingsFile

end Throttle
