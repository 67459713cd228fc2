import Throttle.Settings.File.Fault
import Throttle.Yaml.Document

/-!
# Settings files in YAML

A file without documents is an empty table.  A key that is a number or a truth value counts as its
text.  A number that is not finite must be written as a word that other readers know as well.
-/

namespace Throttle.Yaml

namespace Node

def name? : Node → Except FileFault String
  | text s | real s => .ok s
  | int i => .ok (Decimal.intText i)
  | bool b => .ok (if b then "true" else "false")
  | key => .error (.key key.describe)

mutual

def value? : Node → Except FileFault Json
  | null | broken => .ok .null
  | bool b => .ok (.bool b)
  | int i => .ok (.int i)
  | real s =>
    match number? s with
    | some x => .ok (.number (.float x))
    | none => .error (.number s)
  | text s => .ok (.text s)
  | list items => do return .list (← values? items)
  | map entries => do return .object (← fields? entries)

def values? : List Node → Except FileFault (List Json)
  | [] => .ok []
  | item :: items => do
    let value ← item.value?
    return value :: (← values? items)

def fields? : List (Node × Node) → Except FileFault (List (String × Json))
  | [] => .ok []
  | (key, value) :: entries => do
    let name ← key.name?
    let value ← value.value?
    return (name, value) :: (← fields? entries)

end

end Node

def readSettings (s : String) : Except FileFault Json := do
  let documents ← (documents? s).mapError fun fault => .form fault.message
  match documents with
  | [] => return .object []
  | [document] => document.value?
  | documents => throw (.documents documents.length)

end Throttle.Yaml
