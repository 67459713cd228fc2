import Throttle.Json.Basic

/-!
# Tables of a TOML text

A table comes into being by its header, or since the header of a table inside of it names it, or
since a key is a path through it.  Only the first counts as its definition, and there is one at
most; a key cannot reach into a table that a header defines.
-/

namespace Throttle.Toml

inductive Origin where
  | header
  /-- By the header of a table inside of it. -/
  | implied
  /-- By a key that is a path. -/
  | path
deriving DecidableEq, Repr, Inhabited

inductive Item where
  /-- A value, and what its kind is called. -/
  | value (kind : String) (json : Json)
  | table (origin : Origin) (fields : List (String × Item))
  /-- A list of tables, each of which has a header. -/
  | tables (all : List (List (String × Item)))
deriving Inhabited

abbrev Fields := List (String × Item)

inductive Clash where
  /-- The name is taken, in the table at this path if that is told. -/
  | repeated (name : String) (table : Option (List String))
  /-- A path goes through a value of this kind. -/
  | noTable (path : List String) (kind : String)
deriving DecidableEq, Repr, Inhabited

def Clash.message : Clash → String
  | repeated name none => "duplicate key `" ++ name ++ "`"
  | repeated name (some []) => "duplicate key `" ++ name ++ "` in document root"
  | repeated name (some path) =>
    "duplicate key `" ++ name ++ "` in table `" ++ ".".intercalate path ++ "`"
  | noTable path kind =>
    "dotted key `" ++ ".".intercalate path ++ "` attempted to extend non-table type (" ++ kind ++
      ")"

mutual

def Item.json : Item → Json
  | .value _ json => json
  | .table _ fields => .object (fieldsJson fields)
  | .tables all => .list (tablesJson all)

def fieldsJson : Fields → List (String × Json)
  | [] => []
  | (name, item) :: fields => (name, item.json) :: fieldsJson fields

def tablesJson : List Fields → List Json
  | [] => []
  | fields :: all => .object (fieldsJson fields) :: tablesJson all

end

namespace Fields

def put (fields : Fields) (name : String) (item : Item) : Fields :=
  if fields.any (·.1 == name) then
    fields.map fun field => if field.1 == name then (name, item) else field
  else fields ++ [(name, item)]

/-- Changes the table at a path, making the tables on the way if need be; `made` is how those come
into being, and `passed` the path so far. -/
def change (made : Origin) (step : Option Origin → Fields → Except Clash Fields)
    (passed : List String) : List String → Option Origin → Fields → Except Clash Fields
  | [], origin, fields => step origin fields
  | name :: path, _, fields => do
    let go (origin : Origin) (inner : Fields) : Except Clash Fields :=
      change made step (passed ++ [name]) path (some origin) inner
    match fields.lookup name with
    | none => return put fields name (.table made (← go made []))
    | some (.value kind _) => throw (.noTable (passed ++ [name]) kind)
    | some (.tables all) =>
      let inner ← go .header (all.getLast?.getD [])
      return put fields name (.tables (all.dropLast ++ [inner]))
    | some (.table origin inner) =>
      if made = .path ∧ origin = .header then throw (.repeated name none)
      else return put fields name (.table origin (← go origin inner))

/-- Sets a key to a value, in the table at `table`, whose fields these are. -/
def set (fields : Fields) (table : Option (List String)) (key : List String) (item : Item) :
    Except Clash Fields :=
  let name := key.getLast?.getD ""
  fields.change .path (fun origin fields =>
    if origin.any (· != .path) then .error (.repeated name none)
    else if fields.any (·.1 == name) then .error (.repeated name table)
    else .ok (fields ++ [(name, item)])) [] key.dropLast none

/-- Sets a key to a value in a table that is a value itself, and whose tables are such values. -/
def setInline (fields : Fields) (key : List String) (item : Item) : Except Clash Fields :=
  (fields.set none key item).mapError fun clash =>
    match clash with
    | .noTable path "inline table" => .repeated (path.getLast?.getD "") none
    | clash => clash

/-- Makes the table of a header, or adds one to the list of a header. -/
def openTable (fields : Fields) (isList : Bool) (path : List String) : Except Clash Fields :=
  let name := path.getLast?.getD ""
  fields.change .implied (fun _ fields =>
    match isList, fields.lookup name with
    | false, none => .ok (put fields name (.table .header []))
    | false, some (.table .implied inner) => .ok (put fields name (.table .header inner))
    | true, none => .ok (put fields name (.tables [[]]))
    | true, some (.tables all) => .ok (put fields name (.tables (all ++ [[]])))
    | _, _ => .error (.repeated name (some path.dropLast))) [] path.dropLast none

/-- Sets a key to a value in the table of a header, of which there is one. -/
def setIn (fields : Fields) (table key : List String) (item : Item) : Except Clash Fields :=
  fields.change .implied (fun _ fields => fields.set (some table) key item) [] table none

end Fields

end Throttle.Toml
