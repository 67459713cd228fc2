import Throttle.Cli.Program
import Throttle.Proofs.Json.Sound
import Throttle.Proofs.Settings.File.Ini
import Throttle.Proofs.Settings.File.Json5
import Throttle.Proofs.Settings.File.Ron
import Throttle.Proofs.Settings.File.Toml
import Throttle.Proofs.Settings.File.Yaml

/-!
# The same settings in every format

A table of names and texts can be written in every format.  Main statements: `readLayer_write`, the
layer that is read does not depend on the format, `layer_write`, nor on the name of the file, and
`settings_write`, so neither do the settings of the program.
-/

namespace Throttle

namespace FileFormat

/-- A table as a file of a format.  Four of the formats have what JSON has. -/
def write : FileFormat → List (String × String) → String
  | toml, rows => Toml.write rows
  | ini, rows => Ini.write rows []
  | yaml, rows | json, rows | ron, rows | json5, rows => Json.write (.object (Json.textFields rows))

/-- The characters that no format needs an escape for which another one does not have. -/
def IsShared (c : Char) : Prop := Json5.Reading.IsOpen c ∧ Ron.IsDirect c ∧ c.toNat ≠ 0x7F

/-- A table that every format can hold. -/
structure IsPortable (rows : List (String × String)) : Prop where
  distinct : (rows.map Prod.fst).Nodup
  isName : ∀ row ∈ rows, Ini.IsName row.1
  isShared : ∀ row ∈ rows, (∀ c ∈ row.1.toList, IsShared c) ∧ ∀ c ∈ row.2.toList, IsShared c

theorem IsPortable.isCommon {p : Char → Prop} (hp : ∀ c, IsShared c → p c)
    {rows : List (String × String)} (h : IsPortable rows) :
    Json.IsCommon p (.object (Json.textFields rows)) := by
  apply Json.isCommon_textFields
  intro row hrow
  obtain ⟨hname, htext⟩ := h.isShared row hrow
  exact ⟨fun c hc => hp c (hname c hc), fun c hc => hp c (htext c hc)⟩

theorem isSound_textFields (rows : List (String × String)) :
    Json.IsSound Json.greatestDepth (.object (Json.textFields rows)) := by
  apply Json.IsSound.object
  intro field hfield
  obtain ⟨row, -, rfl⟩ := List.mem_map.1 hfield
  exact .text _ _

theorem read_write (format : FileFormat) {rows : List (String × String)} (h : IsPortable rows) :
    format.read (format.write rows) = .ok (.object (Json.textFields rows)) := by
  cases format with
  | yaml =>
      rw [read, write]
      exact Yaml.readSettings_write h.distinct
  | json =>
      have hplain := (h.isCommon fun _ hc => hc).isPlain
      rw [read, write, Json.readSound_of_read? (Json.read?_write hplain) (isSound_textFields rows)]
      rfl
  | ini =>
      have hsections : Ini.jsonSections [] = [] := rfl
      rw [read, write, Ini.readSettings_write h.isName (fun _ hpart => by cases hpart),
        hsections, List.append_nil]
  | toml =>
      rw [read, write]
      apply Toml.readSettings_write _ h.distinct
      intro row hrow
      obtain ⟨hname, htext⟩ := h.isShared row hrow
      exact ⟨fun c hc => (hname c hc).2.2, fun c hc => (htext c hc).2.2⟩
  | ron =>
      rw [read, write]
      exact Ron.readSettings_write (h.isCommon fun _ hc => hc.2.1)
  | json5 =>
      rw [read, write]
      exact Json5.readSettings_write (h.isCommon fun _ hc => hc.1)

/-- A table is the same layer in every format. -/
theorem readLayer_write (format : FileFormat) {rows : List (String × String)}
    (h : IsPortable rows) :
    format.readLayer (format.write rows) = .ok (rows.map fun row => (row.1, .text row.2)) := by
  have hfields : (Json.textFields rows).map (fun field => (field.1, Layered.Value.ofJson field.2)) =
      rows.map fun row => (row.1, .text row.2) := by
    rw [Json.textFields, List.map_map]
    rfl
  rw [readLayer, read_write format h]
  show Except.ok ((Json.textFields rows).map _) = _
  rw [← hfields]

end FileFormat

namespace SettingsFile

open FileFormat

theorem findSome?_lookup {files : List String} {file : String} (hfile : file ∈ files)
    (text : String) :
    (files.findSome? fun n => ([(file, text)].lookup n).map fun text => (n, text)) =
      some (file, text) := by
  induction files with
  | nil => cases hfile
  | cons first others ih =>
      rw [List.findSome?_cons]
      by_cases hfirst : first = file
      · rw [hfirst, List.lookup_cons_self]
        rfl
      · have hnone : [(file, text)].lookup first = none := by
          rw [List.lookup_cons, beq_false_of_ne hfirst]
          rfl
        rw [hnone]
        exact ih ((List.mem_cons.1 hfile).resolve_left fun h => hfirst h.symm)

/-- A table is found under every name of a settings file, in the format that the name tells. -/
theorem layer_write {format : FileFormat} {rows : List (String × String)} (h : IsPortable rows)
    {name file : String} (hfile : file ∈ candidates name)
    (hformat : (FileName.ending? file).bind ofEnding? = some format) :
    layer [(file, format.write rows)] name = .ok (rows.map fun row => (row.1, .text row.2)) := by
  rw [layer, findSome?_lookup hfile]
  dsimp only
  rw [hformat]
  dsimp only
  rw [readLayer_write format h]
  rfl

end SettingsFile

/-- The program has the settings of the table under those of its environment. -/
theorem Cli.settings_write {format : FileFormat} {rows : List (String × String)}
    (h : FileFormat.IsPortable rows) {name file : String}
    (hfile : file ∈ SettingsFile.candidates name)
    (hformat : (FileName.ending? file).bind FileFormat.ofEnding? = some format)
    {surroundings : Surroundings} (hfiles : surroundings.files = [(file, format.write rows)])
    {options : Options} (hconfig : options.config = some name) :
    readSettings surroundings options = .ok (Settings.resolve (Layered.source
      (rows.map fun row => (row.1, .text row.2)) surroundings.environment)).value := by
  rw [readSettings, hconfig, hfiles]
  dsimp only
  rw [SettingsFile.layer_write h hfile hformat]
  rfl

end Throttle
