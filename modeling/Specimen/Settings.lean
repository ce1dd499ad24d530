import Specimen.Config.Document
import Specimen.FilePath
import Specimen.Text.White
import Specimen.Toml.Read

/-!
# Settings

The settings of a run say which configuration it uses, which ids get the number of the
data set appended, and whether optional constraints are always generated. They are read from
a settings file, in which every entry may be left out, or from a document.

The ids that get a number are listed in a file of their own, one on a line; a number sign
starts a comment (`indexedIds`).
-/

namespace Specimen

/-- The settings of a run. -/
structure Settings where
  configFile : String := "casegen.config.json"
  /-- The file that lists the ids whose values get the number of the data set appended. -/
  indexedFile : Option String := none
  /-- Generate optional constraints always. -/
  ignoreOptional : Bool := false
  /-- Use a fixed seed when there is none. -/
  testMode : Bool := false
  seed : Option UInt64 := none
  deriving DecidableEq, Repr, Inhabited

namespace Settings

/-! ### Documents -/

/-- Settings as a document. -/
def toJson (s : Settings) : Json := .object <|
  [("config_file", .string s.configFile)] ++
    Config.optionalEntry "indexed_fields_file" .string s.indexedFile ++
    [("ignore_optional_constraints", .bool s.ignoreOptional), ("test_mode", .bool s.testMode)] ++
    Config.optionalEntry "seed" Config.word64ToJson s.seed

/-- Settings, as far as they have been read. -/
structure Fields where
  configFile : Option String := none
  indexedFile : Option (Option String) := none
  ignoreOptional : Option Bool := none
  testMode : Option Bool := none
  seed : Option (Option UInt64) := none

/-- The settings of the fields that were read. The others have their usual values. -/
def ofFields (f : Fields) : Settings where
  configFile := f.configFile.getD ({} : Settings).configFile
  indexedFile := f.indexedFile.join
  ignoreOptional := f.ignoreOptional.getD false
  testMode := f.testMode.getD false
  seed := f.seed.join

/-- How settings are read from a document. -/
def record : Record Fields Settings where
  expected := "struct GeneratorSettings"
  whole := "struct GeneratorSettings with 5 elements"
  start := {}
  closed := false
  slots := [
    .of "config_file" true (·.configFile) (fun v s => { s with configFile := some v }) .path,
    .of "indexed_fields_file" true (·.indexedFile)
      (fun v s => { s with indexedFile := some v }) (.option .path),
    .of "ignore_optional_constraints" true (·.ignoreOptional)
      (fun v s => { s with ignoreOptional := some v }) .bool,
    .of "test_mode" true (·.testMode) (fun v s => { s with testMode := some v }) .bool,
    .of "seed" true (·.seed) (fun v s => { s with seed := some v }) (.option .word64)]
  finish f := .ok (ofFields f)

/-- The reader of settings. -/
def reader : Reader Settings := record.reader

/-! ### Settings files -/

/-- The fields with one more entry of a settings file. Entries with other names count for
nothing. -/
def addEntry (f : Fields) : String × Toml → Option Fields
  | ("config_file", .text s) => some { f with configFile := some s }
  | ("indexed_fields_file", .text s) => some { f with indexedFile := some (some s) }
  | ("ignore_optional_constraints", .bool b) => some { f with ignoreOptional := some b }
  | ("test_mode", .bool b) => some { f with testMode := some b }
  | ("seed", .integer i) =>
    if 0 ≤ i then some { f with seed := some (some (UInt64.ofNat i.toNat)) } else none
  | (name, _) => if record.slots.any fun slot => slot.name = name then none else some f

/-- The settings of a settings file, if it is one. -/
def parse (text : String) : Option Settings := do
  return ofFields (← (← Toml.parse text).foldlM addEntry {})

/-- A path of a settings file that stands in a folder. -/
def resolve (folder p : String) : String := FilePath.join folder p

/-- The settings with the paths that were meant by a settings file at a path. -/
def placedAt (s : Settings) (path : String) : Settings :=
  match FilePath.parent? path with
  | some folder => { s with
      configFile := resolve folder s.configFile
      indexedFile := s.indexedFile.map (resolve folder) }
  | none => s

/-! ### Ids with a number -/

/-- The id on a line, if there is one before a comment. -/
def idOfLine? (line : List Char) : Option String :=
  let id := Text.trim (String.ofList (line.takeWhile (· != '#')))
  if id.isEmpty then none else some id

/-- The lines of a text. -/
def lines (text : String) : List (List Char) := text.toList.splitOn '\n'

/-- The ids that a text lists. -/
def indexedIds (text : String) : NameSet := NameSet.ofNames ((lines text).filterMap idOfLine?)

end Settings

end Specimen
