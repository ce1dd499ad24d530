import Specimen.Config.Document
import Specimen.FieldCase

/-!
# Modes of runs

A run either generates a number of data sets, all for one case, or goes on until every
boundary has been produced, but not beyond a limit. `RunOptions` adds the folder that the
results are written to.
-/

namespace Specimen

/-- How the data sets of a run come about. -/
inductive RunMode where
  /-- A number of data sets, all for the same case. -/
  | random (dataSets : UInt64) (fieldCase : FieldCase)
  /-- Data sets until every boundary was produced, at most as many as the limit. -/
  | cases (limit : UInt64)
  deriving DecidableEq, Repr, Inhabited

namespace RunMode

/-- A mode as a document. -/
def toJson : RunMode → Json
  | random dataSets fieldCase => .object [("mode", .string "random"),
      ("data_sets", Config.word64ToJson dataSets), ("case", fieldCase.toJson)]
  | cases limit => .object [("mode", .string "cases"), ("limit", Config.word64ToJson limit)]

/-- The number and case of data sets, as far as they have been read. -/
structure RandomFields where
  dataSets : Option UInt64 := none
  fieldCase : Option FieldCase := none

/-- How a number of data sets is read. -/
def randomRecord : Record RandomFields RunMode where
  expected := "struct variant GenerationMode::Random"
  whole := "struct variant GenerationMode::Random with 2 elements"
  start := {}
  closed := false
  slots := [
    .of "data_sets" false (·.dataSets) (fun v s => { s with dataSets := some v }) .word64,
    .of "case" false (·.fieldCase) (fun v s => { s with fieldCase := some v }) FieldCase.reader]
  finish s := do
    return random (← require "data_sets" s.dataSets) (← require "case" s.fieldCase)

/-- The limit of a mode, as far as it has been read. -/
structure CasesFields where
  limit : Option UInt64 := none

/-- How a limit is read. -/
def casesRecord : Record CasesFields RunMode where
  expected := "struct variant GenerationMode::Cases"
  whole := "struct variant GenerationMode::Cases with 1 element"
  start := {}
  closed := false
  slots := [.of "limit" false (·.limit) (fun v s => { s with limit := some v }) .word64]
  finish s := do return cases (← require "limit" s.limit)

/-- How a mode is read: its name says which fields it has. -/
def tagged : Tagged RunMode where
  tag := "mode"
  expected := "internally tagged enum GenerationMode"
  variants := ["random", "cases"]
  variant
    | "random", rest => randomRecord.ofUntagged rest
    | _, rest => casesRecord.ofUntagged rest

/-- The reader of a mode. -/
def reader : Reader RunMode := tagged.reader

/-- A mode as it is logged. -/
def text : RunMode → String
  | random dataSets fieldCase => "Random \x7b data_sets: " ++ toString dataSets.toNat ++
      ", case: " ++ fieldCase.name.capitalize ++ " \x7d"
  | cases limit => "Cases \x7b limit: " ++ toString limit.toNat ++ " \x7d"

end RunMode

/-- How a run generates, and where its results go. -/
structure RunOptions where
  folder : String
  mode : RunMode
  deriving DecidableEq, Repr, Inhabited

namespace RunOptions

/-- Options as a document. -/
def toJson (o : RunOptions) : Json :=
  .object [("out_dir", .string o.folder), ("mode", o.mode.toJson)]

/-- Options, as far as they have been read. -/
structure Fields where
  folder : Option String := none
  mode : Option RunMode := none

/-- How options are read. -/
def record : Record Fields RunOptions where
  expected := "struct GenerateOptions"
  whole := "struct GenerateOptions with 2 elements"
  start := {}
  closed := false
  slots := [
    .of "out_dir" false (·.folder) (fun v s => { s with folder := some v }) .path,
    .of "mode" false (·.mode) (fun v s => { s with mode := some v }) RunMode.reader]
  finish s := do return ⟨← require "out_dir" s.folder, ← require "mode" s.mode⟩

/-- The reader of options. -/
def reader : Reader RunOptions := record.reader

end RunOptions

end Specimen
