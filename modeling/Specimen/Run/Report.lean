import Specimen.Run.Mode

/-!
# Reports of runs

A report says what a run did: how it generated, from which configuration and seed, how many
data sets came of it and how often each id had none, and what went wrong or deserves
attention.
-/

namespace Specimen

/-- Something about a run that deserves attention. -/
structure Notice where
  level : String
  code : String
  message : String
  constraint : Option String
  deriving DecidableEq, Repr, Inhabited

namespace Notice

/-- A warning about a run, or about a constraint of it. -/
def warning (code message : String) (constraint : Option String) : Notice :=
  ⟨"warning", code, message, constraint⟩

/-- A notice as a document. -/
def toJson (n : Notice) : Json := .object <|
  [("level", .string n.level), ("code", .string n.code), ("message", .string n.message)] ++
    Config.optionalEntry "constraint_id" .string n.constraint

/-- A notice, as far as it has been read. -/
structure Fields where
  level : Option String := none
  code : Option String := none
  message : Option String := none
  constraint : Option (Option String) := none

/-- How a notice is read. -/
def record : Record Fields Notice where
  expected := "struct GenerationIssue"
  whole := "struct GenerationIssue with 4 elements"
  start := {}
  closed := false
  slots := [
    .of "level" false (·.level) (fun v s => { s with level := some v }) .string,
    .of "code" false (·.code) (fun v s => { s with code := some v }) .string,
    .of "message" false (·.message) (fun v s => { s with message := some v }) .string,
    .of "constraint_id" true (·.constraint) (fun v s => { s with constraint := some v })
      (.option .string)]
  finish s := do
    return ⟨← require "level" s.level, ← require "code" s.code, ← require "message" s.message,
      s.constraint.join⟩

/-- The reader of a notice. -/
def reader : Reader Notice := record.reader

end Notice

/-- What a run did. -/
structure RunReport where
  runId : String
  mode : RunMode
  status : String
  error : Option String
  /-- The digest of the configuration. -/
  fingerprint : String
  seed : UInt64
  /-- The numbers of ids and of those at the top level. -/
  constraints : UInt64
  roots : UInt64
  casesCounted : UInt64
  dataSets : UInt64
  /-- How often each id had no value; ids that always had one are left out. -/
  nullValues : Dict UInt64
  tokensIssued : Int64
  bytesWritten : UInt64
  /-- The time that the run took, in milliseconds. -/
  duration : UInt64
  warnings : List Notice
  deriving Inhabited

namespace RunReport

/-- The report of a run that has just begun. -/
def begun (runId : String) (mode : RunMode) (fingerprint : String) : RunReport where
  runId
  mode
  status := "running"
  error := none
  fingerprint
  seed := 0
  constraints := 0
  roots := 0
  casesCounted := 0
  dataSets := 0
  nullValues := .empty
  tokensIssued := 0
  bytesWritten := 0
  duration := 0
  warnings := []

/-- The report with one more warning. -/
def warn (r : RunReport) (n : Notice) : RunReport := { r with warnings := r.warnings ++ [n] }

/-- The report of a run that failed. -/
def failed (r : RunReport) (message : String) : RunReport :=
  { r with status := "failed", error := some message }

/-- The report of a run that was completed. -/
def completed (r : RunReport) : RunReport := { r with status := "completed" }

/-- A report as a document. -/
def toJson (r : RunReport) : Json := .object <|
  [("run_id", .string r.runId), ("mode", r.mode.toJson), ("status", .string r.status)] ++
    Config.optionalEntry "error" .string r.error ++
    [("config_fingerprint", .string r.fingerprint),
      ("seed", Config.word64ToJson r.seed),
      ("constraints", Config.word64ToJson r.constraints),
      ("roots", Config.word64ToJson r.roots),
      ("cases_counted", Config.word64ToJson r.casesCounted),
      ("data_sets_generated", Config.word64ToJson r.dataSets),
      ("null_values", .object (r.nullValues.map Config.word64ToJson).entries),
      ("tokens_issued", .int r.tokensIssued.toInt),
      ("bytes_written", Config.word64ToJson r.bytesWritten),
      ("duration_ms", Config.word64ToJson r.duration),
      ("warnings", .array (r.warnings.map Notice.toJson))]

/-- A report, as far as it has been read. -/
structure Fields where
  runId : Option String := none
  mode : Option RunMode := none
  status : Option String := none
  error : Option (Option String) := none
  fingerprint : Option String := none
  seed : Option UInt64 := none
  constraints : Option UInt64 := none
  roots : Option UInt64 := none
  casesCounted : Option UInt64 := none
  dataSets : Option UInt64 := none
  nullValues : Option (Dict UInt64) := none
  tokensIssued : Option Int64 := none
  bytesWritten : Option UInt64 := none
  duration : Option UInt64 := none
  warnings : Option (List Notice) := none

/-- How a report is read. -/
def record : Record Fields RunReport where
  expected := "struct GenerationReport"
  whole := "struct GenerationReport with 15 elements"
  start := {}
  closed := false
  slots := [
    .of "run_id" false (·.runId) (fun v s => { s with runId := some v }) .string,
    .of "mode" false (·.mode) (fun v s => { s with mode := some v }) RunMode.reader,
    .of "status" false (·.status) (fun v s => { s with status := some v }) .string,
    .of "error" true (·.error) (fun v s => { s with error := some v }) (.option .string),
    .of "config_fingerprint" false (·.fingerprint) (fun v s => { s with fingerprint := some v })
      .string,
    .of "seed" false (·.seed) (fun v s => { s with seed := some v }) .word64,
    .of "constraints" false (·.constraints) (fun v s => { s with constraints := some v }) .size,
    .of "roots" false (·.roots) (fun v s => { s with roots := some v }) .size,
    .of "cases_counted" false (·.casesCounted) (fun v s => { s with casesCounted := some v })
      .word64,
    .of "data_sets_generated" false (·.dataSets) (fun v s => { s with dataSets := some v })
      .word64,
    .of "null_values" false (·.nullValues) (fun v s => { s with nullValues := some v })
      (.dict .word64),
    .of "tokens_issued" false (·.tokensIssued) (fun v s => { s with tokensIssued := some v })
      .int64,
    .of "bytes_written" false (·.bytesWritten) (fun v s => { s with bytesWritten := some v })
      .word64,
    .of "duration_ms" false (·.duration) (fun v s => { s with duration := some v }) .word64,
    .of "warnings" false (·.warnings) (fun v s => { s with warnings := some v })
      (.list Notice.reader)]
  finish s := do
    return {
      runId := ← require "run_id" s.runId
      mode := ← require "mode" s.mode
      status := ← require "status" s.status
      error := s.error.join
      fingerprint := ← require "config_fingerprint" s.fingerprint
      seed := ← require "seed" s.seed
      constraints := ← require "constraints" s.constraints
      roots := ← require "roots" s.roots
      casesCounted := ← require "cases_counted" s.casesCounted
      dataSets := ← require "data_sets_generated" s.dataSets
      nullValues := ← require "null_values" s.nullValues
      tokensIssued := ← require "tokens_issued" s.tokensIssued
      bytesWritten := ← require "bytes_written" s.bytesWritten
      duration := ← require "duration_ms" s.duration
      warnings := ← require "warnings" s.warnings }

/-- The reader of a report. -/
def reader : Reader RunReport := record.reader

end RunReport

end Specimen
