import Specimen.Config.Check
import Specimen.Config.Document
import Specimen.Config.Schema
import Specimen.Schema.Meta

/-!
# Validating configuration documents

A document is a valid configuration when it is one by the schema, can be read, and is found
fit for use. These steps come one after the other, and the first that finds errors ends the
validation with them.
-/

namespace Specimen.Config

/-- A configuration that was found fit for use, with what its author should know. -/
structure Validated where
  config : Config
  warnings : List Issue

/-- The path of a part in an issue. The whole document is at a slash. -/
def issuePath (place : Pointer) : String :=
  if place.isEmpty then "/" else place.text

/-- A violation of a schema as an issue. -/
def violationIssue (v : Specimen.Schema.Violation) : Issue :=
  .plain "schema_violation" (issuePath v.place) v.message

/-- The violations of a schema by a document, or why the schema is none. -/
def structuralReport (schema j : Json) : Except Specimen.Schema.Violation Report :=
  match Specimen.Schema.fault? schema with
  | some v => .error v
  | none => .ok ⟨(Specimen.Schema.check schema j).map violationIssue, []⟩

/-- The wording of a fault of a schema. -/
def schemaFaultMessage (v : Specimen.Schema.Violation) : String := "schema error: " ++ v.message

/-- The configuration that a document with sorted keys stands for, or the errors that were
found. -/
def validate (schema j : Json) : Except Report Validated := do
  match structuralReport schema j with
  | .error v => throw (.ofError (.plain "schema_validation_error" "/" (schemaFaultMessage v)))
  | .ok report => if !report.isOk then throw report
  match Config.ofJson j with
  | .error m => throw (.ofError (.plain "invalid_config_json" "/" m.message))
  | .ok config =>
    let report := config.check
    if report.isOk then return ⟨config, report.warnings⟩ else throw report

end Specimen.Config
