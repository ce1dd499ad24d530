import Specimen.Config.Model
import Specimen.Json.Print
import Specimen.Json.Reader
import Specimen.Sha256

/-!
# Configurations as documents

A configuration is written as an object. Fields with their usual value are left out, and
reading puts them back, so what has been written reads back as the same configuration.

The fields of a constraint's kind stand beside its id and character set in one object.
They are set aside until that object is complete; then the kind is read from them. A part
is a reference when its object has the field `ref` and no other, and an embedded
constraint otherwise.
-/

namespace Specimen.Config

/-! ### Writing -/

/-- An entry for a value that may be missing. -/
def optionalEntry {α : Type} (name : String) (write : α → Json) : Option α → List (String × Json)
  | some a => [(name, write a)]
  | none => []

/-- An unsigned integer as a document. -/
def word64ToJson (n : UInt64) : Json := .nat n.toNat

namespace FieldSpec

/-- A field as a document. -/
def toJson : FieldSpec → Json
  | text minLength maxLength => .object [("kind", .string "text"),
      ("min_len", word64ToJson minLength), ("max_len", word64ToJson maxLength)]
  | number min max => .object [("kind", .string "number"),
      ("min", .int min.toInt), ("max", .int max.toInt)]
  | date min max format => .object <| [("kind", .string "date"),
      ("min", .string min), ("max", .string max)] ++ optionalEntry "format" .string format
  | choice values => .object [("kind", .string "choice"), ("values", .strings values)]
  | .pattern expression maxRepeat => .object <| [("kind", .string "pattern"),
      ("pattern", .string expression)] ++
      optionalEntry "max_repeat" (fun n : UInt32 => .nat n.toNat) maxRepeat

end FieldSpec

/-- A rule as a document. -/
def Mandatory.toJson : Mandatory → Json
  | fixed always => .bool always
  | whenPresent id => .object [("when_present", .string id)]

mutual

/-- A constraint as a document. -/
def Constraint.toJson : Constraint → Json
  | .mk id charset kind => .object <|
      optionalEntry "id" .string id ++ optionalEntry "charset" .string charset ++ kind.entries

/-- The fields of a kind. -/
def Kind.entries : Kind → List (String × Json)
  | .constant value => [("type", .string "constant"), ("value", .string value)]
  | .field field => [("type", .string "field"), ("field", field.toJson)]
  | .combined parts separator =>
      [("type", .string "combined"), ("parts", .array (Child.listToJson parts))] ++
        if separator.isEmpty then [] else [("separator", .string separator)]
  | .optional child mandatory => [("type", .string "optional"), ("child", child.toJson),
      ("mandatory", mandatory.toJson)]
  | .source child => [("type", .string "source"), ("child", child.toJson)]

/-- A part as a document. -/
def Child.toJson : Child → Json
  | .reference id => .object [("ref", .string id)]
  | .embedded constraint => constraint.toJson

/-- Parts as documents. -/
def Child.listToJson : List Child → List Json
  | [] => []
  | c :: cs => c.toJson :: Child.listToJson cs

end

/-! ### Reading fields -/

namespace FieldSpec

/-- The bounds of a text, as far as they have been read. -/
structure TextFields where
  minLength : Option UInt64 := none
  maxLength : Option UInt64 := none

/-- How a text field is read. -/
def textRecord : Record TextFields FieldSpec where
  expected := "struct variant FieldSpec::Text"
  whole := "struct variant FieldSpec::Text with 2 elements"
  start := {}
  closed := false
  slots := [
    .of "min_len" false (·.minLength) (fun v s => { s with minLength := some v }) .size,
    .of "max_len" false (·.maxLength) (fun v s => { s with maxLength := some v }) .size]
  finish s := do
    return text (← require "min_len" s.minLength) (← require "max_len" s.maxLength)

/-- The bounds of a number, as far as they have been read. -/
structure NumberFields where
  min : Option Int64 := none
  max : Option Int64 := none

/-- How a number field is read. -/
def numberRecord : Record NumberFields FieldSpec where
  expected := "struct variant FieldSpec::Number"
  whole := "struct variant FieldSpec::Number with 2 elements"
  start := {}
  closed := false
  slots := [
    .of "min" false (·.min) (fun v s => { s with min := some v }) .int64,
    .of "max" false (·.max) (fun v s => { s with max := some v }) .int64]
  finish s := do return number (← require "min" s.min) (← require "max" s.max)

/-- The bounds and format of a date, as far as they have been read. -/
structure DateFields where
  min : Option String := none
  max : Option String := none
  format : Option (Option String) := none

/-- How a date field is read. -/
def dateRecord : Record DateFields FieldSpec where
  expected := "struct variant FieldSpec::Date"
  whole := "struct variant FieldSpec::Date with 3 elements"
  start := {}
  closed := false
  slots := [
    .of "min" false (·.min) (fun v s => { s with min := some v }) .string,
    .of "max" false (·.max) (fun v s => { s with max := some v }) .string,
    .of "format" true (·.format) (fun v s => { s with format := some v }) (.option .string)]
  finish s := do
    return date (← require "min" s.min) (← require "max" s.max) s.format.join

/-- The values of a choice, as far as they have been read. -/
structure ChoiceFields where
  values : Option (List String) := none

/-- How a choice is read. -/
def choiceRecord : Record ChoiceFields FieldSpec where
  expected := "struct variant FieldSpec::Choice"
  whole := "struct variant FieldSpec::Choice with 1 element"
  start := {}
  closed := false
  slots := [.of "values" false (·.values) (fun v s => { s with values := some v })
    (.list .string)]
  finish s := do return choice (← require "values" s.values)

/-- The pattern of a field, as far as it has been read. -/
structure PatternFields where
  expression : Option String := none
  maxRepeat : Option (Option UInt32) := none

/-- How a pattern is read. -/
def patternRecord : Record PatternFields FieldSpec where
  expected := "struct variant FieldSpec::Pattern"
  whole := "struct variant FieldSpec::Pattern with 2 elements"
  start := {}
  closed := false
  slots := [
    .of "pattern" false (·.expression) (fun v s => { s with expression := some v }) .string,
    .of "max_repeat" true (·.maxRepeat) (fun v s => { s with maxRepeat := some v })
      (.option .word32)]
  finish s := do return .pattern (← require "pattern" s.expression) s.maxRepeat.join

/-- How a field is read: its kind says which fields it has. -/
def tagged : Tagged FieldSpec where
  tag := "kind"
  expected := "internally tagged enum FieldSpec"
  variants := ["text", "number", "date", "choice", "pattern"]
  variant
    | "text", rest => textRecord.ofUntagged rest
    | "number", rest => numberRecord.ofUntagged rest
    | "date", rest => dateRecord.ofUntagged rest
    | "choice", rest => choiceRecord.ofUntagged rest
    | _, rest => patternRecord.ofUntagged rest

/-- The reader of a field. -/
def reader : Reader FieldSpec := tagged.reader

end FieldSpec

namespace Mandatory

/-- The id of a rule, as far as it has been read. -/
structure Fields where
  whenPresent : Option String := none

/-- How a rule that names an id is read. -/
def record : Record Fields Mandatory where
  expected := "struct variant MandatorySpec::WhenPresent"
  whole := "struct variant MandatorySpec::WhenPresent with 1 element"
  start := {}
  closed := false
  slots := [.of "when_present" false (·.whenPresent)
    (fun v s => { s with whenPresent := some v }) .string]
  finish s := do return whenPresent (← require "when_present" s.whenPresent)

/-- The rule that a document stands for. -/
def ofJson : Json → Except Mismatch Mandatory
  | .bool always => .ok (fixed always)
  | .object es =>
    match record.ofEntries .fragment es with
    | .ok rule => .ok rule
    | .error _ => .error (.noVariant "MandatorySpec")
  | _ => .error (.noVariant "MandatorySpec")

/-- The reader of a rule. -/
def reader : Reader Mandatory := .whole fun _ => ofJson

end Mandatory

/-! ### Reading constraints -/

/-- The id of a reference, as far as it has been read. -/
structure ReferenceFields where
  id : Option String := none

/-- How a reference is read: no other field than `ref` may stand beside it. -/
def referenceRecord : Record ReferenceFields String where
  expected := "struct ReferenceSpec"
  whole := "struct ReferenceSpec with 1 element"
  start := {}
  closed := true
  slots := [.of "ref" false (·.id) (fun v s => { s with id := some v }) .string]
  finish s := require "ref" s.id

/-- The value of a constant, as far as it has been read. -/
structure ConstantFields where
  value : Option String := none

/-- How a constant is read. -/
def constantRecord : Record ConstantFields Kind where
  expected := "struct variant ConstraintKind::Constant"
  whole := "struct variant ConstraintKind::Constant with 1 element"
  start := {}
  closed := false
  slots := [.of "value" false (·.value) (fun v s => { s with value := some v }) .string]
  finish s := do return .constant (← require "value" s.value)

/-- The field of a constraint, as far as it has been read. -/
structure FieldFields where
  field : Option FieldSpec := none

/-- How a field constraint is read. -/
def fieldRecord : Record FieldFields Kind where
  expected := "struct variant ConstraintKind::Field"
  whole := "struct variant ConstraintKind::Field with 1 element"
  start := {}
  closed := false
  slots := [.of "field" false (·.field) (fun v s => { s with field := some v }) FieldSpec.reader]
  finish s := do return .field (← require "field" s.field)

/-- The parts and separator of a constraint, as far as they have been read. -/
structure CombinedFields where
  parts : Option (List Child) := none
  separator : Option String := none

/-- How a combined constraint is read, given how a part is. -/
def combinedRecord (child : Reader Child) : Record CombinedFields Kind where
  expected := "struct variant ConstraintKind::Combined"
  whole := "struct variant ConstraintKind::Combined with 2 elements"
  start := {}
  closed := false
  slots := [
    .of "parts" false (·.parts) (fun v s => { s with parts := some v }) (.list child),
    .of "separator" true (·.separator) (fun v s => { s with separator := some v }) .string]
  finish s := do return .combined (← require "parts" s.parts) (s.separator.getD "")

/-- The child and rule of a constraint, as far as they have been read. -/
structure OptionalFields where
  child : Option Child := none
  mandatory : Option Mandatory := none

/-- How an optional constraint is read, given how a part is. -/
def optionalRecord (child : Reader Child) : Record OptionalFields Kind where
  expected := "struct variant ConstraintKind::Optional"
  whole := "struct variant ConstraintKind::Optional with 2 elements"
  start := {}
  closed := false
  slots := [
    .of "child" false (·.child) (fun v s => { s with child := some v }) child,
    .of "mandatory" true (·.mandatory) (fun v s => { s with mandatory := some v })
      Mandatory.reader]
  finish s := do return .optional (← require "child" s.child) (s.mandatory.getD (.fixed false))

/-- The child of a source, as far as it has been read. -/
structure SourceFields where
  child : Option Child := none

/-- How a source is read, given how a part is. -/
def sourceRecord (child : Reader Child) : Record SourceFields Kind where
  expected := "struct variant ConstraintKind::Source"
  whole := "struct variant ConstraintKind::Source with 1 element"
  start := {}
  closed := false
  slots := [.of "child" false (·.child) (fun v s => { s with child := some v }) child]
  finish s := do return .source (← require "child" s.child)

/-- How a kind is read, given how a part is. -/
def kindTagged (child : Reader Child) : Tagged Kind where
  tag := "type"
  expected := "internally tagged enum ConstraintKind"
  variants := ["constant", "field", "combined", "optional", "source"]
  variant
    | "constant", rest => constantRecord.ofUntagged rest
    | "field", rest => fieldRecord.ofUntagged rest
    | "combined", rest => (combinedRecord child).ofUntagged rest
    | "optional", rest => (optionalRecord child).ofUntagged rest
    | _, rest => (sourceRecord child).ofUntagged rest

/-- A constraint, as far as it has been read: the fields of its kind are set aside. -/
structure ConstraintFields where
  id : Option (Option String) := none
  charset : Option (Option String) := none
  others : List (String × Json) := []

namespace ConstraintFields

/-- The slot of a field that every constraint may have. -/
def slot? (key : String) : Option (Slot ConstraintFields) :=
  if key = "id" then
    some (.of "id" true (·.id) (fun v s => { s with id := some v }) (.option .string))
  else if key = "charset" then
    some (.of "charset" true (·.charset) (fun v s => { s with charset := some v })
      (.option .string))
  else none

/-- The fields with one more entry. -/
def addEntry (origin : Origin) (s : ConstraintFields) (e : String × Json) :
    Except Mismatch ConstraintFields :=
  match slot? e.1 with
  | some slot =>
    if slot.isFilled s then .error (.duplicateField e.1) else slot.ofJson origin e.2 s
  | none => .ok { s with others := s.others ++ [e] }

/-- The constraint, given how a part is read. -/
def finish (child : Reader Child) (s : ConstraintFields) : Except Mismatch Constraint := do
  return .mk s.id.join s.charset.join (← (kindTagged child).ofEntries .fragment s.others)

end ConstraintFields

/-- What is expected where a constraint should stand. -/
def constraintExpected : String := "struct ConstraintSpec"

/-- The constraint that a document stands for, given how a part is read. -/
def constraintOfJson (child : Reader Child) (origin : Origin) :
    Json → Except Mismatch Constraint
  | .object es => do
    let s ← es.foldlM (ConstraintFields.addEntry origin) {}
    s.finish child
  | j => .error (.invalidType (.ofJson j) constraintExpected)

/-- The part that a document stands for, with references and constraints nested at most as
deep as the fuel says. -/
def childWithin : Nat → Json → Except Mismatch Child
  | 0, _ => .error (.noVariant "ChildSpec")
  | fuel + 1, j =>
    match referenceRecord.ofJson .fragment j with
    | .ok id => .ok (.reference id)
    | .error _ =>
      match constraintOfJson (.whole fun _ => childWithin fuel) .fragment j with
      | .ok c => .ok (.embedded c)
      | .error _ => .error (.noVariant "ChildSpec")

/-- The part that a document stands for. -/
def Child.ofJson (j : Json) : Except Mismatch Child := childWithin (j.depth + 1) j

/-- The reader of a part. -/
def Child.reader : Reader Child := .whole fun _ => Child.ofJson

namespace Constraint

open Scan

/-- Reads one entry of a constraint, behind its key. -/
def scanEntry (s : ConstraintFields) (key : String) : Scan ConstraintFields := do
  match ConstraintFields.slot? key with
  | some slot =>
    if slot.isFilled s then mismatch (.duplicateField key)
    colon
    slot.scan s
  | none =>
    colon
    let j ← value
    return { s with others := s.others ++ [(key, j)] }

/-- Reads a constraint from text. -/
def scan : Scan Constraint := do
  if (← valueStart) = '\x7b' then
    let inside : Scan Constraint := do
      let s ← entries scanEntry (← fuel) true {}
      ofExcept (s.finish Child.reader)
    placed (bracket inside closeObject)
  else unexpected constraintExpected

/-- The reader of a constraint. -/
def reader : Reader Constraint := ⟨constraintOfJson Child.reader, scan⟩

end Constraint

end Config

/-! ### Whole configurations -/

namespace Config

/-- The fields of a configuration, as far as they have been read. -/
structure Fields where
  version : Option String := none
  seed : Option (Option UInt64) := none
  charsets : Option (Dict String) := none
  constraints : Option (List Constraint) := none

/-- How a configuration is read. -/
def record : Record Fields Config where
  expected := "struct ConstraintConfig"
  whole := "struct ConstraintConfig with 4 elements"
  start := {}
  closed := false
  slots := [
    .of "config_version" false (·.version) (fun v s => { s with version := some v }) .string,
    .of "seed" true (·.seed) (fun v s => { s with seed := some v }) (.option .word64),
    .of "charsets" true (·.charsets) (fun v s => { s with charsets := some v }) (.dict .string),
    .of "constraints" false (·.constraints) (fun v s => { s with constraints := some v })
      (.list Constraint.reader)]
  finish s := do
    let version ← require "config_version" s.version
    let constraints ← require "constraints" s.constraints
    return ⟨version, s.seed.join, s.charsets.getD .empty, constraints⟩

/-- The reader of a configuration. -/
def reader : Reader Config := record.reader

/-- The configuration that a document stands for. -/
def ofJson (j : Json) : Except Mismatch Config := reader.ofJson .document j

/-- A configuration as a document. -/
def toJson (c : Config) : Json := .object <|
  [("config_version", .string c.version)] ++ optionalEntry "seed" word64ToJson c.seed ++
    (if c.charsets.isEmpty then []
      else [("charsets", .object (c.charsets.map Json.string).entries)]) ++
    [("constraints", .array (c.constraints.map Constraint.toJson))]

/-- The digest of a configuration: that of its document, written compactly. -/
def fingerprint (c : Config) : String := Sha256.ofString c.toJson.compact

end Config

end Specimen
