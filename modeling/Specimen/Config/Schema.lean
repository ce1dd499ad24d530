import Specimen.Json.Print

/-!
# The schema of configurations

A configuration document is checked against this schema before it is read. The schema is
also handed out, so the order of its keywords and its descriptions count: each type of
`Specimen.Config.Model` has a definition, with its fields in the order of their names.
-/

namespace Specimen.Config.Schema

/-! ### Forms of schemas -/

/-- The documents of a type. -/
def typed (name : String) : Json := .object [("type", .string name)]

/-- The documents that a definition describes. -/
def defined (name : String) : Json := .object [("$ref", .string ("#/definitions/" ++ name))]

/-- One certain text. -/
def only (text : String) : Json := .object [("type", .string "string"), ("enum", .strings [text])]

/-- Lists of documents. -/
def listOf (items : Json) : List (String × Json) := [("type", .string "array"), ("items", items)]

/-- Documents of a type, or null. -/
def orNull (name : String) : String × Json := ("type", .strings [name, "null"])

/-- The format of integers, and that they are not negative. -/
def unsigned (format : String) : List (String × Json) :=
  [("format", .string format), ("minimum", .number (.float .zero))]

/-- A schema with a description. -/
def described (text : String) (keywords : List (String × Json)) : Json :=
  .object (("description", .string text) :: keywords)

/-- Objects with fields, of which some are required. -/
def fields (required : List String) (properties : List (String × Json)) : List (String × Json) :=
  [("type", .string "object"), ("required", .strings required), ("properties", .object properties)]

/-! ### Definitions -/

/-- Parts of constraints. -/
def child : Json :=
  described "Child of a composite node: a reference by id or an embedded node." [
    ("anyOf", .array [defined "ReferenceSpec", defined "ConstraintSpec"])]

/-- The kinds of constraints. -/
def kinds : List Json := [
  described "Fixed string value." (fields ["type", "value"] [
    ("type", only "constant"), ("value", typed "string")]),
  described "Leaf value generator." (fields ["field", "type"] [
    ("field", defined "FieldSpec"), ("type", only "field")]),
  described "Concatenation of parts." (fields ["parts", "type"] [
    ("parts", .object (listOf (defined "ChildSpec"))), ("separator", typed "string"),
    ("type", only "combined")]),
  described "Child generated only when mandatory or chosen." (fields ["child", "type"] [
    ("child", defined "ChildSpec"),
    ("mandatory", .object [("default", .bool false),
      ("allOf", .array [defined "MandatorySpec"])]),
    ("type", only "optional")]),
  described "Pure forwarding to a child." (fields ["child", "type"] [
    ("child", defined "ChildSpec"), ("type", only "source")])]

/-- Constraints. -/
def constraint : Json :=
  described "Declarative description of one constraint node." [
    ("type", .string "object"),
    ("oneOf", .array kinds),
    ("properties", .object [
      ("charset", described "Character set id, inherited by nested nodes that declare none."
        [orNull "string"]),
      ("id", described "Explicit identifier, unique across the document." [orNull "string"])])]

/-- Fields. -/
def field : Json :=
  described "Leaf field kinds." [("oneOf", .array [
    described "Text drawn from the node's character set." (fields ["kind", "max_len", "min_len"] [
      ("kind", only "text"),
      ("max_len", .object (("type", .string "integer") :: unsigned "uint")),
      ("min_len", .object (("type", .string "integer") :: unsigned "uint"))]),
    described "Integer range, inclusive." (fields ["kind", "max", "min"] [
      ("kind", only "number"),
      ("max", .object [("type", .string "integer"), ("format", .string "int64")]),
      ("min", .object [("type", .string "integer"), ("format", .string "int64")])]),
    described "Calendar date range, inclusive (`YYYY-MM-DD`)." (fields ["kind", "max", "min"] [
      ("format", described "chrono format string for the output (default `%Y-%m-%d`)."
        [orNull "string"]),
      ("kind", only "date"),
      ("max", typed "string"), ("min", typed "string")]),
    described "One of a fixed list of values." (fields ["kind", "values"] [
      ("kind", only "choice"), ("values", .object (listOf (typed "string")))]),
    described "Strings matching a regular expression." (fields ["kind", "pattern"] [
      ("kind", only "pattern"),
      ("max_repeat", .object (orNull "integer" :: unsigned "uint32")),
      ("pattern", typed "string")])])]

/-- Rules of optional constraints. -/
def mandatory : Json :=
  described "Mandatory predicate of an optional constraint." [("anyOf", .array [
    typed "boolean",
    described "Mandatory while the named constraint yields a non-blank value."
      (fields ["when_present"] [("when_present", typed "string")])])]

/-- References. -/
def reference : Json :=
  described "Reference to a constraint declared elsewhere."
    (fields ["ref"] [("ref", typed "string")] ++ [("additionalProperties", .bool false)])

end Schema

open Schema

/-- The schema of configurations. -/
def schema : Json := .object <| [
  ("$schema", .string "http://json-schema.org/draft-07/schema#"),
  ("title", .string "ConstraintConfig"),
  ("description", .string "Canonical constraint configuration document.")] ++
  fields ["config_version", "constraints"] [
    ("charsets", described
      "Additional character sets by id (built-in sets are always available)."
      [("type", .string "object"), ("additionalProperties", typed "string")]),
    ("config_version", described "Contract version for the configuration format."
      [("type", .string "string")]),
    ("constraints", described "Top-level constraints; each one becomes a generation root."
      (listOf (defined "ConstraintSpec"))),
    ("seed", described "Seed for reproducible generation."
      (orNull "integer" :: unsigned "uint64"))] ++ [
  ("definitions", .object [
    ("ChildSpec", child),
    ("ConstraintSpec", constraint),
    ("FieldSpec", field),
    ("MandatorySpec", mandatory),
    ("ReferenceSpec", reference)])]

end Specimen.Config
