import Specimen.Schema.Check

/-!
# The schema of schemas

A document that is to be used as a schema is checked against `Meta.document` first, which
says of which form the value of each keyword is. The first violation is the reason why the
document is not a schema.
-/

namespace Specimen.Schema.Meta

/-- The schema of a type. -/
def typed (name : String) (more : List (String × Json)) : Json :=
  .object (more ++ [("type", .string name)])

/-- The schema that a part of `Meta.document` defines. -/
def defined (name : String) : Json :=
  .object [("$ref", .string ("#/definitions/" ++ name))]

/-- The schema of schemas. -/
def anySchema : Json := .object [("$ref", .string "#")]

/-- The schema of objects all of whose values are schemas. -/
def schemasByName : Json := typed "object" [("additionalProperties", anySchema)]

/-- What `Meta.document` defines by name. -/
def definitions : List (String × Json) := [
  ("nonNegativeInteger", .object [("minimum", .nat 0), ("type", .string "integer")]),
  ("schemaArray", .object [("items", anySchema), ("minItems", .nat 1), ("type", .string "array")]),
  ("simpleTypes", .object [("enum", .strings (JsonType.all.map JsonType.name))]),
  ("stringArray", .object [("items", typed "string" []), ("type", .string "array"),
    ("uniqueItems", .bool true)])]

/-- What `Meta.document` says of the value of each keyword. -/
def keywords : List (String × Json) := [
  ("$comment", typed "string" []),
  ("$id", typed "string" []),
  ("$ref", typed "string" []),
  ("$schema", typed "string" []),
  ("additionalItems", anySchema),
  ("additionalProperties", anySchema),
  ("allOf", defined "schemaArray"),
  ("anyOf", defined "schemaArray"),
  ("contains", anySchema),
  ("contentEncoding", typed "string" []),
  ("contentMediaType", typed "string" []),
  ("definitions", schemasByName),
  ("dependencies", typed "object"
    [("additionalProperties", .object [("anyOf", .array [anySchema, defined "stringArray"])])]),
  ("description", typed "string" []),
  ("else", anySchema),
  ("enum", typed "array" []),
  ("examples", typed "array" []),
  ("exclusiveMaximum", typed "number" []),
  ("exclusiveMinimum", typed "number" []),
  ("format", typed "string" []),
  ("if", anySchema),
  ("items", .object [("anyOf", .array [anySchema, defined "schemaArray"])]),
  ("maxItems", defined "nonNegativeInteger"),
  ("maxLength", defined "nonNegativeInteger"),
  ("maxProperties", defined "nonNegativeInteger"),
  ("maximum", typed "number" []),
  ("minItems", defined "nonNegativeInteger"),
  ("minLength", defined "nonNegativeInteger"),
  ("minProperties", defined "nonNegativeInteger"),
  ("minimum", typed "number" []),
  ("multipleOf", typed "number" [("exclusiveMinimum", .nat 0)]),
  ("not", anySchema),
  ("oneOf", defined "schemaArray"),
  ("pattern", typed "string" []),
  ("patternProperties", schemasByName),
  ("properties", schemasByName),
  ("propertyNames", anySchema),
  ("readOnly", typed "boolean" []),
  ("required", defined "stringArray"),
  ("then", anySchema),
  ("title", typed "string" []),
  ("type", .object [("anyOf", .array [
    defined "simpleTypes",
    .object [("items", defined "simpleTypes"), ("minItems", .nat 1), ("type", .string "array"),
      ("uniqueItems", .bool true)]])]),
  ("uniqueItems", typed "boolean" [])]

/-- The schema of schemas. -/
def document : Json := .object [
  ("definitions", .object definitions),
  ("properties", .object keywords),
  ("type", .strings ["object", "boolean"])]

end Specimen.Schema.Meta

/-- Why a document is not a schema, if it is none. -/
def Specimen.Schema.fault? (j : Specimen.Json) : Option Specimen.Schema.Violation :=
  (check Meta.document j).head?
