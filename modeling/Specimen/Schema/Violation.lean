import Specimen.Json.Print
import Specimen.Schema.Basic

/-!
# Violations of schemas

A violation is a part of a document that breaks a rule of a schema. `Violation.message`
words it; the part itself is written in the message.
-/

namespace Specimen.Schema

/-- How a part of a document breaks a rule. -/
inductive Cause where
  | unexpectedKeys (keys : List String)
  | noneOf
  | notOneOf
  | severalOf
  | notConstant (value : Json)
  | notListed (values : List Json)
  | bound (b : Bound) (limit : Number)
  | notMultiple (unit : Number)
  | tooSmall (m : Measure) (limit : Nat)
  | tooLarge (m : Measure) (limit : Nat)
  | noItem
  | refused
  | negated (schema : Json)
  | missingKey (key : String)
  | type (types : List JsonType)
  | repeated
  /-- A reference to a schema that does not exist. -/
  | dangling (target : String)
  deriving Repr

/-- A number as it is written, without a fractional part of zero. -/
def wholeText (n : Number) : String :=
  match n.ratio with
  | (a, b) => if n.isIntegral then toString (a / b) else n.text

namespace Cause

/-- The address of a schema that has none of its own; references are relative to it. -/
def schemaBase : String := "json-schema:///"

/-- The wording of a cause, given how the part is written. -/
def message (found : String) : Cause → String
  | unexpectedKeys keys => "Additional properties are not allowed (" ++
      ", ".intercalate (keys.map fun k => "'" ++ k ++ "'") ++
      (if keys.length = 1 then " was" else " were") ++ " unexpected)"
  | noneOf => found ++ " is not valid under any of the schemas listed in the 'anyOf' keyword"
  | notOneOf => found ++ " is not valid under any of the schemas listed in the 'oneOf' keyword"
  | severalOf =>
    found ++ " is valid under more than one of the schemas listed in the 'oneOf' keyword"
  | notConstant value => value.compact ++ " was expected"
  | notListed values => found ++ " is not one of " ++ (Json.array values).compact
  | bound b limit => found ++ (match b with
      | .least => " is less than the minimum of "
      | .greatest => " is greater than the maximum of "
      | .above => " is less than or equal to the minimum of "
      | .below => " is greater than or equal to the maximum of ") ++ limit.text
  | notMultiple unit => found ++ " is not a multiple of " ++ wholeText unit
  | tooSmall m limit => found ++ (match m with
      | .characters => " is shorter than "
      | _ => " has less than ") ++ toString limit ++ " " ++ m.unit limit
  | tooLarge m limit => found ++ (match m with
      | .characters => " is longer than "
      | _ => " has more than ") ++ toString limit ++ " " ++ m.unit limit
  | noItem => "None of " ++ found ++ " are valid under the given schema"
  | refused => "False schema does not allow " ++ found
  | negated schema => schema.compact ++ " is not allowed for " ++ found
  | missingKey key => (Json.string key).compact ++ " is a required property"
  | type [t] => found ++ " is not of type \"" ++ t.name ++ "\""
  | type ts => found ++ " is not of types " ++
      ", ".intercalate (ts.map fun t => "\"" ++ t.name ++ "\"")
  | repeated => found ++ " has non-unique elements"
  | dangling target => "Invalid reference: " ++ schemaBase ++ target

end Cause

/-- A part of a document that breaks a rule. -/
structure Violation where
  place : Pointer
  found : Json
  cause : Cause
  deriving Repr

/-- The wording of a violation. -/
def Violation.message (v : Violation) : String := v.cause.message v.found.compact

end Specimen.Schema
