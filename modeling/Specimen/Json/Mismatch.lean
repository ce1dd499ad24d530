import Specimen.Json.Basic
import Specimen.Text.Debug

/-!
# What a document can be instead of what was expected

A reader that meets a document of the wrong form says what it found and what it expected.
`Mismatch` lists the ways in which this happens and `Mismatch.message` words them.
-/

namespace Specimen

/-- What was found, as far as messages show it. -/
inductive Found where
  | null
  | bool (value : Bool)
  | number (value : Number)
  | string (value : String)
  | sequence
  | map
  deriving DecidableEq, Repr

namespace Found

/-- What a document counts as in a message. -/
def ofJson : Json → Found
  | .null => null
  | .bool b => bool b
  | .number n => number n
  | .string s => string s
  | .array _ => sequence
  | .object _ => map

/-- The wording of what was found. -/
def text : Found → String
  | null => "null"
  | bool b => "boolean `" ++ toString b ++ "`"
  | number (.int i) => "integer `" ++ toString i ++ "`"
  | number (.float x) => "floating point `" ++ x.text ++ "`"
  | string s => "string " ++ Text.debug s
  | sequence => "sequence"
  | map => "map"

end Found

/-- Why a document is not one of the expected form. -/
inductive Mismatch where
  | invalidType (found : Found) (expected : String)
  | invalidValue (found : Found) (expected : String)
  | invalidLength (found : Nat) (expected : String)
  | missingField (field : String)
  | duplicateField (field : String)
  | unknownField (field : String) (known : List String)
  | unknownVariant (variant : String) (known : List String)
  /-- None of the forms of a type that has several fits. -/
  | noVariant (type : String)
  deriving DecidableEq, Repr

namespace Mismatch

/-- Names in backticks: one alone, two with "or", more after "one of". -/
def alternatives (names : List String) : String :=
  match names.map fun n => "`" ++ n ++ "`" with
  | [] => "there are no variants"
  | [a] => "expected " ++ a
  | [a, b] => "expected " ++ a ++ " or " ++ b
  | many => "expected one of " ++ ", ".intercalate many

/-- The wording of a mismatch. -/
def message : Mismatch → String
  | invalidType found expected => "invalid type: " ++ found.text ++ ", expected " ++ expected
  | invalidValue found expected => "invalid value: " ++ found.text ++ ", expected " ++ expected
  | invalidLength n expected => "invalid length " ++ toString n ++ ", expected " ++ expected
  | missingField f => "missing field `" ++ f ++ "`"
  | duplicateField f => "duplicate field `" ++ f ++ "`"
  | unknownField f known => "unknown field `" ++ f ++ "`, " ++ alternatives known
  | unknownVariant v known => "unknown variant `" ++ v ++ "`, " ++ alternatives known
  | noVariant type => "data did not match any variant of untagged enum " ++ type

end Mismatch

end Specimen
