import Specimen.Json.Pointer

/-!
# Schemas

A schema says which documents are acceptable. It accepts everything, accepts nothing,
stands for another schema that a pointer names, or is a list of rules all of which have to
hold. Rules keep the order of their keywords, since a document that breaks several is
reported in that order.

`Schema.ofJson` is the schema that a document stands for. Keywords that it does not know,
and those whose value is of the wrong form, say nothing.
-/

namespace Specimen

/-- The types of documents that a schema can tell apart. -/
inductive JsonType where
  | array
  | boolean
  | integer
  | null
  | number
  | object
  | string
  deriving DecidableEq, Repr

namespace JsonType

/-- All types, in the order of their names. -/
def all : List JsonType := [array, boolean, integer, null, number, object, string]

/-- The name of a type. -/
def name : JsonType → String
  | array => "array"
  | boolean => "boolean"
  | integer => "integer"
  | null => "null"
  | number => "number"
  | object => "object"
  | string => "string"

/-- The type with a name. -/
def ofName? (s : String) : Option JsonType := all.find? fun t => t.name = s

/-- True when a document is of a type. A number without a fractional part is an integer,
however it is written. -/
def admits : JsonType → Json → Bool
  | array, .array _ => true
  | boolean, .bool _ => true
  | integer, .number n => n.isIntegral
  | null, .null => true
  | number, .number _ => true
  | object, .object _ => true
  | string, .string _ => true
  | _, _ => false

end JsonType

/-- A bound of numbers. -/
inductive Bound where
  | least
  | greatest
  | above
  | below
  deriving DecidableEq, Repr

/-- True when a number respects a bound at a limit. -/
def Bound.admits (b : Bound) (limit n : Number) : Bool :=
  match b, n.compareValue limit with
  | least, o => o.isGE
  | greatest, o => o.isLE
  | above, o => o.isGT
  | below, o => o.isLT

/-- True when a number is a whole multiple of another one. -/
def Number.isMultipleOf (n unit : Number) : Bool :=
  let (a, b) := n.ratio
  let (c, d) := unit.ratio
  c != 0 && (a * d) % (b * c) == 0

/-- What is counted in a document. -/
inductive Measure where
  | items
  | characters
  | entries
  deriving DecidableEq, Repr

/-- The size of a document, if it is one that has it. -/
def Measure.of? : Measure → Json → Option Nat
  | items, .array js => some js.length
  | characters, .string s => some s.toList.length
  | entries, .object es => some es.length
  | _, _ => none

/-- What a measure counts, after a number. -/
def Measure.unit (m : Measure) (n : Nat) : String :=
  match m, decide (n = 1) with
  | .items, true => "item"
  | .items, false => "items"
  | .characters, true => "character"
  | .characters, false => "characters"
  | .entries, true => "property"
  | .entries, false => "properties"

mutual

/-- Which documents are acceptable. -/
inductive Schema where
  | verdict (accepts : Bool)
  | reference (target : String)
  | rules (list : List Rule)

/-- A condition on a document. -/
inductive Rule where
  /-- The entries, both the listed ones and the others. -/
  | everyEntry (listed : List (String × Schema)) (others : Schema)
  | allOf (schemas : List Schema)
  | anyOf (schemas : List Schema)
  | oneOf (schemas : List Schema)
  | negation (source : Json) (schema : Schema)
  | conditional (test : Schema) (positive negative : Option Schema)
  | constant (value : Json)
  | enumeration (values : List Json)
  | bound (b : Bound) (limit : Number)
  | multiple (unit : Number)
  | atLeast (m : Measure) (limit : Nat)
  | atMost (m : Measure) (limit : Nat)
  | contains (schema : Schema)
  | items (schema : Schema)
  | leadingItems (schemas : List Schema)
  | entries (listed : List (String × Schema))
  | keys (schema : Schema)
  | required (keys : List String)
  | type (types : List JsonType)
  | distinctItems

end

instance : Inhabited Schema := ⟨.verdict true⟩

namespace Schema

/-! ### Reading schemas -/

/-- A size that is a limit. -/
def limit? : Json → Option Nat
  | .number (.int i) => if 0 ≤ i then some i.toNat else none
  | .number (.float x) =>
    let (n, d) := x.signedRatio
    if x.isIntegral && 0 ≤ n then some (n.toNat / d) else none
  | _ => none

/-- The texts among documents. -/
def texts (js : List Json) : List String :=
  js.filterMap fun j =>
    match j with
    | .string s => some s
    | _ => none

/-- The types that the value of `type` names, in the order of their names. -/
def types? : Json → Option (List JsonType)
  | .string s => (JsonType.ofName? s).map ([·])
  | .array js => some (JsonType.all.filter fun t => (texts js).contains t.name)
  | _ => none

/-- A rule with a limit of a size. -/
def sizeRule (make : Nat → Rule) (j : Json) : List Rule := ((limit? j).map make).toList

/-- A rule with a bound of numbers. -/
def boundRule (b : Bound) : Json → List Rule
  | .number n => [.bound b n]
  | _ => []

/-- The rule of a keyword that contains no schema. -/
def plainRule (keyword : String) (j : Json) : List Rule :=
  match keyword, j with
  | "const", j => [.constant j]
  | "enum", .array js => [.enumeration js]
  | "exclusiveMaximum", j => boundRule .below j
  | "exclusiveMinimum", j => boundRule .above j
  | "maxItems", j => sizeRule (.atMost .items) j
  | "maxLength", j => sizeRule (.atMost .characters) j
  | "maxProperties", j => sizeRule (.atMost .entries) j
  | "maximum", j => boundRule .greatest j
  | "minItems", j => sizeRule (.atLeast .items) j
  | "minLength", j => sizeRule (.atLeast .characters) j
  | "minProperties", j => sizeRule (.atLeast .entries) j
  | "minimum", j => boundRule .least j
  | "multipleOf", .number n => [.multiple n]
  | "required", .array js => [.required (texts js)]
  | "type", j => ((types? j).map Rule.type).toList
  | "uniqueItems", .bool true => [.distinctItems]
  | _, _ => []

/-- True when the entries that are not listed have a schema of their own. The rule that
holds it then covers the listed ones too. -/
def limitsOthers (es : List (String × Json)) : Bool :=
  match es.lookup "additionalProperties" with
  | some (.bool b) => !b
  | some (.object _) => true
  | _ => false

mutual

/-- The schema that a document stands for. -/
def ofJson : Json → Schema
  | .bool b => .verdict b
  | .object es =>
    match es.lookup "$ref" with
    | some (.string target) => .reference target
    | _ => .rules (rulesOf (namedParts "properties" es) (limitsOthers es) (part "then" es)
        (part "else" es) es)
  | _ => .verdict true

/-- The schemas that documents stand for. -/
def listOfJson : List Json → List Schema
  | [] => []
  | j :: js => ofJson j :: listOfJson js

/-- The named schemas that entries stand for. -/
def namedOfJson : List (String × Json) → List (String × Schema)
  | [] => []
  | (k, j) :: es => (k, ofJson j) :: namedOfJson es

/-- The named schemas under a keyword. -/
def namedParts (keyword : String) : List (String × Json) → List (String × Schema)
  | [] => []
  | (k, j) :: es =>
    if k = keyword then
      match j with
      | .object parts => namedOfJson parts
      | _ => []
    else namedParts keyword es

/-- The schema under a keyword. -/
def part (keyword : String) : List (String × Json) → Option Schema
  | [] => none
  | (k, j) :: es => if k = keyword then some (ofJson j) else part keyword es

/-- The rules of the keywords of a schema, given its listed entries, whether others are
limited, and what follows from a test. -/
def rulesOf (listed : List (String × Schema)) (limited : Bool)
    (positive negative : Option Schema) : List (String × Json) → List Rule
  | [] => []
  | (k, j) :: es =>
    let rest := rulesOf listed limited positive negative es
    match k, j with
    | "additionalProperties", j =>
      if limited then .everyEntry listed (ofJson j) :: rest else rest
    | "allOf", .array js => .allOf (listOfJson js) :: rest
    | "anyOf", .array js => .anyOf (listOfJson js) :: rest
    | "contains", j => .contains (ofJson j) :: rest
    | "if", j => .conditional (ofJson j) positive negative :: rest
    | "items", .array js => .leadingItems (listOfJson js) :: rest
    | "items", j => .items (ofJson j) :: rest
    | "not", j => .negation j (ofJson j) :: rest
    | "oneOf", .array js => .oneOf (listOfJson js) :: rest
    | "properties", .object parts =>
      if limited then rest else .entries (namedOfJson parts) :: rest
    | "propertyNames", j => .keys (ofJson j) :: rest
    | k, j => plainRule k j ++ rest

end

end Schema

end Specimen
