import Specimen.Schema.Violation

/-!
# Checking documents against schemas

`Schema.check` lists the violations of a document in the order of the rules that are
broken, and for rules on entries or items in the order of these. Alternatives that all
fail, or that do not single one out, are one violation of the whole document.

References are followed in the document that the schema was read from; `named` lists what each
of them leads to. A reference that leads back to itself without going down in the checked
document would be followed forever; the fuel ends that, and it is enough whenever no reference
does (`enough`).
-/

namespace Specimen.Schema

/-- The schema that a reference leads to: a pointer behind a number sign. -/
def resolve (root : Json) (target : String) : Option Schema :=
  match target.toList with
  | '#' :: cs => ((Pointer.read cs).bind root.at?).map ofJson
  | _ => none

mutual

/-- The targets of all references in a document. -/
def targets : Json → List String
  | .array js => targetsOfItems js
  | .object es => targetsOfEntries es
  | _ => []

/-- The targets of all references in some documents. -/
def targetsOfItems : List Json → List String
  | [] => []
  | j :: js => targets j ++ targetsOfItems js

/-- The targets of all references in some entries. -/
def targetsOfEntries : List (String × Json) → List String
  | [] => []
  | ("$ref", .string target) :: es => target :: targetsOfEntries es
  | (_, j) :: es => targets j ++ targetsOfEntries es

end

/-- The schemas that the references in a document lead to, by their targets. -/
def named (root : Json) : List (String × Option Schema) :=
  (targets root).eraseDups.map fun target => (target, resolve root target)

/-- True when no two of some documents are equal. -/
def allDistinct : List Json → Bool
  | [] => true
  | j :: js => !js.any j.sameValue && allDistinct js

/-- The violation of a condition, or none if it holds. -/
def expect (holds : Bool) (place : Pointer) (found : Json) (cause : Cause) : List Violation :=
  if holds then [] else [⟨place, found, cause⟩]

/-- The violations of a rule that contains no schema. -/
def plainViolations (place : Pointer) (j : Json) : Rule → List Violation
  | .constant value => expect (j.sameValue value) place j (.notConstant value)
  | .enumeration values => expect (values.any j.sameValue) place j (.notListed values)
  | .bound b limit =>
    match j with
    | .number n => expect (b.admits limit n) place j (.bound b limit)
    | _ => []
  | .multiple unit =>
    match j with
    | .number n => expect (n.isMultipleOf unit) place j (.notMultiple unit)
    | _ => []
  | .atLeast m limit =>
    match m.of? j with
    | some n => expect (limit ≤ n) place j (.tooSmall m limit)
    | none => []
  | .atMost m limit =>
    match m.of? j with
    | some n => expect (n ≤ limit) place j (.tooLarge m limit)
    | none => []
  | .required keys =>
    match j with
    | .object es => keys.flatMap fun k => expect ((es.lookup k).isSome) place j (.missingKey k)
    | _ => []
  | .type types => expect (types.any fun t => t.admits j) place j (.type types)
  | .distinctItems =>
    match j with
    | .array js => expect (allDistinct js) place j .repeated
    | _ => []
  | _ => []

mutual

/-- The violations of a schema by a document at a place. -/
def violations (names : List (String × Option Schema)) :
    Nat → Schema → Pointer → Json → List Violation
  | 0, _, _, _ => []
  | fuel + 1, s, place, j =>
    match s with
    | .verdict accepts => expect accepts place j .refused
    | .reference target =>
      match names.lookup target with
      | some (some s) => violations names fuel s place j
      | _ => [⟨place, j, .dangling target⟩]
    | .rules rs => rs.flatMap fun r => ruleViolations names fuel r place j

/-- The violations of a rule. -/
def ruleViolations (names : List (String × Option Schema)) :
    Nat → Rule → Pointer → Json → List Violation
  | 0, _, _, _ => []
  | fuel + 1, r, place, j =>
    let accepts (s : Schema) : Bool := (violations names fuel s place j).isEmpty
    match r, j with
    | .everyEntry listed others, .object es =>
      match listed, others with
      | [], .verdict false =>
        match es with
        | [] => []
        | (_, value) :: _ => [⟨place, value, .refused⟩]
      | listed, .verdict false =>
        let unexpected := es.filterMap fun (k, _) =>
          if (listed.lookup k).isSome then none else some k
        (es.flatMap fun (k, value) =>
          match listed.lookup k with
          | some s => violations names fuel s (place ++ [k]) value
          | none => []) ++ expect unexpected.isEmpty place j (.unexpectedKeys unexpected)
      | listed, others => es.flatMap fun (k, value) =>
        violations names fuel ((listed.lookup k).getD others) (place ++ [k]) value
    | .allOf ss, _ => ss.flatMap fun s => violations names fuel s place j
    | .anyOf ss, _ => expect (ss.any accepts) place j .noneOf
    | .oneOf ss, _ =>
      match ss.filter accepts with
      | [] => [⟨place, j, .notOneOf⟩]
      | [_] => []
      | _ => [⟨place, j, .severalOf⟩]
    | .negation source s, _ => expect (!accepts s) place j (.negated source)
    | .conditional test positive negative, _ =>
      match if accepts test then positive else negative with
      | some s => violations names fuel s place j
      | none => []
    | .contains s, .array js =>
      expect (js.any fun item => (violations names fuel s place item).isEmpty) place j .noItem
    | .items s, .array js => js.zipIdx.flatMap fun (item, i) =>
      violations names fuel s (place ++ [toString i]) item
    | .leadingItems ss, .array js => (ss.zip js).zipIdx.flatMap fun ((s, item), i) =>
      violations names fuel s (place ++ [toString i]) item
    | .entries listed, .object es => listed.flatMap fun (k, s) =>
      match es.lookup k with
      | some value => violations names fuel s (place ++ [k]) value
      | none => []
    | .keys s, .object es => es.flatMap fun (k, _) =>
      violations names fuel s place (.string k)
    | r, j => plainViolations place j r

end

/-- Fuel for a document: without references that lead back to themselves, no more schemas
and rules are entered below a part of the document than the schema's document has parts. -/
def enough (root j : Json) : Nat := 2 * (root.size + 1) * (j.depth + 2)

/-- The violations by a document of the schema that another one stands for. -/
def check (root j : Json) : List Violation :=
  violations (named root) (enough root j) (ofJson root) [] j

end Specimen.Schema
