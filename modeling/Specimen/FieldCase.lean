import Specimen.Json.Reader
import Specimen.Text.White

/-!
# Field cases

Every request for a value says which case it is for: a normal value, none at all, a
blanked one, or one of the three boundary positions of a field's range.
-/

namespace Specimen

/-- The case that a value is requested for. -/
inductive FieldCase where
  /-- No particular case: the generator decides. -/
  | normal
  | null
  | blank
  | min
  | avg
  | max
  deriving DecidableEq, Repr, Inhabited

namespace FieldCase

/-- The case that a blanked value is computed from. -/
def standard : FieldCase := avg

/-- The positions in a range, from low to high. -/
def boundaries : List FieldCase := [min, avg, max]

/-- True when a certain case is asked for. -/
def isExplicit (c : FieldCase) : Bool := c != normal

/-- True for the positions in a range. -/
def isBoundary (c : FieldCase) : Bool := boundaries.contains c

/-- The name of a case. -/
def name : FieldCase → String
  | normal => "normal"
  | null => "null"
  | blank => "blank"
  | min => "min"
  | avg => "avg"
  | max => "max"

/-- All cases. -/
def all : List FieldCase := [normal, null, blank, min, avg, max]

/-- The case with a name. -/
def ofName? (s : String) : Option FieldCase := all.find? fun c => c.name = s

@[simp] theorem ofName?_name (c : FieldCase) : ofName? c.name = some c := by
  cases c <;> decide

/-- The form in which the name of a case is looked up. -/
def foldedName (s : String) : String :=
  String.ofList ((Text.trim s).toList.map Char.toLower)

/-- The case that a text means: white space around it and the case of ASCII letters do not
count, and two cases have a second name. The other texts are answered as they were looked
up. -/
def parse (s : String) : Except String FieldCase :=
  let folded := foldedName s
  match ofName? folded with
  | some c => .ok c
  | none =>
    if folded = "none" then .ok normal
    else if folded = "average" then .ok avg
    else .error folded

/-! ### Documents -/

/-- What is expected where a case should stand in a document. -/
def caseNamed (s : String) : Except Mismatch FieldCase :=
  match ofName? s with
  | some c => .ok c
  | none => .error (.unknownVariant s (all.map name))

/-- The case that a document stands for: its name, or an object with its name as the only
key and null under it. -/
def ofJson (origin : Origin) : Json → Except Mismatch FieldCase
  | .string s => caseNamed s
  | .object [(k, j)] => do
    let c ← caseNamed k
    match origin, j with
    | _, .null => return c
    | .fragment, .object [] => return c
    | _, j => throw (.invalidType (.ofJson j) "unit")
  | .object _ => .error (.invalidValue .map "map with a single key")
  | j => .error (.invalidType (.ofJson j) "string or map")

open Scan in
/-- Reads the name of a case, as a string. -/
def scanName : Scan FieldCase := do
  if (← valueStart) = '"' then
    placed do
      eat
      ofExcept (caseNamed (← string))
  else unexpected "variant identifier"

open Scan in
/-- Reads a case from text. -/
def scan : Scan FieldCase := do
  match ← valueStart with
  | '"' => scanName
  | '\x7b' =>
    let inside : Scan FieldCase := do
      let c ← scanName
      colon
      if (← valueStart) = 'n' then
        eat
        word "ull".toList
      else unexpected "unit"
      return c
    let depth := (← get).depth
    if depth ≤ 1 then failPeek .depthLimit
    else
      modify fun cursor => { cursor with depth := depth - 1 }
      eat
      let c ← inside
      modify fun cursor => { cursor with depth := depth }
      match ← peekToken with
      | some '\x7d' =>
        eat
        return c
      | some _ => fail .expectedValue
      | none => fail .endInObject
  | _ => failPeek .expectedValue

/-- The reader of a case. -/
def reader : Reader FieldCase := ⟨ofJson, scan⟩

/-- A case as a document. -/
def toJson (c : FieldCase) : Json := .string c.name

end FieldCase

end Specimen
