import Specimen.Json.Reader

/-!
# Data sets

A data set holds, for every id of a pass, the value that was generated or null. Beside its
values it can fix the values of some ids for the next pass; these are kept apart.
-/

namespace Specimen

/-- Values by id, with null for no value, and the values that ids are fixed to. -/
structure DataSet where
  values : Dict (Option String)
  fixed : Dict String
  deriving Inhabited

namespace DataSet

/-- The data set without values. -/
def empty : DataSet := ⟨.empty, .empty⟩

/-- The value of an id, if it has one other than null. -/
def value (d : DataSet) (id : String) : Option String := (d.values.get? id).join

/-- Puts the value of an id. -/
def put (d : DataSet) (id : String) (value : Option String) : DataSet :=
  { d with values := d.values.insert id value }

/-- Fixes the value of an id. -/
def fix (d : DataSet) (id value : String) : DataSet :=
  { d with fixed := d.fixed.insert id value }

/-- Makes an id free again. -/
def unfix (d : DataSet) (id : String) : DataSet := { d with fixed := d.fixed.erase id }

/-! ### Documents -/

/-- The values as an object. -/
def valuesToJson (values : Dict (Option String)) : Json :=
  .object (values.map Json.optString).entries

/-- A data set as a document; fixed values are written when there are any. -/
def toJson (d : DataSet) : Json :=
  .object (("values", valuesToJson d.values) ::
    if d.fixed.isEmpty then []
    else [("fixed", .object (d.fixed.map Json.string).entries)])

/-- The fields of a data set, as far as they have been read. -/
structure Fields where
  values : Option (Dict (Option String)) := none
  fixed : Option (Dict String) := none

/-- How a data set is read. -/
def record : Record Fields DataSet where
  expected := "struct InMemoryDataSet"
  whole := "struct InMemoryDataSet with 2 elements"
  start := {}
  closed := false
  slots := [
    .of "values" false (·.values) (fun v s => { s with values := some v })
      (.dict (.option .string)),
    .of "fixed" true (·.fixed) (fun v s => { s with fixed := some v }) (.dict .string)]
  finish s := do return ⟨← require "values" s.values, s.fixed.getD .empty⟩

/-- The reader of a data set. -/
def reader : Reader DataSet := record.reader

end DataSet

end Specimen
