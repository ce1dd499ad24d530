import Specimen.DataSet

/-!
# Comma-separated values

A table is written as one record a line, its fields separated by commas. A field that
contains a comma, a quote or an end of line is put in quotes, and a quote inside it is written
twice. A record whose only field is empty is written as two quotes, so that no line is empty.
-/

namespace Specimen.Csv

/-- True for characters that a field must be put in quotes for. -/
def isSpecial (c : Char) : Bool := c = ',' || c = '"' || c = '\r' || c = '\n'

/-- A field in quotes. -/
def quoted (cs : List Char) : List Char :=
  '"' :: (cs.flatMap fun c => if c = '"' then ['"', '"'] else [c]) ++ ['"']

/-- A field. -/
def field (s : String) : List Char :=
  let cs := s.toList
  if cs.any isSpecial then quoted cs else cs

/-- Fields with commas between them. -/
def fields : List String → List Char
  | [] => []
  | [s] => field s
  | s :: ss => field s ++ ',' :: fields ss

/-- A record with the end of its line. -/
def record (ss : List String) : List Char :=
  match fields ss with
  | [] => ['"', '"', '\n']
  | cs => cs ++ ['\n']

/-- The values that a data set has for some columns; null is empty. -/
def row (columns : List String) (d : DataSet) : List String :=
  columns.map fun id => (d.value id).getD ""

/-- Records, one after the other. -/
def records (rows : List (List String)) : String := String.ofList (rows.flatMap record)

/-- The table of data sets, with the columns as its first record. -/
def table (columns : List String) (ds : List DataSet) : String :=
  records (columns :: ds.map (row columns))

end Specimen.Csv
