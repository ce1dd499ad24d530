/-!
# Paths of files

A path is a text of steps with slashes between them. Steps that are empty or a single point
lead nowhere, apart from a point at the very front of a relative path.

* `FilePath.parent?` is the folder that the last step is taken from.
* `FilePath.join` puts a path below a folder, unless it is absolute.
-/

namespace Specimen.FilePath

/-- True when a path starts at the root. -/
def isAbsolute (p : String) : Bool := p.toList.head? == some '/'

/-- The steps of a path as they are written. -/
def steps (p : String) : List String := (p.toList.splitOn '/').map String.ofList

/-- True for steps that lead nowhere. -/
def isIdle (step : String) : Bool := step.isEmpty || step == "."

/-- Steps without those at the end that lead nowhere. -/
def trimEnd (ss : List String) : List String := (ss.reverse.dropWhile isIdle).reverse

/-- The folder that the last of some steps is taken from, all steps behind a first one that
counts in any case. -/
def parentSteps? (ss : List String) : Option (List String) :=
  match trimEnd ss with
  | [] => none
  | ss => some (trimEnd ss.dropLast)

/-- The folder of a path; there is none for the root and the empty path. -/
def parent? (p : String) : Option String :=
  match steps p with
  | "" :: [] => none
  | "" :: rest => (parentSteps? rest).map fun ss => "/" ++ "/".intercalate ss
  | first :: rest =>
    match parentSteps? rest with
    | some ss => some ("/".intercalate (first :: ss))
    | none => some ""
  | [] => none

/-- A path below a folder. -/
def join (folder p : String) : String :=
  if isAbsolute p || folder.isEmpty then p
  else if folder.endsWith "/" then folder ++ p
  else folder ++ "/" ++ p

end Specimen.FilePath
