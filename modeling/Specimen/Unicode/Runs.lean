import Specimen.Unicode.CodeSet

/-!
# Properties as runs

A property that gives every character one value from a short list is written as runs: the
short name of a value and the number of characters in a row that have it, over all
characters from the first on. A set of characters is written as runs too, of the lengths
of the stretches outside and inside the set in turn.
-/

namespace Specimen.Unicode

/-- The number that the digits at the front of a text give, and the text after them. -/
def leadingNumber (cs : List Char) : Nat × List Char :=
  ((cs.takeWhile Char.isDigit).foldl (fun n d => 10 * n + (d.toNat - '0'.toNat)) 0,
    cs.dropWhile Char.isDigit)

/-- The runs of a text: names and counts. The fuel is the number of characters. -/
def readRuns : Nat → List Char → List (String × Nat)
  | 0, _ => []
  | _, [] => []
  | fuel + 1, cs =>
    let name := cs.takeWhile fun c => !c.isDigit
    let (count, rest) := leadingNumber (cs.dropWhile fun c => !c.isDigit)
    (String.ofList name, count) :: readRuns fuel rest

/-- The intervals of the runs with a wanted name, the first run starting at `start`. -/
def wantedRanges (wanted : String → Bool) (start : Nat) :
    List (String × Nat) → List (Nat × Nat)
  | [] => []
  | (name, count) :: runs =>
    if wanted name && 0 < count then
      (start, start + count - 1) :: wantedRanges wanted (start + count) runs
    else wantedRanges wanted (start + count) runs

/-- The characters whose value in a text of runs is a wanted one. -/
def charactersWith (table : String) (wanted : String → Bool) : CodeSet :=
  .ofRanges (wantedRanges wanted 0 (readRuns table.length table.toList))

/-- The value of a rank in a list of runs. -/
def valueAt : List (String × Nat) → Nat → Option String
  | [], _ => none
  | (name, count) :: runs, n => if n < count then some name else valueAt runs (n - count)

/-- The intervals of every second run, from a rank on; `inside` says whether the first of
them counts. -/
def alternate (start : Nat) (inside : Bool) : List Nat → List (Nat × Nat)
  | [] => []
  | count :: counts =>
    if inside && 0 < count then
      (start, start + count - 1) :: alternate (start + count) false counts
    else alternate (start + count) (!inside) counts

/-- The set written as stretches outside and inside in turn, separated by spaces. -/
def alternating (table : String) : CodeSet :=
  .ofRanges (alternate 0 false ((table.splitOn " ").map fun s => s.toNat?.getD 0))

end Specimen.Unicode
