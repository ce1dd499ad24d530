import Specimen.Json.Basic

/-!
# Pointers

A pointer names a part of a document by the steps that lead to it from the whole: the key
of an entry of an object or the index of an item of an array. It is written as the steps
with a slash before each, a tilde and a slash inside a step being written `~0` and `~1`.

* `Json.at?` is the part that a pointer names.
* `Pointer.parse_text`: what is written reads back.
-/

namespace Specimen

/-- The steps from a document to one of its parts. -/
abbrev Pointer := List String

namespace Pointer

/-- A character of a step as it is written. -/
def escapeChar (c : Char) : List Char :=
  if c = '~' then ['~', '0'] else if c = '/' then ['~', '1'] else [c]

/-- The characters of a pointer. -/
def write (p : Pointer) : List Char :=
  p.flatMap fun step => '/' :: step.toList.flatMap escapeChar

/-- The text of a pointer. -/
def text (p : Pointer) : String := String.ofList (write p)

/-- Reads the rest of a step, whose characters so far are given from the last one on, and
the steps after it. -/
def readStep (done : List Char) : List Char → Option Pointer
  | [] => some [String.ofList done.reverse]
  | '/' :: cs => (readStep [] cs).map (String.ofList done.reverse :: ·)
  | '~' :: '0' :: cs => readStep ('~' :: done) cs
  | '~' :: '1' :: cs => readStep ('/' :: done) cs
  | '~' :: _ => none
  | c :: cs => readStep (c :: done) cs

/-- The pointer that characters stand for. -/
def read : List Char → Option Pointer
  | [] => some []
  | '/' :: cs => readStep [] cs
  | _ :: _ => none

/-- The pointer that a text stands for. -/
def parse (s : String) : Option Pointer := read s.toList

/-! ### Reading back -/

theorem readStep_escape (done cs rest : List Char) :
    readStep done (cs.flatMap escapeChar ++ rest) = readStep (cs.reverse ++ done) rest := by
  induction cs generalizing done with
  | nil => rfl
  | cons c cs ih =>
    by_cases h : c = '~'
    · subst h
      simpa [escapeChar, readStep] using ih ('~' :: done)
    · by_cases h' : c = '/'
      · subst h'
        simpa [escapeChar, readStep] using ih ('/' :: done)
      · simpa [escapeChar, h, h', readStep] using ih (c :: done)

theorem readStep_write (done : List Char) (p : Pointer) :
    readStep done (write p) = some (String.ofList done.reverse :: p) := by
  induction p generalizing done with
  | nil => rfl
  | cons step p ih =>
    have h : write (step :: p) = '/' :: (step.toList.flatMap escapeChar ++ write p) := rfl
    rw [h, readStep, readStep_escape, ih]
    simp

theorem read_write (p : Pointer) : read (write p) = some p := by
  cases p with
  | nil => rfl
  | cons step p =>
    have h : write (step :: p) = '/' :: (step.toList.flatMap escapeChar ++ write p) := rfl
    rw [h, read, readStep_escape, readStep_write]
    simp

/-- What is written reads back. -/
theorem parse_text (p : Pointer) : parse p.text = some p := by
  simp [parse, text, read_write]

end Pointer

/-- The index that a step stands for: decimal digits without a leading zero. -/
def indexOfStep? (step : String) : Option Nat :=
  match step.toList with
  | [] => none
  | ['0'] => some 0
  | '0' :: _ => none
  | cs =>
    if cs.all Char.isDigit then some (cs.foldl (fun n c => 10 * n + (c.toNat - 48)) 0) else none

/-- The part of a document that a pointer names. -/
def Json.at? : Json → Pointer → Option Json
  | j, [] => some j
  | .array items, step :: p => (indexOfStep? step).bind fun i => items[i]?.bind (·.at? p)
  | .object entries, step :: p => (entries.lookup step).bind (·.at? p)
  | _, _ :: _ => none

end Specimen
