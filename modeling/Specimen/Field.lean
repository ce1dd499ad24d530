import Specimen.Calendar.Format
import Specimen.CharacterSet
import Specimen.Config.Model
import Specimen.FieldCase
import Specimen.Regex.Sample

/-!
# Fields

A field generates texts from a range: of lengths, numbers, days or listed values. A case
that names a boundary takes the low end of the range, its middle or its high end, and every
other case draws a position from the range. Patterns have a single position.

* `Field.ofSpec` checks a declaration; what it accepts has a range that is not empty.
* `Field.position` is the place of a boundary in the range, and `Field.boundaries` lists
  the different ones.
* `Field.generate` generates a text.
-/

namespace Specimen

open Config

/-- A field whose range is not empty. -/
inductive Field where
  | text (minLength maxLength : Nat) (le : minLength ≤ maxLength)
  | number (min max : Int) (le : min ≤ max)
  | date (min max : Date) (le : min.number ≤ max.number) (format : DateFormat)
  | choice (values : List String) (nonempty : values ≠ [])
  | pattern (plan : Regex.Plan)

/-- Why a field cannot be used. -/
inductive FieldFault where
  | textRange (minLength maxLength : Nat)
  | numberRange (min max : Int)
  | date (text : String) (fault : DateFault)
  | dateRange (min max : Date)
  | format (text : String)
  | noChoice
  | pattern (expression : String) (fault : Regex.SampleFault)
  /-- A day so far after the first one is out of range. -/
  | offset (days : Int)

/-- The wording of a fault. -/
def FieldFault.message : FieldFault → String
  | textRange low high =>
    "text min_len " ++ toString low ++ " exceeds max_len " ++ toString high
  | numberRange low high => "number min " ++ toString low ++ " exceeds max " ++ toString high
  | date text fault => "invalid date '" ++ text ++ "': " ++ fault.message
  | dateRange low high => "date min " ++ low.text ++ " is after max " ++ high.text
  | format text => "invalid date format '" ++ text ++ "'"
  | noChoice => "choice requires at least one value"
  | pattern expression fault =>
    "invalid regex pattern '" ++ expression ++ "': " ++ fault.message
  | offset days => "date offset " ++ toString days ++ " out of range"

/-- Why a run breaks off without an answer. -/
inductive Crash where
  /-- More room is asked for than any memory has. -/
  | capacity
  /-- A date was to be written in a format that asks for a time of day. -/
  | unwritable
  deriving DecidableEq, Repr

/-- The wording of a crash. -/
def Crash.message : Crash → String
  | capacity => "capacity overflow"
  | unwritable => "a Display implementation returned an error unexpectedly: Error"

namespace Field

/-- The format of dates for fields that name none. -/
def standardFormat : String := "%Y-%m-%d"

/-- How far endless repetitions in patterns go beyond their least count, for fields that
do not say. -/
def standardMaxRepeat : Nat := 32

/-- A date of a declaration. -/
def dateOf (text : String) : Except FieldFault Date :=
  (Date.parse text).mapError (.date text)

/-- The field of a declaration. -/
def ofSpec : FieldSpec → Except FieldFault Field
  | .text low high =>
    if h : low.toNat ≤ high.toNat then .ok (text low.toNat high.toNat h)
    else .error (.textRange low.toNat high.toNat)
  | .number low high =>
    if h : low.toInt ≤ high.toInt then .ok (number low.toInt high.toInt h)
    else .error (.numberRange low.toInt high.toInt)
  | .date low high format => do
    let first ← dateOf low
    let last ← dateOf high
    if h : first.number ≤ last.number then
      let written := format.getD standardFormat
      match DateFormat.parse written with
      | some f => return date first last h f
      | none => throw (.format written)
    else throw (.dateRange first last)
  | .choice values => if h : values ≠ [] then .ok (choice values h) else .error .noChoice
  | .pattern expression maxRepeat =>
    match Regex.Plan.parse expression ((maxRepeat.map UInt32.toNat).getD standardMaxRepeat) with
    | .ok plan => .ok (pattern plan)
    | .error fault => .error (.pattern expression fault)

/-- The name of a kind of field. -/
def kindName : Field → String
  | text .. => "text"
  | number .. => "number"
  | date .. => "date"
  | choice .. => "choice"
  | pattern _ => "pattern"

/-- The least position in the range. -/
def low : Field → Int
  | text minLength _ _ => minLength
  | number min _ _ => min
  | date .. | choice .. | pattern _ => 0

/-- The greatest position in the range. -/
def high : Field → Int
  | text _ maxLength _ => maxLength
  | number _ max _ => max
  | date min max _ _ => min.daysUntil max
  | choice values _ => (values.length : Int) - 1
  | pattern _ => 0

/-- No range is empty. -/
theorem low_le_high (f : Field) : f.low ≤ f.high := by
  cases f with
  | text _ _ le => simpa [low, high] using le
  | number _ _ le => simpa [low, high] using le
  | date _ _ le _ => simp only [low, high, Date.daysUntil]; omega
  | choice values h =>
    have := List.length_pos_iff.2 h
    simp only [low, high]; omega
  | pattern _ => simp [low, high]

/-- The position of a case in the range; for cases that are not boundaries, the middle. -/
def position (f : Field) : FieldCase → Int
  | .min => f.low
  | .max => f.high
  | _ => f.low + (f.high - f.low) / 2

/-- Boundaries and their positions, of those with one position only the first. -/
def distinct (f : Field) : List FieldCase → List Int → List (FieldCase × Int)
  | [], _ => []
  | c :: cs, seen =>
    if seen.contains (f.position c) then distinct f cs seen
    else (c, f.position c) :: distinct f cs (f.position c :: seen)

/-- The boundaries with different positions, from low to high. -/
def boundaries (f : Field) : List (FieldCase × Int) := f.distinct FieldCase.boundaries []

/-! ### Generation -/

/-- Why no value comes of a field. -/
inductive Failure where
  | fault (f : FieldFault)
  | crash (c : Crash)

/-- A position: that of a boundary, or one that is drawn. -/
def choose (f : Field) (w : Draw.Width) (c : FieldCase) : Draw Int :=
  if c.isBoundary then return f.position c else Draw.range w f.low f.high

/-- The length of a text. A range of one length is not drawn from. -/
def chooseLength (f : Field) (c : FieldCase) : Draw Int :=
  if f.low = f.high then return f.low else f.choose (.ofHigh f.high.toNat) c

/-- Draws characters of a set and puts them before others. -/
def drawCharacters (set : CharacterSet) : Nat → List Char → Draw (List Char)
  | 0, done => return done
  | n + 1, done => do
    let i ← Draw.index set.size
    drawCharacters set n (set.chars.getD i ' ' :: done)

/-- The greatest length of a text. -/
def lengthLimit : Nat := 0x7fff_ffff_ffff_ffff

/-- A text of the field for a case, with the characters of a set. -/
def generate (f : Field) (c : FieldCase) (set : CharacterSet) : Draw (Except Failure String) :=
  match f with
  | text .. => do
    let length := (← f.chooseLength c).toNat
    if lengthLimit < length then return .error (.crash .capacity)
    else
      let cs ← drawCharacters set length []
      return .ok (String.ofList cs.reverse)
  | number .. => do return .ok (toString (← f.choose .w128 c))
  | date first _ _ format => do
    let days ← f.choose .w64 c
    return match first.addDays? days with
      | none => .error (.fault (.offset days))
      | some d =>
        match format.render d with
        | none => .error (.crash .unwritable)
        | some s => .ok s
  | choice values _ => do
    let i ← f.choose (.ofHigh (values.length - 1)) c
    return .ok (values.getD i.toNat "")
  | pattern plan => do return .ok (← plan.sample)

end Field

end Specimen
