import Specimen.Calendar.Date

/-!
# Formats of dates

A format is a text in which a percent sign and a letter stand for a part of a date. A
hyphen, an underscore or a zero between the two says how a number is padded. Some letters
stand for parts of a time of day; they belong to the language of formats, but a date alone
has no such parts and cannot be written in a format that asks for one.

* `DateFormat.parse` reads a format; it fails on letters that stand for nothing.
* `DateFormat.render` writes a date, in just the formats of dates (`isSome_render`).
-/

namespace Specimen

/-- What stands before a number that is shorter than its width. -/
inductive Pad where
  | none
  | zero
  | space
  deriving DecidableEq, Repr

/-- A number that belongs to a date. -/
inductive DateNumber where
  | year
  /-- The year without its last two digits. -/
  | century
  /-- The last two digits of the year. -/
  | yearOfCentury
  | weekYear
  | weekYearOfCentury
  | quarter
  | month
  | day
  /-- The number of Sundays so far. -/
  | sundays
  /-- The number of Mondays so far. -/
  | mondays
  | week
  /-- The day of the week, Sunday being zero. -/
  | daysSinceSunday
  /-- The day of the week, Monday being one. -/
  | weekdayFromMonday
  | ordinal
  deriving DecidableEq, Repr

/-- A part of a format. -/
inductive DateItem where
  | literal (text : String)
  | number (of : DateNumber) (pad : Pad)
  | monthName (long : Bool)
  | weekdayName (long : Bool)
  /-- A number of a time of day. -/
  | timeNumber
  /-- Another part of a time of day, or of a time zone. -/
  | timePart
  deriving DecidableEq, Repr

/-- A format. -/
abbrev DateFormat := List DateItem

namespace DateFormat

open DateItem DateNumber

/-- Month, day and year with slashes between them. -/
def slashed : DateFormat :=
  [number month .zero, literal "/", number day .zero, literal "/", number yearOfCentury .zero]

/-- Year, month and day with hyphens between them. -/
def hyphened : DateFormat :=
  [number year .zero, literal "-", number month .zero, literal "-", number day .zero]

/-- Day, name of the month and year with hyphens between them. -/
def named : DateFormat :=
  [number day .space, literal "-", monthName false, literal "-", number year .zero]

/-- A time of day of several parts. -/
def clock : DateFormat := [timeNumber, literal ":", timeNumber]

/-- What a letter stands for. -/
def letter? : Char → Option DateFormat
  | 'A' => some [weekdayName true]
  | 'a' => some [weekdayName false]
  | 'B' => some [monthName true]
  | 'b' | 'h' => some [monthName false]
  | 'C' => some [number century .zero]
  | 'D' | 'x' => some slashed
  | 'd' => some [number day .zero]
  | 'e' => some [number day .space]
  | 'F' => some hyphened
  | 'G' => some [number weekYear .zero]
  | 'g' => some [number weekYearOfCentury .zero]
  | 'j' => some [number ordinal .zero]
  | 'm' => some [number month .zero]
  | 'n' => some [literal "\n"]
  | 'q' => some [number quarter .none]
  | 't' => some [literal "\t"]
  | 'U' => some [number sundays .zero]
  | 'u' => some [number weekdayFromMonday .none]
  | 'V' => some [number week .zero]
  | 'v' => some named
  | 'W' => some [number mondays .zero]
  | 'w' => some [number daysSinceSunday .none]
  | 'Y' => some [number year .zero]
  | 'y' => some [number yearOfCentury .zero]
  | '%' => some [literal "%"]
  | 'H' | 'I' | 'M' | 'S' | 'f' | 'k' | 'l' | 's' => some [timeNumber]
  | 'P' | 'p' | 'Z' | 'z' | '+' => some [timePart]
  | 'R' | 'T' | 'X' | 'c' | 'r' => some clock
  | _ => none

/-- The same part of a format with another padding. Only a number by itself has one. -/
def repadded (pad : Pad) : DateFormat → Option DateFormat
  | [number n _] => some [number n pad]
  | [timeNumber] => some [timeNumber]
  | _ => none

/-- The padding that a character between the percent sign and the letter stands for. -/
def pad? : Char → Option Pad
  | '-' => some .none
  | '0' => some .zero
  | '_' => some .space
  | _ => none

/-- What stands behind a percent sign and, if there is one, a padding: the part of the
format and the text after it. A few parts are written with several characters. -/
def unpadded : List Char → Option (DateFormat × List Char)
  | ':' :: ':' :: ':' :: 'z' :: cs => some ([timePart], cs)
  | ':' :: ':' :: 'z' :: cs => some ([timePart], cs)
  | ':' :: 'z' :: cs => some ([timePart], cs)
  | '.' :: 'f' :: cs => some ([timePart], cs)
  | '.' :: d :: 'f' :: cs =>
    if d = '3' ∨ d = '6' ∨ d = '9' then some ([timePart], cs) else none
  | d :: 'f' :: cs =>
    if d = '3' ∨ d = '6' ∨ d = '9' then some ([timePart], cs)
    else (letter? d).map fun items => (items, 'f' :: cs)
  | c :: cs => (letter? c).map fun items => (items, cs)
  | [] => none

/-- What stands behind a percent sign. -/
def specifier : List Char → Option (DateFormat × List Char)
  | '#' :: 'z' :: cs => some ([timePart], cs)
  | c :: cs =>
    match pad? c with
    | some pad => do
      let (items, rest) ← unpadded cs
      return (← repadded pad items, rest)
    | none => unpadded (c :: cs)
  | [] => none

/-- The format that characters stand for. The fuel is their number. -/
def parseWithin : Nat → List Char → Option DateFormat
  | 0, _ | _, [] => some []
  | fuel + 1, '%' :: cs => do
    let (items, rest) ← specifier cs
    return items ++ (← parseWithin fuel rest)
  | fuel + 1, c :: cs => do return literal c.toString :: (← parseWithin fuel cs)

/-- The format that a text stands for; none when a percent sign stands before something
else than a specifier. -/
def parse (s : String) : Option DateFormat := parseWithin s.length s.toList

/-! ### Writing -/

/-- The names of the months. -/
def monthNames : List String := ["January", "February", "March", "April", "May", "June",
  "July", "August", "September", "October", "November", "December"]

/-- The names of the days of the week, from Monday on. -/
def weekdayNames : List String :=
  ["Monday", "Tuesday", "Wednesday", "Thursday", "Friday", "Saturday", "Sunday"]

/-- A name, or its first three letters. -/
def nameText (names : List String) (long : Bool) (i : Int) : String :=
  let name := names.getD i.toNat ""
  if long then name else String.ofList (name.toList.take 3)

/-- A byte in two characters. The character for the tens goes on after the nine with those
that follow it among all characters. -/
def twoDigits (pad : Pad) (n : Int) : String :=
  let byte := (n % 256).toNat
  let tens := match byte / 10, pad with
    | 0, .none => ""
    | 0, .space => " "
    | t, _ => (Char.ofNat ('0'.toNat + t)).toString
  tens ++ (Char.ofNat ('0'.toNat + byte % 10)).toString

/-- A number of a width, with its sign if that is wanted. -/
def wide (pad : Pad) (width : Nat) (signed : Bool) (n : Int) : String :=
  let sign := if n < 0 then "-" else if signed then "+" else ""
  let digits := toString n.natAbs
  let missing (c : Char) := String.ofList (List.replicate (width - sign.length - digits.length) c)
  match pad with
  | .none => sign ++ digits
  | .zero => sign ++ missing '0' ++ digits
  | .space => missing ' ' ++ sign ++ digits

/-- A year of four digits, or of more with a sign. -/
def yearText (pad : Pad) (year : Int) : String :=
  if 0 ≤ year ∧ year < 10000 then wide pad 4 false year else wide pad 5 true year

/-- A number of a date. -/
def numberText (d : Date) (pad : Pad) : DateNumber → String
  | year => yearText pad d.civil.year
  | century => twoDigits pad (d.civil.year / 100)
  | yearOfCentury => twoDigits pad (d.civil.year % 100)
  | weekYear => yearText pad d.weekYear
  | weekYearOfCentury => twoDigits pad (d.weekYear % 100)
  | quarter => toString ((d.civil.month - 1) / 3 + 1)
  | month => twoDigits pad d.civil.month
  | day => twoDigits pad d.civil.day
  | sundays => twoDigits pad (d.weeksBegun ((d.weekday + 1) % 7))
  | mondays => twoDigits pad (d.weeksBegun d.weekday)
  | week => twoDigits pad d.week
  | daysSinceSunday => toString ((d.weekday + 1) % 7)
  | weekdayFromMonday => toString (d.weekday + 1)
  | ordinal => wide pad 3 false d.ordinal

/-- One part of a date; none when a date does not have it. -/
def itemText (d : Date) : DateItem → Option String
  | literal text => some text
  | number n pad => some (numberText d pad n)
  | monthName long => some (nameText monthNames long (d.civil.month - 1))
  | weekdayName long => some (nameText weekdayNames long d.weekday)
  | timeNumber | timePart => none

/-- A date in a format; none when the format asks for a time of day. -/
def render (f : DateFormat) (d : Date) : Option String :=
  (f.mapM (itemText d)).map String.join

/-- True when the format asks for parts of a date only. -/
def isOfDates (f : DateFormat) : Bool :=
  f.all fun
    | timeNumber | timePart => false
    | _ => true

/-- A date can be written in just the formats that ask for parts of a date only. -/
theorem isSome_render (f : DateFormat) (d : Date) : (render f d).isSome = isOfDates f := by
  rw [render, Option.isSome_map]
  induction f with
  | nil => rfl
  | cons item f ih =>
    have hf : isOfDates (item :: f) = ((itemText d item).isSome && isOfDates f) := by
      cases item <;> rfl
    rw [hf, ← ih, List.mapM_cons]
    cases itemText d item <;> cases List.mapM (itemText d) f <;> rfl

end DateFormat

end Specimen
