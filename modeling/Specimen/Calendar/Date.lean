import Specimen.Text.White

/-!
# Days of the calendar

A date is a day of the Gregorian calendar, carried on into the past and the future without
end; 262143 years before and 262142 after the year zero are in range. A date is kept as its
number among all days, which makes adding days, counting the days between two dates and
finding the day of the week plain arithmetic. Day zero is the first of March of the year
zero, a Wednesday: when years begin in March, leap days stand at their ends.

* `Civil.number` and `Date.civil` go from year, month and day to the number and back.
* `Date.parse` reads a date and `Date.text` writes it.
-/

namespace Specimen

/-- A year, a month and a day. -/
structure Civil where
  year : Int
  month : Int
  day : Int
  deriving DecidableEq, Repr, Inhabited

namespace Civil

/-- The number of the day. -/
def number (c : Civil) : Int :=
  let year := if c.month ≤ 2 then c.year - 1 else c.year
  let ofCycle := year % 400
  let month := (c.month + 9) % 12
  let ofYear := (153 * month + 2) / 5 + c.day - 1
  (year / 400) * 146097 + ofCycle * 365 + ofCycle / 4 - ofCycle / 100 + ofYear

/-- True for leap years. -/
def isLeap (year : Int) : Bool := year % 4 == 0 && (year % 100 != 0 || year % 400 == 0)

/-- The number of days of a month. -/
def monthLength (year month : Int) : Int :=
  if month = 2 then (if isLeap year then 29 else 28)
  else if month = 4 ∨ month = 6 ∨ month = 9 ∨ month = 11 then 30
  else 31

/-- True when there is such a day. -/
def isValid (c : Civil) : Bool :=
  1 ≤ c.month && c.month ≤ 12 && 1 ≤ c.day && c.day ≤ monthLength c.year c.month

/-- The day with a number. -/
def ofNumber (n : Int) : Civil :=
  let ofCycle := n % 146097
  let year := (ofCycle - ofCycle / 1460 + ofCycle / 36524 - ofCycle / 146096) / 365
  let ofYear := ofCycle - (365 * year + year / 4 - year / 100)
  let month := (5 * ofYear + 2) / 153
  let day := ofYear - (153 * month + 2) / 5 + 1
  let year := year + 400 * (n / 146097)
  if month < 10 then ⟨year, month + 3, day⟩ else ⟨year + 1, month - 9, day⟩

end Civil

/-- A day that is in range. -/
structure Date where
  /-- The number of the day among all days. -/
  number : Int
  inRange : Civil.number ⟨-262143, 1, 1⟩ ≤ number ∧ number ≤ Civil.number ⟨262142, 12, 31⟩
  deriving DecidableEq, Repr

/-- Why a text is not a date. -/
inductive DateFault where
  | outOfRange
  | invalid
  | tooShort
  | tooLong
  deriving DecidableEq, Repr

/-- The wording of a fault. -/
def DateFault.message : DateFault → String
  | outOfRange => "input is out of range"
  | invalid => "input contains invalid characters"
  | tooShort => "premature end of input"
  | tooLong => "trailing input"

namespace Date

/-- The date with a number. -/
def ofNumber? (n : Int) : Option Date :=
  if h : Civil.number ⟨-262143, 1, 1⟩ ≤ n ∧ n ≤ Civil.number ⟨262142, 12, 31⟩ then
    some ⟨n, h⟩
  else none

/-- The date of a year, month and day. -/
def ofCivil? (c : Civil) : Option Date := if c.isValid then ofNumber? c.number else none

/-- The year, month and day. -/
def civil (d : Date) : Civil := .ofNumber d.number

/-- The date a number of days later. -/
def addDays? (d : Date) (n : Int) : Option Date := ofNumber? (d.number + n)

/-- The number of days from one date to another. -/
def daysUntil (d e : Date) : Int := e.number - d.number

instance : LT Date := ⟨fun d e => d.number < e.number⟩

instance (d e : Date) : Decidable (d < e) := inferInstanceAs (Decidable (d.number < e.number))

/-- The number of days since the last Monday: zero on Mondays. -/
def weekday (d : Date) : Int := (d.number + 2) % 7

/-- The place of the day in its year, from one on. -/
def ordinal (d : Date) : Int := d.number - Civil.number ⟨d.civil.year, 1, 1⟩ + 1

/-- The year to which the week of the day belongs: that of its Thursday. -/
def weekYear (d : Date) : Int := (Civil.ofNumber (d.number - d.weekday + 3)).year

/-- The place of the week in the year to which it belongs, from one on. -/
def week (d : Date) : Int :=
  (d.number - d.weekday + 3 - Civil.number ⟨d.weekYear, 1, 1⟩) / 7 + 1

/-- The number of weeks of the year that have begun, when weeks begin on the day that is
`sinceFirst` days back. -/
def weeksBegun (d : Date) (sinceFirst : Int) : Int := (d.ordinal - sinceFirst + 6) / 7

/-! ### Writing -/

/-- A number with zeros before it up to a width. -/
def padded (width : Nat) (n : Nat) : String :=
  let digits := toString n
  String.ofList (List.replicate (width - digits.length) '0') ++ digits

/-- A year: four digits, with a sign when it does not fit in them. -/
def yearText (year : Int) : String :=
  if 0 ≤ year ∧ year ≤ 9999 then padded 4 year.toNat
  else (if year < 0 then "-" else "+") ++ padded 4 year.natAbs

/-- A date as year, month and day. -/
def text (d : Date) : String :=
  let c := d.civil
  yearText c.year ++ "-" ++ padded 2 c.month.toNat ++ "-" ++ padded 2 c.day.toNat

/-! ### Reading -/

/-- The greatest signed number of 64 bits. -/
def numberLimit : Nat := 0x7fff_ffff_ffff_ffff

/-- The digits at the front of a text, at most `width` of them: their value and the
rest. -/
def takeDigits : Nat → Nat → List Char → Except DateFault (Nat × List Char)
  | 0, n, cs => .ok (n, cs)
  | _, n, [] => .ok (n, [])
  | width + 1, n, c :: cs =>
    if c.isDigit then
      let n := 10 * n + (c.toNat - '0'.toNat)
      if numberLimit < n then .error .outOfRange else takeDigits width n cs
    else .ok (n, c :: cs)

/-- A number of one to `width` digits. -/
def takeNumber (width : Nat) : List Char → Except DateFault (Nat × List Char)
  | [] => .error .tooShort
  | c :: cs => if c.isDigit then takeDigits width 0 (c :: cs) else .error .invalid

/-- A year: at most four digits, or a sign and any number of them. -/
def takeYear (cs : List Char) : Except DateFault (Int × List Char) := do
  let (year, rest) ← match Text.trimStart cs with
    | '-' :: ds => do
      let (n, rest) ← takeNumber ds.length ds
      pure (-(n : Int), rest)
    | '+' :: ds => do
      let (n, rest) ← takeNumber ds.length ds
      pure ((n : Int), rest)
    | ds => do
      let (n, rest) ← takeNumber 4 ds
      pure ((n : Int), rest)
  if -0x8000_0000 ≤ year ∧ year < 0x8000_0000 then return (year, rest) else throw .outOfRange

/-- A number of one or two digits from one up to a greatest value. -/
def takePart (greatest : Nat) (cs : List Char) : Except DateFault (Int × List Char) := do
  let (n, rest) ← takeNumber 2 (Text.trimStart cs)
  if 1 ≤ n ∧ n ≤ greatest then return ((n : Int), rest) else throw .outOfRange

/-- The hyphen between two numbers. -/
def takeHyphen : List Char → Except DateFault (List Char)
  | [] => .error .tooShort
  | c :: cs => if c = '-' then .ok cs else .error .invalid

/-- The date that a text of year, month and day stands for. White space may stand before
each number. -/
def parse (s : String) : Except DateFault Date := do
  let (year, cs) ← takeYear s.toList
  let cs ← takeHyphen cs
  let (month, cs) ← takePart 12 cs
  let cs ← takeHyphen cs
  let (day, cs) ← takePart 31 cs
  if cs.isEmpty then
    match ofCivil? ⟨year, month, day⟩ with
    | some d => return d
    | none => throw .outOfRange
  else throw .tooLong

end Date

end Specimen
