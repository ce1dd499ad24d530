import Specimen.Calendar.Date
import Specimen.Toml.Table
import Specimen.Toml.Take

/-!
# Reading settings files

A settings file is a sequence of lines: headers, which open a table, and names with their
values, which go into the table that is open. `Toml.parse` answers the whole table, or
nothing if the text is not a settings file.

Values nest less than `depthLimit` deep, and a dotted name has fewer parts than that.
-/

namespace Specimen.Toml

open Take

/-- How deep values nest. -/
def depthLimit : Nat := 80

/-! ### Space and lines -/

/-- White space within a line. -/
def isBlank (c : Char) : Bool := c = ' ' || c = '\t'

/-- Characters that stand for themselves in comments and texts. -/
def isPlain (c : Char) : Bool := c = '\t' || (0x20 ≤ c.toNat && c.toNat ≠ 0x7F)

/-- White space within a line, if any. -/
def blanks : Take Unit := do
  let _ ← many isBlank

/-- The end of a line. -/
def newline : Take Unit := orElse (char '\n') (word ['\r', '\n'])

/-- A comment, up to the end of the line. -/
def comment : Take Unit := do
  char '#'
  let _ ← many isPlain

/-- What may stand behind the last thing on a line. -/
def lineEnd : Take Unit := do
  blanks
  let _ ← option comment
  if (← peek).isSome then newline

/-- White space, comments and ends of lines, as far as they go. -/
def gaps : Take Unit := do go (← fuel)
where
  /-- At most as many as the fuel says. -/
  go : Nat → Take Unit
    | 0 => return
    | fuel + 1 => do
      blanks
      match ← peek with
      | some '#' =>
        comment
        newline
        go fuel
      | some '\n' | some '\r' =>
        newline
        go fuel
      | _ => return

/-! ### Texts -/

/-- The value of hexadecimal digits. -/
def hexValue (cs : List Char) : Nat :=
  cs.foldl (fun n c => 16 * n + (if c.isDigit then c.toNat - 48 else c.toLower.toNat - 87)) 0

/-- True for hexadecimal digits. -/
def isHexDigit (c : Char) : Bool :=
  c.isDigit || ('a' ≤ c && c ≤ 'f') || ('A' ≤ c && c ≤ 'F')

/-- A character given by a number of hexadecimal digits. -/
def numbered (digits : Nat) : Take Char := do
  let cs ← (List.range digits).mapM fun _ => oneOf isHexDigit
  let n := hexValue cs
  if Nat.isValidChar n then return Char.ofNat n else fail

/-- What an escape stands for, behind the backslash. -/
def escaped : Take Char := do
  match ← next with
  | 'b' => return '\x08'
  | 'f' => return '\x0c'
  | 'n' => return '\n'
  | 'r' => return '\r'
  | 't' => return '\t'
  | '"' => return '"'
  | '\\' => return '\\'
  | 'u' => numbered 4
  | 'U' => numbered 8
  | _ => fail

/-- The rest of a text in quotes on one line. -/
def quotedBody : Nat → List Char → Take String
  | 0, _ => fail
  | fuel + 1, done => do
    match ← next with
    | '"' => return String.ofList done.reverse
    | '\\' => quotedBody fuel ((← escaped) :: done)
    | c => if isPlain c then quotedBody fuel (c :: done) else fail

/-- A text in quotes on one line. -/
def quoted : Take String := do
  char '"'
  quotedBody (← fuel) []

/-- A text in apostrophes on one line. -/
def literal : Take String := do
  char '\''
  let cs ← many fun c => isPlain c && c ≠ '\''
  char '\''
  return String.ofList cs

/-- Closing marks of a text over several lines: three, and up to two of its own before. -/
def closing (mark : Char) (done : List Char) : Take String := do
  let marks ← many (· = mark)
  if 3 ≤ marks.length ∧ marks.length ≤ 5 then
    return String.ofList (done.reverse ++ marks.drop 3)
  else fail

/-- Skips a backslash at the end of a line and all white space from there on. -/
def joinedLines : Take Unit := do
  blanks
  newline
  let _ ← written (gapsOnly (← fuel))
where
  /-- White space and ends of lines. -/
  gapsOnly : Nat → Take Unit
    | 0 => return
    | fuel + 1 => do
      blanks
      match ← option newline with
      | some _ => gapsOnly fuel
      | none => return

/-- The rest of a text in three quotes, which goes over several lines. -/
def quotedLines : Nat → List Char → Take String
  | 0, _ => fail
  | fuel + 1, done => do
    match ← peek with
    | none => fail
    | some '"' =>
      let cs ← get
      if (cs.takeWhile (· = '"')).length < 3 then
        char '"'
        quotedLines fuel ('"' :: done)
      else closing '"' done
    | some '\\' =>
      char '\\'
      match ← option joinedLines with
      | some _ => quotedLines fuel done
      | none => quotedLines fuel ((← escaped) :: done)
    | some c =>
      match ← option newline with
      | some _ => quotedLines fuel ('\n' :: done)
      | none =>
        let _ ← oneOf isPlain
        quotedLines fuel (c :: done)

/-- The rest of a text in three apostrophes, which goes over several lines. -/
def literalLines : Nat → List Char → Take String
  | 0, _ => fail
  | fuel + 1, done => do
    match ← peek with
    | none => fail
    | some '\'' =>
      let cs ← get
      if (cs.takeWhile (· = '\'')).length < 3 then
        char '\''
        literalLines fuel ('\'' :: done)
      else closing '\'' done
    | some c =>
      match ← option newline with
      | some _ => literalLines fuel ('\n' :: done)
      | none =>
        let _ ← oneOf isPlain
        literalLines fuel (c :: done)

/-- A text of any form. -/
def anyText : Take String := do
  if ← skips ['"', '"', '"'] then
    let _ ← option newline
    quotedLines (← fuel) []
  else if ← skips ['\'', '\'', '\''] then
    let _ ← option newline
    literalLines (← fuel) []
  else orElse quoted literal

/-! ### Names -/

/-- Characters of names without quotes. -/
def isBare (c : Char) : Bool := c.isAlphanum || c = '_' || c = '-'

/-- One part of a name. -/
def namePart : Take String := do
  match ← peek with
  | some '"' => quoted
  | some '\'' => literal
  | _ => return String.ofList (← atLeastOne isBare)

/-- A dotted name: the parts before the last one, and that. -/
def name : Take (List String × String) := do
  let parts ← go (← fuel)
  match parts.getLast? with
  | some last => if parts.length < depthLimit then return (parts.dropLast, last) else fail
  | none => fail
where
  /-- The parts from here on. -/
  go : Nat → Take (List String)
    | 0 => fail
    | fuel + 1 => do
      blanks
      let part ← namePart
      blanks
      if ← skips ['.'] then return part :: (← go fuel) else return [part]

/-! ### Numbers -/

/-- Digits with single underscores between them, given the first. -/
def digitsBehind (kind : Char → Bool) (first : Char) : Take (List Char) := do
  return first :: (← go (← fuel))
where
  /-- The digits from here on. -/
  go : Nat → Take (List Char)
    | 0 => return []
    | fuel + 1 => do
      match ← peek with
      | some '_' =>
        char '_'
        let d ← oneOf kind
        return d :: (← go fuel)
      | some c =>
        if kind c then
          char c
          return c :: (← go fuel)
        else return []
      | none => return []

/-- Digits with single underscores between them. -/
def digits (kind : Char → Bool) : Take (List Char) := do digitsBehind kind (← oneOf kind)

/-- The value of digits in a base. -/
def valueOf (base : Nat) (cs : List Char) : Nat := cs.foldl (fun n c => base * n + hexValue [c]) 0

/-- A sign, true for minus. -/
def sign : Take Bool := do
  if ← skips ['-'] then return true
  else
    let _ ← skips ['+']
    return false

/-- Decimal digits without a leading zero. -/
def decimal : Take (List Char) := do
  match ← oneOf Char.isDigit with
  | '0' => return ['0']
  | c => digitsBehind Char.isDigit c

/-- An integer of the signed 64-bit range. -/
def within64 (i : Int) : Take Toml :=
  if -0x8000_0000_0000_0000 ≤ i ∧ i < 0x8000_0000_0000_0000 then return .integer i else fail

/-- An integer in any base. -/
def anyInteger : Take Toml := do
  if ← skips ['0', 'x'] then within64 (valueOf 16 (← digits isHexDigit))
  else if ← skips ['0', 'o'] then within64 (valueOf 8 (← digits fun c => '0' ≤ c && c ≤ '7'))
  else if ← skips ['0', 'b'] then within64 (valueOf 2 (← digits fun c => c = '0' || c = '1'))
  else
    let negative ← sign
    let n : Int := valueOf 10 (← decimal)
    within64 (if negative then -n else n)

/-- An exponent. -/
def exponent : Take Unit := do
  let _ ← oneOf fun c => c = 'e' || c = 'E'
  let _ ← sign
  let _ ← digits Char.isDigit

/-- A number with a fraction, an exponent or both, or one that is not finite. -/
def anyFloat : Take Toml := do
  let cs ← written do
    let _ ← sign
    if ← skips "inf".toList then return
    if ← skips "nan".toList then return
    let _ ← decimal
    if ← skips ['.'] then
      let _ ← digits Char.isDigit
      let _ ← option exponent
    else exponent
  return .float (String.ofList cs)

/-! ### Dates and times -/

/-- A number of two digits in a range. -/
def twoDigits (low high : Nat) : Take Unit := do
  let a ← oneOf Char.isDigit
  let b ← oneOf Char.isDigit
  let n := valueOf 10 [a, b]
  if low ≤ n ∧ n ≤ high then return else fail

/-- A day. -/
def day : Take Unit := do
  let cs ← written do
    for _ in List.range 4 do
      let _ ← oneOf Char.isDigit
    char '-'
    twoDigits 1 12
    char '-'
    twoDigits 1 31
  match Date.parse (String.ofList cs) with
  | .ok _ => return
  | .error _ => fail

/-- A time of the day. -/
def time : Take Unit := do
  twoDigits 0 23
  char ':'
  twoDigits 0 59
  char ':'
  twoDigits 0 60
  let _ ← option do
    char '.'
    let _ ← atLeastOne Char.isDigit

/-- The distance of a time from the standard one. -/
def offset : Take Unit := do
  match ← next with
  | 'Z' | 'z' => return
  | '+' | '-' =>
    twoDigits 0 23
    char ':'
    twoDigits 0 59
  | _ => fail

/-- A date, a time, or both. -/
def anyMoment : Take Toml := do
  let cs ← written (orElse dated time)
  return .moment (String.ofList cs)
where
  /-- A day, with a time behind it or not. -/
  dated : Take Unit := do
    day
    let _ ← option do
      let _ ← oneOf fun c => c = 'T' || c = 't' || c = ' '
      time
      let _ ← option offset

/-! ### Values -/

/-- Values with commas between them and one behind the last if need be, up to the closing
bracket. -/
def arrayItems (value : Take Toml) : Nat → Take (List Toml)
  | 0 => fail
  | fuel + 1 => do
    gaps
    if ← skips [']'] then return []
    let item ← value
    gaps
    if ← skips [','] then return item :: (← arrayItems value fuel)
    char ']'
    return [item]

/-- A name and its value. -/
def assignment (value : Take Toml) : Take (List String × String × Toml) := do
  let (names, last) ← name
  char '='
  blanks
  let v ← value
  return (names, last, v)

/-- Names with values, with commas between them, up to the closing brace. -/
def inlineEntries (value : Take Toml) : Nat → Take (List (List String × String × Toml))
  | 0 => fail
  | fuel + 1 => do
    let e ← assignment value
    blanks
    if ← skips [','] then return e :: (← inlineEntries value fuel)
    char '\x7d'
    return [e]

/-- A value that nests less deep than the fuel says. -/
def valueWithin : Nat → Take Toml
  | 0 => fail
  | depth + 1 => do
    match ← peek with
    | some '"' | some '\'' => return .text (← anyText)
    | some '[' =>
      char '['
      return .array (← arrayItems (valueWithin depth) (← fuel))
    | some '\x7b' =>
      char '\x7b'
      blanks
      if ← skips ['\x7d'] then return .table .defined []
      match putAll [] (← inlineEntries (valueWithin depth) (← fuel)) with
      | some es => return .table .defined es
      | none => fail
    | some 't' =>
      word "true".toList
      return .bool true
    | some 'f' =>
      word "false".toList
      return .bool false
    | _ => orElse anyMoment (orElse anyFloat anyInteger)

/-- A value. -/
def value : Take Toml := valueWithin depthLimit

/-! ### Whole files -/

/-- A file, as far as it has been read. -/
structure Reading where
  /-- The tables that are complete. -/
  root : Entries
  /-- The names of the open table; none for the outermost. -/
  names : Option (List String × String)
  /-- True when the open table is one of several under its names. -/
  isListed : Bool
  /-- The open table. -/
  entries : Entries

namespace Reading

/-- The front of a file. -/
def start : Reading := ⟨[], none, false, []⟩

/-- Changes the table that names lead to, from the outermost one on. -/
def changed (root : Entries) (names : List String) (change : Entries → Option Entries) :
    Option Entries := do
  match ← within .implied (fun o es => return .table o (← change es)) names .defined root with
  | .table _ es => return es
  | _ => none

/-- The tables with the open one put in its place. -/
def closed (r : Reading) : Option Entries :=
  let table : Toml := .table .defined r.entries
  match r.names with
  | none => some r.entries
  | some (names, last) => changed r.root names fun es =>
    match es.lookup last, r.isListed with
    | none, true => some (es ++ [(last, .tables [table])])
    | some (.tables ts), true => some (replace last (.tables (ts ++ [table])) es)
    | none, false => some (es ++ [(last, table)])
    | _, _ => none

/-- Opens a table under a header. A table that so far only names of other headers led to
keeps its entries. -/
def opened (r : Reading) (names : List String) (last : String) : Option Reading := do
  let root ← changed (← r.closed) names some
  let before ← (peekAt root names).bind fun es =>
    match es.lookup last with
    | none => some []
    | some (.table .implied inner) => some inner
    | some _ => none
  let root ← changed root names fun es => some (remove last es)
  return ⟨root, some (names, last), false, before⟩
where
  /-- The entries of the table that names lead to. -/
  peekAt (root : Entries) : List String → Option Entries
    | [] => some root
    | name :: names =>
      match root.lookup name with
      | some (.table _ es) => peekAt es names
      | some (.tables ts) =>
        match ts.getLast? with
        | some (.table _ es) => peekAt es names
        | _ => none
      | _ => none

/-- Opens one more table under a header in double brackets. -/
def openedListed (r : Reading) (names : List String) (last : String) : Option Reading := do
  let root ← changed (← r.closed) names fun es =>
    match es.lookup last with
    | none | some (.tables _) => some es
    | some _ => none
  return ⟨root, some (names, last), true, []⟩

/-- Puts a value under a dotted name into the open table. -/
def put (r : Reading) (names : List String) (last : String) (v : Toml) : Option Reading := do
  match ← putDotted names last v .defined r.entries with
  | .table _ es => return { r with entries := es }
  | _ => none

end Reading

/-- Lines from here on. -/
def lines : Nat → Reading → Take Reading
  | 0, _ => fail
  | fuel + 1, r => do
    blanks
    match ← peek with
    | none => return r
    | some '[' =>
      let isListed ← skips ['[', '[']
      if !isListed then char '['
      let (names, last) ← name
      word (if isListed then [']', ']'] else [']'])
      lineEnd
      match if isListed then r.openedListed names last else r.opened names last with
      | some r => lines fuel r
      | none => fail
    | some '#' | some '\n' | some '\r' =>
      lineEnd
      lines fuel r
    | some _ =>
      let (names, last, v) ← assignment value
      lineEnd
      match r.put names last v with
      | some r => lines fuel r
      | none => fail

/-- The table that a text stands for. -/
def parse (s : String) : Option Entries := do
  let r ← runAll (do
    let _ ← option (char '\uFEFF')
    lines (← fuel) .start) s
  r.closed

end Specimen.Toml
