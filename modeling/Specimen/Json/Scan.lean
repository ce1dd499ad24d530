import Specimen.Json.Basic
import Specimen.Json.Mismatch

/-!
# Reading documents from text

A reader walks a text from left to right. It keeps the characters that are left, the
number of bytes behind it and how many more brackets may be opened, and it stops at the
first fault. A fault of the text has a place, from which the line and column of its
message follow; a mismatch between a document and the expected form gets the place at
which the reader stands when it leaves the value it could not use.

* `Scan.value` reads one document, `Scan.skip` passes over one without looking at more
  than its outline.
* `Scan.items` and `Scan.entries` read what stands between brackets, given a reader of one
  item; everything that reads an array or object goes through them.
* `Json.parse` reads a whole text.
-/

namespace Specimen

/-- What is wrong with a text that should be a document. -/
inductive TextFault where
  | endInList
  | endInObject
  | endInString
  | endInValue
  | expectedColon
  | expectedListCommaOrEnd
  | expectedObjectCommaOrEnd
  | expectedIdent
  | expectedValue
  | invalidEscape
  | invalidNumber
  | numberOutOfRange
  | controlCharacter
  | keyMustBeString
  | loneLeadingSurrogate
  | trailingComma
  | trailingCharacters
  | unexpectedEndOfHexEscape
  | depthLimit
  deriving DecidableEq, Repr

/-- The wording of a fault. -/
def TextFault.message : TextFault → String
  | endInList => "EOF while parsing a list"
  | endInObject => "EOF while parsing an object"
  | endInString => "EOF while parsing a string"
  | endInValue => "EOF while parsing a value"
  | expectedColon => "expected `:`"
  | expectedListCommaOrEnd => "expected `,` or `]`"
  | expectedObjectCommaOrEnd => "expected `,` or `\x7d`"
  | expectedIdent => "expected ident"
  | expectedValue => "expected value"
  | invalidEscape => "invalid escape"
  | invalidNumber => "invalid number"
  | numberOutOfRange => "number out of range"
  | controlCharacter => "control character (\\u0000-\\u001F) found while parsing a string"
  | keyMustBeString => "key must be a string"
  | loneLeadingSurrogate => "lone leading surrogate in hex escape"
  | trailingComma => "trailing comma"
  | trailingCharacters => "trailing characters"
  | unexpectedEndOfHexEscape => "unexpected end of hex escape"
  | depthLimit => "recursion limit exceeded"

/-- Why reading stopped: a fault of the text or a mismatch, which may not have a place
yet. Places count bytes. -/
inductive ReadFault where
  | text (fault : TextFault) (place : Nat)
  | mismatch (cause : Mismatch) (place : Option Nat)
  deriving DecidableEq, Repr

/-- The line of a place and the bytes before it on that line; lines count from one. -/
def lineAndColumn (text : String) (place : Nat) : Nat × Nat :=
  go 1 0 place text.toList
where
  /-- The answer for the text from here on. -/
  go (line column : Nat) : Nat → List Char → Nat × Nat
    | 0, _ | _, [] => (line, column)
    | left, c :: cs =>
      let size := c.utf8Size
      if left < size then (line, column + left)
      else if c = '\n' then go (line + 1) 0 (left - size) cs
      else go line (column + size) (left - size) cs

/-- The wording of a fault in a text. -/
def ReadFault.message (text : String) (fault : ReadFault) : String :=
  let placed (message : String) (place : Nat) :=
    let (line, column) := lineAndColumn text place
    message ++ " at line " ++ toString line ++ " column " ++ toString column
  match fault with
  | .text cause place => placed cause.message place
  | .mismatch cause (some place) => placed cause.message place
  | .mismatch cause none => cause.message

/-- A place in a text. -/
structure Cursor where
  /-- The characters that are left. -/
  rest : List Char
  /-- The bytes behind. -/
  offset : Nat
  /-- How many brackets may still be opened, plus one. -/
  depth : Nat
  deriving Repr

namespace Cursor

/-- The front of a text. Brackets nest up to 127 deep. -/
def start (text : String) : Cursor := ⟨text.toList, 0, 128⟩

/-- The place of a fault that is found by looking at the next byte. -/
def peekPlace (c : Cursor) : Nat := if c.rest.isEmpty then c.offset else c.offset + 1

/-- The cursor behind one more character. -/
def advance (c : Cursor) : Cursor :=
  match c.rest with
  | [] => c
  | x :: rest => { c with rest := rest, offset := c.offset + x.utf8Size }

/-- White space of documents. -/
def isBlank (x : Char) : Bool := x = ' ' || x = '\n' || x = '\t' || x = '\r'

/-- The cursor behind the white space that follows. -/
def skipBlank (c : Cursor) : Cursor :=
  let blank := c.rest.takeWhile isBlank
  { c with rest := c.rest.dropWhile isBlank, offset := c.offset + blank.length }

end Cursor

/-- A reader: an answer or a fault, and the place after it in both cases. -/
abbrev Scan := ExceptT ReadFault (StateM Cursor)

namespace Scan

/-- Stops with a fault at a place. -/
def failAt {α : Type} (fault : TextFault) (place : Nat) : Scan α := throw (.text fault place)

/-- Stops with a fault at the place of the cursor. -/
def fail {α : Type} (fault : TextFault) : Scan α := do failAt fault (← get).offset

/-- Stops with a fault of the next byte. -/
def failPeek {α : Type} (fault : TextFault) : Scan α := do failAt fault (← get).peekPlace

/-- Stops because the document is not of the expected form. -/
def mismatch {α : Type} (cause : Mismatch) : Scan α := throw (.mismatch cause none)

/-- The next character, which stays. -/
def peek : Scan (Option Char) := return (← get).rest.head?

/-- Takes the next character. -/
def eat : Scan Unit := modify Cursor.advance

/-- The next character, which is taken. -/
def next : Scan (Option Char) := do
  let c ← peek
  eat
  return c

/-- The next character behind white space, which stays. -/
def peekToken : Scan (Option Char) := do
  modify Cursor.skipBlank
  peek

/-- Runs a reader and gives a mismatch without a place the one where the reader left. -/
def placed {α : Type} (scan : Scan α) : Scan α :=
  tryCatch scan fun
    | .mismatch cause none => do throw (.mismatch cause (some (← get).offset))
    | fault => throw fault

/-- Runs a reader whatever comes of it, then another one, and answers the fault of the
first, or else that of the second. -/
def thenAlways {α : Type} (scan : Scan α) (close : Scan Unit) : Scan α := do
  let first ← observing scan
  let second ← observing close
  match first, second with
  | .ok a, .ok () => return a
  | .error fault, _ => throw fault
  | _, .error fault => throw fault
where
  /-- A reader with its fault as an answer. -/
  observing {β : Type} (scan : Scan β) : Scan (Except ReadFault β) :=
    tryCatch (return .ok (← scan)) fun fault => return .error fault

/-! ### Words -/

/-- Takes the given characters. -/
def word : List Char → Scan Unit
  | [] => return ()
  | expected :: more => do
    match ← next with
    | none => fail .endInValue
    | some c =>
      if c = expected then word more
      else
        -- the fault stands behind the first byte of the wrong character
        failAt .expectedIdent ((← get).offset + 1 - c.utf8Size)

/-! ### Strings -/

/-- The value of a hexadecimal digit. -/
def hexValue? (c : Char) : Option Nat :=
  if '0' ≤ c ∧ c ≤ '9' then some (c.toNat - '0'.toNat)
  else if 'a' ≤ c ∧ c ≤ 'f' then some (c.toNat - 'a'.toNat + 10)
  else if 'A' ≤ c ∧ c ≤ 'F' then some (c.toNat - 'A'.toNat + 10)
  else none

/-- Takes four hexadecimal digits. -/
def fourHexDigits : Scan Nat := do
  let here := (← get).offset
  let digits := (← get).rest.take 4
  let size := digits.foldl (fun n c => n + c.utf8Size) 0
  if size < 4 then failAt .endInString (here + size)
  else
    match digits.mapM hexValue? with
    | some [a, b, c, d] =>
      eat; eat; eat; eat
      return ((a * 16 + b) * 16 + c) * 16 + d
    | _ => failAt .invalidEscape (here + 4)

/-- The character of a one-letter escape. -/
def shortEscape? : Char → Option Char
  | '"' => some '"'
  | '\\' => some '\\'
  | '/' => some '/'
  | 'b' => some '\x08'
  | 'f' => some '\x0c'
  | 'n' => some '\n'
  | 'r' => some '\r'
  | 't' => some '\t'
  | _ => none

/-- Takes a character that must follow a leading surrogate. -/
def surrogateMark (expected : Char) : Scan Unit := do
  match ← peek with
  | none => fail .endInString
  | some c =>
    if c = expected then eat else failAt .unexpectedEndOfHexEscape ((← get).offset + 1)

/-- The character of a numeric escape, behind the letter. Characters beyond the first
plane are written as two surrogates. -/
def numericEscape : Scan Char := do
  let n ← fourHexDigits
  if 0xDC00 ≤ n ∧ n ≤ 0xDFFF then fail .loneLeadingSurrogate
  else if n < 0xD800 ∨ 0xDBFF < n then return Char.ofNat n
  else
    surrogateMark '\\'
    surrogateMark 'u'
    let m ← fourHexDigits
    if m < 0xDC00 ∨ 0xDFFF < m then fail .loneLeadingSurrogate
    else return Char.ofNat ((n - 0xD800) * 0x400 + (m - 0xDC00) + 0x10000)

/-- An escape, behind the backslash. -/
def escape : Scan Char := do
  let here := (← get).offset
  match ← next with
  | none => fail .endInString
  | some 'u' => numericEscape
  | some c =>
    match shortEscape? c with
    | some x => return x
    | none => failAt .invalidEscape (here + 1)

/-- The characters of a string up to its closing quote. The fuel is the number of
characters left. -/
def stringBody : Nat → List Char → Scan String
  | 0, _ => fail .endInString
  | fuel + 1, done => do
    match ← next with
    | none => fail .endInString
    | some '"' => return String.ofList done.reverse
    | some '\\' => stringBody fuel ((← escape) :: done)
    | some c => if c.toNat < 0x20 then fail .controlCharacter else stringBody fuel (c :: done)

/-- A bound on the steps that the rest of the text can take. -/
def fuel : Scan Nat := return (← get).rest.length + 1

/-- A string, behind its opening quote. -/
def string : Scan String := do stringBody (← fuel) []

/-- Passes over a string up to its closing quote. -/
def skipStringBody : Nat → Scan Unit
  | 0 => fail .endInString
  | fuel + 1 => do
    match ← peek with
    | none => fail .endInString
    | some '"' => eat
    | some '\\' =>
      eat
      let here := (← get).offset
      match ← next with
      | none => fail .endInString
      | some 'u' =>
        let _ ← fourHexDigits
        skipStringBody fuel
      | some c =>
        if (shortEscape? c).isSome then skipStringBody fuel
        else failAt .invalidEscape (here + 1)
    | some c =>
      if c.toNat < 0x20 then fail .controlCharacter
      else
        eat
        skipStringBody fuel

/-! ### Numbers -/

/-- Takes the digits that follow. -/
def digits : Scan (List Char) := do
  let c ← get
  let ds := c.rest.takeWhile Char.isDigit
  set { c with rest := c.rest.dropWhile Char.isDigit, offset := c.offset + ds.length }
  return ds

/-- How many digits a significand takes before it leaves 64 bits: the digits that still
fit, and those after them. -/
def splitSignificand (start : Nat) : List Char → Nat × List Char
  | [] => (start, [])
  | d :: ds =>
    let n := 10 * start + (d.toNat - '0'.toNat)
    if n < 0x1_0000_0000_0000_0000 then splitSignificand n ds else (start, d :: ds)

/-- The greatest value of an exponent as it is written. -/
def exponentLimit : Nat := 0x7fff_ffff

/-- The digits of an exponent. Answers the exponent, or none when it is too long for
32 bits, which makes the number zero or too large. -/
def exponentDigits (significant positive : Bool) (start : Nat) : List Char → Scan (Option Nat)
  | [] => return some start
  | d :: ds => do
    let n := 10 * start + (d.toNat - '0'.toNat)
    eat
    if n ≤ exponentLimit then exponentDigits significant positive n ds
    else if significant && positive then fail .numberOutOfRange
    else
      modify fun c => { c with rest := c.rest.drop ds.length, offset := c.offset + ds.length }
      return none

/-- A sum of exponents, kept within 32 bits. -/
def saturated (e : Int) : Int := max (-0x8000_0000) (min e 0x7fff_ffff)

/-- The double of a significand and an exponent. -/
def floatOf (negative : Bool) (significand : Nat) (exponent : Int) : Scan Number := do
  match Binary64.scaled significand exponent with
  | some x => return .float (if negative then x.neg else x)
  | none => fail .numberOutOfRange

/-- The exponent of a number, at its letter, if there is one; then the double. -/
def withExponent (negative : Bool) (significand : Nat) (exponent : Int) : Scan Number := do
  match ← peek with
  | some 'e' | some 'E' =>
    eat
    let positive ← (do
      match ← peek with
      | some '+' => eat; return true
      | some '-' => eat; return false
      | _ => return true)
    match ← peek with
    | none => fail .endInValue
    | some c =>
      if c.isDigit then
        let ds := (← get).rest.takeWhile Char.isDigit
        match ← exponentDigits (significand != 0) positive 0 ds with
        | some e =>
          floatOf negative significand (saturated (if positive then exponent + e else exponent - e))
        | none => return .float (if negative then Binary64.zero.neg else .zero)
      else failAt .invalidNumber ((← get).offset + 1)
  | _ => floatOf negative significand exponent

/-- The fraction of a number, at its point, if there is one; then its exponent. Digits
beyond what the significand holds count for nothing. -/
def withFraction (negative : Bool) (significand : Nat) (exponent : Int) : Scan Number := do
  match ← peek with
  | some '.' =>
    eat
    let ds ← digits
    if ds.isEmpty then
      match ← peek with
      | none => failPeek .endInValue
      | some _ => failPeek .invalidNumber
    else
      let (n, beyond) := splitSignificand significand ds
      withExponent negative n (exponent - (ds.length - beyond.length : Nat))
  | _ => withExponent negative significand exponent

/-- A number without point or exponent. -/
def wholeNumber (negative : Bool) (n : Nat) : Number :=
  if negative then
    if n = 0 ∨ 0x8000_0000_0000_0000 < n then .float (Binary64.ofNat n).neg else .int (-(n : Int))
  else .int n

/-- True when a number goes on with a point or an exponent. -/
def goesOn : Scan Bool := do
  match ← peek with
  | some '.' | some 'e' | some 'E' => return true
  | _ => return false

/-- A number, behind its sign. -/
def unsigned (negative : Bool) : Scan Number := do
  match ← peek with
  | none => fail .endInValue
  | some '0' =>
    eat
    match ← peek with
    | some c =>
      if c.isDigit then failPeek .invalidNumber
      else if ← goesOn then withFraction negative 0 0
      else return wholeNumber negative 0
    | none => return wholeNumber negative 0
  | some c =>
    if c.isDigit then
      let ds ← digits
      let (n, beyond) := splitSignificand 0 ds
      if beyond.isEmpty then
        if ← goesOn then withFraction negative n 0 else return wholeNumber negative n
      else
        -- the significand is full: the digits beyond it only move the point
        withFraction negative n beyond.length
    else failAt .invalidNumber ((← get).offset + 1)

/-- A number. -/
def number : Scan Number := do
  match ← peek with
  | some '-' =>
    eat
    unsigned true
  | _ => unsigned false

/-- Passes over a number. -/
def skipNumber : Scan Unit := do
  if (← peek) = some '-' then eat
  match ← peek with
  | some '0' =>
    eat
    if ((← peek).map Char.isDigit).getD false then failPeek .invalidNumber
  | some c => if c.isDigit then do let _ ← digits else failAt .invalidNumber ((← get).offset + 1)
  | none => fail .invalidNumber
  if (← peek) = some '.' then
    eat
    if (← digits).isEmpty then failPeek .invalidNumber
  match ← peek with
  | some 'e' | some 'E' =>
    eat
    match ← peek with
    | some '+' | some '-' => eat
    | _ => pure ()
    if (← digits).isEmpty then failAt .invalidNumber (← get).peekPlace
  | _ => pure ()

/-! ### Brackets -/

/-- Opens a bracket, which must not be one too many, runs the reader of the inside and of
the end, and closes it again. -/
def bracket {α : Type} (scan : Scan α) (close : Scan Unit) : Scan α := do
  let depth := (← get).depth
  if depth ≤ 1 then failPeek .depthLimit
  else
    modify fun c => { c with depth := depth - 1 }
    eat
    thenAlways scan (do
      modify fun c => { c with depth := depth }
      close)

/-- True when another item of an array follows, which the cursor is brought to. -/
def anotherItem (first : Bool) : Scan Bool := do
  match ← peekToken with
  | none => failPeek .endInList
  | some ']' => return false
  | some c =>
    if first then return true
    else if c = ',' then
      eat
      match ← peekToken with
      | none => failPeek .endInValue
      | some ']' => failPeek .trailingComma
      | some _ => return true
    else failPeek .expectedListCommaOrEnd

/-- The items of an array, each read with the result of those before it. -/
def items {α : Type} (item : α → Scan α) : Nat → Bool → α → Scan α
  | 0, _, _ => failPeek .endInList
  | fuel + 1, first, done => do
    if ← anotherItem first then items item fuel false (← item done) else return done

/-- The end of an array. -/
def closeArray : Scan Unit := do
  match ← peekToken with
  | some ']' => eat
  | some ',' =>
    eat
    match ← peekToken with
    | some ']' => failPeek .trailingComma
    | _ => failPeek .trailingCharacters
  | some _ => failPeek .trailingCharacters
  | none => failPeek .endInList

/-- True when another entry of an object follows; the cursor is then behind the opening
quote of its key. -/
def anotherEntry (first : Bool) : Scan Bool := do
  match ← peekToken with
  | none => failPeek .endInObject
  | some '\x7d' => return false
  | some c =>
    if first then key c
    else if c = ',' then
      eat
      match ← peekToken with
      | none => failPeek .endInValue
      | some '\x7d' => failPeek .trailingComma
      | some c => key c
    else failPeek .expectedObjectCommaOrEnd
where
  /-- Takes the quote of a key. -/
  key (c : Char) : Scan Bool := do
    if c = '"' then
      eat
      return true
    else failPeek .keyMustBeString

/-- Takes the colon behind a key. -/
def colon : Scan Unit := do
  match ← peekToken with
  | some ':' => eat
  | some _ => failPeek .expectedColon
  | none => failPeek .endInObject

/-- The entries of an object. The reader of an entry gets the key and what was read
before, and begins at the colon. -/
def entries {α : Type} (entry : α → String → Scan α) : Nat → Bool → α → Scan α
  | 0, _, _ => failPeek .endInObject
  | fuel + 1, first, done => do
    if ← anotherEntry first then
      let key ← string
      entries entry fuel false (← entry done key)
    else return done

/-- The end of an object. -/
def closeObject : Scan Unit := do
  match ← peekToken with
  | some '\x7d' => eat
  | some ',' => failPeek .trailingComma
  | some _ => failPeek .trailingCharacters
  | none => failPeek .endInObject

/-! ### Documents -/

/-- True for the characters that a number begins with. -/
def beginsNumber (c : Char) : Bool := c = '-' || c.isDigit

/-- A document. The fuel bounds the depth. -/
def valueWithin : Nat → Scan Json
  | 0 => failPeek .depthLimit
  | depth + 1 => do
    match ← peekToken with
    | none => failPeek .endInValue
    | some 'n' =>
      eat
      word "ull".toList
      return .null
    | some 't' =>
      eat
      word "rue".toList
      return .bool true
    | some 'f' =>
      eat
      word "alse".toList
      return .bool false
    | some '"' =>
      eat
      return .string (← string)
    | some '[' =>
      let item (done : List Json) : Scan (List Json) := do
        let j ← valueWithin depth
        return j :: done
      let read ← bracket (do items item (← fuel) true []) closeArray
      return .array read.reverse
    | some '\x7b' =>
      let entry (done : List (String × Json)) (key : String) : Scan (List (String × Json)) := do
        colon
        let j ← valueWithin depth
        return (key, j) :: done
      let read ← bracket (do entries entry (← fuel) true []) closeObject
      return .object read.reverse
    | some c =>
      if beginsNumber c then
        let n ← number
        return .number n
      else failPeek .expectedValue

/-- A document. -/
def value : Scan Json := do valueWithin (← fuel)

mutual

/-- Passes over a document. Brackets may nest to any depth, and neither the size of
numbers nor the pairing of surrogates matters. The fuel bounds the number of steps. -/
def skipWithin : Nat → Scan Unit
  | 0 => failPeek .depthLimit
  | fuel + 1 => do
    match ← peekToken with
    | none => failPeek .endInValue
    | some 'n' =>
      eat
      word "ull".toList
    | some 't' =>
      eat
      word "rue".toList
    | some 'f' =>
      eat
      word "alse".toList
    | some '"' =>
      eat
      skipStringBody (← Scan.fuel)
    | some '[' =>
      eat
      skipItems fuel true
    | some '\x7b' =>
      eat
      skipEntries fuel true
    | some c => if beginsNumber c then skipNumber else failPeek .expectedValue

/-- Passes over the items of an array and its closing bracket. -/
def skipItems : Nat → Bool → Scan Unit
  | 0, _ => failPeek .endInList
  | fuel + 1, first => do
    match ← peekToken with
    | none => failPeek .endInList
    | some ']' => eat
    | some c =>
      if first || c = ',' then
        if !first then eat
        skipWithin fuel
        skipItems fuel false
      else failPeek .expectedListCommaOrEnd

/-- Passes over the entries of an object and its closing brace. -/
def skipEntries : Nat → Bool → Scan Unit
  | 0, _ => failPeek .endInObject
  | fuel + 1, first => do
    match ← peekToken with
    | none => failPeek .endInObject
    | some '\x7d' => eat
    | some c =>
      if first || c = ',' then
        if !first then eat
        match ← peekToken with
        | none => failPeek .endInObject
        | some '"' =>
          eat
          skipStringBody (← Scan.fuel)
          colon
          skipWithin fuel
          skipEntries fuel false
        | some _ => failPeek .keyMustBeString
      else failPeek .expectedObjectCommaOrEnd

end

/-- Passes over a document. -/
def skip : Scan Unit := do skipWithin (2 * (← fuel))

/-- The end of the text, behind white space. -/
def finish : Scan Unit := do
  match ← peekToken with
  | none => return ()
  | some _ => failPeek .trailingCharacters

/-- Reads a whole text. -/
def readAll {α : Type} (scan : Scan α) (text : String) : Except ReadFault α :=
  let whole : Scan α := do
    let a ← scan
    finish
    return a
  (whole.run (Cursor.start text)).1

end Scan

/-- The document that a text stands for. -/
def Json.parse (text : String) : Except ReadFault Json := Scan.readAll Scan.value text

end Specimen
