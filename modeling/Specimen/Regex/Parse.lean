import Specimen.Regex.Tree
import Specimen.Text.White
import Specimen.Unicode.BinaryProperty

/-!
# Reading patterns

A pattern is read from left to right into a `Tree`; the first fault ends the reading. Groups
and classes in brackets are read by recursion, so a group that is never closed is reported
at the innermost one that is open.

White space and comments count for nothing while the flag `x` is set. The flag is set by a
group of flags up to the end of the group around it, or for the inside of a group.

Recursion is bounded by a fuel that starts above the length of the pattern.
-/

namespace Specimen.Regex

/-- How far a pattern has been read. -/
structure Progress where
  rest : List Char
  place : Place
  /-- True while white space and comments count for nothing. -/
  verbose : Bool
  /-- The number of groups that have been numbered. -/
  captures : Nat
  /-- The names of groups, with their spans. -/
  names : List (String × Span)

/-- A reader of a part of a pattern. -/
abbrev Parse := StateT Progress (Except Fault)

namespace Parse

/-! ### Moving -/

/-- Stops with a fault. -/
def fail {α : Type} (cause : Cause) (span : Span) : Parse α := throw ⟨cause, span, none⟩

/-- The present place. -/
def place : Parse Place := return (← get).place

/-- The empty span at the present place. -/
def here : Parse Span := return ⟨← place, ← place⟩

/-- The span from a place to the present one. -/
def since (start : Place) : Parse Span := return ⟨start, ← place⟩

/-- The next character. -/
def peek : Parse (Option Char) := return (← get).rest.head?

/-- The span of the next character. -/
def charSpan : Parse Span := do
  let s ← get
  return ⟨s.place, s.place.after (s.rest.headD ' ')⟩

/-- True at the end of the pattern. -/
def atEnd : Parse Bool := return (← get).rest.isEmpty

/-- Takes the next character. True when another one follows. -/
def bump : Parse Bool := do
  let s ← get
  match s.rest with
  | [] => return false
  | c :: rest =>
    set { s with rest := rest, place := s.place.after c }
    return !rest.isEmpty

/-- Takes the next characters as long as there are any and the fuel lasts. -/
def bumpMany : Nat → Parse Unit
  | 0 => return ()
  | n + 1 => do
    let _ ← bump
    bumpMany n

/-- Takes the given characters if they follow. -/
def bumpIf (text : String) : Parse Bool := do
  let s ← get
  if text.toList.isPrefixOf s.rest then
    bumpMany text.length
    return true
  else return false

/-- How many characters at the front of a verbose pattern count for nothing. -/
def ignoredLength : Bool → List Char → Nat
  | _, [] => 0
  | true, c :: cs => 1 + ignoredLength (c != '\n') cs
  | false, c :: cs =>
    if Text.isWhite c then 1 + ignoredLength false cs
    else if c = '#' then 1 + ignoredLength true cs
    else 0

/-- Passes over what counts for nothing. -/
def bumpSpace : Parse Unit := do
  let s ← get
  if s.verbose then bumpMany (ignoredLength false s.rest)

/-- Takes the next character and what counts for nothing behind it. True when another
character follows. -/
def bumpAndSpace : Parse Bool := do
  if ← bump then
    bumpSpace
    return !(← atEnd)
  else return false

/-- The first character of a verbose pattern that counts, when a comment ends at the first
character in it. -/
def firstCounting : Bool → List Char → Option Char
  | _, [] => none
  | inComment, c :: cs =>
    if Text.isWhite c then firstCounting inComment cs
    else if !inComment && c = '#' then firstCounting true cs
    else some c

/-- The character after the next one that counts. -/
def peekSpace : Parse (Option Char) := do
  let s ← get
  if s.verbose then return firstCounting false s.rest.tail else return s.rest.tail.head?

/-- A bound on the steps that the rest of the pattern can take. -/
def fuel : Parse Nat := return (← get).rest.length + 1

/-! ### Numbers -/

/-- Takes white space. -/
def bumpWhite (andSpace : Bool) : Nat → Parse Unit
  | 0 => return ()
  | fuel + 1 => do
    match ← peek with
    | some c =>
      if Text.isWhite c then
        let _ ← if andSpace then bumpAndSpace else bump
        bumpWhite andSpace fuel
    | none => return ()

/-- Takes decimal digits and answers them in reverse. -/
def takeDigits : Nat → List Char → Parse (List Char)
  | 0, ds => return ds
  | fuel + 1, ds => do
    match ← peek with
    | some c =>
      if c.isDigit then
        let _ ← bumpAndSpace
        takeDigits fuel (c :: ds)
      else return ds
    | none => return ds

/-- The value of a hexadecimal digit. -/
def hexValue? (c : Char) : Option Nat :=
  if c.isDigit then some (c.toNat - '0'.toNat)
  else if 'a' ≤ c ∧ c ≤ 'f' then some (c.toNat - 'a'.toNat + 10)
  else if 'A' ≤ c ∧ c ≤ 'F' then some (c.toNat - 'A'.toNat + 10)
  else none

/-- A decimal number of 32 bits, or the fault that it is none. Either way it is passed. -/
def decimal : Parse (Except Fault Nat) := do
  bumpWhite false (← fuel)
  let start ← place
  let ds ← takeDigits (← fuel) []
  let span ← since start
  bumpWhite true (← fuel)
  if ds.isEmpty then return .error ⟨.repetitionCountEmpty, span, none⟩
  else
    let n := ds.reverse.foldl (fun n d => 10 * n + (d.toNat - '0'.toNat)) 0
    if n < 0x1_0000_0000 then return .ok n else return .error ⟨.decimalInvalid, span, none⟩

/-! ### Escapes -/

/-- The character with a code point, if there is one. -/
def scalar? (n : Nat) : Option Char := if n.isValidChar then some (Char.ofNat n) else none

/-- The characters that have a meaning of their own in patterns. -/
def metaCharacters : List Char :=
  ['\\', '.', '+', '*', '?', '(', ')', '|', '[', ']', '\x7b', '\x7d', '^', '$', '#', '&', '-', '~']

/-- True for characters that stand for themselves behind a backslash. -/
def isEscapable (c : Char) : Bool :=
  metaCharacters.contains c || (c.toNat < 0x80 && !c.isAlphanum && c != '<' && c != '>')

/-- The character that a letter behind a backslash stands for. -/
def letterEscape? : Char → Option Char
  | 'a' => some '\x07'
  | 'f' => some '\x0c'
  | 't' => some '\t'
  | 'n' => some '\n'
  | 'r' => some '\r'
  | 'v' => some '\x0b'
  | _ => none

/-- Takes a number of hexadecimal digits; answers their value. -/
def hexDigits : Nat → Bool → Nat → Parse Nat
  | 0, _, n => return n
  | count + 1, first, n => do
    if !first then
      if !(← bumpAndSpace) then fail .escapeEnd (← here)
    match ← peek with
    | some c =>
      match hexValue? c with
      | some d => hexDigits count false (16 * n + d)
      | none => fail .hexInvalidDigit (← charSpan)
    | none => fail .escapeEnd (← here)

/-- Takes hexadecimal digits up to a closing brace; answers them in reverse. -/
def hexDigitsInBraces : Nat → List Nat → Parse (List Nat)
  | 0, ds => return ds
  | fuel + 1, ds => do
    if ← bumpAndSpace then
      match ← peek with
      | some '\x7d' => return ds
      | some c =>
        match hexValue? c with
        | some d => hexDigitsInBraces fuel (d :: ds)
        | none => fail .hexInvalidDigit (← charSpan)
      | none => return ds
    else return ds

/-- The literal of a code point, of a span that may differ from the one at fault. -/
def literalOf (n : Nat) (fault span : Span) (byte : Bool) : Parse Literal := do
  match scalar? n with
  | some c => return ⟨span, c, byte⟩
  | none => fail .hexInvalid fault

/-- A code point in hexadecimal, at its letter. -/
def hexEscape (start : Place) : Parse Literal := do
  let letter ← peek
  if !(← bumpAndSpace) then fail .escapeEnd (← here)
  let first ← place
  if (← peek) = some '\x7b' then
    let inside := (← charSpan).stop
    let ds ← hexDigitsInBraces (← fuel) []
    if ← atEnd then fail .escapeEnd (← since first)
    let stop ← place
    let _ ← bumpAndSpace
    if ds.isEmpty then fail .hexEmpty (← since first)
    let n := ds.reverse.foldl (fun n d => 16 * n + d) 0
    literalOf n ⟨inside, stop⟩ (← since start) false
  else
    let count := match letter with
      | some 'x' => 2
      | some 'u' => 4
      | _ => 8
    let n ← hexDigits count true 0
    let _ ← bumpAndSpace
    literalOf n (← since first) (← since start) (letter = some 'x')

/-- Takes the name of a property up to a closing brace; answers it in reverse. -/
def propertyName : Nat → List Char → Parse (List Char)
  | 0, cs => return cs
  | fuel + 1, cs => do
    if ← bumpAndSpace then
      match ← peek with
      | some '\x7d' => return cs
      | some c => propertyName fuel (c :: cs)
      | none => return cs
    else return cs

/-- A name of a property, divided at its first operator if it has one. -/
def divided (name : String) : String × Option String :=
  let parts (operator : String) : Option (String × Option String) :=
    match name.splitOn operator with
    | front :: back :: more => some (front, some (operator.intercalate (back :: more)))
    | _ => none
  ((parts "!=").or ((parts ":").or (parts "="))).getD (name, none)

/-- A class of a property, at its letter. -/
def propertyEscape (start : Place) : Parse PropertyClass := do
  let negated := (← peek) = some 'P'
  if !(← bumpAndSpace) then fail .escapeEnd (← here)
  match ← peek with
  | some '\x7b' =>
    let cs ← propertyName (← fuel) []
    if ← atEnd then fail .escapeEnd (← here)
    let _ ← bump
    let (name, value) := divided (String.ofList cs.reverse)
    return ⟨← since start, negated, name, value⟩
  | some c =>
    if c = '\\' then fail .unicodeClassInvalid (← charSpan)
    let _ ← bumpAndSpace
    return ⟨← since start, negated, c.toString, none⟩
  | none => fail .escapeEnd (← here)

/-- Takes the letters and hyphens of a special boundary; answers them in reverse. -/
def boundaryName : Nat → List Char → Parse (List Char)
  | 0, cs => return cs
  | fuel + 1, cs => do
    match ← peek with
    | some c =>
      if c.isAlpha || c = '-' then
        let _ ← bumpAndSpace
        boundaryName fuel (c :: cs)
      else return cs
    | none => return cs

/-- A special boundary in braces, if what stands between them begins like one. -/
def specialBoundary (start : Place) : Parse Unit := do
  let before ← get
  let brace ← place
  if !(← bumpAndSpace) then fail .specialBoundaryEnd (← since start)
  let inside ← place
  let begins := match ← peek with
    | some c => c.isAlpha || c = '-'
    | none => false
  if !begins then set before
  else
    let cs ← boundaryName (← fuel) []
    if (← peek) ≠ some '\x7d' then fail .specialBoundaryUnclosed (← since brace)
    let stop ← place
    let _ ← bump
    let name := String.ofList cs.reverse
    if !(["start", "end", "start-half", "end-half"].contains name) then
      fail .specialBoundaryUnrecognized ⟨inside, stop⟩

/-- What an escape stands for. -/
inductive Escaped where
  | literal (l : Literal)
  | look (span : Span)
  | letter (span : Span) (kind : LetterClass) (negated : Bool)
  | property (p : PropertyClass)

/-- The span of what an escape stands for. -/
def Escaped.span : Escaped → Span
  | literal l => l.span
  | look s => s
  | letter s _ _ => s
  | property p => p.span

/-- The class of a letter, if it has one, and whether it is negated. -/
def letterClass? : Char → Option (LetterClass × Bool)
  | 'd' => some (.digit, false)
  | 'D' => some (.digit, true)
  | 's' => some (.space, false)
  | 'S' => some (.space, true)
  | 'w' => some (.word, false)
  | 'W' => some (.word, true)
  | _ => none

/-- An escape. -/
def escape : Parse Escaped := do
  let start ← place
  if !(← bump) then fail .escapeEnd (← since start)
  match ← peek with
  | none => fail .escapeEnd (← since start)
  | some c =>
    if c.isDigit then fail .backreference ⟨start, (← charSpan).stop⟩
    else if c = 'x' ∨ c = 'u' ∨ c = 'U' then return .literal (← hexEscape start)
    else if c = 'p' ∨ c = 'P' then return .property (← propertyEscape start)
    else
      let _ ← bump
      let span ← since start
      match letterClass? c with
      | some (kind, negated) => return .letter span kind negated
      | none =>
        if isEscapable c then return .literal ⟨span, c, false⟩
        else
          match letterEscape? c with
          | some x => return .literal ⟨span, x, false⟩
          | none =>
            if c = 'b' then
              if (← peek) = some '\x7b' then specialBoundary start
              return .look (← since start)
            else if ['A', 'z', 'B', '<', '>'].contains c then return .look span
            else fail .escapeUnrecognized span

/-! ### Classes in brackets -/

/-- The ASCII class with a name. -/
def asciiClass? : String → Option AsciiClass
  | "alnum" => some .alnum
  | "alpha" => some .alpha
  | "ascii" => some .ascii
  | "blank" => some .blank
  | "cntrl" => some .cntrl
  | "digit" => some .digit
  | "graph" => some .graph
  | "lower" => some .lower
  | "print" => some .print
  | "punct" => some .punct
  | "space" => some .space
  | "upper" => some .upper
  | "word" => some .word
  | "xdigit" => some .xdigit
  | _ => none

/-- The ASCII class that follows, if one does; otherwise nothing is taken. -/
def asciiClass : Parse (Option ClassTree) := do
  let before ← get
  let (negated, cs) := match before.rest with
    | '[' :: ':' :: '^' :: cs => (true, cs)
    | '[' :: ':' :: cs => (false, cs)
    | _ => (false, [])
  let name := cs.takeWhile (· != ':')
  match asciiClass? (String.ofList name), (cs.drop name.length).take 2 with
  | some kind, [':', ']'] =>
    bumpMany (name.length + (if negated then 5 else 4))
    return some (.ascii (← since before.place) kind negated)
  | _, _ => return none

/-- One character or escape of a class. -/
def classItem : Parse Escaped := do
  match ← peek with
  | some '\\' => escape
  | some c =>
    let span ← charSpan
    let _ ← bump
    return .literal ⟨span, c, false⟩
  | none => fail .classUnclosed (← here)

/-- An item of a class that is not an end of a range. -/
def asItem : Escaped → Parse ClassTree
  | .literal l => return .literal l
  | .letter span kind negated => return .letter span kind negated
  | .property p => return .property p
  | .look span => fail .classEscapeInvalid span

/-- An end of a range. -/
def asLiteral : Escaped → Parse Literal
  | .literal l => return l
  | e => fail .classRangeLiteral e.span

/-- An item of a class, which may be a range. The span is that of the open class. -/
def classRange (opened : Span) : Parse ClassTree := do
  let first ← classItem
  bumpSpace
  match ← peek with
  | none => fail .classUnclosed opened
  | some '-' =>
    let following ← peekSpace
    if following = some ']' ∨ following = some '-' then asItem first
    else
      if !(← bumpAndSpace) then fail .classUnclosed opened
      let last ← classItem
      let span : Span := ⟨first.span.start, last.span.stop⟩
      let low ← asLiteral first
      let high ← asLiteral last
      if high.char < low.char then fail .classRangeInvalid span
      return .range span low high
  | some _ => asItem first

/-- Items of a class as one. The span is the one for no items. -/
def unionOf (place : Span) : List ClassTree → ClassTree
  | [] => .empty place
  | [item] => item
  | items => .union ⟨(items.headD (.empty place)).span.start,
      (items.getLastD (.empty place)).span.stop⟩ items

/-- A class to the left of an operation, joined with what stands to the right. -/
def operated : Option (SetOperation × ClassTree) → ClassTree → ClassTree
  | none, right => right
  | some (op, left), right => .operation ⟨left.span.start, right.span.stop⟩ op left right

/-- Takes the hyphens that stand for themselves at the front of a class; answers them in
reverse. -/
def hyphens (start : Place) : Nat → List ClassTree → Parse (List ClassTree)
  | 0, done => return done
  | fuel + 1, done => do
    if (← peek) = some '-' then
      let item := ClassTree.literal ⟨← charSpan, '-', false⟩
      if !(← bumpAndSpace) then fail .classUnclosed ⟨start, start⟩
      hyphens start fuel (item :: done)
    else return done

/-- The opening of a class: its span, whether it is negated and its first items, in
reverse. -/
def openClass : Parse (Span × Bool × List ClassTree) := do
  let start ← place
  if !(← bumpAndSpace) then fail .classUnclosed (← since start)
  let negated := (← peek) = some '^'
  if negated then
    if !(← bumpAndSpace) then fail .classUnclosed (← since start)
  let items ← hyphens start (← fuel) []
  if items.isEmpty && (← peek) = some ']' then
    let item := ClassTree.literal ⟨← charSpan, ']', false⟩
    if !(← bumpAndSpace) then fail .classUnclosed (← since start)
    return (← since start, negated, [item])
  else return (← since start, negated, items)

/-- The operation that follows, if one does. -/
def setOperation : Parse (Option SetOperation) := do
  if ← bumpIf "&&" then return some .intersection
  else if ← bumpIf "--" then return some .difference
  else if ← bumpIf "~~" then return some .symmetricDifference
  else return none

mutual

/-- The rest of a class behind its opening: the items so far, in reverse, the place of the
first of them, and the operation that they stand to the right of. -/
def classBody (opened : Span) (negated : Bool) :
    Nat → Span → List ClassTree → Option (SetOperation × ClassTree) → Parse ClassTree
  | 0, _, _, _ => fail .classUnclosed opened
  | fuel + 1, place, items, left => do
    bumpSpace
    match ← peek with
    | none => fail .classUnclosed opened
    | some '[' =>
      match ← asciiClass with
      | some item => classBody opened negated fuel place (item :: items) left
      | none =>
        let item ← bracketedWithin fuel
        classBody opened negated fuel place (item :: items) left
    | some ']' =>
      let _ ← bump
      let inside := operated left (unionOf place items.reverse)
      return .bracketed ⟨opened.start, ← Parse.place⟩ negated inside
    | some _ =>
      match ← setOperation with
      | some op =>
        let whole := operated left (unionOf place items.reverse)
        classBody opened negated fuel (← here) [] (some (op, whole))
      | none =>
        let item ← classRange opened
        classBody opened negated fuel place (item :: items) left

/-- A class in brackets. -/
def bracketedWithin : Nat → Parse ClassTree
  | 0 => do fail .classUnclosed (← here)
  | fuel + 1 => do
    let (opened, negated, items) ← openClass
    classBody opened negated fuel (← here) items none

end

/-! ### Groups -/

/-- The flag of a letter. -/
def flag? : Char → Option Flag
  | 'i' => some .ignoreCase
  | 'm' => some .multiLine
  | 's' => some .dotMatchesNewline
  | 'U' => some .swapGreed
  | 'u' => some .unicode
  | 'R' => some .carriageReturn
  | 'x' => some .ignoreWhitespace
  | _ => none

/-- Flags up to a colon or a closing parenthesis. -/
def flags : Nat → List FlagItem → Parse (List FlagItem)
  | 0, items => return items.reverse
  | fuel + 1, items => do
    match ← peek with
    | none => fail .flagEnd (← here)
    | some c =>
      if c = ':' ∨ c = ')' then
        match items with
        | ⟨span, none⟩ :: _ => fail .flagDanglingNegation span
        | _ => return items.reverse
      else
        let span ← charSpan
        let item : FlagItem ←
          if c = '-' then pure ⟨span, none⟩
          else
            match flag? c with
            | some f => pure ⟨span, some f⟩
            | none => fail .flagUnrecognized span
        match items.find? fun i => i.flag = item.flag with
        | some earlier =>
          let cause := if c = '-' then Cause.flagRepeatedNegation else .flagDuplicate
          throw ⟨cause, span, some earlier.span⟩
        | none =>
          if !(← bump) then fail .flagEnd (← here)
          flags fuel (item :: items)

/-- The state in which flags leave one of them, if they name it. -/
def flagState (flag : Flag) : Bool → List FlagItem → Option Bool
  | _, [] => none
  | state, item :: items =>
    match item.flag with
    | none => flagState flag false items
    | some f => if f = flag then some state else flagState flag state items

/-- True for characters of the name of a group. -/
def isNameCharacter (first : Bool) (c : Char) : Bool :=
  c = '_' || c.isAlpha ||
    (!first && (c = '.' || c = '[' || c = ']' || c.isDigit)) ||
    (0x7F < c.toNat && ((Unicode.tabulated "Alphabetic").contains c ||
      (!first && (Unicode.inCategories ["Nd", "Nl", "No"]).contains c)))

/-- Takes the characters of the name of a group; answers them in reverse. -/
def nameCharacters : Nat → List Char → Parse (List Char)
  | 0, cs => return cs
  | fuel + 1, cs => do
    match ← peek with
    | none => return cs
    | some '>' => return cs
    | some c =>
      if isNameCharacter cs.isEmpty c then
        let _ ← bump
        nameCharacters fuel (c :: cs)
      else fail .groupNameInvalid (← charSpan)

/-- The name of a group and its closing bracket. -/
def groupName : Parse Unit := do
  if ← atEnd then fail .groupNameEnd (← here)
  let start ← place
  let cs ← nameCharacters (← fuel) []
  let span ← since start
  if ← atEnd then fail .groupNameEnd (← here)
  let _ ← bump
  if cs.isEmpty then fail .groupNameEmpty ⟨start, start⟩
  let name := String.ofList cs.reverse
  let s ← get
  match s.names.lookup name with
  | some earlier => throw ⟨.groupNameDuplicate, span, some earlier⟩
  | none => set { s with names := (name, span) :: s.names }

/-- A number for a group. -/
def nextCapture : Parse Nat := do
  let s ← get
  set { s with captures := s.captures + 1 }
  return s.captures + 1

/-- What stands behind an opening parenthesis. -/
inductive Opening where
  /-- Flags for the rest of the group around. -/
  | flags (items : List FlagItem)
  | group (kind : GroupKind)

/-- True when a look-around follows, which is taken. -/
def lookAround : Parse Bool := do
  if ← bumpIf "?=" then return true
  else if ← bumpIf "?!" then return true
  else if ← bumpIf "?<=" then return true
  else bumpIf "?<!"

/-- The opening of a group, from its parenthesis on. -/
def openGroup : Parse Opening := do
  let opened ← charSpan
  let _ ← bump
  bumpSpace
  if ← lookAround then fail .lookAround (← since opened.start)
  let inner ← here
  let named ← if ← bumpIf "?P<" then pure true else bumpIf "?<"
  if named then
    let index ← nextCapture
    groupName
    return .group (.capture index)
  else if ← bumpIf "?" then
    if ← atEnd then fail .groupUnclosed opened
    let items ← flags (← fuel) []
    let last ← peek
    let _ ← bump
    if last = some ')' then
      if items.isEmpty then fail .repetitionMissing inner
      return .flags items
    else return .group (.plain items)
  else
    let index ← nextCapture
    return .group (.capture index)

/-! ### Repetitions -/

/-- The part that an operator repeats: the last one, which may be neither missing nor
empty. -/
def repeated : List Tree → Parse (Tree × List Tree)
  | [] => do fail .repetitionMissing (← here)
  | .empty _ :: _ => do fail .repetitionMissing (← here)
  | .flags _ _ :: _ => do fail .repetitionMissing (← here)
  | t :: ts => return (t, ts)

/-- Takes a question mark behind an operator. True when there is none. -/
def greedy (another : Bool) : Parse Bool := do
  if another && (← peek) = some '?' then
    let _ ← bump
    return false
  else return true

/-- A repetition by one character. The parts so far come in reverse. -/
def uncounted (least : Nat) (most : Option Nat) (done : List Tree) : Parse (List Tree) := do
  let (t, ts) ← repeated done
  let another ← bump
  let isGreedy ← greedy another
  return .repetition (← since t.span.start) least most isGreedy t :: ts

/-- An answer or a fault. -/
def orFail {α : Type} : Except Fault α → Parse α
  | .ok a => return a
  | .error fault => throw fault

/-- A repetition by numbers in braces. The parts so far come in reverse. -/
def counted (done : List Tree) : Parse (List Tree) := do
  let start ← place
  let (t, ts) ← repeated done
  if !(← bumpAndSpace) then fail .repetitionCountUnclosed (← since start)
  let first ← decimal
  if ← atEnd then fail .repetitionCountUnclosed (← since start)
  let (least, most) ← (do
    if (← peek) = some ',' then
      if !(← bumpAndSpace) then fail .repetitionCountUnclosed (← since start)
      if (← peek) = some '\x7d' then return (← orFail first, none)
      else
        let least ← orFail first
        let most ← orFail (← decimal)
        return (least, some most)
    else
      let n ← orFail first
      return (n, some n))
  if (← peek) ≠ some '\x7d' then fail .repetitionCountUnclosed (← since start)
  let another ← bumpAndSpace
  let isGreedy ← greedy another
  if (most.map fun m => decide (m < least)).getD false then
    fail .repetitionCountInvalid (← since start)
  return .repetition (← since t.span.start) least most isGreedy t :: ts

/-! ### Whole patterns -/

/-- A part that is neither a group nor a class nor a repetition. -/
def primitive (c : Char) : Parse Tree := do
  if c = '\\' then
    match ← escape with
    | .literal l => return .literal l
    | .look span => return .look span
    | .letter span kind negated => return .letter span kind negated
    | .property p => return .property p
  else
    let span ← charSpan
    let _ ← bump
    if c = '.' then return .dot span
    else if c = '^' ∨ c = '$' then return .look span
    else return .literal ⟨span, c, false⟩

/-- Parts one behind the other as one. -/
def concatOf (span : Span) : List Tree → Tree
  | [] => .empty span
  | [t] => t
  | ts => .concat span ts

/-- Alternatives as one. -/
def alternationOf (span : Span) : List Tree → Tree
  | [t] => t
  | ts => .alternation span ts

mutual

/-- Alternatives up to a closing parenthesis or the end. Those before come in reverse. -/
def alternatives (start : Place) : Nat → List Tree → Parse Tree
  | 0, _ => do fail .groupUnclosed (← here)
  | fuel + 1, done => do
    let t ← parts (← place) fuel []
    if (← peek) = some '|' then
      let _ ← bump
      alternatives start fuel (t :: done)
    else return alternationOf (← since start) (t :: done).reverse

/-- Parts one behind the other. Those before come in reverse. -/
def parts (start : Place) : Nat → List Tree → Parse Tree
  | 0, _ => do fail .groupUnclosed (← here)
  | fuel + 1, done => do
    bumpSpace
    match ← peek with
    | none => return concatOf (← since start) done.reverse
    | some c =>
      if c = '|' ∨ c = ')' then return concatOf (← since start) done.reverse
      else if c = '(' then
        let opened ← charSpan
        let verbose := (← get).verbose
        match ← openGroup with
        | .flags items =>
          let span ← since opened.start
          modify fun s =>
            { s with verbose := (flagState .ignoreWhitespace true items).getD verbose }
          parts start fuel (.flags span items :: done)
        | .group kind =>
          let inside := match kind with
            | .capture _ => verbose
            | .plain items => (flagState .ignoreWhitespace true items).getD verbose
          modify fun s => { s with verbose := inside }
          let sub ← alternatives (← place) fuel []
          if ← atEnd then fail .groupUnclosed opened
          modify fun s => { s with verbose := verbose }
          let _ ← bump
          parts start fuel (.group (← since opened.start) kind sub :: done)
      else if c = '[' then
        match ← bracketedWithin (2 * (← Parse.fuel)) with
        | .bracketed span negated inside =>
          parts start fuel (.bracketed span negated inside :: done)
        | other => fail .classUnclosed other.span
      else if c = '?' then parts start fuel (← uncounted 0 (some 1) done)
      else if c = '*' then parts start fuel (← uncounted 0 none done)
      else if c = '+' then parts start fuel (← uncounted 1 none done)
      else if c = '\x7b' then parts start fuel (← counted done)
      else parts start fuel ((← primitive c) :: done)

end

/-- The whole of a pattern. -/
def whole : Parse Tree := do
  let t ← alternatives (← place) (4 * (← fuel)) []
  if (← peek) = some ')' then fail .groupUnopened (← charSpan)
  match t.tooDeep 0 with
  | some span => fail .nestLimitExceeded span
  | none => return t

end Parse

/-- The tree of a pattern. -/
def Tree.parse (pattern : String) : Except Fault Tree :=
  (Parse.whole.run ⟨pattern.toList, .front, false, 0, []⟩).map (·.1)

end Specimen.Regex
