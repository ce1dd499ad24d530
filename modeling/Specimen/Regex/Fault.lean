/-!
# Faults of patterns

A pattern that cannot be read is shown with marks under the characters at fault. Places in
a pattern are lines and columns, both from one on. A span within one line is marked in that
line; one that crosses lines is named below the pattern.
-/

namespace Specimen.Regex

/-- A place in a pattern, before a character. -/
structure Place where
  /-- The number of characters before it. -/
  offset : Nat
  line : Nat
  column : Nat
  deriving DecidableEq, Repr, Inhabited

namespace Place

/-- The front of a pattern. -/
def front : Place := ⟨0, 1, 1⟩

/-- The place behind a character. -/
def after (p : Place) (c : Char) : Place :=
  if c = '\n' then ⟨p.offset + 1, p.line + 1, 1⟩ else ⟨p.offset + 1, p.line, p.column + 1⟩

end Place

/-- What lies between two places. -/
structure Span where
  start : Place
  stop : Place
  deriving DecidableEq, Repr, Inhabited

/-- What is wrong with a pattern. -/
inductive Cause where
  | classEscapeInvalid
  | classRangeInvalid
  | classRangeLiteral
  | classUnclosed
  | decimalEmpty
  | decimalInvalid
  | hexEmpty
  | hexInvalid
  | hexInvalidDigit
  | escapeEnd
  | escapeUnrecognized
  | flagDanglingNegation
  | flagDuplicate
  | flagRepeatedNegation
  | flagEnd
  | flagUnrecognized
  | groupNameDuplicate
  | groupNameEmpty
  | groupNameInvalid
  | groupNameEnd
  | groupUnclosed
  | groupUnopened
  | nestLimitExceeded
  | repetitionCountInvalid
  | repetitionCountEmpty
  | repetitionCountUnclosed
  | repetitionMissing
  | specialBoundaryUnclosed
  | specialBoundaryUnrecognized
  | specialBoundaryEnd
  | unicodeClassInvalid
  | backreference
  | lookAround
  | unicodeNotAllowed
  | invalidUtf8
  | propertyNotFound
  | propertyValueNotFound
  deriving DecidableEq, Repr

/-- How deep the parts of a pattern may nest. -/
def nestLimit : Nat := 250

/-- The wording of a cause. -/
def Cause.message : Cause → String
  | classEscapeInvalid => "invalid escape sequence found in character class"
  | classRangeInvalid => "invalid character class range, the start must be <= the end"
  | classRangeLiteral => "invalid range boundary, must be a literal"
  | classUnclosed => "unclosed character class"
  | decimalEmpty => "decimal literal empty"
  | decimalInvalid => "decimal literal invalid"
  | hexEmpty => "hexadecimal literal empty"
  | hexInvalid => "hexadecimal literal is not a Unicode scalar value"
  | hexInvalidDigit => "invalid hexadecimal digit"
  | escapeEnd => "incomplete escape sequence, reached end of pattern prematurely"
  | escapeUnrecognized => "unrecognized escape sequence"
  | flagDanglingNegation => "dangling flag negation operator"
  | flagDuplicate => "duplicate flag"
  | flagRepeatedNegation => "flag negation operator repeated"
  | flagEnd => "expected flag but got end of regex"
  | flagUnrecognized => "unrecognized flag"
  | groupNameDuplicate => "duplicate capture group name"
  | groupNameEmpty => "empty capture group name"
  | groupNameInvalid => "invalid capture group character"
  | groupNameEnd => "unclosed capture group name"
  | groupUnclosed => "unclosed group"
  | groupUnopened => "unopened group"
  | nestLimitExceeded =>
    "exceed the maximum number of nested parentheses/brackets (" ++ toString nestLimit ++ ")"
  | repetitionCountInvalid => "invalid repetition count range, the start must be <= the end"
  | repetitionCountEmpty => "repetition quantifier expects a valid decimal"
  | repetitionCountUnclosed => "unclosed counted repetition"
  | repetitionMissing => "repetition operator missing expression"
  | specialBoundaryUnclosed =>
    "special word boundary assertion is either unclosed or contains an invalid character"
  | specialBoundaryUnrecognized => "unrecognized special word boundary assertion, " ++
    "valid choices are: start, end, start-half or end-half"
  | specialBoundaryEnd => "found either the beginning of a special word boundary or a " ++
    "bounded repetition on a \\b with an opening brace, but no closing brace"
  | unicodeClassInvalid => "invalid Unicode character class"
  | backreference => "backreferences are not supported"
  | lookAround => "look-around, including look-ahead and look-behind, is not supported"
  | unicodeNotAllowed => "Unicode not allowed here"
  | invalidUtf8 => "pattern can match invalid UTF-8"
  | propertyNotFound => "Unicode property not found"
  | propertyValueNotFound => "Unicode property value not found"

/-- A fault: its cause, where it is, and where a part stands that it conflicts with. -/
structure Fault where
  cause : Cause
  span : Span
  other : Option Span
  deriving DecidableEq, Repr

namespace Fault

/-- The lines of a text. The last one counts when something is in it, and a carriage
return at the end of a line is not part of it. -/
def lines (s : String) : List String :=
  let parts := s.splitOn "\n"
  let parts := if parts.getLast? = some "" then parts.dropLast else parts
  parts.map fun line =>
    match line.toList.reverse with
    | '\r' :: rest => String.ofList rest.reverse
    | _ => line

/-- A character a number of times. -/
def repeated (n : Nat) (c : Char) : String := String.ofList (List.replicate n c)

/-- The spans of a fault by their order in the pattern. -/
def spans (f : Fault) : List Span :=
  match f.other with
  | none => [f.span]
  | some other =>
    if (other.start.offset, other.stop.offset) = (f.span.start.offset, f.span.stop.offset) ∨
        other.start.offset < f.span.start.offset ∨
        (other.start.offset = f.span.start.offset ∧ other.stop.offset < f.span.stop.offset)
    then [other, f.span] else [f.span, other]

/-- The marks under a line, beginning in a column. -/
def marks (column : Nat) : List Span → String
  | [] => ""
  | s :: rest =>
    let width := max 1 (s.stop.column - s.start.column)
    repeated (s.start.column - 1 - column) ' ' ++ repeated width '^' ++
      marks (max column (s.start.column - 1) + width) rest

/-- The pattern with marks under its lines, each line behind its number when there are
several. -/
def marked (f : Fault) (pattern : String) : String :=
  let ls := lines pattern
  let count := if pattern.toList.getLast? = some '\n' then ls.length + 1 else ls.length
  let width := if count ≤ 1 then 0 else (toString count).length
  let line (i : Nat) (text : String) : String :=
    let n := toString (i + 1)
    let front :=
      if width = 0 then "    " else repeated (width - n.length) ' ' ++ n ++ ": "
    let here := f.spans.filter fun s => s.start.line = s.stop.line ∧ s.start.line = i + 1
    let below :=
      if here.isEmpty then ""
      else repeated (if width = 0 then 4 else width + 2) ' ' ++ marks 0 here ++ "\n"
    front ++ text ++ "\n" ++ below
  String.join (ls.mapIdx line)

/-- A span of several lines, named. -/
def named (s : Span) : String :=
  "on line " ++ toString s.start.line ++ " (column " ++ toString s.start.column ++
    ") through line " ++ toString s.stop.line ++ " (column " ++ toString (s.stop.column - 1) ++ ")"

/-- The wording of a fault in a pattern. -/
def message (f : Fault) (pattern : String) : String :=
  let cause := "error: " ++ f.cause.message
  if pattern.contains '\n' then
    let divider := repeated 79 '~' ++ "\n"
    let long := f.spans.filter fun s => s.start.line ≠ s.stop.line
    let notes := if long.isEmpty then "" else "\n".intercalate (long.map named) ++ "\n"
    "regex parse error:\n" ++ divider ++ f.marked pattern ++ divider ++ notes ++ cause
  else "regex parse error:\n" ++ f.marked pattern ++ cause

end Fault

end Specimen.Regex
