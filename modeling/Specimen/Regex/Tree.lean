import Specimen.Regex.Fault

/-!
# Patterns as written

The tree of a pattern follows its text: every part keeps its span, and flags, escapes and
classes stand as they were written. What they mean is worked out in
`Specimen.Regex.Meaning`.
-/

namespace Specimen.Regex

/-- A switch that changes how the rest of a group is read. -/
inductive Flag where
  | ignoreCase
  | multiLine
  | dotMatchesNewline
  | swapGreed
  | unicode
  | carriageReturn
  | ignoreWhitespace
  deriving DecidableEq, Repr

/-- A flag as written, or the sign that negates those behind it. -/
structure FlagItem where
  span : Span
  /-- None for the sign. -/
  flag : Option Flag
  deriving DecidableEq, Repr

/-- A class that is written by a letter behind a backslash. -/
inductive LetterClass where
  | digit
  | space
  | word
  deriving DecidableEq, Repr

/-- A class of ASCII characters that is written by its name. -/
inductive AsciiClass where
  | alnum
  | alpha
  | ascii
  | blank
  | cntrl
  | digit
  | graph
  | lower
  | print
  | punct
  | space
  | upper
  | word
  | xdigit
  deriving DecidableEq, Repr

/-- A character as written. -/
structure Literal where
  span : Span
  char : Char
  /-- True for two hexadecimal digits, which can stand for a byte. -/
  byte : Bool
  deriving DecidableEq, Repr, Inhabited

/-- A class that is written by the name of a property. -/
structure PropertyClass where
  span : Span
  negated : Bool
  name : String
  /-- The value of the property, if one is given. -/
  value : Option String
  deriving DecidableEq, Repr

/-- How two classes are combined. -/
inductive SetOperation where
  | intersection
  | difference
  | symmetricDifference
  deriving DecidableEq, Repr

/-- A class in brackets, or a part of one. -/
inductive ClassTree where
  | empty (span : Span)
  | literal (l : Literal)
  | range (span : Span) (first last : Literal)
  | ascii (span : Span) (kind : AsciiClass) (negated : Bool)
  | letter (span : Span) (kind : LetterClass) (negated : Bool)
  | property (p : PropertyClass)
  | bracketed (span : Span) (negated : Bool) (inside : ClassTree)
  | union (span : Span) (items : List ClassTree)
  | operation (span : Span) (op : SetOperation) (left right : ClassTree)
  deriving Repr, Inhabited

/-- How a group is opened. -/
inductive GroupKind where
  /-- A numbered group. -/
  | capture (index : Nat)
  /-- A group that only sets flags for its inside. -/
  | plain (flags : List FlagItem)
  deriving DecidableEq, Repr

/-- A pattern. -/
inductive Tree where
  | empty (span : Span)
  | flags (span : Span) (items : List FlagItem)
  | literal (l : Literal)
  | dot (span : Span)
  /-- A condition on the place, which matches no character. -/
  | look (span : Span)
  | letter (span : Span) (kind : LetterClass) (negated : Bool)
  | property (p : PropertyClass)
  | bracketed (span : Span) (negated : Bool) (inside : ClassTree)
  | repetition (span : Span) (least : Nat) (most : Option Nat) (greedy : Bool) (sub : Tree)
  | group (span : Span) (kind : GroupKind) (sub : Tree)
  | alternation (span : Span) (subs : List Tree)
  | concat (span : Span) (subs : List Tree)
  deriving Repr, Inhabited

/-- The span of a part of a class. -/
def ClassTree.span : ClassTree → Span
  | literal l => l.span
  | property p => p.span
  | empty s | range s _ _ | ascii s _ _ | letter s _ _ | bracketed s _ _ | union s _
  | operation s _ _ _ => s

/-- The span of a pattern. -/
def Tree.span : Tree → Span
  | literal l => l.span
  | property p => p.span
  | empty s | flags s _ | dot s | look s | letter s _ _ | bracketed s _ _
  | repetition s _ _ _ _ | group s _ _ | alternation s _ | concat s _ => s

/-! ### Depth -/

mutual

/-- The first part of a class, in the order of the text, that nests too deep. -/
def ClassTree.tooDeep (depth : Nat) : ClassTree → Option Span
  | .bracketed span _ inside =>
    if nestLimit ≤ depth then some span else inside.tooDeep (depth + 1)
  | .union span items =>
    if nestLimit ≤ depth then some span else ClassTree.anyTooDeep (depth + 1) items
  | .operation span _ left right =>
    if nestLimit ≤ depth then some span
    else (left.tooDeep (depth + 1)).or (right.tooDeep (depth + 1))
  | _ => none

/-- The first part of some classes that nests too deep. -/
def ClassTree.anyTooDeep (depth : Nat) : List ClassTree → Option Span
  | [] => none
  | t :: ts => (t.tooDeep depth).or (ClassTree.anyTooDeep depth ts)

end

mutual

/-- The first part of a pattern, in the order of the text, that nests too deep. -/
def Tree.tooDeep (depth : Nat) : Tree → Option Span
  | .bracketed span _ inside =>
    if nestLimit ≤ depth then some span else inside.tooDeep (depth + 1)
  | .repetition span _ _ _ sub => if nestLimit ≤ depth then some span else sub.tooDeep (depth + 1)
  | .group span _ sub => if nestLimit ≤ depth then some span else sub.tooDeep (depth + 1)
  | .alternation span subs =>
    if nestLimit ≤ depth then some span else Tree.anyTooDeep (depth + 1) subs
  | .concat span subs =>
    if nestLimit ≤ depth then some span else Tree.anyTooDeep (depth + 1) subs
  | _ => none

/-- The first part of some patterns that nests too deep. -/
def Tree.anyTooDeep (depth : Nat) : List Tree → Option Span
  | [] => none
  | t :: ts => (t.tooDeep depth).or (Tree.anyTooDeep depth ts)

end

end Specimen.Regex
