import Specimen.Regex.Form
import Specimen.Regex.Parse
import Specimen.Unicode.Folding
import Specimen.Unicode.Property

/-!
# From written patterns to forms

Flags hold from where they are set to the end of the group around them. Without the flag
`u` a class is one of bytes; since everything that is matched has to be text, such a class
may contain ASCII characters only.
-/

namespace Specimen.Regex

open Unicode

/-- The flags that hold at a place. -/
structure Flags where
  ignoreCase : Bool
  multiLine : Bool
  dotMatchesNewline : Bool
  swapGreed : Bool
  unicode : Bool
  carriageReturn : Bool
  deriving DecidableEq, Repr

namespace Flags

/-- The flags at the front of a pattern. -/
def standard : Flags := ⟨false, false, false, false, true, false⟩

/-- The flags with one of them set to a state. -/
def set (flags : Flags) (state : Bool) : Flag → Flags
  | .ignoreCase => { flags with ignoreCase := state }
  | .multiLine => { flags with multiLine := state }
  | .dotMatchesNewline => { flags with dotMatchesNewline := state }
  | .swapGreed => { flags with swapGreed := state }
  | .unicode => { flags with unicode := state }
  | .carriageReturn => { flags with carriageReturn := state }
  | .ignoreWhitespace => flags

/-- The flags after some have been written. -/
def after (flags : Flags) (state : Bool) : List FlagItem → Flags
  | [] => flags
  | ⟨_, none⟩ :: items => flags.after false items
  | ⟨_, some f⟩ :: items => (flags.set state f).after state items

end Flags

namespace Meaning

/-- Stops with a fault. -/
def fail {α : Type} (cause : Cause) (span : Span) : Except Fault α := .error ⟨cause, span, none⟩

/-- The set of all bytes. Bytes beyond ASCII are kept apart from the characters with their
numbers only by the flag under which they are used. -/
def allBytes : CodeSet := ⟨[(0, 0xFF)]⟩

/-- The members of a set that are not in another one, among characters or bytes. -/
def negate (flags : Flags) (s : CodeSet) : CodeSet :=
  if flags.unicode then s.compl else allBytes.diff s

/-- A set of characters, or one of bytes, which must be ASCII. -/
def checked (flags : Flags) (span : Span) (s : CodeSet) : Except Fault CodeSet :=
  if flags.unicode || (s.diff .ascii).isEmpty then .ok s else fail .invalidUtf8 span

/-- A set with all cases of its members, as far as the flags ask for them. -/
def folded (flags : Flags) (s : CodeSet) : CodeSet :=
  if !flags.ignoreCase then s
  else if flags.unicode then s.foldClosure
  else s.asciiFoldClosure

/-- A set as written in a class: with all cases, then negated. -/
def foldedAndNegated (flags : Flags) (span : Span) (negated : Bool) (s : CodeSet) :
    Except Fault CodeSet :=
  let s := folded flags s
  checked flags span (if negated then negate flags s else s)

/-- The intervals of an ASCII class. -/
def asciiRanges : AsciiClass → List (Char × Char)
  | .alnum => [('0', '9'), ('A', 'Z'), ('a', 'z')]
  | .alpha => [('A', 'Z'), ('a', 'z')]
  | .ascii => [('\x00', '\x7f')]
  | .blank => [('\t', '\t'), (' ', ' ')]
  | .cntrl => [('\x00', '\x1f'), ('\x7f', '\x7f')]
  | .digit => [('0', '9')]
  | .graph => [('!', '~')]
  | .lower => [('a', 'z')]
  | .print => [(' ', '~')]
  | .punct => [('!', '/'), (':', '@'), ('[', '`'), ('\x7b', '~')]
  | .space => [('\t', '\r'), (' ', ' ')]
  | .upper => [('A', 'Z')]
  | .word => [('0', '9'), ('A', 'Z'), ('_', '_'), ('a', 'z')]
  | .xdigit => [('0', '9'), ('A', 'F'), ('a', 'f')]

/-- An ASCII class as a set. -/
def asciiSet (kind : AsciiClass) : CodeSet :=
  .ofRanges ((asciiRanges kind).map fun r => (rank r.1, rank r.2))

/-- The class of a letter. -/
def letterSet (flags : Flags) (span : Span) (kind : LetterClass) (negated : Bool) :
    Except Fault CodeSet :=
  let s :=
    if flags.unicode then
      match kind with
      | .digit => decimalDigits
      | .space => whiteSpace
      | .word => wordCharacters
    else
      match kind with
      | .digit => asciiSet .digit
      | .space => asciiSet .space
      | .word => asciiSet .word
  checked flags span (if negated then negate flags s else s)

/-- The class of a property. -/
def propertySet (flags : Flags) (p : PropertyClass) : Except Fault CodeSet :=
  if !flags.unicode then fail .unicodeNotAllowed p.span
  else
    match (match p.value with
      | some value => classOfValue p.name value
      | none => classNamed p.name) with
    | .ok s => foldedAndNegated flags p.span p.negated s
    | .error .unknownProperty => fail .propertyNotFound p.span
    | .error .unknownValue => fail .propertyValueNotFound p.span

/-- A character of a class. A class of bytes has only ASCII characters and bytes that are
written by their numbers. -/
def classCharacter (flags : Flags) (l : Literal) : Except Fault Nat :=
  if flags.unicode then .ok (rank l.char)
  else if l.char.toNat < 0x80 then .ok l.char.toNat
  else if l.byte then fail .invalidUtf8 l.span
  else fail .unicodeNotAllowed l.span

mutual

/-- The set of a class or a part of one. -/
def classSet (flags : Flags) : ClassTree → Except Fault CodeSet
  | .empty _ => .ok .empty
  | .literal l => do
    let n ← classCharacter flags l
    return .ofRanges [(n, n)]
  | .range _ first last => do
    let low ← classCharacter flags first
    let high ← classCharacter flags last
    return .ofRanges [(low, high)]
  | .ascii span kind negated => foldedAndNegated flags span negated (asciiSet kind)
  | .letter span kind negated => letterSet flags span kind negated
  | .property p => propertySet flags p
  | .bracketed span negated inside => do
    foldedAndNegated flags span negated (← classSet flags inside)
  | .union _ items => unionSet flags items
  | .operation _ op left right => do
    let a := folded flags (← classSet flags left)
    let b := folded flags (← classSet flags right)
    return match op with
      | .intersection => a.inter b
      | .difference => a.diff b
      | .symmetricDifference => a.symmDiff b

/-- The set of all parts of a class. -/
def unionSet (flags : Flags) : List ClassTree → Except Fault CodeSet
  | [] => .ok .empty
  | t :: ts => do
    let s ← classSet flags t
    return s.union (← unionSet flags ts)

end

/-- A character, with all its cases if the flags ask for them. -/
def literalForm (flags : Flags) (l : Literal) : Except Fault Form :=
  if !flags.unicode && l.byte && 0x7F < l.char.toNat then fail .invalidUtf8 l.span
  else
    let isLetter := l.char.isAlpha || (flags.unicode && hasCases l.char)
    if flags.ignoreCase && isLetter then .ok (.ofSet (folded flags (.single l.char)))
    else .ok (.literal [l.char])

/-- Any character, except line ends unless the flags allow them. -/
def dotForm (flags : Flags) (span : Span) : Except Fault Form :=
  if !flags.unicode then fail .invalidUtf8 span
  else if flags.dotMatchesNewline then .ok (.set .all)
  else if flags.carriageReturn then
    .ok (.set ((CodeSet.single '\n').union (.single '\r')).compl)
  else .ok (.set (CodeSet.single '\n').compl)

/-- A form that depends on the flags and may set some. -/
abbrev Reading := StateT Flags (Except Fault)

mutual

/-- The form of a pattern. -/
def form : Tree → Reading Form
  | .empty _ => return .empty
  | .flags _ items => do
    modify fun flags => flags.after true items
    return .empty
  | .literal l => do literalForm (← get) l
  | .dot span => do dotForm (← get) span
  | .look _ => return .look
  | .letter span kind negated => do return .ofSet (← letterSet (← get) span kind negated)
  | .property p => do return .ofSet (← propertySet (← get) p)
  | .bracketed span negated inside => do
    let flags ← get
    return .ofSet (← foldedAndNegated flags span negated (← classSet flags inside))
  | .repetition _ least most greedy sub => do
    let f ← form sub
    let flags ← get
    return .ofRepetition least most (greedy != flags.swapGreed) f
  | .group _ kind sub => do
    let outside ← get
    match kind with
    | .plain items => set (outside.after true items)
    | .capture _ => pure ()
    let f ← form sub
    set outside
    return match kind with
      | .plain _ => f
      | .capture index => .capture index f
  | .concat _ subs => do return .ofConcat (← forms subs)
  | .alternation _ subs => do return .ofAlternation (← forms subs)

/-- The forms of patterns, one after the other. -/
def forms : List Tree → Reading (List Form)
  | [] => return []
  | t :: ts => do
    let f ← form t
    return f :: (← forms ts)

end

end Meaning

/-- The form of a pattern. -/
def Form.parse (pattern : String) : Except Fault Form := do
  let t ← Tree.parse pattern
  return (← (Meaning.form t).run .standard).1

end Specimen.Regex
