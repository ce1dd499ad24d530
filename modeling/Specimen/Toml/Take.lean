/-!
# Reading a text piece by piece

A `Take` reads the front of a text and leaves the rest, or fails. `Take.run` on a whole text
succeeds only if nothing is left.
-/

namespace Specimen

/-- A reader of the front of a text. -/
abbrev Take := StateT (List Char) Option

namespace Take

/-- Fails. -/
def fail {α : Type} : Take α := fun _ => none

/-- The next character, which stays. -/
def peek : Take (Option Char) := return (← get).head?

/-- The next character. -/
def next : Take Char := fun
  | [] => none
  | c :: cs => some (c, cs)

/-- A character of a kind. -/
def oneOf (kind : Char → Bool) : Take Char := do
  let c ← next
  if kind c then return c else fail

/-- A certain character. -/
def char (c : Char) : Take Unit := do
  let _ ← oneOf (· = c)

/-- Certain characters. -/
def word (cs : List Char) : Take Unit := fun rest =>
  if cs.isPrefixOf rest then some ((), rest.drop cs.length) else none

/-- All characters of a kind that follow. -/
def many (kind : Char → Bool) : Take (List Char) := fun cs =>
  some (cs.takeWhile kind, cs.dropWhile kind)

/-- All characters of a kind that follow, of which there must be one. -/
def atLeastOne (kind : Char → Bool) : Take (List Char) := do
  let cs ← many kind
  if cs.isEmpty then fail else return cs

/-- What follows, if it can be read. -/
def option {α : Type} (take : Take α) : Take (Option α) := fun cs =>
  match take cs with
  | some (a, rest) => some (some a, rest)
  | none => some (none, cs)

/-- The first of two that can be read. -/
def orElse {α : Type} (first second : Take α) : Take α := fun cs =>
  match first cs with
  | none => second cs
  | found => found

/-- True when certain characters follow, which are then skipped. -/
def skips (cs : List Char) : Take Bool := return (← option (word cs)).isSome

/-- What is read, together with its characters. -/
def written {α : Type} (take : Take α) : Take (List Char) := fun cs => do
  let (_, rest) ← take cs
  return (cs.take (cs.length - rest.length), rest)

/-- A number that no loop over the rest of the text exceeds. -/
def fuel : Take Nat := return (← get).length + 1

/-- What is left is nothing. -/
def finish : Take Unit := do
  if !(← get).isEmpty then fail

/-- Reads a whole text. -/
def runAll {α : Type} (take : Take α) (s : String) : Option α :=
  (do let a ← take; finish; return a : Take α).run' s.toList

end Take

end Specimen
