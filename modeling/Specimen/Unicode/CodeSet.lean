/-!
# Sets of characters

A character class can hold a large part of Unicode, so it is kept as intervals. The
intervals are over the *rank* of a character, its number among all characters: the code
point with the gap of the surrogates closed. Over ranks every set of characters is a set
of numbers below `rankCount`, and the complement of an interval set needs no exception.

* `CodeSet.ofRanges` sorts and joins intervals into the one list that stands for the set.
* `CodeSet.union`, `inter`, `diff`, `symmDiff` and `compl` are the set operations.
* `CodeSet.size` and `CodeSet.nth?` number the members from the least one on.
-/

namespace Specimen.Unicode

/-- The number of a character among all characters. -/
def rank (c : Char) : Nat :=
  if c.toNat < 0xD800 then c.toNat else c.toNat - 0x800

/-- The character with a rank. -/
def ofRank (n : Nat) : Char :=
  Char.ofNat (if n < 0xD800 then n else n + 0x800)

/-- The number of characters. -/
def rankCount : Nat := 0x110000 - 0x800

/-- A set of characters: intervals of ranks with both ends included, ascending, and with
a gap between any two of them. -/
structure CodeSet where
  ranges : List (Nat × Nat)
  deriving DecidableEq, Repr, Inhabited

namespace CodeSet

/-- The set without members. -/
def empty : CodeSet := ⟨[]⟩

/-- All characters. -/
def all : CodeSet := ⟨[(0, rankCount - 1)]⟩

/-- Joins ascending intervals that overlap or touch. -/
def join : List (Nat × Nat) → List (Nat × Nat)
  | [] => []
  | r :: rs => go r rs
where
  /-- The joined list, with one interval still open. -/
  go (r : Nat × Nat) : List (Nat × Nat) → List (Nat × Nat)
    | [] => [r]
    | s :: rs => if s.1 ≤ r.2 + 1 then go (r.1, max r.2 s.2) rs else r :: go s rs

/-- The set of the ranks in some of the intervals. -/
def ofRanges (ranges : List (Nat × Nat)) : CodeSet :=
  ⟨join ((ranges.filter fun r => r.1 ≤ r.2).mergeSort fun a b => a.1 ≤ b.1)⟩

/-- The characters between two, both included. -/
def between (first last : Char) : CodeSet := ofRanges [(rank first, rank last)]

/-- One character. -/
def single (c : Char) : CodeSet := between c c

/-- Two sets together. -/
def union (a b : CodeSet) : CodeSet := ofRanges (a.ranges ++ b.ranges)

/-- The intervals between given ones, from a rank on. -/
def gaps (start : Nat) : List (Nat × Nat) → List (Nat × Nat)
  | [] => if start < rankCount then [(start, rankCount - 1)] else []
  | r :: rs =>
    if start < r.1 then (start, r.1 - 1) :: gaps (r.2 + 1) rs else gaps (r.2 + 1) rs

/-- The characters not in a set. -/
def compl (a : CodeSet) : CodeSet := ⟨gaps 0 a.ranges⟩

/-- The common members of two sets. -/
def inter (a b : CodeSet) : CodeSet := (a.compl.union b.compl).compl

/-- The members of the first set alone. -/
def diff (a b : CodeSet) : CodeSet := a.inter b.compl

/-- The members of exactly one of two sets. -/
def symmDiff (a b : CodeSet) : CodeSet := (a.diff b).union (b.diff a)

/-- The members that are ASCII characters. -/
def ascii : CodeSet := ⟨[(0, 0x7F)]⟩

/-- True when there is no member. -/
def isEmpty (a : CodeSet) : Bool := a.ranges.isEmpty

/-- The number of members. -/
def size (a : CodeSet) : Nat := a.ranges.foldl (fun n r => n + (r.2 + 1 - r.1)) 0

/-- Membership. -/
def contains (a : CodeSet) (c : Char) : Bool :=
  a.ranges.any fun r => r.1 ≤ rank c && rank c ≤ r.2

/-- The member with `n` members before it in a list of intervals. -/
def nthRank? : List (Nat × Nat) → Nat → Option Nat
  | [], _ => none
  | r :: rs, n =>
    let count := r.2 + 1 - r.1
    if n < count then some (r.1 + n) else nthRank? rs (n - count)

/-- The member with `n` members before it. -/
def nth? (a : CodeSet) (n : Nat) : Option Char := (nthRank? a.ranges n).map ofRank

/-- The only member of a set of one. -/
def only? (a : CodeSet) : Option Char :=
  match a.ranges with
  | [(first, last)] => if first = last then some (ofRank first) else none
  | _ => none

end CodeSet

end Specimen.Unicode
