import Specimen.Unicode.CodeSet

/-!
# What patterns mean

A form is a pattern with everything worked out that depends on flags and on the way in
which it is written. Forms are built by functions that simplify as they go: neighbouring
literals are joined, sequences and alternatives within their like are flattened,
alternatives of single characters become a set, and a beginning that all alternatives share
is written once. The number of draws that a sample takes depends on these forms.
-/

namespace Specimen.Regex

open Unicode

/-- A pattern without flags. -/
inductive Form where
  | empty
  | literal (cs : List Char)
  /-- One character of a set, which may have no members. -/
  | set (s : CodeSet)
  /-- A condition on the place. -/
  | look
  | repetition (least : Nat) (most : Option Nat) (greedy : Bool) (sub : Form)
  | capture (index : Nat) (sub : Form)
  | concat (subs : List Form)
  | alternation (subs : List Form)
  deriving Repr, Inhabited

namespace Form

mutual

/-- Equality of forms. -/
def same : Form → Form → Bool
  | empty, empty => true
  | literal a, literal b => a == b
  | set a, set b => decide (a = b)
  | look, look => true
  | repetition a b c s, repetition a' b' c' s' => a == a' && b == b' && c == c' && same s s'
  | capture a s, capture a' s' => a == a' && same s s'
  | concat a, concat b => sameAll a b
  | alternation a, alternation b => sameAll a b
  | _, _ => false

/-- Equality of forms, one by one. -/
def sameAll : List Form → List Form → Bool
  | [], [] => true
  | a :: as, b :: bs => same a b && sameAll as bs
  | _, _ => false

end

mutual

/-- True for forms that match nothing else than the empty text. -/
def isOnlyEmpty : Form → Bool
  | empty | look => true
  | literal cs => cs.isEmpty
  | set _ => false
  | repetition _ most _ sub => isOnlyEmpty sub && most.isSome
  | capture _ sub => isOnlyEmpty sub
  | concat subs | alternation subs => areOnlyEmpty subs

/-- True when all of some forms match nothing else than the empty text. -/
def areOnlyEmpty : List Form → Bool
  | [] => true
  | s :: ss => isOnlyEmpty s && areOnlyEmpty ss

end

/-- A character of a set; of a set of one, the literal. -/
def ofSet (s : CodeSet) : Form :=
  match s.only? with
  | some c => literal [c]
  | none => set s

/-- A form repeated. What matches only the empty text is not repeated more than once. -/
def ofRepetition (least : Nat) (most : Option Nat) (greedy : Bool) (sub : Form) : Form :=
  let (least, most) :=
    if sub.isOnlyEmpty then (min least 1, some ((most.map (min · 1)).getD 1)) else (least, most)
  if least = 0 ∧ most = some 0 then empty
  else if least = 1 ∧ most = some 1 then sub
  else repetition least most greedy sub

/-- The parts of a form that can stand in a sequence. -/
def sequenced : Form → List Form
  | empty => []
  | concat subs => subs
  | f => [f]

/-- Forms with neighbouring literals joined. -/
def joinLiterals : List Form → List Form
  | [] => []
  | literal cs :: rest =>
    match joinLiterals rest with
    | literal ds :: rest => literal (cs ++ ds) :: rest
    | rest => literal cs :: rest
  | f :: rest => f :: joinLiterals rest

/-- Forms one behind the other. -/
def ofConcat (subs : List Form) : Form :=
  match joinLiterals (subs.flatMap sequenced) with
  | [] => empty
  | [f] => f
  | fs => concat fs

/-- The interval of a form that is a single character. -/
def characterRange? : Form → Option (List (Nat × Nat))
  | literal [c] => some [(rank c, rank c)]
  | _ => none

/-- The intervals of a form that is a set. -/
def setRanges? : Form → Option (List (Nat × Nat))
  | set s => some s.ranges
  | _ => none

/-- The set of forms that are all single characters, or else of forms that are all
sets. -/
def asOneSet (fs : List Form) : Option CodeSet :=
  ((fs.mapM characterRange?).or (fs.mapM setRanges?)).map fun ranges => .ofRanges ranges.flatten

/-- How many forms at the front of two lists are the same. -/
def commonLength : List Form → List Form → Nat
  | a :: as, b :: bs => if same a b then commonLength as bs + 1 else 0
  | _, _ => 0

/-- The forms of a sequence. -/
def concatParts? : Form → Option (List Form)
  | concat subs => some subs
  | _ => none

/-- The beginning that all of some sequences share, and what follows it in each; none when
they share nothing. -/
def sharedFront (fs : List Form) : Option (List Form × List (List Form)) := do
  let sequences ← fs.mapM concatParts?
  match sequences with
  | first :: others =>
    let n := others.foldl (fun n s => min n (commonLength first s)) first.length
    if n = 0 then none else some (first.take n, sequences.map (·.drop n))
  | [] => none

/-- The parts of a form that can stand among alternatives. -/
def alternated : Form → List Form
  | alternation subs => subs
  | f => [f]

mutual

/-- The number of parts of a form. -/
def size : Form → Nat
  | repetition _ _ _ sub | capture _ sub => size sub + 1
  | concat subs | alternation subs => sizes subs + 1
  | _ => 1

/-- The number of parts of some forms. -/
def sizes : List Form → Nat
  | [] => 0
  | f :: fs => size f + sizes fs

end

/-- Alternatives. A shared beginning is lifted out at most as often as the fuel says. -/
def ofAlternatives : Nat → List Form → Form
  | 0, fs => alternation fs
  | fuel + 1, fs =>
    match fs.flatMap alternated with
    | [] => set .empty
    | [f] => f
    | fs =>
      match asOneSet fs with
      | some s => ofSet s
      | none =>
        match sharedFront fs with
        | some (front, rests) =>
          ofConcat (front ++ [ofAlternatives fuel (rests.map ofConcat)])
        | none => alternation fs

/-- Alternatives. Lifting a beginning out makes them smaller, so their size is fuel
enough. -/
def ofAlternation (fs : List Form) : Form := ofAlternatives (sizes fs + 1) fs

end Form

end Specimen.Regex
