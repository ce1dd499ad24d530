import Specimen.Random.Draws

/-!
# Fair choices

A fair choice is a coin whose flips come in pairs: the first flip of a pair is random and
the second is its opposite, so no side is more than one ahead of the other. It also keeps
in mind which sides it has shown since it was new.
-/

namespace Specimen

/-- The state of a fair choice. -/
structure FairChoice where
  /-- The second flip of a pair, when the first has been shown. -/
  pending : Option Bool
  seenTrue : Bool
  seenFalse : Bool
  deriving DecidableEq, Repr, Inhabited

namespace FairChoice

/-- A choice that has shown nothing yet. -/
def fresh : FairChoice := ⟨none, false, false⟩

/-- The choice after it has shown a side. -/
def shown (c : FairChoice) (pending : Option Bool) (side : Bool) : FairChoice :=
  ⟨pending, c.seenTrue || side, c.seenFalse || !side⟩

/-- The next flip. Only the first of a pair is drawn. -/
def next (c : FairChoice) : Draw (Bool × FairChoice) := do
  match c.pending with
  | some side => return (side, c.shown none side)
  | none =>
    let side ← Draw.flip
    return (side, c.shown (some (!side)) side)

/-- True until both sides have been shown. -/
def hasNext (c : FairChoice) : Bool := !(c.seenTrue && c.seenFalse)

end FairChoice

end Specimen
