import Specimen.Node.Value

/-!
# Looking through nodes

How many cases a node has, whether some are left, and which ids it reaches is found out by
looking through it and its parts, without generating anything. While a node is looked
through it is marked; reaching a marked node means that references lead in a circle, and
the search fails.

The numbers of cases are those of 64 bits and stay at the greatest one when they would
exceed it.
-/

namespace Specimen

/-- Looks through a node while it is marked. -/
def traverse {α : Type} (key : Nat) (i : Identity) (visit : Eval α) : Eval α := do
  if (← Eval.cell key).isVisited then Eval.fail (.reentrant i.display)
  Eval.update key fun cell => { cell with isVisited := true }
  Eval.ensuring (·.update key fun cell => { cell with isVisited := false })
    (Eval.inNode i.display visit)

/-- The greatest number of cases. -/
def countLimit : Nat := 0xffff_ffff_ffff_ffff

/-- A number of cases, or the greatest one. -/
def saturated (n : Nat) : Nat := min n countLimit

namespace Scope

variable (s : Scope)

/-- The greatest number of cases of some parts, and at least one. -/
def widest (count : Node → Eval Nat) : List Link → Nat → Eval Nat
  | [], most => return most
  | part :: parts, most => do widest count parts (max most (← count (← s.resolve part)))

/-- True when one of some parts has cases left; the parts behind it are not looked at. -/
def anyNext (hasNext : Node → Eval Bool) : List Link → Eval Bool
  | [] => return false
  | part :: parts => do
    if ← hasNext (← s.resolve part) then return true else anyNext hasNext parts

/-- The ids that some parts reach. -/
def reached (contained : Node → Eval NameSet) : List Link → NameSet → Eval NameSet
  | [], ids => return ids
  | part :: parts, ids => do
    let more ← contained (← s.resolve part)
    reached contained parts (more.keys.foldl (fun ids id => ids.insert id ()) ids)

/-- Whether the child has to be generated, as far as it is known without generating. -/
def knownMandatory (cell : Cell) : Config.Mandatory → Option Bool
  | rule =>
    if s.ignoreOptional then some true
    else
      match rule with
      | .fixed always => some always
      | .whenPresent _ => cell.decision

end Scope

namespace Node

/-- The own id of a node as a set. -/
def ownIds (n : Node) : NameSet := NameSet.ofNames n.id.toList

/-- The number of cases of a node. -/
def countCases (s : Scope) : Nat → Node → Eval Nat
  | 0, _ => throw .tooDeep
  | fuel + 1, n =>
    match n.kind with
    | .constant _ => return 1
    | .field f _ => return f.boundaries.length
    | .combined parts _ => traverse n.key n.identity (s.widest (countCases s fuel) parts 1)
    | .optional child _ => traverse n.key n.identity do
      let count ← countCases s fuel (← s.resolve child)
      return saturated (saturated (2 * count) + 1)
    | .source child => traverse n.key n.identity do countCases s fuel (← s.resolve child)

/-- True when cases of a node are left that were not served since the last restart. -/
def hasNextCase (s : Scope) : Nat → Node → Eval Bool
  | 0, _ => throw .tooDeep
  | fuel + 1, n =>
    match n.kind with
    | .constant _ => return (← Eval.cell n.key).served.isEmpty
    | .field f _ => return (pendingCase? f (← Eval.cell n.key).served).isSome
    | .combined parts _ => traverse n.key n.identity (s.anyNext (hasNextCase s fuel) parts)
    | .optional child rule => traverse n.key n.identity do
      let cell ← Eval.cell n.key
      let childHasNext : Eval Bool := do hasNextCase s fuel (← s.resolve child)
      match s.knownMandatory cell rule with
      | some true => childHasNext
      | some false => return cell.choice.hasNext
      -- nothing is decided yet, so either may turn out to count
      | none => if cell.choice.hasNext then return true else childHasNext
    | .source child => traverse n.key n.identity do hasNextCase s fuel (← s.resolve child)

/-- The ids of a node and of all that it reaches through parts. -/
def containedIds (s : Scope) : Nat → Node → Eval NameSet
  | 0, _ => throw .tooDeep
  | fuel + 1, n =>
    match n.kind with
    | .constant _ | .field .. => return n.ownIds
    | kind => traverse n.key n.identity (s.reached (containedIds s fuel) kind.links n.ownIds)

end Node

end Specimen
