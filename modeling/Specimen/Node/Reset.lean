import Specimen.Node.Basic
import Specimen.Node.Memory

/-!
# Starting over

A new pass forgets the values of the last one, and a new enumeration forgets which cases were
served. Both go down to embedded nodes and not through references: what is reached by
reference belongs elsewhere and is reset there.
-/

namespace Specimen

/-- The cell without the value of the pass. -/
def Cell.forgetValue (c : Cell) : Cell := { c with cache := none }

/-- The cell without what was served and decided. -/
def Cell.forgetCases (c : Cell) : Cell :=
  { c with served := [], choice := .fresh, decision := none }

mutual

/-- The keys of a node and of those embedded in it. -/
def Node.keys : Node → List Nat
  | .mk key _ kind => key :: kind.keys

/-- The keys of the nodes embedded in one of a kind. -/
def NodeKind.keys : NodeKind → List Nat
  | .constant _ | .field .. => []
  | .combined parts _ => Link.listKeys parts
  | .optional child _ | .source child => child.keys

/-- The keys of the node embedded by a link. -/
def Link.keys : Link → List Nat
  | .reference _ => []
  | .embedded n => n.keys

/-- The keys of the nodes embedded by links. -/
def Link.listKeys : List Link → List Nat
  | [] => []
  | link :: links => link.keys ++ Link.listKeys links

end

namespace Memory

/-- The memory with the cells of some keys changed. -/
def updateAll (m : Memory) (change : Cell → Cell) (keys : List Nat) : Memory :=
  keys.foldl (fun m key => m.update key change) m

/-- Forgets the value of the pass of a node and of those embedded in it. -/
def resetValues (n : Node) (m : Memory) : Memory := m.updateAll Cell.forgetValue n.keys

/-- Forgets which cases a node and those embedded in it have served. -/
def resetCases (n : Node) (m : Memory) : Memory := m.updateAll Cell.forgetCases n.keys

end Memory

end Specimen
