import Specimen.Field

/-!
# Nodes

A node generates the values of one constraint. Nodes have the shape of the constraints that
they were built from: a part is either a node of its own, embedded in the one above, or a
reference that is looked up by id when it is needed.

What a node remembers between requests is kept apart, under its key
(`Specimen.Node.Memory`). Two nodes of one generator never have the same key, however often
one of them is reached by reference.

A constraint is known by its own id or, when it has none, by the nearest id above it. It
draws its characters from the nearest set that is named at it or above it.
-/

namespace Specimen

/-! ### Identities -/

/-- What a constraint is called, and which character set it inherits. -/
structure Identity where
  id : Option String
  /-- The own id, or else the nearest one above. -/
  lastId : String
  charset : Option String
  deriving DecidableEq, Repr, Inhabited

namespace Identity

/-- The name of constraints without an id at or above them. -/
def anonymous : String := "<anonymous>"

/-- The identity of a constraint with nothing above it. -/
def root (id charset : Option String) : Identity := ⟨id, id.getD anonymous, charset⟩

/-- The identity of a constraint inside another one. -/
def child (parent : Identity) (id charset : Option String) : Identity :=
  ⟨id, id.getD parent.lastId, charset.or parent.charset⟩

/-- How messages name the constraint. -/
def display (i : Identity) : String :=
  match i.id with
  | some id => id
  | none => i.lastId ++ " (anonymous child)"

end Identity

/-! ### Nodes -/

mutual

/-- A node: its key, what it is called, and how its values come about. -/
inductive Node where
  | mk (key : Nat) (identity : Identity) (kind : NodeKind)

/-- How the values of a node come about. -/
inductive NodeKind where
  | constant (value : String)
  | field (field : Field) (charset : CharacterSet)
  | combined (parts : List Link) (separator : String)
  | optional (child : Link) (mandatory : Config.Mandatory)
  | source (child : Link)

/-- A part of a node. -/
inductive Link where
  | reference (id : String)
  | embedded (node : Node)

end

instance : Inhabited NodeKind := ⟨.constant ""⟩
instance : Inhabited Node := ⟨.mk 0 default default⟩

namespace Node

/-- The key of what a node remembers. -/
def key : Node → Nat
  | mk key _ _ => key

/-- What a node is called. -/
def identity : Node → Identity
  | mk _ identity _ => identity

/-- How the values of a node come about. -/
def kind : Node → NodeKind
  | mk _ _ kind => kind

/-- The id of a node, if it has one of its own. -/
def id (n : Node) : Option String := n.identity.id

/-- How messages name a node. -/
def display (n : Node) : String := n.identity.display

end Node

/-- The parts of a node of this kind. -/
def NodeKind.links : NodeKind → List Link
  | constant _ | field .. => []
  | combined parts _ => parts
  | optional child _ | source child => [child]

end Specimen
