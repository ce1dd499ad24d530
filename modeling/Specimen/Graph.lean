import Specimen.Config.Model
import Specimen.Node.Basic
import Specimen.Node.Fault

/-!
# Graphs of nodes

A graph holds the nodes that were built from constraints, by id. Nodes are built from the
inside out: first the embedded ones, then the one around them, and each is registered under
its id as soon as it is built. Ids that references and rules name are noted and have to be
registered in the end.

Every node that is built gets a key that no other node of the graph has.

* `Graph.build` builds a node below another one, and `Graph.buildConfig` those of a whole
  configuration.
* `Graph.verifyReferences` finds an id that is named but not registered.
-/

namespace Specimen

/-- Nodes by id, and what is needed to build more. -/
structure Graph where
  nodes : Dict Node
  charsets : CharacterSets
  /-- The ids that references and rules name. -/
  named : NameSet
  /-- The keys in use are those below this. -/
  size : Nat
  deriving Inhabited

/-- A step of building: it answers or fails, and changes the graph in either case. -/
abbrev Build := ExceptT Fault (StateM Graph)

namespace Graph

/-- The graph without nodes. -/
def empty (charsets : CharacterSets) : Graph := ⟨.empty, charsets, .empty, 0⟩

/-- The ids of nodes. -/
def ids (g : Graph) : List String := g.nodes.keys

/-- A key that is not in use yet. -/
def freshKey : Build Nat := do
  let g ← get
  set { g with size := g.size + 1 }
  return g.size

/-- Notes an id that a reference or a rule names. -/
def name (id : String) : Build Unit := modify fun g => { g with named := g.named.insert id () }

/-- Registers a node under its id. A node without an id is not registered. -/
def register (n : Node) : Build Unit := do
  match n.id with
  | none => return
  | some id =>
    if (← get).nodes.contains id then throw (.duplicateId id)
    modify fun g => { g with nodes := g.nodes.insert id n }

/-- The field of a declaration. -/
def fieldOf (i : Identity) (spec : Config.FieldSpec) : Build Field :=
  match Field.ofSpec spec with
  | .ok f => return f
  | .error fault => throw (.inNode i.display (.invalidField fault.message))

/-- The character set of a node. -/
def charsetOf (i : Identity) : Build CharacterSet := do
  match (← get).charsets.find (i.charset.getD CharacterSets.standardId) with
  | .ok set => return set
  | .error e => throw (.charset e)

/-- The identity of a constraint below another one, or at the top. -/
def identityOf (above : Option Identity) (id charset : Option String) : Identity :=
  match above with
  | some parent => parent.child id charset
  | none => .root id charset

mutual

/-- Builds and registers the node of a constraint and those embedded in it. -/
def build (above : Option Identity) : Config.Constraint → Build Node
  | .mk id charset kind => do
    let i := identityOf above id charset
    let kind ← buildKind i kind
    let n := Node.mk (← freshKey) i kind
    register n
    return n

/-- Builds what generates the values of a constraint. -/
def buildKind (i : Identity) : Config.Kind → Build NodeKind
  | .constant value => return .constant value
  | .field spec => do
    let f ← fieldOf i spec
    return .field f (← charsetOf i)
  | .combined parts separator => do return .combined (← buildParts i parts) separator
  | .optional child rule => do
    let child ← buildLink i child
    match rule with
    | .fixed _ => pure ()
    | .whenPresent id => name id
    return .optional child rule
  | .source child => do return .source (← buildLink i child)

/-- Builds the link to a part. -/
def buildLink (i : Identity) : Config.Child → Build Link
  | .reference id => do
    name id
    return .reference id
  | .embedded c => do return .embedded (← build (some i) c)

/-- Builds the links to parts. -/
def buildParts (i : Identity) : List Config.Child → Build (List Link)
  | [] => return []
  | c :: cs => do
    let link ← buildLink i c
    return link :: (← buildParts i cs)

end

/-- Declares a character set. -/
def declareCharset (id chars : String) : Build Unit := do
  match (← get).charsets.declare id chars with
  | .ok sets => modify fun g => { g with charsets := sets }
  | .error e => throw (.charset e)

/-- Declares character sets in order. -/
def declareCharsets : List (String × String) → Build Unit
  | [] => return
  | (id, chars) :: rest => do
    declareCharset id chars
    declareCharsets rest

/-- The least id that is named but not registered. -/
def missingId? (g : Graph) : Option String := g.named.keys.find? fun id => !g.nodes.contains id

/-- Fails if an id is named but not registered. -/
def verifyReferences (g : Graph) : Except Fault Unit :=
  match g.missingId? with
  | some id => .error (.unknownId id)
  | none => .ok ()

/-- Builds the constraints of the top level, each of which needs an id. Answers the ids. -/
def buildRoots : List Config.Constraint → Build (List String)
  | [] => return []
  | c :: cs => do
    match (← build none c).id with
    | none => throw (.invalidConfig ("top-level " ++ c.kind.name ++ " constraint requires an id"))
    | some id => return id :: (← buildRoots cs)

/-- Builds a configuration. Answers the ids of its constraints of the top level. -/
def buildConfig (c : Config) : Build (List String) := do
  declareCharsets c.charsets.entries
  let roots ← buildRoots c.constraints
  match (← get).verifyReferences with
  | .ok _ => return roots
  | .error fault => throw fault

/-- The graph without its nodes and names, for building nodes that go with its own. -/
def apart (g : Graph) : Graph := { g with nodes := .empty, named := .empty }

end Graph

end Specimen
