import Specimen.Config.Check
import Specimen.DataSet
import Specimen.Graph
import Specimen.Node.Cases
import Specimen.Node.Reset

/-!
# Generators

A generator holds the graph of nodes of a configuration and knows which of them are roots.
A pass asks every root for a value for one case and puts the answers into a data set; the
nodes remember what they need for this in a `Memory`, which every request takes and changes.

* `Generator.ofConfig` builds the generator of a configuration that was found fit for use.
* `Generator.value` asks one node, `Generator.generate` runs a pass, and
  `Generator.enumerate` runs passes until no root has cases left or a limit is reached.
* No request nests deeper than `Generator.fuel`.
-/

namespace Specimen

/-- How a generator generates. -/
structure GeneratorOptions where
  /-- The seed, before that of the configuration. -/
  seed : Option UInt64 := none
  /-- Generate optional nodes always. -/
  ignoreOptional : Bool := false
  /-- Take a fixed seed if there is none. -/
  testMode : Bool := false
  /-- The ids whose values get the number of the data set appended. -/
  indexed : NameSet := .empty
  deriving Inhabited

/-- The seed of a generator: the one of the options, or else that of the configuration, or
else a fixed one in test mode and a random one otherwise. -/
def GeneratorOptions.chooseSeed (o : GeneratorOptions) (ofConfig : Option UInt64)
    (random : UInt64) : UInt64 :=
  (o.seed.or ofConfig).getD (if o.testMode then 0 else random)

/-- The nodes of a configuration and how values are generated. -/
structure Generator where
  graph : Graph
  roots : List String
  seed : UInt64
  ignoreOptional : Bool
  indexed : NameSet
  deriving Inhabited

namespace Generator

/-- A generator of a graph. -/
def ofGraph (graph : Graph) (roots : List String) (o : GeneratorOptions)
    (configSeed : Option UInt64) (random : UInt64) : Generator where
  graph
  roots
  seed := o.chooseSeed configSeed random
  ignoreOptional := o.ignoreOptional
  indexed := o.indexed

/-- A generator without nodes. -/
def empty (o : GeneratorOptions) (random : UInt64) : Generator :=
  ofGraph (.empty .builtin) [] o none random

/-- The generator of a configuration. -/
def ofConfig (c : Config) (o : GeneratorOptions) (random : UInt64) : Except Fault Generator :=
  let report := c.check
  if report.isOk then
    match (Graph.buildConfig c).run (.empty .builtin) with
    | (.ok roots, graph) => .ok (ofGraph graph roots o c.seed random)
    | (.error fault, _) => .error fault
  else .error (.invalidConfig report.summary)

/-- The memory of a generator that has not generated anything. -/
def freshMemory (g : Generator) : Memory := .ofSeed g.seed

/-- The generator with one more root. The key of the node and of those embedded in it must
be at least the size of the graph and below the new size. -/
def addRoot (g : Generator) (n : Node) (size : Nat) : Except Fault Generator :=
  match n.id with
  | none => .error (.invalidConfig "root constraints require an id")
  | some id =>
    match (Graph.register n).run g.graph with
    | (.ok _, graph) =>
      .ok { g with graph := { graph with size := size }, roots := g.roots ++ [id] }
    | (.error fault, _) => .error fault

/-- The nodes that references lead to. -/
def scope (g : Generator) : Scope := ⟨g.graph.nodes, g.ignoreOptional⟩

/-- How deep requests nest: there is at most one for each node, and the one that fails
because its node is being evaluated already. -/
def fuel (g : Generator) : Nat := g.graph.size + 1

variable (g : Generator)

/-- The node with an id. -/
def find (id : String) : Eval Node := g.scope.find id

/-! ### One node -/

/-- The value of a node for a case. -/
def nodeValue (n : Node) (c : FieldCase) : Eval (Option String) := n.value g.scope g.fuel c

/-- The number of cases of a node. -/
def nodeCount (n : Node) : Eval Nat := n.countCases g.scope g.fuel

/-- True when a node has cases left. -/
def nodeHasNext (n : Node) : Eval Bool := n.hasNextCase g.scope g.fuel

/-- The value of an id for a case. -/
def value (id : String) (c : FieldCase) : Eval (Option String) := do
  g.nodeValue (← g.find id) c

/-- An id and all ids that it reaches. -/
def containedIds (id : String) : Eval NameSet := do
  (← g.find id).containedIds g.scope g.fuel

/-- Fixes the values of an id, or makes it free again. -/
def setOverride (id : String) (values : Option Override) : Eval Unit := do
  Eval.update (← g.find id).key fun cell => { cell with override := values, used := 0 }

/-- Fixes every id that a data set fixes, and makes the others free. -/
def applyFixed (d : DataSet) : Eval Unit := do
  for id in g.graph.ids do
    g.setOverride id ((d.fixed.get? id).map fun value _ => some value)

/-! ### All roots -/

/-- Does something to the memory for each root. -/
def forRoots (act : Node → Memory → Memory) : List String → Eval Unit
  | [] => return
  | id :: ids => do
    let n ← g.find id
    modify (act n)
    forRoots act ids

/-- Forgets the values of the last pass. -/
def resetValues : Eval Unit := g.forRoots Memory.resetValues g.roots

/-- Forgets which cases were served. -/
def resetCases : Eval Unit := g.forRoots Memory.resetCases g.roots

/-- The number of cases: all roots go on together, so it is that of the one with the most. -/
def countCases : Eval Nat := go 0 g.roots
where
  /-- The greatest number of some roots and of those before them. -/
  go (most : Nat) : List String → Eval Nat
    | [] => return most
    | id :: ids => do go (max most (← g.nodeCount (← g.find id))) ids

/-- True when a root has cases left. -/
def hasNextCase : Eval Bool := go g.roots
where
  /-- True when one of some roots has. -/
  go : List String → Eval Bool
    | [] => return false
    | id :: ids => do if ← g.nodeHasNext (← g.find id) then return true else go ids

/-! ### Passes -/

/-- The value that a data set gets for a root: indexed ones have the number of the data set
appended. -/
def stored (number : Nat) (id : String) (value : Option String) : Option String :=
  if g.indexed.contains id then value.map (· ++ toString number) else value

/-- Puts the values of roots for a case into a data set. -/
def fill (c : FieldCase) (number : Nat) : List String → DataSet → Eval DataSet
  | [], d => return d
  | id :: ids, d => do fill c number ids (d.put id (g.stored number id (← g.value id c)))

/-- The event that a data set was generated. -/
def generatedEvent (number : Nat) (c : FieldCase) : LogEvent :=
  .said .info "casegen_engine::generator" "data set generated" [
    ("data_set", .nat number), ("case", .string c.name), ("values", .nat g.roots.length)]

/-- Begins a pass: answers its number. -/
def beginPass : Eval Nat := do
  let m ← get
  set { m with passes := m.passes + 1 }
  g.resetValues
  return m.passes + 1

/-- The data set of one pass for a case. -/
def generate (c : FieldCase) : Eval DataSet := do
  let number ← g.beginPass
  let d ← g.fill c number g.roots .empty
  Eval.log (g.generatedEvent number c)
  return d

/-- The data sets of a number of passes, put before others. -/
def generateMany (c : FieldCase) : Nat → List DataSet → Eval (List DataSet)
  | 0, done => return done.reverse
  | n + 1, done => do generateMany c n ((← g.generate c) :: done)

/-- The event that an enumeration was stopped. -/
def limitEvent (limit : Nat) : LogEvent :=
  .said .warn "casegen_engine::generator" "case enumeration stopped at limit" [
    ("limit", .nat limit)]

/-- The data sets of passes as long as a root has cases left, at most as many as are still
allowed, put behind others. -/
def goOn (limit : Nat) : Nat → List DataSet → Eval (List DataSet)
  | allowed, done => do
    if ← g.hasNextCase then
      match allowed with
      | 0 =>
        Eval.log (limitEvent limit)
        return done.reverse
      | allowed + 1 => do goOn limit allowed ((← g.generate .normal) :: done)
    else return done.reverse

/-- The data sets of an enumeration of all cases, at most as many as the limit. -/
def enumerate (limit : Nat) : Eval (List DataSet) := do
  g.resetCases
  g.goOn limit limit []

/-! ### Events -/

/-- The ids that are indexed but are not roots. -/
def strayIndexed : List String := g.indexed.keys.filter fun id => !g.roots.contains id

/-- What happened when the generator was built. -/
def builtEvents : List LogEvent :=
  .said .debug "casegen_engine::factory" "constraint tree built" [
      ("constraints", .nat g.graph.nodes.size), ("roots", .nat g.roots.length)] ::
    (g.strayIndexed.map fun id =>
      .said .warn "casegen_engine::generator" "indexed field is not a top-level constraint" [
        ("id", .string id)]) ++
    [.said .info "casegen_engine::generator" "generator ready" [
      ("constraints", .nat g.graph.nodes.size), ("roots", .nat g.roots.length),
      ("seed", .nat g.seed.toNat)]]

end Generator

end Specimen
