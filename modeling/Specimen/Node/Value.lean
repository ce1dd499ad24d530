import Specimen.Node.Basic
import Specimen.Node.Memory
import Specimen.Text.White

/-!
# Values of nodes

A node is asked for a value for a case and answers a text or null. An override answers every
request for its node. Constants and sources compute their answer anew each time; fields,
combinations and optional nodes compute one value in a pass, on the first request, and
derive all answers of that pass from it.

While a node computes, it holds a token. Tokens are handed out in ascending order, so a node
that holds one when it is to begin another computation depends on itself: the request fails
instead of going on forever. It follows that computations nest no deeper than there are
nodes, and one more for the request that fails; this is the fuel of `Node.value`.

* `guarded`, `stateless` and `cached` are the three ways to answer a request, given how a
  value is generated.
* `Node.answer` is the answer of a node, given how other nodes are asked.
* `Node.value` ties the knot.
-/

namespace Specimen

/-- The nodes that references lead to, and whether optional nodes always generate. -/
structure Scope where
  nodes : Dict Node
  ignoreOptional : Bool

namespace Scope

/-- The node with an id. -/
def find (s : Scope) (id : String) : Eval Node :=
  match s.nodes.get? id with
  | some n => return n
  | none => Eval.fail (.unknownId id)

/-- The node that a link leads to. -/
def resolve (s : Scope) : Link → Eval Node
  | .reference id => s.find id
  | .embedded n => return n

end Scope

/-! ### Ways to answer -/

/-- The event that a node begins to compute. -/
def generatingEvent (i : Identity) (token : Nat) (c : FieldCase) : LogEvent :=
  .said .debug "casegen_engine::constraints::base" "generating" [
    ("node", .string i.display), ("token", .nat token), ("case", .string c.name)]

/-- Computes a value while the node holds a new token. Fails if it holds an older one. -/
def guarded (key : Nat) (i : Identity) (c : FieldCase) (generate : Eval (Option String)) :
    Eval (Option String) := do
  let token ← Eval.takeToken
  -- an older token means that this very node is waiting for the answer
  match (← Eval.cell key).token with
  | some held => if held < token then Eval.fail (.reentrant i.display)
  | none => pure ()
  Eval.update key fun cell => { cell with token := some token }
  Eval.ensuring (·.update key fun cell => { cell with token := none }) do
    Eval.log (generatingEvent i token c)
    Eval.inNode i.display generate

/-- The next value of the override of a node, if there is one. -/
def overridden? (key : Nat) : Eval (Option (Option String)) := do
  let cell ← Eval.cell key
  match cell.override with
  | none => return none
  | some values =>
    Eval.update key fun cell => { cell with used := cell.used + 1 }
    return some (values cell.used)

/-- Answers with what is generated for the case. -/
def stateless (key : Nat) (i : Identity) (c : FieldCase)
    (generate : FieldCase → Eval (Option String)) : Eval (Option String) := do
  match ← overridden? key with
  | some value => return value
  | none => guarded key i c (generate c)

/-- What a request for a case makes of a value: a blank request blanks it, and a null request
answers null. -/
def derive (c : FieldCase) (value : Option String) : Option String :=
  match c with
  | .blank => value.map Text.blanked
  | .null => none
  | _ => value

/-- The case that a value is computed for, if a case is the first in a pass. -/
def FieldCase.computed : FieldCase → FieldCase
  | .blank => .standard
  | c => c

/-- Answers with what the case makes of the value of the pass. On the first request of a pass
this value is what the case makes of a generated one. -/
def cached (key : Nat) (i : Identity) (c : FieldCase)
    (generate : FieldCase → Eval (Option String)) : Eval (Option String) := do
  match ← overridden? key with
  | some value => return value
  | none =>
    match (← Eval.cell key).cache with
    | some value => return derive c value
    | none =>
      let value := derive c (← guarded key i c.computed (generate c.computed))
      -- what is kept is already blanked or null, if the first request was
      Eval.update key fun cell => { cell with cache := some value }
      return value

/-! ### Kinds of nodes -/

/-- The first boundary of a field that was not served yet. -/
def pendingCase? (f : Field) (served : List Int) : Option FieldCase :=
  (f.boundaries.find? fun b => !served.contains b.2).map (·.1)

/-- Marks a position as served. -/
def serve (key : Nat) (position : Int) : Eval Unit :=
  Eval.update key fun cell =>
    if cell.served.contains position then cell
    else { cell with served := position :: cell.served }

/-- The value of a constant for a case. -/
def constantValue (key : Nat) (value : String) (c : FieldCase) : Eval (Option String) :=
  match c with
  | .null => return none
  | .blank => return some (Text.blanked value)
  | _ => do
    serve key 0
    return some value

/-- The value of a field for a case. A normal request is served with a boundary as long as
one is pending. -/
def fieldValue (key : Nat) (f : Field) (charset : CharacterSet) (c : FieldCase) :
    Eval (Option String) := do
  let cell ← Eval.cell key
  let c := if c = .normal then (pendingCase? f cell.served).getD .normal else c
  if c.isBoundary then serve key (f.position c)
  match ← Eval.draw (f.generate c charset) with
  | .ok value => return some value
  | .error (.fault fault) => Eval.fail (.invalidField fault.message)
  | .error (.crash crash) => throw (.crash crash)

namespace Scope

variable (s : Scope) (ask : Node → FieldCase → Eval (Option String))

/-- The values of parts for a case, without those that are null. -/
def partValues (c : FieldCase) : List Link → Eval (List String)
  | [] => return []
  | part :: parts => do
    let value ← ask (← s.resolve part) c
    let values ← partValues c parts
    return value.toList ++ values

/-- Values joined, or null if there are none. -/
def joined (separator : String) (values : List String) : Option String :=
  if values.isEmpty then none else some (separator.intercalate values)

/-- True when a rule says that the child has to be generated. -/
def isMandatory (rule : Config.Mandatory) : Eval Bool :=
  if s.ignoreOptional then return true
  else
    match rule with
    | .fixed always => return always
    | .whenPresent id => do
      let value ← ask (← s.find id) .normal
      return (value.map Text.isPresent).getD false

/-- Decides whether the child of an optional node is generated on a normal request: it is if
the rule says so, and otherwise every other time. -/
def decide (key : Nat) (rule : Config.Mandatory) : Eval Bool := do
  let mandatory ← s.isMandatory ask rule
  Eval.update key fun cell => { cell with decision := some mandatory }
  if mandatory then return true
  else
    let (chosen, choice) ← Eval.draw (← Eval.cell key).choice.next
    Eval.update key fun cell => { cell with choice := choice }
    return chosen

/-- The value of an optional node for a case. A child that is not generated is asked for
null. -/
def optionalValue (key : Nat) (child : Link) (rule : Config.Mandatory) (c : FieldCase) :
    Eval (Option String) := do
  if c = .null then return none
  let child ← s.resolve child
  let isPresent ← if c.isExplicit then pure true else s.decide ask key rule
  ask child (if isPresent then c else .null)

end Scope

namespace Node

/-- The answer of a node to a request for a case, given how other nodes are asked. -/
def answer (s : Scope) (ask : Node → FieldCase → Eval (Option String)) (n : Node)
    (c : FieldCase) : Eval (Option String) :=
  match n.kind with
  | .constant value => stateless n.key n.identity c (constantValue n.key value)
  | .field f charset => cached n.key n.identity c (fieldValue n.key f charset)
  | .combined parts separator => cached n.key n.identity c fun c => do
    return Scope.joined separator (← s.partValues ask c parts)
  | .optional child rule => cached n.key n.identity c (s.optionalValue ask n.key child rule)
  | .source child => stateless n.key n.identity c fun c => do ask (← s.resolve child) c

/-- The value of a node for a case, with requests nested at most as deep as the fuel says. -/
def value (s : Scope) : Nat → Node → FieldCase → Eval (Option String)
  | 0, _, _ => throw .tooDeep
  | fuel + 1, n, c => n.answer s (value s fuel) c

end Node

end Specimen
