import Specimen.Dict

/-!
# Dependencies between ids

Some ids need others before them. `Dependencies.report` puts all ids into an order in which
every id comes after those it needs. Of the ids that could come next the least one does,
so there is one answer for each set of dependencies. When at some point no id is left whose
needs are all placed, the ids that are left are reported instead: each of them is on a
cycle or needs, in one or more steps, an id that is.
-/

namespace Specimen

/-- The ids that each id needs. -/
abbrev Dependencies := Dict NameSet

namespace Dependencies

/-- What comes of ordering ids. -/
inductive Outcome where
  /-- All ids, each after those it needs. -/
  | order (ids : List String)
  /-- The ids that cannot be placed. -/
  | cycle (ids : List String)
  deriving DecidableEq, Repr

/-- The numbers of ids and of dependencies, and the order of the ids. -/
structure Report where
  nodes : Nat
  edges : Nat
  outcome : Outcome
  deriving DecidableEq, Repr

variable (d : Dependencies)

/-- The ids that an id needs, in order. -/
def needs (id : String) : List String := ((d.get? id).map Dict.keys).getD []

/-- All ids that need others or are needed. -/
def ids : NameSet := NameSet.ofNames (d.keys ++ d.keys.flatMap d.needs)

/-- An id together with its need of another one. -/
def addNeed (id needed : String) : Dependencies :=
  d.insert id (((d.get? id).getD .empty).insert needed ())

/-- An id, which may need nothing. -/
def addId (id : String) : Dependencies :=
  match d.get? id with
  | some _ => d
  | none => d.insert id .empty

/-- True when nothing that an id needs is among the ids that are left. -/
def isReady (left : List String) (id : String) : Bool :=
  (d.needs id).all fun needed => !left.contains needed

/-- Places the least ready id of those that are left, and so on as long as there is one.
Answers the ids placed, in order, and those that are left in the end. -/
def place : Nat → List String → List String × List String
  | 0, left => ([], left)
  | fuel + 1, left =>
    match left.find? (d.isReady left) with
    | none => ([], left)
    | some id =>
      let (placed, stuck) := place fuel (left.erase id)
      (id :: placed, stuck)

/-- The order of all ids, or those that cannot be placed. -/
def outcome : Outcome :=
  let all := d.ids.keys
  match d.place all.length all with
  | (placed, []) => .order placed
  | (_, stuck) => .cycle stuck

/-- The ids, dependencies and order. -/
def report : Report where
  nodes := d.ids.size
  edges := d.keys.foldl (fun n id => n + (d.needs id).length) 0
  outcome := d.outcome

end Dependencies

end Specimen
