import Specimen.FairChoice
import Specimen.Field
import Specimen.Log
import Specimen.Node.Fault

/-!
# What nodes remember

Each node has a cell in which it remembers what it needs between requests: the value of the
present pass, which boundaries it has served, what it decided last, and whether it is being
evaluated just now. `Memory` holds the cells together with what all nodes share: the number
of tokens handed out, the random stream and the number of data sets.

* `Cells` is a store of cells that are all fresh at first; `Cells.get_set` says what setting
  one does.
* `Eval` is an evaluation that changes the memory whether it succeeds or not.
* `Eval.ensuring` does something to the memory in either case.
-/

namespace Specimen

/-- The values that a node is fixed to: the n-th request for one yields the n-th of them. -/
abbrev Override := Nat → Option String

/-- What one node remembers. -/
structure Cell where
  /-- The values that the node is fixed to, if it is. -/
  override : Option Override
  /-- How many values of the override have been used. -/
  used : Nat
  /-- The token of the evaluation that the node is in. -/
  token : Option Nat
  /-- True while the node is being looked through. -/
  isVisited : Bool
  /-- The value of the present pass, once there is one. -/
  cache : Option (Option String)
  /-- The positions of the boundaries that were served since the last restart. -/
  served : List Int
  choice : FairChoice
  /-- The latest decision whether the child has to be generated, since the last restart. -/
  decision : Option Bool

/-- The cell of a node that was never asked for anything. -/
def Cell.fresh : Cell where
  override := none
  used := 0
  token := none
  isVisited := false
  cache := none
  served := []
  choice := .fresh
  decision := none

instance : Inhabited Cell := ⟨.fresh⟩

/-- Cells by key, all of them fresh at first. -/
structure Cells where
  array : Array Cell

namespace Cells

/-- Only fresh cells. -/
def fresh : Cells := ⟨#[]⟩

/-- The cell under a key. -/
def get (c : Cells) (key : Nat) : Cell := c.array.getD key .fresh

/-- The cells with one of them set. -/
def set (c : Cells) (key : Nat) (cell : Cell) : Cells :=
  if key < c.array.size then ⟨c.array.setIfInBounds key cell⟩
  else ⟨(c.array ++ Array.replicate (key - c.array.size) Cell.fresh).push cell⟩

instance : Inhabited Cells := ⟨.fresh⟩

@[simp] theorem get_fresh (key : Nat) : fresh.get key = .fresh := by simp [get, fresh]

/-- Setting a cell changes this one only. -/
theorem get_set (c : Cells) (key : Nat) (cell : Cell) (other : Nat) :
    (c.set key cell).get other = if other = key then cell else c.get other := by
  simp only [get, set, Array.getD_eq_getD_getElem?]
  split
  · next h =>
    simp only [Array.getElem?_setIfInBounds]
    by_cases he : other = key
    · subst he; simp [h]
    · simp [Ne.symm he, he]
  · next h =>
    simp only [Array.getElem?_push, Array.size_append, Array.size_replicate]
    have hsize : c.array.size + (key - c.array.size) = key := by omega
    rw [hsize]
    by_cases he : other = key
    · simp [he]
    · simp only [he, if_false]
      rw [Array.getElem?_append]
      by_cases hlt : other < c.array.size
      · simp [hlt]
      · simp only [hlt, if_false, Array.getElem?_replicate]
        have : c.array[other]? = none := by simp; omega
        rw [this]
        split <;> rfl

@[simp] theorem get_set_self (c : Cells) (key : Nat) (cell : Cell) :
    (c.set key cell).get key = cell := by simp [get_set]

end Cells

/-- What all nodes of a generator remember. -/
structure Memory where
  cells : Cells
  /-- How many tokens have been handed out. -/
  tokens : Nat
  draws : Draws
  /-- How many passes were begun. -/
  passes : Nat
  /-- What happened, the latest first. -/
  log : List LogEvent
  deriving Inhabited

namespace Memory

/-- The memory of nodes that were never asked for anything. -/
def ofSeed (seed : UInt64) : Memory := ⟨.fresh, 0, .ofSeed seed, 0, []⟩

/-- The memory with one cell changed. -/
def update (m : Memory) (key : Nat) (change : Cell → Cell) : Memory :=
  { m with cells := m.cells.set key (change (m.cells.get key)) }

end Memory

/-- Why an evaluation has no answer. -/
inductive Failure where
  | fault (f : Fault)
  /-- The program breaks off. -/
  | crash (c : Crash)
  /-- More evaluations are nested than there are nodes to evaluate. -/
  | tooDeep
  deriving DecidableEq, Repr

/-- An evaluation: it answers or fails, and changes the memory in either case. -/
abbrev Eval := ExceptT Failure (StateM Memory)

namespace Eval

variable {α : Type}

/-- Fails. -/
def fail (f : Fault) : Eval α := throw (.fault f)

/-- The cell under a key. -/
def cell (key : Nat) : Eval Cell := return (← get).cells.get key

/-- Changes the cell under a key. -/
def update (key : Nat) (change : Cell → Cell) : Eval Unit := modify fun m => m.update key change

/-- Logs an event. -/
def log (e : LogEvent) : Eval Unit := modify fun m => { m with log := e :: m.log }

/-- Draws from the random stream. -/
def draw (d : Draw α) : Eval α := do
  let m ← get
  let (a, draws) := d m.draws
  set { m with draws := draws }
  return a

/-- The next token. -/
def takeToken : Eval Nat := do
  let m ← get
  set { m with tokens := m.tokens + 1 }
  return m.tokens

/-- Does something to the memory after an evaluation, whether it answered or failed. -/
def ensuring (always : Memory → Memory) (e : Eval α) : Eval α := ExceptT.mk fun m =>
  let (result, m) := e m
  (result, always m)

/-- Names a node in the faults of an evaluation. -/
def inNode (node : String) (e : Eval α) : Eval α := ExceptT.mk fun m =>
  match e m with
  | (.error (.fault f), m) => (.error (.fault (.inNode node f)), m)
  | other => other

end Eval

end Specimen
