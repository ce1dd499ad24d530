import Specimen.Node.Reset
import Specimen.Node.Value
import Specimen.Proofs.Ends
import Specimen.Proofs.Field

/-!
# Changes of the memory

What an evaluation does to the memory is a sequence of a few small changes. They get names here,
and each has simple laws about what it does to the cell of a key; everything else in the memory
is left alone by definition.

The second half reduces the ways to answer (`guarded`, `stateless`, `cached`) and the service of
boundaries to these changes.
-/

namespace Specimen

/-! ### Changes of a cell -/

/-- One more value of the override has been used. -/
def Cell.use (c : Cell) : Cell := { c with used := c.used + 1 }

/-- The cell holds a token. -/
def Cell.hold (token : Nat) (c : Cell) : Cell := { c with token := some token }

/-- The cell holds no token. -/
def Cell.release (c : Cell) : Cell := { c with token := none }

/-- The cell keeps the value of the pass. -/
def Cell.keep (value : Option String) (c : Cell) : Cell := { c with cache := some value }

/-- A position was served. -/
def Cell.serve (position : Int) (c : Cell) : Cell :=
  if c.served.contains position then c else { c with served := position :: c.served }

/-- What the rule says was found out. -/
def Cell.decide (mandatory : Bool) (c : Cell) : Cell := { c with decision := some mandatory }

/-- The choice goes on. -/
def Cell.choose (choice : FairChoice) (c : Cell) : Cell := { c with choice := choice }

/-- The cell is being looked through. -/
def Cell.visit (c : Cell) : Cell := { c with isVisited := true }

/-- The cell is not being looked through. -/
def Cell.leave (c : Cell) : Cell := { c with isVisited := false }

theorem Cell.mem_served_serve {position other : Int} {c : Cell} :
    other ∈ (c.serve position).served ↔ other = position ∨ other ∈ c.served := by
  rw [Cell.serve]
  split
  · next h =>
    refine ⟨.inr, ?_⟩
    rintro (rfl | h_mem)
    · exact List.contains_iff_mem.1 h
    · exact h_mem
  · exact List.mem_cons

@[simp] theorem Cell.serve_override (position : Int) (c : Cell) :
    (c.serve position).override = c.override := by
  rw [Cell.serve]; split <;> rfl

@[simp] theorem Cell.serve_token (position : Int) (c : Cell) :
    (c.serve position).token = c.token := by
  rw [Cell.serve]; split <;> rfl

@[simp] theorem Cell.serve_isVisited (position : Int) (c : Cell) :
    (c.serve position).isVisited = c.isVisited := by
  rw [Cell.serve]; split <;> rfl

@[simp] theorem Cell.serve_cache (position : Int) (c : Cell) :
    (c.serve position).cache = c.cache := by
  rw [Cell.serve]; split <;> rfl

@[simp] theorem Cell.serve_choice (position : Int) (c : Cell) :
    (c.serve position).choice = c.choice := by
  rw [Cell.serve]; split <;> rfl

@[simp] theorem Cell.serve_decision (position : Int) (c : Cell) :
    (c.serve position).decision = c.decision := by
  rw [Cell.serve]; split <;> rfl

@[simp] theorem Cell.serve_used (position : Int) (c : Cell) :
    (c.serve position).used = c.used := by
  rw [Cell.serve]; split <;> rfl

/-! ### Changes of the memory -/

namespace Memory

/-- The cell under a key. -/
def cell (m : Memory) (key : Nat) : Cell := m.cells.get key

theorem cell_update (m : Memory) (key : Nat) (change : Cell → Cell) (other : Nat) :
    (m.update key change).cell other = if other = key then change (m.cell key) else m.cell other :=
  Cells.get_set m.cells key _ other

@[simp] theorem cell_update_self (m : Memory) (key : Nat) (change : Cell → Cell) :
    (m.update key change).cell key = change (m.cell key) := by
  rw [cell_update, if_pos rfl]

theorem cell_update_of_ne (m : Memory) {key other : Nat} (change : Cell → Cell)
    (h : other ≠ key) : (m.update key change).cell other = m.cell other := by
  rw [cell_update, if_neg h]

/-- What a change of cells keeps is the same in all cells. -/
theorem cell_update_keeps {α : Type} (f : Cell → α) (change : Cell → Cell)
    (h : ∀ c, f (change c) = f c) (m : Memory) (key other : Nat) :
    f ((m.update key change).cell other) = f (m.cell other) := by
  rw [cell_update]
  split
  · next h_eq =>
    subst h_eq
    exact h _
  · rfl

/-- The memory with one more token handed out. -/
def nextToken (m : Memory) : Memory := { m with tokens := m.tokens + 1 }

/-- The memory with an event logged. -/
def logged (m : Memory) (e : LogEvent) : Memory := { m with log := e :: m.log }

/-- The memory with other draws to come. -/
def withDraws (m : Memory) (draws : Draws) : Memory := { m with draws := draws }

/-- The memory when a node begins to compute. -/
def begun (m : Memory) (key : Nat) (i : Identity) (c : FieldCase) : Memory :=
  (m.nextToken.update key (Cell.hold m.tokens)).logged (generatingEvent i m.tokens c)

/-- The memory when a position may count as served. -/
def served (m : Memory) (key : Nat) (f : Field) (c : FieldCase) : Memory :=
  if c.isBoundary then m.update key (Cell.serve (f.position c)) else m

@[simp] theorem cell_nextToken (m : Memory) (key : Nat) : m.nextToken.cell key = m.cell key := rfl

@[simp] theorem cell_logged (m : Memory) (e : LogEvent) (key : Nat) :
    (m.logged e).cell key = m.cell key := rfl

@[simp] theorem cell_withDraws (m : Memory) (draws : Draws) (key : Nat) :
    (m.withDraws draws).cell key = m.cell key := rfl

theorem cell_begun (m : Memory) (key : Nat) (i : Identity) (c : FieldCase) (other : Nat) :
    (m.begun key i c).cell other =
      if other = key then (m.cell key).hold m.tokens else m.cell other := by
  rw [begun, cell_logged, cell_update, cell_nextToken, cell_nextToken]

theorem cell_begun_self (m : Memory) (key : Nat) (i : Identity) (c : FieldCase) :
    (m.begun key i c).cell key = (m.cell key).hold m.tokens := by
  rw [cell_begun, if_pos rfl]

theorem cell_begun_of_ne (m : Memory) {key other : Nat} (i : Identity) (c : FieldCase)
    (h : other ≠ key) : (m.begun key i c).cell other = m.cell other := by
  rw [cell_begun, if_neg h]

theorem cell_served (m : Memory) (key : Nat) (f : Field) (c : FieldCase) (other : Nat) :
    (m.served key f c).cell other =
      if other = key ∧ c.isBoundary = true then (m.cell key).serve (f.position c)
      else m.cell other := by
  rw [served]
  split
  · next h => rw [cell_update]; simp [h]
  · next h => simp [h]

/-- A change that changes nothing the second time is made to the cells of all the keys. -/
theorem cell_updateAll (change : Cell → Cell) (h_once : ∀ c, change (change c) = change c)
    (keys : List Nat) (m : Memory) (other : Nat) : (m.updateAll change keys).cell other =
      if other ∈ keys then change (m.cell other) else m.cell other := by
  induction keys generalizing m with
  | nil => rfl
  | cons key keys ih =>
    rw [updateAll, List.foldl_cons]
    refine (ih (m.update key change)).trans ?_
    by_cases h_eq : other = key
    · -- the key may be in the rest again
      subst h_eq
      rw [cell_update_self, h_once, ite_self, if_pos List.mem_cons_self]
    · rw [cell_update_of_ne m change h_eq]
      simp [h_eq]

/-- Nothing but cells changes. -/
theorem updateAll_eq (m : Memory) (change : Cell → Cell) (keys : List Nat) :
    m.updateAll change keys = { m with cells := (m.updateAll change keys).cells } := by
  induction keys generalizing m with
  | nil => rfl
  | cons key keys ih => exact ih (m.update key change)

theorem updateAll_tokens (m : Memory) (change : Cell → Cell) (keys : List Nat) :
    (m.updateAll change keys).tokens = m.tokens ∧ (m.updateAll change keys).draws = m.draws ∧
      (m.updateAll change keys).passes = m.passes := by
  rw [updateAll_eq]
  exact ⟨rfl, rfl, rfl⟩

end Memory

/-! ### Ways to answer -/

section Answers

variable {m : Memory} {good : Option String → Memory → Prop} {bad : Failure → Memory → Prop}

/-- A node that holds no older token computes, and holds a token while it does. -/
theorem ends_guarded {key : Nat} {i : Identity} {c : FieldCase} {generate : Eval (Option String)}
    (h : ∀ held, (m.cell key).token = some held → m.tokens ≤ held) :
    Ends (guarded key i c generate) m good bad ↔
      Ends generate (m.begun key i c) (fun v m' => good v (m'.update key Cell.release))
        fun f m' => bad (f.inNode i.display) (m'.update key Cell.release) := by
  cases h_token : (m.cells.get key).token with
  | none =>
    simp only [guarded, ends_bind, ends_takeToken, ends_cell, h_token, ends_update, ends_ensuring,
      ends_log, ends_inNode]
    exact Iff.rfl
  | some held =>
    simp only [guarded, ends_bind, ends_takeToken, ends_cell, h_token,
      if_neg (Nat.not_lt.2 (h held h_token)), ends_update, ends_ensuring, ends_log, ends_inNode]
    exact Iff.rfl

/-- A node that holds an older token fails. -/
theorem ends_guarded_held {key : Nat} {i : Identity} {c : FieldCase}
    {generate : Eval (Option String)} {held : Nat} (h_token : (m.cell key).token = some held)
    (h_held : held < m.tokens) : Ends (guarded key i c generate) m good bad ↔
      bad (.fault (.reentrant i.display)) m.nextToken := by
  have h_token : (m.cells.get key).token = some held := h_token
  simp only [guarded, ends_bind, ends_takeToken, ends_cell, h_token, if_pos h_held, ends_fail]
  exact Iff.rfl

/-- An override answers the request. -/
theorem ends_overridden {key : Nat} {values : Override}
    {good : Option (Option String) → Memory → Prop} (h : (m.cell key).override = some values) :
    Ends (overridden? key) m good bad ↔
      good (some (values (m.cell key).used)) (m.update key Cell.use) := by
  have h : (m.cells.get key).override = some values := h
  simp only [overridden?, ends_bind, ends_cell, h]
  exact Iff.rfl

theorem ends_overridden_none {key : Nat} {good : Option (Option String) → Memory → Prop}
    (h : (m.cell key).override = none) : Ends (overridden? key) m good bad ↔ good none m := by
  have h : (m.cells.get key).override = none := h
  simp only [overridden?, ends_bind, ends_cell, h]
  exact Iff.rfl

theorem ends_stateless_overridden {key : Nat} {i : Identity} {c : FieldCase}
    {generate : FieldCase → Eval (Option String)} {values : Override}
    (h : (m.cell key).override = some values) : Ends (stateless key i c generate) m good bad ↔
      good (values (m.cell key).used) (m.update key Cell.use) := by
  rw [stateless, ends_bind, ends_overridden h]
  exact Iff.rfl

theorem ends_stateless {key : Nat} {i : Identity} {c : FieldCase}
    {generate : FieldCase → Eval (Option String)} (h : (m.cell key).override = none) :
    Ends (stateless key i c generate) m good bad ↔
      Ends (guarded key i c (generate c)) m good bad := by
  rw [stateless, ends_bind, ends_overridden_none h]

theorem ends_cached_overridden {key : Nat} {i : Identity} {c : FieldCase}
    {generate : FieldCase → Eval (Option String)} {values : Override}
    (h : (m.cell key).override = some values) : Ends (cached key i c generate) m good bad ↔
      good (values (m.cell key).used) (m.update key Cell.use) := by
  rw [cached, ends_bind, ends_overridden h]
  exact Iff.rfl

/-- The value of the pass answers the request. -/
theorem ends_cached_remembered {key : Nat} {i : Identity} {c : FieldCase}
    {generate : FieldCase → Eval (Option String)} {value : Option String}
    (h : (m.cell key).override = none) (h_cache : (m.cell key).cache = some value) :
    Ends (cached key i c generate) m good bad ↔ good (derive c value) m := by
  have h_cache : (m.cells.get key).cache = some value := h_cache
  rw [cached, ends_bind, ends_overridden_none h]
  simp only [ends_bind, ends_cell, h_cache]
  exact Iff.rfl

/-- The first request of a pass computes the value of the pass. -/
theorem ends_cached {key : Nat} {i : Identity} {c : FieldCase}
    {generate : FieldCase → Eval (Option String)}
    (h : (m.cell key).override = none) (h_cache : (m.cell key).cache = none) :
    Ends (cached key i c generate) m good bad ↔
      Ends (guarded key i c.computed (generate c.computed)) m
        (fun v m' => good (derive c v) (m'.update key (Cell.keep (derive c v)))) bad := by
  have h_cache : (m.cells.get key).cache = none := h_cache
  rw [cached, ends_bind, ends_overridden_none h]
  simp only [ends_bind, ends_cell, h_cache]
  exact Iff.rfl

/-- A pending boundary was not served. -/
theorem of_pendingCase? {f : Field} {served : List Int} {c : FieldCase}
    (h : pendingCase? f served = some c) : (c, f.position c) ∈ f.boundaries ∧
      f.position c ∉ served ∧ c.isBoundary = true := by
  obtain ⟨b, h_find, rfl⟩ := Option.map_eq_some_iff.1 h
  have h_mem := List.mem_of_find?_eq_some h_find
  obtain ⟨h_boundary, h_position⟩ := Field.eq_of_mem_boundaries h_mem
  have h_not := List.find?_some h_find
  rw [← h_position]
  exact ⟨h_mem, by simpa using h_not, h_boundary⟩

theorem pendingCase?_eq_none_iff {f : Field} {served : List Int} :
    pendingCase? f served = none ↔ ∀ b ∈ f.boundaries, b.2 ∈ served := by
  rw [pendingCase?, Option.map_eq_none_iff, List.find?_eq_none]
  simp

/-- The case that a field is generated for: on a normal request a pending boundary. -/
def Field.caseFor (f : Field) (served : List Int) (c : FieldCase) : FieldCase :=
  if c = .normal then (pendingCase? f served).getD .normal else c

/-- The failure of a field. -/
def Field.Failure.lift : Field.Failure → Specimen.Failure
  | .fault reason => .fault (.invalidField reason.message)
  | .crash reason => .crash reason

/-- A field serves its position, and then a text is drawn for it. -/
theorem ends_fieldValue {key : Nat} {f : Field} {set : CharacterSet} {c : FieldCase}
    {text : Except Field.Failure String} {draws : Draws}
    (h : f.generate (f.caseFor (m.cell key).served c) set m.draws = (text, draws)) :
    Ends (fieldValue key f set c) m good bad ↔
      (∀ t, text = .ok t →
        good (some t) ((m.served key f (f.caseFor (m.cell key).served c)).withDraws draws)) ∧
      ∀ failure, text = .error failure →
        bad failure.lift ((m.served key f (f.caseFor (m.cell key).served c)).withDraws draws) := by
  generalize h_case : f.caseFor (m.cell key).served c = c' at h ⊢
  have h_draws : (m.served key f c').draws = m.draws := by
    rw [Memory.served]
    split <;> rfl
  -- the text is drawn from the draws that there were before, as serving takes none
  have h_drawn : Eval.draw (f.generate c' set) (m.served key f c') =
      (.ok text, (m.served key f c').withDraws draws) := by
    have h_draw : Eval.draw (f.generate c' set) (m.served key f c') =
      (.ok (f.generate c' set (m.served key f c').draws).1,
        (m.served key f c').withDraws (f.generate c' set (m.served key f c').draws).2) := rfl
    rw [h_draw, h_draws, h]
  -- whether the position counts or not, the rest comes after `Memory.served`
  have h_served : ∀ (rest : PUnit → Eval (Option String)),
      Ends (if c'.isBoundary then serve key (f.position c') >>= rest else rest ⟨⟩) m good bad ↔
        Ends (rest ⟨⟩) (m.served key f c') good bad := by
    intro rest
    rw [Memory.served]
    split
    · rw [ends_bind]
      exact Iff.rfl
    · exact Iff.rfl
  rw [fieldValue, ends_bind, ends_cell]
  rw [Field.caseFor, Memory.cell] at h_case
  simp only [h_case]
  refine (h_served _).trans ?_
  rw [ends_bind_of_ok h_drawn]
  obtain ⟨_ | _⟩ | t := text
  · simp [Field.Failure.lift]
  · simp [Field.Failure.lift]
  · simp

end Answers

end Specimen
