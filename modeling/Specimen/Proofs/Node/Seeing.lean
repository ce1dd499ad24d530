import Specimen.Node.Cases
import Specimen.Proofs.Node.Memory

/-!
# What a search sees

An evaluation is run on two memories that are related in some way. It respects the relation if it
ends in the same way on both and leaves related memories behind (`Respects`). This is closed under
the ways to put evaluations together.

`Comparable` says what a relation has to guarantee so that whatever looks through nodes respects it:
counting cases, asking whether one is left and collecting ids. The induction on the fuel needs
nothing else. No node has to be told apart from another, and references may lead in circles.

A search for cases that are left reads cells and nothing else of the memory: neither the random
stream nor the tokens, the number of passes or the log. On memories with the same cells it ends in
the same way and leaves the same cells behind (`Node.hasNextCase_seesCells`).
-/

namespace Specimen

variable {α β : Type}

/-- On related memories an evaluation ends in the same way and leaves related memories. -/
def Respects (R : Memory → Memory → Prop) (e : Eval α) : Prop :=
  ∀ m m' : Memory, R m m' → (e m').1 = (e m).1 ∧ R (e m).2 (e m').2

namespace Respects

variable {R : Memory → Memory → Prop}

theorem pure (a : α) : Respects R (Pure.pure a : Eval α) := fun _ _ h => ⟨rfl, h⟩

theorem throw (f : Failure) : Respects R (MonadExcept.throw f : Eval α) := fun _ _ h => ⟨rfl, h⟩

theorem modify {change : Memory → Memory} (h : ∀ m m', R m m' → R (change m) (change m')) :
    Respects R (modify change : Eval PUnit) := fun m m' h_m => ⟨rfl, h m m' h_m⟩

theorem bind {e : Eval α} {k : α → Eval β} (h : Respects R e) (h_next : ∀ a, Respects R (k a)) :
    Respects R (e >>= k) := by
  intro m m' h_m
  obtain ⟨h_result, h_after⟩ := h m m' h_m
  rcases h_e : e m with ⟨f | a, m₁⟩ <;> rcases h_e' : e m' with ⟨r, m₁'⟩ <;>
    rw [h_e, h_e'] at h_result h_after <;> obtain rfl : r = _ := h_result
  -- both fail, or both go on from memories that are related
  · rw [bind_of_error h_e, bind_of_error h_e']
    exact ⟨rfl, h_after⟩
  · rw [bind_of_ok h_e, bind_of_ok h_e']
    exact h_next a m₁ m₁' h_after

theorem map {e : Eval α} {k : α → β} (h : Respects R e) : Respects R (k <$> e) := by
  rw [← bind_pure_comp]
  exact h.bind fun a => .pure (k a)

theorem ensuring {e : Eval α} {always : Memory → Memory} (h : Respects R e)
    (h_always : ∀ m m', R m m' → R (always m) (always m')) :
    Respects R (Eval.ensuring always e) := by
  intro m m' h_m
  obtain ⟨h_result, h_after⟩ := h m m' h_m
  exact ⟨h_result, h_always _ _ h_after⟩

theorem inNode {e : Eval α} (h : Respects R e) (node : String) :
    Respects R (Eval.inNode node e) := by
  -- naming a node changes the failure, if there is one, and nothing else
  have h_named : ∀ m, Eval.inNode node e m =
      ((e m).1.mapError (Failure.inNode node), (e m).2) := by
    intro m
    rw [Eval.inNode, ExceptT.mk]
    rcases e m with ⟨⟨f⟩ | a, m₁⟩
    · cases f <;> rfl
    · rfl
  intro m m' h_m
  obtain ⟨h_result, h_after⟩ := h m m' h_m
  rw [h_named, h_named, h_result]
  exact ⟨rfl, h_after⟩

theorem find (s : Scope) (id : String) : Respects R (s.find id) := by
  rw [Scope.find]
  split
  · exact .pure _
  · exact .throw _

theorem resolve (s : Scope) (link : Link) : Respects R (s.resolve link) := by
  cases link with
  | embedded n => exact .pure n
  | reference id => exact .find s id

/-- What is found where a link leads is gone on with. -/
theorem follow {s : Scope} {k : Node → Eval β} (h : ∀ n, Respects R (k n)) (link : Link) :
    Respects R (s.resolve link >>= k) := (resolve s link).bind h

end Respects

/-! ### Cells -/

/-- A change of cells is blind for the number of values that were used of an override, and leaves
both as they are. -/
def Cell.Blind (change : Cell → Cell) : Prop :=
  ∀ c used, change { c with used := used } = { change c with used := used } ∧
    (change c).override = c.override

theorem Cell.Blind.visit : Cell.Blind Cell.visit := fun _ _ => ⟨rfl, rfl⟩

theorem Cell.Blind.leave : Cell.Blind Cell.leave := fun _ _ => ⟨rfl, rfl⟩

theorem Cell.Blind.serve (position : Int) : Cell.Blind (Cell.serve position) := by
  intro c used
  rw [Cell.serve_override]
  unfold Cell.serve
  split <;> exact ⟨rfl, rfl⟩

/-- Related memories have the same cells, but for the numbers of values that were used of overrides,
and a change that is blind for these numbers can be made to both. -/
structure Comparable (R : Memory → Memory → Prop) : Prop where
  cell : ∀ {m m'}, R m m' → ∀ key, ∃ used, m'.cell key = { m.cell key with used := used }
  update : ∀ {m m'}, R m m' → ∀ key {change}, Cell.Blind change →
    R (m.update key change) (m'.update key change)

namespace Comparable

variable {R : Memory → Memory → Prop} (h : Comparable R)
include h

theorem modify (key : Nat) {change : Cell → Cell} (h_change : Cell.Blind change) :
    Respects R (Eval.update key change) := .modify fun _ _ h_m => h.update h_m key h_change

/-- A cell is read by something that is blind for what may differ. -/
theorem read {key : Nat} {k : Cell → Eval β} (h_next : ∀ c, Respects R (k c))
    (h_blind : ∀ c used, k { c with used := used } = k c) : Respects R (Eval.cell key >>= k) := by
  intro m m' h_m
  obtain ⟨used, h_cell⟩ := h.cell h_m key
  have h_eq : ∀ m : Memory, (Eval.cell key >>= k) m = k (m.cell key) m := fun _ => rfl
  rw [h_eq, h_eq, h_cell, h_blind]
  exact h_next _ m m' h_m

theorem traverse {visit : Eval α} (h_visit : Respects R visit) (key : Nat) (i : Identity) :
    Respects R (Specimen.traverse key i visit) := by
  unfold Specimen.traverse
  refine h.read (fun cell => ?_) fun _ _ => rfl
  have h_marked : Respects R (do
      Eval.update key fun cell => { cell with isVisited := true }
      Eval.ensuring (·.update key fun cell => { cell with isVisited := false })
        (Eval.inNode i.display visit)) :=
    (h.modify key .visit).bind fun _ =>
      (h_visit.inNode _).ensuring fun _ _ h_m => h.update h_m key .leave
  split
  · exact (Respects.throw _).bind fun _ => h_marked
  · exact h_marked

end Comparable

/-! ### Looking through nodes -/

section Looking

variable {R : Memory → Memory → Prop} {s : Scope}

theorem Scope.widest_respects {count : Node → Eval Nat} (h : ∀ n, Respects R (count n))
    (links : List Link) (most : Nat) : Respects R (s.widest count links most) := by
  induction links generalizing most with
  | nil => exact .pure most
  | cons link links ih =>
    rw [Scope.widest]
    exact .follow (fun n => (h n).bind fun _ => ih _) link

theorem Scope.anyNext_respects {hasNext : Node → Eval Bool} (h : ∀ n, Respects R (hasNext n))
    (links : List Link) : Respects R (s.anyNext hasNext links) := by
  induction links with
  | nil => exact .pure false
  | cons link links ih =>
    rw [Scope.anyNext]
    refine .follow (fun n => (h n).bind fun found => ?_) link
    split
    · exact .pure true
    · exact ih

theorem Scope.reached_respects {contained : Node → Eval NameSet}
    (h : ∀ n, Respects R (contained n)) (links : List Link) (ids : NameSet) :
    Respects R (s.reached contained links ids) := by
  induction links generalizing ids with
  | nil => exact .pure ids
  | cons link links ih =>
    rw [Scope.reached]
    exact .follow (fun n => (h n).bind fun _ => ih _) link

variable (h : Comparable R) (s : Scope)
include h

theorem Node.countCases_respects : ∀ fuel n, Respects R (Node.countCases s fuel n)
  | 0, _ => .throw _
  | fuel + 1, n => by
    have h_below := Node.countCases_respects fuel
    unfold Node.countCases
    split
    · exact .pure _
    · exact .pure _
    · exact h.traverse (Scope.widest_respects h_below _ 1) _ _
    · exact h.traverse (.follow (fun n => (h_below n).bind fun _ => .pure _) _) _ _
    · exact h.traverse (.follow h_below _) _ _

theorem Node.hasNextCase_respects : ∀ fuel n, Respects R (Node.hasNextCase s fuel n)
  | 0, _ => .throw _
  | fuel + 1, n => by
    have h_below := Node.hasNextCase_respects fuel
    unfold Node.hasNextCase
    split
    · exact h.read (fun _ => .pure _) fun _ _ => rfl
    · exact h.read (fun _ => .pure _) fun _ _ => rfl
    · exact h.traverse (Scope.anyNext_respects h_below _) _ _
    · next child rule _ =>
      refine h.traverse (h.read (fun cell => ?_) fun _ _ => ?_) _ _
      -- what the cell says decides whether the child is looked at
      · split
        · exact .follow h_below child
        · exact .pure _
        · split
          · exact .pure _
          · exact .follow h_below child
      · cases rule <;> rfl
    · exact h.traverse (.follow h_below _) _ _

theorem Node.containedIds_respects : ∀ fuel n, Respects R (Node.containedIds s fuel n)
  | 0, _ => .throw _
  | fuel + 1, n => by
    unfold Node.containedIds
    split
    · exact .pure _
    · exact .pure _
    · exact h.traverse (Scope.reached_respects (Node.containedIds_respects fuel) _ _) _ _

end Looking

/-! ### Cells and nothing else -/

/-- Two memories have the same cells. -/
def Memory.Alike (m m' : Memory) : Prop := ∀ key, m'.cell key = m.cell key

/-- An evaluation sees cells only: on memories with the same cells it ends in the same way, with
the same cells. -/
def SeesCells (e : Eval α) : Prop :=
  ∀ m m' : Memory, m.Alike m' → (e m').1 = (e m).1 ∧ (e m).2.Alike (e m').2

/-- The same change made to both memories keeps them alike. -/
theorem Memory.Alike.update {m m' : Memory} (h : m.Alike m') (key : Nat) (change : Cell → Cell) :
    (m.update key change).Alike (m'.update key change) := by
  intro other
  rw [Memory.cell_update, Memory.cell_update, h key, h other]

theorem Memory.Alike.comparable : Comparable Memory.Alike where
  cell h key := ⟨_, h key⟩
  update h key _ _ := h.update key _

/-- **A search for a case that is left sees cells only**, whichever way it ends. -/
theorem Node.hasNextCase_seesCells (s : Scope) (fuel : Nat) (n : Node) :
    SeesCells (Node.hasNextCase s fuel n) :=
  Node.hasNextCase_respects Memory.Alike.comparable s fuel n

end Specimen
