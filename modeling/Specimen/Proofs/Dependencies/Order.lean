import Mathlib.Logic.Relation
import Mathlib.Data.Fintype.Pigeonhole
import Mathlib.Data.Set.Finite.Basic
import Specimen.Dependencies
import Specimen.Proofs.Dict

/-!
# When dependencies can be put into an order

`Dependencies.outcome` places one ready id after the other and reports what is left when none
is ready any more. The dependencies are seen here as a relation, `Dependencies.Needs`, and the
main statement is that an order comes out exactly when the relation has no cycle
(`outcome_isOrder_iff`).

Both directions look at closed sets of ids, in which every id needs one of the set
(`Closed`). What is left in the end is closed (`place_stuck_closed`), and a closed set is never
touched before (`place_keeps_closed`). A cycle is a closed set; and from every id of a finite closed
set a cycle can be reached (`Closed.exists_cycle`).
-/

namespace Specimen.Dependencies

variable (d : Dependencies)

/-- One id needs another. -/
def Needs (id needed : String) : Prop := needed ∈ d.needs id

/-- No id needs itself, in one or more steps. -/
def IsAcyclic : Prop := ∀ id, ¬ Relation.TransGen d.Needs id id

/-- Every id of a set needs one of the set. -/
def Closed (ids : Set String) : Prop := ∀ id ∈ ids, ∃ needed ∈ ids, d.Needs id needed

variable {d}

/-! ### What the updates add -/

theorem mem_needs {id needed : String} :
    needed ∈ d.needs id ↔ ∃ s, d.get? id = some s ∧ s.contains needed = true := by
  rw [needs]
  cases d.get? id with
  | none => simp
  | some s => simp [Dict.mem_keys_iff]

theorem needs_empty (id needed : String) : ¬ Needs .empty id needed := by
  simp [Needs, needs]

/-- An id that needs nothing is no new need. -/
theorem needs_addId (new id needed : String) :
    (d.addId new).Needs id needed ↔ d.Needs id needed := by
  rw [addId]
  split
  · rfl
  · next h =>
    rw [Needs, Needs, mem_needs, mem_needs, Dict.get?_insert]
    split
    · next heq => simp [heq, h]
    · rfl

theorem needs_addNeed (id' needed' id needed : String) :
    (d.addNeed id' needed').Needs id needed ↔
      (id = id' ∧ needed = needed') ∨ d.Needs id needed := by
  rw [addNeed, Needs, Needs, mem_needs, mem_needs, Dict.get?_insert]
  split
  · next heq =>
    subst heq
    cases h : d.get? id with
    | none => simp [Dict.contains_insert]
    | some s => simp [Dict.contains_insert]
  · next hne => simp [hne]

/-- What is needed and what needs is among the ids. -/
theorem mem_ids_of_needs {id needed : String} (h : d.Needs id needed) :
    id ∈ d.ids.keys ∧ needed ∈ d.ids.keys := by
  have hkey : id ∈ d.keys := by
    obtain ⟨s, hs, -⟩ := mem_needs.1 h
    exact Dict.mem_keys_iff.2 (Dict.contains_iff.2 ⟨s, hs⟩)
  rw [ids, NameSet.mem_ofNames, NameSet.mem_ofNames, List.mem_append, List.mem_append]
  exact ⟨.inl hkey, .inr (List.mem_flatMap.2 ⟨id, hkey, h⟩)⟩

/-! ### Closed sets are what is left -/

/-- Nothing of a closed set is ever placed. -/
theorem place_keeps_closed {ids : Set String} (h_closed : d.Closed ids) :
    ∀ (fuel : Nat) (left : List String), (∀ id ∈ ids, id ∈ left) →
      ∀ id ∈ ids, id ∈ (d.place fuel left).2
  | 0, _, h_left => h_left
  | fuel + 1, left, h_left => by
    intro id h_id
    rw [place]
    split
    · exact h_left id h_id
    · next ready h_found =>
      -- a ready id needs nothing that is left, so it is not of the set
      have h_ready : ready ∉ ids := by
        intro h_mem
        obtain ⟨needed, h_needed, h_needs⟩ := h_closed ready h_mem
        have h_is : d.isReady left ready = true := List.find?_some h_found
        have h_all := List.all_eq_true.1 h_is needed h_needs
        simp [h_left needed h_needed] at h_all
      refine place_keeps_closed h_closed fuel (left.erase ready) (fun id' h_id' => ?_) id h_id
      have h_ne : id' ≠ ready := fun heq => h_ready (heq ▸ h_id')
      exact (List.mem_erase_of_ne h_ne).2 (h_left id' h_id')

/-- What is left in the end is closed. -/
theorem place_stuck_closed :
    ∀ (fuel : Nat) (left : List String), left.length ≤ fuel →
      d.Closed {id | id ∈ (d.place fuel left).2}
  | 0, left, h_len => by
    intro id h_id
    obtain rfl : left = [] := List.length_eq_zero_iff.1 (Nat.le_zero.1 h_len)
    exact absurd h_id List.not_mem_nil
  | fuel + 1, left, h_len => by
    rw [place]
    split
    · next h_found =>
      intro id h_id
      have h_not := List.find?_eq_none.1 h_found id h_id
      simp only [isReady, List.all_eq_true, not_forall] at h_not
      obtain ⟨needed, h_needed, h_left⟩ := h_not
      exact ⟨needed, by simpa using h_left, h_needed⟩
    · next ready h_found =>
      refine place_stuck_closed fuel (left.erase ready) ?_
      rw [List.length_erase_of_mem (List.mem_of_find?_eq_some h_found)]
      omega

/-! ### Closed sets and cycles -/

/-- What a cycle goes through is closed. -/
theorem closed_of_cycle (id : String) :
    d.Closed {x | Relation.TransGen d.Needs id x ∧ Relation.TransGen d.Needs x id} := by
  rintro x ⟨h_to, h_back⟩
  obtain ⟨y, h_needs, h_rest⟩ := Relation.TransGen.head'_iff.1 h_back
  refine ⟨y, ⟨h_to.tail h_needs, ?_⟩, h_needs⟩
  rcases Relation.reflTransGen_iff_eq_or_transGen.1 h_rest with rfl | h_rest
  · exact h_to.tail h_needs
  · exact h_rest

/-- Whoever goes on to something needed with each step gets to what is needed in the end. -/
theorem reflTransGen_iterate {ids : Set String} {next : ids → ids}
    (h : ∀ x : ids, d.Needs x (next x)) (x : ids) (n : Nat) :
    Relation.ReflTransGen d.Needs x (next^[n] x) := by
  induction n with
  | zero => exact .refl
  | succ n ih =>
    rw [Function.iterate_succ_apply']
    exact ih.tail (h _)

/-- In a finite closed set every id leads to a cycle: whoever always goes on within the set comes
to some id for the second time. -/
theorem Closed.exists_cycle {ids : Set String} (h_closed : d.Closed ids) (h_fin : ids.Finite)
    {id : String} (h_id : id ∈ ids) :
    ∃ x, Relation.ReflTransGen d.Needs id x ∧ Relation.TransGen d.Needs x x := by
  have h_next : ∀ x : ids, ∃ y : ids, d.Needs x y := fun x =>
    let ⟨y, h_y, h_needs⟩ := h_closed x x.2
    ⟨⟨y, h_y⟩, h_needs⟩
  -- the steps from the id on are endless, and the ids are finitely many
  choose next h_needs using h_next
  let start : ids := ⟨id, h_id⟩
  have : Finite ids := h_fin
  obtain ⟨m, n, h_ne, h_same⟩ := Finite.exists_ne_map_eq_of_infinite fun n => next^[n] start
  wlog h_lt : m < n generalizing m n
  · exact this n m h_ne.symm h_same.symm (by omega)
  -- from the first visit on, the steps up to the second one are the cycle
  refine ⟨next^[m] start, reflTransGen_iterate h_needs start m, ?_⟩
  obtain ⟨k, rfl⟩ := Nat.exists_eq_add_of_lt h_lt
  have h_back := reflTransGen_iterate h_needs (next (next^[m] start)) k
  rw [← Function.iterate_succ_apply, ← Function.iterate_add_apply,
    show k.succ + m = m + k + 1 by omega, ← h_same] at h_back
  exact .head' (h_needs _) h_back

/-- Without cycles a finite closed set is empty. -/
theorem IsAcyclic.eq_empty_of_closed (h : d.IsAcyclic) {ids : Set String} (h_fin : ids.Finite)
    (h_closed : d.Closed ids) : ids = ∅ := by
  by_contra h_ne
  obtain ⟨id, h_id⟩ := Set.nonempty_iff_ne_empty.2 h_ne
  obtain ⟨x, -, h_cycle⟩ := h_closed.exists_cycle h_fin h_id
  exact h x h_cycle

/-- **Orders and cycles.** An order of all ids comes out exactly when no id needs itself. -/
theorem outcome_isOrder_iff : (∃ ids, d.outcome = .order ids) ↔ d.IsAcyclic := by
  have h_outcome : (∃ ids, d.outcome = .order ids) ↔
      (d.place d.ids.keys.length d.ids.keys).2 = [] := by
    rw [outcome]
    rcases d.place d.ids.keys.length d.ids.keys with ⟨placed, _ | ⟨id, stuck⟩⟩
    · exact ⟨fun _ => rfl, fun _ => ⟨placed, rfl⟩⟩
    · simp
  rw [h_outcome]
  constructor
  · intro h_stuck id h_cycle
    obtain ⟨x, h_needs, -⟩ := Relation.TransGen.head'_iff.1 h_cycle
    -- what the cycle goes through would be left
    have h_left := place_keeps_closed (closed_of_cycle id) d.ids.keys.length d.ids.keys
      (fun y h_y => by
        obtain ⟨z, h_yz, -⟩ := Relation.TransGen.head'_iff.1 h_y.2
        exact (mem_ids_of_needs h_yz).1)
      id ⟨h_cycle, h_cycle⟩
    rw [h_stuck] at h_left
    exact absurd h_left List.not_mem_nil
  · intro h_acyclic
    have h_empty := h_acyclic.eq_empty_of_closed (List.finite_toSet _)
      (place_stuck_closed d.ids.keys.length d.ids.keys le_rfl)
    exact List.eq_nil_iff_forall_not_mem.2 fun id h_id => (h_empty.le h_id : id ∈ (∅ : Set String))

end Specimen.Dependencies
