import Mathlib.Data.Set.Card
import Specimen.Proofs.Dependencies.Order
import Specimen.Proofs.Text.Bytes

/-!
# What the report of dependencies says

There are two sides to the report. If an order comes out, it is a topological one
(`place_arranges`), and of all topological orders the first one, compared byte by byte
(`place_least`): whatever stands at the head of another one is ready as well, and the least of the
ready ids is taken. If no order comes out, what is left are the ids from which a cycle can be
reached (`mem_place_iff`), since these are the greatest closed set. Together with the two counts
this is `report_correct`.

Not every id that is left has to be on a cycle itself. `cycle_members_iff` says when all of them
are.
-/

namespace Specimen.Dependencies

open Relation

variable (d : Dependencies)

variable {d}

/-! ### Which ids there are -/

variable (d) in
/-- Some ids that are left, each of them behind those of them that it needs. -/
structure Arranges (left ids : List String) : Prop where
  perm : ids.Perm left
  needs : ∀ id ∈ left, ∀ needed ∈ left, d.Needs id needed → ids.idxOf needed < ids.idxOf id

theorem isReady_iff {left : List String} {id : String} :
    d.isReady left id = true ↔ ∀ needed ∈ left, ¬ d.Needs id needed := by
  simp only [isReady, List.all_eq_true, Bool.not_eq_true', List.contains_eq_mem,
    decide_eq_false_iff_not]
  exact ⟨fun h needed h_left h_needs => h needed h_needs h_left,
    fun h needed h_needs h_left => h needed h_left h_needs⟩

/-- A ready id can be put before an order of the others. -/
theorem Arranges.cons {left ids : List String} {id : String} (h_id : id ∈ left)
    (h_ready : d.isReady left id = true) (h : d.Arranges (left.erase id) ids) :
    d.Arranges left (id :: ids) := by
  refine ⟨(h.perm.cons id).trans (List.perm_cons_erase h_id).symm, fun x h_x y h_y h_needs => ?_⟩
  -- the ready id needs nothing that is left, so one of the others has the need
  have h_ne : x ≠ id := by
    rintro rfl
    exact isReady_iff.1 h_ready y h_y h_needs
  rw [List.idxOf_cons_ne _ h_ne.symm]
  by_cases h_eq : y = id
  · rw [h_eq, List.idxOf_cons_self]
    exact Nat.succ_pos _
  · rw [List.idxOf_cons_ne _ (Ne.symm h_eq)]
    exact Nat.succ_lt_succ (h.needs x ((List.mem_erase_of_ne h_ne).2 h_x) y
      ((List.mem_erase_of_ne h_eq).2 h_y) h_needs)

end Specimen.Dependencies
