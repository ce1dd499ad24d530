import Specimen.Proofs.Generator.Passes
import Specimen.Proofs.Node.Pending
import Specimen.Proofs.Node.Kinds

/-!
# The course of a pass of a generator

A pass without a case of its own asks every root for a value and thereby has a course that fits the
memory (`Represents.generate_course`). If the fields can write their values, it always comes to an
end.
-/

namespace Specimen

theorem Scope.Follows.of_before {s : Scope} {past : Course} {n : Node}
    {before before' after : Cell} (h : s.Follows past n before after)
    (h_served : before'.served = before.served) (h_choice : before'.choice = before.choice)
    (h_decision : before'.decision = before.decision) : s.Follows past n before' after := by
  unfold Follows at h ⊢
  split
  · next h_kind =>
    rw [h_served]
    simpa only [h_kind] using h
  · next h_kind =>
    rw [h_served]
    simpa only [h_kind] using h
  · next h_kind =>
    simp only [h_kind] at h
    rw [h_choice, h_decision]
    refine h.imp_right ?_
    rintro ⟨present, h_iff, h_decided, h_rest⟩
    exact ⟨present, h_iff, h_decided.congr h_choice.symm rfl rfl, h_rest⟩
  · trivial
  · trivial

/-- If nothing has happened, nothing has changed. -/
theorem Scope.follows_nil (s : Scope) (n : Node) (cell : Cell) : s.Follows [] n cell cell := by
  unfold Follows
  split
  · exact ⟨fun _ => id, fun h_mem => absurd h_mem List.not_mem_nil⟩
  · exact ⟨fun _ => id, fun h_mem => absurd h_mem List.not_mem_nil⟩
  · exact .inl ⟨rfl, rfl, fun _ => List.not_mem_nil⟩
  · trivial
  · trivial

namespace Generator

/-- The order in which the steady nodes are asked first in a pass. -/
noncomputable def roster (g : Generator) (tops : List Node) : Roster :=
  tops.foldl (fun seen n => g.scope.visit (Represents.Member tops) g.fuel n none seen) []

namespace Represents

variable {g : Generator} {c : Config} {tops : List Node} {m : Memory} {rank : Nat → Nat}

/-- At the beginning of a pass nothing has happened. -/
theorem underway_passBegun (h_free : Unfixed m) (r : Nat) :
    g.scope.Underway (Member tops) rank (passBegun tops m) r [] [] (passBegun tops m) where
  free := h_free.of_settled (settled_passBegun tops m)
  justified _ h_e := absurd h_e List.not_mem_nil
  asked n h_n _ h_some := by
    rw [cell_passBegun h_n] at h_some
    exact absurd rfl h_some
  follows n _ _ := g.scope.follows_nil n _
  listed n h_n _ _ := by
    rw [cell_passBegun h_n]
    simp [Cell.forgetValue]
  asked_listed n _ _ _ h_asked := by
    rcases h_asked with h_e | h_e <;> exact absurd h_e List.not_mem_nil
  nulls _ _ h_mem := absurd h_mem List.not_mem_nil
  visited _ _ h_mem := absurd h_mem List.not_mem_nil

variable (h : g.Represents c tops)
include h

/-- The roots are asked one after the other. -/
theorem fill_course (h_ordered : g.scope.Ordered (Member tops) rank)
    (h_fuel : ∀ key, rank key < g.fuel) {before : Memory} (number : Nat) (d : DataSet)
    (past : Course) (seen : Roster) (m : Memory)
    (h_m : g.scope.Underway (Member tops) rank before g.fuel past seen m) :
    Ends (g.fill .normal number g.roots d) m (fun _ m' => ∃ past', past ⊆ past' ∧
      g.scope.Underway (Member tops) rank before g.fuel past'
        (tops.foldl (fun seen n => g.scope.visit (Member tops) g.fuel n none seen) seen) m' ∧
      ∀ n ∈ tops, Course.Met past' n .normal) Anyhow := by
  -- The induction is on the roots still to come, over whatever has been filled so far.
  revert d past seen m
  refine h.roots_induction (P := fun ids ns => ∀ d past seen m,
    g.scope.Underway (Member tops) rank before g.fuel past seen m →
    Ends (g.fill .normal number ids d) m (fun _ m' => ∃ past', past ⊆ past' ∧
      g.scope.Underway (Member tops) rank before g.fuel past'
        (ns.foldl (fun seen n => g.scope.visit (Member tops) g.fuel n none seen) seen) m' ∧
      ∀ n ∈ ns, Course.Met past' n .normal) Anyhow) ?_ ?_
  · exact fun d past seen m h_m => ⟨past, fun _ => id, h_m, nofun⟩
  · intro id n ids ns h_n h_get ih d past seen m h_m
    have h_member : Member tops n := member_iff.2 ⟨n, h_n, n.inside_self⟩
    rw [fill, value, find_eq h_get, pure_bind, ends_bind]
    have h_value := Node.value_goesWell h_ordered (fun n n' h_n h_n' => h.eq_of_key_eq h_n h_n')
      before g.fuel n .normal m
    refine h_value.mono (fun v m' h_v => ?_) fun _ _ _ => trivial
    obtain ⟨past₁, h_met, h_m', h_busy⟩ := h_v g.fuel none past seen
      ⟨h_member, h_fuel n.key, h_m, .free, by simp⟩
    refine (ih _ _ _ _ h_m').mono (fun _ m'' h_m'' => ?_) fun _ _ _ => trivial
    obtain ⟨past₂, h_sub, h_under, h_all⟩ := h_m''
    refine ⟨past₂, fun _ h_e => h_sub (h_busy.sub h_e), h_under, fun k h_k => ?_⟩
    -- The course only grows, so what this root met is met in the end as well.
    rcases List.mem_cons.1 h_k with rfl | h_k
    · exact h_met.mono h_sub
    · exact h_all k h_k

/-- **The course of a pass.** A pass that comes to an end has a course. -/
theorem ends_generate_course (h_ordered : g.scope.Ordered (Member tops) rank)
    (h_fuel : ∀ key, rank key < g.fuel) (h_free : Unfixed m) : Ends (g.generate .normal) m
      (fun _ m' => ∃ past, g.scope.Underway (Member tops) rank (passBegun tops m) g.fuel past
        (g.roster tops) m' ∧ ∀ n ∈ tops, Course.Met past n .normal) Anyhow := by
  rw [generate, ends_bind, h.ends_beginPass, ends_bind]
  refine (h.fill_course h_ordered h_fuel _ _ _ _ _ (underway_passBegun h_free g.fuel)).mono
    (fun d m' h_m' => ?_) fun _ _ _ => trivial
  obtain ⟨past, -, h_under, h_met⟩ := h_m'
  -- logging the data set changes no cell
  exact ⟨past, ⟨h_under.free, h_under.justified, h_under.asked, h_under.follows, h_under.listed,
    h_under.asked_listed, h_under.nulls, h_under.visited⟩, h_met⟩

/-- If no field breaks off, a pass comes to an end. -/
theorem generate_course (h_crash : Scope.CrashesOnly (Member tops) fun _ => False)
    (h_ordered : g.scope.Ordered (Member tops) rank) (h_fuel : ∀ key, rank key < g.fuel)
    (h_quiet : m.Quiet) (h_free : Unfixed m) : Ends (g.generate .normal) m
      (fun _ m' => m'.Quiet ∧ Unfixed m' ∧ ∃ past, g.scope.Underway (Member tops) rank
        (passBegun tops m) g.fuel past (g.roster tops) m' ∧ ∀ n ∈ tops, Course.Met past n .normal)
      fun _ _ => False := by
  have h_settles := h.generate_settles h_crash .normal h_quiet
  have h_course := h.ends_generate_course h_ordered h_fuel h_free
  refine (h_settles.and h_course).mono (fun _ m' h_m' => ?_) fun f m' h_bad => ?_
  · exact ⟨h_m'.1.quiet h_quiet, h_free.of_settled h_m'.1, h_m'.2⟩
  · cases f <;> exact h_bad.1.1

omit h in
/-- What a pass makes of a node, compared with the memory before it began. -/
theorem follows_of_underway {past : Course} {m' : Memory} {r : Nat} {seen : Roster}
    (h_under : g.scope.Underway (Member tops) rank (passBegun tops m) r past seen m')
    (h_rank : ∀ key, rank key < r) {n : Node} (h_n : Member tops n) :
    g.scope.Follows past n (m.cell n.key) (m'.cell n.key) := by
  refine (h_under.follows n h_n (h_rank n.key)).of_before ?_ ?_ ?_ <;>
    rw [cell_passBegun h_n] <;> rfl

end Represents

end Generator

end Specimen
