import Mathlib.Algebra.Group.Nat.Defs
import Specimen.Proofs.Node.Saturation
import Specimen.Proofs.Node.Supply

/-!
# What is counted at least

The number of cases that is counted for a node follows the links below it: an optional node counts
twice the cases of its child and one more (`Scope.Counted`). So each optional node on the way from
one node down to another doubles what is counted at the end of the way (`Scope.Descends.counted`).
There are at least as many cases (`Scope.Counted.le`), so looking through a node counts all of this,
unless it is more than can be counted (`Scope.HasCases.covers`).
-/

namespace Specimen

/-- A node has at least a number of cases, as they are counted. -/
inductive Scope.Counted (s : Scope) : Node → Nat → Prop where
  | constant {n value} (h_kind : n.kind = .constant value) : Counted s n 1
  | field {n f set} (h_kind : n.kind = .field f set) : Counted s n f.boundaries.length
  | combined {n links separator} (h_kind : n.kind = .combined links separator) : Counted s n 1
  | part {n n' k link} (h_passes : n.kind.isOptional = false) (h_link : link ∈ n.kind.links)
    (h_target : s.target? link = some n') (h : Counted s n' k) : Counted s n k
  | optional {n n' k child rule} (h_kind : n.kind = .optional child rule)
    (h_target : s.target? child = some n') (h : Counted s n' k) : Counted s n (2 * k + 1)

/-- The least number of cases that is counted for a node that can be due. -/
def Node.leastCases (n : Node) : Nat :=
  match n.kind with
  | .constant _ => 1
  | .field f _ => f.boundaries.length
  | .optional .. => 3
  | .combined .. | .source _ => 0

namespace Scope

variable {s : Scope} {Member : Node → Prop} {rank : Nat → Nat} {n t : Node} {d k : Nat}

/-- **Optional nodes double.** -/
theorem Descends.counted (h : s.Descends t d n) (h_n : s.Counted n k) :
    ∃ k', s.Counted t k' ∧ 2 ^ d * (k + 1) ≤ k' + 1 := by
  induction h with
  | refl => exact ⟨k, h_n, Nat.le_of_eq (by rw [Nat.pow_zero, Nat.one_mul])⟩
  | part h_passes h_link h_target _ ih =>
    obtain ⟨k', h_k', h_le⟩ := ih h_n
    exact ⟨k', .part h_passes h_link h_target h_k', h_le⟩
  | child h_kind h_target _ ih =>
    obtain ⟨k', h_k', h_le⟩ := ih h_n
    refine ⟨2 * k' + 1, .optional h_kind h_target h_k', ?_⟩
    rw [Nat.pow_succ, Nat.mul_right_comm]
    omega

/-- Every node has a case. -/
theorem Ordered.exists_counted (h : s.Ordered Member rank) (h_n : Member n) :
    ∃ k, 1 ≤ k ∧ s.Counted n k := by
  induction h_rank : rank n.key using Nat.strongRecOn generalizing n with
  | ind r ih =>
    have h_below : ∀ link ∈ n.kind.links, ∃ n' k, s.target? link = some n' ∧ 1 ≤ k ∧
        s.Counted n' k := by
      intro link h_link
      obtain ⟨n', h_target, h_n', h_lt⟩ := h.target n link h_n h_link
      obtain ⟨k, h_k, h_counted⟩ := ih (rank n'.key) (h_rank ▸ h_lt) h_n' rfl
      exact ⟨n', k, h_target, h_k, h_counted⟩
    cases h_kind : n.kind with
    | constant value => exact ⟨1, Nat.le_refl 1, .constant h_kind⟩
    | field f set =>
      obtain ⟨b, h_b, -⟩ := f.exists_mem_boundaries (c := .min) rfl
      exact ⟨_, List.length_pos_of_mem h_b, .field h_kind⟩
    | combined links separator => exact ⟨1, Nat.le_refl 1, .combined h_kind⟩
    | optional child rule =>
      have h_link : child ∈ n.kind.links := by rw [h_kind]; exact List.mem_singleton_self child
      obtain ⟨n', k, h_target, -, h_counted⟩ := h_below child h_link
      exact ⟨2 * k + 1, Nat.le_add_left 1 _, .optional h_kind h_target h_counted⟩
    | source child =>
      have h_link : child ∈ n.kind.links := by rw [h_kind]; exact List.mem_singleton_self child
      obtain ⟨n', k, h_target, h_k, h_counted⟩ := h_below child h_link
      exact ⟨k, h_k, .part (by rw [h_kind]; rfl) h_link h_target h_counted⟩

/-- The least number of cases is counted. -/
theorem Ordered.counted_leastCases (h : s.Ordered Member rank) (h_n : Member n) :
    ∃ k, n.leastCases ≤ k ∧ s.Counted n k := by
  obtain ⟨k, -, h_counted⟩ := h.exists_counted h_n
  rw [Node.leastCases]
  split
  · next h_kind => exact ⟨1, Nat.le_refl 1, .constant h_kind⟩
  · next h_kind => exact ⟨_, Nat.le_refl _, .field h_kind⟩
  · next child rule h_kind =>
    have h_link : child ∈ n.kind.links := by rw [h_kind]; exact List.mem_singleton_self child
    obtain ⟨n', h_target, h_n', -⟩ := h.target n child h_n h_link
    obtain ⟨k', h_k', h_child⟩ := h.exists_counted h_n'
    exact ⟨2 * k' + 1, by omega, .optional h_kind h_target h_child⟩
  · exact ⟨k, Nat.zero_le k, h_counted⟩
  · exact ⟨k, Nat.zero_le k, h_counted⟩

end Scope

/-! ### Counting -/

/-- A number covers what a node has, as far as numbers go. -/
def Scope.Covers (s : Scope) (n : Node) (number : Nat) : Prop :=
  ∀ k, s.Counted n k → saturated k ≤ number

section Counting

variable {s : Scope} {n : Node} {k k' : Nat}

/-- **What is counted at least** is no more than there are cases. -/
theorem Scope.Counted.le (h : s.Counted n k) (h_cases : s.HasCases n k') : k ≤ k' := by
  induction h generalizing k' with
  | constant h_kind => exact Nat.le_of_eq (h_cases.of_constant h_kind).symm
  | @field n f set h_kind =>
    rw [h_cases.of_field h_kind]
    exact Nat.le_of_eq f.length_boundaries
  | combined h_kind => exact (h_cases.of_combined h_kind).pos
  | optional h_kind h_target _ ih =>
    obtain ⟨k', h_child, rfl⟩ := h_cases.of_optional h_kind h_target
    have h_le := ih h_child
    omega
  | part h_passes h_link h_target _ ih =>
    -- A part that is passed on to belongs to a combined node or to a source.
    cases h_cases with
    | constant h | field h =>
      rw [h] at h_link
      exact absurd h_link List.not_mem_nil
    | combined h h_parts =>
      rw [h] at h_link
      obtain ⟨n', k', h_target', h_k', h_le⟩ := h_parts.of_mem h_link
      obtain rfl := Option.some.inj (h_target.symm.trans h_target')
      exact Nat.le_trans (ih h_k') h_le
    | optional h _ _ =>
      rw [h] at h_passes
      cases h_passes
    | source h h_target' h_child =>
      rw [h] at h_link
      obtain rfl := List.mem_singleton.1 h_link
      obtain rfl := Option.some.inj (h_target.symm.trans h_target')
      exact ih h_child

/-- The number of cases, as far as numbers go, covers what a node has. -/
theorem Scope.HasCases.covers (h : s.HasCases n k) : s.Covers n (saturated k) :=
  fun _ h_counted => saturated_le_saturated (h_counted.le h)

end Counting

end Specimen
