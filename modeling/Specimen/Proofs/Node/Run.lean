import Mathlib.Algebra.BigOperators.Group.Finset.Basic
import Mathlib.Algebra.Order.BigOperators.Group.Finset
import Specimen.Proofs.Node.Supply

/-!
# Runs of passes

In a run of passes every node is served again and again. An optional node that is served lets its
child be present at least every third time, so the further down a node is the longer it may have to
wait, but for each node there is a span in which it is served (`Scope.Run.recurs_served`). As what
is left of a node that is due decreases when the node is served, a run comes to a point at which no
node is due (`Scope.Run.exists_done`).

All this takes that different optional nodes do not get in each other's way (`Scope.Untangled`): if
two of them can ask the same node for null, it has to be the same one that asks first in every pass,
or one of them could always be the first to ask while it skips the node.
-/

namespace Specimen

/-- Something happens at least once in each span of time. -/
def Recurs (span : Nat) (P : Nat → Prop) : Prop := ∀ i, ∃ j, i ≤ j ∧ j < i + span ∧ P j

theorem Recurs.mono {span span' : Nat} {P Q : Nat → Prop} (h : Recurs span P) (h_le : span ≤ span')
    (h_imp : ∀ i, P i → Q i) : Recurs span' Q := by
  intro i
  obtain ⟨j, h_from, h_to, h_j⟩ := h i
  exact ⟨j, h_from, by omega, h_imp j h_j⟩

theorem recurs_always {P : Nat → Prop} (h : ∀ i, P i) : Recurs 1 P :=
  fun i => ⟨i, Nat.le_refl i, Nat.lt_succ_self i, h i⟩

/-- A measure that never rises is at its end at most what it was. -/
theorem le_of_never_rises (measure : Nat → Nat) {i j : Nat} (h_le : i ≤ j)
    (h : ∀ k, i ≤ k → k < j → measure (k + 1) ≤ measure k) : measure j ≤ measure i := by
  induction j, h_le using Nat.le_induction with
  | base => exact Nat.le_refl _
  | succ j h_ij ih =>
    exact Nat.le_trans (h j h_ij (Nat.lt_succ_self j))
      (ih fun k h_from h_to => h k h_from (Nat.lt_succ_of_lt h_to))

/-- It is less if it falls in between. -/
theorem lt_of_falls {measure : Nat → Nat} {i j k : Nat}
    (h : ∀ k, i ≤ k → k < j → measure (k + 1) ≤ measure k) (h_from : i ≤ k) (h_to : k < j)
    (h_falls : measure (k + 1) < measure k) : measure j < measure i := by
  have h_before := le_of_never_rises measure h_from fun l h_il h_lk =>
    h l h_il (Nat.lt_trans h_lk h_to)
  have h_after : measure j ≤ measure (k + 1) :=
    le_of_never_rises measure (Nat.succ_le_of_lt h_to) fun l h_kl h_lj =>
      h l (Nat.le_trans h_from (Nat.le_of_succ_le h_kl)) h_lj
  omega

/-- One pass after the other, with what the memory is before each and what happens in it. -/
structure Scope.Run (s : Scope) (Member : Node → Prop) (tops : List Node) (roster : Roster)
    (memory : Nat → Memory) (past : Nat → Course) : Prop where
  justified : ∀ i, ∀ e ∈ past i, s.Justifies Member (past i) e
  tops_met : ∀ i, ∀ n ∈ tops, (past i).Met n .normal
  follows : ∀ i n, Member n →
    s.Follows (past i) n ((memory i).cell n.key) ((memory (i + 1)).cell n.key)
  listed : ∀ i n, Member n → s.Steady Member n → n.kind.isStateless = false → (past i).Asked n →
    ∃ origin, (n, origin) ∈ roster
  nulls : ∀ n o, (n, some o) ∈ roster → s.Nulls Member o n
  visited : ∀ i n origin, (n, origin) ∈ roster →
    .served n ∈ past i ∨ ∃ o, origin = some o ∧ .decided o false ∈ past i
  sound : ∀ n, Member n → s.Sound n ((memory 0).cell n.key)

namespace Scope.Run

variable {s : Scope} {Member : Node → Prop} {rank : Nat → Nat} {tops : List Node} {roster : Roster}
  {memory : Nat → Memory} {past : Nat → Course} (h : s.Run Member tops roster memory past)
include h

/-- Each pass of a run is one. -/
theorem pass (i : Nat) : s.Pass Member tops roster (memory i) (memory (i + 1)) (past i) where
  justified := h.justified i
  tops_met := h.tops_met i
  follows := h.follows i
  listed := h.listed i
  visited := h.visited i

/-! ### Waiting -/

/-- **Optional nodes do not always skip.** At least every third time that an optional node is served
its child is present. -/
theorem recurs_present {n : Node} (h_n : Member n) {child : Link} {rule : Config.Mandatory}
    (h_kind : n.kind = .optional child rule) {span : Nat}
    (h_recurs : Recurs span fun i => .served n ∈ past i) :
    Recurs (3 * span) fun i => .served n ∈ past i ∧ .decided n true ∈ past i := by
  intro i
  by_contra h_never
  have h_false : ∀ k, i ≤ k → k < i + 3 * span → .decided n true ∉ past k := by
    intro k h_from h_to h_true
    exact h_never ⟨k, h_from, h_to, ((h.pass k).of_decided h_n h_kind h_true).1, h_true⟩
  -- then each time that the node is served, one of the two misses is used up
  let misses (k : Nat) : Nat := ((memory k).cell n.key).choice.misses
  have h_misses : ∀ k, i ≤ k → k < i + 3 * span → misses (k + 1) ≤ misses k ∧
      (.served n ∈ past k → misses (k + 1) < misses k) := by
    intro k h_from h_to
    rcases (follows_optional h_kind).1 (h.follows k n h_n) with ⟨h_same, -, h_none⟩ | h_some
    · refine ⟨by simp only [misses, h_same]; exact Nat.le_refl _, fun h_served => ?_⟩
      obtain ⟨present, h_present, -⟩ := (h.pass k).exists_decided (by rw [h_kind]; rfl) h_served
      exact absurd h_present (h_none present)
    · obtain ⟨present, h_iff, h_decided, -⟩ := h_some
      have h_less : misses (k + 1) < misses k := by
        cases h_decided with
        | mandatory => exact absurd ((h_iff true).2 rfl) (h_false k h_from h_to)
        | chosen h_next _ =>
          cases present with
          | true => exact absurd ((h_iff true).2 rfl) (h_false k h_from h_to)
          | false =>
            have h_one := FairChoice.misses_next h_next
            simp only [misses]
            omega
      exact ⟨Nat.le_of_lt h_less, fun _ => h_less⟩
  -- the node is served three times in the time of three spans, which is once too often
  have h_falls : ∀ k, i ≤ k → k + span ≤ i + 3 * span → misses (k + span) < misses k := by
    intro k h_from h_to
    obtain ⟨j, h_kj, h_j, h_served⟩ := h_recurs k
    exact lt_of_falls (fun l h_kl h_l => (h_misses l (by omega) (by omega)).1) h_kj h_j
      ((h_misses j (by omega) (by omega)).2 h_served)
  have h_first := h_falls i (Nat.le_refl i) (by omega)
  have h_second := h_falls (i + span) (by omega) (by omega)
  have h_third := h_falls (i + span + span) (by omega) (by omega)
  have h_two : misses i ≤ 2 := FairChoice.misses_le _
  omega

/-- **Every node is served again and again.** -/
theorem recurs_served (h_untangled : s.Untangled Member)
    (h_calls : ∀ n n', Member n → s.Calls n n' → Member n' ∧ rank n'.key < rank n.key) {top : Nat}
    (h_top : ∀ key, rank key ≤ top)
    (h_above : ∀ n, Member n → n ∈ tops ∨ ∃ p, Member p ∧ ∃ link ∈ p.kind.links,
      s.target? link = some n) {n : Node} (h_n : Member n) :
    Recurs (3 ^ (top - rank n.key)) fun i => .served n ∈ past i := by
  induction h_height : top - rank n.key using Nat.strong_induction_on generalizing n with
  | _ height ih =>
    have h_pow : ∀ {height'}, height' < height → 3 * 3 ^ height' ≤ 3 ^ height := by
      intro height' h_lt
      rw [← Nat.pow_succ']
      exact Nat.pow_le_pow_right (by omega) h_lt
    have h_one : 1 ≤ 3 ^ height := Nat.one_le_pow _ _ (by omega)
    rcases exists_supplier h.nulls h_untangled h_calls h_above h_n with
      ⟨-, h_always⟩ | ⟨p, h_supplies, h_lt⟩
    · exact (recurs_always fun i => h_always _ _ _ (h.pass i)).mono h_one fun _ => id
    · -- the node that supplies it is served in a shorter span
      have h_p_top := h_top p.key
      have h_less : top - rank p.key < height := by omega
      have h_recurs := ih _ h_less h_supplies.member rfl
      have h_span := h_pow h_less
      cases h_optional : p.kind.isOptional with
      | false =>
        refine h_recurs.mono (by omega) fun i h_served => ?_
        refine h_supplies.served _ _ _ (h.pass i) h_served fun h_true => ?_
        cases h_optional.symm.trans h_true
      | true =>
        obtain ⟨child, rule, h_p_kind⟩ := NodeKind.exists_optional h_optional
        refine (h.recurs_present h_supplies.member h_p_kind h_recurs).mono h_span fun i h_i => ?_
        exact h_supplies.served _ _ _ (h.pass i) h_i.1 fun _ => h_i.2

/-! ### The end -/

theorem sound_at {n : Node} (h_n : Member n) (i : Nat) : s.Sound n ((memory i).cell n.key) := by
  induction i with
  | zero => exact h.sound n h_n
  | succ i ih => exact (h.follows i n h_n).sound ih

/-- What is left of a node that is due decreases within the span in which it is served. -/
theorem remaining_lt {n : Node} (h_n : Member n) {span : Nat}
    (h_recurs : Recurs span fun i => .served n ∈ past i) {i : Nat}
    (h_due : n.Due ((memory i).cell n.key)) :
    n.remaining ((memory (i + span)).cell n.key) < n.remaining ((memory i).cell n.key) := by
  let left (k : Nat) : Nat := n.remaining ((memory k).cell n.key)
  have h_left : ∀ k, left (k + 1) ≤ left k := fun k =>
    (h.follows k n h_n).remaining_le (h.sound_at h_n k)
  obtain ⟨j, h_from, h_to, h_served⟩ := h_recurs i
  have h_before := le_of_never_rises left h_from fun k _ _ => h_left k
  have h_after := le_of_never_rises left (Nat.le_of_lt h_to) fun k _ _ => h_left k
  rcases Nat.lt_or_eq_of_le h_before with h_lt | h_eq
  · exact Nat.lt_of_le_of_lt h_after h_lt
  · -- the node is still due when it is served
    have h_falls : left (j + 1) < left j :=
      (h.pass j).remaining_lt h_n (h.sound_at h_n j) (h_due.of_remaining h_eq) h_served
    exact lt_of_falls (fun k _ _ => h_left k) h_from h_to h_falls

/-- **Runs come to an end.** If every node is served in each span of passes, there is a pass after
which no node is due. -/
theorem exists_done {members : Finset Node} (h_members : ∀ n, n ∈ members ↔ Member n) {span : Nat}
    (h_recurs : ∀ n, Member n → Recurs span fun i => .served n ∈ past i) :
    ∃ i ≤ 4 * members.card * span, ∀ n, Member n → ¬ n.Due ((memory i).cell n.key) := by
  by_contra h_never
  push Not at h_never
  -- what is left of all nodes together falls in each span, and it was at most four for each
  let left (i : Nat) : Nat := ∑ n ∈ members, n.remaining ((memory i).cell n.key)
  have h_left : ∀ i, i ≤ 4 * members.card * span → left (i + span) < left i := by
    intro i h_i
    obtain ⟨n, h_n, h_due⟩ := h_never i h_i
    refine Finset.sum_lt_sum (fun k h_k => ?_)
      ⟨n, (h_members n).2 h_n, h.remaining_lt h_n (h_recurs n h_n) h_due⟩
    have h_k := (h_members k).1 h_k
    exact le_of_never_rises (fun j => k.remaining ((memory j).cell k.key))
      (Nat.le_add_right i span) fun j _ _ => (h.follows j k h_k).remaining_le (h.sound_at h_k j)
  have h_sum : ∀ k, k ≤ 4 * members.card + 1 → left (k * span) + k ≤ left 0 := by
    intro k
    induction k with
    | zero => simp
    | succ k ih =>
      intro h_k
      have h_earlier := ih (by omega)
      have h_next := h_left (k * span) (Nat.mul_le_mul_right span (by omega))
      have h_span : (k + 1) * span = k * span + span := Nat.succ_mul k span
      rw [h_span]
      omega
  have h_start : left 0 ≤ 4 * members.card := by
    have h_most : left 0 ≤ ∑ _n ∈ members, 4 := Finset.sum_le_sum fun n _ => n.remaining_le _
    rwa [Finset.sum_const, Nat.nsmul_eq_mul, Nat.mul_comm] at h_most
  have h_end := h_sum (4 * members.card + 1) (Nat.le_refl _)
  omega

end Scope.Run

end Specimen
