import Specimen.Proofs.Node.Course

/-!
# What is still due

A node is due if it has a case of its own left, apart from those of its parts (`Node.Due`). How much
is left is measured by `Node.remaining`, which no pass increases (`Scope.Follows.remaining_le`) and
which decreases when a node that is due is served (`Scope.Follows.remaining_lt`).

The measure of an optional node counts the sides that its choice has not shown and, for as long as
one is left, whether its rule has not been heard or let the choice decide last: only then the choice
counts, and when the rule has said that the child has to be present it is the child that counts.
-/

namespace Specimen

namespace Node

/-- A node has a case of its own left. -/
def Due (n : Node) (cell : Cell) : Prop :=
  match n.kind with
  | .constant _ => cell.served = []
  | .field f _ => ∃ b ∈ f.boundaries, b.2 ∉ cell.served
  | .optional .. => 0 < cell.choice.unseen ∧ cell.decision ≠ some true
  | .combined .. | .source _ => False

/-- How much of its own a node has left. -/
def remaining (n : Node) (cell : Cell) : Nat :=
  match n.kind with
  | .constant _ => if cell.served = [] then 1 else 0
  | .field f _ => f.boundaries.countP fun b => b.2 ∉ cell.served
  | .optional .. => 2 * cell.choice.unseen - if cell.decision = some true then 1 else 0
  | .combined .. | .source _ => 0

variable {n : Node} {cell : Cell}

theorem due_constant_iff {value : String} (h_kind : n.kind = .constant value) :
    n.Due cell ↔ cell.served = [] := by
  rw [Due, h_kind]

theorem due_field_iff {f : Field} {set : CharacterSet} (h_kind : n.kind = .field f set) :
    n.Due cell ↔ ∃ b ∈ f.boundaries, b.2 ∉ cell.served := by
  rw [Due, h_kind]

theorem due_optional_iff {child : Link} {rule : Config.Mandatory}
    (h_kind : n.kind = .optional child rule) :
    n.Due cell ↔ 0 < cell.choice.unseen ∧ cell.decision ≠ some true := by
  rw [Due, h_kind]

theorem not_due_combined {links : List Link} {separator : String}
    (h_kind : n.kind = .combined links separator) : ¬ n.Due cell := by
  rw [Due, h_kind]
  exact not_false

theorem not_due_source {child : Link} (h_kind : n.kind = .source child) : ¬ n.Due cell := by
  rw [Due, h_kind]
  exact not_false

theorem remaining_optional {child : Link} {rule : Config.Mandatory}
    (h_kind : n.kind = .optional child rule) : n.remaining cell =
      2 * cell.choice.unseen - if cell.decision = some true then 1 else 0 := by
  rw [remaining, h_kind]

end Node

/-- The cell of an optional node is one that passes lead to: its choice is sound, and a rule that
never says that the child has to be present has not said so. -/
def Scope.Sound (s : Scope) (n : Node) (cell : Cell) : Prop :=
  ∀ child rule, n.kind = .optional child rule → cell.choice.Sound ∧
    (s.ignoreOptional = false → rule = .fixed false → cell.decision ≠ some true)

variable {s : Scope} {past : Course} {n : Node} {before after : Cell}

theorem Node.remaining_le (n : Node) (cell : Cell) : n.remaining cell ≤ 4 := by
  unfold remaining
  split
  · split <;> omega
  · next f _ _ =>
    exact Nat.le_trans List.countP_le_length (Nat.le_succ_of_le f.length_boundaries_le)
  · have h_unseen := cell.choice.unseen_le
    omega
  · omega
  · omega

/-- What is left decides whether a node is due. -/
theorem Node.Due.of_remaining {cell cell' : Cell} (h : n.Due cell)
    (h_same : n.remaining cell' = n.remaining cell) : n.Due cell' := by
  unfold Due at h ⊢
  unfold remaining at h_same
  split
  · next h_kind =>
    simp only [h_kind] at h h_same
    rw [if_pos h] at h_same
    by_contra h_not
    rw [if_neg h_not] at h_same
    cases h_same
  · next f _ h_kind =>
    simp only [h_kind] at h h_same
    obtain ⟨b, h_b, h_not⟩ := h
    -- What is due shows in the count of cases not served yet, which is the same for both.
    have h_pos : 0 < f.boundaries.countP fun b => b.2 ∉ cell.served :=
      List.countP_pos_iff.2 ⟨b, h_b, by simpa using h_not⟩
    rw [← h_same] at h_pos
    obtain ⟨b', h_b', h_not'⟩ := List.countP_pos_iff.1 h_pos
    exact ⟨b', h_b', by simpa using h_not'⟩
  · next h_kind =>
    simp only [h_kind] at h h_same
    rw [if_neg h.2] at h_same
    by_cases h_true : cell'.decision = some true
    · rw [if_pos h_true] at h_same
      omega
    · rw [if_neg h_true] at h_same
      exact ⟨by omega, h_true⟩
  · next h_kind => simp only [h_kind] at h
  · next h_kind => simp only [h_kind] at h

namespace Scope

/-- Passes keep cells sound. -/
theorem Follows.sound (h : s.Follows past n before after) (h_sound : s.Sound n before) :
    s.Sound n after := by
  intro child rule h_kind
  obtain ⟨h_choice, h_rule⟩ := h_sound child rule h_kind
  rw [follows_optional h_kind] at h
  rcases h with ⟨h_same, h_decision, -⟩ | ⟨present, -, h_decided, -⟩
  · rw [h_same, h_decision]
    exact ⟨h_choice, h_rule⟩
  · cases h_decided with
    | mandatory h_heard h_same h_decision =>
      rw [h_same]
      refine ⟨h_choice, fun h_heed h_fixed => ?_⟩
      rcases h_heard with h_ignore | h_not
      · rw [h_heed] at h_ignore
        cases h_ignore
      · exact absurd h_fixed h_not
    | chosen h_next h_decision =>
      refine ⟨h_choice.next h_next, fun _ _ => ?_⟩
      rw [h_decision]
      simp

/-- A decision leaves no more than before, and less if the node was due. -/
theorem Decided.remaining {rule : Config.Mandatory} {present : Bool}
    (h : s.Decided rule before after present) (h_sound : before.choice.Sound) :
    (2 * after.choice.unseen - if after.decision = some true then 1 else 0) ≤
        (2 * before.choice.unseen - if before.decision = some true then 1 else 0) ∧
      (0 < before.choice.unseen → before.decision ≠ some true →
        (2 * after.choice.unseen - if after.decision = some true then 1 else 0) <
          (2 * before.choice.unseen - if before.decision = some true then 1 else 0)) := by
  cases h with
  | mandatory _ h_same h_decision =>
    -- the choice is left as it was, but does not count for now
    rw [h_same, if_pos h_decision]
    refine ⟨by split <;> omega, fun h_unseen h_not => ?_⟩
    rw [if_neg h_not]
    omega
  | chosen h_next h_decision =>
    -- one side less is unseen, which weighs more than that the choice may count again
    have h_le := FairChoice.unseen_next_le h_next
    have h_lt := fun h_unseen => h_sound.unseen_next h_unseen h_next
    rw [if_neg (by rw [h_decision]; simp)]
    refine ⟨?_, fun h_unseen h_not => ?_⟩
    · rcases Nat.eq_zero_or_pos before.choice.unseen with h_zero | h_pos
      · omega
      · have h_lt := h_lt h_pos
        split <;> omega
    · have h_lt := h_lt h_unseen
      rw [if_neg h_not]
      omega

/-- **Nothing comes back.** A pass leaves no more of a node than was left before. -/
theorem Follows.remaining_le (h : s.Follows past n before after) (h_sound : s.Sound n before) :
    n.remaining after ≤ n.remaining before := by
  unfold Node.remaining
  split
  · next h_kind =>
    rw [follows_constant h_kind] at h
    split
    · next h_after =>
      have h_before : before.served = [] := List.subset_nil.1 (h_after ▸ h.1)
      exact Nat.le_of_eq (if_pos h_before).symm
    · exact Nat.zero_le _
  · next h_kind =>
    rw [follows_field h_kind] at h
    refine List.countP_mono_left fun b _ h_b => ?_
    have h_not : b.2 ∉ after.served := by simpa using h_b
    simpa using fun h_mem => h_not (h.1 h_mem)
  · next child rule h_kind =>
    obtain ⟨h_choice, -⟩ := h_sound child rule h_kind
    rw [follows_optional h_kind] at h
    rcases h with ⟨h_same, h_decision, -⟩ | ⟨present, -, h_decided, -⟩
    · exact Nat.le_of_eq (by rw [h_same, h_decision])
    · exact (h_decided.remaining h_choice).1
  · exact Nat.le_refl _
  · exact Nat.le_refl _

/-- **A node that is due and served has less left.** -/
theorem Follows.remaining_lt (h : s.Follows past n before after) (h_sound : s.Sound n before)
    (h_due : n.Due before) (h_served : .served n ∈ past)
    (h_decided : n.kind.isOptional = true → ∃ present, .decided n present ∈ past) :
    n.remaining after < n.remaining before := by
  unfold Node.Due at h_due
  unfold Node.remaining
  split
  · next h_kind =>
    simp only [h_kind] at h_due
    rw [follows_constant h_kind] at h
    rw [if_neg (h.2 h_served), if_pos h_due]
    exact Nat.one_pos
  · next f _ h_kind =>
    simp only [h_kind] at h_due
    rw [follows_field h_kind] at h
    obtain ⟨b, h_b, h_not⟩ := h_due
    obtain ⟨b', h_b', h_before, h_after⟩ := h.2 h_served b h_b h_not
    have h_mono : ∀ bs : List (FieldCase × Int), (bs.countP fun b => b.2 ∉ after.served) ≤
        bs.countP fun b => b.2 ∉ before.served := by
      intro bs
      refine List.countP_mono_left fun b _ h_b => ?_
      have h_not : b.2 ∉ after.served := by simpa using h_b
      simpa using fun h_mem => h_not (h.1 h_mem)
    -- this boundary was left before and is not left now
    obtain ⟨xs, ys, h_split⟩ := List.append_of_mem h_b'
    rw [h_split, List.countP_append, List.countP_append,
      List.countP_cons_of_neg (by simpa using h_after),
      List.countP_cons_of_pos (by simpa using h_before)]
    have h_xs := h_mono xs
    have h_ys := h_mono ys
    omega
  · next child rule h_kind =>
    simp only [h_kind] at h_due
    obtain ⟨h_choice, -⟩ := h_sound child rule h_kind
    obtain ⟨present, h_present⟩ := h_decided (by rw [h_kind]; rfl)
    rw [follows_optional h_kind] at h
    rcases h with ⟨-, -, h_none⟩ | ⟨_, -, h_decided, -⟩
    · exact absurd h_present (h_none present)
    · exact (h_decided.remaining h_choice).2 h_due.1 h_due.2
  · next h_kind => simp only [h_kind] at h_due
  · next h_kind => simp only [h_kind] at h_due

end Scope

end Specimen
