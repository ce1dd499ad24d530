import Specimen.Proofs.Node.Pending

/-!
# What passes never take back

Between two restarts a pass only adds to what a node has served, to the sides that a choice has
shown, and to the rules that have been heard (`Node.Onward`). What a rule has said last is the one
thing that may change to and fro. So if a node has cases left that had none left before, then a rule
has changed its mind at this node or below it (`Scope.Pending.exists_changed`).
-/

namespace Specimen

/-- The cell of a node goes on: served boundaries and sides that were shown stay so, and a rule that
was heard stays heard. -/
def Node.Onward (n : Node) (before after : Cell) : Prop :=
  match n.kind with
  | .constant _ | .field .. => before.served ⊆ after.served
  | .optional .. => after.choice.unseen ≤ before.choice.unseen ∧
      (before.decision ≠ none → after.decision ≠ none)
  | .combined .. | .source _ => True

namespace Node.Onward

variable {n : Node} {before between after : Cell}

theorem constant_iff {value : String} (h_kind : n.kind = .constant value) :
    n.Onward before after ↔ before.served ⊆ after.served := by
  rw [Onward, h_kind]

theorem field_iff {f : Field} {set : CharacterSet} (h_kind : n.kind = .field f set) :
    n.Onward before after ↔ before.served ⊆ after.served := by
  rw [Onward, h_kind]

theorem optional_iff {child : Link} {rule : Config.Mandatory}
    (h_kind : n.kind = .optional child rule) : n.Onward before after ↔
      after.choice.unseen ≤ before.choice.unseen ∧
        (before.decision ≠ none → after.decision ≠ none) := by
  rw [Onward, h_kind]

theorem refl (n : Node) (cell : Cell) : n.Onward cell cell := by
  unfold Onward
  split
  · exact List.Subset.refl _
  · exact List.Subset.refl _
  · exact ⟨Nat.le_refl _, fun h_some => h_some⟩
  · trivial
  · trivial

theorem trans (h : n.Onward before between) (h' : n.Onward between after) :
    n.Onward before after := by
  unfold Onward at h h' ⊢
  cases h_kind : n.kind with
  | constant value =>
    simp only [h_kind] at h h' ⊢
    exact List.Subset.trans h h'
  | field f set =>
    simp only [h_kind] at h h' ⊢
    exact List.Subset.trans h h'
  | optional child rule =>
    simp only [h_kind] at h h' ⊢
    exact ⟨Nat.le_trans h'.1 h.1, fun h_some => h'.2 (h.2 h_some)⟩
  | combined links separator => trivial
  | source child => trivial

end Node.Onward

namespace Scope

variable {s : Scope} {past : Course} {n : Node} {before after : Cell}

/-- **Passes go on.** -/
theorem Follows.onward (h : s.Follows past n before after) : n.Onward before after := by
  unfold Node.Onward
  split
  · next h_kind => exact ((follows_constant h_kind).1 h).1
  · next h_kind => exact ((follows_field h_kind).1 h).1
  · next h_kind =>
    rcases (follows_optional h_kind).1 h with ⟨h_choice, h_decision, -⟩ | ⟨_, -, h_decided, -⟩
    · rw [h_choice, h_decision]
      exact ⟨Nat.le_refl _, id⟩
    · cases h_decided with
      | mandatory _ h_choice h_decision =>
        rw [h_choice, h_decision]
        exact ⟨Nat.le_refl _, fun _ => Option.some_ne_none _⟩
      | chosen h_next h_decision =>
        rw [h_decision]
        exact ⟨FairChoice.unseen_next_le h_next, fun _ => Option.some_ne_none _⟩
  · trivial
  · trivial

/-- A rule that looks at other values said one thing, and later the opposite. -/
def Changed (s : Scope) (n : Node) (before after : Cell) : Prop :=
  s.ignoreOptional = false ∧ ∃ child id said, n.kind = .optional child (.whenPresent id) ∧
    before.decision = some said ∧ after.decision = some !said

/-- If what is known of a rule is another thing than before, then the rule has changed its mind. -/
theorem changed_of_known {child : Link} {rule : Config.Mandatory} {said : Bool}
    (h_kind : n.kind = .optional child rule) (h_onward : n.Onward before after)
    (h_before : s.knownMandatory before rule = some said)
    (h_after : s.knownMandatory after rule ≠ some said) : s.Changed n before after := by
  unfold knownMandatory at h_before h_after
  rw [Node.Onward.optional_iff h_kind] at h_onward
  cases h_ignore : s.ignoreOptional with
  | true =>
    -- then both times it is known that the child has to be present
    rw [h_ignore, if_pos rfl] at h_before h_after
    exact absurd h_before h_after
  | false =>
    rw [h_ignore] at h_before h_after
    cases rule with
    | fixed always => exact absurd h_before h_after
    | whenPresent id =>
      have h_before : before.decision = some said := h_before
      have h_after : after.decision ≠ some said := h_after
      obtain ⟨other, h_other⟩ := Option.ne_none_iff_exists'.1
        (h_onward.2 (by rw [h_before]; exact Option.some_ne_none _))
      have h_opposite : other = !said := Bool.eq_not.2 fun h_same =>
        h_after (h_other.trans (congrArg some h_same))
      exact ⟨h_ignore, child, id, said, h_kind, h_before, h_opposite ▸ h_other⟩

/-- **Cases come back only where a rule has changed its mind.** -/
theorem Pending.exists_changed {Member : Node → Prop} {cells cells' : Nat → Cell}
    (h_calls : ∀ n n', Member n → s.Calls n n' → Member n')
    (h_onward : ∀ n, Member n → n.Onward (cells n.key) (cells' n.key))
    (h : s.Pending cells' n) (h_n : Member n) (h_before : ¬ s.Pending cells n) :
    ∃ o, Member o ∧ s.Changed o (cells o.key) (cells' o.key) := by
  induction h with
  | @constant n value h_kind h =>
    have h_served := h_onward n h_n
    rw [Node.Onward.constant_iff h_kind, h] at h_served
    exact absurd (.constant h_kind (List.subset_nil.1 h_served)) h_before
  | @field n f set h_kind h =>
    have h_served := h_onward n h_n
    rw [Node.Onward.field_iff h_kind] at h_served
    refine absurd (.field h_kind fun h_none => h ?_) h_before
    rw [pendingCase?_eq_none_iff] at h_none ⊢
    exact fun b h_b => h_served (h_none b h_b)
  | @part n n' link h_passes h_link h_target _ ih =>
    refine ih (h_calls n n' h_n (.inl ⟨link, h_link, h_target⟩)) fun h_part => ?_
    exact h_before (.part h_passes h_link h_target h_part)
  | @child n n' child rule h_kind h_known h_target _ ih =>
    by_cases h_child : s.Pending cells n'
    · -- then it was known that the child did not count
      have h_false : s.knownMandatory (cells n.key) rule = some false := by
        by_contra h_not
        exact h_before (.child h_kind h_not h_target h_child)
      exact ⟨n, h_n, changed_of_known h_kind (h_onward n h_n) h_false h_known⟩
    · refine ih (h_calls n n' h_n (.inl ⟨child, ?_, h_target⟩)) h_child
      rw [h_kind]
      exact List.mem_singleton_self _
  | @choice n child rule h_kind h_known h =>
    have h_choice := h_onward n h_n
    rw [Node.Onward.optional_iff h_kind] at h_choice
    have h_next : (cells n.key).choice.hasNext = true :=
      FairChoice.hasNext_iff.2 (Nat.lt_of_lt_of_le (FairChoice.hasNext_iff.1 h) h_choice.1)
    -- then it was known that the choice did not count
    have h_true : s.knownMandatory (cells n.key) rule = some true := by
      by_contra h_not
      exact h_before (.choice h_kind h_not h_next)
    exact ⟨n, h_n, changed_of_known h_kind (h_onward n h_n) h_true h_known⟩

end Scope

end Specimen
