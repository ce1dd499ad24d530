import Mathlib.Data.Finset.Max
import Mathlib.Data.Nat.Count
import Mathlib.Order.Interval.Finset.Nat
import Specimen.Proofs.Node.Counted
import Specimen.Proofs.Node.Onward
import Specimen.Proofs.Node.Run

/-!
# How long nodes are due

In passes that follow each other a node that stands below a number of optional nodes is served in
its share of them: each optional node halves what is left, up to the lead that its choice may have
at the beginning (`Scope.Passes.pace`). The share counts from any pass on, whatever is drawn.

Take passes that begin with unused cells. A node that stays due is served before as many passes have
run as are counted for the top level: each time it is served it has less left, and what is counted
doubles with each optional node that halves its share.

So a node that is due after more passes is late: there was a pass before which it was not due
(`Scope.Passes.late_of_due`). Only an optional node can be late, and only if its rule has changed
its mind (`Scope.Passes.relents`). It has one side left to show then, so it is not late any more
once it is served, and this does not take half of the passes that are counted
(`Scope.Passes.card_late_le`).
-/

namespace Specimen

/-! ### How soon nodes are served -/

section Share

open Classical

/-- A number of passes, one after the other, with what the memory is before each and what happens in
it. -/
structure Scope.Passes (s : Scope) (Member : Node → Prop) (tops : List Node) (roster : Roster)
    (number : Nat) (memory : Nat → Memory) (past : Nat → Course) : Prop where
  pass : ∀ i < number, s.Pass Member tops roster (memory i) (memory (i + 1)) (past i)
  nulls : ∀ n o, (n, some o) ∈ roster → s.Nulls Member o n

/-- How often a node is served in some passes from one on. -/
noncomputable def servings (past : Nat → Course) (n : Node) (i length : Nat) : Nat :=
  Nat.count (fun j => .served n ∈ past (i + j)) length

/-- How often an optional node lets its child be present. -/
noncomputable def presences (past : Nat → Course) (n : Node) (i length : Nat) : Nat :=
  Nat.count (fun j => .decided n true ∈ past (i + j)) length

/-- From any pass on a node is served in the share of the passes that a number of optional nodes
leaves, up to a lead that all choices keep to where one begins to count. -/
def KeepsPace (Member : Node → Prop) (number : Nat) (memory : Nat → Memory) (past : Nat → Course)
    (n : Node) (d : Nat) : Prop :=
  ∀ i length lead, i + length ≤ number →
    (∀ o, Member o → ((memory i).cell o.key).choice.misses ≤ lead) →
      length + lead ≤ 2 ^ d * (servings past n i length + lead)

variable {s : Scope} {Member : Node → Prop} {rank : Nat → Nat} {tops : List Node} {roster : Roster}
  {number : Nat} {memory : Nat → Memory} {past : Nat → Course} {n : Node}

/-- A pass serves an optional node at the expense of a miss, unless its child is present. -/
theorem Scope.Pass.misses_le {before after : Memory} {now : Course}
    (h : s.Pass Member tops roster before after now) (h_n : Member n)
    (h_optional : n.kind.isOptional = true) :
    (if .served n ∈ now then 1 else 0) + (after.cell n.key).choice.misses ≤
      2 * (if .decided n true ∈ now then 1 else 0) + (before.cell n.key).choice.misses := by
  obtain ⟨child, rule, h_kind⟩ := NodeKind.exists_optional h_optional
  by_cases h_served : .served n ∈ now
  · obtain ⟨present, h_present, -⟩ := h.exists_decided h_optional h_served
    obtain ⟨-, h_only, h_decided⟩ := h.of_decided h_n h_kind h_present
    rw [if_pos h_served]
    cases h_decided with
    | mandatory _ h_same _ =>
      rw [if_pos h_present, h_same]
      omega
    | chosen h_next _ =>
      have h_misses := FairChoice.misses_next_le h_next
      cases present with
      | true =>
        rw [if_pos h_present]
        simp only [Bool.toNat_true] at h_misses
        omega
      | false =>
        rw [if_neg fun h_true => by cases h_only true h_true]
        simp only [Bool.toNat_false] at h_misses
        omega
  · -- what is not served decides nothing
    rw [if_neg h_served]
    rcases (follows_optional h_kind).1 (h.follows n h_n) with ⟨h_same, -, -⟩ | h_some
    · rw [h_same]
      omega
    · obtain ⟨-, -, -, -, h_must⟩ := h_some
      exact absurd h_must h_served

namespace Scope.Passes

variable (h : s.Passes Member tops roster number memory past)
include h

/-- **Optional nodes skip half of the time**, up to a lead. -/
theorem servings_le (h_n : Member n) (h_optional : n.kind.isOptional = true) {i length : Nat}
    (h_end : i + length ≤ number) :
    servings past n i length + ((memory (i + length)).cell n.key).choice.misses ≤
      2 * presences past n i length + ((memory i).cell n.key).choice.misses := by
  induction length with
  | zero => simp [servings, presences]
  | succ length ih =>
    have h_before := ih (by omega)
    have h_pass := (h.pass (i + length) (by omega)).misses_le h_n h_optional
    rw [servings, presences] at h_before ⊢
    rw [Nat.count_succ, Nat.count_succ, ← Nat.add_assoc i]
    omega

/-- **The pace.** Each node has a node of the top level that leads down to it over a number of
optional nodes, and it is served in the share of the passes that these leave. -/
theorem pace (h_untangled : s.Untangled Member)
    (h_calls : ∀ n n', Member n → s.Calls n n' → Member n' ∧ rank n'.key < rank n.key) {top : Nat}
    (h_top : ∀ key, rank key ≤ top)
    (h_above : ∀ n, Member n → n ∈ tops ∨ ∃ p, Member p ∧ ∃ link ∈ p.kind.links,
      s.target? link = some n) (h_n : Member n) :
    ∃ t ∈ tops, ∃ d, s.Descends t d n ∧ KeepsPace Member number memory past n d := by
  -- By induction on the height below `top`: the node's supplier stands one step nearer to it.
  induction h_height : top - rank n.key using Nat.strong_induction_on generalizing n with
  | _ height ih =>
    rcases exists_supplier h.nulls h_untangled h_calls h_above h_n with
      ⟨h_tops, h_always⟩ | ⟨p, h_supplies, h_lt⟩
    · refine ⟨n, h_tops, 0, .refl, fun i length lead h_end _ => ?_⟩
      have h_all : servings past n i length = length :=
        Nat.count_of_forall fun j h_j => h_always _ _ _ (h.pass (i + j) (by omega))
      rw [h_all, Nat.pow_zero, Nat.one_mul]
    · have h_p_top := h_top p.key
      obtain ⟨t, h_t, d, h_descends, h_pace⟩ :=
        ih (top - rank p.key) (by omega) h_supplies.member rfl
      refine ⟨t, h_t, _, h_descends.trans h_supplies.descends, fun i length lead h_end h_lead => ?_⟩
      have h_supplier := h_pace i length lead h_end h_lead
      cases h_optional : p.kind.isOptional with
      | false =>
        have h_share : servings past p i length ≤ servings past n i length := by
          refine Nat.count_mono_left fun j h_j h_served => ?_
          refine h_supplies.served _ _ _ (h.pass (i + j) (by omega)) h_served fun h_true => ?_
          cases h_optional.symm.trans h_true
        calc length + lead ≤ 2 ^ d * (servings past p i length + lead) := h_supplier
          _ ≤ 2 ^ d * (servings past n i length + lead) :=
              Nat.mul_le_mul_left _ (Nat.add_le_add_right h_share lead)
      | true =>
        have h_share : presences past p i length ≤ servings past n i length := by
          obtain ⟨child, rule, h_kind⟩ := NodeKind.exists_optional h_optional
          refine Nat.count_mono_left fun j h_j h_present => ?_
          have h_pass := h.pass (i + j) (by omega)
          exact h_supplies.served _ _ _ h_pass
            (h_pass.of_decided h_supplies.member h_kind h_present).1 fun _ => h_present
        -- The fair choice is present in half of the passes, hence one more factor of two.
        have h_half := h.servings_le h_supplies.member h_optional h_end
        have h_misses := h_lead p h_supplies.member
        calc length + lead ≤ 2 ^ d * (servings past p i length + lead) := h_supplier
          _ ≤ 2 ^ d * (2 * (servings past n i length + lead)) :=
              Nat.mul_le_mul_left _ (by omega)
          _ = 2 ^ (d + 1) * (servings past n i length + lead) := by
              rw [Nat.pow_succ, Nat.mul_assoc]

end Scope.Passes

end Share

/-! ### Unused cells -/

/-- A cell after its cases were forgotten, as far as cases go. -/
structure Cell.Unused (cell : Cell) : Prop where
  served : cell.served = []
  choice : cell.choice = .fresh
  decision : cell.decision = none

/-- As long as a node is due, it has used up less than its least number of cases. -/
theorem Node.remaining_of_unused {n : Node} {before after : Cell} (h_unused : before.Unused)
    (h_due : n.Due after) : n.remaining before + 1 ≤ n.leastCases + n.remaining after := by
  unfold remaining leastCases
  cases h_kind : n.kind with
  | constant value =>
    exact Nat.le_of_eq (by rw [if_pos h_unused.served, if_pos ((due_constant_iff h_kind).1 h_due)])
  | field f set =>
    obtain ⟨b, h_b, h_not⟩ := (due_field_iff h_kind).1 h_due
    have h_left : 0 < f.boundaries.countP fun b => b.2 ∉ after.served :=
      List.countP_pos_iff.2 ⟨b, h_b, by simpa using h_not⟩
    have h_all : (f.boundaries.countP fun b => b.2 ∉ before.served) ≤ f.boundaries.length :=
      List.countP_le_length
    simp only
    omega
  | optional child rule =>
    obtain ⟨h_unseen, h_not⟩ := (due_optional_iff h_kind).1 h_due
    have h_two : before.choice.unseen ≤ 2 := before.choice.unseen_le
    simp only
    rw [if_neg h_not]
    omega
  | combined links separator => exact absurd h_due (not_due_combined h_kind)
  | source child => exact absurd h_due (not_due_source h_kind)

namespace Scope

/-- A node is due after a number of passes, and was not due after fewer of them. -/
def Late (memory : Nat → Memory) (n : Node) (k : Nat) : Prop :=
  n.Due ((memory k).cell n.key) ∧ ∃ i < k, ¬ n.Due ((memory i).cell n.key)

/-- A rule that looks at another value has said that the child has to be present, and then that it
has not. -/
def Relents (s : Scope) (n : Node) (before after : Cell) : Prop :=
  s.ignoreOptional = false ∧ (∃ child id, n.kind = .optional child (.whenPresent id)) ∧
    before.decision = some true ∧ after.decision = some false

namespace Passes

variable {s : Scope} {Member : Node → Prop} {rank : Nat → Nat} {tops : List Node} {roster : Roster}
  {number : Nat} {memory : Nat → Memory} {past : Nat → Course} {n : Node} {i j k d : Nat}
  (h : s.Passes Member tops roster number memory past)
  (h_fresh : ∀ n, Member n → ((memory 0).cell n.key).Unused)

include h in
/-- Any number of passes take nothing back. -/
theorem onward (h_n : Member n) (h_le : i ≤ j) (h_end : j ≤ number) :
    n.Onward ((memory i).cell n.key) ((memory j).cell n.key) := by
  induction j, h_le using Nat.le_induction with
  | base => exact .refl n _
  | succ j _ ih =>
    exact (ih (Nat.le_of_succ_le h_end)).trans ((h.pass j h_end).follows n h_n).onward

include h h_fresh

theorem sound (h_n : Member n) (h_end : i ≤ number) : s.Sound n ((memory i).cell n.key) := by
  induction i with
  | zero =>
    intro child rule _
    rw [(h_fresh n h_n).choice, (h_fresh n h_n).decision]
    exact ⟨FairChoice.sound_fresh, fun _ _ h_true => by cases h_true⟩
  | succ i ih => exact ((h.pass i h_end).follows n h_n).sound (ih (Nat.le_of_succ_le h_end))

theorem remaining_le (h_n : Member n) (h_le : i ≤ j) (h_end : j ≤ number) :
    n.remaining ((memory j).cell n.key) ≤ n.remaining ((memory i).cell n.key) :=
  le_of_never_rises (fun k => n.remaining ((memory k).cell n.key)) h_le fun k _ h_k =>
    ((h.pass k (by omega)).follows n h_n).remaining_le (h.sound h_fresh h_n (by omega))

/-- **As long as a node is due, it has less left each time that it is served.** -/
theorem servings_add_remaining_le (h_n : Member n) {length : Nat} (h_end : i + length ≤ number)
    (h_due : ∀ j < length, n.Due ((memory (i + j)).cell n.key)) :
    servings past n i length + n.remaining ((memory (i + length)).cell n.key) ≤
      n.remaining ((memory i).cell n.key) := by
  induction length with
  | zero => simp [servings]
  | succ length ih =>
    have h_before := ih (by omega) fun j h_j => h_due j (Nat.lt_succ_of_lt h_j)
    have h_pass := h.pass (i + length) (by omega)
    have h_sound := h.sound h_fresh h_n (i := i + length) (by omega)
    rw [servings] at h_before ⊢
    rw [Nat.count_succ, ← Nat.add_assoc i]
    by_cases h_served : .served n ∈ past (i + length)
    · have h_less :=
        h_pass.remaining_lt h_n h_sound (h_due length (Nat.lt_succ_self length)) h_served
      rw [if_pos h_served]
      omega
    · have h_less := (h_pass.follows n h_n).remaining_le h_sound
      rw [if_neg h_served]
      omega

/-- **How long a node can stay due.** -/
theorem lt_of_due (h_pace : KeepsPace Member number memory past n d) (h_n : Member n)
    (h_end : k ≤ number) (h_due : ∀ j ≤ k, n.Due ((memory j).cell n.key)) :
    k < 2 ^ d * n.leastCases := by
  have h_served : servings past n 0 k + n.remaining ((memory (0 + k)).cell n.key) ≤
      n.remaining ((memory 0).cell n.key) :=
    h.servings_add_remaining_le h_fresh h_n (by omega) fun j h_j => by
      rw [Nat.zero_add]
      exact h_due j (Nat.le_of_lt h_j)
  rw [Nat.zero_add] at h_served
  have h_least := Node.remaining_of_unused (h_fresh n h_n) (h_due k (Nat.le_refl k))
  have h_lead : ∀ o, Member o → ((memory 0).cell o.key).choice.misses ≤ 1 := by
    intro o h_o
    rw [(h_fresh o h_o).choice]
    exact Nat.le_refl 1
  calc k + 1 ≤ 2 ^ d * (servings past n 0 k + 1) := h_pace 0 k 1 (by omega) h_lead
    _ ≤ 2 ^ d * n.leastCases := Nat.mul_le_mul_left _ (by omega)

/-! ### Late nodes -/

/-- **Only an optional node can be late**: what it has left counts again after it did not count, as
its child had to be present. -/
theorem late_optional (h_n : Member n) (h_end : k ≤ number) (h_due : n.Due ((memory k).cell n.key))
    (h_lt : i < k) (h_not : ¬ n.Due ((memory i).cell n.key)) : n.kind.isOptional = true ∧
      ((memory i).cell n.key).decision = some true ∧
        ((memory k).cell n.key).decision = some false ∧
          n.remaining ((memory k).cell n.key) = 2 := by
  have h_onward := h.onward h_n (Nat.le_of_lt h_lt) h_end
  have h_left := h.remaining_le h_fresh h_n (Nat.le_of_lt h_lt) h_end
  cases h_kind : n.kind with
  | constant value =>
    -- what was served stays so
    rw [Node.due_constant_iff h_kind] at h_due h_not
    rw [Node.Onward.constant_iff h_kind, h_due] at h_onward
    exact absurd (List.subset_nil.1 h_onward) h_not
  | field f set =>
    rw [Node.due_field_iff h_kind] at h_due h_not
    rw [Node.Onward.field_iff h_kind] at h_onward
    obtain ⟨b, h_b, h_left⟩ := h_due
    exact absurd ⟨b, h_b, fun h_mem => h_left (h_onward h_mem)⟩ h_not
  | optional child rule =>
    rw [Node.due_optional_iff h_kind] at h_due h_not
    rw [Node.Onward.optional_iff h_kind] at h_onward
    rw [Node.remaining_optional h_kind] at h_left ⊢
    have h_true : ((memory i).cell n.key).decision = some true := by
      by_contra h_other
      exact h_not ⟨Nat.lt_of_lt_of_le h_due.1 h_onward.1, h_other⟩
    obtain ⟨said, h_said⟩ := Option.ne_none_iff_exists'.1
      (h_onward.2 (by rw [h_true]; exact Option.some_ne_none true))
    obtain rfl : said = false := by
      cases said with
      | true => exact absurd h_said h_due.2
      | false => rfl
    -- less than both sides of the choice were left before, and one is left now
    have h_two := ((memory i).cell n.key).choice.unseen_le
    rw [Node.remaining_optional h_kind, if_pos h_true, if_neg h_due.2] at h_left
    exact ⟨rfl, h_true, h_said, by rw [if_neg h_due.2]; omega⟩
  | combined links separator => exact absurd h_due (Node.not_due_combined h_kind)
  | source child => exact absurd h_due (Node.not_due_source h_kind)

/-- **A node that counts and is late has a rule that has changed its mind.** -/
theorem relents (h_n : Member n) (h_end : k ≤ number) (h_late : Late memory n k)
    (h_counts : ∀ child rule, n.kind = .optional child rule →
      s.knownMandatory ((memory k).cell n.key) rule ≠ some true) :
    ∃ i < k, s.Relents n ((memory i).cell n.key) ((memory k).cell n.key) := by
  obtain ⟨h_due, i, h_lt, h_not⟩ := h_late
  obtain ⟨h_optional, h_true, h_false, -⟩ := h.late_optional h_fresh h_n h_end h_due h_lt h_not
  obtain ⟨child, rule, h_kind⟩ := NodeKind.exists_optional h_optional
  have h_known := h_counts child rule h_kind
  unfold knownMandatory at h_known
  cases h_heed : s.ignoreOptional with
  | true => exact absurd (by simp [h_heed]) h_known
  | false =>
    rw [h_heed] at h_known
    cases rule with
    | fixed always =>
      cases always with
      | true => exact absurd rfl h_known
      | false =>
        have h_sound := h.sound h_fresh h_n (i := i) (by omega) child _ h_kind
        exact absurd h_true (h_sound.2 h_heed rfl)
    | whenPresent id => exact ⟨i, h_lt, h_heed, ⟨child, id, h_kind⟩, h_true, h_false⟩

/-- A node that is late is not served until the last time that it is. -/
theorem late_span (h_pace : KeepsPace Member number memory past n d) (h_n : Member n)
    (h_late : Late memory n j) (h_late' : Late memory n k) (h_le : j ≤ k) (h_end : k ≤ number) :
    k + 2 ≤ j + 2 * 2 ^ d := by
  have h_two : ∀ {l}, Late memory n l → l ≤ k → n.remaining ((memory l).cell n.key) = 2 := by
    rintro l ⟨h_due, i, h_lt, h_not⟩ h_l
    exact (h.late_optional h_fresh h_n (by omega) h_due h_lt h_not).2.2.2
  have h_first := h_two h_late h_le
  have h_last := h_two h_late' (Nat.le_refl k)
  obtain ⟨length, rfl⟩ := Nat.exists_eq_add_of_le h_le
  -- nothing that it has left is used up, so it is due all the time
  have h_due : ∀ l < length, n.Due ((memory (j + l)).cell n.key) := by
    intro l h_l
    have h_before := h.remaining_le h_fresh h_n (Nat.le_add_right j l) (by omega)
    have h_after := h.remaining_le h_fresh h_n (i := j + l) (j := j + length) (by omega) h_end
    exact h_late.1.of_remaining (by omega)
  have h_none := h.servings_add_remaining_le h_fresh h_n h_end h_due
  have h_served : servings past n j length = 0 := by omega
  have h_share := h_pace j length 2 h_end fun o _ => FairChoice.misses_le _
  rw [h_served, Nat.zero_add, Nat.mul_comm] at h_share
  omega

/-- So it is not late often. -/
theorem card_late_lt (h_pace : KeepsPace Member number memory past n d) (h_n : Member n)
    {late : Finset Nat} (h_late : ∀ k ∈ late, k ≤ number ∧ Late memory n k) :
    late.card < 2 * 2 ^ d := by
  have h_pos : 0 < 2 ^ d := Nat.two_pow_pos d
  rcases late.eq_empty_or_nonempty with rfl | h_some
  · rw [Finset.card_empty]
    omega
  · have h_first := late.min'_mem h_some
    have h_span : late ⊆ Finset.Icc (late.min' h_some) (late.min' h_some + (2 * 2 ^ d - 2)) := by
      intro k h_k
      have h_le := late.min'_le k h_k
      have h_end := h.late_span h_fresh h_pace h_n (h_late _ h_first).2 (h_late k h_k).2 h_le
        (h_late k h_k).1
      exact Finset.mem_Icc.2 ⟨h_le, by omega⟩
    have h_card := Finset.card_le_card h_span
    rw [Nat.card_Icc] at h_card
    omega

/-! ### Against what is counted -/

section Counting

variable (h_untangled : s.Untangled Member) (h_ordered : s.Ordered Member rank)
  (h_calls : ∀ n n', Member n → s.Calls n n' → Member n' ∧ rank n'.key < rank n.key) {top : Nat}
  (h_top : ∀ key, rank key ≤ top)
  (h_above : ∀ n, Member n → n ∈ tops ∨ ∃ p, Member p ∧ ∃ link ∈ p.kind.links,
    s.target? link = some n) {count : Nat} (h_covers : ∀ t ∈ tops, s.Covers t count)
  (h_limit : count < countLimit)
include h_untangled h_ordered h_calls h_top h_above h_covers h_limit

omit h_fresh in
/-- What is counted covers the share that each node is left. -/
theorem exists_share (h_n : Member n) : ∃ d, KeepsPace Member number memory past n d ∧
    2 ^ d * (n.leastCases + 1) ≤ count + 1 := by
  obtain ⟨t, h_t, d, h_descends, h_pace⟩ := h.pace h_untangled h_calls h_top h_above h_n
  obtain ⟨k, h_least, h_counted⟩ := h_ordered.counted_leastCases h_n
  obtain ⟨k', h_counted', h_doubled⟩ := h_descends.counted h_counted
  have h_count := h_covers t h_t k' h_counted'
  -- the number is not cut off
  have h_le : k' ≤ count := by
    rw [saturated] at h_count
    omega
  refine ⟨d, h_pace, ?_⟩
  calc 2 ^ d * (n.leastCases + 1) ≤ 2 ^ d * (k + 1) :=
        Nat.mul_le_mul_left _ (Nat.succ_le_succ h_least)
    _ ≤ k' + 1 := h_doubled
    _ ≤ count + 1 := Nat.succ_le_succ h_le

/-- **What is due beyond the count is late.** -/
theorem late_of_due (h_n : Member n) (h_end : k ≤ number) (h_beyond : count ≤ k)
    (h_due : n.Due ((memory k).cell n.key)) : Late memory n k := by
  refine ⟨h_due, ?_⟩
  by_contra h_never
  obtain ⟨d, h_pace, h_share⟩ := h.exists_share h_untangled h_ordered h_calls h_top h_above
    h_covers h_limit h_n
  have h_always : ∀ j ≤ k, n.Due ((memory j).cell n.key) := by
    intro j h_j
    by_contra h_not
    rcases Nat.lt_or_eq_of_le h_j with h_lt | rfl
    · exact h_never ⟨j, h_lt, h_not⟩
    · exact h_not h_due
  have h_soon := h.lt_of_due h_fresh h_pace h_n h_end h_always
  have h_pos : 0 < 2 ^ d := Nat.two_pow_pos d
  rw [Nat.mul_succ] at h_share
  omega

/-- **A node is late in less than half of what is counted.** -/
theorem card_late_le (h_n : Member n) {late : Finset Nat}
    (h_late : ∀ k ∈ late, k ≤ number ∧ Late memory n k) : late.card ≤ (count - 1) / 2 := by
  obtain ⟨d, h_pace, h_share⟩ := h.exists_share h_untangled h_ordered h_calls h_top h_above
    h_covers h_limit h_n
  have h_card := h.card_late_lt h_fresh h_pace h_n h_late
  rcases late.eq_empty_or_nonempty with rfl | ⟨k, h_k⟩
  · exact Nat.zero_le _
  · -- only an optional node is late, and it has at least three cases
    obtain ⟨h_end, h_due, i, h_lt, h_not⟩ := h_late k h_k
    obtain ⟨child, rule, h_kind⟩ := NodeKind.exists_optional
      (h.late_optional h_fresh h_n h_end h_due h_lt h_not).1
    have h_three : n.leastCases = 3 := by rw [Node.leastCases, h_kind]
    rw [h_three] at h_share
    omega

end Counting

end Passes

end Scope

end Specimen
