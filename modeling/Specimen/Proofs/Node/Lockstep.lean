import Specimen.Proofs.Node.Pending
import Specimen.Proofs.Node.Saturation
import Specimen.Proofs.Node.Serving

/-!
# Nodes that are always present

If no optional node may skip its child (`Scope.Forced`), nobody is ever asked for null, and in each
pass every node is served that is inside a root (`Scope.served_inside`). So after a number of passes
a field has served exactly this many of its boundaries, from the lowest on, and in the next pass it
is the turn of the next one (`Node.Progress.next`, `Node.Progress.exists_text`). A node has cases
left as long as one below it is wide enough (`Scope.Pending.exists_wide`).

The number of cases of a node without optional nodes below it is the greatest one of a node that it
leads to (`Scope.Ordered.lt_cases_iff`), and never more than can be counted.
-/

namespace Specimen

/-- How many cases a node has of its own. -/
def NodeKind.width : NodeKind → Nat
  | constant _ => 1
  | field f _ => f.boundaries.length
  | combined .. | optional .. | source _ => 0

theorem NodeKind.width_le (kind : NodeKind) : kind.width ≤ 3 := by
  cases kind with
  | constant _ => exact (by decide : 1 ≤ 3)
  | field f _ => exact f.length_boundaries_le
  | combined _ _ | optional _ _ | source _ => exact Nat.zero_le 3

/-- No optional node among some nodes may skip its child. -/
def Scope.Forced (s : Scope) (Member : Node → Prop) : Prop :=
  ∀ n child rule, Member n → n.kind = .optional child rule → s.maySkip rule = false

section Forced

variable {s : Scope} {Member : Node → Prop} {cells : Nat → Cell} {past : Course} {n : Node}

namespace Scope

theorem Forced.not_nulls (h : s.Forced Member) (o n : Node) : ¬ s.Nulls Member o n := by
  intro h_nulls
  induction h_nulls with
  | child h_o h_kind h_skip _ =>
    rw [h _ _ _ h_o h_kind] at h_skip
    cases h_skip
  | part _ _ _ _ ih => exact ih

theorem knownMandatory_of_not_maySkip {rule : Config.Mandatory} (h : s.maySkip rule = false)
    (cell : Cell) : s.knownMandatory cell rule = some true := by
  unfold knownMandatory
  cases h_ignore : s.ignoreOptional with
  | true => rfl
  | false =>
    cases rule with
    | fixed always =>
      cases always with
      | true => rfl
      | false => simp [maySkip, h_ignore] at h
    | whenPresent id => simp [maySkip, h_ignore] at h

/-- **All nodes inside a node that is asked for a value are served.** -/
theorem served_inside (h_forced : s.Forced Member)
    (h_justified : ∀ e ∈ past, s.Justifies Member past e) {t : Node} (h_t : past.Asked t)
    (h_inside : t.Inside n) : .served n ∈ past := by
  -- nobody is asked for null
  have h_served : ∀ k, past.Asked k → .served k ∈ past := by
    rintro k (h_served | h_nulled)
    · exact h_served
    · obtain ⟨-, o, h_nulls, -⟩ := h_justified _ h_nulled
      exact absurd h_nulls (h_forced.not_nulls o k)
  have h_part : ∀ k k', past.Asked k → .embedded k' ∈ k.kind.links → past.Asked k' := by
    intro k k' h_k h_link
    obtain ⟨h_passes, h_optional⟩ := h_justified _ (h_served k h_k)
    cases h_kind : k.kind.isOptional with
    | false => exact (h_passes h_kind _ h_link k' rfl).1
    | true =>
      obtain ⟨present, -, h_met⟩ := h_optional h_kind
      exact (h_met _ h_link k' rfl).1
  obtain ⟨p, h_p⟩ := h_inside
  induction p generalizing t with
  | nil =>
    rw [Node.at?_nil] at h_p
    exact h_served n (Option.some.inj h_p ▸ h_t)
  | cons i p ih =>
    obtain ⟨k, h_i, h_p⟩ := Node.at?_cons.1 h_p
    exact ih (h_part t k h_t (List.mem_of_getElem? h_i)) h_p

/-- If a node inside another one has cases left, then so has the other one. -/
theorem Pending.of_inside (h_forced : s.Forced Member) {t : Node}
    (h_members : ∀ k, t.Inside k → Member k) (h_inside : t.Inside n) (h : s.Pending cells n) :
    s.Pending cells t := by
  obtain ⟨p, h_p⟩ := h_inside
  induction p generalizing t with
  | nil =>
    rw [Node.at?_nil] at h_p
    exact Option.some.inj h_p ▸ h
  | cons i p ih =>
    obtain ⟨k, h_i, h_p⟩ := Node.at?_cons.1 h_p
    have h_link := List.mem_of_getElem? h_i
    have h_k : s.Pending cells k := ih (fun k' h_k' =>
      h_members k' (Node.inside_iff.2 (.inr ⟨_, h_link, h_k'⟩))) h_p
    cases h_kind : t.kind with
    | optional child rule =>
      -- the child counts, as the rule always asks for it
      have h_known := knownMandatory_of_not_maySkip
        (h_forced t child rule (h_members t t.inside_self) h_kind) (cells t.key)
      rw [h_kind] at h_link
      obtain rfl := List.mem_singleton.1 h_link
      exact .child h_kind (by rw [h_known]; simp) rfl h_k
    | constant _ | field _ _ | combined _ _ | source _ =>
      exact .part (by rw [h_kind]; rfl) h_link rfl h_k

end Scope

/-! ### What was served after a number of passes -/

/-- What a node has served after a number of passes in each of which it was served. -/
def Node.Progress (n : Node) (k : Nat) (cell : Cell) : Prop :=
  match n.kind with
  | .constant _ => cell.served = [] ↔ k = 0
  | .field f _ => ∀ p, p ∈ cell.served ↔ p ∈ (f.boundaries.take k).map (·.2)
  | .combined .. | .optional .. | .source _ => True

namespace Node

variable {k : Nat} {cell before after : Cell} {f : Field} {set : CharacterSet}

theorem progress_field (h_kind : n.kind = .field f set) : n.Progress k cell ↔
    ∀ p, p ∈ cell.served ↔ p ∈ (f.boundaries.take k).map (·.2) := by
  rw [Progress, h_kind]

theorem progress_zero (h : cell.served = []) : n.Progress 0 cell := by
  unfold Progress
  split
  · exact iff_of_true h rfl
  · intro p
    rw [h]
    simp
  all_goals trivial

/-- Where there are no cases, the number of passes makes no difference. -/
theorem Progress.of_width_eq_zero {i : Nat} (h : n.Progress i cell) (h_width : n.kind.width = 0) :
    n.Progress k cell := by
  cases h_kind : n.kind with
  | constant value =>
    rw [h_kind] at h_width
    cases h_width
  | field f set =>
    rw [h_kind] at h_width
    rw [progress_field h_kind, List.eq_nil_of_length_eq_zero h_width, List.take_nil] at h ⊢
    exact h
  | combined _ _ | optional _ _ | source _ =>
    rw [Progress, h_kind]
    trivial

/-- After fewer passes than it has boundaries a field serves the next one. -/
theorem Progress.pending (h : n.Progress k before) (h_kind : n.kind = .field f set)
    {b : FieldCase × Int} (h_b : f.boundaries[k]? = some b) :
    pendingCase? f before.served = some b.1 ∧ b.2 ∉ before.served := by
  have h_pending := pendingCase?_of_served ((progress_field h_kind).1 h)
  rw [h_b] at h_pending
  refine ⟨h_pending, ?_⟩
  rw [(Field.eq_of_mem_boundaries (List.mem_of_getElem? h_b)).2]
  exact (of_pendingCase? h_pending).2.1

/-- A field that serves a boundary in a pass, unless it has served all, serves the next one. -/
theorem Progress.next_field (h : n.Progress k before) (h_kind : n.kind = .field f set)
    (h_passes : f.Passes set before after)
    (h_more : k < f.boundaries.length → after.served ≠ before.served) :
    n.Progress (k + 1) after := by
  rw [progress_field h_kind]
  have h_before := (progress_field h_kind).1 h
  rcases Nat.lt_or_ge k f.boundaries.length with h_lt | h_ge
  · -- it is the turn of the next boundary
    have h_b : f.boundaries[k]? = some f.boundaries[k] := List.getElem?_eq_getElem h_lt
    obtain ⟨h_pending, -⟩ := h.pending h_kind h_b
    intro p
    rw [List.take_add_one, h_b, Option.toList_some, List.map_append, List.mem_append, ← h_before]
    cases h_passes with
    | unasked _ h_same | nulled _ h_same | drawn _ _ _ h_same => exact absurd h_same (h_more h_lt)
    | served h_pending' _ _ h_served =>
      obtain rfl := Option.some.inj (h_pending.symm.trans h_pending')
      rw [h_served, ← (Field.eq_of_mem_boundaries (List.mem_of_getElem? h_b)).2]
      simp [or_comm]
  · -- all boundaries were served before
    have h_pending : pendingCase? f before.served = none := by
      rw [pendingCase?_of_served h_before, List.getElem?_eq_none h_ge]
      rfl
    have h_same : after.served = before.served := by
      cases h_passes with
      | unasked _ h_same | nulled _ h_same | drawn _ _ _ h_same => exact h_same
      | served h_pending' _ _ _ =>
        rw [h_pending] at h_pending'
        cases h_pending'
    intro p
    rw [h_same, h_before, List.take_of_length_le h_ge,
      List.take_of_length_le (Nat.le_succ_of_le h_ge)]

/-- **One pass more.** -/
theorem Progress.next (h : n.Progress k before) (h_follows : s.Follows past n before after)
    (h_served : .served n ∈ past)
    (h_passes : ∀ f set, n.kind = .field f set → f.Passes set before after) :
    n.Progress (k + 1) after := by
  cases h_kind : n.kind with
  | constant value =>
    rw [Scope.follows_constant h_kind] at h_follows
    rw [Progress, h_kind]
    exact iff_of_false (h_follows.2 h_served) (Nat.succ_ne_zero k)
  | field f set =>
    refine h.next_field h_kind (h_passes f set h_kind) fun h_lt h_same => ?_
    -- a pass in which the field serves nothing would contradict its course
    have h_b : f.boundaries[k]? = some f.boundaries[k] := List.getElem?_eq_getElem h_lt
    rw [Scope.follows_field h_kind] at h_follows
    obtain ⟨b', -, h_new, h_done⟩ := h_follows.2 h_served _ (List.mem_of_getElem? h_b)
      (h.pending h_kind h_b).2
    exact h_new (h_same ▸ h_done)
  | combined _ _ | optional _ _ | source _ =>
    rw [Progress, h_kind]
    trivial

/-- The text of the next pass is one for the next boundary. -/
theorem Progress.exists_text (h : n.Progress k before) (h_after : n.Progress (k + 1) after)
    (h_kind : n.kind = .field f set) (h_passes : f.Passes set before after)
    {b : FieldCase × Int} (h_b : f.boundaries[k]? = some b) :
    b.2 ∉ before.served ∧ b.2 ∈ after.served ∧
      ∃ t draws, (f.generate b.1 set draws).1 = .ok t ∧ after.cache = some (some t) := by
  obtain ⟨h_pending, h_not⟩ := h.pending h_kind h_b
  have h_mem : b.2 ∈ after.served := by
    rw [(progress_field h_kind).1 h_after, List.take_add_one, h_b]
    simp
  obtain ⟨c, t, draws, h_pending', -, h_text, h_cache⟩ := h_passes.exists_text h_not h_mem
  obtain rfl := Option.some.inj (h_pending.symm.trans h_pending')
  exact ⟨h_not, h_mem, t, draws, h_text, h_cache⟩

/-- A node has a case of its own left if it has more than there were passes. -/
theorem Progress.pending_of_lt (h : n.Progress k (cells n.key)) (h_lt : k < n.kind.width) :
    s.Pending cells n := by
  cases h_kind : n.kind with
  | constant value =>
    rw [h_kind] at h_lt
    rw [Progress, h_kind] at h
    exact .constant h_kind (h.2 (Nat.lt_one_iff.1 h_lt))
  | field f set =>
    rw [h_kind] at h_lt
    refine .field h_kind ?_
    rw [(h.pending h_kind (List.getElem?_eq_getElem h_lt)).1]
    simp
  | combined _ _ | optional _ _ | source _ =>
    rw [h_kind] at h_lt
    exact absurd h_lt (Nat.not_lt_zero k)

end Node

/-- If a node has cases left after a number of passes, then one of the nodes has more cases than
that. -/
theorem Scope.Pending.exists_wide (h_forced : s.Forced Member) (h_closed : s.Closed Member)
    {k : Nat}
    (h_progress : ∀ n, Member n → n.Progress k (cells n.key)) (h : s.Pending cells n)
    (h_n : Member n) : ∃ l, Member l ∧ k < l.kind.width := by
  induction h with
  | @constant n value h_kind h_served =>
    have h_k := h_progress n h_n
    rw [Node.Progress, h_kind] at h_k
    refine ⟨n, h_n, ?_⟩
    rw [h_kind, h_k.1 h_served]
    exact Nat.one_pos
  | @field n f set h_kind h_pending =>
    have h_k := (Node.progress_field h_kind).1 (h_progress n h_n)
    rw [pendingCase?_of_served h_k, ne_eq, Option.map_eq_none_iff,
      List.getElem?_eq_none_iff] at h_pending
    refine ⟨n, h_n, ?_⟩
    rw [h_kind]
    exact Nat.lt_of_not_le h_pending
  | part _ h_link h_target _ ih => exact ih (h_closed _ _ h_n (.inl ⟨_, h_link, h_target⟩))
  | @child n n' child rule h_kind _ h_target _ ih =>
    refine ih (h_closed n n' h_n (.inl ⟨child, ?_, h_target⟩))
    rw [h_kind]
    exact List.mem_singleton_self _
  | @choice n child rule h_kind h_known _ =>
    -- The child of a forced node is known to be mandatory, so there is no choice to be shown.
    exact absurd (knownMandatory_of_not_maySkip (h_forced n child rule h_n h_kind) _) h_known

end Forced

/-! ### Where a node leads -/

/-- A node leads to one that has more than a number of cases of its own. -/
def Scope.LeadsWide (s : Scope) (n : Node) (i : Nat) : Prop :=
  ∃ l, Relation.ReflTransGen s.Calls n l ∧ i < l.kind.width

variable {s : Scope} {Member : Node → Prop} {rank : Nat → Nat} {n : Node} {i k : Nat}

namespace Scope

/-- A node that has no cases of its own leads where its parts lead. -/
theorem leadsWide_links_iff (links : List Link) (h_links : n.kind.links = links)
    (h_passes : n.kind.isOptional = false) (h_width : n.kind.width = 0) {i : Nat} :
    s.LeadsWide n i ↔ ∃ link ∈ links, ∃ n', s.target? link = some n' ∧ s.LeadsWide n' i := by
  subst h_links
  constructor
  · rintro ⟨l, h_path, h_lt⟩
    rcases Relation.ReflTransGen.cases_head h_path with rfl | ⟨n', h_step, h_rest⟩
    · rw [h_width] at h_lt
      exact absurd h_lt (Nat.not_lt_zero i)
    · rcases h_step with ⟨link, h_link, h_target⟩ | ⟨id, h_rule, -⟩
      · exact ⟨link, h_link, n', h_target, l, h_rest, h_lt⟩
      · revert h_rule h_passes
        cases n.kind <;> simp [NodeKind.ruleId?, NodeKind.isOptional]
  · rintro ⟨link, h_link, n', h_target, l, h_path, h_lt⟩
    exact ⟨l, .head (.inl ⟨link, h_link, h_target⟩) h_path, h_lt⟩

theorem leadsWide_leaf_iff (h_leaf : ∀ n', ¬ s.Calls n n') {i : Nat} :
    s.LeadsWide n i ↔ i < n.kind.width := by
  constructor
  · rintro ⟨l, h_path, h_lt⟩
    rcases Relation.ReflTransGen.cases_head h_path with rfl | ⟨n', h_step, -⟩
    · exact h_lt
    · exact absurd h_step (h_leaf n')
  · exact fun h_lt => ⟨n, .refl, h_lt⟩

/-- Every node leads to one that has cases of its own. -/
theorem Ordered.leadsWide_zero (h : s.Ordered Member rank)
    (h_parts : ∀ n links separator, Member n → n.kind = .combined links separator → links ≠ [])
    (h_n : Member n) : s.LeadsWide n 0 := by
  induction h_rank : rank n.key using Nat.strongRecOn generalizing n with
  | ind k ih =>
    -- what has no cases of its own has a part
    have h_link : ∀ {link}, link ∈ n.kind.links → s.LeadsWide n 0 := by
      intro link h_link
      obtain ⟨n', h_target, h_n', h_lt⟩ := h.target n link h_n h_link
      obtain ⟨l, h_path, h_l⟩ := ih (rank n'.key) (h_rank ▸ h_lt) h_n' rfl
      exact ⟨l, .head (.inl ⟨link, h_link, h_target⟩) h_path, h_l⟩
    cases h_kind : n.kind with
    | constant value => exact ⟨n, .refl, by rw [h_kind]; exact Nat.one_pos⟩
    | field f set =>
      obtain ⟨b, h_b, -⟩ := f.exists_mem_boundaries (c := .min) rfl
      exact ⟨n, .refl, by rw [h_kind]; exact List.length_pos_of_mem h_b⟩
    | combined links separator =>
      obtain ⟨link, h_mem⟩ := List.exists_mem_of_ne_nil _ (h_parts n links separator h_n h_kind)
      exact h_link (by rw [h_kind]; exact h_mem)
    | optional child rule => exact h_link (by rw [h_kind]; exact List.mem_singleton_self child)
    | source child => exact h_link (by rw [h_kind]; exact List.mem_singleton_self child)

/-! ### Numbers of cases -/

section Plain

variable (h : s.Ordered Member rank) (h_none : ∀ n, Member n → n.kind.isOptional = false)
  (h_parts : ∀ n links separator, Member n → n.kind = .combined links separator → links ≠ [])
  (h_n : Member n) (h_cases : s.HasCases n k)
include h h_none h_parts h_n h_cases

/-- **Without optional nodes** the number of cases is the greatest one of a node that is led to. -/
theorem Ordered.lt_cases_iff : i < k ↔ s.LeadsWide n i := by
  induction h_rank : rank n.key using Nat.strongRecOn generalizing n k with
  | ind r ih =>
    have h_part : ∀ {link n' k'}, link ∈ n.kind.links → s.target? link = some n' →
        s.HasCases n' k' → (i < k' ↔ s.LeadsWide n' i) := by
      intro link n' k' h_link h_target h_k'
      obtain ⟨l, h_l, h_member, h_lt⟩ := h.target n link h_n h_link
      obtain rfl := Option.some.inj (h_target.symm.trans h_l)
      exact ih (rank n'.key) (h_rank ▸ h_lt) h_member h_k' rfl
    cases h_kind : n.kind with
    | constant value =>
      have h_leaf : ∀ n', ¬ s.Calls n n' := by
        simp [Scope.Calls, h_kind, NodeKind.links, NodeKind.ruleId?]
      rw [leadsWide_leaf_iff h_leaf, h_cases.of_constant h_kind, h_kind]
      rfl
    | field f set =>
      have h_leaf : ∀ n', ¬ s.Calls n n' := by
        simp [Scope.Calls, h_kind, NodeKind.links, NodeKind.ruleId?]
      rw [leadsWide_leaf_iff h_leaf, h_cases.of_field h_kind, ← f.length_boundaries, h_kind]
      rfl
    | combined links separator =>
      have h_links : n.kind.links = links := congrArg NodeKind.links h_kind
      have h_all := h_cases.of_combined h_kind
      constructor
      · intro h_lt
        rcases h_all.exists_part with rfl | ⟨link, h_link, n', h_target, h_k⟩
        · -- a combined node has at least one case, as one of its parts has
          rw [Nat.lt_one_iff.1 h_lt]
          exact h.leadsWide_zero h_parts h_n
        · rw [← h_links] at h_link
          obtain ⟨l, h_path, h_l⟩ := (h_part h_link h_target h_k).1 h_lt
          exact ⟨l, .head (.inl ⟨link, h_link, h_target⟩) h_path, h_l⟩
      · rw [leadsWide_links_iff links h_links (by rw [h_kind]; rfl) (by rw [h_kind]; rfl)]
        rintro ⟨link, h_link, n', h_target, h_wide⟩
        obtain ⟨l, k', h_l, h_k', h_le⟩ := h_all.of_mem h_link
        obtain rfl := Option.some.inj (h_target.symm.trans h_l)
        exact Nat.lt_of_lt_of_le ((h_part (h_links ▸ h_link) h_target h_k').2 h_wide) h_le
    | optional child rule =>
      have h_optional := h_none n h_n
      rw [h_kind] at h_optional
      cases h_optional
    | source child =>
      have h_link : child ∈ n.kind.links := by rw [h_kind]; exact List.mem_singleton_self child
      obtain ⟨n', h_target, -⟩ := h.target n child h_n h_link
      rw [h_part h_link h_target (h_cases.of_source h_kind h_target),
        leadsWide_links_iff [child] (congrArg NodeKind.links h_kind) (by rw [h_kind]; rfl)
          (by rw [h_kind]; rfl)]
      simp [h_target]

/-- So few cases can be counted. -/
theorem Ordered.lt_saturated_iff : i < saturated k ↔ s.LeadsWide n i := by
  rw [← h.lt_cases_iff h_none h_parts h_n h_cases]
  refine ⟨fun h_lt => Nat.lt_of_lt_of_le h_lt (Nat.min_le_left _ _), fun h_lt => ?_⟩
  obtain ⟨l, -, h_l⟩ := (h.lt_cases_iff h_none h_parts h_n h_cases).1 h_lt
  have h_few := Nat.lt_of_lt_of_le h_l l.kind.width_le
  exact Nat.lt_min.2 ⟨h_lt, Nat.lt_trans h_few (by decide)⟩

end Plain

end Scope

end Specimen
