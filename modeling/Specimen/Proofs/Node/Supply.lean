import Specimen.Proofs.Node.Due

/-!
# Who sees to it that a node is served

In a pass the nodes of the top level are served, and what is served sees to it that other nodes are.
A node passes on what it is asked for, unless it is an optional node that skips its child; and a
request for null makes a difference only to a node that is asked for null first.

If optional nodes do not get in each other's way (`Scope.Untangled`), then for every node below the
top level there is one other node with this effect in all passes: whenever that one is served, and
lets its child be present if it is optional, the node is served too (`Scope.exists_supplier`).
-/

namespace Specimen

/-- No node that keeps its value can be asked for null by two optional nodes, unless it is
steady. -/
def Scope.Untangled (s : Scope) (Member : Node → Prop) : Prop :=
  ∀ o o' n, s.Nulls Member o n → s.Nulls Member o' n → n.kind.isStateless = false → o ≠ o' →
    s.Steady Member n

theorem NodeKind.exists_optional {kind : NodeKind} (h : kind.isOptional = true) :
    ∃ child rule, kind = .optional child rule := by
  cases kind with
  | optional child rule => exact ⟨child, rule, rfl⟩
  | _ => cases h

/-- A node leads down to another one along links, over a number of optional nodes. -/
inductive Scope.Descends (s : Scope) : Node → Nat → Node → Prop where
  | refl {n} : Descends s n 0 n
  | part {n n' d l link} (h_passes : n.kind.isOptional = false) (h_link : link ∈ n.kind.links)
    (h_target : s.target? link = some n') (h : Descends s n' d l) : Descends s n d l
  | child {n n' d l child rule} (h_kind : n.kind = .optional child rule)
    (h_target : s.target? child = some n') (h : Descends s n' d l) : Descends s n (d + 1) l

namespace Scope.Descends

variable {s : Scope} {n n' l : Node} {d e : Nat}

theorem trans (h : s.Descends n d n') (h' : s.Descends n' e l) : s.Descends n (d + e) l := by
  induction h with
  | refl => rwa [Nat.zero_add]
  | part h_passes h_link h_target _ ih => exact .part h_passes h_link h_target (ih h')
  | @child _ _ d _ _ _ h_kind h_target _ ih =>
    rw [Nat.add_right_comm]
    exact .child h_kind h_target (ih h')

/-- A node leads down to what its links lead to. -/
theorem single {link : Link} (h_link : link ∈ n.kind.links) (h_target : s.target? link = some n') :
    s.Descends n n.kind.isOptional.toNat n' := by
  cases h_optional : n.kind.isOptional with
  | false => exact .part h_optional h_link h_target .refl
  | true =>
    obtain ⟨child, rule, h_kind⟩ := NodeKind.exists_optional h_optional
    rw [h_kind] at h_link
    obtain rfl := List.mem_singleton.1 h_link
    exact .child h_kind h_target .refl

/-- An optional node leads down to what it can ask for null, over no other optional node. -/
theorem of_nulls {Member : Node → Prop} (h : s.Nulls Member n l) : s.Descends n 1 l := by
  induction h with
  | child _ h_kind _ h_target => exact .child h_kind h_target .refl
  | part _ h_passes h_link h_target ih => exact ih.trans (.part h_passes h_link h_target .refl)

end Scope.Descends

/-- What a member leads to is a member of lower rank. -/
theorem Scope.below_of_calls {s : Scope} {Member : Node → Prop} {rank : Nat → Nat}
    (h_calls : ∀ n n', Member n → s.Calls n n' → Member n' ∧ rank n'.key < rank n.key) {n n' : Node}
    (h_n : Member n) (h_path : Relation.TransGen s.Calls n n') :
    Member n' ∧ rank n'.key < rank n.key := by
  induction h_path with
  | single h_step => exact h_calls _ _ h_n h_step
  | tail _ h_step ih =>
    obtain ⟨h_member, h_lt⟩ := h_calls _ _ ih.1 h_step
    exact ⟨h_member, Nat.lt_trans h_lt ih.2⟩

/-! ### One pass -/

/-- One pass, from one memory to another, and what happens in it. -/
structure Scope.Pass (s : Scope) (Member : Node → Prop) (tops : List Node) (roster : Roster)
    (before after : Memory) (past : Course) : Prop where
  justified : ∀ e ∈ past, s.Justifies Member past e
  tops_met : ∀ n ∈ tops, past.Met n .normal
  follows : ∀ n, Member n → s.Follows past n (before.cell n.key) (after.cell n.key)
  listed : ∀ n, Member n → s.Steady Member n → n.kind.isStateless = false → past.Asked n →
    ∃ origin, (n, origin) ∈ roster
  visited : ∀ n origin, (n, origin) ∈ roster →
    .served n ∈ past ∨ ∃ o, origin = some o ∧ .decided o false ∈ past

namespace Scope.Pass

variable {s : Scope} {Member : Node → Prop} {tops : List Node} {roster : Roster}
  {before after : Memory} {past : Course} (h : s.Pass Member tops roster before after past)
include h

/-- An optional node that is served decides. -/
theorem exists_decided {n : Node} (h_optional : n.kind.isOptional = true)
    (h_served : .served n ∈ past) : ∃ present, .decided n present ∈ past ∧
      s.MeetsLinks past n (if present then .normal else .null) :=
  (h.justified _ h_served).2 h_optional

/-- An optional node decides once, and only if it is served. -/
theorem of_decided {n : Node} (h_n : Member n) {child : Link} {rule : Config.Mandatory}
    (h_kind : n.kind = .optional child rule) {present : Bool}
    (h_decided : .decided n present ∈ past) : .served n ∈ past ∧
      (∀ other, .decided n other ∈ past → other = present) ∧
        s.Decided rule (before.cell n.key) (after.cell n.key) present := by
  rcases (follows_optional h_kind).1 (h.follows n h_n) with ⟨-, -, h_none⟩ | h_some
  · exact absurd h_decided (h_none present)
  · obtain ⟨present', h_iff, h_cell, -, h_served⟩ := h_some
    obtain rfl := (h_iff present).1 h_decided
    exact ⟨h_served, fun other h_other => (h_iff other).1 h_other, h_cell⟩

/-- A node that is due and served has less left. -/
theorem remaining_lt {n : Node} (h_n : Member n) (h_sound : s.Sound n (before.cell n.key))
    (h_due : n.Due (before.cell n.key)) (h_served : .served n ∈ past) :
    n.remaining (after.cell n.key) < n.remaining (before.cell n.key) :=
  (h.follows n h_n).remaining_lt h_sound h_due h_served fun h_optional =>
    (h.exists_decided h_optional h_served).imp fun _ h_some => h_some.1

/-- What an optional node can ask for null is asked whenever the optional node is served. -/
theorem asked_of_nulls {o n : Node} (h_nulls : s.Nulls Member o n) (h_served : .served o ∈ past) :
    past.Asked n := by
  induction h_nulls with
  | @child link rule n _ h_kind _ h_target =>
    obtain ⟨present, -, h_met⟩ := h.exists_decided (by rw [h_kind]; rfl) h_served
    exact (h_met link (by rw [h_kind]; exact List.mem_singleton_self _) n h_target).1
  | part _ h_passes h_link h_target ih =>
    rcases ih with h_n | h_n
    · exact ((h.justified _ h_n).1 h_passes _ h_link _ h_target).1
    · exact ((h.justified _ h_n).1 h_passes _ h_link _ h_target).1

/-- A node that is served asks what its links lead to. -/
theorem asked_of_served {n n' : Node} (h_served : .served n ∈ past) {link : Link}
    (h_link : link ∈ n.kind.links) (h_target : s.target? link = some n') : past.Asked n' := by
  cases h_optional : n.kind.isOptional with
  | false => exact ((h.justified _ h_served).1 h_optional link h_link n' h_target).1
  | true =>
    obtain ⟨present, -, h_met⟩ := h.exists_decided h_optional h_served
    exact (h_met link h_link n' h_target).1

end Scope.Pass

/-- For each node that keeps its value there is at most one optional node that makes the difference:
if that one does not skip the node, then the node is served whenever it is asked. -/
theorem Scope.exists_source {s : Scope} {Member : Node → Prop} {tops : List Node} {roster : Roster}
    (h_nulls : ∀ n o, (n, some o) ∈ roster → s.Nulls Member o n)
    (h_untangled : s.Untangled Member) {n : Node} (h_n : Member n)
    (h_kind : n.kind.isStateless = false) :
    (∀ before after past, s.Pass Member tops roster before after past →
      past.Asked n → .served n ∈ past) ∨
    ∃ o, s.Nulls Member o n ∧ ∀ before after past, s.Pass Member tops roster before after past →
      past.Asked n → .served n ∈ past ∨ .decided o false ∈ past := by
  by_cases h_steady : s.Steady Member n
  · -- the first request for a steady node has the same origin in every pass
    by_cases h_listed : ∃ origin, (n, origin) ∈ roster
    · obtain ⟨_ | o, h_mem⟩ := h_listed
      · refine .inl fun _ _ past h _ => (h.visited n none h_mem).resolve_right ?_
        rintro ⟨o, h_o, -⟩
        cases h_o
      · refine .inr ⟨o, h_nulls n o h_mem, fun _ _ past h _ => ?_⟩
        refine (h.visited n (some o) h_mem).imp_right ?_
        rintro ⟨o', h_o', h_decided⟩
        exact Option.some.inj h_o' ▸ h_decided
    · exact .inl fun _ _ _ h h_asked => absurd (h.listed n h_n h_steady h_kind h_asked) h_listed
  · -- only one optional node can ask for null here
    by_cases h_nulled : ∃ o, s.Nulls Member o n
    · obtain ⟨o, h_o⟩ := h_nulled
      refine .inr ⟨o, h_o, fun _ _ past h h_asked => h_asked.imp_right fun h_null => ?_⟩
      obtain ⟨-, o', h_o', h_decided⟩ := h.justified _ h_null
      by_cases h_eq : o = o'
      · exact h_eq ▸ h_decided
      · exact absurd (h_untangled o o' n h_o h_o' h_kind h_eq) h_steady
    · refine .inl fun _ _ _ h h_asked => h_asked.resolve_right fun h_null => h_nulled ?_
      obtain ⟨-, o, h_o, -⟩ := h.justified _ h_null
      exact ⟨o, h_o⟩

/-! ### Suppliers -/

/-- A node supplies one that it leads down to: whenever it is served, and lets its child be present
if it is optional, the other one is served. -/
structure Scope.Supplies (s : Scope) (Member : Node → Prop) (tops : List Node) (roster : Roster)
    (p n : Node) : Prop where
  member : Member p
  descends : s.Descends p p.kind.isOptional.toNat n
  served : ∀ before after past, s.Pass Member tops roster before after past →
    .served p ∈ past → (p.kind.isOptional = true → .decided p true ∈ past) → .served n ∈ past

namespace Scope

variable {s : Scope} {Member : Node → Prop} {rank : Nat → Nat} {tops : List Node} {roster : Roster}
  {n : Node}

/-- What keeps no value is served whenever a node above it is. -/
theorem supplies_of_stateless (h_kind : n.kind.isStateless = true) {p : Node} (h_p : Member p)
    {link : Link} (h_link : link ∈ p.kind.links) (h_target : s.target? link = some n) :
    s.Supplies Member tops roster p n where
  member := h_p
  descends := .single h_link h_target
  served before after past h h_served h_present := by
    cases h_optional : p.kind.isOptional with
    | false => exact ((h.justified _ h_served).1 h_optional link h_link n h_target).2 h_kind rfl
    | true =>
      obtain ⟨child, rule, h_p_kind⟩ := NodeKind.exists_optional h_optional
      obtain ⟨present, h_decided, h_met⟩ := h.exists_decided h_optional h_served
      obtain rfl := (h.of_decided h_p h_p_kind (h_present h_optional)).2.1 present h_decided
      exact (h_met link h_link n h_target).2 h_kind rfl

/-- What is served whenever it is asked is served whenever a node above it is. -/
theorem supplies_of_always (h_always : ∀ before after past,
      s.Pass Member tops roster before after past → past.Asked n → .served n ∈ past)
    {p : Node} (h_p : Member p) {link : Link} (h_link : link ∈ p.kind.links)
    (h_target : s.target? link = some n) : s.Supplies Member tops roster p n where
  member := h_p
  descends := .single h_link h_target
  served before after past h h_served _ :=
    h_always before after past h (h.asked_of_served h_served h_link h_target)

/-- What only one optional node can skip is served whenever this one lets its child be present. -/
theorem supplies_of_nulls {o : Node} (h_nulls : s.Nulls Member o n)
    (h_unless : ∀ before after past, s.Pass Member tops roster before after past →
      past.Asked n → .served n ∈ past ∨ .decided o false ∈ past) :
    s.Supplies Member tops roster o n := by
  obtain ⟨h_o, child, rule, h_kind⟩ := h_nulls.source
  have h_optional : o.kind.isOptional = true := by rw [h_kind]; rfl
  refine ⟨h_o, ?_, fun before after past h h_served h_present => ?_⟩
  · rw [h_optional]
    exact .of_nulls h_nulls
  · refine (h_unless before after past h (h.asked_of_nulls h_nulls h_served)).resolve_right ?_
    intro h_false
    cases (h.of_decided h_o h_kind (h_present h_optional)).2.1 false h_false

/-- **Suppliers.** Every node is served in all passes, as one of the top level, or supplied by one
of higher rank. -/
theorem exists_supplier (h_nulls : ∀ n o, (n, some o) ∈ roster → s.Nulls Member o n)
    (h_untangled : s.Untangled Member)
    (h_calls : ∀ n n', Member n → s.Calls n n' → Member n' ∧ rank n'.key < rank n.key)
    (h_above : ∀ n, Member n → n ∈ tops ∨ ∃ p, Member p ∧ ∃ link ∈ p.kind.links,
      s.target? link = some n) (h_n : Member n) :
    (n ∈ tops ∧ ∀ before after past, s.Pass Member tops roster before after past →
      .served n ∈ past) ∨
    ∃ p, s.Supplies Member tops roster p n ∧ rank n.key < rank p.key := by
  have h_lower : ∀ {p link}, Member p → link ∈ p.kind.links → s.target? link = some n →
      rank n.key < rank p.key :=
    fun h_p h_link h_target => (h_calls _ n h_p (.inl ⟨_, h_link, h_target⟩)).2
  cases h_kind : n.kind.isStateless with
  | true =>
    rcases h_above n h_n with h_top | ⟨p, h_p, link, h_link, h_target⟩
    · exact .inl ⟨h_top, fun _ _ _ h => (h.tops_met n h_top).2 h_kind rfl⟩
    · exact .inr ⟨p, supplies_of_stateless h_kind h_p h_link h_target,
        h_lower h_p h_link h_target⟩
  | false =>
    -- It is served whenever it is asked, or one optional node alone can skip it and supplies it.
    rcases exists_source h_nulls h_untangled h_n h_kind with h_always | ⟨o, h_o, h_unless⟩
    · rcases h_above n h_n with h_top | ⟨p, h_p, link, h_link, h_target⟩
      · exact .inl ⟨h_top, fun _ _ _ h => h_always _ _ _ h (h.tops_met n h_top).1⟩
      · exact .inr ⟨p, supplies_of_always h_always h_p h_link h_target,
          h_lower h_p h_link h_target⟩
    · exact .inr ⟨o, supplies_of_nulls h_o h_unless,
        (below_of_calls h_calls h_o.source.1 h_o.calls).2⟩

end Scope

end Specimen
