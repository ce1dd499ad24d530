import Specimen.Proofs.FairChoice
import Specimen.Proofs.Node.Skipping

/-!
# The course of a pass

What happens to the nodes in a pass without a case of its own is recorded here beside the memory,
as the memory does not tell whether the value of a node was asked for or is null because an optional
node skipped it. Each node is served, or asked for null, and each optional node that is served
decides whether its child is present (`Happening`).

* `Scope.Follows` says how the cell of a node depends on what happened to the node, and
  `Scope.Justifies` what else must have happened.
* `Scope.Underway` is what holds while a pass is going on.
* `Memory.Busy` says which cells changed on the way and to which nodes something happened.
-/

namespace Specimen

/-- What happens to a node in a pass. -/
inductive Happening where
  /-- The node generates a value for a request without a case. -/
  | served (n : Node)
  /-- The node generates null. -/
  | nulled (n : Node)
  /-- An optional node decides whether its child is present. -/
  | decided (n : Node) (present : Bool)

/-- The node that something happens to. -/
def Happening.node : Happening → Node
  | served n | nulled n | decided n _ => n

/-- What has happened in a pass, the latest first. -/
abbrev Course := List Happening

namespace Course

/-- A node was asked. -/
def Asked (past : Course) (n : Node) : Prop := .served n ∈ past ∨ .nulled n ∈ past

/-- A request for a case was met. What keeps its value need not have been asked for this case
first. -/
def Met (past : Course) (n : Node) (c : FieldCase) : Prop :=
  past.Asked n ∧ (n.kind.isStateless = true → c = .normal → .served n ∈ past)

variable {past past' : Course} {n : Node} {c : FieldCase}

theorem Asked.mono (h : past.Asked n) (h_sub : past ⊆ past') : past'.Asked n :=
  h.imp (fun h => h_sub h) fun h => h_sub h

theorem Met.mono (h : past.Met n c) (h_sub : past ⊆ past') : past'.Met n c :=
  ⟨h.1.mono h_sub, fun h_kind h_c => h_sub (h.2 h_kind h_c)⟩

end Course

namespace Scope

variable (s : Scope)

/-- The requests of a node to what its links lead to were met. -/
def MeetsLinks (past : Course) (n : Node) (c : FieldCase) : Prop :=
  ∀ link ∈ n.kind.links, ∀ n', s.target? link = some n' → past.Met n' c

/-- What else happened if something did. -/
def Justifies (Member : Node → Prop) (past : Course) : Happening → Prop
  | .served n =>
    (n.kind.isOptional = false → s.MeetsLinks past n .normal) ∧
      (n.kind.isOptional = true → ∃ present, .decided n present ∈ past ∧
        s.MeetsLinks past n (if present then .normal else .null))
  | .nulled n =>
    (n.kind.isOptional = false → s.MeetsLinks past n .null) ∧
      ∃ o, s.Nulls Member o n ∧ .decided o false ∈ past
  | .decided .. => True

/-- What deciding whether the child is present does to the cell of an optional node. -/
inductive Decided (rule : Config.Mandatory) (before after : Cell) : Bool → Prop where
  | mandatory (h_rule : s.ignoreOptional = true ∨ rule ≠ .fixed false)
    (h_choice : after.choice = before.choice) (h_decision : after.decision = some true) :
    Decided rule before after true
  | chosen {present draws draws'}
    (h_choice : before.choice.next draws = ((present, after.choice), draws'))
    (h_decision : after.decision = some false) : Decided rule before after present

theorem Decided.congr {s : Scope} {rule : Config.Mandatory} {before after before' after' : Cell}
    {present : Bool} (h : s.Decided rule before after present)
    (h_before : before.choice = before'.choice) (h_choice : after'.choice = after.choice)
    (h_decision : after'.decision = after.decision) : s.Decided rule before' after' present := by
  cases h with
  | mandatory h_rule h_same h_true =>
    exact .mandatory h_rule (by rw [h_choice, h_same, h_before]) (by rw [h_decision, h_true])
  | chosen h_next h_false =>
    rw [h_before, ← h_choice] at h_next
    exact .chosen h_next (by rw [h_decision, h_false])

/-- How the cell of a node depends on the cell before the pass and on what happened. -/
def Follows (past : Course) (n : Node) (before after : Cell) : Prop :=
  match n.kind with
  | .constant _ => before.served ⊆ after.served ∧ (.served n ∈ past → after.served ≠ [])
  | .field f _ => before.served ⊆ after.served ∧ (.served n ∈ past →
      ∀ b ∈ f.boundaries, b.2 ∉ before.served → ∃ b' ∈ f.boundaries, b'.2 ∉ before.served ∧
        b'.2 ∈ after.served)
  | .optional _ rule =>
    (after.choice = before.choice ∧ after.decision = before.decision ∧
        ∀ present, .decided n present ∉ past) ∨
      ∃ present, (∀ other, .decided n other ∈ past ↔ other = present) ∧
        s.Decided rule before after present ∧ after.cache ≠ none ∧ .served n ∈ past
  | .combined .. | .source _ => True

variable {s} {Member : Node → Prop} {past past' : Course}

theorem MeetsLinks.mono {n : Node} {c : FieldCase} (h : s.MeetsLinks past n c)
    (h_sub : past ⊆ past') : s.MeetsLinks past' n c :=
  fun link h_link n' h_target => (h link h_link n' h_target).mono h_sub

theorem MeetsLinks.single {n n' : Node} {child : Link} {c : FieldCase}
    (h_links : n.kind.links = [child]) (h_target : s.target? child = some n')
    (h_met : past.Met n' c) : s.MeetsLinks past n c := by
  intro link h_link k h_k
  rw [h_links] at h_link
  obtain rfl := List.mem_singleton.1 h_link
  obtain rfl := Option.some.inj (h_target.symm.trans h_k)
  exact h_met

theorem Justifies.mono {e : Happening} (h : s.Justifies Member past e) (h_sub : past ⊆ past') :
    s.Justifies Member past' e := by
  cases e with
  | served n =>
    refine ⟨fun h_kind => (h.1 h_kind).mono h_sub, fun h_kind => ?_⟩
    obtain ⟨present, h_decided, h_met⟩ := h.2 h_kind
    exact ⟨present, h_sub h_decided, h_met.mono h_sub⟩
  | nulled n =>
    obtain ⟨h_met, o, h_nulls, h_decided⟩ := h
    exact ⟨fun h_kind => (h_met h_kind).mono h_sub, o, h_nulls, h_sub h_decided⟩
  | decided n present => trivial

theorem follows_constant {n : Node} {value : String} (h_kind : n.kind = .constant value)
    {before after : Cell} : s.Follows past n before after ↔
      before.served ⊆ after.served ∧ (.served n ∈ past → after.served ≠ []) := by
  rw [Follows, h_kind]

theorem follows_field {n : Node} {f : Field} {set : CharacterSet} (h_kind : n.kind = .field f set)
    {before after : Cell} : s.Follows past n before after ↔
      before.served ⊆ after.served ∧ (.served n ∈ past → ∀ b ∈ f.boundaries, b.2 ∉ before.served →
        ∃ b' ∈ f.boundaries, b'.2 ∉ before.served ∧ b'.2 ∈ after.served) := by
  rw [Follows, h_kind]

theorem follows_optional {n : Node} {child : Link} {rule : Config.Mandatory}
    (h_kind : n.kind = .optional child rule) {before after : Cell} :
    s.Follows past n before after ↔
      (after.choice = before.choice ∧ after.decision = before.decision ∧
          ∀ present, .decided n present ∉ past) ∨
        ∃ present, (∀ other, .decided n other ∈ past ↔ other = present) ∧
          s.Decided rule before after present ∧ after.cache ≠ none ∧ .served n ∈ past := by
  rw [Follows, h_kind]

/-- What happens to other nodes makes no difference to the cell of a node. -/
theorem Follows.congr {n : Node} {before after : Cell} (h : s.Follows past n before after)
    (h_past : ∀ e, e.node = n → (e ∈ past' ↔ e ∈ past)) : s.Follows past' n before after := by
  have h_served : .served n ∈ past' ↔ .served n ∈ past := h_past _ rfl
  have h_decided : ∀ present, .decided n present ∈ past' ↔ .decided n present ∈ past :=
    fun _ => h_past _ rfl
  unfold Follows at h ⊢
  simp only [h_served, h_decided]
  exact h

end Scope

/-! ### What holds while a pass is going on -/

/-- The course of a pass below a rank fits the memory, if all nodes of lower rank have come to the
end of what they do. -/
structure Scope.Underway (s : Scope) (Member : Node → Prop) (rank : Nat → Nat) (before : Memory)
    (r : Nat) (past : Course) (seen : Roster) (m : Memory) : Prop where
  free : ∀ key, (m.cell key).override = none
  justified : ∀ e ∈ past, s.Justifies Member past e
  asked : ∀ n, Member n → n.kind.isStateless = false → (m.cell n.key).cache ≠ none → past.Asked n
  follows : ∀ n, Member n → rank n.key < r →
    s.Follows past n (before.cell n.key) (m.cell n.key)
  /-- The steady nodes that keep a value are those that were visited. -/
  listed : ∀ n, Member n → s.Steady Member n → n.kind.isStateless = false →
    ((m.cell n.key).cache ≠ none ↔ ∃ origin, (n, origin) ∈ seen)
  asked_listed : ∀ n, Member n → s.Steady Member n → n.kind.isStateless = false → past.Asked n →
    ∃ origin, (n, origin) ∈ seen
  nulls : ∀ n o, (n, some o) ∈ seen → s.Nulls Member o n
  /-- A node that was visited was served, or its first request came from a node that skips it. -/
  visited : ∀ n origin, (n, origin) ∈ seen →
    .served n ∈ past ∨ ∃ o, origin = some o ∧ .decided o false ∈ past

/-- From one point of a pass to a later one the nodes below a rank were busy, and no others. -/
structure Memory.Busy (rank : Nat → Nat) (r : Nat) (past : Course) (m : Memory) (past' : Course)
    (m' : Memory) : Prop where
  sub : past ⊆ past'
  cells : ∀ key, r ≤ rank key → m'.cell key = m.cell key
  happenings : ∀ e ∈ past', e ∈ past ∨ rank e.node.key < r

namespace Memory.Busy

variable {rank : Nat → Nat} {r : Nat} {past past' past'' : Course} {m m' m'' : Memory}

theorem refl (rank : Nat → Nat) (r : Nat) (past : Course) (m : Memory) :
    Busy rank r past m past m :=
  ⟨fun _ => id, fun _ _ => rfl, fun _ => .inl⟩

theorem trans (h : Busy rank r past m past' m') (h' : Busy rank r past' m' past'' m'') :
    Busy rank r past m past'' m'' where
  sub := fun _ h_e => h'.sub (h.sub h_e)
  cells key h_key := (h'.cells key h_key).trans (h.cells key h_key)
  happenings e h_e := (h'.happenings e h_e).elim (h.happenings e) .inr

theorem mono (h : Busy rank r past m past' m') {r' : Nat} (h_le : r ≤ r') :
    Busy rank r' past m past' m' where
  sub := h.sub
  cells key h_key := h.cells key (Nat.le_trans h_le h_key)
  happenings e h_e := (h.happenings e h_e).imp_right fun h_lt =>
    Nat.lt_of_lt_of_le h_lt h_le

/-- Nothing happened to the nodes that were not busy. -/
theorem mem_iff (h : Busy rank r past m past' m') {e : Happening} (h_e : r ≤ rank e.node.key) :
    e ∈ past' ↔ e ∈ past := by
  refine ⟨fun h_mem => ?_, fun h_mem => h.sub h_mem⟩
  rcases h.happenings e h_mem with h_old | h_lt
  · exact h_old
  · exact absurd h_lt (Nat.not_lt_of_le h_e)

end Memory.Busy

/-- While a node computed, it and nodes of lower rank were busy, and no others. -/
structure Memory.BusyWithin (rank : Nat → Nat) (n : Node) (past : Course) (m : Memory)
    (past' : Course) (m' : Memory) : Prop where
  sub : past ⊆ past'
  cells : ∀ key, rank n.key ≤ rank key → key ≠ n.key → m'.cell key = m.cell key
  happenings : ∀ e ∈ past', e ∈ past ∨ rank e.node.key < rank n.key ∨ e.node = n

namespace Memory.BusyWithin

variable {rank : Nat → Nat} {n : Node} {past past' past'' : Course} {m m' m'' : Memory}

theorem of_cells (h : ∀ key, key ≠ n.key → m'.cell key = m.cell key) :
    BusyWithin rank n past m past m' :=
  ⟨fun _ => id, fun key _ h_ne => h key h_ne, fun _ => .inl⟩

/-- The node asked others. -/
theorem ask (h : BusyWithin rank n past m past' m')
    (h' : Busy rank (rank n.key) past' m' past'' m'') : BusyWithin rank n past m past'' m'' where
  sub := fun _ h_e => h'.sub (h.sub h_e)
  cells key h_le h_ne := (h'.cells key h_le).trans (h.cells key h_le h_ne)
  happenings e h_e := (h'.happenings e h_e).elim (h.happenings e) fun h_lt => .inr (.inl h_lt)

/-- The node decided something. -/
theorem decide (h : BusyWithin rank n past m past' m') {e : Happening} (h_e : e.node = n)
    (h_others : ∀ key, key ≠ n.key → m''.cell key = m'.cell key) :
    BusyWithin rank n past m (e :: past') m'' where
  sub := fun _ h_e => List.mem_cons_of_mem _ (h.sub h_e)
  cells key h_le h_ne := (h_others key h_ne).trans (h.cells key h_le h_ne)
  happenings e' h_e' := by
    rcases List.mem_cons.1 h_e' with rfl | h_mem
    · exact .inr (.inr h_e)
    · exact h.happenings e' h_mem

/-- Nothing happened to other nodes that are not of lower rank. -/
theorem mem_iff (h : BusyWithin rank n past m past' m') {e : Happening}
    (h_e : rank n.key ≤ rank e.node.key) (h_ne : e.node ≠ n) : e ∈ past' ↔ e ∈ past := by
  refine ⟨fun h_mem => ?_, fun h_mem => h.sub h_mem⟩
  rcases h.happenings e h_mem with h_old | h_lt | h_n
  · exact h_old
  · exact absurd h_lt (Nat.not_lt_of_le h_e)
  · exact absurd h_n h_ne

end Memory.BusyWithin

section Underway

variable {s : Scope} {Member : Node → Prop} {rank : Nat → Nat} {before : Memory} {r : Nat}
  {past past' : Course} {seen : Roster} {m m' : Memory}

/-- What a node does to its own cell while it computes, and what it decides, is of no concern to
nodes of lower rank. -/
theorem Scope.Underway.touch (h : s.Underway Member rank before r past seen m) {n : Node}
    (h_rank : rank n.key ≤ r) (h_others : ∀ key, key ≠ n.key → m'.cell key = m.cell key)
    (h_override : (m'.cell n.key).override = (m.cell n.key).override)
    (h_cache : (m'.cell n.key).cache = (m.cell n.key).cache) (recent : Course)
    (h_recent : ∀ e ∈ recent, ∃ present, e = .decided n present) :
    s.Underway Member rank before (rank n.key) (recent ++ past) seen m' := by
  have h_sub : past ⊆ recent ++ past := List.subset_append_right _ _
  have h_caches : ∀ k, Member k → (m'.cell k.key).cache = (m.cell k.key).cache := by
    intro k h_k
    by_cases h_key : k.key = n.key
    · rw [h_key, h_cache]
    · rw [h_others _ h_key]
  -- a decision does not mean that the node was asked
  have h_asked : ∀ k, (recent ++ past).Asked k → past.Asked k := by
    intro k h_asked
    refine h_asked.imp (fun h_e => ?_) fun h_e => ?_ <;>
    · refine (List.mem_append.1 h_e).resolve_left fun h_new => ?_
      obtain ⟨present, h_eq⟩ := h_recent _ h_new
      cases h_eq
  constructor
  case free =>
    intro key
    by_cases h_key : key = n.key
    · rw [h_key, h_override, h.free]
    · rw [h_others _ h_key, h.free]
  case justified =>
    intro e h_e
    rcases List.mem_append.1 h_e with h_new | h_old
    · obtain ⟨present, rfl⟩ := h_recent e h_new
      trivial
    · exact (h.justified e h_old).mono h_sub
  case asked =>
    intro k h_k h_kind h_some
    rw [h_caches k h_k] at h_some
    exact (h.asked k h_k h_kind h_some).mono h_sub
  case follows =>
    intro k h_k h_lt
    have h_ne : k.key ≠ n.key := by
      intro h_key
      rw [h_key] at h_lt
      exact absurd h_lt (Nat.lt_irrefl _)
    rw [h_others _ h_ne]
    -- the node below is not the one that decided
    have h_old : ∀ e, e.node = k → e ∈ recent ++ past → e ∈ past := by
      intro e h_e h_mem
      refine (List.mem_append.1 h_mem).resolve_left fun h_new => ?_
      obtain ⟨present, rfl⟩ := h_recent e h_new
      exact h_ne (congrArg Node.key h_e).symm
    exact (h.follows k h_k (Nat.lt_of_lt_of_le h_lt h_rank)).congr fun e h_e =>
      ⟨h_old e h_e, fun h_mem => h_sub h_mem⟩
  case listed =>
    intro k h_k h_steady h_kind
    rw [h_caches k h_k]
    exact h.listed k h_k h_steady h_kind
  case asked_listed =>
    exact fun k h_k h_steady h_kind h_k' => h.asked_listed k h_k h_steady h_kind (h_asked k h_k')
  case nulls => exact h.nulls
  case visited =>
    intro k origin h_k
    refine (h.visited k origin h_k).imp (fun h_e => h_sub h_e) ?_
    exact fun ⟨o, h_o, h_e⟩ => ⟨o, h_o, h_sub h_e⟩

end Underway

end Specimen
