import Mathlib.Logic.Relation
import Specimen.Proofs.Node.Settling

/-!
# Requests for null

An optional node that skips its child asks it for null, and the request is passed on through sources
and combined nodes (`Scope.Nulls`). What keeps such a request is null for the rest of the pass, even
for nodes that ask for a value later, so it matters who asks first.

* A node is steady if no optional node above it can be asked for null itself (`Scope.Steady`). The
  nodes that ask a steady node always do so in the same order.
* `Scope.visit` goes through the steady nodes in this order and notes for each of them which
  optional node, if any, the first request comes from.
-/

namespace Specimen

def NodeKind.isOptional : NodeKind → Bool
  | optional .. => true
  | _ => false

namespace Scope

variable (s : Scope)

/-- An optional node with this rule may skip its child. -/
def maySkip : Config.Mandatory → Bool
  | .fixed always => !s.ignoreOptional && !always
  | .whenPresent _ => !s.ignoreOptional

/-- An optional node that skips its child has another node asked for null. -/
inductive Nulls (Member : Node → Prop) (o : Node) : Node → Prop where
  | child {link rule n} (h_o : Member o) (h_kind : o.kind = .optional link rule)
    (h_skip : s.maySkip rule = true) (h_target : s.target? link = some n) : Nulls Member o n
  | part {n n' link} (h : Nulls Member o n) (h_passes : n.kind.isOptional = false)
    (h_link : link ∈ n.kind.links) (h_target : s.target? link = some n') : Nulls Member o n'

variable {s} {Member : Node → Prop}

/-- What is asked for null is below the optional node. -/
theorem Nulls.calls {o n : Node} (h : s.Nulls Member o n) : Relation.TransGen s.Calls o n := by
  induction h with
  | child _ h_kind _ h_target =>
    refine .single (.inl ⟨_, ?_, h_target⟩)
    rw [h_kind]
    exact List.mem_singleton_self _
  | part _ _ h_link h_target ih => exact ih.tail (.inl ⟨_, h_link, h_target⟩)

/-- Requests for null come from optional nodes. -/
theorem Nulls.source {o n : Node} (h : s.Nulls Member o n) :
    Member o ∧ ∃ child rule, o.kind = .optional child rule := by
  induction h with
  | child h_o h_kind _ _ => exact ⟨h_o, _, _, h_kind⟩
  | part _ _ _ _ ih => exact ih

/-- Requests for null among some nodes are such among more nodes. -/
theorem Nulls.mono {Member' : Node → Prop} {o n : Node} (h : s.Nulls Member o n)
    (h_member : ∀ k, Member k → Member' k) : s.Nulls Member' o n := by
  induction h with
  | child h_o h_kind h_skip h_target => exact .child (h_member _ h_o) h_kind h_skip h_target
  | part _ h_passes h_link h_target ih => exact .part ih h_passes h_link h_target

/-- If optional nodes are ignored, none of them skips its child. -/
theorem Nulls.heeds {o n : Node} (h : s.Nulls Member o n) : s.ignoreOptional = false := by
  induction h with
  | @child _ rule _ _ _ h_skip _ => cases rule <;> simp_all [maySkip]
  | part _ _ _ _ ih => exact ih

/-- No optional node above the node can be asked for null. -/
def Steady (s : Scope) (Member : Node → Prop) (n : Node) : Prop :=
  ∀ o r, s.Nulls Member o r → r.kind.isOptional = true → ¬ Relation.TransGen s.Calls r n

theorem not_steady_of_calls {n n' : Node} (h : ¬ s.Steady Member n) (h_calls : s.Calls n n') :
    ¬ s.Steady Member n' := by
  intro h_steady
  refine h fun o r h_nulls h_optional h_path => ?_
  exact h_steady o r h_nulls h_optional (h_path.tail h_calls)

theorem not_steady_of_nulls {o n n' : Node} (h : s.Nulls Member o n)
    (h_optional : n.kind.isOptional = true) (h_calls : s.Calls n n') : ¬ s.Steady Member n' :=
  fun h_steady => h_steady o n h h_optional (.single h_calls)

end Scope

/-! ### The order of first requests -/

/-- Nodes that have been asked, each with the optional node that the first request came from, if it
came from one. -/
abbrev Roster := List (Node × Option Node)

namespace Scope

variable (s : Scope) (go : Node → Option Node → Roster → Roster)

/-- Visits what links lead to, one after the other. -/
def visitLinks (origin : Option Node) : List Link → Roster → Roster
  | [], seen => seen
  | link :: links, seen =>
    match s.target? link with
    | some n => visitLinks origin links (go n origin seen)
    | none => visitLinks origin links seen

/-- Visits what the rule of an optional node asks. -/
def visitRule (rule : Config.Mandatory) (seen : Roster) : Roster :=
  if s.ignoreOptional then seen
  else
    match rule with
    | .fixed _ => seen
    | .whenPresent id =>
      match s.nodes.get? id with
      | some n => go n none seen
      | none => seen

/-- Visits what a node asks. A node that may skip its child is where the requests for the child come
from; other nodes pass requests on. -/
def visitInside (n : Node) (origin : Option Node) (seen : Roster) : Roster :=
  match n.kind with
  | .optional child rule =>
    s.visitLinks go (if s.maySkip rule then some n else none) [child]
      (s.visitRule go rule seen)
  | kind => s.visitLinks go origin kind.links seen

open Classical in
/-- Visits a steady node that was not seen before, and then notes it if it keeps its value. -/
noncomputable def visit (Member : Node → Prop) : Nat → Node → Option Node → Roster → Roster
  | 0, _, _, seen => seen
  | fuel + 1, n, origin, seen =>
    if s.Steady Member n ∧ ¬ (n.kind.isStateless = false ∧ ∃ origin', (n, origin') ∈ seen) then
      if n.kind.isStateless then s.visitInside (visit Member fuel) n origin seen
      else (n, origin) :: s.visitInside (visit Member fuel) n origin seen
    else seen

variable {s} {Member : Node → Prop} {fuel : Nat} {n : Node} {origin : Option Node} {seen : Roster}

theorem visit_of_not_steady (h : ¬ s.Steady Member n) :
    s.visit Member fuel n origin seen = seen := by
  cases fuel with
  | zero => rfl
  | succ fuel => rw [visit, if_neg fun h_and => h h_and.1]

theorem visit_of_seen (h_kind : n.kind.isStateless = false) {origin' : Option Node}
    (h : (n, origin') ∈ seen) : s.visit Member fuel n origin seen = seen := by
  cases fuel with
  | zero => rfl
  | succ fuel => rw [visit, if_neg fun h_and => h_and.2 ⟨h_kind, origin', h⟩]

theorem visit_stateless (h : s.Steady Member n) (h_kind : n.kind.isStateless = true) :
    s.visit Member (fuel + 1) n origin seen =
      s.visitInside (s.visit Member fuel) n origin seen := by
  have h_not : ¬ (n.kind.isStateless = false ∧ ∃ origin', (n, origin') ∈ seen) := by
    rw [h_kind]
    rintro ⟨h_false, -⟩
    cases h_false
  rw [visit, if_pos ⟨h, h_not⟩, if_pos h_kind]

theorem visit_cached (h : s.Steady Member n) (h_kind : n.kind.isStateless = false)
    (h_new : ∀ origin', (n, origin') ∉ seen) : s.visit Member (fuel + 1) n origin seen =
      (n, origin) :: s.visitInside (s.visit Member fuel) n origin seen := by
  have h_not : ¬ (n.kind.isStateless = false ∧ ∃ origin', (n, origin') ∈ seen) := by
    rintro ⟨-, origin', h_mem⟩
    exact h_new origin' h_mem
  rw [visit, if_pos ⟨h, h_not⟩, if_neg (by simp [h_kind])]

theorem visitLinks_of_not_steady {links : List Link}
    (h : ∀ link ∈ links, ∀ n, s.target? link = some n → ¬ s.Steady Member n) :
    s.visitLinks (s.visit Member fuel) origin links seen = seen := by
  induction links with
  | nil => rfl
  | cons link links ih =>
    have h_rest := ih fun l h_l => h l (List.mem_cons_of_mem _ h_l)
    rw [visitLinks]
    split
    · next n h_target =>
      rw [visit_of_not_steady (h link List.mem_cons_self n h_target)]
      exact h_rest
    · exact h_rest

theorem visitInside_eq {go : Node → Option Node → Roster → Roster}
    (h : n.kind.isOptional = false) :
    s.visitInside go n origin seen = s.visitLinks go origin n.kind.links seen := by
  unfold visitInside
  split
  · next h_kind =>
    rw [h_kind] at h
    cases h
  · rfl

/-- Nothing is noted inside a node that asks no steady ones. -/
theorem visitInside_of_not_steady (h : ∀ n', s.Calls n n' → ¬ s.Steady Member n') :
    s.visitInside (s.visit Member fuel) n origin seen = seen := by
  have h_links : ∀ link ∈ n.kind.links, ∀ n', s.target? link = some n' → ¬ s.Steady Member n' :=
    fun link h_link n' h_target => h n' (.inl ⟨link, h_link, h_target⟩)
  have h_rule : ∀ id, n.kind.ruleId? = some id → ∀ n', s.nodes.get? id = some n' →
      ¬ s.Steady Member n' :=
    fun id h_id n' h_get => h n' (.inr ⟨id, h_id, h_get⟩)
  unfold visitInside
  split
  · next child rule h_kind =>
    rw [h_kind] at h_links h_rule
    -- what the rule asks comes first, and then the child
    have h_first : s.visitRule (s.visit Member fuel) rule seen = seen := by
      unfold visitRule
      split
      · rfl
      · split
        · rfl
        · next id =>
          split
          · next n' h_get => exact visit_of_not_steady (h_rule id rfl n' h_get)
          · rfl
    rw [h_first]
    exact visitLinks_of_not_steady h_links
  · exact visitLinks_of_not_steady h_links

end Scope

end Specimen
