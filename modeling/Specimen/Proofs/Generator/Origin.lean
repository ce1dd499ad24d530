import Mathlib.Data.Finset.Card
import Mathlib.Order.Interval.Finset.Nat
import Specimen.Generator
import Specimen.Proofs.Config.Skipping
import Specimen.Proofs.Config.WellFormed
import Specimen.Proofs.Graph.Origin
import Specimen.Proofs.Node.Settling

/-!
# Generators of configurations

A generator that was built from a configuration has one node for each place of the configuration,
and the nodes know each other by the ids that are declared there (`Generator.Represents`). As no
place of a well-formed configuration leads to itself, neither does any node, so that the nodes can
be ranked by what they ask (`Generator.Represents.exists_ordered`). The rank counts the nodes that a
node asks in one or more steps (`exists_rank`).
-/

namespace Specimen

open Relation in
/-- **Ranks.** A relation into the numbers below a bound has ranks up to the bound if nothing leads
to itself. -/
theorem exists_rank {r : Nat → Nat → Prop} (size : Nat) (h_lt : ∀ a b, r a b → b < size)
    (h_acyclic : ∀ a, ¬ TransGen r a a) :
    ∃ rank : Nat → Nat, (∀ a, rank a ≤ size) ∧ ∀ a b, r a b → rank b < rank a := by
  classical
  let reached (a : Nat) : Finset Nat := (Finset.range size).filter fun b => TransGen r a b
  refine ⟨fun a => (reached a).card, fun a => ?_, fun a b h => ?_⟩
  · have h_card := Finset.card_filter_le (Finset.range size) fun b => TransGen r a b
    rwa [Finset.card_range] at h_card
  · refine Finset.card_lt_card ((Finset.ssubset_iff_of_subset ?_).2 ⟨b, ?_, ?_⟩)
    · intro x h_x
      obtain ⟨h_x, h_path⟩ := Finset.mem_filter.1 h_x
      exact Finset.mem_filter.2 ⟨h_x, .head h h_path⟩
    · exact Finset.mem_filter.2 ⟨Finset.mem_range.2 (h_lt a b h), .single h⟩
    -- what leads to itself is in no circle
    · exact fun h_b => h_acyclic b (Finset.mem_filter.1 h_b).2

namespace Generator

/-- A generator represents a configuration with nodes for its top level: they mirror the
constraints, have keys of their own, and are registered under their ids with all that is inside
them. -/
structure Represents (g : Generator) (c : Config) (tops : List Node) : Prop where
  wellFormed : c.WellFormed
  mirrors : List.Forall₂ (Node.Mirrors g.graph.charsets none) c.constraints tops
  roots : tops.map Node.id = g.roots.map some
  keys_nodup : (tops.flatMap Node.keys).Nodup
  keys_lt : ∀ key ∈ tops.flatMap Node.keys, key < g.graph.size
  registered : ∀ id n, g.graph.nodes.get? id = some n ↔
    (∃ t ∈ tops, t.Inside n) ∧ n.id = some id
  named : ∀ id, (∃ x ∈ c.constraints, x.Names id) → g.graph.nodes.contains id = true

/-- **Where generators come from.** What is built from a configuration represents it. -/
theorem ofConfig_represents {c : Config} {o : GeneratorOptions} {random : UInt64} {g : Generator}
    (h : ofConfig c o random = .ok g) : (∃ tops, g.Represents c tops) ∧
      g.ignoreOptional = o.ignoreOptional ∧ g.indexed = o.indexed := by
  unfold ofConfig at h
  by_cases h_ok : c.check.isOk = true
  · simp only [if_pos h_ok] at h
    split at h
    · next roots graph h_build =>
      obtain ⟨ns, h_mirrors, h_roots, h_nodup, h_lt, h_registered, h_named⟩ :=
        (Graph.ends_buildConfig c .builtin).of_ok h_build
      cases h
      refine ⟨⟨ns, ?_⟩, rfl, rfl⟩
      exact {
        wellFormed := Config.wellFormed_of_isOk h_ok
        mirrors := h_mirrors
        roots := h_roots
        keys_nodup := h_nodup
        keys_lt := h_lt
        registered := h_registered
        named := h_named }
    · cases h
  · simp only [if_neg h_ok] at h
    cases h

namespace Represents

variable {g : Generator} {c : Config} {tops : List Node}

/-- The nodes of the places of the configuration. -/
def Member (tops : List Node) (n : Node) : Prop := ∃ p, nodeAt? tops p = some n

theorem member_iff {n : Node} : Member tops n ↔ ∃ t ∈ tops, t.Inside n := exists_nodeAt?_iff

variable (h : g.Represents c tops)
include h

/-- The graph of the generator mirrors the configuration. -/
theorem graph_mirrors : g.graph.Mirrors c tops where
  mirrors := h.mirrors
  ids t h_t := by
    have h_root : t.id ∈ g.roots.map some := h.roots ▸ List.mem_map_of_mem h_t
    obtain ⟨id, -, h_id⟩ := List.mem_map.1 h_root
    exact ⟨id, h_id.symm⟩
  keys_nodup := h.keys_nodup
  keys_lt := h.keys_lt
  registered := h.registered
  named := h.named

/-- What is found under an id is a node with that id. -/
theorem get?_iff {id : String} {n : Node} :
    g.graph.nodes.get? id = some n ↔ Member tops n ∧ n.id = some id := by
  rw [h.registered, member_iff]

theorem key_lt {n : Node} (h_n : Member tops n) : n.key < g.graph.size :=
  h.graph_mirrors.key_lt (h.graph_mirrors.holds_iff.2 h_n)

/-- Different nodes have different keys. -/
theorem eq_of_key_eq {n n' : Node} (h_n : Member tops n) (h_n' : Member tops n')
    (h_key : n.key = n'.key) : n = n' :=
  h.graph_mirrors.eq_of_key_eq (h.graph_mirrors.holds_iff.2 h_n) (h.graph_mirrors.holds_iff.2 h_n')
    h_key

/-- What a node names is registered. -/
theorem exists_get? {n : Node} (h_n : Member tops n) {id : String}
    (h_id : .reference id ∈ n.kind.links ∨ n.kind.ruleId? = some id) :
    ∃ n', g.graph.nodes.get? id = some n' := by
  obtain ⟨p, h_p⟩ := h_n
  obtain ⟨x, above, h_x, h_mirrors⟩ := mirrors_of_nodeAt? h.mirrors h_p
  refine h.graph_mirrors.exists_get? h_x (Config.Constraint.mem_named.2 ?_)
  rcases h_id with h_link | h_rule
  · obtain ⟨i, h_i⟩ := List.getElem?_of_mem h_link
    obtain ⟨child, h_child, h_part⟩ := h_mirrors.links.part h_i
    cases h_part
    exact .inr (List.mem_of_getElem? h_child)
  · exact .inl (h_mirrors.ruleId?_eq ▸ h_rule)

/-- What is found under an id stands where the id is declared. -/
theorem place_of_get? {id : String} {n : Node} (h_get : g.graph.nodes.get? id = some n) :
    ∃ q y, nodeAt? tops q = some n ∧ c.at? q = some y ∧ y.id = some id := by
  obtain ⟨q, h_q, y, h_y, h_id⟩ := h.graph_mirrors.place_of_get? h_get
  exact ⟨q, y, h_q, h_y, h_id⟩

/-- What a link of a node leads to stands at a part of the constraint. -/
theorem hasPart_of_link {p : Place} {n n' : Node} (h_p : nodeAt? tops p = some n) {link : Link}
    (h_link : link ∈ n.kind.links) (h_target : g.scope.target? link = some n') :
    ∃ q, nodeAt? tops q = some n' ∧ c.HasPart p q :=
  h.graph_mirrors.hasPart_of_links h_p ⟨link, h_link, h_target⟩

/-- **Calls follow the configuration.** The place of a node leads to that of the node it asks. -/
theorem leads_of_calls {p : Place} {n n' : Node} (h_p : nodeAt? tops p = some n)
    (h_calls : g.scope.Calls n n') : ∃ q, nodeAt? tops q = some n' ∧ c.Leads p q := by
  rcases h_calls with ⟨link, h_link, h_target⟩ | ⟨id, h_rule, h_get⟩
  · obtain ⟨q, h_q, h_part⟩ := h.hasPart_of_link h_p h_link h_target
    exact ⟨q, h_q, h_part.leads⟩
  · obtain ⟨x, above, h_x, h_mirrors⟩ := mirrors_of_nodeAt? h.mirrors h_p
    obtain ⟨q, y, h_q, h_y, h_id⟩ := h.place_of_get? h_get
    exact ⟨q, h_q, .rule h_x (h_mirrors.ruleId?_eq ▸ h_rule) h_y h_id⟩

/-- A link of a node leads to a node. -/
theorem exists_target {n : Node} (h_n : Member tops n) {link : Link}
    (h_link : link ∈ n.kind.links) : ∃ n', g.scope.target? link = some n' :=
  h.graph_mirrors.exists_target (h.graph_mirrors.holds_iff.2 h_n) h_link

/-- The keys of nodes that ask each other. -/
def KeyCalls (_ : g.Represents c tops) (a b : Nat) : Prop :=
  ∃ n n', Member tops n ∧ n.key = a ∧ g.scope.Calls n n' ∧ n'.key = b

omit h in
theorem leads_of_keyCalls (h : g.Represents c tops) {p : Place} {n : Node}
    (h_p : nodeAt? tops p = some n) {b : Nat} (h_calls : Relation.TransGen h.KeyCalls n.key b) :
    ∃ q n', nodeAt? tops q = some n' ∧ n'.key = b ∧ Relation.TransGen c.Leads p q := by
  induction h_calls with
  | single h_step =>
    obtain ⟨m, n', h_m, h_key, h_calls, h_b⟩ := h_step
    obtain rfl := h.eq_of_key_eq h_m ⟨p, h_p⟩ h_key
    obtain ⟨q, h_q, h_leads⟩ := h.leads_of_calls h_p h_calls
    exact ⟨q, n', h_q, h_b, .single h_leads⟩
  | tail _ h_step ih =>
    obtain ⟨q, k, h_q, h_k, h_path⟩ := ih
    obtain ⟨m, n', h_m, h_key, h_calls, h_b⟩ := h_step
    obtain rfl := h.eq_of_key_eq h_m ⟨q, h_q⟩ (h_key.trans h_k.symm)
    obtain ⟨q', h_q', h_leads⟩ := h.leads_of_calls h_q h_calls
    exact ⟨q', n', h_q', h_b, h_path.tail h_leads⟩

/-- What a node asks is a node. -/
theorem member_of_calls {n n' : Node} (h_n : Member tops n) (h_calls : g.scope.Calls n n') :
    Member tops n' := by
  obtain ⟨p, h_p⟩ := h_n
  obtain ⟨q, h_q, -⟩ := h.leads_of_calls h_p h_calls
  exact ⟨q, h_q⟩

/-- **Order.** The nodes of a generator are ordered, with ranks that its fuel exceeds. -/
theorem exists_ordered : ∃ rank : Nat → Nat, (∀ key, rank key < g.fuel) ∧
    g.scope.Ordered (Member tops) rank ∧
      ∀ n n', Member tops n → g.scope.Calls n n' → rank n'.key < rank n.key := by
  obtain ⟨rank, h_le, h_rank⟩ := exists_rank (r := h.KeyCalls) g.graph.size
    (by
      rintro a b ⟨n, n', h_n, -, h_calls, rfl⟩
      exact h.key_lt (h.member_of_calls h_n h_calls))
    (by
      intro a h_cycle
      obtain ⟨b, ⟨n, -, ⟨p, h_p⟩, rfl, -⟩, -⟩ := Relation.TransGen.head'_iff.1 h_cycle
      -- A circle of calls is a circle of places, which the configuration does not have.
      obtain ⟨q, n', h_q, h_key, h_path⟩ := h.leads_of_keyCalls h_p h_cycle
      obtain rfl := nodeAt?_unique h.keys_nodup h_p h_q h_key.symm
      exact h.wellFormed.acyclic p h_path)
  have h_calls : ∀ n n', Member tops n → g.scope.Calls n n' → rank n'.key < rank n.key :=
    fun n n' h_n h_calls => h_rank _ _ ⟨n, n', h_n, rfl, h_calls, rfl⟩
  refine ⟨rank, fun key => Nat.lt_succ_of_le (h_le key), ⟨?_, ?_⟩, h_calls⟩
  · intro n link h_n h_link
    obtain ⟨n', h_target⟩ := h.exists_target h_n h_link
    have h_call : g.scope.Calls n n' := .inl ⟨link, h_link, h_target⟩
    exact ⟨n', h_target, h.member_of_calls h_n h_call, h_calls n n' h_n h_call⟩
  · intro n child id h_n h_kind
    have h_rule : n.kind.ruleId? = some id := by rw [h_kind]; rfl
    obtain ⟨n', h_get⟩ := h.exists_get? h_n (.inr h_rule)
    have h_call : g.scope.Calls n n' := .inr ⟨id, h_rule, h_get⟩
    exact ⟨n', h_get, h.member_of_calls h_n h_call, h_calls n n' h_n h_call⟩

/-- The roots are the ids of the top level, in its order. -/
theorem map_id_eq : c.constraints.map Config.Constraint.id = g.roots.map some := by
  rw [← h.roots]
  exact map_id_of_mirrors h.mirrors

theorem mem_roots_iff {id : String} :
    id ∈ g.roots ↔ ∃ x ∈ c.constraints, x.id = some id := by
  rw [← List.mem_map, h.map_id_eq, List.mem_map_of_injective (Option.some_injective _)]

/-- A root is registered under its id. -/
theorem get?_root {id : String} (h_id : id ∈ g.roots) :
    ∃ n ∈ tops, g.graph.nodes.get? id = some n ∧ n.id = some id := by
  have h_some : some id ∈ tops.map Node.id := h.roots ▸ List.mem_map_of_mem h_id
  obtain ⟨n, h_n, h_eq⟩ := List.mem_map.1 h_some
  exact ⟨n, h_n, (h.registered id n).2 ⟨⟨n, h_n, n.inside_self⟩, h_eq⟩, h_eq⟩

/-- **Induction over the roots**, together with the nodes that are registered under them. -/
theorem roots_induction {P : List String → List Node → Prop} (h_nil : P [] [])
    (h_cons : ∀ id n ids ns, n ∈ tops → g.graph.nodes.get? id = some n → P ids ns →
      P (id :: ids) (n :: ns)) : P g.roots tops := by
  have h_lists : ∀ (ns : List Node) (ids : List String), ns.map Node.id = ids.map some →
      (∀ n ∈ ns, n ∈ tops) → P ids ns := by
    intro ns
    induction ns with
    | nil =>
      intro ids h_ids _
      obtain rfl : ids = [] := by simpa using h_ids.symm
      exact h_nil
    | cons n ns ih =>
      intro ids h_ids h_tops
      match ids with
      | id :: ids =>
        obtain ⟨h_id, h_rest⟩ := List.cons.inj h_ids
        have h_n := h_tops n List.mem_cons_self
        have h_get := (h.registered id n).2 ⟨⟨n, h_n, n.inside_self⟩, h_id⟩
        exact h_cons id n ids ns h_n h_get
          (ih ids h_rest fun k h_k => h_tops k (List.mem_cons_of_mem _ h_k))
  exact h_lists tops g.roots h.roots fun _ => id

end Represents

end Generator

end Specimen
