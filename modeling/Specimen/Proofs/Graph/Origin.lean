import Specimen.Proofs.Config.Mentions
import Specimen.Proofs.Config.Skipping
import Specimen.Proofs.Graph.Build
import Specimen.Proofs.Graph.Coherent
import Specimen.Proofs.Node.Circles

/-!
# Graphs of configurations

A graph that was built from a configuration has one node for each place of the configuration
(`Graph.Mirrors`), whether the configuration makes sense or not: its references may lead in circles.
The links of the nodes and the parts of the constraints lead from place to place in the same way,
so that the ones have a circle exactly when the others have (`Graph.Mirrors.exists_circle_iff`).
-/

namespace Specimen

namespace Graph

/-- The nodes of a graph mirror the constraints of a configuration: they have keys of their own,
and those with ids are registered. -/
structure Mirrors (g : Graph) (c : Config) (tops : List Node) : Prop where
  mirrors : List.Forall₂ (Node.Mirrors g.charsets none) c.constraints tops
  ids : ∀ t ∈ tops, ∃ id, t.id = some id
  keys_nodup : (tops.flatMap Node.keys).Nodup
  keys_lt : ∀ key ∈ tops.flatMap Node.keys, key < g.size
  registered : ∀ id n, g.nodes.get? id = some n ↔ (∃ t ∈ tops, t.Inside n) ∧ n.id = some id
  named : ∀ id, (∃ x ∈ c.constraints, x.Names id) → g.nodes.contains id = true

variable {g : Graph} {c : Config} {tops : List Node}

/-- **Building a configuration** in a graph without nodes makes it mirror the configuration. -/
theorem mirrors_of_buildConfig {sets : CharacterSets} {roots : List String}
    (h : buildConfig c (.empty sets) = (.ok roots, g)) : ∃ tops, g.Mirrors c tops := by
  obtain ⟨tops, h_mirrors, h_roots, h_nodup, h_lt, h_registered, h_named⟩ :=
    (ends_buildConfig c sets).of_ok h
  have h_ids : ∀ t ∈ tops, ∃ id, t.id = some id := by
    intro t h_t
    have h_root : t.id ∈ roots.map some := h_roots ▸ List.mem_map_of_mem h_t
    obtain ⟨id, -, h_id⟩ := List.mem_map.1 h_root
    exact ⟨id, h_id.symm⟩
  exact ⟨tops, h_mirrors, h_ids, h_nodup, h_lt, h_registered, h_named⟩

namespace Mirrors

variable (h : g.Mirrors c tops)
include h

/-! ### The nodes of a graph and their places -/

/-- A node of the top level is registered. -/
theorem get?_top {t : Node} (h_t : t ∈ tops) : ∃ id, g.nodes.get? id = some t := by
  obtain ⟨id, h_id⟩ := h.ids t h_t
  exact ⟨id, (h.registered id t).2 ⟨⟨t, h_t, t.inside_self⟩, h_id⟩⟩

/-- The graph holds the nodes at the places. -/
theorem holds_iff {n : Node} : g.Holds n ↔ ∃ p, nodeAt? tops p = some n := by
  rw [exists_nodeAt?_iff]
  constructor
  · rintro ⟨id, t, h_get, h_inside⟩
    obtain ⟨⟨top, h_top, h_t⟩, -⟩ := (h.registered id t).1 h_get
    exact ⟨top, h_top, h_t.trans h_inside⟩
  · rintro ⟨t, h_t, h_inside⟩
    obtain ⟨id, h_get⟩ := h.get?_top h_t
    exact ⟨id, t, h_get, h_inside⟩

theorem key_lt {n : Node} (h_n : g.Holds n) : n.key < g.size := by
  obtain ⟨p, h_p⟩ := h.holds_iff.1 h_n
  obtain ⟨t, h_t, h_inside⟩ := exists_nodeAt?_iff.1 ⟨p, h_p⟩
  exact h.keys_lt _ (List.mem_flatMap.2 ⟨t, h_t, Node.mem_keys_of_inside h_inside⟩)

/-- Different nodes have different keys. -/
theorem eq_of_key_eq {n n' : Node} (h_n : g.Holds n) (h_n' : g.Holds n') (h_key : n.key = n'.key) :
    n = n' := by
  obtain ⟨p, h_p⟩ := h.holds_iff.1 h_n
  obtain ⟨q, h_q⟩ := h.holds_iff.1 h_n'
  obtain rfl := nodeAt?_unique h.keys_nodup h_p h_q h_key
  exact Option.some.inj (h_p.symm.trans h_q)

theorem coherent : g.Coherent where
  key_lt _ h_n := h.key_lt (h_n.resolve_right id)
  eq_of_key_eq _ _ h_n h_n' := h.eq_of_key_eq (h_n.resolve_right id) (h_n'.resolve_right id)

/-- What is found under an id stands where the id is declared. -/
theorem place_of_get? {id : String} {n : Node} (h_get : g.nodes.get? id = some n) :
    ∃ p, nodeAt? tops p = some n ∧ c.Declares p id := by
  obtain ⟨h_inside, h_id⟩ := (h.registered id n).1 h_get
  obtain ⟨p, h_p⟩ := exists_nodeAt?_iff.2 h_inside
  obtain ⟨x, above, h_x, h_mirrors⟩ := mirrors_of_nodeAt? h.mirrors h_p
  exact ⟨p, h_p, x, h_x, h_mirrors.id_eq ▸ h_id⟩

/-- Where an id is declared, the node stands that is found under it. -/
theorem get?_of_declares {p : Place} {id : String} (h_p : c.Declares p id) :
    ∃ n, nodeAt? tops p = some n ∧ g.nodes.get? id = some n := by
  obtain ⟨x, h_x, h_id⟩ := h_p
  obtain ⟨n, above, h_n, h_mirrors⟩ := mirrors_nodeAt? h.mirrors h_x
  refine ⟨n, h_n, (h.registered id n).2 ⟨exists_nodeAt?_iff.1 ⟨p, h_n⟩, ?_⟩⟩
  rw [h_mirrors.id_eq, h_id]

/-! ### What building makes sure of -/

/-- The constraints of the top level have ids. -/
theorem id_isSome : ∀ x ∈ c.constraints, x.id.isSome := by
  intro x h_x
  have h_id : x.id ∈ tops.map Node.id := map_id_of_mirrors h.mirrors ▸ List.mem_map_of_mem h_x
  obtain ⟨t, h_t, h_eq⟩ := List.mem_map.1 h_id
  obtain ⟨id, h_id⟩ := h.ids t h_t
  rw [← h_eq, h_id]
  rfl

/-- Every id is declared once. -/
theorem ids_nodup : c.ids.Nodup := by
  refine Config.ids_nodup_iff.2 fun p q id h_p h_q => ?_
  obtain ⟨n, h_n, h_get⟩ := h.get?_of_declares h_p
  obtain ⟨n', h_n', h_get'⟩ := h.get?_of_declares h_q
  obtain rfl : n = n' := Option.some.inj (h_get.symm.trans h_get')
  exact nodeAt?_unique h.keys_nodup h_n h_n' rfl

/-- What is named is registered. -/
theorem exists_get? {p : Place} {x : Config.Constraint} {id : String} (h_x : c.at? p = some x)
    (h_id : id ∈ x.named) : ∃ n, g.nodes.get? id = some n := by
  refine Dict.contains_iff.1 (h.named id ?_)
  match p with
  | i :: p =>
    obtain ⟨y, h_y, h_x⟩ := Config.at?_cons.1 h_x
    exact ⟨y, List.mem_of_getElem? h_y, p, x, h_x, h_id⟩

/-- What is named is declared. -/
theorem named_mem_ids {p : Place} {x : Config.Constraint} {id : String} (h_x : c.at? p = some x)
    (h_id : id ∈ x.named) : id ∈ c.ids := by
  obtain ⟨n, h_get⟩ := h.exists_get? h_x h_id
  obtain ⟨q, -, h_q⟩ := h.place_of_get? h_get
  exact Config.mem_ids.2 ⟨q, h_q⟩

/-! ### Links and parts -/

variable {ignoreOptional : Bool}

/-- A link of a node leads to a node. -/
theorem exists_target {n : Node} (h_n : g.Holds n) {link : Link} (h_link : link ∈ n.kind.links) :
    ∃ n', Scope.target? ⟨g.nodes, ignoreOptional⟩ link = some n' := by
  cases link with
  | embedded m => exact ⟨m, rfl⟩
  | reference id =>
    obtain ⟨p, h_p⟩ := h.holds_iff.1 h_n
    obtain ⟨x, above, h_x, h_mirrors⟩ := mirrors_of_nodeAt? h.mirrors h_p
    obtain ⟨i, h_i⟩ := List.getElem?_of_mem h_link
    obtain ⟨child, h_child, h_part⟩ := h_mirrors.links.part h_i
    cases h_part
    exact h.exists_get? h_x (Config.Constraint.mem_named.2 (.inr (List.mem_of_getElem? h_child)))

/-- Where a node links to, the constraint has a part. -/
theorem hasPart_of_links {p : Place} {n n' : Node} (h_p : nodeAt? tops p = some n)
    (h_links : Scope.Links ⟨g.nodes, ignoreOptional⟩ n n') :
    ∃ q, nodeAt? tops q = some n' ∧ c.HasPart p q := by
  obtain ⟨link, h_link, h_target⟩ := h_links
  obtain ⟨x, above, h_x, h_mirrors⟩ := mirrors_of_nodeAt? h.mirrors h_p
  obtain ⟨i, h_i⟩ := List.getElem?_of_mem h_link
  obtain ⟨child, h_child, h_part⟩ := h_mirrors.links.part h_i
  cases h_part with
  | @reference _ id =>
    obtain ⟨q, h_q, y, h_y, h_id⟩ := h.place_of_get? h_target
    exact ⟨q, h_q, .reference h_x (List.mem_of_getElem? h_child) h_y h_id⟩
  | @embedded _ y m h_m =>
    obtain rfl : m = n' := Option.some.inj h_target
    exact ⟨p ++ [i], nodeAt?_part h_p h_i, .embedding h_x h_child⟩

/-- Where a constraint has a part, the node links to. -/
theorem links_of_hasPart {p q : Place} {n : Node} (h_p : nodeAt? tops p = some n)
    (h_part : c.HasPart p q) :
    ∃ n', nodeAt? tops q = some n' ∧ Scope.Links ⟨g.nodes, ignoreOptional⟩ n n' := by
  obtain ⟨x, above, h_x, h_mirrors⟩ := mirrors_of_nodeAt? h.mirrors h_p
  -- the link stands where the part stands among the children
  cases h_part with
  | @embedding i x' y h_x' h_child =>
    obtain rfl : x = x' := Option.some.inj (h_x.symm.trans h_x')
    obtain ⟨link, h_link, h_mirrored⟩ := h_mirrors.links.link h_child
    cases h_mirrored with
    | @embedded _ _ m h_m =>
      exact ⟨m, nodeAt?_part h_p h_link, .embedded m, List.mem_of_getElem? h_link, rfl⟩
  | @reference _ x' y id h_x' h_ref h_y h_id =>
    obtain rfl : x = x' := Option.some.inj (h_x.symm.trans h_x')
    obtain ⟨i, h_i⟩ := List.getElem?_of_mem h_ref
    obtain ⟨link, h_link, h_mirrored⟩ := h_mirrors.links.link h_i
    cases h_mirrored
    obtain ⟨n', h_n', h_get⟩ := h.get?_of_declares ⟨y, h_y, h_id⟩
    exact ⟨n', h_n', .reference id, List.mem_of_getElem? h_link, h_get⟩

/-! ### Circles -/

/-- **Circles.** Links lead from a node back to it exactly when parts lead from a place back
to it. -/
theorem exists_circle_iff :
    (∃ n, g.Holds n ∧ Relation.TransGen (Scope.Links ⟨g.nodes, ignoreOptional⟩) n n) ↔
      ∃ p, Relation.TransGen c.HasPart p p := by
  constructor
  · rintro ⟨n, h_n, h_circle⟩
    obtain ⟨p, h_p⟩ := h.holds_iff.1 h_n
    -- a path of links from here comes to the place of the node where it ends
    have h_path : ∀ n', Relation.TransGen (Scope.Links ⟨g.nodes, ignoreOptional⟩) n n' →
        ∃ q, nodeAt? tops q = some n' ∧ Relation.TransGen c.HasPart p q := by
      intro n' h_links
      induction h_links with
      | single h_step =>
        obtain ⟨q, h_q, h_part⟩ := h.hasPart_of_links h_p h_step
        exact ⟨q, h_q, .single h_part⟩
      | tail _ h_step ih =>
        obtain ⟨q, h_q, h_parts⟩ := ih
        obtain ⟨r, h_r, h_part⟩ := h.hasPart_of_links h_q h_step
        exact ⟨r, h_r, h_parts.tail h_part⟩
    obtain ⟨q, h_q, h_parts⟩ := h_path n h_circle
    obtain rfl := nodeAt?_unique h.keys_nodup h_p h_q rfl
    exact ⟨p, h_parts⟩
  · rintro ⟨p, h_circle⟩
    obtain ⟨q, h_first, -⟩ := Relation.TransGen.head'_iff.1 h_circle
    obtain ⟨x, h_x⟩ : ∃ x, c.at? p = some x := by
      cases h_first with
      | embedding h_x _ => exact ⟨_, h_x⟩
      | reference h_x _ _ _ => exact ⟨_, h_x⟩
    obtain ⟨n, above, h_n, -⟩ := mirrors_nodeAt? h.mirrors h_x
    -- and a path of parts from there to the node at its end
    have h_path : ∀ q, Relation.TransGen c.HasPart p q → ∃ n', nodeAt? tops q = some n' ∧
        Relation.TransGen (Scope.Links ⟨g.nodes, ignoreOptional⟩) n n' := by
      intro q h_parts
      induction h_parts with
      | single h_step =>
        obtain ⟨n', h_n', h_link⟩ := h.links_of_hasPart h_n h_step
        exact ⟨n', h_n', .single h_link⟩
      | tail _ h_step ih =>
        obtain ⟨n', h_n', h_links⟩ := ih
        obtain ⟨n'', h_n'', h_link⟩ := h.links_of_hasPart h_n' h_step
        exact ⟨n'', h_n'', h_links.tail h_link⟩
    obtain ⟨n', h_n', h_links⟩ := h_path p h_circle
    obtain rfl : n = n' := Option.some.inj (h_n.symm.trans h_n')
    exact ⟨n, h.holds_iff.2 ⟨p, h_n⟩, h_links⟩

end Mirrors

/-! ### Ways through a graph -/

/-- Links lead from a node to whatever is inside it. -/
theorem links_of_inside {s : Scope} {n m : Node} (h : n.Inside m) :
    Relation.ReflTransGen s.Links n m := by
  obtain ⟨p, h_p⟩ := h
  induction p generalizing n with
  | nil =>
    rw [Node.at?_nil] at h_p
    rw [Option.some.inj h_p]
  | cons i p ih =>
    obtain ⟨k, h_k, h_m⟩ := Node.at?_cons.1 h_p
    exact .head ⟨.embedded k, List.mem_of_getElem? h_k, rfl⟩ (ih h_m)

/-- A node that a graph holds leads only to such. -/
theorem Holds.of_links {ignoreOptional : Bool} {n m : Node} (h : g.Holds n)
    (h_path : Relation.ReflTransGen (Scope.Links ⟨g.nodes, ignoreOptional⟩) n m) : g.Holds m := by
  induction h_path with
  | refl => exact h
  | tail _ h_step ih => exact g.holds_closed ignoreOptional _ _ ih (.inl h_step)

/-- Some registered node leads to a circle exactly when there is one. -/
theorem exists_leadsToCircle_iff {ignoreOptional : Bool} :
    (∃ id n, g.nodes.get? id = some n ∧ Scope.LeadsToCircle ⟨g.nodes, ignoreOptional⟩ n) ↔
      ∃ n, g.Holds n ∧ Relation.TransGen (Scope.Links ⟨g.nodes, ignoreOptional⟩) n n := by
  constructor
  · rintro ⟨id, n, h_get, k, h_path, h_circle⟩
    have h_n : g.Holds n := ⟨id, n, h_get, n.inside_self⟩
    exact ⟨k, h_n.of_links h_path, h_circle⟩
  · rintro ⟨k, ⟨id, n, h_get, h_inside⟩, h_circle⟩
    exact ⟨id, n, h_get, k, links_of_inside h_inside, h_circle⟩

end Graph

end Specimen
