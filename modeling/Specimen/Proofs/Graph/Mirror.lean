import Specimen.Graph
import Specimen.Proofs.Config.Place
import Specimen.Proofs.Node.Place

/-!
# Nodes that mirror constraints

The node that is built from a constraint has its shape: every part becomes a link of the same kind
at the same position, fields and character sets take the place of their declarations, and the
identities follow the nesting. `Node.Mirrors` says so, and the lemmas on places carry it on to
whatever is embedded: the node at a place mirrors the constraint at the same place.
-/

namespace Specimen

mutual

/-- A node was built from a constraint below another identity. -/
inductive Node.Mirrors (sets : CharacterSets) :
    Option Identity → Config.Constraint → Node → Prop where
  | intro {above id charset kind key k}
    (h : NodeKind.Mirrors sets (Graph.identityOf above id charset) kind k) :
    Node.Mirrors sets above (.mk id charset kind) (.mk key (Graph.identityOf above id charset) k)

/-- What generates the values of a node was built for a constraint. -/
inductive NodeKind.Mirrors (sets : CharacterSets) :
    Identity → Config.Kind → NodeKind → Prop where
  | constant {i value} : NodeKind.Mirrors sets i (.constant value) (.constant value)
  | field {i spec f set} (h_field : Field.ofSpec spec = .ok f)
    (h_set : sets.find (i.charset.getD CharacterSets.standardId) = .ok set) :
    NodeKind.Mirrors sets i (.field spec) (.field f set)
  | combined {i parts links separator} (h : Link.ListMirrors sets i parts links) :
    NodeKind.Mirrors sets i (.combined parts separator) (.combined links separator)
  | optional {i child link rule} (h : Link.Mirrors sets i child link) :
    NodeKind.Mirrors sets i (.optional child rule) (.optional link rule)
  | source {i child link} (h : Link.Mirrors sets i child link) :
    NodeKind.Mirrors sets i (.source child) (.source link)

/-- A link was built for a part. -/
inductive Link.Mirrors (sets : CharacterSets) : Identity → Config.Child → Link → Prop where
  | reference {i id} : Link.Mirrors sets i (.reference id) (.reference id)
  | embedded {i x n} (h : Node.Mirrors sets (some i) x n) :
    Link.Mirrors sets i (.embedded x) (.embedded n)

/-- Links were built for parts. -/
inductive Link.ListMirrors (sets : CharacterSets) :
    Identity → List Config.Child → List Link → Prop where
  | nil {i} : Link.ListMirrors sets i [] []
  | cons {i c cs l ls} (h : Link.Mirrors sets i c l) (h_rest : Link.ListMirrors sets i cs ls) :
    Link.ListMirrors sets i (c :: cs) (l :: ls)

end

variable {sets : CharacterSets} {i : Identity}

theorem Link.ListMirrors.singleton {c : Config.Child} {l : Link} (h : Link.Mirrors sets i c l) :
    Link.ListMirrors sets i [c] [l] := .cons h .nil

/-- A part and the link at its position. -/
theorem Link.ListMirrors.link {cs : List Config.Child} {ls : List Link}
    (h : Link.ListMirrors sets i cs ls) {j : Nat} {c : Config.Child} (h_c : cs[j]? = some c) :
    ∃ l, ls[j]? = some l ∧ Link.Mirrors sets i c l := by
  induction cs generalizing ls j with
  | nil => simp at h_c
  | cons d cs ih =>
    cases h with
    | cons h_link h_rest =>
      match j with
      | 0 =>
        obtain rfl : d = c := by simpa using h_c
        exact ⟨_, rfl, h_link⟩
      | j + 1 => exact ih h_rest h_c

theorem Link.ListMirrors.part {cs : List Config.Child} {ls : List Link}
    (h : Link.ListMirrors sets i cs ls) {j : Nat} {l : Link} (h_l : ls[j]? = some l) :
    ∃ c, cs[j]? = some c ∧ Link.Mirrors sets i c l := by
  induction cs generalizing ls j with
  | nil => cases h; simp at h_l
  | cons d cs ih =>
    cases h with
    | @cons _ _ _ l' ls' h_link h_rest =>
      match j with
      | 0 =>
        obtain rfl : l' = l := by simpa using h_l
        exact ⟨d, rfl, h_link⟩
      | j + 1 => exact ih h_rest h_l

theorem Link.ListMirrors.length_eq {cs : List Config.Child} {ls : List Link}
    (h : Link.ListMirrors sets i cs ls) : cs.length = ls.length := by
  induction cs generalizing ls with
  | nil => cases h; rfl
  | cons c cs ih =>
    cases h with
    | cons _ h_rest => rw [List.length_cons, List.length_cons, ih h_rest]

/-! ### The kind of a constraint from that of its node -/

namespace NodeKind.Mirrors

variable {k : Config.Kind}

theorem of_constant {value : String} (h : NodeKind.Mirrors sets i k (.constant value)) :
    k = .constant value := by
  cases h; rfl

theorem of_field {f : Field} {set : CharacterSet} (h : NodeKind.Mirrors sets i k (.field f set)) :
    ∃ spec, k = .field spec ∧ Field.ofSpec spec = .ok f ∧
      sets.find (i.charset.getD CharacterSets.standardId) = .ok set := by
  cases h with
  | field h_field h_set => exact ⟨_, rfl, h_field, h_set⟩

theorem of_combined {links : List Link} {separator : String}
    (h : NodeKind.Mirrors sets i k (.combined links separator)) :
    ∃ parts, k = .combined parts separator ∧ Link.ListMirrors sets i parts links := by
  cases h with
  | combined h => exact ⟨_, rfl, h⟩

theorem of_optional {link : Link} {rule : Config.Mandatory}
    (h : NodeKind.Mirrors sets i k (.optional link rule)) :
    ∃ child, k = .optional child rule ∧ Link.Mirrors sets i child link := by
  cases h with
  | optional h => exact ⟨_, rfl, h⟩

theorem of_source {link : Link} (h : NodeKind.Mirrors sets i k (.source link)) :
    ∃ child, k = .source child ∧ Link.Mirrors sets i child link := by
  cases h with
  | source h => exact ⟨_, rfl, h⟩

end NodeKind.Mirrors

namespace Node.Mirrors

variable {above : Option Identity} {x : Config.Constraint} {n : Node}

theorem identity_eq (h : n.Mirrors sets above x) :
    n.identity = Graph.identityOf above x.id x.charset := by
  cases h; rfl

theorem id_eq (h : n.Mirrors sets above x) : n.id = x.id := by
  rw [Node.id, h.identity_eq]
  cases above <;> rfl

theorem kind (h : n.Mirrors sets above x) : NodeKind.Mirrors sets n.identity x.kind n.kind := by
  cases h with
  | intro h => exact h

theorem links (h : n.Mirrors sets above x) :
    Link.ListMirrors sets n.identity x.children n.kind.links := by
  have h_kind := h.kind
  rw [Config.Constraint.children]
  revert h_kind
  generalize x.kind = k, n.kind = k', n.identity = i
  rintro (_ | _ | h | h | h)
  · exact .nil
  · exact .nil
  · exact h
  · exact .singleton h
  · exact .singleton h

theorem ruleId?_eq (h : n.Mirrors sets above x) : n.kind.ruleId? = x.kind.ruleId? := by
  have h_kind := h.kind
  revert h_kind
  generalize x.kind = k, n.kind = k', n.identity = i
  rintro (_ | _ | _ | @⟨_, _, _, rule, _⟩ | _)
  · rfl
  · rfl
  · rfl
  · cases rule <;> rfl
  · rfl

/-- The node at a place mirrors the constraint there. -/
theorem at? (h : n.Mirrors sets above x) {p : Place} {y : Config.Constraint}
    (h_y : x.at? p = some y) : ∃ m above', n.at? p = some m ∧ m.Mirrors sets above' y := by
  induction p generalizing n x above with
  | nil =>
    rw [Config.Constraint.at?_nil] at h_y
    exact ⟨n, above, n.at?_nil, Option.some.inj h_y ▸ h⟩
  | cons j p ih =>
    obtain ⟨z, h_z, h_y⟩ := Config.Constraint.at?_cons.1 h_y
    obtain ⟨l, h_l, h_link⟩ := h.links.link h_z
    cases h_link with
    | @embedded _ _ k h_k =>
      obtain ⟨m, above', h_m, h_mirrors⟩ := ih h_k h_y
      exact ⟨m, above', Node.at?_cons.2 ⟨k, h_l, h_m⟩, h_mirrors⟩

/-- The constraint at the place of a node is mirrored by it. -/
theorem of_at? (h : n.Mirrors sets above x) {p : Place} {m : Node} (h_m : n.at? p = some m) :
    ∃ y above', x.at? p = some y ∧ m.Mirrors sets above' y := by
  induction p generalizing n x above with
  | nil =>
    rw [Node.at?_nil] at h_m
    exact ⟨x, above, x.at?_nil, Option.some.inj h_m ▸ h⟩
  | cons j p ih =>
    obtain ⟨k, h_k, h_m⟩ := Node.at?_cons.1 h_m
    obtain ⟨c, h_c, h_link⟩ := h.links.part h_k
    cases h_link with
    | @embedded _ z _ h_z =>
      obtain ⟨y, above', h_y, h_mirrors⟩ := ih h_z h_m
      exact ⟨y, above', Config.Constraint.at?_cons.2 ⟨z, h_c, h_y⟩, h_mirrors⟩

end Node.Mirrors

/-! ### Lists of nodes -/

/-- Nodes have the ids of the constraints that they mirror. -/
theorem map_id_of_mirrors {above : Option Identity} {xs : List Config.Constraint} {ns : List Node}
    (h : List.Forall₂ (Node.Mirrors sets above) xs ns) :
    xs.map Config.Constraint.id = ns.map Node.id := by
  induction h with
  | nil => rfl
  | cons h_head _ ih => rw [List.map_cons, List.map_cons, ih, h_head.id_eq]

/-- The node at a place of a list mirrors the constraint at the place of the configuration. -/
theorem mirrors_nodeAt? {c : Config} {ns : List Node}
    (h : List.Forall₂ (Node.Mirrors sets none) c.constraints ns) {p : Place}
    {x : Config.Constraint} (h_x : c.at? p = some x) :
    ∃ n above, nodeAt? ns p = some n ∧ n.Mirrors sets above x := by
  match p with
  | i :: p =>
    obtain ⟨y, h_y, h_x⟩ := Config.at?_cons.1 h_x
    obtain ⟨h_i, rfl⟩ := List.getElem?_eq_some_iff.1 h_y
    have h_top := h.get h_i (h.length_eq ▸ h_i)
    obtain ⟨m, above, h_m, h_mirrors⟩ := Node.Mirrors.at? h_top h_x
    exact ⟨m, above, nodeAt?_cons.2 ⟨_, List.getElem?_eq_getElem (h.length_eq ▸ h_i), h_m⟩,
      h_mirrors⟩

theorem mirrors_of_nodeAt? {c : Config} {ns : List Node}
    (h : List.Forall₂ (Node.Mirrors sets none) c.constraints ns) {p : Place}
    {n : Node} (h_n : nodeAt? ns p = some n) :
    ∃ x above, c.at? p = some x ∧ n.Mirrors sets above x := by
  match p with
  | i :: p =>
    obtain ⟨m, h_m, h_n⟩ := nodeAt?_cons.1 h_n
    obtain ⟨h_i, rfl⟩ := List.getElem?_eq_some_iff.1 h_m
    have h_top := h.get (h.length_eq ▸ h_i) h_i
    obtain ⟨y, above, h_y, h_mirrors⟩ := Node.Mirrors.of_at? h_top h_n
    exact ⟨y, above, Config.at?_cons.2 ⟨_, List.getElem?_eq_getElem (h.length_eq ▸ h_i), h_y⟩,
      h_mirrors⟩

end Specimen
