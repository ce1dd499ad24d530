import Specimen.Proofs.Config.Boundary
import Specimen.Proofs.Generator.Passes
import Specimen.Proofs.Node.Keeping

/-!
# The constraints of nodes

Each node of a generator is that of one constraint (`Represents.NodeOf`), and the nodes that it asks
are those of the constraints that its parts stand for. So what nodes answer can be compared with
what the configuration says.

* There is a lemma for each kind that says what the constraint of a node of this kind is
  (`NodeOf.of_constant`, `NodeOf.of_field`, `NodeOf.of_combined`, `NodeOf.of_optional`,
  `NodeOf.of_source`).
* `Represents.Keeps`: what nodes keep is right for their constraints. An answer keeps this up, if
  generating a value does (`Keeps.answer`).
* `NodeOf.answers_of_parts`: if all nodes that are asked answer rightly, a combined node joins the
  answers of its parts.
-/

namespace Specimen

namespace Generator

namespace Represents

variable {g : Generator} {c : Config} {tops : List Node}

/-- The node of a constraint. -/
def NodeOf (_ : g.Represents c tops) (x : Config.Constraint) (n : Node) : Prop :=
  ∃ p above, c.at? p = some x ∧ nodeAt? tops p = some n ∧
    n.Mirrors g.graph.charsets above x

section Nodes

variable (h : g.Represents c tops)
include h

/-- Nodes with the same key are nodes of the same constraint. -/
theorem nodeOf_unique {x x' : Config.Constraint} {n n' : Node} (h_n : h.NodeOf x n)
    (h_n' : h.NodeOf x' n') (h_key : n.key = n'.key) : x = x' := by
  obtain ⟨p, _, h_x, h_p, -⟩ := h_n
  obtain ⟨q, _, h_x', h_q, -⟩ := h_n'
  obtain rfl := nodeAt?_unique h.keys_nodup h_p h_q h_key
  exact Option.some.inj (h_x.symm.trans h_x')

/-- The node that a link leads to is that of the constraint that the part stands for. -/
theorem nodeOf_target {x : Config.Constraint} {n n' : Node} (h_n : h.NodeOf x n) {i : Nat}
    {child : Config.Child} {link : Link} (h_child : x.children[i]? = some child)
    (h_link : n.kind.links[i]? = some link) (h_target : g.scope.target? link = some n') :
    ∃ y, c.Target child y ∧ h.NodeOf y n' := by
  obtain ⟨p, above, h_x, h_p, h_mirrors⟩ := h_n
  obtain ⟨child', h_child', h_part⟩ := h_mirrors.links.part h_link
  obtain rfl := Option.some.inj (h_child.symm.trans h_child')
  cases h_part with
  | @reference _ id =>
    obtain ⟨⟨q, h_q⟩, h_id⟩ := h.get?_iff.1 h_target
    obtain ⟨y, above', h_y, h_mirrors'⟩ := mirrors_of_nodeAt? h.mirrors h_q
    exact ⟨y, .reference h_y (h_mirrors'.id_eq ▸ h_id), q, above', h_y, h_q, h_mirrors'⟩
  | @embedded _ y m h_m =>
    obtain rfl : m = n' := Option.some.inj h_target
    exact ⟨y, .embedded, p ++ [i], _, Config.at?_part h_x h_child, nodeAt?_part h_p h_link, h_m⟩

/-- The node of a root is that of a constraint of the top level with this id. -/
theorem exists_nodeOf_root {id : String} (h_id : id ∈ g.roots) : ∃ n x,
    g.graph.nodes.get? id = some n ∧ h.NodeOf x n ∧ x ∈ c.constraints ∧ x.id = some id := by
  obtain ⟨n, h_n, h_get, h_own⟩ := h.get?_root h_id
  obtain ⟨i, h_i⟩ := List.getElem?_of_mem h_n
  have h_place : nodeAt? tops [i] = some n := nodeAt?_cons.2 ⟨n, h_i, n.at?_nil⟩
  obtain ⟨x, above, h_x, h_mirrors⟩ := mirrors_of_nodeAt? h.mirrors h_place
  refine ⟨n, x, h_get, ⟨[i], above, h_x, h_place, h_mirrors⟩, ?_, h_mirrors.id_eq ▸ h_own⟩
  obtain ⟨y, h_y, h_x'⟩ := Config.at?_cons.1 h_x
  rw [Config.Constraint.at?_nil] at h_x'
  exact Option.some.inj h_x' ▸ List.mem_of_getElem? h_y

/-- Fields that can write all their values do not break off. -/
theorem crashesOnly_of_fieldsRender (h_renders : c.FieldsRender) :
    Scope.CrashesOnly (Member tops) fun _ => False := by
  rintro n f set ⟨p, h_p⟩ h_kind b draws failure h_failure
  obtain ⟨x, above, h_x, h_mirrors⟩ := mirrors_of_nodeAt? h.mirrors h_p
  have h_mirrored := h_mirrors.kind
  rw [h_kind] at h_mirrored
  obtain ⟨spec, h_spec, h_field, -⟩ := h_mirrored.of_field
  obtain ⟨t, h_t⟩ := (h_renders p x spec f h_x h_spec h_field).generate_ok b set draws
  rw [h_t] at h_failure
  cases h_failure

end Nodes

/-! ### The constraint of a node of a kind -/

namespace NodeOf

variable {h : g.Represents c tops} {x : Config.Constraint} {n n' : Node} (h_n : h.NodeOf x n)
include h_n

theorem of_constant {value : String} (h_kind : n.kind = .constant value) :
    x.kind = .constant value := by
  obtain ⟨p, above, -, -, h_mirrors⟩ := h_n
  have h_mirrored := h_mirrors.kind
  rw [h_kind] at h_mirrored
  exact h_mirrored.of_constant

theorem of_field {f : Field} {set : CharacterSet} (h_kind : n.kind = .field f set) :
    ∃ p spec, c.at? p = some x ∧ x.kind = .field spec ∧ Field.ofSpec spec = .ok f := by
  obtain ⟨p, above, h_x, -, h_mirrors⟩ := h_n
  have h_mirrored := h_mirrors.kind
  rw [h_kind] at h_mirrored
  obtain ⟨spec, h_spec, h_field, -⟩ := h_mirrored.of_field
  exact ⟨p, spec, h_x, h_spec, h_field⟩

/-- The links of a combined node lead to the nodes of the parts, and there are parts. -/
theorem of_combined {links : List Link} {separator : String}
    (h_kind : n.kind = .combined links separator) : ∃ parts, x.kind = .combined parts separator ∧
      parts ≠ [] ∧ parts.length = links.length ∧ ∀ (i : Nat) child link n',
        parts[i]? = some child → links[i]? = some link → g.scope.target? link = some n' →
          ∃ y, c.Target child y ∧ h.NodeOf y n' := by
  have h_links : n.kind.links = links := by rw [h_kind]; rfl
  obtain ⟨p, above, h_x, -, h_mirrors⟩ := id h_n
  have h_mirrored := h_mirrors.kind
  rw [h_kind] at h_mirrored
  obtain ⟨parts, h_spec, h_list⟩ := h_mirrored.of_combined
  have h_children : x.children = parts := by rw [Config.Constraint.children, h_spec]; rfl
  refine ⟨parts, h_spec, ?_, h_list.length_eq, fun i child link n' h_child h_link => ?_⟩
  · have h_fit := h.wellFormed.kinds p x h_x
    rw [h_spec] at h_fit
    exact h_fit
  · exact h.nodeOf_target h_n (h_children ▸ h_child) (h_links ▸ h_link)

/-- The only link of an optional node leads to the node of the child. -/
theorem of_optional {link : Link} {rule : Config.Mandatory}
    (h_kind : n.kind = .optional link rule) (h_target : g.scope.target? link = some n') :
    ∃ child y, x.kind = .optional child rule ∧ c.Target child y ∧ h.NodeOf y n' := by
  obtain ⟨p, above, -, -, h_mirrors⟩ := id h_n
  have h_mirrored := h_mirrors.kind
  rw [h_kind] at h_mirrored
  obtain ⟨child, h_spec, -⟩ := h_mirrored.of_optional
  obtain ⟨y, h_y, h_n'⟩ := h.nodeOf_target h_n (i := 0)
    (by rw [Config.Constraint.children, h_spec]; rfl) (by rw [h_kind]; rfl) h_target
  exact ⟨child, y, h_spec, h_y, h_n'⟩

/-- The only link of a source leads to the node of the child. -/
theorem of_source {link : Link} (h_kind : n.kind = .source link)
    (h_target : g.scope.target? link = some n') :
    ∃ child y, x.kind = .source child ∧ c.Target child y ∧ h.NodeOf y n' := by
  obtain ⟨p, above, -, -, h_mirrors⟩ := id h_n
  have h_mirrored := h_mirrors.kind
  rw [h_kind] at h_mirrored
  obtain ⟨child, h_spec, -⟩ := h_mirrored.of_source
  obtain ⟨y, h_y, h_n'⟩ := h.nodeOf_target h_n (i := 0)
    (by rw [Config.Constraint.children, h_spec]; rfl) (by rw [h_kind]; rfl) h_target
  exact ⟨child, y, h_spec, h_y, h_n'⟩

end NodeOf

/-! ### What nodes keep -/

/-- No node is overridden, and what a node keeps is right for its constraint. -/
def Keeps (h : g.Represents c tops) (P : Config.Kind → Option String → Prop) (m : Memory) : Prop :=
  ∀ x n, h.NodeOf x n →
    (m.cell n.key).override = none ∧ ∀ v, (m.cell n.key).cache = some v → P x.kind v

namespace Keeps

variable {h : g.Represents c tops} {P : Config.Kind → Option String → Prop} {m m' : Memory}

/-- At the beginning of a pass no node keeps anything. -/
theorem start (h_free : Unfixed m) : h.Keeps P (passBegun tops m) := by
  rintro x n ⟨p, above, h_x, h_p, h_mirrors⟩
  rw [cell_passBegun ⟨p, h_p⟩]
  exact ⟨h_free n.key, fun v h_v => by cases h_v⟩

theorem keepsSame (h_m : h.Keeps P m) (h_same : m.KeepsSame m') : h.Keeps P m' := by
  intro x n h_n
  rw [h_same.override, h_same.cache]
  exact h_m x n h_n

/-- A node can keep what is right for its constraint. -/
theorem keep (h_m : h.Keeps P m) {x : Config.Constraint} {n : Node} (h_n : h.NodeOf x n)
    {v : Option String} (h_v : P x.kind v) :
    h.Keeps P (m.update n.key (Cell.keep v)) := by
  intro x' n' h_n'
  rw [Memory.cell_update]
  split
  · next h_eq =>
    obtain rfl := h.nodeOf_unique h_n' h_n h_eq
    exact ⟨(h_m x' n h_n).1, fun w h_w => Option.some.inj h_w ▸ h_v⟩
  · exact h_m x' n' h_n'

/-- **One answer.** Let what a node generates be right for the case that it computes, and let it be
so as well for the case that was asked for when it is derived. Then the answer is right, and so is
still all that is kept. -/
theorem answer {R : Asking} {Q : FieldCase → Option String → Prop} {x : Config.Constraint}
    {n : Node} {b : FieldCase} {v : Option String} (h_m : h.Keeps P m) (h_n : h.NodeOf x n)
    (h_generates : ∀ b' m v m', n.kind.isStateless = true ∧ b' = b ∨
      n.kind.isStateless = false ∧ b' = b.computed → g.scope.Generates R n b' m v m' →
        h.Keeps P m → Q b' v ∧ h.Keeps P m')
    (h_kept : ∀ v, P x.kind v → Q b (derive b v))
    (h_computed : ∀ v, Q b.computed v → Q b (derive b v) ∧ P x.kind (derive b v))
    (h_answers : g.scope.Answers R n b m v m') : Q b v ∧ h.Keeps P m' := by
  -- taking and giving back a token makes no difference
  have h_computes : ∀ {b' v m'}, n.kind.isStateless = true ∧ b' = b ∨
      n.kind.isStateless = false ∧ b' = b.computed → g.scope.Computes R n b' m v m' →
        Q b' v ∧ h.Keeps P m' := by
    rintro b' v _ h_b' ⟨-, h_value⟩
    obtain ⟨h_v, h_m'⟩ :=
      h_generates b' _ v _ h_b' h_value (h_m.keepsSame (.begun m n.key n.identity b'))
    exact ⟨h_v, h_m'.keepsSame (.update _ n.key Cell.release fun _ => ⟨rfl, rfl⟩)⟩
  cases h_answers with
  | overridden h_override =>
    rw [(h_m x n h_n).1] at h_override
    cases h_override
  | stateless _ h_kind h_c => exact h_computes (.inl ⟨h_kind, rfl⟩) h_c
  | remembered _ _ h_cache => exact ⟨h_kept _ ((h_m x n h_n).2 _ h_cache), h_m⟩
  | computed _ h_kind _ h_c =>
    obtain ⟨h_v, h_m'⟩ := h_computes (.inr ⟨h_kind, rfl⟩) h_c
    obtain ⟨h_answer, h_keep⟩ := h_computed _ h_v
    exact ⟨h_answer, h_m'.keep h_n h_keep⟩

end Keeps

/-! ### What parts answer -/

section Parts

variable {h : g.Represents c tops} {R : Asking} {I : Memory → Prop}
  {P : Config.Kind → String → Prop} {b : FieldCase} {m m' : Memory} {links : List Link}
  {values : List String}
  (h_ask : ∀ y n m v m', h.NodeOf y n → R n b m v m' → I m →
    (∃ t, v = some t ∧ P y.kind t) ∧ I m')
include h_ask

/-- Parts that stand for constraints answer with texts that are right for these. -/
theorem answers_of_links (h_parts : g.scope.Parts R b links m values m')
    (children : List Config.Child) (h_length : children.length = links.length)
    (h_targets : ∀ (i : Nat) child link n', children[i]? = some child → links[i]? = some link →
      g.scope.target? link = some n' → ∃ y, c.Target child y ∧ h.NodeOf y n') (h_m : I m) :
    (∃ ys, List.Forall₂ c.Target children ys ∧ ys.length = values.length ∧
      ∀ (i : Nat) y t, ys[i]? = some y → values[i]? = some t → P y.kind t) ∧ I m' := by
  induction h_parts generalizing children with
  | nil =>
    obtain rfl : children = [] := List.length_eq_zero_iff.1 h_length
    exact ⟨⟨[], .nil, rfl, by simp⟩, h_m⟩
  | @cons link links n' m₀ v m₁ values m₂ h_target h_part _ ih =>
    match children with
    | child :: children =>
      -- the first answer is that of the first part, the others are by induction
      obtain ⟨y, h_y, h_n'⟩ := h_targets 0 child link n' rfl rfl h_target
      obtain ⟨⟨t, rfl, h_t⟩, h_m₁⟩ := h_ask y n' m₀ v m₁ h_n' h_part h_m
      obtain ⟨⟨ys, h_ys, h_count, h_texts⟩, h_m₂⟩ := ih children (Nat.succ.inj h_length)
        (fun i child' link' n'' h_child' h_link' =>
          h_targets (i + 1) child' link' n'' h_child' h_link') h_m₁
      refine ⟨⟨y :: ys, .cons h_y h_ys, by simp [h_count], ?_⟩, h_m₂⟩
      rintro (_ | i) y' t' h_y' h_t'
      · obtain rfl : y = y' := by simpa using h_y'
        obtain rfl : t = t' := by simpa using h_t'
        exact h_t
      · exact h_texts i y' t' (by simpa using h_y') (by simpa using h_t')

/-- **Combined nodes** join what their parts answer, and none of it is left out. -/
theorem NodeOf.answers_of_parts {x : Config.Constraint} {n : Node} {separator : String}
    (h_n : h.NodeOf x n) (h_kind : n.kind = .combined links separator)
    (h_parts : g.scope.Parts R b links m values m') (h_m : I m) :
    ∃ parts ys, x.kind = .combined parts separator ∧ List.Forall₂ c.Target parts ys ∧
      ys.length = values.length ∧
      (∀ (i : Nat) y t, ys[i]? = some y → values[i]? = some t → P y.kind t) ∧
      Scope.joined separator values = some (separator.intercalate values) ∧ I m' := by
  obtain ⟨parts, h_spec, h_nonempty, h_length, h_targets⟩ := h_n.of_combined h_kind
  obtain ⟨⟨ys, h_ys, h_count, h_texts⟩, h_m'⟩ :=
    answers_of_links h_ask h_parts parts h_length h_targets h_m
  -- a combined constraint has parts, and each of them has answered with a text
  have h_values : values ≠ [] := by
    rintro rfl
    rw [List.length_eq_zero_iff.1 h_count] at h_ys
    cases h_ys
    exact h_nonempty rfl
  refine ⟨parts, ys, h_spec, h_ys, h_count, h_texts, ?_, h_m'⟩
  rw [Scope.joined, if_neg (by simpa using h_values)]

end Parts

end Represents

end Generator

end Specimen
