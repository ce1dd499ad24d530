import Mathlib.Data.List.ReduceOption
import Specimen.Proofs.Generator.Boundary
import Specimen.Proofs.Generator.Midway
import Specimen.Proofs.Node.Upholding

/-!
# Data sets that agree with themselves

A value can be asked for in many ways in one pass: by the root itself, by a source or a combination
that refers to it, and by a rule. Whoever comes first, the data set holds the same
(`Generator.generate_consistent`): a source of another root holds what this root holds, and a
combination of roots holds what these hold, joined.

What the data set holds are the fixed answers of the roots, and combined nodes to which no link
leads keep what their parts have answered, joined (`Represents.composes_upheld`). It does not matter
who asks such a node first, nor whether its parts have been asked before. As no link leads to it, it
is only ever asked for the case of the pass: requests for null, the only ones for another case that
arise in a pass for texts, are passed on along links. So it is enough that its one evaluation
composes the value (`Scope.composed_upheldBy`).
-/

namespace Specimen

/-! ### What combined nodes keep -/

namespace Scope

open Evaluation

variable {s : Scope} {k : Node} {c : FieldCase} {m m' : Memory} {parts : List Link}
  {separator : String}

/-- The answers of the nodes that links lead to are fixed. -/
def FixedLinks (s : Scope) (c : FieldCase) (m : Memory) (links : List Link)
    (vs : List (Option String)) : Prop :=
  List.Forall₂ (fun link v => ∃ n hops, s.target? link = some n ∧ s.Fixed m hops n c v) links vs

theorem FixedLinks.persists {vs : List (Option String)} (h : s.FixedLinks c m parts vs)
    (h_persists : m.Persists m') : s.FixedLinks c m' parts vs :=
  h.imp fun _ _ ⟨n, hops, h_target, h_fixed⟩ => ⟨n, hops, h_target, h_fixed.persists h_persists⟩

/-- If the node keeps a value, it is that of the fixed answers of its parts to the case, joined. -/
def Composed (s : Scope) (k : Node) (parts : List Link) (separator : String) (c : FieldCase)
    (m : Memory) : Prop :=
  ∀ w, (m.cell k.key).cache = some w →
    ∃ vs, s.FixedLinks c m parts vs ∧ w = joined separator (vs.reduceOption)

/-- This concerns what the node keeps. -/
theorem composed_concerns {Own : Node → Prop} :
    Memory.Concerns (fun n => n = k ∨ Own n) (s.Composed k parts separator c) := by
  intro m m' h_persists h_cache h w h_w
  obtain ⟨vs, h_vs, rfl⟩ := h w (h_cache k (.inl rfl) ▸ h_w)
  exact ⟨vs, h_vs.persists h_persists, rfl⟩

/-- The parts of a node answer one after the other, and all answers are fixed in the end. -/
theorem Parts.exists_fixed {R : Asking} {I : Memory → Prop} {links : List Link}
    {values : List String} (h : s.Parts R c links m values m')
    (h_ask : ∀ link ∈ links, ∀ n m v m', s.target? link = some n → R n c m v m' → I m →
      I m' ∧ m.Persists m' ∧ ∃ hops, s.Fixed m' hops n c v) (h_m : I m) :
    m.Persists m' ∧ ∃ vs, s.FixedLinks c m' links vs ∧ values = vs.reduceOption := by
  induction h with
  | nil => exact ⟨.refl _, [], .nil, rfl⟩
  | @cons link links n m v m' values m'' h_target h_part _ ih =>
    obtain ⟨h_first, h_rest⟩ := List.forall_mem_cons.1 h_ask
    obtain ⟨h_m', h_persists, hops, h_fixed⟩ := h_first n m v m' h_target h_part h_m
    obtain ⟨h_persists', vs, h_vs, rfl⟩ := ih h_rest h_m'
    refine ⟨h_persists.trans h_persists', v :: vs, .cons ?_ h_vs, ?_⟩
    · exact ⟨n, hops, h_target, h_fixed.persists h_persists'⟩
    · cases v <;> rfl

section Pass

variable {Member : Node → Prop} (h_c : c ≠ .null ∧ c ≠ .blank)
  (h_kind : k.kind = .combined parts separator)
  (h_secluded : s.Secluded Member k fun _ => False)
include h_c h_kind h_secluded

/-- **The evaluation.** The combined node joins what its parts have answered, and keeps it. -/
theorem composed_upheldBy (h_closed : s.Closed Member) :
    s.UpheldBy Member k (fun _ => False) c (s.Composed k parts separator c) := by
  intro fuel st token m m' v h_ask h_m h_generates
  obtain ⟨h_stack, -⟩ := h_m.stack.generates h_generates
  have h_persists := Memory.Persists.kept h_stack.mustCompute c v
  cases h_generates with
  | combined h_combined h_answered =>
    cases h_kind.symm.trans h_combined
    obtain ⟨-, vs, h_vs, rfl⟩ := h_answered.exists_fixed
      (I := Holds (s.Composed k parts separator c) (⟨k, c, token, .begun⟩ :: st))
      (fun link h_link n m v m' h_target h_value h => by
        have h_asks : s.Asks k c n c := .link (h_kind ▸ h_link) h_target
        have h_asked := h_asks.askedIn (h_secluded.unlinked k h_secluded.member) (.inl rfl)
        have h_n := h_closed k n h_secluded.member h_asks.calls
        exact ⟨h_ask h_n not_false h_asked h h_value, (h.stack.value h_value).2,
          h.stack.fixed h.constant h_value⟩) h_m
    -- What is kept is the value just joined.
    intro w h_w
    rw [Memory.cell_kept_self.2, if_neg (by simp [h_secluded.stateful])] at h_w
    refine ⟨vs, h_vs.persists h_persists, (Option.some.inj h_w).symm.trans ?_⟩
    cases c with
    | null => exact absurd rfl h_c.1
    | blank => exact absurd rfl h_c.2
    | _ => rfl
  | constantNull h | constantBlank h | constant h | field h | optionalNull h
  | optionalExplicit h | optionalDecided h | source h =>
    cases h_kind.symm.trans h

end Pass

end Scope

/-! ### Values that agree -/

namespace Config

/-- An id is that of a constraint of the top level. -/
def IsRoot (c : Config) (id : String) : Prop := ∃ x ∈ c.constraints, x.id = some id

/-- The values of a pass for a case agree with each other. A source of another root has the value
that this root has. In a pass for texts a combination of roots, to which there is no reference, has
their values joined, without those that are null, and is null if all of them are. -/
structure Consistent (c : Config) (case : FieldCase) (values : Dict (Option String)) : Prop where
  source : ∀ x ∈ c.constraints, ∀ id target, x.id = some id →
    x.kind = .source (.reference target) → c.IsRoot target →
      ∃ v, values.get? id = some v ∧ values.get? target = some v
  combined : case ∈ [FieldCase.normal, .min, .avg, .max] → ∀ x ∈ c.constraints,
    ∀ id targets separator, x.id = some id →
      x.kind = .combined (targets.map Child.reference) separator →
        (∀ target ∈ targets, c.IsRoot target) →
          (∀ p y, c.at? p = some y → .reference id ∉ y.children) →
            ∃ vs, List.Forall₂ (fun target v => values.get? target = some v) targets vs ∧
              values.get? id = some (Scope.joined separator vs.reduceOption) ∧
                (values.get? id = some none ↔ ∀ v ∈ vs, v = none)

end Config

/-- There is nothing to join exactly when all values are null. -/
theorem Scope.joined_eq_none_iff {separator : String} {vs : List (Option String)} :
    Scope.joined separator vs.reduceOption = none ↔ ∀ v ∈ vs, v = none := by
  rw [Scope.joined]
  simp [List.reduceOption_eq_nil_iff, List.eq_replicate_iff]

/-- Links for references are references. -/
theorem Link.ListMirrors.of_references {sets : CharacterSets} {i : Identity} {ids : List String}
    {links : List Link} (h : Link.ListMirrors sets i (ids.map .reference) links) :
    links = ids.map .reference := by
  induction ids generalizing links with
  | nil => cases h; rfl
  | cons id ids ih =>
    cases h with
    | cons h_link h_rest =>
      cases h_link
      rw [ih h_rest, List.map_cons]

namespace Generator

namespace Represents

variable {g : Generator} {c : Config} {tops : List Node} {case : FieldCase} {m m' : Memory}

/-- A combined node to which no link leads. -/
structure Unshared (g : Generator) (tops : List Node) (k : Node) (parts : List Link)
    (separator : String) : Prop where
  member : Member tops k
  kind : k.kind = .combined parts separator
  unlinked : ∀ n, Member tops n → ∀ link ∈ n.kind.links, g.scope.target? link ≠ some k

/-- In a pass for texts combined nodes to which no link leads keep the fixed answers of their parts,
joined. -/
def Composes (g : Generator) (tops : List Node) (case : FieldCase) (m : Memory) : Prop :=
  case ≠ .null ∧ case ≠ .blank → ∀ k parts separator, Unshared g tops k parts separator →
    g.scope.Composed k parts separator case m

variable (h : g.Represents c tops)
include h

omit h in
theorem Unshared.secluded {k : Node} {parts : List Link} {separator : String}
    (h_k : Unshared g tops k parts separator) :
    g.scope.Secluded (Member tops) k fun _ => False where
  member := h_k.member
  stateful := by rw [h_k.kind]; rfl
  unlinked := h_k.unlinked
  own_member _ h_own := h_own.elim
  caller _ _ _ _ h_own := h_own.elim

/-- The roots uphold this. -/
theorem composes_upheld : RootsUphold g tops case (Composes g tops case) := by
  intro n h_top m m' v h_m h_value h_case k parts separator h_k
  have h_upheld : g.scope.UpheldBy (Member tops) k (fun _ => False) case
      (g.scope.Composed k parts separator case) :=
    Scope.composed_upheldBy h_case h_k.kind h_k.secluded fun _ _ => h.member_of_calls
  exact h.rootsUphold h_k.secluded Scope.composed_concerns h_case.2 h_upheld (fun _ _ => not_false)
    n h_top m m' v ⟨h_m.stack, h_m.constant, h_m.fact h_case k parts separator h_k⟩ h_value

omit h in
/-- At the beginning of a pass no node keeps anything. -/
theorem composes_passBegun : Composes g tops case (passBegun tops m) := by
  intro _ k parts separator h_k w h_w
  rw [cell_passBegun h_k.member] at h_w
  cases h_w

/-! ### Roots of a kind -/

/-- The node of a source among the roots. -/
theorem kind_of_source {x : Config.Constraint} (h_x : x ∈ c.constraints) {id target : String}
    (h_id : x.id = some id) (h_kind : x.kind = .source (.reference target)) :
    ∃ n, g.graph.nodes.get? id = some n ∧ n.kind = .source (.reference target) := by
  obtain ⟨n, -, -, h_get, h_mirrors⟩ := h.exists_get?_top h_x h_id
  refine ⟨n, h_get, ?_⟩
  rw [h_kind] at h_mirrors
  generalize n.kind = kind at h_mirrors
  cases h_mirrors with
  | source h_link =>
    cases h_link
    rfl

/-- If nothing refers to a combination of roots, no link leads to its node. -/
theorem unshared_of_top {x : Config.Constraint} (h_x : x ∈ c.constraints) {id : String}
    {targets : List String} {separator : String} (h_id : x.id = some id)
    (h_kind : x.kind = .combined (targets.map Config.Child.reference) separator)
    (h_unnamed : ∀ p y, c.at? p = some y → .reference id ∉ y.children) :
    ∃ n, g.graph.nodes.get? id = some n ∧
      Unshared g tops n (targets.map .reference) separator := by
  obtain ⟨n, i, h_place, h_get, h_mirrors⟩ := h.exists_get?_top h_x h_id
  refine ⟨n, h_get, ⟨[i], h_place⟩, ?_, h.unlinked_of_top h_place h_get h_unnamed⟩
  rw [h_kind] at h_mirrors
  generalize n.kind = kind at h_mirrors
  cases h_mirrors with
  | combined h_links => rw [h_links.of_references]

/-! ### What the data set holds -/

section Pass

variable {d : DataSet} {number : Nat} (h_m : Midway (Composes g tops case) m)
  (h_d : Fixes g case number d m) (h_all : ∀ id ∈ g.roots, ∃ v, d.values.get? id = some v)
  (h_indexed : g.Unindexed)
include h_m h_d h_all h_indexed

omit h h_m in
/-- The data set holds the fixed answer of a root that is not indexed. -/
theorem get?_of_fixed_root {id : String} (h_id : id ∈ g.roots) {n : Node}
    (h_get : g.graph.nodes.get? id = some n) {hops : Nat} {v : Option String}
    (h_fixed : g.scope.Fixed m hops n case v) : d.values.get? id = some v := by
  have h_stored := get?_of_fixed h_d h_all h_id h_get h_fixed
  rwa [stored_of_not_indexed (h_indexed id h_id)] at h_stored

omit h h_m in
/-- The same for the answers of some roots. -/
theorem get?_of_fixedLinks {targets : List String} (h_targets : ∀ id ∈ targets, id ∈ g.roots)
    {vs : List (Option String)}
    (h_vs : g.scope.FixedLinks case m (targets.map .reference) vs) :
    List.Forall₂ (fun target v => d.values.get? target = some v) targets vs := by
  induction targets generalizing vs with
  | nil => cases h_vs; exact .nil
  | cons target targets ih =>
    obtain ⟨h_root, h_roots⟩ := List.forall_mem_cons.1 h_targets
    cases h_vs with
    | cons h_first h_rest =>
      obtain ⟨n, hops, h_get, h_fixed⟩ := h_first
      exact .cons (get?_of_fixed_root h_d h_all h_indexed h_root h_get h_fixed) (ih h_roots h_rest)

/-- A source among the roots has the value of the root that it refers to. -/
theorem get?_source {x : Config.Constraint} (h_x : x ∈ c.constraints) {id target : String}
    (h_id : x.id = some id) (h_kind : x.kind = .source (.reference target))
    (h_target : target ∈ g.roots) :
    ∃ v, d.values.get? id = some v ∧ d.values.get? target = some v := by
  have h_root := h.mem_roots_iff.2 ⟨x, h_x, h_id⟩
  obtain ⟨v, h_v⟩ := h_all id h_root
  obtain ⟨n, hops, w, h_get, h_fixed, rfl⟩ := h_d id v h_v
  obtain ⟨n', h_get', h_node⟩ := h.kind_of_source h_x h_id h_kind
  obtain rfl := Option.some.inj (h_get.symm.trans h_get')
  refine ⟨w, get?_of_fixed_root h_d h_all h_indexed h_root h_get h_fixed, ?_⟩
  cases h_fixed with
  | overridden h_some _ => cases (h_m.free n.key).symm.trans h_some
  | kept _ h_stateful _ => rw [h_node] at h_stateful; cases h_stateful
  | constant _ h_constant => cases h_node.symm.trans h_constant
  | source _ h_source h_link h_child =>
    cases h_node.symm.trans h_source
    exact get?_of_fixed_root h_d h_all h_indexed h_target h_link h_child

/-- A combination of roots has their values, joined. -/
theorem get?_combined (h_case : case ≠ .null ∧ case ≠ .blank) {x : Config.Constraint}
    (h_x : x ∈ c.constraints) {id : String} {targets : List String} {separator : String}
    (h_id : x.id = some id)
    (h_kind : x.kind = .combined (targets.map Config.Child.reference) separator)
    (h_targets : ∀ target ∈ targets, target ∈ g.roots)
    (h_unnamed : ∀ p y, c.at? p = some y → .reference id ∉ y.children) :
    ∃ vs, List.Forall₂ (fun target v => d.values.get? target = some v) targets vs ∧
      d.values.get? id = some (Scope.joined separator vs.reduceOption) := by
  have h_root := h.mem_roots_iff.2 ⟨x, h_x, h_id⟩
  obtain ⟨v, h_v⟩ := h_all id h_root
  obtain ⟨n, hops, w, h_get, h_fixed, rfl⟩ := h_d id v h_v
  obtain ⟨n', h_get', h_unshared⟩ := h.unshared_of_top h_x h_id h_kind h_unnamed
  obtain rfl := Option.some.inj (h_get.symm.trans h_get')
  have h_value := get?_of_fixed_root h_d h_all h_indexed h_root h_get h_fixed
  -- Nothing is overridden and the node is combined, so its value is the one that it keeps.
  cases h_fixed with
  | overridden h_some _ => cases (h_m.free n.key).symm.trans h_some
  | constant _ h_constant => cases h_unshared.kind.symm.trans h_constant
  | source _ h_source _ _ => cases h_unshared.kind.symm.trans h_source
  | kept _ _ h_cache =>
    obtain ⟨vs, h_vs, rfl⟩ := h_m.fact h_case n _ _ h_unshared _ h_cache
    refine ⟨vs, get?_of_fixedLinks h_d h_all h_indexed h_targets h_vs, ?_⟩
    rw [h_value]
    cases case with
    | null => exact absurd rfl h_case.1
    | blank => exact absurd rfl h_case.2
    | _ => rfl

end Pass

end Represents

/-- **Consistency.** Whatever was asked before, and whatever is drawn: if no root is indexed and no
node is overridden, the data set of a pass agrees with itself. -/
theorem generate_consistent {c : Config} {o : GeneratorOptions} {random : UInt64} {g : Generator}
    (h : ofConfig c o random = .ok g) (h_indexed : g.Unindexed) {m m' : Memory}
    (h_m : g.Reachable m) (h_free : Unfixed m) {case : FieldCase} {d : DataSet}
    (h_pass : g.generate case m = (.ok d, m')) : c.Consistent case d.values := by
  obtain ⟨⟨tops, h_of⟩, -⟩ := ofConfig_represents h
  obtain ⟨⟨last, h_last, h_d⟩, h_all⟩ := h_of.generate_midway h_of.composes_upheld
    Represents.composes_passBegun h_m h_free h_pass
  refine ⟨fun x h_x id target h_id h_kind h_target => ?_,
    fun h_case x h_x id targets separator h_id h_kind h_targets h_unnamed => ?_⟩
  · exact h_of.get?_source h_last h_d h_all h_indexed h_x h_id h_kind
      (h_of.mem_roots_iff.2 h_target)
  · have h_case' : case ≠ .null ∧ case ≠ .blank := by
      constructor <;> rintro rfl <;> simp at h_case
    obtain ⟨vs, h_vs, h_value⟩ := h_of.get?_combined h_last h_d h_all h_indexed h_case' h_x h_id
      h_kind (fun target h_target => h_of.mem_roots_iff.2 (h_targets target h_target)) h_unnamed
    refine ⟨vs, h_vs, h_value, ?_⟩
    rw [h_value, Option.some_inj, Scope.joined_eq_none_iff]

/-- A label that shows a number twice, once by way of a source, and before both are asked. -/
def labelledNumber : Config :=
  ⟨Config.supportedVersion, none, .empty, [
    .mk (some "label") none (.combined [.reference "copy", .reference "number"] "-"),
    .mk (some "number") none (.field (.number 0 2)),
    .mk (some "copy") none (.source (.reference "number"))]⟩

/-- Nothing refers to the label, and nothing embeds anything. -/
theorem children_labelledNumber : ∀ x ∈ labelledNumber.constraints,
    .reference "label" ∉ x.children ∧ ∀ y, .embedded y ∉ x.children := by
  simp [labelledNumber, Config.Constraint.children, Config.Constraint.kind, Config.Kind.children]

theorem label_not_referenced {p : Place} {x : Config.Constraint}
    (h : labelledNumber.at? p = some x) : .reference "label" ∉ x.children := by
  match p with
  | i :: p =>
    obtain ⟨y, h_y, h_x⟩ := Config.at?_cons.1 h
    obtain ⟨h_own, h_flat⟩ := children_labelledNumber y (List.mem_of_getElem? h_y)
    exact Config.Constraint.forall_at?_of_parts (P := fun x => .reference "label" ∉ x.children)
      h_own (fun z h_z => absurd h_z (h_flat z)) p x h_x

theorem exists_generate_labelledNumber : ∃ g d m', ofConfig labelledNumber {} 0 = .ok g ∧
    g.generate .normal (g.freshMemory.withDraws default) = (.ok d, m') ∧
    d.values.get? "label" = some (some "0-0") := by
  have h_run : (ofConfig labelledNumber {} 0).toOption.map (fun g =>
      (g.generate .normal (g.freshMemory.withDraws default)).1.toOption.map
        (·.values.get? "label")) = some (some (some (some "0-0"))) := by decide +kernel
  obtain ⟨g, h_ok, h_g⟩ := exists_ok_of_map h_run
  rcases h_pass : g.generate .normal (g.freshMemory.withDraws default) with ⟨f | d, m'⟩
  · rw [h_pass] at h_g
    cases h_g
  · rw [h_pass] at h_g
    exact ⟨g, d, m', h_ok, h_pass, Option.some.inj h_g⟩

/-- The number and its copy are the same, and the label shows both. -/
theorem generate_consistent_labelledNumber : ∃ g d m', ofConfig labelledNumber {} 0 = .ok g ∧
    g.Unindexed ∧ g.Reachable (g.freshMemory.withDraws default) ∧
    Unfixed (g.freshMemory.withDraws default) ∧
    g.generate .normal (g.freshMemory.withDraws default) = (.ok d, m') ∧
    d.values.get? "label" = some (some "0-0") ∧
    (∃ v, d.values.get? "copy" = some v ∧ d.values.get? "number" = some v) ∧
    ∃ vs, List.Forall₂ (fun target v => d.values.get? target = some v) ["copy", "number"] vs ∧
      d.values.get? "label" = some (Scope.joined "-" vs.reduceOption) := by
  obtain ⟨g, d, m', h_ok, h_pass, h_label⟩ := exists_generate_labelledNumber
  have h_indexed : g.Unindexed := unindexed_of_ofConfig h_ok rfl
  have h_free : Unfixed (g.freshMemory.withDraws default) := fun _ => rfl
  have h_consistent := generate_consistent h_ok h_indexed (.start default) h_free h_pass
  -- the roots in the order of their declaration
  have h_number : labelledNumber.IsRoot "number" := ⟨_, .tail _ (.head _), rfl⟩
  have h_copy : labelledNumber.IsRoot "copy" := ⟨_, .tail _ (.tail _ (.head _)), rfl⟩
  obtain ⟨vs, h_vs, h_shown, -⟩ := h_consistent.combined (by decide) _ (.head _) "label"
    ["copy", "number"] "-" rfl rfl (by simp [h_number, h_copy]) fun _ _ => label_not_referenced
  exact ⟨g, d, m', h_ok, h_indexed, .start default, h_free, h_pass, h_label,
    h_consistent.source _ (.tail _ (.tail _ (.head _))) "copy" "number" rfl rfl h_number,
    vs, h_vs, h_shown⟩

end Generator

end Specimen
