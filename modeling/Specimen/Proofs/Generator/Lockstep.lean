import Specimen.Proofs.Config.Width
import Specimen.Proofs.Generator.Rounds
import Specimen.Proofs.Generator.Saturation
import Specimen.Proofs.Node.Lockstep

/-!
# Enumerations in lockstep

If every optional constraint is always present, because it has to be or because optional nodes are
ignored, then all constraints go through their cases side by side. An enumeration gives as many data
sets as the widest constraint has cases, unless its limit is lower, and each pass generates every
field at the next of its boundaries for as long as it has one (`Generator.enumerate_lockstep`).
-/

namespace Specimen

namespace Generator

/-- The node at a place, by way of the roots. -/
def nodeAt? (g : Generator) (p : Place) : Option Node :=
  Specimen.nodeAt? (g.roots.filterMap g.graph.nodes.get?) p

/-- The pass of an enumeration that comes after a number of others generates the field at a place at
one of its boundaries: the boundary was not served before, it is after the pass, and the node keeps
a text that was generated for it. -/
def ServesAt (g : Generator) (m : Memory) (k : Nat) (p : Place) (f : Field) (b : FieldCase × Int) :
    Prop :=
  ∃ n set, g.nodeAt? p = some n ∧ n.kind = .field f set ∧
    b.2 ∉ ((g.afterPasses m k).cell n.key).served ∧
      b.2 ∈ ((g.afterPasses m (k + 1)).cell n.key).served ∧
        ∃ t draws, (f.generate b.1 set draws).1 = .ok t ∧
          ((g.afterPasses m (k + 1)).cell n.key).cache = some (some t)

namespace Represents

variable {g : Generator} {c : Config} {tops : List Node} {m : Memory} {rank : Nat → Nat}
  (h : g.Represents c tops)
include h

/-! ### Constraints and their nodes -/

/-- The roots lead to the nodes of the top level. -/
theorem filterMap_roots : g.roots.filterMap g.graph.nodes.get? = tops := by
  refine h.roots_induction (P := fun ids ns => ids.filterMap g.graph.nodes.get? = ns) rfl ?_
  intro id n ids ns _ h_get ih
  rw [List.filterMap_cons_some h_get, ih]

theorem nodeAt?_eq (p : Place) : g.nodeAt? p = Specimen.nodeAt? tops p := by
  rw [Generator.nodeAt?, h.filterMap_roots]

/-- A field stands at the place where it was declared. -/
theorem exists_field {p : Place} {x : Config.Constraint} {spec : Config.FieldSpec} {f : Field}
    (h_x : c.at? p = some x) (h_kind : x.kind = .field spec) (h_f : Field.ofSpec spec = .ok f) :
    ∃ n set, g.nodeAt? p = some n ∧ Member tops n ∧ n.id = x.id ∧ n.kind = .field f set := by
  obtain ⟨n, above, h_n, h_mirrors⟩ := mirrors_nodeAt? h.mirrors h_x
  have h_mirrored := h_mirrors.kind
  rw [h_kind] at h_mirrored
  generalize h_node : n.kind = kind at h_mirrored
  cases h_mirrored with
  | @field _ _ f' set h_field h_set =>
    obtain rfl := Except.ok.inj (h_f.symm.trans h_field)
    refine ⟨n, set, ?_, ⟨p, h_n⟩, h_mirrors.id_eq, h_node⟩
    rw [Generator.nodeAt?, h.filterMap_roots]
    exact h_n

/-- A node has as many cases of its own as its constraint. -/
theorem width_eq {p : Place} {x : Config.Constraint} {n : Node} (h_x : c.at? p = some x)
    (h_n : Specimen.nodeAt? tops p = some n) : n.kind.width = x.kind.ownWidth := by
  obtain ⟨y, above, h_y, h_mirrors⟩ := mirrors_of_nodeAt? h.mirrors h_n
  obtain rfl := Option.some.inj (h_x.symm.trans h_y)
  have h_mirrored := h_mirrors.kind
  generalize n.kind = kind at h_mirrored
  generalize x.kind = kind' at h_mirrored
  cases h_mirrored with
  | field h_field _ => rw [NodeKind.width, Config.Kind.ownWidth, h_field]
  | constant | combined _ | optional _ | source _ => rfl

/-- The width of the configuration is that of the widest node. -/
theorem lt_width_iff {i : Nat} : i < c.width ↔ ∃ n, Member tops n ∧ i < n.kind.width := by
  rw [Config.lt_width_iff]
  constructor
  · rintro ⟨p, x, h_x, h_lt⟩
    obtain ⟨n, above, h_n, -⟩ := mirrors_nodeAt? h.mirrors h_x
    exact ⟨n, ⟨p, h_n⟩, h.width_eq h_x h_n ▸ h_lt⟩
  · rintro ⟨n, ⟨p, h_n⟩, h_lt⟩
    obtain ⟨x, above, h_x, -⟩ := mirrors_of_nodeAt? h.mirrors h_n
    exact ⟨p, x, h_x, h.width_eq h_x h_n ▸ h_lt⟩

/-- Nodes are always present if optional nodes are ignored or their constraints have to be there. -/
theorem forced (h_present : g.ignoreOptional = true ∨ c.AllMandatory) :
    g.scope.Forced (Member tops) := by
  rintro n link rule ⟨p, h_p⟩ h_kind
  rcases h_present with h_ignore | h_all
  · cases rule <;> simp [Scope.maySkip, scope, h_ignore]
  · obtain ⟨x, child, h_x, h_spec⟩ := h.optional_at h_p h_kind
    rw [h_all p x child rule h_x h_spec]
    simp [Scope.maySkip]

/-! ### Passes -/

theorem afterPasses_eq (k : Nat) : g.afterPasses m k = g.round^[k] (casesReset tops m) := by
  have h_start : (g.resetCases m).2 = casesReset tops m := h.afterPasses_zero m
  rw [afterPasses, h_start]

section Forced

variable (h_crash : Scope.CrashesOnly (Member tops) fun _ => False)
  (h_ordered : g.scope.Ordered (Member tops) rank) (h_fuel : ∀ key, rank key < g.fuel)
  (h_forced : g.scope.Forced (Member tops)) (h_quiet : m.Quiet) (h_free : Unfixed m)
include h_crash h_ordered h_fuel h_forced h_quiet h_free

/-- In every pass every node is served. -/
theorem exists_serving_course (k : Nat) : ∃ d past, g.PassGives m k d ∧
    (∀ n, Member tops n → .served n ∈ past) ∧ ∀ n, Member tops n →
      g.scope.Follows past n ((g.afterPasses m k).cell n.key)
        ((g.afterPasses m (k + 1)).cell n.key) := by
  have h_settled := h.settled_afterPasses h_quiet k
  obtain ⟨d, h_pass, -, -, past, h_under, h_met⟩ :=
    h.generate_round h_crash h_ordered h_fuel (h_settled.quiet h_quiet)
      (h_free.of_settled h_settled)
  rw [← afterPasses_succ] at h_pass h_under
  refine ⟨d, past, h_pass, fun n h_n => ?_, fun n h_n => ?_⟩
  · obtain ⟨t, h_t, h_inside⟩ := member_iff.1 h_n
    exact Scope.served_inside h_forced h_under.justified (h_met t h_t).1 h_inside
  · have h_cells := h.cell_hasNextCase (h_settled.quiet h_quiet)
    refine (h_under.follows n h_n (h_fuel n.key)).of_before ?_ ?_ ?_ <;>
      rw [cell_passBegun h_n, h_cells] <;> rfl

/-- **Lockstep.** After a number of passes every node has served this many of its cases. -/
theorem progress (k : Nat) {n : Node} (h_n : Member tops n) :
    n.Progress k ((g.afterPasses m k).cell n.key) := by
  induction k with
  | zero =>
    refine Node.progress_zero ?_
    rw [h.afterPasses_zero, cell_casesReset h_n]
    rfl
  | succ k ih =>
    obtain ⟨d, past, h_pass, h_served, h_follows⟩ :=
      h.exists_serving_course h_crash h_ordered h_fuel h_forced h_quiet h_free k
    -- its course says that the node is served in the pass, and the pass what a field makes of this
    exact ih.next (h_follows n h_n) (h_served n h_n) fun f set h_kind =>
      (h.pass h_quiet h_free h_pass).1 n f set h_n h_kind

/-- **How long cases are left.** After a number of passes a root has cases left if one of the
constraints has more cases than that. -/
theorem anyLeft_iff (k : Nat) : g.AnyLeft tops (g.afterPasses m k) ↔ k < c.width := by
  have h_progress := fun n h_n =>
    h.progress h_crash h_ordered h_fuel h_forced h_quiet h_free k (n := n) h_n
  rw [h.lt_width_iff]
  constructor
  · rintro ⟨t, h_t, h_pending⟩
    exact h_pending.exists_wide h_forced h.closed h_progress (member_iff.2 ⟨t, h_t, t.inside_self⟩)
  · rintro ⟨n, h_n, h_lt⟩
    obtain ⟨t, h_t, h_inside⟩ := member_iff.1 h_n
    refine ⟨t, h_t, .of_inside h_forced (fun k h_k => member_iff.2 ⟨t, h_t, h_k⟩) h_inside ?_⟩
    exact (h_progress n h_n).pending_of_lt h_lt

/-- **How many data sets there are.** -/
theorem exists_enumerate_width (limit : Nat) : ∃ ds m', g.enumerate limit m = (.ok ds, m') ∧
    ds.length = min limit c.width ∧
      ∃ b m'', g.hasNextCase m' = (.ok b, m'') ∧ (b = true ↔ limit < c.width) := by
  obtain ⟨ds, m', h_ok, h_limit, h_before, h_end, b, m'', h_next, h_b⟩ :=
    h.exists_enumerate h_crash h_ordered h_fuel limit h_quiet h_free
  have h_left := h.anyLeft_iff h_crash h_ordered h_fuel h_forced h_quiet h_free
  simp only [← h.afterPasses_eq, h_left] at h_before h_end h_b
  -- every pass but the first comes after one with a case left
  have h_le : ds.length ≤ c.width := by
    rcases Nat.eq_zero_or_pos ds.length with h_none | h_some
    · omega
    · have h_last := h_before (ds.length - 1) (by omega)
      omega
  refine ⟨ds, m', h_ok, by omega, b, m'', h_next, h_b.trans ?_⟩
  omega

end Forced

/-! ### Counting -/

omit h in
/-- A node leads to those inside it. -/
theorem calls_inside {t n : Node} (h_inside : t.Inside n) :
    Relation.ReflTransGen g.scope.Calls t n := by
  obtain ⟨p, h_p⟩ := h_inside
  induction p generalizing t with
  | nil =>
    rw [Node.at?_nil] at h_p
    exact Option.some.inj h_p ▸ .refl
  | cons i p ih =>
    obtain ⟨k, h_i, h_p⟩ := Node.at?_cons.1 h_p
    exact .head (.inl ⟨_, List.mem_of_getElem? h_i, rfl⟩) (ih h_p)

/-- A node of the configuration leads to such nodes only. -/
theorem member_of_path {n l : Node} (h_n : Member tops n)
    (h_path : Relation.ReflTransGen g.scope.Calls n l) : Member tops l := by
  induction h_path with
  | refl => exact h_n
  | tail _ h_step ih => exact h.member_of_calls ih h_step

/-- What the roots lead to is what there is. -/
theorem leadsWide_iff {i : Nat} : (∃ t ∈ tops, g.scope.LeadsWide t i) ↔ i < c.width := by
  rw [h.lt_width_iff]
  constructor
  · rintro ⟨t, h_t, l, h_path, h_lt⟩
    exact ⟨l, h.member_of_path (member_iff.2 ⟨t, h_t, t.inside_self⟩) h_path, h_lt⟩
  · rintro ⟨n, h_n, h_lt⟩
    obtain ⟨t, h_t, h_inside⟩ := member_iff.1 h_n
    exact ⟨t, h_t, n, calls_inside h_inside, h_lt⟩

/-- Combined nodes have parts. -/
theorem links_ne_nil {n : Node} {links : List Link} {separator : String} (h_n : Member tops n)
    (h_kind : n.kind = .combined links separator) : links ≠ [] := by
  obtain ⟨p, h_p⟩ := h_n
  obtain ⟨x, above, h_x, h_mirrors⟩ := mirrors_of_nodeAt? h.mirrors h_p
  have h_mirrored := h_mirrors.kind
  rw [h_kind] at h_mirrored
  obtain ⟨parts, h_spec, h_parts⟩ := h_mirrored.of_combined
  have h_fit := h.wellFormed.kinds p x h_x
  rw [h_spec] at h_fit
  exact List.ne_nil_of_length_pos (h_parts.length_eq ▸ List.length_pos_iff.2 h_fit)

/-- **Counting the cases of all roots** finds the width of the configuration. -/
theorem exists_countCases (h_none : ∀ p, ¬ c.IsOptional p) (h_quiet : m.Quiet) :
    ∃ m', g.countCases m = (.ok c.width, m') := by
  obtain ⟨rank, -, h_ordered, -⟩ := h.exists_ordered
  obtain ⟨count, m', h_count, h_iff⟩ := h.exists_greatestCount h_quiet
  have h_wide : ∀ {t k i}, t ∈ tops → g.scope.HasCases t k →
      (i < saturated k ↔ g.scope.LeadsWide t i) := fun h_t h_k =>
    h_ordered.lt_saturated_iff (fun _ h_n => h.isOptional_eq_false h_none h_n)
      (fun _ _ _ => h.links_ne_nil) (member_iff.2 ⟨_, h_t, Node.inside_self _⟩) h_k
  have h_width : count = c.width := by
    refine eq_of_forall_lt_iff fun i => ?_
    rw [h_iff, ← h.leadsWide_iff]
    constructor
    · rintro ⟨t, h_t, k, h_k, h_lt⟩
      exact ⟨t, h_t, (h_wide h_t h_k).1 h_lt⟩
    · rintro ⟨t, h_t, h_lt⟩
      obtain ⟨k, -, h_k, -⟩ := h.exists_nodeCount (member_iff.2 ⟨t, h_t, t.inside_self⟩) h_quiet
      exact ⟨t, h_t, k, h_k, (h_wide h_t h_k).2 h_lt⟩
  exact ⟨m', h_width ▸ h_count⟩

end Represents

/-- **Lockstep enumeration is exact.** Let every optional constraint be always present, and let the
fields be able to write their values. Then from any reachable memory without overrides an
enumeration gives as many data sets as the widest constraint has cases, or as many as its limit is
if that is lower. Each comes from a pass, and in each pass every field that has boundaries left is
generated at the next one, from the lowest to the highest. If there are no optional constraints, the
cases that are counted are as many as the widest constraint has. -/
theorem enumerate_lockstep {c : Config} {o : GeneratorOptions} {random : UInt64} {g : Generator}
    (h : ofConfig c o random = .ok g) (h_present : o.ignoreOptional = true ∨ c.AllMandatory)
    (h_renders : c.FieldsRender) {m : Memory} (h_m : g.Reachable m) (h_free : Unfixed m)
    (limit : Nat) :
    (∃ ds m', g.enumerate limit m = (.ok ds, m') ∧ ds.length = min limit c.width ∧
      ∀ k < ds.length, (∃ d, ds[k]? = some d ∧ g.PassGives m k d) ∧
        ∀ p x spec f, c.at? p = some x → x.kind = .field spec → Field.ofSpec spec = .ok f →
          f.boundaries.Pairwise (fun b b' => b.2 < b'.2) ∧
            ∀ b, f.boundaries[k]? = some b → g.ServesAt m k p f b) ∧
      ((∀ p, ¬ c.IsOptional p) → ∃ m', g.countCases m = (.ok c.width, m')) := by
  obtain ⟨⟨tops, h_of⟩, h_ignore, -⟩ := ofConfig_represents h
  obtain ⟨rank, h_fuel, h_ordered, -⟩ := h_of.exists_ordered
  have h_crash := h_of.crashesOnly_of_fieldsRender h_renders
  have h_quiet := h_of.quiet_of_reachable h_m
  have h_forced := h_of.forced (h_present.imp_left h_ignore.trans)
  refine ⟨?_, fun h_none => h_of.exists_countCases h_none h_quiet⟩
  obtain ⟨ds, m', h_ok, h_length, -⟩ :=
    h_of.exists_enumerate_width h_crash h_ordered h_fuel h_forced h_quiet h_free limit
  refine ⟨ds, m', h_ok, h_length, fun k h_k => ?_⟩
  have h_d : ds[k]? = some ds[k] := List.getElem?_eq_getElem h_k
  have h_pass := ((g.ends_enumerate_passes limit m).of_ok h_ok).1 k _ h_d
  refine ⟨⟨_, h_d, h_pass⟩, fun p x spec f h_x h_kind h_f =>
    ⟨f.boundaries_ascending, fun b h_b => ?_⟩⟩
  -- before and after the pass its node has served as many boundaries as there were passes
  obtain ⟨n, set, h_n, h_member, -, h_field⟩ := h_of.exists_field h_x h_kind h_f
  have h_progress := fun i =>
    h_of.progress h_crash h_ordered h_fuel h_forced h_quiet h_free i h_member
  have h_passes := (h_of.pass h_quiet h_free h_pass).1 n f set h_member h_field
  exact ⟨n, set, h_n, h_field,
    (h_progress k).exists_text (h_progress (k + 1)) h_field h_passes h_b⟩

/-- A number, and a label that shows it. -/
def numberAndLabel : Config :=
  ⟨Config.supportedVersion, none, .empty, [
    .mk (some "number") none (.field (.number 0 2)),
    .mk (some "label") none (.combined
      [.embedded (.mk none none (.constant "no.")), .reference "number"] " ")]⟩

/-- The number is the only field, and nothing is optional. -/
theorem kind_numberAndLabel {p : Place} {x : Config.Constraint}
    (h : numberAndLabel.at? p = some x) : (∀ spec, x.kind = .field spec → spec = .number 0 2) ∧
      ∀ child rule, x.kind ≠ .optional child rule := by
  match p with
  | i :: p =>
    obtain ⟨y, h_y, h_x⟩ := Config.at?_cons.1 h
    refine Config.Constraint.forall_at?_of_parts
      (P := fun x => (∀ spec, x.kind = .field spec → spec = .number 0 2) ∧
        ∀ child rule, x.kind ≠ .optional child rule) ?_ (fun z h_z => ?_) p x h_x
    all_goals rcases List.mem_pair.1 (List.mem_of_getElem? h_y) with rfl | rfl
    · exact ⟨fun spec h_spec => (Config.Kind.field.inj h_spec).symm, nofun⟩
    · exact ⟨nofun, nofun⟩
    · cases h_z
    · -- the label embeds a constant
      rcases List.mem_pair.1 h_z with h_z | h_z
      · obtain rfl := Config.Child.embedded.inj h_z
        exact Config.Constraint.forall_at?_of_parts ⟨nofun, nofun⟩ fun w h_w => nomatch h_w
      · cases h_z

theorem allMandatory_numberAndLabel : numberAndLabel.AllMandatory :=
  fun _ _ child rule h_x h_kind => absurd h_kind ((kind_numberAndLabel h_x).2 child rule)

theorem fieldsRender_numberAndLabel : numberAndLabel.FieldsRender := by
  intro p x spec f h_x h_kind h_f
  rw [(kind_numberAndLabel h_x).1 spec h_kind] at h_f
  cases h_f
  trivial

theorem exists_ofConfig_numberAndLabel : ∃ g, ofConfig numberAndLabel {} 0 = .ok g := by
  have h_some : (ofConfig numberAndLabel {} 0).toOption.isSome = true := by decide +kernel
  cases h : ofConfig numberAndLabel {} 0 with
  | error _ => rw [h] at h_some; cases h_some
  | ok g => exact ⟨g, rfl⟩

theorem enumerate_lockstep_numberAndLabel : ∃ g, ofConfig numberAndLabel {} 0 = .ok g ∧
    numberAndLabel.AllMandatory ∧ numberAndLabel.FieldsRender ∧
    g.Reachable (g.freshMemory.withDraws default) ∧ Unfixed (g.freshMemory.withDraws default) ∧
    (∃ ds m', g.enumerate 2 (g.freshMemory.withDraws default) = (.ok ds, m') ∧ ds.length = 2) ∧
    (∀ p, ¬ numberAndLabel.IsOptional p) ∧
      ∃ m', g.countCases (g.freshMemory.withDraws default) = (.ok 3, m') := by
  obtain ⟨g, h_ok⟩ := exists_ofConfig_numberAndLabel
  have h_none : ∀ p, ¬ numberAndLabel.IsOptional p := by
    rintro p ⟨x, child, rule, h_x, h_kind⟩
    exact (kind_numberAndLabel h_x).2 child rule h_kind
  have h_free : Unfixed (g.freshMemory.withDraws default) := fun _ => rfl
  obtain ⟨⟨ds, m', h_ds, h_length, -⟩, h_count⟩ := enumerate_lockstep h_ok
    (.inr allMandatory_numberAndLabel) fieldsRender_numberAndLabel (.start default) h_free 2
  exact ⟨g, h_ok, allMandatory_numberAndLabel, fieldsRender_numberAndLabel, .start default, h_free,
    ⟨ds, m', h_ds, h_length⟩, h_none, h_count h_none⟩

end Generator

end Specimen
