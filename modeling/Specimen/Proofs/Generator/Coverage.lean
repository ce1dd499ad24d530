import Specimen.Proofs.Generator.Lockstep

/-!
# Enumerations cover boundaries

If no case is left at the end of an enumeration, then every field that is reached from a root
through combined nodes and sources only has served all its boundaries in passes of the enumeration,
and if the field is a root itself the data sets of these passes hold texts for them
(`Generator.enumerate_covers`). A pass in which somebody else has asked the field for null first
serves no boundary, so none is lost by it.
-/

namespace Specimen

namespace Generator

/-- A node is reached from a root through combined nodes and sources only. -/
inductive Unconditional (g : Generator) : Node → Prop where
  | root {id n} (h : id ∈ g.roots) (h_get : g.graph.nodes.get? id = some n) : Unconditional g n
  | part {n n' link} (h : Unconditional g n) (h_passes : n.kind.isOptional = false)
    (h_link : link ∈ n.kind.links) (h_target : g.scope.target? link = some n') : Unconditional g n'

/-- What becomes true does so at some point. -/
theorem exists_turn {P : Nat → Prop} {n : Nat} (h_start : ¬ P 0) (h_end : P n) :
    ∃ k < n, ¬ P k ∧ P (k + 1) := by
  induction n with
  | zero => exact absurd h_end h_start
  | succ n ih =>
    by_cases h_before : P n
    · obtain ⟨k, h_k, h_turn⟩ := ih h_before
      exact ⟨k, Nat.lt_succ_of_lt h_k, h_turn⟩
    · exact ⟨n, Nat.lt_succ_self n, h_before, h_end⟩

namespace Represents

variable {g : Generator} {c : Config} {tops : List Node} {m m' : Memory} {n : Node}
  (h : g.Represents c tops)
include h

theorem member_of_unconditional (h_n : g.Unconditional n) : Member tops n := by
  induction h_n with
  | root _ h_get => exact (h.get?_iff.1 h_get).1
  | part _ _ h_link h_target ih => exact h.member_of_calls ih (.inl ⟨_, h_link, h_target⟩)

/-- If such a node has cases left, then a root has. -/
theorem anyLeft_of_unconditional (h_n : g.Unconditional n) (h_pending : g.scope.Pending m.cell n) :
    g.AnyLeft tops m := by
  induction h_n with
  | root h_root h_get =>
    obtain ⟨t, h_t, h_get', -⟩ := h.get?_root h_root
    obtain rfl := Option.some.inj (h_get.symm.trans h_get')
    exact ⟨_, h_t, h_pending⟩
  | part _ h_passes h_link h_target ih => exact ih (.part h_passes h_link h_target h_pending)

/-- Nothing was served when an enumeration begins. -/
theorem served_afterPasses_zero (h_n : Member tops n) :
    ((g.afterPasses m 0).cell n.key).served = [] := by
  rw [h.afterPasses_zero, cell_casesReset h_n]
  rfl

/-- If no case is left at the end of an enumeration, no root has one left. -/
theorem not_anyLeft {limit : Nat} {ds : List DataSet} (h_quiet : m.Quiet)
    (h_ok : g.enumerate limit m = (.ok ds, m')) {m'' : Memory}
    (h_over : g.hasNextCase m' = (.ok false, m'')) : ¬ g.AnyLeft tops m' := by
  have h_quiet' : m'.Quiet := fun key => by
    rw [h.cell_enumerate h_quiet h_ok]
    exact (h.settled_afterPasses h_quiet _).quiet h_quiet key
  obtain ⟨rank, h_fuel, h_ordered, -⟩ := h.exists_ordered
  intro h_left
  have h_tells := (h.tells_hasNextCase h_ordered h_fuel h_quiet').of_ok h_over
  cases h_tells.1.2 h_left

/-- **Boundaries are served in passes.** If a field has no boundary left at the end of an
enumeration, each was served in one of the passes. -/
theorem exists_pass_of_served {limit : Nat} {ds : List DataSet} (h_quiet : m.Quiet)
    (h_ok : g.enumerate limit m = (.ok ds, m')) {f : Field} (h_member : Member tops n)
    (h_done : pendingCase? f (m'.cell n.key).served = none) {b : FieldCase × Int}
    (h_b : b ∈ f.boundaries) : ∃ k d, ds[k]? = some d ∧ g.PassGives m k d ∧
      b.2 ∉ ((g.afterPasses m k).cell n.key).served ∧
        b.2 ∈ ((g.afterPasses m (k + 1)).cell n.key).served := by
  -- the boundary was not served at the beginning and is at the end, so there is a pass between
  have h_all : b.2 ∈ ((g.afterPasses m ds.length).cell n.key).served := by
    rw [← h.cell_enumerate h_quiet h_ok]
    exact pendingCase?_eq_none_iff.1 h_done b h_b
  have h_start : b.2 ∉ ((g.afterPasses m 0).cell n.key).served := by
    rw [h.served_afterPasses_zero h_member]
    exact List.not_mem_nil
  obtain ⟨k, h_k, h_before, h_after⟩ :=
    exists_turn (P := fun k => b.2 ∈ ((g.afterPasses m k).cell n.key).served) h_start h_all
  have h_d : ds[k]? = some ds[k] := List.getElem?_eq_getElem h_k
  have h_passes := ((g.ends_enumerate_passes limit m).of_ok h_ok).1
  exact ⟨k, _, h_d, h_passes k _ h_d, h_before, h_after⟩

/-- If no case is left, this is so for every such field. -/
theorem exists_serving_pass {limit : Nat} {ds : List DataSet} (h_quiet : m.Quiet)
    (h_ok : g.enumerate limit m = (.ok ds, m')) {m'' : Memory}
    (h_over : g.hasNextCase m' = (.ok false, m'')) {f : Field} {set : CharacterSet}
    (h_n : g.Unconditional n) (h_kind : n.kind = .field f set) {b : FieldCase × Int}
    (h_b : b ∈ f.boundaries) : ∃ k d, ds[k]? = some d ∧ g.PassGives m k d ∧
      b.2 ∉ ((g.afterPasses m k).cell n.key).served ∧
        b.2 ∈ ((g.afterPasses m (k + 1)).cell n.key).served := by
  refine h.exists_pass_of_served h_quiet h_ok (h.member_of_unconditional h_n) ?_ h_b
  by_contra h_pending
  exact h.not_anyLeft h_quiet h_ok h_over
    (h.anyLeft_of_unconditional h_n (.field h_kind h_pending))

end Represents

/-- **Enumerations cover boundaries.** Take any reachable memory without overrides and any limit,
and let an enumeration come to its end with no case left. Then every field that is reached from a
root through combined nodes and sources only has served each of its boundaries in a pass of the
enumeration; and if such a field is itself a root that is not indexed, then for each boundary some
data set holds a text at this boundary under its id. -/
theorem enumerate_covers {c : Config} {o : GeneratorOptions} {random : UInt64} {g : Generator}
    (h : ofConfig c o random = .ok g) {m : Memory} (h_m : g.Reachable m) (h_free : Unfixed m)
    {limit : Nat} {ds : List DataSet} {m' : Memory} (h_ok : g.enumerate limit m = (.ok ds, m'))
    {m'' : Memory} (h_over : g.hasNextCase m' = (.ok false, m'')) :
    (∀ n f set, g.Unconditional n → n.kind = .field f set → ∀ b ∈ f.boundaries,
      ∃ k d, ds[k]? = some d ∧ g.PassGives m k d ∧
        b.2 ∉ ((g.afterPasses m k).cell n.key).served ∧
          b.2 ∈ ((g.afterPasses m (k + 1)).cell n.key).served) ∧
    ∀ id n f set, id ∈ g.roots → g.graph.nodes.get? id = some n → n.kind = .field f set →
      o.indexed.contains id = false → ∀ b : FieldCase, b.isBoundary = true →
        ∃ d ∈ ds, ∃ t, d.values.get? id = some (some t) ∧ f.Shows b t := by
  obtain ⟨⟨tops, h_of⟩, -, h_indexed⟩ := ofConfig_represents h
  have h_quiet := h_of.quiet_of_reachable h_m
  refine ⟨fun n f set h_n h_kind b h_b =>
    h_of.exists_serving_pass h_quiet h_ok h_over h_n h_kind h_b, ?_⟩
  intro id n f set h_id h_get h_kind h_unindexed c' h_c'
  obtain ⟨b, h_b, h_position⟩ := f.exists_mem_boundaries h_c'
  have h_n : g.Unconditional n := .root h_id h_get
  obtain ⟨k, d, h_d, h_pass, h_before, h_after⟩ :=
    h_of.exists_serving_pass h_quiet h_ok h_over h_n h_kind h_b
  -- the boundary was served with its text, which is what the data set of the pass holds
  obtain ⟨h_fields, number, h_stores⟩ := h_of.pass h_quiet h_free h_pass
  obtain ⟨served, t, draws, h_pending, h_same, h_text, h_cache⟩ :=
    (h_fields n f set (h_of.member_of_unconditional h_n) h_kind).exists_text h_before h_after
  obtain ⟨w, h_w, h_value⟩ := h_stores id h_id n h_get (by rw [h_kind]; rfl)
  obtain rfl := Option.some.inj (h_cache.symm.trans h_w)
  rw [stored, h_indexed, h_unindexed, if_neg Bool.false_ne_true] at h_value
  refine ⟨d, List.mem_of_getElem? h_d, t, h_value, ?_⟩
  exact (Field.shows_of_generate (of_pendingCase? h_pending).2.2 h_text).congr
    (h_position.symm.trans h_same.symm)

theorem enumerate_covers_numberAndLabel : ∃ g ds m' m'' n f set,
    ofConfig numberAndLabel {} 0 = .ok g ∧ g.Reachable (g.freshMemory.withDraws default) ∧
    Unfixed (g.freshMemory.withDraws default) ∧
    g.enumerate 3 (g.freshMemory.withDraws default) = (.ok ds, m') ∧
    g.hasNextCase m' = (.ok false, m'') ∧ "number" ∈ g.roots ∧
    g.graph.nodes.get? "number" = some n ∧ n.kind = .field f set ∧
      ∃ d ∈ ds, d.values.get? "number" = some (some "2") := by
  obtain ⟨g, h_ok⟩ := exists_ofConfig_numberAndLabel
  obtain ⟨⟨tops, h⟩, -⟩ := ofConfig_represents h_ok
  have h_free : Unfixed (g.freshMemory.withDraws default) := fun _ => rfl
  -- three passes are enough
  obtain ⟨rank, h_fuel, h_ordered, -⟩ := h.exists_ordered
  obtain ⟨ds, m', h_enumerate, -, b, m'', h_next, h_b⟩ := h.exists_enumerate_width
    (h.crashesOnly_of_fieldsRender fieldsRender_numberAndLabel) h_ordered h_fuel
    (h.forced (.inr allMandatory_numberAndLabel)) (h.quiet_of_reachable (.start default)) h_free 3
  have h_over : b = false := Bool.eq_false_iff.2 fun h_true => absurd (h_b.1 h_true) (by decide)
  subst h_over
  obtain ⟨n, set, -, h_member, h_id, h_kind⟩ := h.exists_field (p := [0])
    (x := .mk (some "number") none (.field (.number 0 2))) rfl rfl rfl
  have h_root : "number" ∈ g.roots := h.mem_roots_iff.2 ⟨_, List.mem_cons_self, rfl⟩
  have h_get := h.get?_iff.2 ⟨h_member, h_id⟩
  obtain ⟨d, h_d, t, h_value, rfl⟩ := (enumerate_covers h_ok (.start default) h_free h_enumerate
    h_next).2 "number" n _ set h_root h_get h_kind rfl .max rfl
  exact ⟨g, ds, m', m'', n, _, set, h_ok, .start default, h_free, h_enumerate, h_next, h_root,
    h_get, h_kind, d, h_d, h_value⟩

end Generator

end Specimen
