import Specimen.Proofs.Generator.Constraints
import Specimen.Proofs.Generator.Course
import Specimen.Proofs.Node.Run

/-!
# Enumerations come to an end

An enumeration runs passes as long as a root has cases left. If the fields can write their values
and optional constraints do not get in each other's way (`Config.Untangled`), then the passes come
to a point at which no root has, and there is a bound to their number that depends on the
configuration and on whether optional nodes are ignored, but neither on the random stream nor on
what was asked before (`enumerate_exhausts`).
-/

namespace Specimen

namespace Generator

/-- A root has cases left. -/
def AnyLeft (g : Generator) (tops : List Node) (m : Memory) : Prop :=
  ∃ t ∈ tops, g.scope.Pending m.cell t

/-- The memory after looking for cases that are left and a pass. -/
def round (g : Generator) (m : Memory) : Memory := (g.generate .normal (g.hasNextCase m).2).2

namespace Represents

variable {g : Generator} {c : Config} {tops : List Node} {m : Memory} {rank : Nat → Nat}
  (h : g.Represents c tops)
include h

/-! ### From the configuration to its nodes -/

/-- Nodes of optional constraints are optional. -/
theorem isOptional_iff {p : Place} {n : Node} (h_p : nodeAt? tops p = some n) :
    c.IsOptional p ↔ n.kind.isOptional = true := by
  obtain ⟨x, above, h_x, h_mirrors⟩ := mirrors_of_nodeAt? h.mirrors h_p
  have h_kind := h_mirrors.kind
  constructor
  · rintro ⟨y, child, rule, h_y, h_y_kind⟩
    obtain rfl := Option.some.inj (h_x.symm.trans h_y)
    rw [h_y_kind] at h_kind
    generalize n.kind = k at h_kind ⊢
    cases h_kind
    rfl
  · intro h_optional
    obtain ⟨child, rule, h_n⟩ := NodeKind.exists_optional h_optional
    rw [h_n] at h_kind
    obtain ⟨child', h_spec, -⟩ := h_kind.of_optional
    exact ⟨x, child', rule, h_x, h_spec⟩

/-- If no constraint is optional, then no node is. -/
theorem isOptional_eq_false (h_none : ∀ p, ¬ c.IsOptional p) {n : Node} (h_n : Member tops n) :
    n.kind.isOptional = false := by
  obtain ⟨p, h_p⟩ := h_n
  exact Bool.eq_false_iff.2 fun h_optional => h_none p ((h.isOptional_iff h_p).2 h_optional)

/-- An optional node stands at an optional constraint with the same rule. -/
theorem optional_at {p : Place} {n : Node} (h_p : nodeAt? tops p = some n) {link : Link}
    {rule : Config.Mandatory} (h_kind : n.kind = .optional link rule) :
    ∃ x child, c.at? p = some x ∧ x.kind = .optional child rule := by
  obtain ⟨x, above, h_x, h_mirrors⟩ := mirrors_of_nodeAt? h.mirrors h_p
  have h_mirrored := h_mirrors.kind
  rw [h_kind] at h_mirrored
  obtain ⟨child, h_spec, -⟩ := h_mirrored.of_optional
  exact ⟨x, child, h_x, h_spec⟩

/-- What a node can ask for null stands where the configuration says. -/
theorem nulls_of_nulls {o n : Node} (h_nulls : g.scope.Nulls (Member tops) o n) {p : Place}
    (h_p : nodeAt? tops p = some o) : ∃ q, nodeAt? tops q = some n ∧ c.Nulls p q := by
  induction h_nulls with
  | @child link rule n _ h_kind h_skip h_target =>
    obtain ⟨x, child, h_x, h_spec⟩ := h.optional_at h_p h_kind
    obtain ⟨q, h_q, h_part⟩ := h.hasPart_of_link h_p
      (by rw [h_kind]; exact List.mem_singleton_self _) h_target
    refine ⟨q, h_q, .child h_x h_spec ?_ h_part⟩
    rintro rfl
    simp [Scope.maySkip] at h_skip
  | part _ h_passes h_link h_target ih =>
    obtain ⟨q, h_q, h_nulls⟩ := ih
    obtain ⟨r, h_r, h_part⟩ := h.hasPart_of_link h_q h_link h_target
    refine ⟨r, h_r, .part h_nulls ?_ h_part⟩
    rw [h.isOptional_iff h_q, h_passes]
    exact Bool.false_ne_true

theorem leads_of_path {p : Place} {n n' : Node} (h_p : nodeAt? tops p = some n)
    (h_path : Relation.TransGen g.scope.Calls n n') :
    ∃ q, nodeAt? tops q = some n' ∧ Relation.TransGen c.Leads p q := by
  induction h_path with
  | single h_step =>
    obtain ⟨q, h_q, h_leads⟩ := h.leads_of_calls h_p h_step
    exact ⟨q, h_q, .single h_leads⟩
  | tail _ h_step ih =>
    obtain ⟨q, h_q, h_leads⟩ := ih
    obtain ⟨q', h_q', h_last⟩ := h.leads_of_calls h_q h_step
    exact ⟨q', h_q', h_leads.tail h_last⟩

/-- The nodes of an untangled configuration are untangled. -/
theorem untangled (h_untangled : g.ignoreOptional = false → c.Untangled) :
    g.scope.Untangled (Member tops) := by
  intro o o' n h_o h_o' h_kind h_ne o₂ r h_r h_optional h_path
  -- requests for null are made only if optional nodes are heeded
  have h_untangled := h_untangled h_o.heeds
  obtain ⟨p, h_p⟩ := h_o.source.1
  obtain ⟨p', h_p'⟩ := h_o'.source.1
  obtain ⟨p₂, h_p₂⟩ := h_r.source.1
  obtain ⟨q, h_q, h_nulls⟩ := h.nulls_of_nulls h_o h_p
  obtain ⟨q', h_q', h_nulls'⟩ := h.nulls_of_nulls h_o' h_p'
  obtain ⟨t, h_t, h_nulls₂⟩ := h.nulls_of_nulls h_r h_p₂
  obtain ⟨q'', h_q'', h_leads⟩ := h.leads_of_path h_t h_path
  obtain rfl := nodeAt?_unique h.keys_nodup h_q h_q' rfl
  obtain rfl := nodeAt?_unique h.keys_nodup h_q h_q'' rfl
  have h_places : p ≠ p' := by
    rintro rfl
    exact h_ne (Option.some.inj (h_p.symm.trans h_p'))
  obtain ⟨x, above, h_x, h_mirrors⟩ := mirrors_of_nodeAt? h.mirrors h_q
  have h_keeps : x.kind.KeepsValue := by
    have h_mirrored := h_mirrors.kind
    generalize n.kind = k at h_kind h_mirrored
    generalize x.kind = k' at h_mirrored ⊢
    cases h_mirrored <;> trivial
  exact h_untangled p p' q x h_nulls h_nulls' h_places h_x h_keeps p₂ t h_nulls₂
    ((h.isOptional_iff h_t).2 h_optional) h_leads

omit h in
/-- Every node is one of the top level or a part of another one. -/
theorem above_of_member {n : Node} (h_n : Member tops n) : n ∈ tops ∨
    ∃ p, Member tops p ∧ ∃ link ∈ p.kind.links, g.scope.target? link = some n := by
  obtain ⟨t, h_t, h_inside⟩ := member_iff.1 h_n
  rcases h_inside.above with rfl | ⟨p, h_p, h_link⟩
  · exact .inl h_t
  · exact .inr ⟨p, member_iff.2 ⟨t, h_t, h_p⟩, .embedded n, h_link, rfl⟩

/-- There are no more nodes than keys. -/
theorem exists_members : ∃ members : Finset Node, (∀ n, n ∈ members ↔ Member tops n) ∧
    members.card ≤ g.graph.size := by
  have h_maps : Set.MapsTo Node.key {n | Member tops n} (Finset.range g.graph.size : Set Nat) :=
    fun n h_n => Finset.mem_coe.2 (Finset.mem_range.2 (h.key_lt h_n))
  have h_inj : Set.InjOn Node.key {n | Member tops n} :=
    fun n h_n n' h_n' h_key => h.eq_of_key_eq h_n h_n' h_key
  have h_finite : {n | Member tops n}.Finite :=
    Set.Finite.of_injOn h_maps h_inj (Finset.finite_toSet _)
  refine ⟨h_finite.toFinset, fun n => h_finite.mem_toFinset, ?_⟩
  rw [← Finset.card_range g.graph.size]
  refine Finset.card_le_card_of_injOn Node.key (fun n h_n => ?_) fun n h_n n' h_n' => ?_
  · exact h_maps (h_finite.mem_toFinset.1 h_n)
  · exact h_inj (h_finite.mem_toFinset.1 h_n) (h_finite.mem_toFinset.1 h_n')

/-! ### Passes that follow each other -/

/-- Looking for cases that are left tells whether a root has some. -/
theorem tells_hasNextCase (h_ordered : g.scope.Ordered (Member tops) rank)
    (h_fuel : ∀ key, rank key < g.fuel) (h_quiet : m.Quiet) :
    Tells g.hasNextCase m (g.AnyLeft tops m) := by
  have h_go : ∀ m : Memory, m.Quiet → Tells (hasNextCase.go g g.roots) m (g.AnyLeft tops m) := by
    refine h.roots_induction (P := fun ids ns => ∀ m : Memory, m.Quiet →
      Tells (hasNextCase.go g ids) m (∃ t ∈ ns, g.scope.Pending m.cell t)) ?_ ?_
    · exact fun m _ => ⟨by simp, fun _ => rfl, rfl⟩
    · intro id n ids ns h_n h_get ih m h_quiet
      have h_member : Member tops n := member_iff.2 ⟨n, h_n, n.inside_self⟩
      have h_first := Node.tells_hasNextCase h_ordered g.fuel n m h_member (h_fuel n.key)
        fun key _ => (h_quiet key).2
      have h_rest : ∀ m', (∀ key, m'.cell key = m.cell key) →
          Tells (hasNextCase.go g ids) m' (∃ t ∈ ns, g.scope.Pending m.cell t) := by
        intro m' h_cells
        rw [← show m'.cell = m.cell from funext h_cells]
        exact ih m' fun key => by rw [h_cells]; exact h_quiet key
      rw [hasNextCase.go, find_eq h_get, pure_bind]
      exact (h_first.orElse h_rest).congr (by simp)
  exact h_go m h_quiet

section Rounds

variable (h_crash : Scope.CrashesOnly (Member tops) fun _ => False)
  (h_ordered : g.scope.Ordered (Member tops) rank) (h_fuel : ∀ key, rank key < g.fuel)
include h_crash h_ordered h_fuel

/-- A round comes to its end, and its pass has a course. -/
theorem generate_round (h_quiet : m.Quiet) (h_free : Unfixed m) : ∃ d,
    g.generate .normal (g.hasNextCase m).2 = (.ok d, g.round m) ∧ (g.round m).Quiet ∧
      Unfixed (g.round m) ∧ ∃ past, g.scope.Underway (Member tops) rank
        (passBegun tops (g.hasNextCase m).2) g.fuel past (g.roster tops) (g.round m) ∧
          ∀ n ∈ tops, Course.Met past n .normal := by
  obtain ⟨b, -, -, h_cells, -⟩ := (h.tells_hasNextCase h_ordered h_fuel h_quiet).exists_ok
  have h_quiet' : (g.hasNextCase m).2.Quiet := fun key => by rw [h_cells]; exact h_quiet key
  have h_free' : Unfixed (g.hasNextCase m).2 := fun key => by rw [h_cells]; exact h_free key
  exact (h.generate_course h_crash h_ordered h_fuel h_quiet' h_free').exists_ok

theorem rounds_rest (h_quiet : m.Quiet) (h_free : Unfixed m) (i : Nat) :
    (g.round^[i] m).Quiet ∧ Unfixed (g.round^[i] m) := by
  induction i with
  | zero => exact ⟨h_quiet, h_free⟩
  | succ i ih =>
    obtain ⟨-, -, h_quiet', h_free', -⟩ :=
      h.generate_round h_crash h_ordered h_fuel ih.1 ih.2
    rw [Function.iterate_succ_apply']
    exact ⟨h_quiet', h_free'⟩

/-- **Rounds make a run.** -/
theorem exists_run (h_quiet : m.Quiet) (h_free : Unfixed m)
    (h_sound : ∀ n, Member tops n → g.scope.Sound n (m.cell n.key)) :
    ∃ past, g.scope.Run (Member tops) tops (g.roster tops) (fun i => g.round^[i] m) past := by
  have h_rest := h.rounds_rest h_crash h_ordered h_fuel h_quiet h_free
  -- Each round has a course of its own, which `choose` collects into one run.
  have h_course : ∀ i, ∃ past, g.scope.Underway (Member tops) rank
      (passBegun tops (g.hasNextCase (g.round^[i] m)).2) g.fuel past (g.roster tops)
        (g.round^[i + 1] m) ∧ ∀ n ∈ tops, Course.Met past n .normal := by
    intro i
    rw [Function.iterate_succ_apply']
    obtain ⟨-, -, -, -, h_course⟩ :=
      h.generate_round h_crash h_ordered h_fuel (h_rest i).1 (h_rest i).2
    exact h_course
  choose past h_under h_met using h_course
  refine ⟨past, ?_⟩
  constructor
  case justified => exact fun i => (h_under i).justified
  case tops_met => exact h_met
  case follows =>
    intro i n h_n
    obtain ⟨-, -, -, h_cells, -⟩ := (h.tells_hasNextCase h_ordered h_fuel (h_rest i).1).exists_ok
    rw [← h_cells]
    exact follows_of_underway (h_under i) h_fuel h_n
  case listed => exact fun i => (h_under i).asked_listed
  case nulls => exact (h_under 0).nulls
  case visited => exact fun i => (h_under i).visited
  case sound => exact h_sound

/-- **Some round is the last one.** After a number of rounds that depends on the size of the graph
only, no root has cases left. -/
theorem exists_exhausted (h_calls : ∀ n n', Member tops n → g.scope.Calls n n' →
      rank n'.key < rank n.key) (h_untangled : g.scope.Untangled (Member tops)) (h_quiet : m.Quiet)
    (h_free : Unfixed m) (h_sound : ∀ n, Member tops n → g.scope.Sound n (m.cell n.key)) :
    ∃ i ≤ 4 * g.graph.size * 3 ^ g.graph.size,
      ¬ g.AnyLeft tops (g.round^[i] m) := by
  obtain ⟨past, h_run⟩ := h.exists_run h_crash h_ordered h_fuel h_quiet h_free h_sound
  obtain ⟨members, h_members, h_card⟩ := h.exists_members
  have h_below : ∀ n n', Member tops n → g.scope.Calls n n' →
      Member tops n' ∧ rank n'.key < rank n.key :=
    fun n n' h_n h_step => ⟨h.member_of_calls h_n h_step, h_calls n n' h_n h_step⟩
  have h_recurs : ∀ n, Member tops n →
      Recurs (3 ^ g.graph.size) fun i => .served n ∈ past i := by
    intro n h_n
    refine (h_run.recurs_served h_untangled h_below (fun key => Nat.le_of_lt_succ (h_fuel key))
      (fun n h_n => above_of_member h_n) h_n).mono ?_ fun _ => id
    exact Nat.pow_le_pow_right (by omega) (Nat.sub_le _ _)
  obtain ⟨i, h_i, h_done⟩ := h_run.exists_done h_members h_recurs
  have h_bound : i ≤ 4 * g.graph.size * 3 ^ g.graph.size := by
    calc i ≤ 4 * members.card * 3 ^ g.graph.size := h_i
      _ ≤ 4 * g.graph.size * 3 ^ g.graph.size :=
          Nat.mul_le_mul_right _ (Nat.mul_le_mul_left _ h_card)
  refine ⟨i, h_bound, ?_⟩
  rintro ⟨t, h_t, h_pending⟩
  obtain ⟨n, h_n, h_due, -⟩ := h_pending.exists_due (fun n n' h_n => h.member_of_calls h_n)
    (fun n h_n => h_run.sound_at h_n i) (member_iff.2 ⟨t, h_t, t.inside_self⟩)
  exact h_done n h_n h_due

/-- An enumeration goes on for as long as a root has cases left. -/
theorem ends_goOn (limit allowed : Nat) (done : List DataSet) (h_quiet : m.Quiet)
    (h_free : Unfixed m) : Ends (g.goOn limit allowed done) m (fun ds m' => ∃ k ≤ allowed,
      ds.length = done.length + k ∧ (∀ key, m'.cell key = (g.round^[k] m).cell key) ∧
        (∀ i < k, g.AnyLeft tops (g.round^[i] m)) ∧
          (k = allowed ∨ ¬ g.AnyLeft tops (g.round^[k] m)))
      fun _ _ => False := by
  induction allowed generalizing done m with
  | zero =>
    obtain ⟨b, h_next, -, h_cells, -⟩ := (h.tells_hasNextCase h_ordered h_fuel h_quiet).exists_ok
    rw [goOn.eq_def, ends_bind_of_ok h_next]
    have h_none : ∀ i < 0, g.AnyLeft tops (g.round^[i] m) :=
      fun i h_i => absurd h_i (Nat.not_lt_zero i)
    cases b with
    | true => exact ⟨0, Nat.le_refl 0, by simp, h_cells, h_none, .inl rfl⟩
    | false => exact ⟨0, Nat.le_refl 0, by simp, h_cells, h_none, .inl rfl⟩
  | succ allowed ih =>
    obtain ⟨b, h_next, h_b, h_cells, -⟩ := (h.tells_hasNextCase h_ordered h_fuel h_quiet).exists_ok
    rw [goOn.eq_def, ends_bind_of_ok h_next]
    cases b with
    | false =>
      refine ⟨0, Nat.zero_le _, by simp, h_cells, fun i h_i => absurd h_i (Nat.not_lt_zero i), ?_⟩
      exact .inr fun h_left => by cases h_b.2 h_left
    | true =>
      obtain ⟨d, h_pass, h_quiet', h_free', -⟩ :=
        h.generate_round h_crash h_ordered h_fuel h_quiet h_free
      simp only [if_true]
      rw [ends_bind_of_ok h_pass]
      refine (ih (d :: done) h_quiet' h_free').mono (fun ds m' h_m' => ?_) fun _ _ h_bad => h_bad
      -- The `k` rounds of the rest come after the one just made.
      obtain ⟨k, h_k, h_length, h_cells', h_before, h_end⟩ := h_m'
      refine ⟨k + 1, Nat.succ_le_succ h_k, ?_, h_cells', ?_, ?_⟩
      · rw [h_length, List.length_cons]
        omega
      · rintro (_ | i) h_i
        · exact h_b.1 rfl
        · exact h_before i (Nat.lt_of_succ_lt_succ h_i)
      · exact h_end.imp_left (congrArg Nat.succ)

/-- **How enumerations end.** An enumeration is over when no root has cases left or the limit is
reached. -/
theorem exists_enumerate (limit : Nat) (h_quiet : m.Quiet) (h_free : Unfixed m) : ∃ ds m',
    g.enumerate limit m = (.ok ds, m') ∧ ds.length ≤ limit ∧
      (∀ i < ds.length, g.AnyLeft tops (g.round^[i] (casesReset tops m))) ∧
        (ds.length = limit ∨ ¬ g.AnyLeft tops (g.round^[ds.length] (casesReset tops m))) ∧
          ∃ b m'', g.hasNextCase m' = (.ok b, m'') ∧
            (b = true ↔ g.AnyLeft tops (g.round^[ds.length] (casesReset tops m))) := by
  have h_settled := settled_casesReset tops m
  have h_ends : Ends (g.enumerate limit) m (fun ds m' => ∃ k ≤ limit, ds.length = k ∧
      (∀ key, m'.cell key = (g.round^[k] (casesReset tops m)).cell key) ∧
        (∀ i < k, g.AnyLeft tops (g.round^[i] (casesReset tops m))) ∧
          (k = limit ∨ ¬ g.AnyLeft tops (g.round^[k] (casesReset tops m))))
      fun _ _ => False := by
    rw [enumerate, ends_bind, h.ends_resetCases]
    simpa using h.ends_goOn h_crash h_ordered h_fuel limit limit [] (h_settled.quiet h_quiet)
      (h_free.of_settled h_settled)
  obtain ⟨ds, h_eq, k, h_k, rfl, h_cells, h_before, h_end⟩ := h_ends.exists_ok
  refine ⟨ds, _, h_eq, h_k, h_before, h_end, ?_⟩
  -- the last memory is that after the last round, as far as the nodes are concerned
  have h_same : (g.enumerate limit m).2.cell = (g.round^[ds.length] (casesReset tops m)).cell :=
    funext h_cells
  have h_quiet' : (g.enumerate limit m).2.Quiet := fun key => by
    rw [h_same]
    exact (h.rounds_rest h_crash h_ordered h_fuel (h_settled.quiet h_quiet)
      (h_free.of_settled h_settled) ds.length).1 key
  obtain ⟨b, h_next, h_b, -⟩ := (h.tells_hasNextCase h_ordered h_fuel h_quiet').exists_ok
  rw [AnyLeft, h_same] at h_b
  exact ⟨b, _, h_next, h_b⟩

end Rounds

end Represents

/-! ### Enumerations -/

/-- Generators of one configuration have one graph. -/
theorem graph_of_ofConfig {c : Config} {o : GeneratorOptions} {random : UInt64} {g : Generator}
    (h : ofConfig c o random = .ok g) :
    g.graph = ((Graph.buildConfig c).run (.empty .builtin)).2 := by
  unfold ofConfig at h
  by_cases h_ok : c.check.isOk = true
  · simp only [if_pos h_ok] at h
    split at h
    · next roots graph h_build =>
      cases h
      rw [h_build]
      rfl
    · cases h
  · simp only [if_neg h_ok] at h
    cases h

/-- **Enumerations exhaust all cases.** If all fields can write their values, and optional nodes are
ignored or do not get in each other's way, there is a number of passes that is always enough: with
at least this limit no case is left at the end of an enumeration. -/
theorem enumerate_exhausts {c : Config} (h_renders : c.FieldsRender) {ignore : Bool}
    (h_untangled : ignore = false → c.Untangled) : ∃ most, ∀ o random g,
      o.ignoreOptional = ignore → ofConfig c o random = .ok g → ∀ m, g.Reachable m → Unfixed m →
        ∀ limit, most ≤ limit → ∃ ds m', g.enumerate limit m = (.ok ds, m') ∧ ds.length ≤ most ∧
          ∃ m'', g.hasNextCase m' = (.ok false, m'') := by
  let size := ((Graph.buildConfig c).run (.empty .builtin)).2.size
  refine ⟨4 * size * 3 ^ size, fun o random g h_ignore h_ok m h_m h_free limit h_limit => ?_⟩
  obtain ⟨⟨tops, h⟩, h_heeds, -⟩ := ofConfig_represents h_ok
  have h_size : g.graph.size = size := by rw [graph_of_ofConfig h_ok]
  obtain ⟨rank, h_fuel, h_ordered, h_calls⟩ := h.exists_ordered
  have h_crash := h.crashesOnly_of_fieldsRender h_renders
  have h_quiet := h.quiet_of_reachable h_m
  -- the enumeration begins by forgetting which cases were served
  have h_settled := settled_casesReset tops m
  have h_sound : ∀ n, Represents.Member tops n →
      g.scope.Sound n ((casesReset tops m).cell n.key) := by
    intro n h_n child rule h_kind
    rw [Represents.cell_casesReset h_n]
    exact ⟨FairChoice.sound_fresh, fun _ _ h_true => by cases h_true⟩
  have h_run := h.exists_exhausted h_crash h_ordered h_fuel h_calls
    (h.untangled fun h_false => h_untangled (by rw [← h_ignore, ← h_heeds, h_false]))
    (h_settled.quiet h_quiet) (h_free.of_settled h_settled) h_sound
  obtain ⟨i, h_i, h_done⟩ := h_run
  rw [h_size] at h_i
  obtain ⟨ds, m', h_eq, h_length, h_before, h_end, b, m'', h_next, h_b⟩ :=
    h.exists_enumerate h_crash h_ordered h_fuel limit h_quiet h_free
  -- no pass comes after that round
  have h_le : ds.length ≤ i := by
    by_contra h_lt
    exact h_done (h_before i (Nat.lt_of_not_le h_lt))
  have h_none : ¬ g.AnyLeft tops (g.round^[ds.length] (casesReset tops m)) := by
    rcases h_end with h_all | h_none
    · have h_last : ds.length = i := by omega
      exact h_last ▸ h_done
    · exact h_none
  refine ⟨ds, m', h_eq, by omega, m'', ?_⟩
  cases b with
  | true => exact absurd (h_b.1 rfl) h_none
  | false => exact h_next

theorem fieldsRender_numberAndCopy : numberAndCopy.FieldsRender := by
  intro p x spec f h_x h_kind h_f
  rcases at?_numberAndCopy h_x with ⟨-, h_field⟩ | ⟨-, h_optional⟩
  · rw [h_kind] at h_field
    cases h_field
    rw [Field.ofSpec_number] at h_f
    split at h_f
    · cases h_f
      trivial
    · cases h_f
  · rw [h_kind] at h_optional
    cases h_optional

theorem untangled_numberAndCopy : numberAndCopy.Untangled := by
  have h_copy : ∀ {p}, numberAndCopy.IsOptional p → p = [1] := by
    rintro p ⟨x, child, rule, h_x, h_kind⟩
    rcases at?_numberAndCopy h_x with ⟨-, h_field⟩ | ⟨h_p, -⟩
    · rw [h_kind] at h_field
      cases h_field
    · exact h_p
  exact Config.untangled_of_unique fun p p' h_p h_p' => (h_copy h_p).trans (h_copy h_p').symm

theorem enumerate_exhausts_numberAndCopy : ∃ g most, ofConfig numberAndCopy {} 0 = .ok g ∧
    numberAndCopy.FieldsRender ∧ numberAndCopy.Untangled ∧
    g.Reachable (g.freshMemory.withDraws default) ∧ Unfixed (g.freshMemory.withDraws default) ∧
    ∃ ds m', g.enumerate most (g.freshMemory.withDraws default) = (.ok ds, m') ∧
      ds.length ≤ most ∧ ∃ m'', g.hasNextCase m' = (.ok false, m'') := by
  obtain ⟨g, h_ok, -⟩ := exists_ofConfig_numberAndCopy
  obtain ⟨most, h_most⟩ := enumerate_exhausts fieldsRender_numberAndCopy
    fun _ : false = false => untangled_numberAndCopy
  have h_free : Unfixed (g.freshMemory.withDraws default) := fun _ => rfl
  exact ⟨g, most, h_ok, fieldsRender_numberAndCopy, untangled_numberAndCopy, .start default, h_free,
    h_most {} 0 g rfl h_ok _ (.start default) h_free most (Nat.le_refl most)⟩

end Generator

end Specimen
