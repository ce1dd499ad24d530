import Specimen.Proofs.Generator.Limit
import Specimen.Proofs.Generator.Overrides
import Specimen.Proofs.Node.Reaching

/-!
# Enumerations with pinned nodes

An override answers in place of its node, and what is asked for in this way counts for no case. So
an enumeration gets to those nodes only that a root reaches along links without a pinned node. If
nothing is optional, then these nodes go through their cases side by side, as if no node was pinned,
and all others serve nothing (`Represents.progress_reached`, `Represents.served_of_not_reached`).

Looking for cases that are left takes no notice of overrides. Therefore an enumeration ends by
itself if every constraint with cases of its own is reached, and then it gives as many data sets as
cases are counted; and otherwise only its limit ends it (`Generator.enumerate_pinned`).
-/

namespace Specimen

namespace Generator

/-- The passes of an enumeration get to the node at a place: a root reaches it. -/
def ReachesAt (g : Generator) (m : Memory) (p : Place) : Prop :=
  ∃ id ∈ g.roots, ∃ t n, g.graph.nodes.get? id = some t ∧ g.nodeAt? p = some n ∧
    g.scope.Reaches m.cell t n

namespace Represents

variable {g : Generator} {c : Config} {tops : List Node} {m m' : Memory}

/-- A root reaches a node. -/
def Reached (g : Generator) (tops : List Node) (cells : Nat → Cell) (n : Node) : Prop :=
  ∃ t ∈ tops, g.scope.Reaches cells t n

theorem reached_congr {cells cells' : Nat → Cell} {n : Node}
    (h_cells : ∀ key, (cells' key).override = (cells key).override) :
    Reached g tops cells' n ↔ Reached g tops cells n :=
  ⟨fun ⟨t, h_t, h_n⟩ => ⟨t, h_t, h_n.congr fun key => (h_cells key).symm⟩,
    fun ⟨t, h_t, h_n⟩ => ⟨t, h_t, h_n.congr h_cells⟩⟩

variable (h : g.Represents c tops)
include h

/-- What a root reaches, and the nodes around it. -/
theorem region (h_none : ∀ p, ¬ c.IsOptional p) (m : Memory) :
    g.scope.Region (Member tops) (Reached g tops m.cell) m.cell where
  closed := h.closed
  unique _ _ h_n h_n' := h.eq_of_key_eq h_n h_n'
  plain _ h_n := h.isOptional_eq_false h_none h_n
  onward := fun _ _ _ ⟨t, h_t, h_n⟩ h_link h_target h_free =>
    ⟨t, h_t, h_n.snoc h_link h_target h_free⟩

/-! ### Passes -/

/-- What the pass has made of the nodes so far, when some roots have been asked for their values. -/
structure Underway (g : Generator) (tops : List Node) (before m : Memory) (d : DataSet) : Prop where
  delivering : g.scope.Delivering (Member tops) (Reached g tops before.cell) before m
  fields : before.FieldsPass (Member tops) m
  roots : ∀ id v, d.values.get? id = some v → ∀ t, g.graph.nodes.get? id = some t →
    ∀ n, Member tops n → g.scope.Reaches before.cell t n → n.Delivered (m.cell n.key)

omit h in
/-- At the beginning of the pass nothing is kept. -/
theorem Underway.start : Underway g tops m (passBegun tops m) .empty where
  delivering := {
    override := fun key => (settled_passBegun tops m key).2.2
    kept := fun n h_n _ h_some => absurd (by rw [cell_passBegun h_n]; rfl) h_some
    spared := fun n h_n _ => by rw [cell_passBegun h_n]; rfl }
  fields := fun n f set h_n _ => .unasked (by rw [cell_passBegun h_n]; rfl)
    (by rw [cell_passBegun h_n]; rfl)
  roots := fun id v h_v => by cases h_v

/-- **One root.** -/
theorem Underway.value (h_none : ∀ p, ¬ c.IsOptional p) {before : Memory} {id : String}
    (h_id : id ∈ g.roots) {d : DataSet} {v w : Option String}
    (h_value : g.value id .normal m = (.ok v, m')) (h_m : Underway g tops before m d) :
    Underway g tops before m' (d.put id w) := by
  obtain ⟨t, h_t, h_get, -⟩ := h.get?_root h_id
  have h_member : Member tops t := member_iff.2 ⟨t, h_t, t.inside_self⟩
  rw [Generator.value, find_eq h_get, pure_bind] at h_value
  have h_region := h.region h_none before
  obtain ⟨h_delivering, h_still, h_reached⟩ := (Node.value_delivers h_region g.fuel h_member
    (fun h_free => ⟨t, h_t, .self h_free⟩) h_m.delivering).of_ok h_value
  refine ⟨h_delivering, ?_, forall_put ?_ fun id' v' h_v' t' h_get' n h_n h_path => ?_⟩
  · exact (Node.value_passes h_region.closed h_region.unique h_m.fields g.fuel h_member
      (.inl rfl)).of_ok h_value
  · intro t' h_get' n _ h_path
    obtain rfl := Option.some.inj (h_get.symm.trans h_get')
    exact h_reached n h_path
  · exact h_still n h_n (h_m.roots id' v' h_v' t' h_get' n h_n h_path)

/-- **A pass.** All nodes that a root reaches have delivered a value in the end, and the others have
served nothing more. -/
theorem ends_generate_delivers (h_none : ∀ p, ¬ c.IsOptional p) : Ends (g.generate .normal) m
    (fun _ m' => m.FieldsPass (Member tops) m' ∧ ∀ n, Member tops n →
      (Reached g tops m.cell n → n.Delivered (m'.cell n.key)) ∧
        (¬ Reached g tops m.cell n → (m'.cell n.key).served = (m.cell n.key).served)) Anyhow := by
  rw [generate, ends_bind, h.ends_beginPass, ends_bind]
  refine (ends_fill (I := Underway g tops m)
    (fun id h_id d k v k' h_value h_k => h_k.value h h_none h_id h_value) g.roots (fun _ => id) _
    .start).mono (fun d last h_d => ?_) fun _ _ _ => trivial
  rw [ends_bind, ends_log, ends_pure]
  obtain ⟨h_last, h_all⟩ := h_d
  refine ⟨h_last.fields, fun n h_n => ⟨?_, h_last.delivering.spared n h_n⟩⟩
  rintro ⟨t, h_t, h_path⟩
  rw [← h.filterMap_roots] at h_t
  obtain ⟨id, h_id, h_get⟩ := List.mem_filterMap.1 h_t
  obtain ⟨v, h_v⟩ := h_all id (.inl h_id)
  exact h_last.roots id v h_v t h_get n h_n h_path

/-! ### Enumerations -/

section Passes

variable (h_crash : Scope.CrashesOnly (Member tops) fun _ => False)
  (h_none : ∀ p, ¬ c.IsOptional p) (h_quiet : m.Quiet)
include h_crash h_none h_quiet

/-- **The passes of an enumeration**, whatever is pinned. -/
theorem pass_delivers (k : Nat) :
    (g.afterPasses m k).FieldsPass (Member tops) (g.afterPasses m (k + 1)) ∧
      ∀ n, Member tops n →
        (Reached g tops m.cell n → n.Delivered ((g.afterPasses m (k + 1)).cell n.key)) ∧
          (¬ Reached g tops m.cell n → ((g.afterPasses m (k + 1)).cell n.key).served =
            ((g.afterPasses m k).cell n.key).served) := by
  have h_settled := h.settled_afterPasses h_quiet k
  have h_cells := h.cell_hasNextCase (h_settled.quiet h_quiet)
  have h_looked := h_settled.trans (.of_cells h_cells)
  obtain ⟨d, h_pass, -⟩ :=
    (h.generate_settles h_crash .normal (h_looked.quiet h_quiet)).answers.exists_ok
  have h_round : (g.generate .normal (g.hasNextCase (g.afterPasses m k)).2).2 =
      g.afterPasses m (k + 1) := by
    rw [afterPasses_succ, round]
  rw [h_round] at h_pass
  obtain ⟨h_fields, h_nodes⟩ := (h.ends_generate_delivers h_none).of_ok h_pass
  -- looking for cases changes no cell, and overrides are as they were at the beginning
  have h_reached (n : Node) :
      Reached g tops (g.hasNextCase (g.afterPasses m k)).2.cell n ↔ Reached g tops m.cell n :=
    reached_congr fun key => (h_looked key).2.2
  refine ⟨fun n f set h_n h_kind => ?_, fun n h_n => ?_⟩
  · exact (h_fields n f set h_n h_kind).congr (by rw [h_cells]) rfl rfl
  · rw [← h_reached n, ← h_cells]
    exact h_nodes n h_n

/-- **What is reached goes on.** After a number of passes every node that a root reaches has served
this many of its cases. -/
theorem progress_reached (k : Nat) {n : Node} (h_n : Member tops n)
    (h_reached : Reached g tops m.cell n) : n.Progress k ((g.afterPasses m k).cell n.key) := by
  induction k with
  | zero =>
    refine Node.progress_zero ?_
    rw [h.afterPasses_zero, cell_casesReset h_n]
    rfl
  | succ k ih =>
    obtain ⟨h_fields, h_nodes⟩ := h.pass_delivers h_crash h_none h_quiet k
    exact ih.next_of_delivered (fun f set => h_fields n f set h_n) ((h_nodes n h_n).1 h_reached)

/-- **What is not reached stays behind.** It serves nothing in any pass. -/
theorem served_of_not_reached (k : Nat) {n : Node} (h_n : Member tops n)
    (h_not : ¬ Reached g tops m.cell n) : ((g.afterPasses m k).cell n.key).served = [] := by
  induction k with
  | zero =>
    rw [h.afterPasses_zero, cell_casesReset h_n]
    rfl
  | succ k ih => rw [((h.pass_delivers h_crash h_none h_quiet k).2 n h_n).2 h_not, ih]

/-- **How long cases are left.** A node with cases of its own that no root reaches has them left
after any number of passes. If there is none, then cases are left just for as long as one of the
constraints has more than there were passes. -/
theorem anyLeft_iff_pinned (k : Nat) : g.AnyLeft tops (g.afterPasses m k) ↔
    (∃ n, Member tops n ∧ 0 < n.kind.width ∧ ¬ Reached g tops m.cell n) ∨ k < c.width := by
  -- nothing is optional, so a root has cases left whenever a node inside it has
  have h_forced : g.scope.Forced (Member tops) := h.forced
    (.inr fun p x child rule h_x h_kind => absurd ⟨x, child, rule, h_x, h_kind⟩ (h_none p))
  have h_left : ∀ {n i}, Member tops n → n.Progress i ((g.afterPasses m k).cell n.key) →
      i < n.kind.width → g.AnyLeft tops (g.afterPasses m k) := by
    intro n i h_n h_progress h_lt
    obtain ⟨t, h_t, h_inside⟩ := member_iff.1 h_n
    exact ⟨t, h_t, .of_inside h_forced (fun l h_l => member_iff.2 ⟨t, h_t, h_l⟩) h_inside
      (h_progress.pending_of_lt h_lt)⟩
  have h_behind : ∀ n, Member tops n → ¬ Reached g tops m.cell n →
      n.Progress 0 ((g.afterPasses m k).cell n.key) := fun n h_n h_not =>
    Node.progress_zero (h.served_of_not_reached h_crash h_none h_quiet k h_n h_not)
  have h_reached := fun n h_n => h.progress_reached h_crash h_none h_quiet k (n := n) h_n
  constructor
  · rintro ⟨t, h_t, h_pending⟩
    by_contra h_over
    obtain ⟨h_all, h_done⟩ := not_or.1 h_over
    -- then all nodes have served as many cases as there were passes, or have none
    refine h_done (h.lt_width_iff.2 (h_pending.exists_wide h_forced h.closed (fun n h_n => ?_)
      (member_iff.2 ⟨t, h_t, t.inside_self⟩)))
    by_cases h_n_reached : Reached g tops m.cell n
    · exact h_reached n h_n h_n_reached
    · have h_width : n.kind.width = 0 := Nat.eq_zero_of_not_pos fun h_pos =>
        h_all ⟨n, h_n, h_pos, h_n_reached⟩
      exact (h_behind n h_n h_n_reached).of_width_eq_zero h_width
  · rintro (⟨n, h_n, h_pos, h_not⟩ | h_lt)
    · exact h_left h_n (h_behind n h_n h_not) h_pos
    · obtain ⟨n, h_n, h_lt⟩ := h.lt_width_iff.1 h_lt
      by_cases h_n_reached : Reached g tops m.cell n
      · exact h_left h_n (h_reached n h_n h_n_reached) h_lt
      · exact h_left h_n (h_behind n h_n h_n_reached) (by omega)

end Passes

/-- The places that are reached are those of the nodes that a root reaches. -/
theorem reachesAt_iff {p : Place} {n : Node} (h_p : Specimen.nodeAt? tops p = some n) :
    g.ReachesAt m p ↔ Reached g tops m.cell n := by
  constructor
  · rintro ⟨id, h_id, t, n', h_t, h_n', h_path⟩
    rw [h.nodeAt?_eq, h_p] at h_n'
    obtain rfl := Option.some.inj h_n'
    refine ⟨t, ?_, h_path⟩
    rw [← h.filterMap_roots]
    exact List.mem_filterMap.2 ⟨id, h_id, h_t⟩
  · rintro ⟨t, h_t, h_path⟩
    rw [← h.filterMap_roots] at h_t
    obtain ⟨id, h_id, h_get⟩ := List.mem_filterMap.1 h_t
    exact ⟨id, h_id, t, n, h_get, (h.nodeAt?_eq p).trans h_p, h_path⟩

/-- The nodes with cases of their own that are not reached are those of such constraints. -/
theorem exists_not_reached_iff :
    (∃ n, Member tops n ∧ 0 < n.kind.width ∧ ¬ Reached g tops m.cell n) ↔
      ∃ p x, c.at? p = some x ∧ 0 < x.kind.ownWidth ∧ ¬ g.ReachesAt m p := by
  constructor
  · rintro ⟨n, ⟨p, h_p⟩, h_width, h_not⟩
    obtain ⟨x, above, h_x, -⟩ := mirrors_of_nodeAt? h.mirrors h_p
    rw [h.width_eq h_x h_p] at h_width
    exact ⟨p, x, h_x, h_width, fun h_reached => h_not ((h.reachesAt_iff h_p).1 h_reached)⟩
  · rintro ⟨p, x, h_x, h_width, h_not⟩
    obtain ⟨n, above, h_p, -⟩ := mirrors_nodeAt? h.mirrors h_x
    rw [← h.width_eq h_x h_p] at h_width
    exact ⟨n, ⟨p, h_p⟩, h_width, fun h_reached => h_not ((h.reachesAt_iff h_p).2 h_reached)⟩

/-- **How an enumeration ends**, whatever is pinned: it returns, runs passes for as long as a root
has cases left, and ends where none has or at the limit, which it logs. -/
theorem exists_enumerate_pinned (h_crash : Scope.CrashesOnly (Member tops) fun _ => False)
    (h_graph : g.graph.Coherent) (h_quiet : m.Quiet) (limit : Nat) :
    ∃ ds m' b m'', g.enumerate limit m = (.ok ds, m') ∧ ds.length ≤ limit ∧
      (∀ k < ds.length, g.AnyLeft tops (g.afterPasses m k)) ∧
      g.hasNextCase m' = (.ok b, m'') ∧ (b = true ↔ g.AnyLeft tops (g.afterPasses m ds.length)) ∧
      (b = true → ds.length = limit ∧ CutOff limit m m') := by
  obtain ⟨rank, h_fuel, h_ordered, -⟩ := h.exists_ordered
  obtain ⟨ds, h_sets, h_settled⟩ := (h.enumerate_settles h_crash limit h_quiet).answers.exists_ok
  obtain ⟨m₀, h_reset, h_on⟩ := enumerate_eq_ok_iff.1 h_sets
  have h_quiet₀ : m₀.Quiet := ((Runs.resetCases m h_quiet).of_ok h_reset).quiet
  have h_log : m₀.log = m.log :=
    (g.ends_forRoots_log (fun n m => m.updateAll_log _ n.keys) g.roots m).of_ok h_reset
  have h_tells : ∀ {m' : Memory} {b : Bool}, m'.Quiet → (g.hasNextCase m').1 = .ok b →
      (b = true ↔ g.AnyLeft tops m') := by
    intro m' b h_quiet' h_found
    obtain ⟨b', h_next, h_b', -⟩ := (h.tells_hasNextCase h_ordered h_fuel h_quiet').exists_ok
    rw [h_next] at h_found
    exact Except.ok.inj h_found ▸ h_b'
  obtain ⟨b, m'', h_next, h_cut, h_length⟩ := h_on.again h_graph h_quiet₀
  rw [CutOff, h_log] at h_cut
  refine ⟨ds, _, b, m'', h_sets, h_on.length_le, fun k h_k => ?_, h_next, ?_,
    fun h_true => ⟨h_length h_true, h_cut.1 h_true⟩⟩
  · have h_found := h_on.hasNextCase_eq k h_k
    have h_start : g.afterPasses m k = g.round^[k] m₀ := by rw [afterPasses, h_reset]
    rw [← h_start] at h_found
    exact (h_tells ((h.settled_afterPasses h_quiet k).quiet h_quiet) h_found).1 rfl
  · -- the cells at the end are those after the last pass
    have h_cells : (g.enumerate limit m).2.cell = (g.afterPasses m ds.length).cell :=
      funext fun key => h.cell_enumerate h_quiet h_sets key
    rw [h_tells (h_settled.quiet h_quiet) (congrArg Prod.fst h_next), AnyLeft, AnyLeft, h_cells]

end Represents

/-- **Pinned nodes and the end of an enumeration.** Take a configuration without optional
constraints whose fields can write their values, any random stream, and any reachable memory, so
with whatever overrides are installed. Counting the cases gives the width of the configuration, and
an enumeration returns.

If every constraint with cases of its own is reached from a root without passing through a pinned
node, then it gives as many data sets as cases are counted, or as many as its limit is if that is
lower, and a case is left just if the limit was lower. Otherwise it gives as many data sets as its
limit allows, is stopped by it, and leaves a case behind. -/
theorem enumerate_pinned {c : Config} {o : GeneratorOptions} {random : UInt64} {g : Generator}
    (h_ok : ofConfig c o random = .ok g) (h_none : ∀ p, ¬ c.IsOptional p)
    (h_renders : c.FieldsRender) {m : Memory} (h_m : g.Reachable m) (limit : Nat) :
    ∃ ds m', g.enumerate limit m = (.ok ds, m') ∧
      (∃ m₁, g.countCases m = (.ok c.width, m₁)) ∧
      ((∀ p x, c.at? p = some x → 0 < x.kind.ownWidth → g.ReachesAt m p) →
        ds.length = min limit c.width ∧
          ∃ m'', g.hasNextCase m' = (.ok (decide (limit < c.width)), m'')) ∧
      ∀ p x, c.at? p = some x → 0 < x.kind.ownWidth → ¬ g.ReachesAt m p →
        ds.length = limit ∧ (∃ m'', g.hasNextCase m' = (.ok true, m'')) ∧ CutOff limit m m' := by
  obtain ⟨⟨tops, h⟩, -⟩ := ofConfig_represents h_ok
  have h_crash := h.crashesOnly_of_fieldsRender h_renders
  have h_quiet := h.quiet_of_reachable h_m
  have h_left := h.anyLeft_iff_pinned h_crash h_none h_quiet
  rw [h.exists_not_reached_iff] at h_left
  obtain ⟨ds, m', b, m'', h_sets, h_limit, h_before, h_next, h_b, h_cut⟩ :=
    h.exists_enumerate_pinned h_crash (Session.coherent_ofConfig h_ok) h_quiet limit
  refine ⟨ds, m', h_sets, h.exists_countCases h_none h_quiet, fun h_all => ?_,
    fun p x h_x h_width h_not => ?_⟩
  · -- cases are left for as many passes as the configuration is wide
    have h_nobody : ¬ ∃ p x, c.at? p = some x ∧ 0 < x.kind.ownWidth ∧ ¬ g.ReachesAt m p :=
      fun ⟨p, x, h_x, h_width, h_not⟩ => h_not (h_all p x h_x h_width)
    simp only [h_left, or_iff_right h_nobody] at h_before h_b
    have h_le : ds.length ≤ c.width := by
      rcases Nat.eq_zero_or_pos ds.length with h_zero | h_pos
      · omega
      · have h_last := h_before (ds.length - 1) (by omega)
        omega
    cases b with
    | true =>
      have h_length := (h_cut rfl).1
      have h_more := h_b.1 rfl
      exact ⟨by omega, m'', by rw [decide_eq_true (by omega), h_next]⟩
    | false =>
      have h_done : ¬ ds.length < c.width := fun h_more => Bool.false_ne_true (h_b.2 h_more)
      exact ⟨by omega, m'', by rw [decide_eq_false (by omega), h_next]⟩
  · -- that constraint has cases left at any time
    have h_true : b = true := h_b.2 ((h_left _).2 (.inl ⟨p, x, h_x, h_width, h_not⟩))
    obtain ⟨h_length, h_logged⟩ := h_cut h_true
    exact ⟨h_length, ⟨m'', h_true ▸ h_next⟩, h_logged⟩

/-- A number, and an echo of it. -/
def numberAndEcho : Config :=
  ⟨Config.supportedVersion, none, .empty, [
    .mk (some "number") none (.field (.number 0 2)),
    .mk (some "echo") none (.source (.reference "number"))]⟩

theorem at?_numberAndEcho {p : Place} {x : Config.Constraint}
    (h : numberAndEcho.at? p = some x) : (p = [0] ∧ x.kind = .field (.number 0 2)) ∨
      (p = [1] ∧ x.kind = .source (.reference "number")) := by
  -- none of the two constraints embeds another one
  match p with
  | 0 :: q =>
    obtain ⟨y, h_y, h_x⟩ := Config.at?_cons.1 h
    cases h_y
    obtain ⟨rfl, rfl⟩ := Config.Constraint.at?_of_flat (fun _ => List.not_mem_nil) h_x
    exact .inl ⟨rfl, rfl⟩
  | 1 :: q =>
    obtain ⟨y, h_y, h_x⟩ := Config.at?_cons.1 h
    cases h_y
    obtain ⟨rfl, rfl⟩ := Config.Constraint.at?_of_flat
      (fun z h_z => by cases List.mem_singleton.1 h_z) h_x
    exact .inr ⟨rfl, rfl⟩
  | (i + 2) :: q =>
    obtain ⟨y, h_y, -⟩ := Config.at?_cons.1 h
    cases h_y

theorem not_isOptional_numberAndEcho (p : Place) : ¬ numberAndEcho.IsOptional p := by
  rintro ⟨x, child, rule, h_x, h_kind⟩
  rcases at?_numberAndEcho h_x with ⟨-, h_other⟩ | ⟨-, h_other⟩ <;>
    exact absurd (h_kind.symm.trans h_other) nofun

theorem fieldsRender_numberAndEcho : numberAndEcho.FieldsRender := by
  intro p x spec f h_x h_kind h_f
  rcases at?_numberAndEcho h_x with ⟨-, h_number⟩ | ⟨-, h_echo⟩
  · obtain rfl := Config.Kind.field.inj (h_kind.symm.trans h_number)
    cases h_f
    trivial
  · cases h_kind.symm.trans h_echo

/-- The memory of a generator at its start, but with a node pinned to a value. -/
def pinned (g : Generator) (id value : String) : Memory :=
  (g.setOverride id (some fun _ => some value) (g.freshMemory.withDraws default)).2

theorem reachable_pinned (g : Generator) (id value : String) : g.Reachable (g.pinned id value) := by
  have h_step := (Reachable.start (g := g) default).step
    (.setOverride id (some fun _ => some value))
  rwa [Request.perform, snd_map] at h_step

/-- The number stands at its place, and is another node than the echo. -/
theorem exists_ofConfig_numberAndEcho : ∃ g number echo, ofConfig numberAndEcho {} 0 = .ok g ∧
    "number" ∈ g.roots ∧ g.graph.nodes.get? "number" = some number ∧
    g.nodeAt? [0] = some number ∧ g.graph.nodes.get? "echo" = some echo ∧
    number.key ≠ echo.key := by
  have h_keys : (ofConfig numberAndEcho {} 0).toOption.map (fun g =>
      (g.roots, (g.graph.nodes.get? "number").map Node.key, (g.nodeAt? [0]).map Node.key,
        (g.graph.nodes.get? "echo").map Node.key)) =
      some (["number", "echo"], some 0, some 0, some 1) := by decide +kernel
  obtain ⟨g, h_ok, h_g⟩ := exists_ok_of_map h_keys
  simp only [Prod.mk.injEq, Option.map_eq_some_iff] at h_g
  obtain ⟨h_roots, ⟨number, h_number, h_key⟩, ⟨n, h_n, h_n_key⟩, echo, h_echo, h_echo_key⟩ := h_g
  obtain ⟨⟨tops, h⟩, -⟩ := ofConfig_represents h_ok
  -- nodes with one key are one node
  have h_same : n = number := h.eq_of_key_eq ⟨[0], h.nodeAt?_eq [0] ▸ h_n⟩
    (h.get?_iff.1 h_number).1 (h_n_key.trans h_key.symm)
  exact ⟨g, number, echo, h_ok, by simp [h_roots], h_number, h_same ▸ h_n, h_echo,
    by rw [h_key, h_echo_key]; decide⟩

/-- While the echo is pinned, the number goes through its three cases; and while the number is
pinned itself, it goes through none. -/
theorem enumerate_pinned_numberAndEcho : ∃ g, ofConfig numberAndEcho {} 0 = .ok g ∧
    (∀ p, ¬ numberAndEcho.IsOptional p) ∧ numberAndEcho.FieldsRender ∧
    (g.Reachable (g.pinned "echo" "7") ∧ ∃ ds m' m'',
      g.enumerate 10 (g.pinned "echo" "7") = (.ok ds, m') ∧ ds.length = 3 ∧
        g.hasNextCase m' = (.ok false, m'')) ∧
    g.Reachable (g.pinned "number" "7") ∧ ∃ ds m' m'',
      g.enumerate 10 (g.pinned "number" "7") = (.ok ds, m') ∧ ds.length = 10 ∧
        g.hasNextCase m' = (.ok true, m'') := by
  obtain ⟨g, number, echo, h_ok, h_root, h_number, h_place, h_echo, h_keys⟩ :=
    exists_ofConfig_numberAndEcho
  obtain ⟨ds, m', h_sets, -, h_all, -⟩ := enumerate_pinned h_ok not_isOptional_numberAndEcho
    fieldsRender_numberAndEcho (g.reachable_pinned "echo" "7") 10
  obtain ⟨ds₁, m₁, h_sets₁, -, -, h_some⟩ := enumerate_pinned h_ok not_isOptional_numberAndEcho
    fieldsRender_numberAndEcho (g.reachable_pinned "number" "7") 10
  -- the number is reached in the first case, as it is a root and not pinned
  have h_free : ((g.pinned "echo" "7").cell number.key).override = none := by
    rw [pinned, setOverride_eq h_echo, Memory.cell_update_of_ne _ _ h_keys]
    rfl
  obtain ⟨h_length, m'', h_next⟩ := h_all fun p x h_x h_width => by
    rcases at?_numberAndEcho h_x with ⟨rfl, -⟩ | ⟨-, h_kind⟩
    · exact ⟨"number", h_root, number, number, h_number, h_place, .self h_free⟩
    · rw [h_kind] at h_width
      exact absurd h_width (Nat.lt_irrefl 0)
  -- and in the second case it is not
  have h_pinned : ((g.pinned "number" "7").cell number.key).override ≠ none := by
    rw [pinned, setOverride_eq h_number, Memory.cell_update_self]
    exact Option.some_ne_none _
  obtain ⟨h_length₁, ⟨m₁', h_next₁⟩, -⟩ := h_some [0] _ rfl (by decide) fun h_reached => by
    obtain ⟨id, -, t, n, -, h_n, h_path⟩ := h_reached
    obtain rfl := Option.some.inj (h_place.symm.trans h_n)
    exact h_pinned h_path.free_end
  exact ⟨g, h_ok, not_isOptional_numberAndEcho, fieldsRender_numberAndEcho,
    ⟨g.reachable_pinned "echo" "7", ds, m', m'', h_sets, h_length, h_next⟩,
    g.reachable_pinned "number" "7", ds₁, m₁, m₁', h_sets₁, h_length₁, h_next₁⟩

/-- **Pinned nodes block enumeration.** The number has three cases. While it is pinned they are left
forever, and an enumeration gives as many data sets as its limit allows. -/
theorem enumerate_blocked : ∃ g m₁ ds m' m'', ofConfig numberAndEcho {} 0 = .ok g ∧
    (∀ p, ¬ numberAndEcho.IsOptional p) ∧ numberAndEcho.FieldsRender ∧
    g.Reachable (g.pinned "number" "7") ∧ g.countCases (g.pinned "number" "7") = (.ok 3, m₁) ∧
    3 < 4 ∧ g.enumerate 4 (g.pinned "number" "7") = (.ok ds, m') ∧ ¬ ds.length ≤ 3 ∧
    g.hasNextCase m' = (.ok true, m'') := by
  have h_run : (ofConfig numberAndEcho {} 0).toOption.map (fun g =>
      let m := g.pinned "number" "7"
      ((g.countCases m).1.toOption, (g.enumerate 4 m).1.toOption.map List.length,
        (g.hasNextCase (g.enumerate 4 m).2).1.toOption)) =
      some (some 3, some 4, some true) := by decide +kernel
  obtain ⟨g, h_ok, h_g⟩ := exists_ok_of_map h_run
  obtain ⟨h_count, h_rest⟩ := Prod.mk.inj h_g
  obtain ⟨h_some, h_next⟩ := Prod.mk.inj h_rest
  obtain ⟨ds, h_ds, h_length⟩ := Option.map_eq_some_iff.1 h_some
  exact ⟨g, _, ds, _, _, h_ok, not_isOptional_numberAndEcho, fieldsRender_numberAndEcho,
    g.reachable_pinned "number" "7", eq_ok_of_toOption h_count, by decide, eq_ok_of_toOption h_ds,
    by omega, eq_ok_of_toOption h_next⟩

end Generator

end Specimen
