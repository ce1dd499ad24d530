import Specimen.Proofs.Node.Requests

/-!
# Every request goes well

There is one lemma for each way in which a node generates its value, which takes the requests that
the node makes on the way to go well (`Scope.GoesWell`). Together they are one computation
(`Comes.generates`), with the answers from overrides and caches one answer (`goesWell_of_answers`),
and by induction on the fuel all values go well (`Node.value_goesWell`).
-/

namespace Specimen

section Kinds

variable {s : Scope} {Member : Node → Prop} {rank : Nat → Nat} {before : Memory} {fuel r : Nat}
  {n : Node} {c : FieldCase} {origin : Option Node} {past : Course} {seen : Roster}
  {m m₁ m' : Memory} {v : Option String}

namespace Scope

/-! ### One computation -/

/-- A node without parts asks no others. -/
theorem Comes.leaf (h_keys : ∀ n n', Member n → Member n' → n.key = n'.key → n = n')
    (h : s.Comes Member rank before r n c origin past seen m)
    (h_new : n.kind.isStateless = false → (m.cell n.key).cache = none)
    (h_optional : n.kind.isOptional = false) (h_links : n.kind.links = [])
    (h_others : ∀ key, key ≠ n.key → m₁.cell key = m.cell key)
    (h_override : (m₁.cell n.key).override = (m.cell n.key).override)
    (h_cache : (m₁.cell n.key).cache = (m.cell n.key).cache)
    (h_concludes : Memory.Concludes n m₁ m')
    (h_follows : ∀ e, e = .served n ∧ c = .normal ∨ e = .nulled n ∧ c = .null →
      s.Follows (e :: past) n (before.cell n.key) (m'.cell n.key)) :
    s.Goes Member rank before (fuel + 1) r n c origin past seen m m' := by
  have h₁ : s.Underway Member rank before (rank n.key) past seen m₁ :=
    h.underway.touch (Nat.le_of_lt h.below) h_others h_override h_cache []
      fun e h_e => absurd h_e List.not_mem_nil
  refine h.complete h_keys h_new h₁ (.of_cells h_others) ?_ (fun _ => ?_) (fun h_true => ?_)
    h_concludes h_follows
  · rw [visitInside_eq h_optional, h_links, visitLinks]
  · rw [MeetsLinks, h_links]
    exact fun _ h_link => absurd h_link List.not_mem_nil
  · rw [h_optional] at h_true
    cases h_true

theorem Comes.constantNull (h_keys : ∀ n n', Member n → Member n' → n.key = n'.key → n = n')
    (h : s.Comes Member rank before r n .null origin past seen m) {value : String}
    (h_kind : n.kind = .constant value) {i : Identity} {c' : FieldCase}
    (h_concludes : Memory.Concludes n (m.begun n.key i c') m') :
    s.Goes Member rank before (fuel + 1) r n .null origin past seen m m' := by
  have h_cell := m.cell_begun_self n.key i c'
  refine h.leaf h_keys (by rw [h_kind]; simp [NodeKind.isStateless]) (by rw [h_kind]; rfl)
    (by rw [h_kind]; rfl) (fun key h_ne => m.cell_begun_of_ne i c' h_ne) (by rw [h_cell]; rfl)
    (by rw [h_cell]; rfl) h_concludes fun e h_e => ?_
  have h_own := h.underway.follows n h.member h.below
  rw [follows_constant h_kind] at h_own ⊢
  rw [h_concludes.served, h_cell]
  refine ⟨h_own.1, fun h_mem => h_own.2 ?_⟩
  rcases h_e with ⟨-, h_c⟩ | ⟨rfl, -⟩
  · cases h_c
  · exact (List.mem_cons.1 h_mem).resolve_left (by simp)

theorem Comes.constant (h_keys : ∀ n n', Member n → Member n' → n.key = n'.key → n = n')
    (h : s.Comes Member rank before r n c origin past seen m) {value : String}
    (h_kind : n.kind = .constant value) {i : Identity} {c' : FieldCase}
    (h_concludes : Memory.Concludes n ((m.begun n.key i c').update n.key (Cell.serve 0)) m') :
    s.Goes Member rank before (fuel + 1) r n c origin past seen m m' := by
  have h_cell : ((m.begun n.key i c').update n.key (Cell.serve 0)).cell n.key =
      ((m.cell n.key).hold m.tokens).serve 0 := by
    rw [Memory.cell_update_self, m.cell_begun_self]
  refine h.leaf h_keys (by rw [h_kind]; simp [NodeKind.isStateless]) (by rw [h_kind]; rfl)
    (by rw [h_kind]; rfl) (fun key h_ne => ?_) (by rw [h_cell, Cell.serve_override]; rfl)
    (by rw [h_cell, Cell.serve_cache]; rfl) h_concludes fun e _ => ?_
  · rw [Memory.cell_update_of_ne _ _ h_ne, m.cell_begun_of_ne i c' h_ne]
  · have h_own := h.underway.follows n h.member h.below
    rw [follows_constant h_kind] at h_own ⊢
    rw [h_concludes.served, h_cell]
    refine ⟨fun p h_p => Cell.mem_served_serve.2 (.inr (h_own.1 h_p)), fun _ h_none => ?_⟩
    have h_zero : (0 : Int) ∈ (((m.cell n.key).hold m.tokens).serve 0).served :=
      Cell.mem_served_serve.2 (.inl rfl)
    rw [h_none] at h_zero
    exact List.not_mem_nil h_zero

/-- A field that is served serves a boundary that is still pending, if there is one. -/
theorem Comes.field (h_keys : ∀ n n', Member n → Member n' → n.key = n'.key → n = n')
    (h : s.Comes Member rank before r n c origin past seen m)
    (h_new : (m.cell n.key).cache = none) {f : Field} {set : CharacterSet}
    (h_kind : n.kind = .field f set) {i : Identity} {c' : FieldCase} {draws : Draws}
    (h_m₁ : m₁ = (((m.begun n.key i c').served n.key f
      (f.caseFor (m.cell n.key).served c)).withDraws draws))
    (h_concludes : Memory.Concludes n m₁ m') :
    s.Goes Member rank before (fuel + 1) r n c origin past seen m m' := by
  have h_cell : m₁.cell n.key =
      if (f.caseFor (m.cell n.key).served c).isBoundary = true then
        ((m.cell n.key).hold m.tokens).serve (f.position (f.caseFor (m.cell n.key).served c))
      else (m.cell n.key).hold m.tokens := by
    rw [h_m₁, Memory.cell_withDraws, Memory.cell_served, m.cell_begun_self]
    simp only [true_and]
  -- whatever the case, nothing that was served is forgotten
  have h_more : (m.cell n.key).served ⊆ (m'.cell n.key).served := by
    intro p h_p
    rw [h_concludes.served, h_cell]
    split
    · exact Cell.mem_served_serve.2 (.inr h_p)
    · exact h_p
  refine h.leaf h_keys (fun _ => h_new) (by rw [h_kind]; rfl) (by rw [h_kind]; rfl)
    (fun key h_ne => ?_) ?_ ?_ h_concludes fun e h_e => ?_
  · rw [h_m₁, Memory.cell_withDraws, Memory.cell_served, if_neg fun h_and => h_ne h_and.1,
      m.cell_begun_of_ne i c' h_ne]
  · rw [h_cell]
    split
    · rw [Cell.serve_override]; rfl
    · rfl
  · rw [h_cell]
    split
    · rw [Cell.serve_cache]; rfl
    · rfl
  · have h_own := h.underway.follows n h.member h.below
    rw [follows_field h_kind] at h_own ⊢
    refine ⟨fun p h_p => h_more (h_own.1 h_p), fun h_mem b h_b h_before => ?_⟩
    rcases List.mem_cons.1 h_mem with rfl | h_old
    · obtain ⟨-, rfl⟩ | ⟨h_ne, -⟩ := h_e
      · -- a request for a value serves the next boundary, if one is left
        cases h_pending : pendingCase? f (m.cell n.key).served with
        | none =>
          have h_all := pendingCase?_eq_none_iff.1 h_pending
          exact ⟨b, h_b, h_before, h_more (h_all b h_b)⟩
        | some k =>
          obtain ⟨h_k, h_not, h_boundary⟩ := of_pendingCase? h_pending
          have h_case : f.caseFor (m.cell n.key).served .normal = k := by
            rw [Field.caseFor, if_pos rfl, h_pending]; rfl
          rw [h_case, if_pos h_boundary] at h_cell
          refine ⟨_, h_k, fun h_mem => h_not (h_own.1 h_mem), ?_⟩
          rw [h_concludes.served, h_cell]
          exact Cell.mem_served_serve.2 (.inl rfl)
      · cases h_ne
    · obtain ⟨b', h_b', h_not, h_now⟩ := h_own.2 h_old b h_b h_before
      exact ⟨b', h_b', h_not, h_more h_now⟩

/-- A combined node passes the request on to its parts. -/
theorem Comes.combined (h_ordered : s.Ordered Member rank)
    (h_keys : ∀ n n', Member n → Member n' → n.key = n'.key → n = n')
    (h : s.Comes Member rank before r n c origin past seen m)
    (h_new : (m.cell n.key).cache = none) {parts : List Link} {separator : String}
    (h_kind : n.kind = .combined parts separator) {i : Identity} {c' : FieldCase}
    {values : List String}
    (h_parts : s.Parts (s.GoesWell Member rank before fuel) c parts (m.begun n.key i c') values m₁)
    (h_concludes : Memory.Concludes n m₁ m') :
    s.Goes Member rank before (fuel + 1) r n c origin past seen m m' := by
  have h_optional : n.kind.isOptional = false := by rw [h_kind]; rfl
  have h_links : n.kind.links = parts := by rw [h_kind]; rfl
  -- Each part is a member, stands lower and is nulled by whatever nulls the whole.
  have h_below : ∀ link ∈ parts, ∀ n', s.target? link = some n' →
      Member n' ∧ rank n'.key < rank n.key ∧ ∀ o, origin = some o → s.Nulls Member o n' := by
    intro link h_link n' h_n'
    rw [← h_links] at h_link
    obtain ⟨h_member, h_lt⟩ := h_ordered.of_link h.member h_link h_n'
    exact ⟨h_member, h_lt, fun o h_o => .part (h.nulls o h_o) h_optional h_link h_n'⟩
  obtain ⟨past₁, h₁, h_busy, h_met⟩ := (h.begun i c').parts h_parts h_below h.granted
  refine h.complete h_keys (fun _ => h_new) h₁
    ((Memory.BusyWithin.of_cells fun key h_ne => m.cell_begun_of_ne i c' h_ne).ask h_busy) ?_
    (fun _ => ?_) (fun h_true => ?_) h_concludes fun e _ => ?_
  · rw [visitInside_eq h_optional, h_links]
  · rw [MeetsLinks, h_links]
    exact h_met
  · rw [h_optional] at h_true
    cases h_true
  · rw [Follows, h_kind]
    trivial

/-- So does a source to its child. -/
theorem Comes.source (h_ordered : s.Ordered Member rank)
    (h_keys : ∀ n n', Member n → Member n' → n.key = n'.key → n = n')
    (h : s.Comes Member rank before r n c origin past seen m) {child : Link} {n' : Node}
    (h_kind : n.kind = .source child) (h_target : s.target? child = some n') {i : Identity}
    {c' : FieldCase} (h_ask : s.GoesWell Member rank before fuel n' c (m.begun n.key i c') v m₁)
    (h_concludes : Memory.Concludes n m₁ m') :
    s.Goes Member rank before (fuel + 1) r n c origin past seen m m' := by
  have h_optional : n.kind.isOptional = false := by rw [h_kind]; rfl
  have h_links : n.kind.links = [child] := by rw [h_kind]; rfl
  have h_link : child ∈ n.kind.links := by rw [h_links]; exact List.mem_singleton_self _
  obtain ⟨h_n', h_lt⟩ := h_ordered.of_link h.member h_link h_target
  -- The child is asked under the same terms as the source itself, one rank lower.
  have h_comes : s.Comes Member rank before (rank n.key) n' c origin past seen
      (m.begun n.key i c') :=
    ⟨h_n', h_lt, h.begun i c', h.granted,
      fun o h_o => .part (h.nulls o h_o) h_optional h_link h_target⟩
  obtain ⟨past₁, h_met, h₁, h_busy⟩ := h_ask _ origin past seen h_comes
  refine h.complete h_keys (by rw [h_kind]; simp [NodeKind.isStateless]) h₁
    ((Memory.BusyWithin.of_cells fun key h_ne => m.cell_begun_of_ne i c' h_ne).ask
      (h_busy.mono h_lt)) ?_ (fun _ => .single h_links h_target h_met) (fun h_true => ?_)
    h_concludes fun e _ => ?_
  · simp only [visitInside_eq h_optional, h_links, visitLinks, h_target]
  · rw [h_optional] at h_true
    cases h_true
  · rw [Follows, h_kind]
    trivial

/-- An optional node that is asked for null asks no others, so that nothing below it is steady. -/
theorem Comes.optionalNull (h_keys : ∀ n n', Member n → Member n' → n.key = n'.key → n = n')
    (h : s.Comes Member rank before r n .null origin past seen m)
    (h_new : (m.cell n.key).cache = none) {child : Link} {rule : Config.Mandatory}
    (h_kind : n.kind = .optional child rule) {i : Identity} {c' : FieldCase}
    (h_concludes : Memory.Concludes n (m.begun n.key i c') m') :
    s.Goes Member rank before (fuel + 1) r n .null origin past seen m m' := by
  have h_optional : n.kind.isOptional = true := by rw [h_kind]; rfl
  have h_cell := m.cell_begun_self n.key i c'
  rcases h.granted.normal_or_null with h_c | ⟨-, o, h_o, -⟩
  · cases h_c
  · -- What an optional node asks is not steady once the node itself can be nulled.
    have h_inside : s.visitInside (s.visit Member fuel) n origin seen = seen :=
      visitInside_of_not_steady fun n' => not_steady_of_nulls (h.nulls o h_o) h_optional
    refine h.complete h_keys (fun _ => h_new) (h.begun i c')
      (.of_cells fun key h_ne => m.cell_begun_of_ne i c' h_ne) h_inside.symm
      (fun h_false => ?_) (fun _ h_c => by cases h_c) h_concludes fun e h_e => ?_
    · rw [h_optional] at h_false
      cases h_false
    · have h_own := h.underway.follows n h.member h.below
      rw [follows_optional h_kind] at h_own ⊢
      rcases h_own with ⟨h_choice, h_decision, h_not⟩ | ⟨_, -, -, h_cache, -⟩
      · refine .inl ⟨?_, ?_, fun present h_mem => h_not present ?_⟩
        · rw [h_concludes.choice, h_cell, ← h_choice]; rfl
        · rw [h_concludes.decision, h_cell, ← h_decision]; rfl
        · rcases h_e with ⟨rfl, -⟩ | ⟨rfl, -⟩ <;>
            exact (List.mem_cons.1 h_mem).resolve_left (by simp)
      · exact absurd h_new h_cache

/-- An optional node without a value has not decided yet. When it decides on the way, then this is
all that it decides. -/
theorem Comes.decided_once (h : s.Comes Member rank before r n c origin past seen m)
    (h_new : (m.cell n.key).cache = none) {child : Link} {rule : Config.Mandatory}
    (h_kind : n.kind = .optional child rule) {past₁ past₂ : Course} {m₂ m₃ m₄ : Memory}
    {present : Bool} (h_before : Memory.Busy rank (rank n.key) past m₁ past₁ m₂)
    (h_after : Memory.Busy rank (rank n.key) (.decided n present :: past₁) m₃ past₂ m₄) :
    (m.cell n.key).choice = (before.cell n.key).choice ∧
      ∀ other, .decided n other ∈ past₂ ↔ other = present := by
  have h_own := h.underway.follows n h.member h.below
  rw [follows_optional h_kind] at h_own
  rcases h_own with ⟨h_choice, -, h_not⟩ | ⟨_, -, -, h_some, -⟩
  · refine ⟨h_choice, fun other => ?_⟩
    -- the nodes of lower rank decide for themselves
    rw [h_after.mem_iff (Nat.le_refl _), List.mem_cons, h_before.mem_iff (Nat.le_refl _)]
    simp [h_not other]
  · exact absurd h_new h_some

/-- The rule of an optional node is heard, and then the node decides. -/
theorem Comes.decides (h_ordered : s.Ordered Member rank)
    (h : s.Comes Member rank before r n c origin past seen m) {child : Link}
    {rule : Config.Mandatory} (h_kind : n.kind = .optional child rule) {i : Identity}
    {c' : FieldCase} {present : Bool} {m₂ : Memory}
    (h_decides : s.Decides (s.GoesWell Member rank before fuel) n.key rule (m.begun n.key i c')
      present m₂) :
    ∃ past₃ m₃, s.Underway Member rank before (rank n.key) (.decided n present :: past₃)
        (s.visitRule (s.visit Member fuel) rule seen) m₂ ∧
      Memory.Busy rank (rank n.key) past (m.begun n.key i c') past₃ m₃ ∧
      Memory.BusyWithin rank n past m (.decided n present :: past₃) m₂ ∧
      s.Decided rule (m₃.cell n.key) (m₂.cell n.key) present ∧
      (present = false → s.maySkip rule = true) := by
  obtain ⟨m₃, mandatory, h_rules, h_others, h_override, h_cache, h_decided, h_skip, -⟩ :=
    decided_of_decides h_decides
  obtain ⟨past₃, h₃, h_busy₃⟩ := (h.begun i c').rule h_rules (by
    rintro id rfl k h_k
    exact h_ordered.of_rule h.member h_kind h_k)
  have h₂ := h₃.touch (Nat.le_refl _) h_others h_override h_cache [.decided n present]
    fun e h_e => ⟨present, List.mem_singleton.1 h_e⟩
  have h_within :=
    (Memory.BusyWithin.of_cells fun key h_ne => m.cell_begun_of_ne i c' h_ne).ask h_busy₃
  exact ⟨past₃, m₃, h₂, h_busy₃, h_within.decide rfl h_others, h_decided, h_skip⟩

/-- An optional node decides once, and asks its child for what it decided. -/
theorem Comes.optional (h_ordered : s.Ordered Member rank)
    (h_keys : ∀ n n', Member n → Member n' → n.key = n'.key → n = n')
    (h : s.Comes Member rank before r n .normal origin past seen m)
    (h_new : (m.cell n.key).cache = none) {child : Link} {rule : Config.Mandatory} {n' : Node}
    (h_kind : n.kind = .optional child rule) (h_target : s.target? child = some n') {i : Identity}
    {c' : FieldCase} {present : Bool} {m₂ : Memory}
    (h_decides : s.Decides (s.GoesWell Member rank before fuel) n.key rule (m.begun n.key i c')
      present m₂)
    (h_ask : s.GoesWell Member rank before fuel n' (if present then .normal else .null) m₂ v m₁)
    (h_concludes : Memory.Concludes n m₁ m') :
    s.Goes Member rank before (fuel + 1) r n .normal origin past seen m m' := by
  have h_optional : n.kind.isOptional = true := by rw [h_kind]; rfl
  have h_links : n.kind.links = [child] := by rw [h_kind]; rfl
  have h_link : child ∈ n.kind.links := by rw [h_links]; exact List.mem_singleton_self _
  obtain ⟨h_n', h_lt⟩ := h_ordered.of_link h.member h_link h_target
  obtain ⟨past₃, m₃, h₂, h_busy₃, h_within₂, h_decided, h_skip⟩ :=
    h.decides h_ordered h_kind h_decides
  -- the child is asked
  have h_mem : .decided n present ∈ .decided n present :: past₃ := List.mem_cons_self
  have h_granted : Course.Grants (.decided n present :: past₃)
      (if s.maySkip rule then some n else none) (if present then .normal else .null) := by
    split
    · exact .chosen h_mem
    · next h_never =>
      cases present with
      | true => exact .free
      | false => exact absurd (h_skip rfl) h_never
  obtain ⟨past₁, h_met, h₁, h_busy₁⟩ := h_ask _ (if s.maySkip rule then some n else none) _ _
    ⟨h_n', h_lt, h₂, h_granted, fun o h_o => by
      split at h_o
      · next h_may => exact Option.some.inj h_o ▸ .child h.member h_kind h_may h_target
      · cases h_o⟩
  have h_busy₁ := h_busy₁.mono h_lt
  have h_once := h.decided_once h_new h_kind h_busy₃ h_busy₁
  refine h.complete h_keys (fun _ => h_new) h₁ (h_within₂.ask h_busy₁) ?_ (fun h_false => ?_)
    (fun _ _ => ⟨present, h_busy₁.sub h_mem, .single h_links h_target h_met⟩) h_concludes
    fun e h_e => ?_
  · simp only [visitInside, h_kind, visitLinks, h_target]
  · rw [h_optional] at h_false
    cases h_false
  · -- the cell of the node is as the decision left it, since others were busy from then on
    obtain ⟨h_choice, h_decisions⟩ := h_once
    have h_same := h_busy₁.cells n.key (Nat.le_refl _)
    have h_cells : s.Decided rule (before.cell n.key) (m'.cell n.key) present := by
      refine h_decided.congr ?_ ?_ ?_
      · rw [h_busy₃.cells n.key (Nat.le_refl _), m.cell_begun_self, ← h_choice]; rfl
      · rw [h_concludes.choice, h_same]
      · rw [h_concludes.decision, h_same]
    obtain ⟨rfl, -⟩ | ⟨-, h_c⟩ := h_e
    · rw [follows_optional h_kind]
      refine .inr ⟨present, fun other => ?_, h_cells, h_concludes.kept (by rw [h_kind]; rfl),
        List.mem_cons_self⟩
      rw [← h_decisions other, List.mem_cons]
      exact or_iff_right (by simp)
    · cases h_c

/-- **One computation.** However the value of a node comes about, the request goes well. -/
theorem Comes.generates (h_ordered : s.Ordered Member rank)
    (h_keys : ∀ n n', Member n → Member n' → n.key = n'.key → n = n')
    (h : s.Comes Member rank before r n c origin past seen m)
    (h_new : n.kind.isStateless = false → (m.cell n.key).cache = none) {i : Identity}
    {c' : FieldCase} (h_generates : s.Generates (s.GoesWell Member rank before fuel) n c
      (m.begun n.key i c') v m₁) (h_concludes : Memory.Concludes n m₁ m') :
    s.Goes Member rank before (fuel + 1) r n c origin past seen m m' := by
  have h_case := h.granted.normal_or_null
  -- A pass asks for normal cases and nulls only, so the blank and the forced ones cannot occur.
  cases h_generates with
  | constantNull h_kind => exact h.constantNull h_keys h_kind h_concludes
  | constantBlank => rcases h_case with h_c | ⟨h_c, -⟩ <;> cases h_c
  | constant h_kind => exact h.constant h_keys h_kind h_concludes
  | @field f set _ _ served text draws h_kind h_served =>
    have h_m₁ : served.withDraws draws = ((m.begun n.key i c').served n.key f
        (f.caseFor (m.cell n.key).served c)).withDraws draws := by
      rw [h_served, m.cell_begun_self]
      rfl
    exact h.field h_keys (h_new (by rw [h_kind]; rfl)) h_kind h_m₁ h_concludes
  | combined h_kind h_parts =>
    exact h.combined h_ordered h_keys (h_new (by rw [h_kind]; rfl)) h_kind h_parts h_concludes
  | optionalNull h_kind =>
    exact h.optionalNull h_keys (h_new (by rw [h_kind]; rfl)) h_kind h_concludes
  | optionalExplicit _ h_null h_normal =>
    rcases h_case with h_c | ⟨h_c, -⟩
    · exact absurd h_c h_normal
    · exact absurd h_c h_null
  | optionalDecided h_kind h_target h_decides h_ask =>
    exact h.optional h_ordered h_keys (h_new (by rw [h_kind]; rfl)) h_kind h_target h_decides h_ask
      h_concludes
  | source h_kind h_target h_ask =>
    exact h.source h_ordered h_keys h_kind h_target h_ask h_concludes

/-- **One answer.** If the requests that a node makes go well, so does the request to it. -/
theorem goesWell_of_answers (h_ordered : s.Ordered Member rank)
    (h_keys : ∀ n n', Member n → Member n' → n.key = n'.key → n = n')
    (h_answers : s.Answers (s.GoesWell Member rank before fuel) n c m v m') :
    s.GoesWell Member rank before (fuel + 1) n c m v m' := by
  intro r origin past seen h
  -- only these two cases come in the course of a pass
  have h_computed : c.computed = c := by
    rcases h.granted.normal_or_null with rfl | ⟨rfl, -⟩ <;> rfl
  cases h_answers with
  | overridden h_override =>
    -- nothing is overridden
    rw [h.underway.free] at h_override
    cases h_override
  | stateless _ h_kind h_computes =>
    obtain ⟨-, h_generates⟩ := h_computes
    have h_not : ¬ n.kind.isStateless = false := by simp [h_kind]
    refine h.generates h_ordered h_keys (fun h_false => absurd h_false h_not) h_generates ?_
    constructor
    case others => exact fun key h_ne => Memory.cell_update_of_ne _ _ h_ne
    case kept => exact fun h_false => absurd h_false h_not
    all_goals rw [Memory.cell_update_self]; rfl
  | remembered _ h_kind h_cache =>
    -- what is kept was asked for before, and so the roster knows the node already
    have h_some : (m.cell n.key).cache ≠ none := by rw [h_cache]; simp
    refine ⟨past, ⟨h.underway.asked n h.member h_kind h_some, fun h_true => ?_⟩, ?_, .refl _ _ _ _⟩
    · rw [h_kind] at h_true
      cases h_true
    · by_cases h_steady : s.Steady Member n
      · obtain ⟨o, h_o⟩ := (h.underway.listed n h.member h_steady h_kind).1 h_some
        rw [visit_of_seen h_kind h_o]
        exact h.underway
      · rw [visit_of_not_steady h_steady]
        exact h.underway
  | computed _ h_kind h_cache h_computes =>
    rw [h_computed] at h_computes
    obtain ⟨-, h_generates⟩ := h_computes
    refine h.generates h_ordered h_keys (fun _ => h_cache) h_generates ?_
    constructor
    case others =>
      intro key h_ne
      rw [Memory.cell_update_of_ne _ _ h_ne, Memory.cell_update_of_ne _ _ h_ne]
    case kept =>
      intro _
      rw [Memory.cell_update_self]
      exact Option.some_ne_none _
    all_goals rw [Memory.cell_update_self, Memory.cell_update_self]; rfl

end Scope

/-- **Values go well.** -/
theorem Node.value_goesWell (h_ordered : s.Ordered Member rank)
    (h_keys : ∀ n n', Member n → Member n' → n.key = n'.key → n = n') (before : Memory) (fuel : Nat)
    (n : Node) (c : FieldCase) (m : Memory) :
    Ends (n.value s fuel c) m (s.GoesWell Member rank before fuel n c m) Anyhow :=
  Node.value_induction_fuel
    (fun _ _ _ _ _ _ h_answers => Scope.goesWell_of_answers h_ordered h_keys h_answers) fuel n c m

end Kinds

end Specimen
