import Specimen.Proofs.Node.Lockstep

/-!
# How far values reach when nodes are pinned

An override answers in place of its node, which then asks nobody. So a request for a value gets to
the nodes below only along links on which no node is pinned (`Scope.Reaches`). If nothing is
optional and every request is for a normal value, it gets just that far: when a node has answered,
every node within its reach has delivered a value, and the nodes out of reach of all requests have
served what they had served before (`Node.value_delivers`).

A combined node asks the nodes within its reach when it computes, and not again when it answers with
the value that it keeps. What carries the induction is therefore that a node keeps a value only if
all nodes within its reach have delivered theirs (`Scope.Delivering.kept`).
-/

namespace Specimen

/-- A request for a value of one node gets to another one: neither of them is pinned, and no node on
the way. -/
inductive Scope.Reaches (s : Scope) (cells : Nat → Cell) : Node → Node → Prop where
  | self {n} (h_free : (cells n.key).override = none) : Reaches s cells n n
  | part {n n' l link} (h_free : (cells n.key).override = none) (h_link : link ∈ n.kind.links)
    (h_target : s.target? link = some n') (h : Reaches s cells n' l) : Reaches s cells n l

/-- A node has delivered a value in a pass, as far as its cell shows it: a field keeps a text, and a
constant counts as served. -/
def Node.Delivered (n : Node) (cell : Cell) : Prop :=
  match n.kind with
  | .constant _ => cell.served ≠ []
  | .field .. => ∃ t, cell.cache = some (some t)
  | .combined .. | .optional .. | .source _ => True

section Reaches

variable {s : Scope} {cells cells' : Nat → Cell} {n n' l : Node} {cell cell' : Cell}

namespace Scope.Reaches

theorem free (h : s.Reaches cells n l) : (cells n.key).override = none := by
  cases h with
  | self h_free => exact h_free
  | part h_free _ _ _ => exact h_free

theorem free_end (h : s.Reaches cells n l) : (cells l.key).override = none := by
  induction h with
  | self h_free => exact h_free
  | part _ _ _ _ ih => exact ih

/-- A request gets on to the parts. -/
theorem snoc (h : s.Reaches cells n l) {link : Link} (h_link : link ∈ l.kind.links)
    (h_target : s.target? link = some n') (h_free : (cells n'.key).override = none) :
    s.Reaches cells n n' := by
  induction h with
  | self h_self => exact .part h_self h_link h_target (.self h_free)
  | part h_first h_link' h_target' _ ih => exact .part h_first h_link' h_target' (ih h_link)

/-- Only overrides make a difference. -/
theorem congr (h : s.Reaches cells n l)
    (h_cells : ∀ key, (cells' key).override = (cells key).override) : s.Reaches cells' n l := by
  induction h with
  | self h_free => exact .self ((h_cells _).trans h_free)
  | part h_free h_link h_target _ ih => exact .part ((h_cells _).trans h_free) h_link h_target ih

theorem member {Member : Node → Prop} (h : s.Reaches cells n l) (h_closed : s.Closed Member)
    (h_n : Member n) : Member l := by
  induction h with
  | self _ => exact h_n
  | part _ h_link h_target _ ih => exact ih (h_closed _ _ h_n (calls_of_link h_link h_target))

/-- A request gets to other nodes by way of the parts. -/
theorem exists_part (h : s.Reaches cells n l) (h_ne : l ≠ n) :
    ∃ link ∈ n.kind.links, ∃ n', s.target? link = some n' ∧ s.Reaches cells n' l := by
  cases h with
  | self _ => exact absurd rfl h_ne
  | part _ h_link h_target h => exact ⟨_, h_link, _, h_target, h⟩

/-- A request to a node without parts gets no further. -/
theorem eq_of_leaf (h : s.Reaches cells n l) (h_leaf : n.kind.links = []) : l = n := by
  by_contra h_ne
  obtain ⟨link, h_link, -⟩ := h.exists_part h_ne
  rw [h_leaf] at h_link
  exact List.not_mem_nil h_link

end Scope.Reaches

/-- Only what was served and what is kept makes a difference. -/
theorem Node.Delivered.congr (h : n.Delivered cell) (h_served : cell'.served = cell.served)
    (h_cache : cell'.cache = cell.cache) : n.Delivered cell' := by
  unfold Node.Delivered at h ⊢
  rwa [h_served, h_cache]

end Reaches

/-! ### While values are delivered -/

/-- The nodes that requests may get to: a set of nodes of which none is optional, and among them
those that are near. A request to a near node gets to near nodes, and to pinned ones. -/
structure Scope.Region (s : Scope) (Member Near : Node → Prop) (cells : Nat → Cell) : Prop where
  closed : s.Closed Member
  unique : ∀ n n', Member n → Member n' → n.key = n'.key → n = n'
  plain : ∀ n, Member n → n.kind.isOptional = false
  onward : ∀ n n' link, Near n → link ∈ n.kind.links → s.target? link = some n' →
    (cells n'.key).override = none → Near n'

/-- What a pass has made of some nodes since a memory, when all requests were for normal values and
none of them has come to a node that is not near. -/
structure Scope.Delivering (s : Scope) (Member Near : Node → Prop) (before m : Memory) : Prop where
  override : ∀ key, (m.cell key).override = (before.cell key).override
  /-- Where a value is kept, all nodes within reach have delivered theirs. -/
  kept : ∀ n, Member n → n.kind.isStateless = false → (m.cell n.key).cache ≠ none →
    ∀ l, s.Reaches before.cell n l → l.Delivered (m.cell l.key)
  /-- The nodes that are not near have served nothing more. -/
  spared : ∀ n, Member n → ¬ Near n → (m.cell n.key).served = (before.cell n.key).served

/-- What some nodes have delivered in one memory they have delivered in another one. -/
def Memory.DeliversStill (Member : Node → Prop) (m m' : Memory) : Prop :=
  ∀ n, Member n → n.Delivered (m.cell n.key) → n.Delivered (m'.cell n.key)

/-- A request for a normal value to a node that is near or pinned: it goes on with what the pass has
made of the nodes, and all nodes within reach have delivered a value then. -/
abbrev Scope.Delivers (s : Scope) (Member Near : Node → Prop) (before : Memory) : Asking :=
  fun n c m _ m' => Member n → c = .normal → ((before.cell n.key).override = none → Near n) →
    s.Delivering Member Near before m → s.Delivering Member Near before m' ∧
      m.DeliversStill Member m' ∧ ∀ l, s.Reaches before.cell n l → l.Delivered (m'.cell l.key)

section Delivering

variable {s : Scope} {Member Near : Node → Prop} {before m m' m'' : Memory} {n : Node}

theorem Memory.DeliversStill.trans (h : m.DeliversStill Member m')
    (h' : m'.DeliversStill Member m'') : m.DeliversStill Member m'' :=
  fun n h_n h_m => h' n h_n (h n h_n h_m)

/-- Cells that agree on what was served and kept. -/
theorem Memory.DeliversStill.of_cells (h : ∀ key, (m'.cell key).served = (m.cell key).served ∧
    (m'.cell key).cache = (m.cell key).cache) : m.DeliversStill Member m' :=
  fun n _ h_m => h_m.congr (h n.key).1 (h n.key).2

namespace Scope

/-- Changes that concern neither overrides nor what was served or kept. -/
theorem Delivering.of_cells (h : s.Delivering Member Near before m) (h_cells : ∀ key,
    (m'.cell key).override = (m.cell key).override ∧ (m'.cell key).served = (m.cell key).served ∧
      (m'.cell key).cache = (m.cell key).cache) : s.Delivering Member Near before m' where
  override key := (h_cells key).1.trans (h.override key)
  kept n h_n h_kind h_cache l h_l := by
    rw [(h_cells n.key).2.2] at h_cache
    exact (h.kept n h_n h_kind h_cache l h_l).congr (h_cells l.key).2.1 (h_cells l.key).2.2
  spared n h_n h_far := (h_cells n.key).2.1.trans (h.spared n h_n h_far)

/-- A change of one cell that concerns neither. -/
theorem Delivering.update (h : s.Delivering Member Near before m) (key : Nat)
    (change : Cell → Cell) (h_change : ∀ cell, (change cell).override = cell.override ∧
      (change cell).served = cell.served ∧ (change cell).cache = cell.cache) :
    s.Delivering Member Near before (m.update key change) ∧
      m.DeliversStill Member (m.update key change) := by
  have h_override := Memory.cell_update_keeps Cell.override change (fun c => (h_change c).1) m key
  have h_served := Memory.cell_update_keeps Cell.served change (fun c => (h_change c).2.1) m key
  have h_cache := Memory.cell_update_keeps Cell.cache change (fun c => (h_change c).2.2) m key
  exact ⟨h.of_cells fun key => ⟨h_override key, h_served key, h_cache key⟩,
    .of_cells fun key => ⟨h_served key, h_cache key⟩⟩

variable (h_region : s.Region Member Near before.cell)
include h_region

/-- The parts of a node deliver one after the other. -/
theorem Parts.deliver {c : FieldCase} {links : List Link} {values : List String}
    (h_parts : s.Parts (Delivers s Member Near before) c links m values m')
    (h_links : ∀ link ∈ links, ∀ n, s.target? link = some n →
      Member n ∧ ((before.cell n.key).override = none → Near n)) (h_c : c = .normal)
    (h : s.Delivering Member Near before m) : s.Delivering Member Near before m' ∧
      m.DeliversStill Member m' ∧ ∀ link ∈ links, ∀ n, s.target? link = some n →
        ∀ l, s.Reaches before.cell n l → l.Delivered (m'.cell l.key) := by
  induction h_parts with
  | nil => exact ⟨h, fun _ _ h_m => h_m, fun _ h_link => absurd h_link List.not_mem_nil⟩
  | @cons link links n _ _ _ _ _ h_target h_ask _ ih =>
    obtain ⟨h_first, h_rest⟩ := List.forall_mem_cons.1 h_links
    obtain ⟨h_n, h_near⟩ := h_first n h_target
    obtain ⟨h₁, h_still₁, h_reached⟩ := h_ask h_n h_c h_near h
    obtain ⟨h₂, h_still₂, h_others⟩ := ih h_rest h₁
    refine ⟨h₂, h_still₁.trans h_still₂, List.forall_mem_cons.2 ⟨fun n' h_target' l h_l => ?_,
      h_others⟩⟩
    -- what the first part has delivered the others leave as it is
    obtain rfl := Option.some.inj (h_target.symm.trans h_target')
    exact h_still₂ l (h_l.member h_region.closed h_n) (h_reached l h_l)

/-- **What a node that is near does to its own cell.** It may keep a value if all nodes within its
reach have delivered theirs. -/
theorem Delivering.own (h : s.Delivering Member Near before m) (h_n : Member n) (h_near : Near n)
    (h_others : ∀ key, key ≠ n.key → m'.cell key = m.cell key)
    (h_override : (m'.cell n.key).override = (m.cell n.key).override)
    (h_still : n.Delivered (m.cell n.key) → n.Delivered (m'.cell n.key))
    (h_cache : (m'.cell n.key).cache = (m.cell n.key).cache ∨
      ∀ l, s.Reaches before.cell n l → l.Delivered (m'.cell l.key)) :
    s.Delivering Member Near before m' ∧ m.DeliversStill Member m' := by
  have h_apart : ∀ k, Member k → k ≠ n → m'.cell k.key = m.cell k.key := fun k h_k h_ne =>
    h_others k.key fun h_key => h_ne (h_region.unique k n h_k h_n h_key)
  have h_all : m.DeliversStill Member m' := by
    intro k h_k h_m
    by_cases h_eq : k = n
    · subst h_eq
      exact h_still h_m
    · rwa [h_apart k h_k h_eq]
  refine ⟨⟨fun key => ?_, fun k h_k h_kind h_some l h_l => ?_, fun k h_k h_far => ?_⟩, h_all⟩
  · by_cases h_key : key = n.key
    · rw [h_key, h_override, h.override]
    · rw [h_others key h_key, h.override]
  · -- a value that was kept before goes on to say that the nodes within reach have delivered
    have h_before : (m.cell k.key).cache ≠ none → l.Delivered (m'.cell l.key) := fun h_some' =>
      h_all l (h_l.member h_region.closed h_k) (h.kept k h_k h_kind h_some' l h_l)
    by_cases h_eq : k = n
    · subst h_eq
      rcases h_cache with h_same | h_reached
      · exact h_before (h_same ▸ h_some)
      · exact h_reached l h_l
    · exact h_before (h_apart k h_k h_eq ▸ h_some)
  · have h_ne : k ≠ n := by
      rintro rfl
      exact h_far h_near
    rw [h_apart k h_k h_ne, h.spared k h_k h_far]

/-- A node that is near serves a position. -/
theorem Delivering.serve (h : s.Delivering Member Near before m) (h_n : Member n) (h_near : Near n)
    (position : Int) : s.Delivering Member Near before (m.update n.key (Cell.serve position)) ∧
      m.DeliversStill Member (m.update n.key (Cell.serve position)) := by
  refine h.own h_region h_n h_near (fun key => Memory.cell_update_of_ne _ _) ?_ ?_ (.inl ?_)
  all_goals rw [Memory.cell_update_self]
  · exact Cell.serve_override position _
  · unfold Node.Delivered
    rw [Cell.serve_cache]
    split
    · intro h_served h_none
      refine h_served (List.eq_nil_iff_forall_not_mem.2 fun p h_p => ?_)
      exact List.not_mem_nil (h_none ▸ Cell.mem_served_serve.2 (.inr h_p))
    all_goals exact id
  · exact Cell.serve_cache position _

/-- A node that is near keeps a value, when all others within its reach have delivered theirs. -/
theorem Delivering.keep (h : s.Delivering Member Near before m) (h_n : Member n) (h_near : Near n)
    {v : Option String} (h_own : ∀ cell : Cell, n.Delivered (cell.keep v))
    (h_reached : ∀ l, l ≠ n → s.Reaches before.cell n l → l.Delivered (m.cell l.key)) :
    s.Delivering Member Near before (m.update n.key (Cell.keep v)) ∧
      m.DeliversStill Member (m.update n.key (Cell.keep v)) ∧
        ∀ l, s.Reaches before.cell n l →
          l.Delivered ((m.update n.key (Cell.keep v)).cell l.key) := by
  have h_all : ∀ l, s.Reaches before.cell n l →
      l.Delivered ((m.update n.key (Cell.keep v)).cell l.key) := by
    intro l h_l
    by_cases h_eq : l = n
    · rw [h_eq, Memory.cell_update_self]
      exact h_own _
    · have h_key : l.key ≠ n.key := fun h_key =>
        h_eq (h_region.unique l n (h_l.member h_region.closed h_n) h_n h_key)
      rw [Memory.cell_update_of_ne _ _ h_key]
      exact h_reached l h_eq h_l
  refine (h.own h_region h_n h_near (fun key => Memory.cell_update_of_ne _ _) ?_ (fun _ => ?_)
    (.inr h_all)).imp_right fun h_still => ⟨h_still, h_all⟩
  all_goals rw [Memory.cell_update_self]
  · rfl
  · exact h_own _

/-- What it comes to when a node that is near generates a value: all other nodes within its reach
have delivered theirs, and it has itself, or will have when it keeps the value. -/
structure Completes (s : Scope) (Member Near : Node → Prop) (before m : Memory) (n : Node)
    (v : Option String) (m' : Memory) : Prop where
  delivering : s.Delivering Member Near before m'
  still : m.DeliversStill Member m'
  others : ∀ l, l ≠ n → s.Reaches before.cell n l → l.Delivered (m'.cell l.key)
  stateless : n.kind.isStateless = true → n.Delivered (m'.cell n.key)
  stateful : n.kind.isStateless = false → ∀ cell : Cell, n.Delivered (cell.keep v)

/-- A node that only asks its parts. -/
theorem Parts.completes {links : List Link} {values : List String} {v : Option String}
    (h_parts : s.Parts (Delivers s Member Near before) .normal links m values m')
    (h_links : n.kind.links = links) (h_own : ∀ cell, n.Delivered cell) (h_n : Member n)
    (h_near : Near n) (h : s.Delivering Member Near before m) :
    s.Completes Member Near before m n v m' := by
  obtain ⟨h', h_still, h_reached⟩ := h_parts.deliver h_region (fun link h_link n' h_target => by
    rw [← h_links] at h_link
    exact ⟨h_region.closed n n' h_n (calls_of_link h_link h_target),
      h_region.onward n n' link h_near h_link h_target⟩) rfl h
  refine ⟨h', h_still, fun l h_ne h_l => ?_, fun _ => h_own _, fun _ _ => h_own _⟩
  obtain ⟨link, h_link, n', h_target, h_l⟩ := h_l.exists_part h_ne
  exact h_reached link (h_links ▸ h_link) n' h_target l h_l

/-- **Generating.** A node has generated its value when all its parts have delivered theirs. -/
theorem Generates.completes {v : Option String}
    (h_generates : s.Generates (Delivers s Member Near before) n .normal m v m')
    (h_n : Member n) (h_near : Near n) (h : s.Delivering Member Near before m) :
    s.Completes Member Near before m n v m' := by
  have h_plain := h_region.plain n h_n
  -- a node without parts reaches no other one
  have h_leaf : n.kind.links = [] → ∀ l, l ≠ n → s.Reaches before.cell n l →
      l.Delivered (m'.cell l.key) := fun h_none l h_ne h_l => absurd (h_l.eq_of_leaf h_none) h_ne
  cases h_generates with
  | constant h_kind _ _ =>
    obtain ⟨h', h_still⟩ := h.serve h_region h_n h_near 0
    refine ⟨h', h_still, h_leaf (by rw [h_kind]; rfl), fun _ => ?_, fun h_stateful => ?_⟩
    · rw [Node.Delivered, h_kind, Memory.cell_update_self]
      exact List.ne_nil_of_mem (Cell.mem_served_serve.2 (.inl rfl))
    · rw [h_kind] at h_stateful
      cases h_stateful
  | @field f set _ _ served t draws h_kind h_served _ =>
    have ⟨h', h_still⟩ :
        s.Delivering Member Near before served ∧ m.DeliversStill Member served := by
      rw [h_served, Memory.served]
      split
      · exact h.serve h_region h_n h_near _
      · exact ⟨h, fun _ _ h_m => h_m⟩
    refine ⟨h'.of_cells fun key => ⟨rfl, rfl, rfl⟩, h_still, h_leaf (by rw [h_kind]; rfl),
      fun h_stateless => ?_, fun _ cell => ?_⟩
    · rw [h_kind] at h_stateless
      cases h_stateless
    · rw [Node.Delivered, h_kind]
      exact ⟨t, rfl⟩
  | combined h_kind h_parts =>
    exact h_parts.completes h_region (congrArg NodeKind.links h_kind)
      (fun cell => by rw [Node.Delivered, h_kind]; trivial) h_n h_near h
  | source h_kind h_target h_ask =>
    -- the child is the only part
    have h_parts := Parts.cons h_target h_ask .nil
    exact h_parts.completes h_region (congrArg NodeKind.links h_kind)
      (fun cell => by rw [Node.Delivered, h_kind]; trivial) h_n h_near h
  | optionalExplicit h_kind _ _ _ _ | optionalDecided h_kind _ _ _ =>
    rw [h_kind] at h_plain
    cases h_plain

/-- **Computing.** That the node holds a token in the meantime makes no difference. -/
theorem Computes.completes {v : Option String}
    (h_computes : s.Computes (Delivers s Member Near before) n .normal m v m')
    (h_n : Member n) (h_near : Near n) (h : s.Delivering Member Near before m) :
    s.Completes Member Near before m n v m' := by
  obtain ⟨-, h_generates⟩ := h_computes
  obtain ⟨h₁, h_still₁⟩ := h.update n.key (Cell.hold m.tokens) fun _ => ⟨rfl, rfl, rfl⟩
  have h_begun : s.Delivering Member Near before (m.begun n.key n.identity .normal) :=
    h₁.of_cells fun _ => ⟨rfl, rfl, rfl⟩
  have h₂ := h_generates.completes h_region h_n h_near h_begun
  obtain ⟨h₃, h_still₃⟩ :=
    h₂.delivering.update n.key Cell.release fun _ => ⟨rfl, rfl, rfl⟩
  exact {
    delivering := h₃
    still := (h_still₁.trans h₂.still).trans h_still₃
    others := fun l h_ne h_l =>
      h_still₃ l (h_l.member h_region.closed h_n) (h₂.others l h_ne h_l)
    stateless := fun h_stateless => h_still₃ n h_n (h₂.stateless h_stateless)
    stateful := h₂.stateful }

/-- **One answer.** -/
theorem answers_deliver (n : Node) (c : FieldCase) (m : Memory) (v : Option String) (m' : Memory)
    (h_answers : s.Answers (Delivers s Member Near before) n c m v m') :
    Delivers s Member Near before n c m v m' := by
  rintro h_n rfl h_near h
  cases h_answers with
  | overridden h_pinned =>
    obtain ⟨h', h_still⟩ := h.update n.key Cell.use fun _ => ⟨rfl, rfl, rfl⟩
    refine ⟨h', h_still, fun l h_l => ?_⟩
    -- a pinned node reaches nothing
    rw [h.override, h_l.free] at h_pinned
    cases h_pinned
  | stateless h_free h_stateless h_computes =>
    have h_m' := h_computes.completes h_region h_n (h_near (h.override _ ▸ h_free)) h
    refine ⟨h_m'.delivering, h_m'.still, fun l h_l => ?_⟩
    by_cases h_eq : l = n
    · exact h_eq ▸ h_m'.stateless h_stateless
    · exact h_m'.others l h_eq h_l
  | remembered h_free h_stateful h_cache =>
    exact ⟨h, fun _ _ h_m => h_m, h.kept n h_n h_stateful (by rw [h_cache]; simp)⟩
  | @computed v _ h_free h_stateful h_cache h_computes =>
    have h_n_near := h_near (h.override _ ▸ h_free)
    have h_m' := h_computes.completes h_region h_n h_n_near h
    obtain ⟨h_kept, h_still, h_all⟩ := h_m'.delivering.keep h_region h_n h_n_near
      (h_m'.stateful h_stateful) h_m'.others
    exact ⟨h_kept, h_m'.still.trans h_still, h_all⟩

end Scope

/-- **How far values reach.** However deep requests nest, an answer to a request for a normal value
comes when all nodes within reach have delivered theirs, and nodes that are not near have served
nothing more. -/
theorem Node.value_delivers (h_region : s.Region Member Near before.cell) (fuel : Nat)
    (h_n : Member n) (h_near : (before.cell n.key).override = none → Near n)
    (h : s.Delivering Member Near before m) : Ends (n.value s fuel .normal) m
      (fun _ m' => s.Delivering Member Near before m' ∧ m.DeliversStill Member m' ∧
        ∀ l, s.Reaches before.cell n l → l.Delivered (m'.cell l.key)) Anyhow :=
  (Node.value_induction (Scope.answers_deliver h_region) fuel n .normal m).mono
    (fun _ _ h_v => h_v h_n rfl h_near h) fun _ _ _ => trivial

end Delivering

/-- **One pass more.** A node that has delivered a value in a pass has served one case more, if one
was left. -/
theorem Node.Progress.next_of_delivered {n : Node} {k : Nat} {before after : Cell}
    (h : n.Progress k before)
    (h_passes : ∀ f set, n.kind = .field f set → f.Passes set before after)
    (h_delivered : n.Delivered after) : n.Progress (k + 1) after := by
  unfold Node.Delivered at h_delivered
  cases h_kind : n.kind with
  | constant value =>
    rw [h_kind] at h_delivered
    rw [Progress, h_kind]
    exact iff_of_false h_delivered (Nat.succ_ne_zero k)
  | field f set =>
    rw [h_kind] at h_delivered
    obtain ⟨t, h_text⟩ := h_delivered
    refine h.next_field h_kind (h_passes f set h_kind) fun h_lt h_same => ?_
    obtain ⟨h_pending, h_not⟩ := h.pending h_kind (List.getElem?_eq_getElem h_lt)
    -- A text was delivered and a case is still pending, so the pass served that case.
    cases h_passes f set h_kind with
    | unasked h_cache _ | nulled h_cache _ =>
      rw [h_cache] at h_text
      cases h_text
    | served h_first _ _ h_served =>
      exact (of_pendingCase? h_first).2.1 (h_same ▸ (h_served _).2 (.inl rfl))
    | drawn h_none _ _ _ =>
      rw [h_pending] at h_none
      cases h_none
  | combined _ _ | optional _ _ | source _ =>
    rw [Progress, h_kind]
    trivial

end Specimen
