import Specimen.Proofs.Node.Due
import Specimen.Proofs.Node.Looking

/-!
# Cases that are left

A node has cases left if it is due itself or a part of it has cases left, where the parts of an
optional node count as far as its rule is known to ask for them (`Scope.Pending`). Looking through a
node tells whether it has and changes nothing (`Node.tells_hasNextCase`). If a node has cases left,
then it or a node below it is due (`Scope.Pending.exists_due`).
-/

namespace Specimen

/-- A node has cases left. -/
inductive Scope.Pending (s : Scope) (cells : Nat → Cell) : Node → Prop where
  | constant {n value} (h_kind : n.kind = .constant value) (h : (cells n.key).served = []) :
    Pending s cells n
  | field {n f set} (h_kind : n.kind = .field f set)
    (h : pendingCase? f (cells n.key).served ≠ none) : Pending s cells n
  | part {n n' link} (h_passes : n.kind.isOptional = false) (h_link : link ∈ n.kind.links)
    (h_target : s.target? link = some n') (h : Pending s cells n') : Pending s cells n
  | child {n n' child rule} (h_kind : n.kind = .optional child rule)
    (h_known : s.knownMandatory (cells n.key) rule ≠ some false)
    (h_target : s.target? child = some n') (h : Pending s cells n') : Pending s cells n
  | choice {n child rule} (h_kind : n.kind = .optional child rule)
    (h_known : s.knownMandatory (cells n.key) rule ≠ some true)
    (h : (cells n.key).choice.hasNext = true) : Pending s cells n

variable {s : Scope} {cells cells' : Nat → Cell} {n : Node}

theorem Scope.knownMandatory_congr {rule : Config.Mandatory} {cell cell' : Cell}
    (h : cell'.decision = cell.decision) :
    s.knownMandatory cell' rule = s.knownMandatory cell rule := by
  unfold knownMandatory
  rw [h]

/-- Only what was served and decided makes a difference. -/
theorem Scope.Pending.congr (h_cells : ∀ key, (cells' key).served = (cells key).served ∧
    (cells' key).choice = (cells key).choice ∧ (cells' key).decision = (cells key).decision)
    (h : s.Pending cells n) : s.Pending cells' n := by
  induction h with
  | constant h_kind h => exact .constant h_kind ((h_cells _).1.trans h)
  | field h_kind h => exact .field h_kind ((h_cells _).1 ▸ h)
  | part h_passes h_link h_target _ ih => exact .part h_passes h_link h_target ih
  | child h_kind h_known h_target _ ih =>
    exact .child h_kind (Scope.knownMandatory_congr (h_cells _).2.2 ▸ h_known) h_target ih
  | choice h_kind h_known h =>
    exact .choice h_kind (Scope.knownMandatory_congr (h_cells _).2.2 ▸ h_known)
      ((h_cells _).2.1 ▸ h)

theorem Scope.pending_congr (h_cells : ∀ key, (cells' key).served = (cells key).served ∧
    (cells' key).choice = (cells key).choice ∧ (cells' key).decision = (cells key).decision) :
    s.Pending cells' n ↔ s.Pending cells n :=
  ⟨.congr fun key => ⟨(h_cells key).1.symm, (h_cells key).2.1.symm, (h_cells key).2.2.symm⟩,
    .congr h_cells⟩

/-! ### Kinds of nodes -/

namespace Scope

theorem pending_constant_iff {value : String} (h_kind : n.kind = .constant value) :
    s.Pending cells n ↔ (cells n.key).served = [] := by
  refine ⟨fun h => ?_, .constant h_kind⟩
  cases h with
  | constant _ h => exact h
  | field h => rw [h_kind] at h; cases h
  | part _ h_link => rw [h_kind] at h_link; exact absurd h_link List.not_mem_nil
  | child h => rw [h_kind] at h; cases h
  | choice h => rw [h_kind] at h; cases h

theorem pending_field_iff {f : Field} {set : CharacterSet} (h_kind : n.kind = .field f set) :
    s.Pending cells n ↔ pendingCase? f (cells n.key).served ≠ none := by
  refine ⟨fun h => ?_, .field h_kind⟩
  cases h with
  | constant h => rw [h_kind] at h; cases h
  | field h h_pending =>
    rw [h_kind] at h
    cases h
    exact h_pending
  | part _ h_link => rw [h_kind] at h_link; exact absurd h_link List.not_mem_nil
  | child h => rw [h_kind] at h; cases h
  | choice h => rw [h_kind] at h; cases h

/-- Combined nodes and sources have cases left if a part has. -/
theorem pending_links_iff (links : List Link) (h_passes : n.kind.isOptional = false)
    (h_links : n.kind.links = links) (h_some : links ≠ [] ∨ n.kind.isStateless = false)
    (h_field : ∀ f set, n.kind ≠ .field f set) : s.Pending cells n ↔
      ∃ link ∈ links, ∃ n', s.target? link = some n' ∧ s.Pending cells n' := by
  subst h_links
  refine ⟨fun h => ?_, fun ⟨link, h_link, n', h_target, h⟩ => .part h_passes h_link h_target h⟩
  cases h with
  | constant h =>
    rw [h] at h_some
    rcases h_some with h_ne | h_kind
    · exact absurd rfl h_ne
    · cases h_kind
  | field h => exact absurd h (h_field _ _)
  | part _ h_link h_target h => exact ⟨_, h_link, _, h_target, h⟩
  | child h => rw [h] at h_passes; cases h_passes
  | choice h => rw [h] at h_passes; cases h_passes

theorem pending_optional_iff {child : Link} {rule : Config.Mandatory} {n' : Node}
    (h_kind : n.kind = .optional child rule) (h_target : s.target? child = some n') :
    s.Pending cells n ↔
      (s.knownMandatory (cells n.key) rule ≠ some true ∧ (cells n.key).choice.hasNext = true) ∨
        (s.knownMandatory (cells n.key) rule ≠ some false ∧ s.Pending cells n') := by
  constructor
  · intro h
    cases h with
    | constant h => rw [h_kind] at h; cases h
    | field h => rw [h_kind] at h; cases h
    | part h_passes => rw [h_kind] at h_passes; cases h_passes
    | child h h_known h_target' h_child =>
      rw [h_kind] at h
      cases h
      obtain rfl := Option.some.inj (h_target.symm.trans h_target')
      exact .inr ⟨h_known, h_child⟩
    | choice h h_known h_next =>
      rw [h_kind] at h
      cases h
      exact .inl ⟨h_known, h_next⟩
  · rintro (⟨h_known, h_next⟩ | ⟨h_known, h_child⟩)
    · exact .choice h_kind h_known h_next
    · exact .child h_kind h_known h_target h_child

end Scope

/-! ### Looking through nodes -/

section Walk

variable {Member : Node → Prop} {rank : Nat → Nat} {r : Nat} {m : Memory}

/-- An evaluation has an answer of some sort; it changes no cell and draws nothing. -/
def Looks {α : Type} (e : Eval α) (m : Memory) (good : α → Prop) : Prop :=
  Ends e m (fun a m' => good a ∧ (∀ key, m'.cell key = m.cell key) ∧ m'.draws = m.draws)
    fun _ _ => False

/-- What looks one after the other looks. -/
theorem Looks.bind {α β : Type} {e : Eval α} {k : α → Eval β} {good : α → Prop} {good' : β → Prop}
    (h : Looks e m good)
    (h_next : ∀ a m', good a → (∀ key, m'.cell key = m.cell key) → Looks (k a) m' good') :
    Looks (e >>= k) m good' := by
  rw [Looks, ends_bind]
  refine h.mono (fun a m' h_m' => ?_) fun _ _ h_bad => h_bad
  obtain ⟨h_a, h_cells, h_draws⟩ := h_m'
  refine (h_next a m' h_a h_cells).mono (fun b m'' h_m'' => ⟨h_m''.1, fun key => ?_, ?_⟩)
    fun _ _ h_bad => h_bad
  · rw [h_m''.2.1, h_cells]
  · rw [h_m''.2.2, h_draws]

/-- While a node is looked through only its mark is different. -/
theorem Looks.traverse {α : Type} {key : Nat} {i : Identity} {visit : Eval α} {good : α → Prop}
    (h_unmarked : (m.cell key).isVisited = false) (h : Looks visit (m.update key Cell.visit) good) :
    Looks (traverse key i visit) m good := by
  rw [Looks, ends_traverse h_unmarked]
  refine h.mono (fun a m' h_m' => ⟨h_m'.1, fun other => ?_, h_m'.2.2⟩) fun _ _ h_bad => h_bad
  rw [Memory.cell_update]
  split
  · next h_eq =>
    subst h_eq
    rw [h_m'.2.1, Memory.cell_update_self, Cell.leave, Cell.visit, ← h_unmarked]
  · next h_ne => rw [h_m'.2.1, Memory.cell_update_of_ne _ _ h_ne]

/-- An evaluation tells whether something is so; it changes no cell and draws nothing. -/
def Tells (e : Eval Bool) (m : Memory) (P : Prop) : Prop :=
  Ends e m (fun b m' => (b = true ↔ P) ∧ (∀ key, m'.cell key = m.cell key) ∧ m'.draws = m.draws)
    fun _ _ => False

theorem tells_pure {b : Bool} {P : Prop} : Tells (pure b) m P ↔ (b = true ↔ P) :=
  and_iff_left ⟨fun _ => rfl, rfl⟩

theorem tells_cell {key : Nat} {k : Cell → Eval Bool} {P : Prop} :
    Tells (Eval.cell key >>= k) m P ↔ Tells (k (m.cell key)) m P := by
  rw [Tells, ends_bind, ends_cell]
  exact Iff.rfl

theorem Tells.congr {e : Eval Bool} {P Q : Prop} (h : Tells e m P) (h_iff : P ↔ Q) :
    Tells e m Q :=
  h.mono (fun _ _ h_m' => ⟨h_m'.1.trans h_iff, h_m'.2⟩) fun _ _ h_bad => h_bad

/-- The nodes below a rank are not marked. -/
def Memory.UnmarkedBelow (rank : Nat → Nat) (r : Nat) (m : Memory) : Prop :=
  ∀ key, rank key < r → (m.cell key).isVisited = false

/-- While a node is marked, those of lower rank are not. -/
theorem Memory.UnmarkedBelow.visit {rank : Nat → Nat} {m : Memory} {key : Nat}
    (h : m.UnmarkedBelow rank (rank key + 1)) :
    (m.update key Cell.visit).UnmarkedBelow rank (rank key) := by
  intro other h_other
  have h_ne : other ≠ key := by
    rintro rfl
    exact absurd h_other (Nat.lt_irrefl _)
  rw [Memory.cell_update_of_ne m _ h_ne]
  exact h other (Nat.lt_succ_of_lt h_other)

theorem Memory.UnmarkedBelow.of_cells {m' : Memory} (h : m.UnmarkedBelow rank r)
    (h_cells : ∀ key, m'.cell key = m.cell key) : m'.UnmarkedBelow rank r := by
  intro key h_key
  rw [h_cells]
  exact h key h_key

theorem Tells.traverse {key : Nat} {i : Identity} {visit : Eval Bool} {P : Prop}
    (h_unmarked : (m.cell key).isVisited = false) (h : Tells visit (m.update key Cell.visit) P) :
    Tells (traverse key i visit) m P := by
  have h_looks : Looks visit (m.update key Cell.visit) fun b => b = true ↔ P := h
  exact h_looks.traverse h_unmarked

/-- If nothing is found in one place, the search goes on with the same cells. -/
theorem Tells.orElse {e rest : Eval Bool} {P Q : Prop} (h : Tells e m P)
    (h_rest : ∀ m', (∀ key, m'.cell key = m.cell key) → Tells rest m' Q) :
    Tells (do if ← e then return true else rest) m (P ∨ Q) := by
  have h_looks : Looks e m fun b => b = true ↔ P := h
  refine h_looks.bind fun b m' h_b h_cells => ?_
  cases b with
  | true => exact tells_pure.2 (iff_of_true rfl (.inl (h_b.1 rfl)))
  | false =>
    have h_not : ¬ P := fun h_p => by cases h_b.2 h_p
    exact (h_rest m' h_cells).congr (or_iff_right h_not).symm

/-- The nodes of a lower rank are looked through rightly. -/
abbrev Scope.TellsPending (s : Scope) (Member : Node → Prop) (rank : Nat → Nat) (r : Nat)
    (hasNext : Node → Eval Bool) : Prop :=
  ∀ n m, Member n → rank n.key < r → m.UnmarkedBelow rank r →
    Tells (hasNext n) m (s.Pending m.cell n)

theorem Scope.tells_anyNext {hasNext : Node → Eval Bool}
    (h_next : s.TellsPending Member rank r hasNext) (links : List Link)
    (h_links : ∀ link ∈ links, s.LeadsBelow Member rank r link)
    (h_unmarked : m.UnmarkedBelow rank r) : Tells (s.anyNext hasNext links) m
      (∃ link ∈ links, ∃ n, s.target? link = some n ∧ s.Pending m.cell n) := by
  induction links generalizing m with
  | nil => exact ⟨by simp, fun _ => rfl, rfl⟩
  | cons link links ih =>
    obtain ⟨n, h_target, h_n, h_rank⟩ := h_links link List.mem_cons_self
    have h_rest : ∀ m', (∀ key, m'.cell key = m.cell key) → Tells (s.anyNext hasNext links) m'
        (∃ link ∈ links, ∃ n, s.target? link = some n ∧ s.Pending m.cell n) := by
      intro m' h_cells
      rw [← show m'.cell = m.cell from funext h_cells]
      exact ih (fun l h_l => h_links l (List.mem_cons_of_mem _ h_l)) (h_unmarked.of_cells h_cells)
    rw [Scope.anyNext, s.resolve_eq h_target, pure_bind]
    exact ((h_next n m h_n h_rank h_unmarked).orElse h_rest).congr (by simp [h_target])

/-- An optional node looks at its choice, or through its child, or both, as its rule is known. -/
theorem Scope.tells_optional {rule : Config.Mandatory} {child : Eval Bool} {P : Prop}
    (h_child : Tells child m P) (key : Nat) :
    Tells (do
      let cell ← Eval.cell key
      match s.knownMandatory cell rule with
      | some true => child
      | some false => pure cell.choice.hasNext
      | none => if cell.choice.hasNext then pure true else child) m
      ((s.knownMandatory (m.cell key) rule ≠ some true ∧ (m.cell key).choice.hasNext = true) ∨
        (s.knownMandatory (m.cell key) rule ≠ some false ∧ P)) := by
  rw [tells_cell]
  cases h_known : s.knownMandatory (m.cell key) rule with
  | none =>
    -- nothing is known, so both count
    simp only [ne_eq, reduceCtorEq, not_false_eq_true, true_and]
    split
    · next h_has => exact tells_pure.2 ⟨fun _ => .inl h_has, fun _ => rfl⟩
    · next h_has => exact h_child.congr ⟨.inr, fun h_or => h_or.resolve_left h_has⟩
  | some known =>
    cases known with
    | true => exact h_child.congr (by simp)
    | false => exact tells_pure.2 (by simp)

/-- **Looking for a case that is left** tells whether there is one. -/
theorem Node.tells_hasNextCase (h : s.Ordered Member rank) : ∀ fuel n m, Member n →
    rank n.key < fuel → m.UnmarkedBelow rank (rank n.key + 1) →
      Tells (n.hasNextCase s fuel) m (s.Pending m.cell n)
  | 0, _, _, _, h_fuel, _ => absurd h_fuel (Nat.not_lt_zero _)
  | fuel + 1, n, m, h_n, h_fuel, h_unmarked => by
    have h_next : s.TellsPending Member rank (rank n.key) (Node.hasNextCase s fuel) :=
      fun n' m' h_n' h_rank h_below => Node.tells_hasNextCase h fuel n' m' h_n' (by omega)
        fun key h_key => h_below key (by omega)
    have h_own := h_unmarked n.key (Nat.lt_succ_self _)
    have h_below := h_unmarked.visit
    -- the mark of the node makes no difference to what is left
    have h_cells : ∀ key, ((m.update n.key Cell.visit).cell key).served = (m.cell key).served ∧
        ((m.update n.key Cell.visit).cell key).choice = (m.cell key).choice ∧
          ((m.update n.key Cell.visit).cell key).decision = (m.cell key).decision := by
      intro key
      rw [Memory.cell_update]
      split
      · next h_eq =>
        subst h_eq
        exact ⟨rfl, rfl, rfl⟩
      · exact ⟨rfl, rfl, rfl⟩
    unfold Node.hasNextCase
    split
    · next value h_kind =>
      rw [Scope.pending_constant_iff h_kind, tells_cell, tells_pure]
      exact List.isEmpty_iff
    · next f _ h_kind =>
      rw [Scope.pending_field_iff h_kind, tells_cell, tells_pure]
      exact Option.isSome_iff_ne_none
    · next parts _ h_kind =>
      rw [← Scope.pending_congr h_cells, Scope.pending_links_iff parts (by rw [h_kind]; rfl)
        (by rw [h_kind]; rfl) (.inr (by rw [h_kind]; rfl)) (by rw [h_kind]; simp)]
      have h_links := h.leadsBelow h_n (congrArg NodeKind.links h_kind)
      exact .traverse h_own (Scope.tells_anyNext h_next _ h_links h_below)
    · next child rule h_kind =>
      obtain ⟨n', h_target, h_n', h_rank⟩ :=
        h.leadsBelow h_n (congrArg NodeKind.links h_kind) child (List.mem_singleton_self _)
      rw [← Scope.pending_congr h_cells, Scope.pending_optional_iff h_kind h_target]
      simp only [s.resolve_eq h_target, pure_bind]
      exact .traverse h_own (Scope.tells_optional (h_next n' _ h_n' h_rank h_below) n.key)
    · next child h_kind =>
      obtain ⟨n', h_target, h_n', h_rank⟩ :=
        h.leadsBelow h_n (congrArg NodeKind.links h_kind) child (List.mem_singleton_self _)
      rw [← Scope.pending_congr h_cells, Scope.pending_links_iff [child] (by rw [h_kind]; rfl)
        (by rw [h_kind]; rfl) (.inl (by simp)) (by rw [h_kind]; simp), s.resolve_eq h_target,
        pure_bind]
      have h_child := h_next n' _ h_n' h_rank h_below
      exact .traverse h_own (h_child.congr (by simp [h_target]))

end Walk

/-! ### What is left is due -/

/-- **If a node has cases left, a node is due**; and if that is an optional node, then it is not
known that its child has to be present. -/
theorem Scope.Pending.exists_due {Member : Node → Prop}
    (h_calls : ∀ n n', Member n → s.Calls n n' → Member n')
    (h_sound : ∀ n, Member n → s.Sound n (cells n.key)) (h : s.Pending cells n) (h_n : Member n) :
    ∃ n', Member n' ∧ n'.Due (cells n'.key) ∧ ∀ child rule, n'.kind = .optional child rule →
      s.knownMandatory (cells n'.key) rule ≠ some true := by
  induction h with
  | @constant n value h_kind h =>
    refine ⟨n, h_n, (Node.due_constant_iff h_kind).2 h, fun _ _ h_optional => ?_⟩
    cases h_kind.symm.trans h_optional
  | @field n f set h_kind h =>
    refine ⟨n, h_n, ?_, fun _ _ h_optional => by cases h_kind.symm.trans h_optional⟩
    rw [ne_eq, pendingCase?_eq_none_iff] at h
    push Not at h
    exact (Node.due_field_iff h_kind).2 h
  | part _ h_link h_target _ ih => exact ih (h_calls _ _ h_n (.inl ⟨_, h_link, h_target⟩))
  | @child n n' child _ h_kind _ h_target _ ih =>
    refine ih (h_calls n n' h_n (.inl ⟨child, ?_, h_target⟩))
    rw [h_kind]
    exact List.mem_singleton_self _
  | @choice n child rule h_kind h_known h =>
    refine ⟨n, h_n, ?_, fun _ _ h_optional => by cases h_kind.symm.trans h_optional; exact h_known⟩
    refine (Node.due_optional_iff h_kind).2 ⟨FairChoice.hasNext_iff.1 h, fun h_true => ?_⟩
    -- Were the child always present, the link would be known mandatory, against `h_known`.
    cases h_heed : s.ignoreOptional with
    | true => exact h_known (by simp [knownMandatory, h_heed])
    | false =>
      cases rule with
      | fixed always =>
        cases always with
        | true => exact h_known (by simp [knownMandatory, h_heed])
        | false => exact (h_sound n h_n child _ h_kind).2 h_heed rfl h_true
      | whenPresent id => exact h_known (by simp [knownMandatory, h_heed, h_true])

end Specimen
