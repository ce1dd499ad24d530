import Specimen.Proofs.Generator.Exhaustion

/-!
# Enumerations that do not come to an end

Optional constraints can get in each other's way. In the configuration `contended` the target is
asked first either by `first` or by `second`, and which of the two it is depends on what `first`
decides. There is a random stream for which the one that asks first always skips the target, so that
it is null in every pass and its constant is never served. Only the limit ends the enumeration, and
so there is no bound for all random streams (`enumerate_contended`).

The proof follows one pass through the nodes. A `Stage` is what matters of the memory in between,
and `Passes e x y` says that an evaluation answers null and leads from one stage to the other. The
stage at the end of every second pass is that at the beginning.
-/

namespace Specimen

namespace Generator

/-- If `first` is skipped, it asks the target for null itself. If it is not, it asks `second` before
the target. -/
def contended : Config :=
  ⟨Config.supportedVersion, none, .empty, [
    .mk (some "first") none (.optional (.embedded (.mk none none (.combined [
      .embedded (.mk none none (.optional (.reference "second") (.fixed true))),
      .reference "target"] ""))) (.fixed false)),
    .mk (some "second") none (.optional (.reference "target") (.fixed false)),
    .mk (some "target") none (.combined [.embedded (.mk none none (.constant "x"))] "")]⟩

/-- The words with which `first` flips `true` and `second` flips `false`, whenever they draw. -/
def contendedWords (position : Nat) : UInt32 := if position % 4 = 3 then 0xffff_ffff else 0

namespace Contended

/-! ### The nodes -/

def gate : Node := .mk 0 ⟨none, "first", none⟩ (.optional (.reference "second") (.fixed true))

def both : Node :=
  .mk 1 ⟨none, "first", none⟩ (.combined [.embedded gate, .reference "target"] "")

def first : Node := .mk 2 ⟨some "first", "first", none⟩ (.optional (.embedded both) (.fixed false))

def second : Node :=
  .mk 3 ⟨some "second", "second", none⟩ (.optional (.reference "target") (.fixed false))

def constant : Node := .mk 4 ⟨none, "target", none⟩ (.constant "x")

def target : Node := .mk 5 ⟨some "target", "target", none⟩ (.combined [.embedded constant] "")

/-! ### Stages of a pass -/

/-- How far a pass has come. -/
structure Stage where
  /-- The keys of the nodes that compute a value. -/
  held : List Nat
  /-- The keys of the nodes that keep null. -/
  kept : List Nat
  /-- What the choices of the nodes show next, if that is settled. -/
  pending : Nat → Option Bool
  /-- The number of the next word, in rounds of four. -/
  word : Nat

/-- The memory at a stage. -/
structure At (x : Stage) (m : Memory) : Prop where
  free : Unfixed m
  released : ∀ key, key ∉ x.held → (m.cell key).token = none
  cache : ∀ key, key < 6 → (m.cell key).cache = if key ∈ x.kept then some none else none
  unserved : ∀ key, key < 6 → (m.cell key).served = []
  pending : ∀ key, (m.cell key).choice.pending = x.pending key
  stream : m.draws.stream = contendedWords
  word : m.draws.position % 4 = x.word

/-- An evaluation answers null and leads from one stage to another. -/
def Passes (e : Eval (Option String)) (x y : Stage) : Prop :=
  ∀ m, At x m → Ends e m (fun v m' => v = none ∧ At y m') fun _ _ => False

variable {x y z : Stage} {m m' : Memory} {key : Nat}

/-- A change of tokens and decisions makes no difference but for the tokens. -/
theorem At.touch (h : At x m) {held : List Nat} (change : Cell → Cell) (h_change : ∀ c,
      (change c).override = c.override ∧ (change c).cache = c.cache ∧
        (change c).served = c.served ∧ (change c).choice = c.choice)
    (h_released : ∀ other, other ∉ held → ((m.update key change).cell other).token = none) :
    At { x with held := held } (m.update key change) where
  free other :=
    (m.cell_update_keeps Cell.override change (fun c => (h_change c).1) key other).trans
      (h.free other)
  released := h_released
  cache other h_other :=
    (m.cell_update_keeps Cell.cache change (fun c => (h_change c).2.1) key other).trans
      (h.cache other h_other)
  unserved other h_other :=
    (m.cell_update_keeps Cell.served change (fun c => (h_change c).2.2.1) key other).trans
      (h.unserved other h_other)
  pending other :=
    (congrArg FairChoice.pending
      (m.cell_update_keeps Cell.choice change (fun c => (h_change c).2.2.2) key other)).trans
      (h.pending other)
  stream := h.stream
  word := h.word

theorem At.begun (h : At x m) (key : Nat) (i : Identity) (c : FieldCase) :
    At { x with held := key :: x.held } (m.begun key i c) := by
  have h_next : At x m.nextToken :=
    ⟨h.free, h.released, h.cache, h.unserved, h.pending, h.stream, h.word⟩
  have h_held :
      At { x with held := key :: x.held } (m.nextToken.update key (Cell.hold m.tokens)) := by
    refine h_next.touch _ (fun _ => ⟨rfl, rfl, rfl, rfl⟩) fun other h_other => ?_
    rw [Memory.cell_update_of_ne _ _ (List.ne_of_not_mem_cons h_other)]
    exact h.released other (List.not_mem_of_not_mem_cons h_other)
  exact ⟨h_held.free, h_held.released, h_held.cache, h_held.unserved, h_held.pending, h_held.stream,
    h_held.word⟩

theorem At.release (h : At { x with held := key :: x.held } m) :
    At x (m.update key Cell.release) := by
  refine h.touch _ (fun _ => ⟨rfl, rfl, rfl, rfl⟩) fun other h_other => ?_
  rw [Memory.cell_update]
  split
  · rfl
  · next h_ne => exact h.released other (List.not_mem_cons_of_ne_of_not_mem h_ne h_other)

theorem At.decided (h : At x m) (key : Nat) (mandatory : Bool) :
    At x (m.update key (Cell.decide mandatory)) := by
  refine h.touch _ (fun _ => ⟨rfl, rfl, rfl, rfl⟩) fun other h_other => ?_
  rw [m.cell_update_keeps Cell.token (Cell.decide mandatory) fun _ => rfl]
  exact h.released other h_other

theorem At.keep (h : At x m) (key : Nat) :
    At { x with kept := key :: x.kept } (m.update key (Cell.keep none)) where
  free other :=
    (m.cell_update_keeps Cell.override (Cell.keep none) (fun _ => rfl) key other).trans
      (h.free other)
  released other h_other :=
    (m.cell_update_keeps Cell.token (Cell.keep none) (fun _ => rfl) key other).trans
      (h.released other h_other)
  cache other h_other := by
    rw [Memory.cell_update]
    split
    · next h_eq => rw [if_pos (h_eq ▸ List.mem_cons_self), Cell.keep]
    · next h_ne => simpa [h_ne] using h.cache other h_other
  unserved other h_other :=
    (m.cell_update_keeps Cell.served (Cell.keep none) (fun _ => rfl) key other).trans
      (h.unserved other h_other)
  pending other :=
    (m.cell_update_keeps (fun c => c.choice.pending) (Cell.keep none) (fun _ => rfl) key
      other).trans
      (h.pending other)
  stream := h.stream
  word := h.word

theorem At.choose (h : At x m) (key : Nat) (choice : FairChoice) {draws : Draws}
    (h_stream : draws.stream = contendedWords) : At { x with
        pending := Function.update x.pending key choice.pending
        word := draws.position % 4 } ((m.withDraws draws).update key (Cell.choose choice)) where
  free other :=
    (m.cell_update_keeps Cell.override (Cell.choose choice) (fun _ => rfl) key other).trans
      (h.free other)
  released other h_other :=
    (m.cell_update_keeps Cell.token (Cell.choose choice) (fun _ => rfl) key other).trans
      (h.released other h_other)
  cache other h_other :=
    (m.cell_update_keeps Cell.cache (Cell.choose choice) (fun _ => rfl) key other).trans
      (h.cache other h_other)
  unserved other h_other :=
    (m.cell_update_keeps Cell.served (Cell.choose choice) (fun _ => rfl) key other).trans
      (h.unserved other h_other)
  pending other := by
    change _ = Function.update x.pending key choice.pending other
    rw [Memory.cell_update, Function.update_apply]
    split
    · rfl
    · exact h.pending other
  stream := h_stream
  word := rfl

/-- A choice shows what is settled. -/
theorem At.next_settled (h : At x m) {side : Bool} (h_pending : x.pending key = some side) :
    ∃ choice draws, (m.cell key).choice.next m.draws = ((side, choice), draws) ∧
      At { x with pending := Function.update x.pending key none }
        ((m.withDraws draws).update key (Cell.choose choice)) := by
  refine ⟨(m.cell key).choice.shown none side, m.draws, ?_, ?_⟩
  · rw [FairChoice.next, h.pending, h_pending]
    rfl
  · have h_choose := h.choose key ((m.cell key).choice.shown none side) h.stream
    rwa [h.word] at h_choose

/-- The words say that a choice that draws shows `true` first, and then `false`. -/
theorem At.next_drawn (h : At x m) (h_pending : x.pending key = none) (side : Bool)
    (h_side : x.word = if side then 0 else 2) :
    ∃ choice draws, (m.cell key).choice.next m.draws = ((side, choice), draws) ∧ At { x with
        pending := Function.update x.pending key (some !side)
        word := if side then 2 else 0 } ((m.withDraws draws).update key (Cell.choose choice)) := by
  let draws : Draws := { m.draws with position := m.draws.position + 2 }
  have h_flip : Draw.flip m.draws = (side, draws) := by
    have h_word := h.word
    refine Prod.ext ?_ rfl
    -- Two words make one draw: the high one decides on which side of the middle it falls.
    change decide ((m.draws.stream m.draws.position).toNat +
      0x1_0000_0000 * (m.draws.stream (m.draws.position + 1)).toNat < 0x8000_0000_0000_0000) = side
    rw [h.stream, contendedWords, contendedWords]
    cases side with
    | true =>
      simp only [if_true] at h_side
      rw [if_neg (by omega), if_neg (by omega)]
      rfl
    | false =>
      simp only [Bool.false_eq_true, if_false] at h_side
      rw [if_neg (by omega), if_pos (by omega)]
      rfl
  refine ⟨(m.cell key).choice.shown (some !side) side, draws, ?_, ?_⟩
  · rw [FairChoice.next, h.pending, h_pending]
    change ((((Draw.flip m.draws).1, (m.cell key).choice.shown (some !(Draw.flip m.draws).1)
      (Draw.flip m.draws).1), (Draw.flip m.draws).2) : (Bool × FairChoice) × Draws) = _
    rw [h_flip]
  · have h_stream : draws.stream = contendedWords := h.stream
    have h_choose := h.choose key ((m.cell key).choice.shown (some !side) side) h_stream
    have h_word : draws.position % 4 = if side then 2 else 0 := by
      change (m.draws.position + 2) % 4 = _
      have h_word := h.word
      cases side <;> simp only [Bool.false_eq_true, if_false, if_true] at h_side ⊢ <;> omega
    rwa [h_word] at h_choose

/-! ### Ways to answer null -/

section Ways

variable {s : Scope} {ask : Node → FieldCase → Eval (Option String)} {n : Node} {c : FieldCase}
  {i : Identity} {fuel : Nat} {held kept kept' : List Nat} {pending pending' : Nat → Option Bool}
  {word word' : Nat}

theorem derive_none (c : FieldCase) : derive c none = none := by
  cases c <;> rfl

theorem value_combined {parts : List Link} {separator : String}
    (h_kind : n.kind = .combined parts separator) : n.value s (fuel + 1) c =
      cached n.key n.identity c fun c => do
        return Scope.joined separator (← s.partValues (Node.value s fuel) c parts) := by
  rw [Node.value, Node.answer]
  simp only [h_kind]

theorem value_optional {child : Link} {rule : Config.Mandatory}
    (h_kind : n.kind = .optional child rule) : n.value s (fuel + 1) c =
      cached n.key n.identity c (s.optionalValue (Node.value s fuel) n.key child rule) := by
  rw [Node.value, Node.answer]
  simp only [h_kind]

/-- A node that keeps null answers it. -/
theorem passes_remembered (h_kind : n.kind.isStateless = false) (h_key : n.key < 6)
    (h_kept : n.key ∈ kept) : Passes (n.value s (fuel + 1) c) ⟨held, kept, pending, word⟩
      ⟨held, kept, pending, word⟩ := by
  intro m h
  have h_cache : (m.cell n.key).cache = some none := by rw [h.cache n.key h_key, if_pos h_kept]
  have h_cached : ∀ generate, Ends (cached n.key n.identity c generate) m
      (fun v m' => v = none ∧ At ⟨held, kept, pending, word⟩ m') fun _ _ => False :=
    fun generate => (ends_cached_remembered (h.free n.key) h_cache).2 ⟨derive_none c, h⟩
  rw [Node.value, Node.answer]
  split
  · next h_eq => rw [h_eq] at h_kind; cases h_kind
  · exact h_cached _
  · exact h_cached _
  · exact h_cached _
  · next h_eq => rw [h_eq] at h_kind; cases h_kind

/-- A node that computes null keeps it. -/
theorem passes_cached {generate : FieldCase → Eval (Option String)} (h_held : key ∉ held)
    (h_key : key < 6) (h_kept : key ∉ kept)
    (h : Passes (generate c.computed) ⟨key :: held, kept, pending, word⟩
      ⟨key :: held, kept', pending', word'⟩) :
    Passes (cached key i c generate) ⟨held, kept, pending, word⟩
      ⟨held, key :: kept', pending', word'⟩ := by
  intro m h_m
  have h_cache : (m.cell key).cache = none := by rw [h_m.cache key h_key, if_neg h_kept]
  rw [ends_cached (h_m.free key) h_cache,
    ends_guarded fun held h_some => by rw [h_m.released key h_held] at h_some; cases h_some]
  refine (h _ (h_m.begun key i c.computed)).mono (fun v m' h_v => ?_) fun _ _ h_bad => h_bad
  obtain ⟨rfl, h_m'⟩ := h_v
  have h_end : At ⟨held, kept', pending', word'⟩ (m'.update key Cell.release) := h_m'.release
  rw [derive_none]
  exact ⟨rfl, h_end.keep key⟩

/-- A constant is null if it is asked for null. -/
theorem passes_constant (h_held : constant.key ∉ held) :
    Passes (constant.value s (fuel + 1) .null) ⟨held, kept, pending, word⟩
      ⟨held, kept, pending, word⟩ := by
  intro m h_m
  rw [Node.value]
  change Ends (stateless constant.key constant.identity .null
    (constantValue constant.key "x")) m _ _
  rw [ends_stateless (h_m.free _),
    ends_guarded fun held h_some => by rw [h_m.released _ h_held] at h_some; cases h_some]
  exact ⟨rfl, (h_m.begun _ _ _).release⟩

/-- Parts that are null are left out. -/
theorem ends_partValues_none {link : Link} {links : List Link} (h_target : s.target? link = some n)
    (h : Passes (ask n c) x y) (h_rest : ∀ m, At y m → Ends (s.partValues ask c links) m
      (fun values m' => values = [] ∧ At z m') fun _ _ => False) :
    ∀ m, At x m → Ends (s.partValues ask c (link :: links)) m
      (fun values m' => values = [] ∧ At z m') fun _ _ => False := by
  intro m h_m
  rw [Scope.partValues, s.resolve_eq h_target, pure_bind, ends_bind]
  refine (h m h_m).mono (fun v m' h_v => ?_) fun _ _ h_bad => h_bad
  obtain ⟨rfl, h_m'⟩ := h_v
  rw [ends_bind]
  refine (h_rest m' h_m').mono (fun values m'' h_values => ?_) fun _ _ h_bad => h_bad
  obtain ⟨rfl, h_m''⟩ := h_values
  exact ⟨rfl, h_m''⟩

/-- An optional node that is present by rule asks its child. -/
theorem passes_mandatory {child : Link} (h_heeds : s.ignoreOptional = false)
    (h_target : s.target? child = some n) (h : Passes (ask n .normal) x y) :
    Passes (s.optionalValue ask key child (.fixed true) .normal) x y := by
  intro m h_m
  have h_c : ¬ FieldCase.normal.isExplicit = true := by decide
  simp only [Scope.optionalValue, reduceCtorEq, if_false, if_neg h_c, s.resolve_eq h_target,
    pure_bind, ends_bind, Scope.decide, Scope.isMandatory, h_heeds, Bool.false_eq_true, ends_update,
    if_true, ends_pure]
  exact h _ (h_m.decided key true)

/-- A rule that never asks for the child lets the choice decide. -/
theorem ends_decide_fixed (h_heeds : s.ignoreOptional = false) {good : Bool → Memory → Prop}
    {bad : Failure → Memory → Prop} {side : Bool} {choice : FairChoice} {draws : Draws}
    (h_next : ((m.update key (Cell.decide false)).cell key).choice.next m.draws =
      ((side, choice), draws)) : Ends (s.decide ask key (.fixed false)) m good bad ↔
        good side (((m.update key (Cell.decide false)).withDraws draws).update key
          (Cell.choose choice)) := by
  simp only [Scope.decide, Scope.isMandatory, h_heeds, Bool.false_eq_true, if_false, pure_bind,
    ends_bind, ends_update, ends_cell, ends_draw, ends_pure]
  let flipped := ((m.update key (Cell.decide false)).cell key).choice.next m.draws
  change good flipped.1.1 (((m.update key (Cell.decide false)).withDraws flipped.2).update key
    (Cell.choose flipped.1.2)) ↔ _
  rw [show flipped = ((side, choice), draws) from h_next]

/-- An optional node asks its child for what its choice shows. -/
theorem passes_chosen (side : Bool) {child : Link} (h_heeds : s.ignoreOptional = false)
    (h_target : s.target? child = some n)
    (h_next : ∀ m, At x m → ∃ choice draws, (m.cell key).choice.next m.draws =
      ((side, choice), draws) ∧ At y ((m.withDraws draws).update key (Cell.choose choice)))
    (h : Passes (ask n (if side then .normal else .null)) y z) :
    Passes (s.optionalValue ask key child (.fixed false) .normal) x z := by
  intro m h_m
  have h_c : ¬ FieldCase.normal.isExplicit = true := by decide
  obtain ⟨choice, draws, h_eq, h_y⟩ := h_next _ (h_m.decided key false)
  simp only [Scope.optionalValue, reduceCtorEq, if_false, if_neg h_c, s.resolve_eq h_target,
    pure_bind, ends_bind]
  rw [ends_decide_fixed h_heeds h_eq]
  exact h _ h_y

/-- Parts that are null make a value that is null. -/
theorem passes_joined {separator : String} {links : List Link}
    (h : ∀ m, At x m → Ends (s.partValues ask c links) m
      (fun values m' => values = [] ∧ At y m') fun _ _ => False) :
    Passes (do return Scope.joined separator (← s.partValues ask c links)) x y := by
  intro m h_m
  rw [ends_bind]
  refine (h m h_m).mono (fun values m' h_values => ?_) fun _ _ h_bad => h_bad
  obtain ⟨rfl, h_m'⟩ := h_values
  exact ⟨rfl, h_m'⟩

end Ways

/-! ### The passes -/

section Nodes

variable {s : Scope} {fuel : Nat} {held kept : List Nat} {pending : Nat → Option Bool} {word : Nat}
  (h_heeds : s.ignoreOptional = false)
  (h_second : s.target? (.reference "second") = some second)
  (h_target : s.target? (.reference "target") = some target)

/-- The target is null if it is asked for null first. -/
theorem passes_target (h_held : target.key ∉ held) (h_constant : constant.key ∉ held)
    (h_kept : target.key ∉ kept) : Passes (target.value s (fuel + 2) .null)
      ⟨held, kept, pending, word⟩ ⟨held, target.key :: kept, pending, word⟩ := by
  have h_free : constant.key ∉ target.key :: held :=
    List.not_mem_cons_of_ne_of_not_mem (by decide) h_constant
  rw [value_combined rfl]
  refine passes_cached h_held (by decide) h_kept (passes_joined ?_)
  exact ends_partValues_none rfl (passes_constant h_free) fun m h_m => ⟨rfl, h_m⟩

include h_heeds h_target

/-- If the choice of `second` shows `false`, it asks the target for null. -/
theorem passes_second (h_held : ∀ key ∈ held, key < second.key) (h_target_kept : target.key ∉ kept)
    (h_kept : second.key ∉ kept) (h_pending : pending second.key = none) :
    Passes (second.value s (fuel + 3) .normal) ⟨held, kept, pending, 2⟩
      ⟨held, second.key :: target.key :: kept,
        Function.update pending second.key (some true), 0⟩ := by
  have h_free : ∀ key, second.key ≤ key → key ∉ held :=
    fun key h_le h_key => absurd (h_held key h_key) (Nat.not_lt.2 h_le)
  rw [value_optional rfl]
  refine passes_cached (h_free _ (Nat.le_refl _)) (by decide) h_kept ?_
  refine passes_chosen false h_heeds h_target (fun m h_m => h_m.next_drawn h_pending false rfl) ?_
  refine passes_target ?_ ?_ h_target_kept
  · exact List.not_mem_cons_of_ne_of_not_mem (by decide) (h_free _ (by decide))
  · exact List.not_mem_cons_of_ne_of_not_mem (by decide) (h_free _ (by decide))

/-- If the choice of `second` shows `true` after the target was asked, it finds null. -/
theorem passes_second_late (h_held : second.key ∉ held) (h_target_kept : target.key ∈ kept)
    (h_kept : second.key ∉ kept) (h_pending : pending second.key = some true) :
    Passes (second.value s (fuel + 2) .normal) ⟨held, kept, pending, word⟩
      ⟨held, second.key :: kept, Function.update pending second.key none, word⟩ := by
  rw [value_optional rfl]
  refine passes_cached h_held (by decide) h_kept ?_
  refine passes_chosen true h_heeds h_target (fun m h_m => h_m.next_settled h_pending) ?_
  exact passes_remembered rfl (by decide) h_target_kept

include h_second in
/-- If the choice of `first` shows `true`, it asks `second` before the target. -/
theorem passes_first (h_first : pending first.key = none) (h_pending : pending second.key = none) :
    Passes (first.value s (fuel + 6) .normal) ⟨[], [], pending, 0⟩
      ⟨[], [first.key, both.key, gate.key, second.key, target.key],
        Function.update (Function.update pending first.key (some false)) second.key (some true),
        0⟩ := by
  let flipped := Function.update pending first.key (some false)
  let turned := Function.update flipped second.key (some true)
  have h_flipped : flipped second.key = none := by
    rw [← h_pending]
    exact Function.update_of_ne (by decide) _ _
  have h_asked : Passes (second.value s (fuel + 3) .normal)
      ⟨[gate.key, both.key, first.key], [], flipped, 2⟩
      ⟨[gate.key, both.key, first.key], [second.key, target.key], turned, 0⟩ :=
    passes_second h_heeds h_target (by decide) (by decide) (by decide) h_flipped
  have h_gate : Passes (gate.value s (fuel + 4) .normal) ⟨[both.key, first.key], [], flipped, 2⟩
      ⟨[both.key, first.key], [gate.key, second.key, target.key], turned, 0⟩ := by
    rw [value_optional rfl]
    refine passes_cached (by decide) (by decide) (by decide) ?_
    exact passes_mandatory h_heeds h_second h_asked
  -- `both` asks `gate` first, so the target has its value before `both` comes to it.
  have h_late : Passes (target.value s (fuel + 4) .normal)
      ⟨[both.key, first.key], [gate.key, second.key, target.key], turned, 0⟩
      ⟨[both.key, first.key], [gate.key, second.key, target.key], turned, 0⟩ :=
    passes_remembered rfl (by decide) (by decide)
  have h_both : Passes (both.value s (fuel + 5) .normal) ⟨[first.key], [], flipped, 2⟩
      ⟨[first.key], [both.key, gate.key, second.key, target.key], turned, 0⟩ := by
    rw [value_combined rfl]
    refine passes_cached (by decide) (by decide) (by decide) (passes_joined ?_)
    exact ends_partValues_none rfl h_gate
      (ends_partValues_none h_target h_late fun m h_m => ⟨rfl, h_m⟩)
  rw [value_optional rfl]
  refine passes_cached (by decide) (by decide) (by decide) ?_
  exact passes_chosen true h_heeds rfl (fun m h_m => h_m.next_drawn h_first true rfl) h_both

/-- If the choice of `first` shows `false`, the target is asked for null at once. -/
theorem passes_first_skipped (h_first : pending first.key = some false) :
    Passes (first.value s (fuel + 4) .normal) ⟨[], [], pending, 0⟩
      ⟨[], [first.key, both.key, target.key, gate.key],
        Function.update pending first.key none, 0⟩ := by
  let flipped := Function.update pending first.key none
  have h_gate : Passes (gate.value s (fuel + 2) .null) ⟨[both.key, first.key], [], flipped, 0⟩
      ⟨[both.key, first.key], [gate.key], flipped, 0⟩ := by
    rw [value_optional rfl]
    exact passes_cached (by decide) (by decide) (by decide) fun m h_m => ⟨rfl, h_m⟩
  have h_asked : Passes (target.value s (fuel + 2) .null)
      ⟨[both.key, first.key], [gate.key], flipped, 0⟩
      ⟨[both.key, first.key], [target.key, gate.key], flipped, 0⟩ :=
    passes_target (by decide) (by decide) (by decide)
  have h_both : Passes (both.value s (fuel + 3) .null) ⟨[first.key], [], flipped, 0⟩
      ⟨[first.key], [both.key, target.key, gate.key], flipped, 0⟩ := by
    rw [value_combined rfl]
    refine passes_cached (by decide) (by decide) (by decide) (passes_joined ?_)
    exact ends_partValues_none rfl h_gate
      (ends_partValues_none h_target h_asked fun m h_m => ⟨rfl, h_m⟩)
  rw [value_optional rfl]
  refine passes_cached (by decide) (by decide) (by decide) ?_
  exact passes_chosen false h_heeds rfl (fun m h_m => h_m.next_settled h_first) h_both

end Nodes

/-! ### One pass after the other -/

/-- What is settled after the first of two passes. -/
def opposite : Nat → Option Bool :=
  Function.update (Function.update (fun _ => none) first.key (some false)) second.key (some true)

/-- Between two passes either nothing is settled, or both nodes are in the middle of a pair. -/
def Between (m : Memory) : Prop :=
  ∃ kept, At ⟨[], kept, fun _ => none, 0⟩ m ∨ At ⟨[], kept, opposite, 0⟩ m

section Rounds

variable {g : Generator}

theorem At.passBegun (h : At x m) :
    At { x with kept := [] } (passBegun [first, second, target] m) := by
  have h_keys : [first, second, target].flatMap Node.keys = [2, 1, 0, 3, 5, 4] := by
    simp [Node.keys, NodeKind.keys, Link.keys, Link.listKeys, first, second, target, both, gate,
      constant]
  -- A new pass forgets the values of these six nodes and touches nothing else.
  have h_cell : ∀ key, (Generator.passBegun [first, second, target] m).cell key =
      if key ∈ [2, 1, 0, 3, 5, 4] then (m.cell key).forgetValue else m.cell key := by
    intro key
    rw [Generator.passBegun, Memory.cell_updateAll Cell.forgetValue (fun _ => rfl), h_keys]
    rfl
  have h_draws : (Generator.passBegun [first, second, target] m).draws = m.draws :=
    (Memory.updateAll_tokens _ _ _).2.1
  constructor
  case free =>
    intro key
    rw [h_cell]
    split <;> exact h.free key
  case released =>
    intro key h_key
    rw [h_cell]
    split <;> exact h.released key h_key
  case cache =>
    intro key h_key
    rw [h_cell, if_pos (by simp; omega)]
    rfl
  case unserved =>
    intro key h_key
    rw [h_cell]
    split <;> exact h.unserved key h_key
  case pending =>
    intro key
    rw [h_cell]
    split <;> exact h.pending key
  case stream => rw [h_draws]; exact h.stream
  case word => rw [h_draws]; exact h.word

/-- The values of the roots are asked for one after the other. -/
theorem ends_fill_cons (number : Nat) (ids : List String) {c : FieldCase} {id : String} {n : Node}
    (h_get : g.graph.nodes.get? id = some n) (h : Passes (n.value g.scope g.fuel c) x y)
    (h_rest : ∀ d m, At y m → Ends (g.fill c number ids d) m (fun _ m' => At z m')
      fun _ _ => False) :
    ∀ d m, At x m → Ends (g.fill c number (id :: ids) d) m (fun _ m' => At z m')
      fun _ _ => False := by
  intro d m h_m
  rw [fill, value, find_eq h_get, pure_bind, ends_bind]
  exact (h m h_m).mono (fun v m' h_v => h_rest _ m' h_v.2) fun _ _ h_bad => h_bad

variable (h : g.Represents contended [first, second, target]) (h_size : g.graph.size = 6)
  (h_heeds : g.ignoreOptional = false)
include h

theorem roots_eq : g.roots = ["first", "second", "target"] :=
  (List.map_inj_right fun _ _ => Option.some.inj).1 h.roots.symm

theorem get?_root {n : Node} (h_n : n ∈ [first, second, target]) {id : String}
    (h_id : n.id = some id) : g.graph.nodes.get? id = some n :=
  (h.registered id n).2 ⟨⟨n, h_n, n.inside_self⟩, h_id⟩

/-- A pass goes through the roots. -/
theorem ends_generate {kept : List Nat} {pending : Nat → Option Bool} {word : Nat}
    (h_first : Passes (first.value g.scope g.fuel .normal) ⟨[], [], pending, word⟩ x)
    (h_second : Passes (second.value g.scope g.fuel .normal) x y)
    (h_target : Passes (target.value g.scope g.fuel .normal) y z)
    (h_m : At ⟨[], kept, pending, word⟩ m) :
    Ends (g.generate .normal) m (fun _ m' => At z m') fun _ _ => False := by
  rw [generate, ends_bind, h.ends_beginPass, ends_bind, roots_eq h]
  let number := m.passes + 1
  have h_fill := ends_fill_cons number ["second", "target"] (get?_root h (by simp) rfl) h_first
    (ends_fill_cons number ["target"] (get?_root h (by simp) rfl) h_second
      (ends_fill_cons number [] (get?_root h (by simp) rfl) h_target fun d m h_m => h_m))
  refine (h_fill .empty _ h_m.passBegun).mono (fun d m' h_m' => ?_) fun _ _ h_bad => h_bad
  -- logging the data set changes no cell
  exact ⟨h_m'.free, h_m'.released, h_m'.cache, h_m'.unserved, h_m'.pending, h_m'.stream, h_m'.word⟩

include h_size h_heeds

/-- In each of two passes the first request to the target is one for null. -/
theorem ends_generate_between (h_m : Between m) :
    Ends (g.generate .normal) m (fun _ m' => Between m') fun _ _ => False := by
  have h_second : g.scope.target? (.reference "second") = some second := get?_root h (by simp) rfl
  have h_target : g.scope.target? (.reference "target") = some target := get?_root h (by simp) rfl
  have h_fuel : g.fuel = 7 := by rw [fuel, h_size]
  obtain ⟨kept, h_m | h_m⟩ := h_m
  · -- the first of the two passes: the child of `first` is asked, and both choices turn
    let all := [first.key, both.key, gate.key, second.key, target.key]
    have h_first : Passes (first.value g.scope g.fuel .normal) ⟨[], [], fun _ => none, 0⟩
        ⟨[], all, opposite, 0⟩ := by
      rw [h_fuel]
      exact passes_first h_heeds h_second h_target rfl rfl
    have h_kept : ∀ n ∈ [second, target], Passes (n.value g.scope g.fuel .normal)
        ⟨[], all, opposite, 0⟩ ⟨[], all, opposite, 0⟩ := by
      rw [h_fuel]
      intro n h_n
      rcases List.mem_pair.1 h_n with rfl | rfl <;>
        exact passes_remembered rfl (by decide) (by decide)
    exact (ends_generate h h_first (h_kept second (by simp)) (h_kept target (by simp)) h_m).mono
      (fun _ m' h_m' => ⟨all, .inr h_m'⟩) fun _ _ h_bad => h_bad
  · -- the second one: the child of `first` is left out, and both choices turn back
    let most := [first.key, both.key, target.key, gate.key]
    let settled := Function.update opposite first.key none
    have h_first : Passes (first.value g.scope g.fuel .normal) ⟨[], [], opposite, 0⟩
        ⟨[], most, settled, 0⟩ := by
      rw [h_fuel]
      exact passes_first_skipped h_heeds h_target rfl
    have h_calm : Function.update settled second.key none = fun _ => none := by
      funext key
      simp only [settled, opposite, Function.update_apply]
      split <;> try rfl
      split <;> rfl
    have h_late : Passes (second.value g.scope g.fuel .normal) ⟨[], most, settled, 0⟩
        ⟨[], second.key :: most, fun _ => none, 0⟩ := by
      rw [h_fuel, ← h_calm]
      exact passes_second_late h_heeds h_target (by decide) (by decide) (by decide) rfl
    have h_kept : Passes (target.value g.scope g.fuel .normal)
        ⟨[], second.key :: most, fun _ => none, 0⟩ ⟨[], second.key :: most, fun _ => none, 0⟩ := by
      rw [h_fuel]
      exact passes_remembered rfl (by decide) (by decide)
    exact (ends_generate h h_first h_late h_kept h_m).mono
      (fun _ m' h_m' => ⟨second.key :: most, .inl h_m'⟩) fun _ _ h_bad => h_bad

/-- Whatever round comes next, it is followed by another one like that. -/
theorem round_between {rank : Nat → Nat}
    (h_ordered : g.scope.Ordered (Represents.Member [first, second, target]) rank)
    (h_fuel : ∀ key, rank key < g.fuel) (h_quiet : m.Quiet) (h_m : Between m) :
    Between (g.round m) := by
  obtain ⟨b, -, -, h_cells, h_draws⟩ := (h.tells_hasNextCase h_ordered h_fuel h_quiet).exists_ok
  have h_same : ∀ {x : Stage}, At x m → At x (g.hasNextCase m).2 := by
    intro x h_x
    constructor
    case free => exact fun key => h_cells key ▸ h_x.free key
    case released => exact fun key h_key => h_cells key ▸ h_x.released key h_key
    case cache => exact fun key h_key => h_cells key ▸ h_x.cache key h_key
    case unserved => exact fun key h_key => h_cells key ▸ h_x.unserved key h_key
    case pending => exact fun key => h_cells key ▸ h_x.pending key
    case stream => exact h_draws ▸ h_x.stream
    case word => exact h_draws ▸ h_x.word
  have h_next : Between (g.hasNextCase m).2 := h_m.imp fun _ h_at => h_at.imp h_same h_same
  obtain ⟨d, -, h_end⟩ := (ends_generate_between h h_size h_heeds h_next).exists_ok
  exact h_end

omit h h_size h_heeds in
/-- The constant of the target was not served. -/
theorem anyLeft_of_between (h_m : Between m) : g.AnyLeft [first, second, target] m := by
  have h_unserved : (m.cell constant.key).served = [] := by
    obtain ⟨kept, h_at | h_at⟩ := h_m
    · exact h_at.unserved _ (by decide)
    · exact h_at.unserved _ (by decide)
  exact ⟨target, by simp, .part rfl (List.mem_singleton_self _) rfl (.constant rfl h_unserved)⟩

end Rounds

/-- The start is a point between two passes. -/
theorem between_start (g : Generator) : Between
    (casesReset [first, second, target] (g.freshMemory.withDraws ⟨contendedWords, 0⟩)) := by
  have h_cell : ∀ key, (casesReset [first, second, target]
      (g.freshMemory.withDraws ⟨contendedWords, 0⟩)).cell key = .fresh := by
    intro key
    have h_fresh : (g.freshMemory.withDraws ⟨contendedWords, 0⟩).cell key = .fresh :=
      Cells.get_fresh key
    rw [casesReset, Memory.cell_updateAll Cell.forgetCases (fun _ => rfl), h_fresh]
    split <;> rfl
  have h_draws : (casesReset [first, second, target]
      (g.freshMemory.withDraws ⟨contendedWords, 0⟩)).draws = ⟨contendedWords, 0⟩ :=
    (Memory.updateAll_tokens _ _ _).2.1
  refine ⟨[], .inl ?_⟩
  constructor
  case free => exact fun key => by rw [h_cell]; rfl
  case released => exact fun key _ => by rw [h_cell]; rfl
  case cache => exact fun key _ => by rw [h_cell]; rfl
  case unserved => exact fun key _ => by rw [h_cell]; rfl
  case pending => exact fun key => by rw [h_cell]; rfl
  case stream => rw [h_draws]
  case word => rw [h_draws]; rfl

/-- The configuration has a generator, and its nodes are known. -/
theorem exists_ofConfig : ∃ g, ofConfig contended {} 0 = .ok g ∧
    g.Represents contended [first, second, target] ∧ g.graph.size = 6 ∧
      g.ignoreOptional = false := by
  have h_built : (ofConfig contended {} 0).toOption.map (fun g => (g.roots.map g.graph.nodes.get?,
      g.roots, g.graph.size)) = some ([some first, some second, some target],
        ["first", "second", "target"], 6) := by rfl
  obtain ⟨g, h_some, h_graph⟩ := Option.map_eq_some_iff.1 h_built
  have h_ok : ofConfig contended {} 0 = .ok g := by
    cases h : ofConfig contended {} 0 with
    | error _ => rw [h] at h_some; cases h_some
    | ok g' => rw [h] at h_some; cases h_some; rfl
  obtain ⟨⟨tops, h⟩, h_ignore, -⟩ := ofConfig_represents h_ok
  obtain ⟨h_nodes, h_roots, h_size⟩ : g.roots.map g.graph.nodes.get? =
      [some first, some second, some target] ∧ g.roots = ["first", "second", "target"] ∧
        g.graph.size = 6 := by simpa using h_graph
  -- the nodes of the top level are those registered under the ids of the roots
  have h_tops : tops.map some = g.roots.map g.graph.nodes.get? := by
    have h_each : ∀ t ∈ tops, t.id.bind g.graph.nodes.get? = some t := by
      intro t h_t
      have h_id : t.id ∈ g.roots.map some := h.roots ▸ List.mem_map_of_mem h_t
      obtain ⟨id, -, h_eq⟩ := List.mem_map.1 h_id
      rw [← h_eq, Option.bind_some]
      exact (h.registered id t).2 ⟨⟨t, h_t, t.inside_self⟩, h_eq.symm⟩
    have h_map : tops.map some = (tops.map Node.id).map fun id => id.bind g.graph.nodes.get? := by
      rw [List.map_map]
      exact List.map_congr_left fun t h_t => (h_each t h_t).symm
    rw [h_map, h.roots, List.map_map]
    rfl
  have h_eq : tops = [first, second, target] := by
    refine (List.map_inj_right fun _ _ => Option.some.inj).1 (h_tops.trans h_nodes)
  exact ⟨g, h_ok, h_eq ▸ h, h_size, h_ignore⟩

/-- A constraint and its parts are no fields. -/
def NoFields (x : Config.Constraint) : Prop :=
  ∀ p y, x.at? p = some y → ∀ spec, y.kind ≠ .field spec

theorem noFields_of_parts {x : Config.Constraint} (h_own : ∀ spec, x.kind ≠ .field spec)
    (h_parts : ∀ z, .embedded z ∈ x.children → NoFields z) : NoFields x :=
  Config.Constraint.forall_at?_of_parts h_own h_parts

theorem fieldsRender : contended.FieldsRender := by
  have h_all : ∀ x ∈ contended.constraints, NoFields x := by
    intro x h_x
    simp only [contended, List.mem_cons, List.not_mem_nil, or_false] at h_x
    rcases h_x with rfl | rfl | rfl
    · refine noFields_of_parts (fun _ => nofun) fun z h_z => ?_
      obtain rfl := Config.Child.embedded.inj (List.mem_singleton.1 h_z)
      refine noFields_of_parts (fun _ => nofun) fun z h_z => ?_
      rcases List.mem_pair.1 h_z with h_z | h_z
      · obtain rfl := Config.Child.embedded.inj h_z
        exact noFields_of_parts (fun _ => nofun) fun z h_z => nomatch List.mem_singleton.1 h_z
      · cases h_z
    · exact noFields_of_parts (fun _ => nofun) fun z h_z => nomatch List.mem_singleton.1 h_z
    · refine noFields_of_parts (fun _ => nofun) fun z h_z => ?_
      obtain rfl := Config.Child.embedded.inj (List.mem_singleton.1 h_z)
      exact noFields_of_parts (fun _ => nofun) fun z h_z => nomatch h_z
  intro p x spec f h_x h_kind
  match p with
  | i :: p =>
    obtain ⟨y, h_y, h_x⟩ := Config.at?_cons.1 h_x
    exact absurd h_kind (h_all y (List.mem_of_getElem? h_y) p x h_x spec)

end Contended

/-- **A limit that is needed.** Every pass leaves a case of the target for the next one. -/
theorem enumerate_contended : ∃ g, ofConfig contended {} 0 = .ok g ∧ ∀ limit, ∃ ds m',
    g.enumerate limit (g.freshMemory.withDraws ⟨contendedWords, 0⟩) = (.ok ds, m') ∧
      ds.length = limit ∧ ∃ m'', g.hasNextCase m' = (.ok true, m'') := by
  obtain ⟨g, h_ok, h, h_size, h_heeds⟩ := Contended.exists_ofConfig
  refine ⟨g, h_ok, fun limit => ?_⟩
  obtain ⟨rank, h_fuel, h_ordered, -⟩ := h.exists_ordered
  have h_crash := h.crashesOnly_of_fieldsRender Contended.fieldsRender
  let start := g.freshMemory.withDraws ⟨contendedWords, 0⟩
  let m := casesReset [Contended.first, Contended.second, Contended.target] start
  have h_quiet : start.Quiet := fun _ => ⟨rfl, rfl⟩
  have h_free : Unfixed start := fun _ => rfl
  have h_settled : start.Settled m := settled_casesReset _ _
  have h_rest := h.rounds_rest h_crash h_ordered h_fuel (h_settled.quiet h_quiet)
    (h_free.of_settled h_settled)
  have h_between : ∀ i, Contended.Between (g.round^[i] m) := by
    intro i
    induction i with
    | zero => exact Contended.between_start g
    | succ i ih =>
      rw [Function.iterate_succ_apply']
      exact Contended.round_between h h_size h_heeds h_ordered h_fuel (h_rest i).1 ih
  obtain ⟨ds, m', h_eq, -, -, h_end, b, m'', h_next, h_b⟩ :=
    h.exists_enumerate h_crash h_ordered h_fuel limit h_quiet h_free
  have h_left := Contended.anyLeft_of_between (g := g) (h_between ds.length)
  obtain rfl := h_b.2 h_left
  exact ⟨ds, m', h_eq, h_end.resolve_right fun h_none => h_none h_left, m'', h_next⟩

/-- **No bound for all random streams.** However many passes are allowed, there is a stream for
which they do not exhaust the cases of the configuration, although it has no fields at all. -/
theorem not_exhausted_contended : contended.FieldsRender ∧ ¬ ∃ most : Nat,
    ∀ (o : GeneratorOptions) random g, o.ignoreOptional = false →
      ofConfig contended o random = .ok g →
      ∀ m, g.Reachable m → Unfixed m → ∀ limit, most ≤ limit →
        ∃ ds m', g.enumerate limit m = (.ok ds, m') ∧ ds.length ≤ most ∧
          ∃ m'', g.hasNextCase m' = (.ok false, m'') := by
  refine ⟨Contended.fieldsRender, ?_⟩
  rintro ⟨most, h_most⟩
  obtain ⟨g, h_ok, h_limit⟩ := enumerate_contended
  obtain ⟨ds, m', h_eq, h_length, m'', h_next⟩ := h_limit most
  obtain ⟨ds', m₁, h_eq', -, m₂, h_next'⟩ := h_most {} 0 g rfl h_ok _
    (.start ⟨contendedWords, 0⟩) (fun _ => rfl) most (Nat.le_refl most)
  obtain rfl : m' = m₁ := congrArg Prod.snd (h_eq.symm.trans h_eq')
  cases h_next.symm.trans h_next'

end Generator

end Specimen
