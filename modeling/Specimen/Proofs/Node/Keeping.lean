import Specimen.Proofs.Node.Guard

/-!
# What an evaluation keeps

An evaluation changes no override, and what a node keeps for the pass stays. While a node is
generating it has nothing to keep yet (`Evaluation.Fresh`), which is why no value is ever replaced
(`Evaluation.Fresh.step`); and once it keeps a value it does not generate again
(`Evaluation.Keeps.step`).

This holds at every step, so of requests that fail half way, too.
-/

namespace Specimen

open Evaluation

/-- Overrides are the same, and what was kept for the pass is kept. -/
structure Memory.Persists (m m' : Memory) : Prop where
  override : ∀ key, (m'.cell key).override = (m.cell key).override
  cache : ∀ key w, (m.cell key).cache = some w → (m'.cell key).cache = some w

namespace Memory.Persists

theorem refl (m : Memory) : m.Persists m := ⟨fun _ => rfl, fun _ _ h => h⟩

theorem trans {m m' m'' : Memory} (h : m.Persists m') (h' : m'.Persists m'') : m.Persists m'' :=
  ⟨fun key => (h'.override key).trans (h.override key),
    fun key w h_w => h'.cache key w (h.cache key w h_w)⟩

end Memory.Persists

/-- Two memories have the same overrides and keep the same. -/
structure Memory.KeepsSame (m m' : Memory) : Prop where
  override : ∀ key, (m'.cell key).override = (m.cell key).override
  cache : ∀ key, (m'.cell key).cache = (m.cell key).cache

namespace Memory.KeepsSame

variable {m m' : Memory}

theorem persists (h : m.KeepsSame m') : m.Persists m' :=
  ⟨h.override, fun key _ h_w => (h.cache key).trans h_w⟩

theorem symm (h : m.KeepsSame m') : m'.KeepsSame m :=
  ⟨fun key => (h.override key).symm, fun key => (h.cache key).symm⟩

theorem mustCompute (h : m.KeepsSame m') {n : Node} (h_must : n.MustCompute m) : n.MustCompute m' :=
  ⟨(h.override n.key).trans h_must.1, fun h_kind => (h.cache n.key).trans (h_must.2 h_kind)⟩

/-- A change of cells that concerns neither overrides nor what is kept. -/
theorem update (m : Memory) (key : Nat) (change : Cell → Cell)
    (h_change : ∀ c, (change c).override = c.override ∧ (change c).cache = c.cache) :
    m.KeepsSame (m.update key change) where
  override := Memory.cell_update_keeps Cell.override change (fun c => (h_change c).1) m key
  cache := Memory.cell_update_keeps Cell.cache change (fun c => (h_change c).2) m key

theorem begun (m : Memory) (key : Nat) (i : Identity) (c : FieldCase) :
    m.KeepsSame (m.begun key i c) := by
  have h_hold := update m.nextToken key (Cell.hold m.tokens) fun _ => ⟨rfl, rfl⟩
  exact ⟨h_hold.override, h_hold.cache⟩

theorem goesOn (h : m.GoesOn m') : m.KeepsSame m' := ⟨fun key => (h.settled key).2.2, h.cache⟩

end Memory.KeepsSame

/-- The nodes that are generating have no override and keep nothing yet. -/
def Evaluation.Fresh (x : Evaluation) : Prop := ∀ fr ∈ x.stack, fr.node.MustCompute x.memory

section Steps

variable {s : Scope} {Member : Node → Prop} {x y : Evaluation}

/-- A node with another key keeps what it keeps when one finishes. -/
theorem Memory.cell_kept_of_ne {m : Memory} {n : Node} {c : FieldCase} {v : Option String}
    {key : Nat}
    (h : key ≠ n.key) : ((m.update n.key Cell.release).kept n c v).cell key = m.cell key := by
  rw [Memory.kept]
  split
  · rw [Memory.cell_update_of_ne _ _ h]
  · rw [Memory.cell_update_of_ne _ _ h, Memory.cell_update_of_ne _ _ h]

/-- A node keeps the value that it has generated, if it is one that keeps values. -/
theorem Memory.cell_kept_self {m : Memory} {n : Node} {c : FieldCase} {v : Option String} :
    (((m.update n.key Cell.release).kept n c v).cell n.key).override = (m.cell n.key).override ∧
      (((m.update n.key Cell.release).kept n c v).cell n.key).cache =
        if n.kind.isStateless then (m.cell n.key).cache else some (derive c v) := by
  rw [Memory.kept]
  split
  · rw [Memory.cell_update_self]
    exact ⟨rfl, rfl⟩
  · rw [Memory.cell_update_self, Memory.cell_update_self]
    exact ⟨rfl, rfl⟩

/-- When a node that has nothing to keep yet finishes, nothing that was kept is lost. -/
theorem Memory.Persists.kept {m : Memory} {n : Node} (h : n.MustCompute m) (c : FieldCase)
    (v : Option String) : m.Persists ((m.update n.key Cell.release).kept n c v) := by
  -- the node itself has kept nothing before, and the other cells are not touched
  refine ⟨fun key => ?_, fun key w h_w => ?_⟩
  · by_cases h_key : key = n.key
    · subst h_key
      exact Memory.cell_kept_self.1
    · rw [Memory.cell_kept_of_ne h_key]
  · by_cases h_key : key = n.key
    · subst h_key
      rw [Memory.cell_kept_self.2]
      split
      · exact h_w
      · next h_kind =>
        rw [h.2 (by simpa using h_kind)] at h_w
        cases h_w
    · rw [Memory.cell_kept_of_ne h_key]
      exact h_w

/-- **One step.** -/
theorem Evaluation.Fresh.step (h : x.Fresh) (h_guarded : x.Guarded) (h_step : s.Step x y) :
    y.Fresh ∧ x.memory.Persists y.memory := by
  cases h_step with
  | @overridden st n c m values h_override =>
    have h_same := Memory.KeepsSame.update m n.key Cell.use fun _ => ⟨rfl, rfl⟩
    exact ⟨fun fr h_fr => h_same.mustCompute (h fr h_fr), h_same.persists⟩
  | remembered _ _ _ => exact ⟨h, .refl _⟩
  | reentrant _ _ _ => exact ⟨h, fun _ => rfl, fun _ _ h_w => h_w⟩
  -- a node that comes on the stack has to compute, so it keeps nothing
  | @begin st n c m h_must _ =>
    have h_same := Memory.KeepsSame.begun m n.key n.identity (n.computedCase c)
    refine ⟨List.forall_mem_cons.2 ⟨?_, ?_⟩, h_same.persists⟩
    · exact h_same.mustCompute h_must
    · exact fun fr h_fr => h_same.mustCompute (h fr h_fr)
  | move h_move =>
    have h_same := Memory.KeepsSame.goesOn h_move.goesOn
    obtain ⟨h_own, h_rest⟩ := List.forall_mem_cons.1 h
    refine ⟨List.forall_mem_cons.2 ⟨?_, ?_⟩, h_same.persists⟩
    · exact h_same.mustCompute h_own
    · exact fun fr h_fr => h_same.mustCompute (h_rest fr h_fr)
  | @finish st fr v m =>
    obtain ⟨h_own, h_rest⟩ := List.forall_mem_cons.1 h
    refine ⟨fun fr' h_fr' => ?_, .kept h_own fr.asked v⟩
    -- the others have other keys
    have h_ne : fr'.node.key ≠ fr.node.key := fun h_key =>
      (List.nodup_cons.1 h_guarded.keys_nodup).1 (List.mem_map.2 ⟨fr', h_fr', h_key⟩)
    have h_other := h_rest fr' h_fr'
    rw [Node.MustCompute] at h_other ⊢
    rw [Memory.cell_kept_of_ne h_ne]
    exact h_other
  | @fail st fr f m =>
    have h_same := Memory.KeepsSame.update m fr.node.key Cell.release fun _ => ⟨rfl, rfl⟩
    refine ⟨fun fr' h_fr' => ?_, h_same.persists⟩
    exact h_same.mustCompute (h fr' (List.mem_cons_of_mem _ h_fr'))

/-! ### Nodes that keep a value -/

/-- A node has no override and keeps a value for the pass, and is not generating. -/
structure Evaluation.Keeps (n : Node) (w : Option String) (x : Evaluation) : Prop where
  override : (x.memory.cell n.key).override = none
  cache : (x.memory.cell n.key).cache = some w
  off : ∀ fr ∈ x.stack, fr.node ≠ n

/-- A node that finishes keeps a value from then on. -/
theorem Evaluation.Keeps.finish {fr : Frame} {st : List Frame} {v : Option String} {m : Memory}
    (h_kind : fr.node.kind.isStateless = false) (h_fresh : Fresh ⟨fr :: st, .generated v, m⟩)
    (h_guarded : Guarded ⟨fr :: st, .generated v, m⟩) (control : Control) :
    Keeps fr.node (derive fr.asked v)
      ⟨st, control, (m.update fr.node.key Cell.release).kept fr.node fr.asked v⟩ where
  override := Memory.cell_kept_self.1.trans (h_fresh fr List.mem_cons_self).1
  cache := by rw [Memory.cell_kept_self.2, h_kind]; rfl
  off fr' h_fr' h_node := (List.nodup_cons.1 h_guarded.keys_nodup).1
    (List.mem_map.2 ⟨fr', h_fr', congrArg Node.key h_node⟩)

/-- **A node that keeps a value does not generate again.** -/
theorem Evaluation.Keeps.step {n : Node} {w : Option String} (h_kind : n.kind.isStateless = false)
    (h : x.Keeps n w) (h_persists : x.memory.Persists y.memory) (h_step : s.Step x y) :
    y.Keeps n w := by
  refine ⟨(h_persists.override _).trans h.override, h_persists.cache _ _ h.cache, ?_⟩
  cases h_step with
  | overridden _ | remembered _ _ _ | reentrant _ _ _ => exact h.off
  | begin h_must _ =>
    refine List.forall_mem_cons.2 ⟨?_, h.off⟩
    -- what has to compute keeps nothing
    rintro rfl
    cases (h_must.2 h_kind).symm.trans h.cache
  | move _ => exact List.forall_mem_cons.2 (List.forall_mem_cons.1 h.off)
  | finish | fail => exact (List.forall_mem_cons.1 h.off).2

end Steps

end Specimen
