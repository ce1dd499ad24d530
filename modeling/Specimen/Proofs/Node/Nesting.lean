import Specimen.Proofs.Node.Stability

/-!
# What is kept up while nodes ask each other

A node that generates a value changes what it remembers itself, and asks other nodes
(`Scope.Asks`). So whatever both leave alone is the same when it has generated its value
(`Scope.Generates.keeps`), and a fact about all values is shown by looking at single requests.

Among these facts is that the memory goes with a stack (`Memory.HasStack`): the nodes on it hold
tokens and keep nothing yet. While a node generates it is the innermost one of the stack, and when
the nodes that it asks have answered it is so again.
-/

namespace Specimen

open Evaluation

namespace Scope

variable {s : Scope} {R : Asking} {I : Memory → Prop} {n : Node} {c : FieldCase} {m m' : Memory}

/-- A node that generates a value for a case asks another one for a case. -/
inductive Asks (s : Scope) (n : Node) : FieldCase → Node → FieldCase → Prop where
  | link {c link n'} (h_link : link ∈ n.kind.links) (h_target : s.target? link = some n') :
    Asks s n c n' c
  | absent {child rule n'} (h_kind : n.kind = .optional child rule)
    (h_target : s.target? child = some n') : Asks s n .normal n' .null
  | rule {child id n'} (h_kind : n.kind = .optional child (.whenPresent id))
    (h_get : s.nodes.get? id = some n') : Asks s n .normal n' .normal

/-- A node asks only such as it calls. -/
theorem Asks.calls {c' : FieldCase} {n' : Node} (h : s.Asks n c n' c') : s.Calls n n' := by
  cases h with
  | link h_link h_target => exact calls_of_link h_link h_target
  | absent h_kind h_target => exact calls_of_link (h_kind ▸ List.mem_singleton_self _) h_target
  | rule h_kind h_get => exact .inr ⟨_, by rw [h_kind]; rfl, h_get⟩

/-- What every request of a part keeps is kept by all parts. -/
theorem Parts.keeps {links : List Link} {values : List String}
    (h : s.Parts R c links m values m')
    (h_ask : ∀ link ∈ links, ∀ n m v m', s.target? link = some n → R n c m v m' → I m → I m')
    (h_m : I m) : I m' := by
  induction h with
  | nil => exact h_m
  | @cons link links n m v m' values m'' h_target h_part _ ih =>
    obtain ⟨h_first, h_rest⟩ := List.forall_mem_cons.1 h_ask
    exact ih h_rest (h_first n m v m' h_target h_part h_m)

theorem Rules.keeps {rule : Config.Mandatory} {mandatory : Bool}
    (h : s.Rules R rule m mandatory m')
    (h_ask : ∀ id, rule = .whenPresent id → ∀ n m v m', s.nodes.get? id = some n →
      R n .normal m v m' → I m → I m') (h_m : I m) : I m' := by
  cases h with
  | ignoring _ | fixed _ => exact h_m
  | whenPresent _ h_get h_rule => exact h_ask _ rfl _ _ _ _ h_get h_rule h_m

/-- A decision hears the rule, and then concerns the choice only. -/
theorem Decides.keeps {key : Nat} {rule : Config.Mandatory} {present : Bool}
    (h : s.Decides R key rule m present m') (h_own : ∀ m m', m.GoesOn m' → I m → I m')
    (h_ask : ∀ id, rule = .whenPresent id → ∀ n m v m', s.nodes.get? id = some n →
      R n .normal m v m' → I m → I m') (h_m : I m) : I m' := by
  cases h with
  | @mandatory m₁ h_rule =>
    have h_noted : m₁.GoesOn (m₁.update key (Cell.decide true)) :=
      (Memory.GoesOn.refl m₁).update (fun _ => ⟨rfl, rfl, rfl⟩) fun _ => rfl
    exact h_own _ _ h_noted (h_rule.keeps h_ask h_m)
  | @chosen m₁ _ choice draws h_rule _ =>
    have h_noted : m₁.GoesOn (m₁.update key (Cell.decide false)) :=
      (Memory.GoesOn.refl m₁).update (fun _ => ⟨rfl, rfl, rfl⟩) fun _ => rfl
    have h_chosen : m₁.GoesOn (((m₁.update key (Cell.decide false)).withDraws draws).update key
        (Cell.choose choice)) :=
      (h_noted.withDraws draws).update (fun _ => ⟨rfl, rfl, rfl⟩) fun _ => rfl
    exact h_own _ _ h_chosen (h_rule.keeps h_ask h_m)

/-- **What a node keeps up while it generates.** If the changes of its own and those of the nodes
that it asks keep something up, it is still so when the value was generated. -/
theorem Generates.keeps {v : Option String} (h : s.Generates R n c m v m')
    (h_own : ∀ m m', m.GoesOn m' → I m → I m')
    (h_ask : ∀ n' c' m v m', s.Asks n c n' c' → R n' c' m v m' → I m → I m') (h_m : I m) :
    I m' := by
  -- what an optional node hears for its rule, and what it asks its child for
  have h_decided : ∀ {child rule present m'}, n.kind = .optional child rule → c = .normal →
      s.Decides R n.key rule m present m' → I m' := by
    rintro child rule present m' h_kind rfl h_decides
    refine h_decides.keeps h_own ?_ h_m
    rintro id rfl n' m v m' h_get
    exact h_ask n' .normal m v m' (.rule h_kind h_get)
  cases h with
  | constantNull _ | constantBlank _ | optionalNull _ => exact h_m
  | constant _ _ _ => exact h_own _ _ ((Memory.GoesOn.refl m).serve n.key 0) h_m
  | @field f _ _ _ served _ draws _ h_served _ =>
    rw [h_served]
    exact h_own _ _ ((Memory.GoesOn.served m n.key f _).withDraws draws) h_m
  | combined h_kind h_parts =>
    refine h_parts.keeps (fun link h_link n' m v m' h_target => ?_) h_m
    exact h_ask n' c m v m' (.link (h_kind ▸ h_link) h_target)
  | optionalExplicit h_kind _ _ h_target h_child =>
    exact h_ask _ _ _ _ _ (.link (h_kind ▸ List.mem_singleton_self _) h_target) h_child h_m
  | @optionalDecided _ _ _ n' present _ _ _ h_kind h_target h_decides h_child =>
    -- a child that is left out is asked all the same, for null
    have h_asks : s.Asks n .normal n' (if present then .normal else .null) := by
      cases present with
      | true => exact .link (h_kind ▸ List.mem_singleton_self _) h_target
      | false => exact .absent h_kind h_target
    exact h_ask _ _ _ _ _ h_asks h_child (h_decided h_kind rfl h_decides)
  | source h_kind h_target h_child =>
    exact h_ask _ _ _ _ _ (.link (h_kind ▸ List.mem_singleton_self _) h_target) h_child h_m

end Scope

/-! ### Memories and stacks -/

/-- A memory goes with a stack: the nodes on the stack are those that hold a token, and they keep
nothing yet. -/
def Memory.HasStack (m : Memory) (st : List Frame) : Prop :=
  ∀ control, Guarded ⟨st, control, m⟩ ∧ Fresh ⟨st, control, m⟩

namespace Memory.HasStack

variable {s : Scope} {st : List Frame} {n : Node} {c : FieldCase} {m m' : Memory}

theorem intro (control : Control) (h_guarded : Guarded ⟨st, control, m⟩)
    (h_fresh : Fresh ⟨st, control, m⟩) : m.HasStack st :=
  fun _ => ⟨h_guarded.congr (fun _ => ⟨rfl, rfl⟩) (Nat.le_refl _), h_fresh⟩

/-- Where nothing is being evaluated, the stack is empty. -/
theorem start (h_quiet : ∀ key, (m.cell key).token = none ∧ (m.cell key).isVisited = false) :
    m.HasStack [] :=
  intro .go (.start h_quiet .go) fun _ h_fr => absurd h_fr List.not_mem_nil

theorem goesOn (h : m.HasStack st) (h_on : m.GoesOn m') : m'.HasStack st := by
  obtain ⟨h_guarded, h_fresh⟩ := h .go
  have h_same := Memory.KeepsSame.goesOn h_on
  refine intro .go (h_guarded.congr (fun key => ?_) (Nat.le_of_eq h_on.tokens.symm))
    fun fr h_fr => h_same.mustCompute (h_fresh fr h_fr)
  exact ⟨(h_on.settled key).1, (h_on.settled key).2.1⟩

/-- A node that begins to generate comes on the stack. -/
theorem begun (h : m.HasStack st) (h_must : n.MustCompute m)
    (h_token : ∀ held, (m.cell n.key).token = some held → m.tokens ≤ held) :
    (m.begun n.key n.identity (n.computedCase c)).HasStack (⟨n, c, m.tokens, .begun⟩ :: st) := by
  obtain ⟨h_guarded, h_fresh⟩ := h (.ask n c)
  have h_begin : Scope.Step ⟨.empty, false⟩ ⟨st, .ask n c, m⟩
      ⟨⟨n, c, m.tokens, .begun⟩ :: st, .go, m.begun n.key n.identity (n.computedCase c)⟩ :=
    .begin h_must h_token
  exact intro .go (h_guarded.step h_begin) (h_fresh.step h_guarded h_begin).1

/-- The innermost node of the stack still has to compute its value. -/
theorem mustCompute {fr : Frame} (h : m.HasStack (fr :: st)) : fr.node.MustCompute m :=
  (h .go).2 fr List.mem_cons_self

/-- When a node has answered, the stack is the same, and nothing that was kept is lost. -/
theorem value (h : m.HasStack st) {fuel : Nat} {v : Option String}
    (h_value : n.value s fuel c m = (.ok v, m')) : m'.HasStack st ∧ m.Persists m' := by
  obtain ⟨h_guarded, h_fresh⟩ := h (.ask n c)
  have h_steps := (Node.value_steps fuel st n c m).of_ok h_value
  obtain ⟨h_fresh', h_persists⟩ := h_fresh.steps h_guarded h_steps
  exact ⟨intro (.answer v) (h_guarded.steps h_steps) h_fresh', h_persists⟩

/-- Its answer is fixed then. -/
theorem fixed (h : m.HasStack st) (h_constant : m.ConstantOverrides) {fuel : Nat}
    {v : Option String} (h_value : n.value s fuel c m = (.ok v, m')) :
    ∃ hops, s.Fixed m' hops n c v := by
  obtain ⟨h_guarded, h_fresh⟩ := h (.ask n c)
  obtain ⟨hops, -, h_fixed⟩ := Node.value_fixes h_guarded h_fresh h_constant h_value
  exact ⟨hops, h_fixed⟩

end Memory.HasStack

end Specimen
