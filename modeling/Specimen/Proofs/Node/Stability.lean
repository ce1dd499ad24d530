import Specimen.Proofs.Node.Keeping

/-!
# Answers that are fixed

Within a pass the answer of a node to a case is fixed once it was given (`Scope.Fixed`): the node
has an override that always yields the same, or keeps a value, or is a constant; and a source passes
on the fixed answer of the node it leads to, over any number of sources.

* `Node.value_fixes`: an answer is fixed when it is given.
* `Scope.Fixed.persists`: it stays so, whatever is evaluated then.
* `Scope.Fixed.ends_value`: it is given again whenever it is asked for.
-/

namespace Specimen

/-- Each override always yields the same value. -/
def Memory.ConstantOverrides (m : Memory) : Prop :=
  ∀ key values, (m.cell key).override = some values → ∀ i j, values i = values j

theorem Memory.ConstantOverrides.persists {m m' : Memory} (h : m.ConstantOverrides)
    (h_persists : m.Persists m') : m'.ConstantOverrides := by
  intro key values h_values
  exact h key values (h_persists.override key ▸ h_values)

/-- What a request makes of a value, it makes of it again. -/
theorem derive_derive (c : FieldCase) (v : Option String) : derive c (derive c v) = derive c v := by
  cases c with
  | blank =>
    cases v with
    | none => rfl
    | some t => exact congrArg some (Text.blanked_blanked t)
  | _ => rfl

/-- What a constant answers. -/
def constantAnswer (value : String) : FieldCase → Option String
  | .null => none
  | .blank => some (Text.blanked value)
  | _ => some value

theorem ends_constantValue {key : Nat} {value : String} {c : FieldCase} {m : Memory}
    {bad : Failure → Memory → Prop} :
    Ends (constantValue key value c) m (fun v _ => v = constantAnswer value c) bad := by
  cases c <;> exact rfl

namespace Scope

variable {s : Scope} {m m' : Memory} {n : Node} {c : FieldCase} {v : Option String} {hops : Nat}

/-- The answer of a node to a case is fixed, over a number of sources. -/
inductive Fixed (s : Scope) (m : Memory) : Nat → Node → FieldCase → Option String → Prop where
  | overridden {n c values v} (h : (m.cell n.key).override = some values)
    (h_v : ∀ i, values i = v) : Fixed s m 0 n c v
  | kept {n c w} (h : (m.cell n.key).override = none) (h_kind : n.kind.isStateless = false)
    (h_cache : (m.cell n.key).cache = some w) : Fixed s m 0 n c (derive c w)
  | constant {n c value} (h : (m.cell n.key).override = none) (h_kind : n.kind = .constant value) :
    Fixed s m 0 n c (constantAnswer value c)
  | source {n c child n' v hops} (h : (m.cell n.key).override = none)
    (h_kind : n.kind = .source child)
    (h_target : s.target? child = some n') (h_child : Fixed s m hops n' c v) :
    Fixed s m (hops + 1) n c v

/-- What is fixed stays fixed. -/
theorem Fixed.persists (h : s.Fixed m hops n c v) (h_persists : m.Persists m') :
    s.Fixed m' hops n c v := by
  induction h with
  | overridden h h_v => exact .overridden ((h_persists.override _).trans h) h_v
  | kept h h_kind h_cache =>
    exact .kept ((h_persists.override _).trans h) h_kind (h_persists.cache _ _ h_cache)
  | constant h h_kind => exact .constant ((h_persists.override _).trans h) h_kind
  | source h h_kind h_target _ ih =>
    exact .source ((h_persists.override _).trans h) h_kind h_target ih

/-- The number of sources on the way is that of the node. -/
theorem Fixed.hops_unique {hops' : Nat} {v' : Option String} {c' : FieldCase}
    (h : s.Fixed m hops n c v) (h' : s.Fixed m hops' n c' v') : hops = hops' := by
  induction h generalizing hops' with
  | overridden h _ =>
    cases h' with
    | source h_none _ _ _ => cases h.symm.trans h_none
    | _ => rfl
  | kept _ h_kind _ =>
    cases h' with
    | source _ h_source _ _ => rw [h_source] at h_kind; cases h_kind
    | _ => rfl
  | constant _ h_kind =>
    cases h' with
    | source _ h_source _ _ => cases h_kind.symm.trans h_source
    | _ => rfl
  | source h h_kind h_target _ ih =>
    cases h' with
    | overridden h_override _ => cases h.symm.trans h_override
    | kept _ h_stateful _ => rw [h_kind] at h_stateful; cases h_stateful
    | constant _ h_constant => cases h_kind.symm.trans h_constant
    | source _ h_kind' h_target' h_child =>
      cases h_kind.symm.trans h_kind'
      cases h_target.symm.trans h_target'
      exact congrArg Nat.succ (ih h_child)

/-- **One answer.** The answer of a node to a case is fixed to one value only. -/
theorem Fixed.unique {hops' : Nat} {v' : Option String} (h : s.Fixed m hops n c v)
    (h' : s.Fixed m hops' n c v') : v = v' := by
  -- Override, kind and cache decide between the four reasons, so both derivations end alike.
  induction h generalizing hops' with
  | overridden h h_v =>
    cases h' with
    | overridden h_override h_v' =>
      obtain rfl := Option.some.inj (h.symm.trans h_override)
      exact (h_v 0).symm.trans (h_v' 0)
    | kept h_none _ _ => cases h.symm.trans h_none
    | constant h_none _ => cases h.symm.trans h_none
    | source h_none _ _ _ => cases h.symm.trans h_none
  | kept h h_kind h_cache =>
    cases h' with
    | overridden h_override _ => cases h.symm.trans h_override
    | kept _ _ h_cache' => rw [Option.some.inj (h_cache.symm.trans h_cache')]
    | constant _ h_constant => rw [h_constant] at h_kind; cases h_kind
    | source _ h_source _ _ => rw [h_source] at h_kind; cases h_kind
  | constant h h_kind =>
    cases h' with
    | overridden h_override _ => cases h.symm.trans h_override
    | kept _ h_stateful _ => rw [h_kind] at h_stateful; cases h_stateful
    | constant _ h_kind' => rw [NodeKind.constant.inj (h_kind.symm.trans h_kind')]
    | source _ h_source _ _ => cases h_kind.symm.trans h_source
  | source h h_kind h_target _ ih =>
    cases h' with
    | overridden h_override _ => cases h.symm.trans h_override
    | kept _ h_stateful _ => rw [h_kind] at h_stateful; cases h_stateful
    | constant _ h_constant => cases h_kind.symm.trans h_constant
    | source _ h_kind' h_target' h_child =>
      cases h_kind.symm.trans h_kind'
      cases h_target.symm.trans h_target'
      exact ih h_child

end Scope

/-! ### Answers are fixed when they are given -/

section Values

variable {s : Scope} {Member : Node → Prop}

theorem Evaluation.Fresh.steps {x y : Evaluation} (h : x.Fresh) (h_guarded : x.Guarded)
    (h_steps : s.Steps x y) : y.Fresh ∧ x.memory.Persists y.memory := by
  induction h_steps with
  | refl => exact ⟨h, .refl _⟩
  | tail h_before h_step ih =>
    have h_next := ih.1.step (h_guarded.steps h_before) h_step
    exact ⟨h_next.1, ih.2.trans h_next.2⟩

/-- A value that is answered loses nothing of what was kept. -/
theorem Node.value_persists {fuel : Nat} {st : List Evaluation.Frame} {n : Node} {c : FieldCase}
    {m : Memory} (h_guarded : Evaluation.Guarded ⟨st, .ask n c, m⟩)
    (h_fresh : Evaluation.Fresh ⟨st, .ask n c, m⟩) :
    Ends (n.value s fuel c) m (fun _ m' => m.Persists m') Anyhow :=
  (Node.value_steps fuel st n c m).mono (fun _ _ h_steps => (h_fresh.steps h_guarded h_steps).2)
    fun _ _ _ => trivial

/-- A value is come to in one of the ways, in terms of the values of the nodes that are asked. -/
theorem Node.answers_of_value {fuel : Nat} {n : Node} {c : FieldCase} {m m' : Memory}
    {v : Option String} (h : n.value s (fuel + 1) c m = (.ok v, m')) :
    s.Answers (fun n c m v m' => n.value s fuel c m = (.ok v, m')) n c m v m' :=
  (Node.ends_answer (fun _ _ _ => ends_true_iff.2 fun _ _ h_ok => h_ok) n c m).of_ok h

/-- A source asks the node that it leads to. -/
theorem Evaluation.Guarded.source {st : List Evaluation.Frame} {n n' : Node} {c : FieldCase}
    {m : Memory} {child : Link} (h_guarded : Evaluation.Guarded ⟨st, .ask n c, m⟩)
    (h_fresh : Evaluation.Fresh ⟨st, .ask n c, m⟩) (h_override : (m.cell n.key).override = none)
    (h_token : ∀ held, (m.cell n.key).token = some held → m.tokens ≤ held)
    (h_kind : n.kind = .source child) (h_target : s.target? child = some n') :
    ∃ st', Evaluation.Guarded ⟨st', .ask n' c, m.begun n.key n.identity c⟩ ∧
      Evaluation.Fresh ⟨st', .ask n' c, m.begun n.key n.identity c⟩ := by
  have h_stateless : n.kind.isStateless = true := by rw [h_kind]; rfl
  have h_case : n.computedCase c = c := if_pos h_stateless
  have h_begin : s.Step ⟨st, .ask n c, m⟩
      ⟨⟨n, c, m.tokens, .begun⟩ :: st, .go, m.begun n.key n.identity (n.computedCase c)⟩ :=
    .begin ((Node.mustCompute_iff_stateless h_stateless).2 h_override) h_token
  have h_move : s.Step
      ⟨⟨n, c, m.tokens, .begun⟩ :: st, .go, m.begun n.key n.identity (n.computedCase c)⟩
      ⟨⟨n, c, m.tokens, .child⟩ :: st, .ask n' (n.computedCase c),
        m.begun n.key n.identity (n.computedCase c)⟩ :=
    .move (.source h_kind h_target)
  rw [h_case] at h_begin h_move
  have h_steps := (Relation.ReflTransGen.single h_begin).tail h_move
  exact ⟨_, h_guarded.steps h_steps, (h_fresh.steps h_guarded h_steps).1⟩

/-- **An answer is fixed when it is given.** -/
theorem Node.value_fixes {fuel : Nat} {st : List Evaluation.Frame} {n : Node} {c : FieldCase}
    {m m' : Memory} {v : Option String} (h_guarded : Evaluation.Guarded ⟨st, .ask n c, m⟩)
    (h_fresh : Evaluation.Fresh ⟨st, .ask n c, m⟩) (h_constant : m.ConstantOverrides)
    (h_value : n.value s fuel c m = (.ok v, m')) : ∃ hops, hops < fuel ∧ s.Fixed m' hops n c v := by
  -- by induction on the fuel: only a source depends on the answer of another node
  induction fuel generalizing st n c m m' v with
  | zero => cases h_value
  | succ fuel ih =>
    have h_persists := (Node.value_persists h_guarded h_fresh).of_ok h_value
    cases Node.answers_of_value h_value with
    | overridden h_override =>
      refine ⟨0, Nat.succ_pos _, .overridden ((h_persists.override _).trans h_override) fun i => ?_⟩
      exact h_constant _ _ h_override i _
    | remembered h_free h_kind h_cache =>
      exact ⟨0, Nat.succ_pos _, .kept h_free h_kind h_cache⟩
    | @computed w k h_free h_kind h_cache h_computes =>
      -- what is answered is what is kept
      have h_kept :
          s.Fixed (k.update n.key (Cell.keep (derive c w))) 0 n c (derive c (derive c w)) :=
        .kept ((h_persists.override _).trans h_free) h_kind (by rw [Memory.cell_update_self]; rfl)
      rw [derive_derive] at h_kept
      exact ⟨0, Nat.succ_pos _, h_kept⟩
    | stateless h_free h_kind h_computes =>
      have h_free' := (h_persists.override _).trans h_free
      obtain ⟨h_token, h_generates⟩ := h_computes
      cases h_generates with
      | constantNull h_constant => exact ⟨0, Nat.succ_pos _, .constant h_free' h_constant⟩
      | constantBlank h_constant => exact ⟨0, Nat.succ_pos _, .constant h_free' h_constant⟩
      | @constant value c _ h_constant h_null h_blank =>
        have h_answer : constantAnswer value c = some value := by
          cases c with
          | null => exact absurd rfl h_null
          | blank => exact absurd rfl h_blank
          | _ => rfl
        exact ⟨0, Nat.succ_pos _, h_answer ▸ .constant h_free' h_constant⟩
      | source h_source h_target h_ask =>
        obtain ⟨st', h_guarded', h_fresh'⟩ :=
          h_guarded.source h_fresh h_free h_token h_source h_target
        -- the answer of the node it leads to is fixed, and giving back the token changes nothing
        have h_begun := (Memory.KeepsSame.begun m n.key n.identity c).persists
        obtain ⟨hops, h_hops, h_fixed⟩ := ih h_guarded' h_fresh' (h_constant.persists h_begun) h_ask
        refine ⟨hops + 1, Nat.succ_lt_succ h_hops, .source h_free' h_source h_target ?_⟩
        exact h_fixed.persists
          (Memory.KeepsSame.update _ n.key Cell.release fun _ => ⟨rfl, rfl⟩).persists
      | field h_field _ _ => rw [h_field] at h_kind; cases h_kind
      | combined h_combined _ => rw [h_combined] at h_kind; cases h_kind
      | optionalNull h_optional => rw [h_optional] at h_kind; cases h_kind
      | optionalExplicit h_optional _ _ _ _ => rw [h_optional] at h_kind; cases h_kind
      | optionalDecided h_optional _ _ _ => rw [h_optional] at h_kind; cases h_kind

/-! ### Fixed answers are given again -/

/-- The nodes over which an answer is fixed hold no token. -/
def Memory.FreeAlong (s : Scope) (Member : Node → Prop) (m : Memory) (hops : Nat) (c : FieldCase)
    (v : Option String) : Prop :=
  ∀ n hops', Member n → hops' ≤ hops → s.Fixed m hops' n c v → (m.cell n.key).token = none

section Answers

variable {n : Node} {m : Memory} {c : FieldCase} {fuel : Nat}
  {good : Option String → Memory → Prop} {bad : Failure → Memory → Prop}

theorem Node.ends_value_overridden {values : Override} (h : (m.cell n.key).override = some values) :
    Ends (n.value s (fuel + 1) c) m good bad ↔
      good (values (m.cell n.key).used) (m.update n.key Cell.use) := by
  rw [Node.value]
  unfold Node.answer
  split
  · exact ends_stateless_overridden h
  · exact ends_cached_overridden h
  · exact ends_cached_overridden h
  · exact ends_cached_overridden h
  · exact ends_stateless_overridden h

/-- A node that keeps a value makes its answer of it, and nothing changes. -/
theorem Node.ends_value_kept {w : Option String} (h : (m.cell n.key).override = none)
    (h_kind : n.kind.isStateless = false) (h_cache : (m.cell n.key).cache = some w) :
    Ends (n.value s (fuel + 1) c) m good bad ↔ good (derive c w) m := by
  rw [Node.value]
  unfold Node.answer
  split
  · next h_constant => rw [h_constant] at h_kind; cases h_kind
  · exact ends_cached_remembered h h_cache
  · exact ends_cached_remembered h h_cache
  · exact ends_cached_remembered h h_cache
  · next h_source => rw [h_source] at h_kind; cases h_kind

end Answers

/-- While a source waits for the node it leads to, the nodes further on hold no token. -/
theorem Memory.FreeAlong.begun {n : Node} {hops : Nat} {c : FieldCase} {v : Option String}
    {m : Memory}
    (h_apart : ∀ n n', Member n → Member n' → n.key = n'.key → n = n') (h_n : Member n)
    (h : s.Fixed m (hops + 1) n c v) (h_free : m.FreeAlong s Member (hops + 1) c v) :
    (m.begun n.key n.identity c).FreeAlong s Member hops c v := by
  intro n' hops' h_n' h_le h_begun
  have h_same := Memory.KeepsSame.begun m n.key n.identity c
  have h_fixed : s.Fixed m hops' n' c v := h_begun.persists h_same.symm.persists
  -- a node further on has fewer sources to come, so it is another one
  have h_ne : n'.key ≠ n.key := by
    intro h_key
    have h_hops := (h_apart n' n h_n' h_n h_key ▸ h_fixed).hops_unique h
    omega
  rw [Memory.cell_begun_of_ne _ _ _ h_ne]
  exact h_free n' hops' h_n' (Nat.le_succ_of_le h_le) h_fixed

/-- **A fixed answer is given again**, as the nodes on the way to it are all different. -/
theorem Scope.Fixed.ends_value (h_closed : s.Closed Member)
    (h_apart : ∀ n n', Member n → Member n' → n.key = n'.key → n = n') {hops fuel : Nat} {n : Node}
    {c : FieldCase} {v : Option String} {m : Memory} (h : s.Fixed m hops n c v)
    (h_n : Member n) (h_fuel : hops < fuel) (h_free : m.FreeAlong s Member hops c v) :
    Ends (n.value s fuel c) m (fun v' _ => v' = v) fun _ _ => False := by
  induction fuel generalizing hops n m with
  | zero => exact absurd h_fuel (Nat.not_lt_zero _)
  | succ fuel ih =>
    have h_token : ∀ held, (m.cell n.key).token = some held → m.tokens ≤ held := by
      simp [h_free n hops h_n (Nat.le_refl _) h]
    -- the ways in which an answer is fixed are just those in which it is given
    cases h with
    | overridden h_override h_v => exact (Node.ends_value_overridden h_override).2 (h_v _)
    | kept h_override h_kind h_cache => exact (Node.ends_value_kept h_override h_kind h_cache).2 rfl
    | constant h_override h_kind =>
      rw [Node.value, Node.answer, h_kind]
      simp only
      rw [Specimen.ends_stateless h_override, ends_guarded h_token]
      exact Specimen.ends_constantValue
    | @source _ _ child n' _ hops h_override h_kind h_target h_child =>
      have h_fixed : s.Fixed m (hops + 1) n c v := .source h_override h_kind h_target h_child
      have h_same := Memory.KeepsSame.begun m n.key n.identity c
      have h_n' : Member n' :=
        h_closed n n' h_n (Scope.calls_of_link (h_kind ▸ List.mem_singleton_self _) h_target)
      rw [Node.value, Node.answer, h_kind]
      simp only
      rw [Specimen.ends_stateless h_override, ends_guarded h_token, s.resolve_eq h_target,
        pure_bind]
      exact ih (h_child.persists h_same.persists) h_n' (Nat.lt_of_succ_lt_succ h_fuel)
        (h_free.begun h_apart h_n h_fixed)

end Values

end Specimen
